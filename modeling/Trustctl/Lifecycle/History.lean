import Trustctl.Projections.Access
import Trustctl.Projections.Plane
import Mathlib.Data.List.Sort

/-!
# The history of an identity

`lifecycle.go` lists the allowed transitions; a transition is an event of the log, which the
projector records as a row of `identity_transitions` under the sequence of the event.  `History`
reads the rows of an identity in the order of their sequences.

* `apply_transitions`: what an event does to the recorded transitions;
* `history_eq`: rows with ascending sequences that are the recorded ones are the history.
-/

namespace Trustctl.Lifecycle

open Store Relational Projections List Systems

/-! ## The state machine -/

def transitionEvents : List ((String × String) × Lifecycle) := [
  (("requested", "issued"), .issued), (("issued", "deployed"), .deployed),
  (("issued", "revoked"), .revoked), (("deployed", "renewing"), .renewing),
  (("deployed", "revoked"), .revoked), (("renewing", "deployed"), .renewed),
  (("renewing", "revoked"), .revoked), (("revoked", "retired"), .retired)]

def eventTypeFor (fromState toState : String) : Option Lifecycle :=
  transitionEvents.lookup (fromState, toState)

/-- The transitions lead from the state along the edges of the state machine. -/
def IsPath (state : String) : List IdentityTransition → Prop
  | [] => True
  | t :: rest =>
    t.fromState = state ∧ (eventTypeFor t.fromState t.toState).map Lifecycle.type =
      some t.eventType ∧ IsPath t.toState rest

def endState (state : String) : List IdentityTransition → String
  | [] => state
  | t :: rest => endState t.toState rest

theorem isPath_append {state : String} {ts us : List IdentityTransition} :
    IsPath state (ts ++ us) ↔ IsPath state ts ∧ IsPath (endState state ts) us := by
  induction ts generalizing state with
  | nil => simp [IsPath, endState]
  | cons t ts ih => simp only [cons_append, IsPath, endState, ih, and_assoc]

/-! ## Recorded transitions -/

def transition? (e : Event) : Option IdentityTransition :=
  match e.body with
  | .inventory (.identityTransitioned kind pl) =>
    some {
      tenantId := e.tenantId, identityId := pl.identityId, seq := e.sequence,
      fromState := pl.fromState, toState := pl.toState, eventType := kind.type,
      reason := pl.reason, occurredAt := e.time }
  | _ => none

def SameKey (r t : IdentityTransition) : Prop :=
  r.tenantId = t.tenantId ∧ r.identityId = t.identityId ∧ r.seq = t.seq

instance (r t : IdentityTransition) : Decidable (SameKey r t) :=
  inferInstanceAs (Decidable (_ ∧ _ ∧ _))

/-- The transition takes the place of the row of its key. -/
def Recorded (t : Option IdentityTransition) (rows rows' : List IdentityTransition) : Prop :=
  ∀ r, r ∈ rows' ↔ t = some r ∨ (r ∈ rows ∧ ∀ q ∈ t, ¬ SameKey r q)

theorem recorded_none {rows : List IdentityTransition} : Recorded none rows rows := by
  intro r
  simp

variable {db db' : Database Row} {s : Session} {h : Digest} {now : Time} {e : Event}

theorem recorded_append {t : IdentityTransition}
    (ran : run s (appendIdentityTransitionTx t) db = .ok db') :
    Recorded (some t) (db.tables .identityTransitions) (db'.tables .identityTransitions) := by
  have upserted := exec_ok.mp ((run_singleton ..).symm.trans ran)
  intro r
  simp only [Option.some.injEq, Option.mem_def, forall_eq']
  rcases effect_upsert.mp upserted with ⟨⟨old, kept, hit⟩, -, left⟩ | ⟨gone, left⟩
  · rw [← left, setTable_self, mem_updateRows]
    constructor
    · rintro (⟨q, -, same, rfl⟩ | ⟨kept', other⟩)
      · left
        obtain ⟨tenant, ident, seq⟩ := of_decide_eq_true same
        simp [tenant, ident, seq]
      · exact .inr ⟨kept', fun same => by simp [SameKey] at same; simp [same] at other⟩
    · rintro (rfl | ⟨kept', other⟩)
      · left
        obtain ⟨tenant, ident, seq⟩ := of_decide_eq_true hit
        exact ⟨old, kept, hit, by simp [tenant, ident, seq]⟩
      · exact .inr ⟨kept', decide_eq_false other⟩
  · rw [← left, setTable_self]
    constructor
    · intro mem
      rcases mem_append.mp mem with old | new
      · exact .inr ⟨old, of_decide_eq_false (gone r old)⟩
      · exact .inl (mem_singleton.mp new).symm
    · rintro (rfl | ⟨kept, -⟩)
      · exact mem_append_right _ (mem_singleton_self _)
      · exact mem_append_left _ kept

def offboards (e : Event) : Bool :=
  match e.body with
  | .tenantOffboarded => true
  | _ => false

/-- The transaction of an event records its transition, and no other. -/
theorem applyTx_transitions {p : Sink e.tenantId} (sunk : applyTx h now e = .ok p)
    (ran : run s p db = .ok db') :
    Recorded (transition? e) (db.tables .identityTransitions)
      (db'.tables .identityTransitions) := by
  have confined := applyTx_confined sunk
  have apart (unlisted : ∀ a ∈ e.accesses, a.table ≠ .identityTransitions) :
      Recorded none (db.tables .identityTransitions) (db'.tables .identityTransitions) := by
    rw [run_frame ran (confined.apart unlisted)]
    exact recorded_none
  obtain ⟨-, -, payload⟩ := bind_ok.mp sunk
  unfold transition?
  unfold Event.accesses at apart
  generalize e.body = b at payload apart
  cases b with
  | inventory b =>
    cases b with
    | identityTransitioned kind pl =>
      cases payload
      obtain ⟨mid, first, second⟩ := run_append_ok.mp ran
      have unread : mid.tables .identityTransitions = db.tables .identityTransitions :=
        run_frame first (by simp [setIdentityStatusTx, Stmt.footprint])
      rw [← unread]
      exact recorded_append second
    | _ => exact apart (by simp [InventoryEvent.accesses, Access.table])
  | authority b =>
    exact apart (by cases b <;> simp [AuthorityEvent.accesses, Access.table])
  | operations b =>
    exact apart (by cases b <;> simp [OperationsEvent.accesses, Access.table])
  | governance b =>
    exact apart (by cases b <;> simp [GovernanceEvent.accesses, Access.table])
  | privacy b =>
    exact apart (by cases b <;> simp [PrivacyEvent.accesses, redactedTables, Access.table])
  | tenantRegistered | tenantOffboarded | raw =>
    exact apart (by simp)

/-- An event that offboards no tenant records its transition, and no other. -/
theorem apply_transitions (done : apply h now e db = .ok db') (stays : offboards e = false) :
    Recorded (transition? e) (db.tables .identityTransitions)
      (db'.tables .identityTransitions) := by
  cases apply_cases done with
  | registered name body ran =>
    rw [transition?, body, run_frame ran (by simp [upsertTenant, Stmt.footprint])]
    exact recorded_none
  | offboarded p body sunk ran => simp [offboards, body] at stays
  | projected p sunk ran => exact applyTx_transitions sunk ran

/-! ## Reading -/

def bySeq (r t : IdentityTransition) : Prop := r.seq ≤ t.seq

instance : DecidableRel bySeq := fun r t => inferInstanceAs (Decidable (r.seq ≤ t.seq))

instance : Std.Total bySeq := ⟨fun r t => Nat.le_total r.seq t.seq⟩

instance : IsTrans IdentityTransition bySeq := ⟨fun _ _ _ => Nat.le_trans⟩

def ofIdentity (τ id : Uuid) (r : IdentityTransition) : Bool := r.tenantId = τ && r.identityId = id

def history (tables : Tables Row) (τ id : Uuid) : List IdentityTransition :=
  ((tables .identityTransitions).filter (ofIdentity τ id)).insertionSort bySeq

theorem inventoryUniques_hold (db : Database Row) : ∀ c ∈ inventoryUniques, c.holds db.tables := by
  intro c mem
  refine all_eq_true.mp db.valid c ?_
  simp only [Schema.constraints, constraints, mem_append, mem, true_or]

theorem transitionKeys_nodup (db : Database Row) :
    ((db.tables .identityTransitions).map fun (r : IdentityTransition) =>
      (r.tenantId, r.identityId, r.seq)).Nodup := by
  have holds := inventoryUniques_hold db
  simp only [inventoryUniques, forall_mem_cons] at holds
  exact Constraint.nodup_of_holds holds.2.2.2.2.1

variable {τ id : Uuid}

theorem mem_history {tables : Tables Row} {r : IdentityTransition} :
    r ∈ history tables τ id ↔ r ∈ tables .identityTransitions ∧ ofIdentity τ id r := by
  rw [history, (perm_insertionSort ..).mem_iff, mem_filter]

/-- A sequence names one transition of an identity. -/
theorem eq_of_mem_history {r t : IdentityTransition} (mem : r ∈ history db.tables τ id)
    (mem' : t ∈ history db.tables τ id) (same : r.seq = t.seq) : r = t := by
  obtain ⟨kept, here⟩ := mem_history.mp mem
  obtain ⟨kept', here'⟩ := mem_history.mp mem'
  simp only [ofIdentity, Bool.and_eq_true, decide_eq_true_eq] at here here'
  refine inj_on_of_nodup_map (transitionKeys_nodup db) kept kept' ?_
  rw [here.1, here.2, here'.1, here'.2, same]

theorem history_nodup (db : Database Row) (τ id : Uuid) : (history db.tables τ id).Nodup :=
  (perm_insertionSort ..).nodup_iff.mpr ((transitionKeys_nodup db).of_map.filter _)

/-- Rows with ascending sequences that are the recorded ones of the identity are its history. -/
theorem history_eq {ts : List IdentityTransition} (asc : ts.Pairwise fun r t => r.seq < t.seq)
    (mems : ∀ r, r ∈ ts ↔ r ∈ db.tables .identityTransitions ∧ ofIdentity τ id r) :
    history db.tables τ id = ts := by
  have distinct : ts.Nodup := asc.imp fun less same => absurd (congrArg _ same) less.ne
  have perm : (history db.tables τ id).Perm ts := by
    refine (perm_ext_iff_of_nodup (history_nodup db τ id) distinct).mpr fun r => ?_
    rw [mem_history, mems]
  refine perm.eq_of_pairwise (fun r t mem mem' less more => ?_) (pairwise_insertionSort ..)
    (asc.imp Nat.le_of_lt)
  exact eq_of_mem_history mem (perm.mem_iff.mpr mem') (Nat.le_antisymm less more)

end Trustctl.Lifecycle
