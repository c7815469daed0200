import Trustctl.Projections.Access
import Trustctl.Projections.Plane

/-!
# What the events of one tenant do to others

A registration runs without row-level security and every other event with it.  Two keys have no
tenant, `replaces_id` and `ceremony_id`, so only the `ON DELETE` actions of an offboarding can
reach rows of another tenant.
-/

namespace Trustctl.Projections

open Store Relational Systems List

variable {h : Digest} {now : Time} {e : Event} {db db' : Database Row} {u : Uuid}

theorem apply_foreign (done : apply h now e db = .ok db') (stays : e.body ≠ .tenantOffboarded)
    (ne : u ≠ e.tenantId) : slice u db'.tables = slice u db.tables := by
  cases apply_cases done with
  | registered name body ran =>
    -- without row-level security, but the conflict is on the tenant itself
    obtain ⟨mid, ran, ⟨⟩⟩ := run_cons_ok.mp ran
    have change : Change e.tenantId (some .tenants) db.tables db'.tables := by
      rcases effect_upsert.mp (exec_ok.mp ran) with ⟨-, -, left⟩ | ⟨-, left⟩
      · exact left ▸ .rewrote _ _ _ (fun _ _ hit => hit) fun _ => rfl
      · exact left ▸ .added _ _ rfl rfl
    exact change.foreign ne
  | offboarded p body => exact absurd body stays
  | projected p sunk ran =>
    refine run_foreign (fun stmt mem => ?_) ran ne
    exact Stmt.plain_of_confined (all_eq_true.mp (applyTx_confined sunk) stmt mem)

/-- The step applies no event of the tenant and offboards none. -/
def Plane.foreign (u : Uuid) (σ : Plane) (a : Action) : Bool :=
  (σ.applies a).all fun e => u ≠ e.tenantId && !(e.body matches .tenantOffboarded)

theorem Plane.step_foreign {σ σ' : Plane} {a : Action} (meets : σ.foreign u a)
    (moved : σ.step h now a = some σ') :
    slice u σ'.model.db.tables = slice u σ.model.db.tables := by
  rcases step_db moved with same | ⟨e, applies, done⟩
  · rw [same]
  · rw [foreign, applies, Option.all_some, Bool.and_eq_true] at meets
    refine apply_foreign done (fun body => ?_) (of_decide_eq_true meets.1)
    simp [body] at meets

/-- In every run of the three writers that applies no event of a tenant and offboards none, every
row of the tenant stays as it is. -/
theorem tenants_isolated {σ σ' : Plane} {as : List Action}
    (run : Run (Plane.step h now) (fun σ a => Plane.foreign u σ a) σ as σ') :
    slice u σ'.model.db.tables = slice u σ.model.db.tables :=
  run.invariant (I := fun x => slice u x.model.db.tables = slice u σ.model.db.tables)
    (fun _ _ _ meets moved same => (Plane.step_foreign meets moved).trans same) rfl

/-- Another tenant asks for the same change. -/
def othersRequest : Event := { accessRequested with id := "e9", tenantId := "u" }

/-- The request of the other tenant is settled, and then that of the first one. -/
def othersFirst : List Action := [.append othersRequest, .inline 1, .tail .acknowledged]

def requestAfter : List Action :=
  [.append accessRequested, .inline 2, .tail .acknowledged, .boot, .catchUp]

/-- The other tenant has one request, before and after the request of the first tenant. -/
theorem request_leaves_others : ∃ σ σ' : Plane,
    execute (Plane.step plainDigest 1) {} othersFirst = some σ ∧
      execute (Plane.step plainDigest 1) σ requestAfter = some σ' ∧
      (slice "u" σ.model.db.tables .accessChangeRequests).length = 1 ∧
      (slice "t" σ'.model.db.tables .accessChangeRequests).length = 1 ∧
      slice "u" σ'.model.db.tables = slice "u" σ.model.db.tables := by
  have before : execute (Plane.step plainDigest 1) {} othersFirst = some _ := rfl
  have ran : executeIf (Plane.step plainDigest 1) (Plane.foreign "u")
    ((execute (Plane.step plainDigest 1) {} othersFirst).getD {}) requestAfter = some _ := rfl
  exact ⟨_, _, before, rfl, rfl, rfl, tenants_isolated (run_of_executeIf ran)⟩

/-- Once a tenant is offboarded, no table has a row of it in any run that applies none of its events
and offboards no other tenant. -/
theorem offboarded_stays_erased {σ σ' : Plane} {as : List Action}
    (erased : e.body = .tenantOffboarded) (done : apply h now e db = .ok σ.model.db)
    (run : Run (Plane.step h now) (fun σ a => Plane.foreign e.tenantId σ a) σ as σ') (t : Table) :
    slice e.tenantId σ'.model.db.tables t = [] := by
  refine run.invariant (I := fun x => slice e.tenantId x.model.db.tables t = [])
    (fun _ _ _ meets moved old => (congrFun (Plane.step_foreign meets moved) t).trans old) ?_
  unfold apply at done
  rw [erased] at done
  obtain ⟨p, sunk, ran⟩ := perform_ok.mp done
  obtain ⟨-, -, sunk⟩ := bind_ok.mp sunk
  exact offboardTenant_erases sunk ran t

/-- The tenant of the request is offboarded. -/
def offboarding : List Event :=
  [accessRequested, { accessRequested with body := .tenantOffboarded }]

def offboardedPlane : Plane :=
  { model := ⟨(project plainDigest 1 offboarding .empty).toOption.getD .empty, 2⟩ }

set_option maxRecDepth 8000 in
/-- The tenant has no rows after its offboarding, nor after the request of another tenant. -/
theorem requester_erased : ∃ σ : Plane,
    project plainDigest 1 offboarding .empty = .ok offboardedPlane.model.db ∧
      execute (Plane.step plainDigest 1) offboardedPlane othersFirst = some σ ∧
      (slice "u" σ.model.db.tables .accessChangeRequests).length = 1 ∧
      ∀ t, slice "t" σ.model.db.tables t = [] := by
  have ran : project plainDigest 1 offboarding .empty = .ok offboardedPlane.model.db := rfl
  obtain ⟨mid, -, rest⟩ := bind_ok.mp ran
  obtain ⟨last, done, same⟩ := bind_ok.mp rest
  cases same
  have after : executeIf (Plane.step plainDigest 1) (Plane.foreign "t") offboardedPlane
    othersFirst = some _ := rfl
  exact ⟨_, ran, rfl, rfl, offboarded_stays_erased rfl done (run_of_executeIf after)⟩

/-! ## Catch-up -/

/-- What a catch-up over the events leaves: all of them applied and covered by the checkpoint, or
those before one that fails, which the checkpoint stays behind. -/
inductive CaughtUp (h : Digest) (now : Time) (db : Database Row) (evs : List Event) :
    ReadModel × Option (Fault ApplyError) → Prop
  | complete {m' : ReadModel} (applied : project h now evs db = .ok m'.db)
      (covered : ∀ e ∈ evs, e.sequence ≤ m'.checkpoint) : CaughtUp h now db evs (m', none)
  | failed (before : List Event) {rest : List Event} {e : Event} {m' : ReadModel}
      {fault : Fault ApplyError} (split : evs = before ++ e :: rest)
      (applied : project h now before db = .ok m'.db) (fails : apply h now e m'.db = .error fault)
      (behind : ∀ e' ∈ e :: rest, m'.checkpoint < e'.sequence) :
      CaughtUp h now db evs (m', some fault)

theorem CaughtUp.cons {evs : List Event} {r : ReadModel × Option (Fault ApplyError)}
    (done : apply h now e db = .ok db') (later : CaughtUp h now db' evs r)
    (last : r.2 = none → e.sequence ≤ r.1.checkpoint) : CaughtUp h now db (e :: evs) r := by
  cases later with
  | complete applied covered =>
    exact .complete (bind_ok.mpr ⟨_, done, applied⟩) (forall_mem_cons.mpr ⟨last rfl, covered⟩)
  | failed before split applied fails behind =>
    refine .failed (e :: before) (congrArg (e :: ·) split) ?_ fails behind
    exact bind_ok.mpr ⟨_, done, applied⟩

theorem catchUpFrom_spec {evs : List Event} {last since : Nat} {m : ReadModel}
    (sorted : evs.Pairwise (·.sequence < ·.sequence))
    (above : ∀ e ∈ evs, last < e.sequence ∧ m.checkpoint < e.sequence) :
    CaughtUp h now m.db evs (catchUpFrom h now last since evs m) ∧
      ((catchUpFrom h now last since evs m).2 = none →
        last ≤ (catchUpFrom h now last since evs m).1.checkpoint) := by
  induction evs generalizing last since m with
  | nil =>
    unfold catchUpFrom
    split
    · exact ⟨.complete rfl (forall_mem_nil _), fun _ => Nat.le_max_right ..⟩
    · exact ⟨.complete rfl (forall_mem_nil _), fun _ => by omega⟩
  | cons e rest ih =>
    obtain ⟨next, sorted⟩ := pairwise_cons.mp sorted
    obtain ⟨first, later⟩ := forall_mem_cons.mp above
    unfold catchUpFrom
    split
    case h_1 fault fails =>
      exact ⟨.failed [] rfl rfl fails fun e' mem => (above e' mem).2, nofun⟩
    case h_2 db done =>
      split
      · have ⟨others, reached⟩ := @ih e.sequence 0 (ReadModel.advance { m with db } e.sequence)
          sorted fun e' mem => ⟨next e' mem, Nat.max_lt.mpr ⟨(later e' mem).2, next e' mem⟩⟩
        refine ⟨others.cons done reached, fun ok => ?_⟩
        have covered := reached ok
        omega
      · have ⟨others, reached⟩ := @ih e.sequence (since + 1) { m with db } sorted
          fun e' mem => ⟨next e' mem, (later e' mem).2⟩
        refine ⟨others.cons done reached, fun ok => ?_⟩
        have covered := reached ok
        omega

/-- A catch-up, with its batched checkpoints, leaves what `Project` makes of the events after the
checkpoint, or of those before the first that fails; it never moves the checkpoint to an event it
did not apply. -/
theorem catchUp_loses_nothing {log : List Event} {m : ReadModel}
    (sorted : log.Pairwise (·.sequence < ·.sequence)) :
    CaughtUp h now m.db (log.filter fun e => m.checkpoint < e.sequence)
      (projectCatchUp h now log m) := by
  refine (catchUpFrom_spec (sorted.filter _) fun e mem => ?_).1
  have above := of_decide_eq_true (mem_filter.mp mem).2
  exact ⟨Nat.zero_lt_of_lt above, above⟩

/-- The same approver decides twice, after the request of another tenant. -/
def decidedTwice : List Event :=
  [othersRequest, accessRequested.numbered 2, accessApproved.numbered 3, accessApproved.numbered 4]

/-- A catch-up after the request of the other tenant applies two events and stops at the second
decision. -/
theorem catchUp_stops_at_decision : ∃ db m fault,
    project plainDigest 1 [othersRequest] .empty = .ok db ∧
      projectCatchUp plainDigest 1 decidedTwice ⟨db, 1⟩ = (m, some fault) ∧
      CaughtUp plainDigest 1 db (decidedTwice.drop 1) (m, some fault) := by
  have sorted : decidedTwice.Pairwise (·.sequence < ·.sequence) := by
    simp [decidedTwice, othersRequest, accessRequested, accessApproved, Event.numbered]
  exact ⟨_, _, _, rfl, rfl, @catchUp_loses_nothing plainDigest 1 decidedTwice ⟨_, 1⟩ sorted⟩

end Trustctl.Projections
