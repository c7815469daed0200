import Trustctl.Lifecycle.History
import Trustctl.Systems.Table

/-!
# Concurrent transitions

`transition` reads the status of the identity, looks its edge up, appends the event and applies it.
Neither the append nor the projection compares the state it leaves from with the state it was read
in.

`World.step` is one step of one of any number of calls, or of the writers around them.

* `history_is_path`: as long as a call reads the status of an identity only when all its transitions
  are applied and no other call is about to append one, its history is a path of the state machine;
* `two_leave_deployed`: two calls read the same status, and the history forks.
-/

namespace Trustctl.Lifecycle

open Store Relational Projections List Systems

/-! ## The system -/

def getIdentity (tables : Tables Row) (τ id : Uuid) : Option Identity :=
  (tables .identities).find? fun (r : Identity) => r.tenantId = τ ∧ r.id = id

/-- A call between the lookup of its edge and its append. -/
structure Call where
  tenantId : Uuid
  identityId : Uuid
  fromState : String
  toState : String
  kind : Projections.Lifecycle

/-- The event of the call; only a request with a key has the newer version of the payload. -/
def Call.event (c : Call) (id reason : String) (keyed : Bool) (time : Time) (timeSet : time ≠ 0) :
    Event where
  id := id
  tenantId := c.tenantId
  sequence := 0
  time := time
  schemaVersion := if keyed then 2 else 0
  timeSet := timeSet
  body := .inventory (.identityTransitioned c.kind
    { identityId := c.identityId, fromState := c.fromState, toState := c.toState, reason })

structure World where
  plane : Plane := {}
  calls : Table Nat Call := []

inductive Action
  /-- The call reads the identity and looks the edge up. -/
  | read (n : Nat) (τ id : Uuid) (toState : String)
  | append (n : Nat) (id reason : String) (keyed : Bool) (time : Time) (timeSet : time ≠ 0)
  /-- The call is lost before its append. -/
  | quit (n : Nat)
  /-- A writer applies an event, or another command appends one. -/
  | plane (a : Projections.Action)

/-- Another command than a transition or an offboarding. -/
def plain : Projections.Action → Bool
  | .append e => (transition? e).isNone && !offboards e
  | _ => true

namespace World

def tables (w : World) : Tables Row := w.plane.model.db.tables

def step (h : Digest) (now : Time) (w : World) : Action → Option World
  | .read n τ id toState =>
    match w.calls.get n, getIdentity w.tables τ id with
    | none, some r =>
      match eventTypeFor r.status toState with
      | some kind => some { w with calls := w.calls.put n ⟨τ, id, r.status, toState, kind⟩ }
      | none => none
    | _, _ => none
  | .append n id reason keyed time timeSet =>
    match w.calls.get n with
    | some c =>
      (w.plane.step h now (.append (c.event id reason keyed time timeSet))).map fun plane =>
        { plane, calls := w.calls.drop n }
    | none => none
  | .quit n => some { w with calls := w.calls.drop n }
  | .plane a =>
    if plain a then (w.plane.step h now a).map fun plane => { w with plane } else none

def life (w : World) (τ id : Uuid) : List IdentityTransition :=
  (w.plane.log.filterMap transition?).filter (ofIdentity τ id)

/-- A call reads an identity when no other call is about to append a transition of it, and the
projection of the identity has caught up with the log. -/
def fenced (w : World) : Action → Bool
  | .read _ τ id _ =>
    (w.calls.all fun e => !(e.2.tenantId = τ && e.2.identityId = id)) && ((w.life τ id).all fun t =>
        (w.tables .identityTransitions).any fun r => decide (SameKey r t)) &&
      (getIdentity w.tables τ id).all fun r => r.status = endState "requested" (w.life τ id)
  | _ => true

end World

/-! ## What a run keeps -/

variable {h : Digest} {now : Time} {w w' : World} {a : Action} {τ id : Uuid}

/-- The log numbers its events, and the recorded transitions are those of its events. -/
structure World.Logged (w : World) : Prop where
  ascending : w.plane.log.Pairwise fun e e' => e.sequence < e'.sequence
  bounded : ∀ e ∈ w.plane.log, e.sequence ≤ w.plane.log.length
  stays : ∀ e ∈ w.plane.log, offboards e = false
  queued : w.plane.Queued
  stored : ∀ r ∈ w.tables .identityTransitions, ∃ e ∈ w.plane.log, transition? e = some r

variable {e : Event}

theorem seq_of_transition {t : IdentityTransition} (noted : transition? e = some t) :
    t.seq = e.sequence := by
  unfold transition? at noted
  split at noted
  · cases noted
    rfl
  · cases noted

theorem World.mem_life {t : IdentityTransition} : t ∈ w.life τ id ↔
    (∃ e ∈ w.plane.log, transition? e = some t) ∧ ofIdentity τ id t := by
  unfold World.life
  rw [mem_filter, mem_filterMap]

theorem transition?_numbered (e : Event) (n : Nat) :
    transition? (e.numbered n) = (transition? e).map fun t => { t with seq := n } := by
  unfold transition? Event.numbered
  dsimp only
  split <;> rfl

theorem World.life_append {plane : Plane} {calls : Table Nat Call}
    (log : plane.log = w.plane.log ++ [e]) :
    World.life { plane, calls } τ id =
      w.life τ id ++ (transition? e).toList.filter (ofIdentity τ id) := by
  unfold World.life
  rw [log, filterMap_append, filter_append]
  cases recorded : transition? e with
  | none | some => simp [recorded]

namespace World.Logged

variable (logged : w.Logged)

include logged

theorem eq_of_key {r t : IdentityTransition} {e e' : Event} (mem : e ∈ w.plane.log)
    (mem' : e' ∈ w.plane.log) (noted : transition? e = some r)
    (noted' : transition? e' = some t) (same : SameKey r t) : r = t := by
  have seq : e.sequence = e'.sequence := by
    rw [← seq_of_transition noted, ← seq_of_transition noted']
    exact same.2.2
  have ne : (w.plane.log.map fun e => e.sequence).Nodup :=
    pairwise_map.mpr (logged.ascending.imp Nat.ne_of_lt)
  have event : e = e' := inj_on_of_nodup_map ne mem mem' seq
  rw [event, noted'] at noted
  exact (Option.some.inj noted).symm

theorem life_ascending (τ id : Uuid) : (w.life τ id).Pairwise fun r t => r.seq < t.seq := by
  refine Pairwise.filter _ (Pairwise.filterMap _ ?_ logged.ascending)
  intro e e' less r noted t noted'
  rw [seq_of_transition noted, seq_of_transition noted']
  exact less

theorem withCalls (calls : Table Nat Call) : World.Logged { w with calls } :=
  ⟨logged.ascending, logged.bounded, logged.stays, logged.queued, logged.stored⟩

/-- The recorded transitions only grow, when an event of the log is applied. -/
theorem apply {db : Database Row} (mem : e ∈ w.plane.log)
    (done : Projections.apply h now e w.plane.model.db = .ok db) :
    ∀ r, r ∈ db.tables .identityTransitions ↔
      transition? e = some r ∨ r ∈ w.tables .identityTransitions := by
  intro r
  have noted := apply_transitions done (logged.stays e mem) r
  refine noted.trans ⟨fun either => either.imp_right And.left, fun either => ?_⟩
  rcases either with own | kept
  · exact .inl own
  · by_cases replaced : ∃ q, transition? e = some q ∧ SameKey r q
    · obtain ⟨q, own, same⟩ := replaced
      obtain ⟨e', mem', noted'⟩ := logged.stored r kept
      rw [logged.eq_of_key mem' mem noted' own same]
      exact .inl own
    · exact .inr ⟨kept, fun q own same => replaced ⟨q, own, same⟩⟩

theorem write {b : Projections.Action} {plane : Plane} (moved : w.plane.step h now b = some plane)
    (idle : ∀ e, b ≠ .append e) :
    World.Logged { w with plane } ∧ plane.log = w.plane.log ∧
      ∀ r ∈ w.tables .identityTransitions, r ∈ plane.model.db.tables .identityTransitions := by
  have log := Plane.step_log moved idle
  have grows :
    (∀ r ∈ w.tables .identityTransitions, r ∈ plane.model.db.tables .identityTransitions) ∧
      ∀ r ∈ plane.model.db.tables .identityTransitions, ∃ e ∈ w.plane.log,
        transition? e = some r := by
    rcases Plane.step_db moved with same | ⟨e, applies, done⟩
    · rw [same]
      exact ⟨fun _ kept => kept, logged.stored⟩
    · have mem := logged.queued.applies applies
      refine ⟨fun r kept => (logged.apply mem done r).mpr (.inr kept), fun r kept => ?_⟩
      rcases (logged.apply mem done r).mp kept with own | old
      · exact ⟨e, mem, own⟩
      · exact logged.stored r old
  refine ⟨⟨?_, ?_, ?_, logged.queued.step moved, ?_⟩, log, grows.1⟩
  · exact log ▸ logged.ascending
  · exact log ▸ logged.bounded
  · exact log ▸ logged.stays
  · exact log ▸ grows.2

theorem append {plane : Plane} (stays : offboards e = false)
    (moved : w.plane.step h now (.append e) = some plane) (calls : Table Nat Call) :
    World.Logged { plane, calls } ∧
      plane.log = w.plane.log ++ [e.numbered (w.plane.log.length + 1)] ∧
      plane.model = w.plane.model := by
  have queued := logged.queued.step moved
  cases moved
  refine ⟨⟨?_, ?_, ?_, queued, ?_⟩, rfl, rfl⟩
  · refine pairwise_append.mpr ⟨logged.ascending, pairwise_singleton .., ?_⟩
    intro e' mem e'' last
    rw [mem_singleton.mp last]
    exact Nat.lt_succ_of_le (logged.bounded e' mem)
  · intro e' mem
    rw [length_append]
    rcases mem_snoc.mp mem with old | rfl
    · exact (logged.bounded e' old).trans (Nat.le_add_right ..)
    · exact le_rfl
  · refine forall_mem_snoc logged.stays ?_
    exact stays
  · intro r kept
    obtain ⟨e', mem, noted⟩ := logged.stored r kept
    exact ⟨e', mem_append_left _ mem, noted⟩

end World.Logged

/-- Every transition of the identity in the log is recorded. -/
def World.CaughtUp (w : World) (τ id : Uuid) : Prop :=
  ∀ t ∈ w.life τ id, t ∈ w.tables .identityTransitions

/-- What a run of fenced steps keeps: the log is a path for every identity, all but its last
transition is recorded, and a call that is about to append one continues the path. -/
structure World.Paths (w : World) : Prop extends w.Logged where
  path : ∀ τ id, IsPath "requested" (w.life τ id)
  recorded : ∀ τ id ts t, w.life τ id = ts ++ [t] → ∀ u ∈ ts, u ∈ w.tables .identityTransitions
  calling : ∀ e ∈ w.calls,
    e.2.fromState = endState "requested" (w.life e.2.tenantId e.2.identityId) ∧
    eventTypeFor e.2.fromState e.2.toState = some e.2.kind ∧
    w.CaughtUp e.2.tenantId e.2.identityId
  single : ∀ e ∈ w.calls, ∀ e' ∈ w.calls, e.2.tenantId = e'.2.tenantId →
    e.2.identityId = e'.2.identityId → e.1 = e'.1

namespace World.Paths

theorem init : World.Paths {} where
  ascending := .nil
  bounded := by
    intro e mem
    cases mem
  stays := by
    intro e mem
    cases mem
  queued := by
    intro c run
    cases run
  stored := by
    intro r stored
    cases (show r ∈ ([] : List IdentityTransition) from stored)
  path := fun _ _ => trivial
  recorded := by
    intro τ id ts t split
    cases ts <;> cases split
  calling := by
    intro e mem
    cases mem
  single := by
    intro e mem
    cases mem

variable (paths : w.Paths)

include paths

/-- The recorded transitions of an identity are those of the log, but for the last one. -/
theorem history (τ id : Uuid) : IsPath "requested" (Lifecycle.history w.tables τ id) := by
  have asc := paths.life_ascending τ id
  have path := paths.path τ id
  have mems : ∀ r, r ∈ w.tables .identityTransitions ∧ ofIdentity τ id r →
      r ∈ w.life τ id := fun r kept => World.mem_life.mpr ⟨paths.stored r kept.1, kept.2⟩
  have own : ∀ r ∈ w.life τ id, ofIdentity τ id r :=
    fun r mem => (World.mem_life.mp mem).2
  rcases eq_nil_or_concat (w.life τ id) with empty | ⟨ts, t, split⟩
  · rw [empty] at mems
    rw [World.tables, history_eq Pairwise.nil fun r => ⟨nofun, mems r⟩]
    trivial
  · rw [concat_eq_append] at split
    have noted := paths.recorded τ id ts t split
    by_cases last : t ∈ w.tables .identityTransitions
    · -- all are recorded
      rw [World.tables, history_eq asc fun r => ⟨fun mem => ⟨?_, own r mem⟩, mems r⟩]
      · exact path
      · rw [split] at mem
        rcases mem_snoc.mp mem with early | rfl
        · exact noted r early
        · exact last
    · -- the last one is not
      rw [split] at asc path mems own
      have early : ∀ r, r ∈ ts ↔ r ∈ w.tables .identityTransitions ∧ ofIdentity τ id r := by
        intro r
        refine ⟨fun mem => ⟨noted r mem, own r (mem_append_left _ mem)⟩, fun kept => ?_⟩
        rcases mem_snoc.mp (mems r kept) with mem | rfl
        · exact mem
        · exact absurd kept.1 last
      rw [World.tables, history_eq (pairwise_append.mp asc).1 early]
      exact (isPath_append.mp path).1

/-- Nothing of the kept facts is lost when the transitions of the log stay and no call is added. -/
theorem keep (logged : w'.Logged) (life : ∀ τ id, w'.life τ id = w.life τ id)
    (rows : ∀ r ∈ w.tables .identityTransitions, r ∈ w'.tables .identityTransitions)
    (calls : ∀ e ∈ w'.calls, e ∈ w.calls) : w'.Paths where
  toLogged := logged
  path := fun τ id => life τ id ▸ paths.path τ id
  recorded := by
    intro τ id ts t split u mem
    rw [life] at split
    exact rows u (paths.recorded τ id ts t split u mem)
  calling := by
    intro e mem
    obtain ⟨state, edge, caught⟩ := paths.calling e (calls e mem)
    rw [life]
    refine ⟨state, edge, fun t mem' => rows t (caught t ?_)⟩
    rwa [life] at mem'
  single := fun e mem e' mem' => paths.single e (calls e mem) e' (calls e' mem')

theorem plane {b : Projections.Action} {plane : Plane} (plain : plain b)
    (moved : w.plane.step h now b = some plane) : World.Paths { w with plane } := by
  cases b with
  | append e =>
    simp only [Lifecycle.plain, Bool.and_eq_true, Option.isNone_iff_eq_none, Bool.not_eq_true']
      at plain
    obtain ⟨logged, log, model⟩ := paths.append plain.2 moved w.calls
    refine paths.keep logged (fun τ id => ?_) (fun r kept => ?_) fun _ mem => mem
    · rw [life_append log, transition?_numbered, plain.1]
      exact append_nil _
    · rw [World.tables, model]
      exact kept
  | inline | abandon | tail | boot | catchUp =>
    obtain ⟨logged, log, rows⟩ := paths.write moved (by intro e same; cases same)
    refine paths.keep logged (fun τ id => ?_) rows fun _ mem => mem
    rw [World.life, World.life, log]

theorem read {n : Nat} {r : Identity} {toState : String} {kind : Projections.Lifecycle}
    (fenced : w.fenced (.read n τ id toState)) (hit : getIdentity w.tables τ id = some r)
    (edge : eventTypeFor r.status toState = some kind) :
    World.Paths { w with calls := w.calls.put n ⟨τ, id, r.status, toState, kind⟩ } := by
  simp only [World.fenced, hit, Bool.and_eq_true, all_eq_true, Bool.not_eq_true',
    Bool.and_eq_false_iff, decide_eq_false_iff_not, any_eq_true, decide_eq_true_eq, Option.all_some]
    at fenced
  obtain ⟨⟨alone, noted⟩, state⟩ := fenced
  have caught : w.CaughtUp τ id := by
    intro t mem
    obtain ⟨q, kept, same⟩ := noted t mem
    obtain ⟨⟨e, logged, own⟩, -⟩ := World.mem_life.mp mem
    obtain ⟨e', logged', own'⟩ := paths.stored q kept
    rw [← paths.eq_of_key logged' logged own' own same]
    exact kept
  refine ⟨paths.withCalls _, paths.path, paths.recorded, ?_, ?_⟩
  · intro e mem
    rcases Table.mem_put.mp mem with rfl | ⟨old, -⟩
    · exact ⟨state, edge, caught⟩
    · exact paths.calling e old
  · intro e mem e' mem' tenant ident
    rcases Table.mem_put.mp mem with rfl | ⟨old, -⟩
    · rcases Table.mem_put.mp mem' with rfl | ⟨old', -⟩
      · rfl
      · exact absurd ident.symm ((alone e' old').resolve_left (absurd tenant.symm))
    · rcases Table.mem_put.mp mem' with rfl | ⟨old', -⟩
      · exact absurd ident ((alone e old).resolve_left (absurd tenant))
      · exact paths.single e old e' old' tenant ident

/-- A call appends its transition, which continues the path of its identity; no other call is about
to append one of the same identity. -/
theorem call {n : Nat} {c : Call} {eid why : String} {keyed : Bool} {time : Time}
    {timeSet : time ≠ 0} {plane : Plane} (hit : w.calls.get n = some c)
    (moved : w.plane.step h now (.append (c.event eid why keyed time timeSet)) = some plane) :
    World.Paths { plane, calls := w.calls.drop n } := by
  have mine := Table.mem_of_get hit
  obtain ⟨state, edge, caught⟩ := paths.calling (n, c) mine
  obtain ⟨logged, log, model⟩ := paths.append rfl moved (w.calls.drop n)
  have rows : World.tables { plane, calls := w.calls.drop n } = w.tables :=
    congrArg (fun m : ReadModel => m.db.tables) model
  have life : ∀ τ id, World.life { plane, calls := w.calls.drop n } τ id = w.life τ id ++ _ :=
    fun τ id => World.life_append log
  -- the identity of the call, and any other
  have own : World.life { plane, calls := w.calls.drop n } c.tenantId c.identityId =
      w.life c.tenantId c.identityId ++
        [⟨c.tenantId, c.identityId, w.plane.log.length + 1, c.fromState, c.toState,
          c.kind.type, why,
          time⟩] := by
    rw [life]
    simp [transition?, Event.numbered, Call.event, ofIdentity]
  have other : ∀ τ id, ¬ (c.tenantId = τ ∧ c.identityId = id) →
      World.life { plane, calls := w.calls.drop n } τ id = w.life τ id := by
    intro τ id differs
    rw [life]
    simpa [transition?, Event.numbered, Call.event, ofIdentity] using differs
  refine ⟨logged, fun τ id => ?_, fun τ id ts t split u mem => ?_, fun e mem => ?_, ?_⟩
  · by_cases same : c.tenantId = τ ∧ c.identityId = id
    · obtain ⟨rfl, rfl⟩ := same
      rw [own, isPath_append]
      exact ⟨paths.path _ _, state, congrArg (Option.map Projections.Lifecycle.type) edge, trivial⟩
    · rw [other τ id same]
      exact paths.path τ id
  · rw [rows]
    by_cases same : c.tenantId = τ ∧ c.identityId = id
    · obtain ⟨rfl, rfl⟩ := same
      rw [own] at split
      obtain ⟨rfl, -⟩ := append_inj' split rfl
      exact caught u mem
    · rw [other τ id same] at split
      exact paths.recorded τ id ts t split u mem
  · obtain ⟨old, differs⟩ := Table.mem_drop.mp mem
    have apart : ¬ (c.tenantId = e.2.tenantId ∧ c.identityId = e.2.identityId) := by
      rintro ⟨tenant, ident⟩
      exact differs (paths.single e old (n, c) mine tenant.symm ident.symm)
    rw [World.CaughtUp, rows, other _ _ apart]
    exact paths.calling e old
  · intro e mem e' mem'
    exact paths.single e (Table.mem_drop.mp mem).1 e' (Table.mem_drop.mp mem').1

theorem step (fenced : w.fenced a) (moved : w.step h now a = some w') : w'.Paths := by
  cases a with
  | read n τ id toState =>
    dsimp only [World.step] at moved
    split at moved
    next r _ hit =>
      split at moved
      next kind edge =>
        cases moved
        exact paths.read fenced hit edge
      next => cases moved
    next => cases moved
  | append n id why keyed time timeSet =>
    dsimp only [World.step] at moved
    split at moved
    next c hit =>
      obtain ⟨plane, added, rfl⟩ := Option.map_eq_some_iff.mp moved
      exact paths.call hit added
    next => cases moved
  | quit n =>
    cases moved
    exact paths.keep (paths.withCalls _) (fun _ _ => rfl) (fun _ kept => kept)
      fun e mem => (Table.mem_drop.mp mem).1
  | plane b =>
    obtain ⟨plain, moved⟩ := Option.ite_none_right_eq_some.mp moved
    obtain ⟨plane, stepped, rfl⟩ := Option.map_eq_some_iff.mp moved
    exact paths.plane plain stepped

end World.Paths

/-! ## Runs -/

/-- In every run of any number of concurrent calls in which a call reads an identity only when its
projection has caught up with the log and no other call is about to append a transition of it: the
history of every identity is a path of the state machine from `requested`. -/
theorem history_is_path {h : Digest} {now : Time} {acts : List Action} {w : World}
    (run : Run (World.step h now) (fun w a => w.fenced a) {} acts w) (τ id : Uuid) :
    IsPath "requested" (history w.tables τ id) := by
  have paths : w.Paths :=
    run.invariant (fun _ _ _ fenced moved paths => paths.step fenced moved) .init
  exact paths.history τ id

def ownerCreated : Event where
  id := "e1"
  tenantId := "t"
  sequence := 0
  time := 1
  timeSet := Nat.one_ne_zero
  body := .inventory (.ownerCreated "o" "team" "platform" "")

def identityCreated : Event where
  id := "e2"
  tenantId := "t"
  sequence := 0
  time := 1
  timeSet := Nat.one_ne_zero
  body := .inventory (.identityCreated "i" "x509" "web" "o" none none)

/-- A command appends an event, and applies it under the sequence. -/
def commanded (e : Event) (seq : Nat) : List Action := [.plane (.append e), .plane (.inline seq)]

/-- A call appends the transition of an edge that it looked up, and applies it. -/
def appended (n seq : Nat) : List Action :=
  [.append n "e" "" false 1 Nat.one_ne_zero, .plane (.inline seq)]

def deployed : List Action :=
  commanded ownerCreated 1 ++ commanded identityCreated 2 ++
    .read 0 "t" "i" "issued" :: appended 0 3 ++ .read 0 "t" "i" "deployed" :: appended 0 4

/-- An identity is issued and deployed. -/
theorem deployed_is_path : ∃ w,
    executeIf (World.step plainDigest 0) World.fenced {} deployed = some w ∧
      (history w.tables "t" "i").map IdentityTransition.toState = ["issued", "deployed"] ∧
      IsPath "requested" (history w.tables "t" "i") := by
  have ran : executeIf (World.step plainDigest 0) World.fenced {} deployed = some _ := rfl
  exact ⟨_, ran, rfl, history_is_path (run_of_executeIf ran) "t" "i"⟩

/-- Two calls read the deployed identity; one renews it, the other revokes it. -/
theorem two_leave_deployed : ∃ w, execute (World.step plainDigest 0) {}
        (deployed ++ [.read 0 "t" "i" "renewing", .read 1 "t" "i" "revoked"] ++
          appended 0 5 ++ appended 1 6) = some w ∧
      (history w.tables "t" "i").map (fun t => (t.fromState, t.toState)) =
        [("requested", "issued"), ("issued", "deployed"), ("deployed", "renewing"),
          ("deployed", "revoked")] ∧
      ¬ IsPath "requested" (history w.tables "t" "i") := by
  refine ⟨(execute (World.step plainDigest 0) {}
    (deployed ++ [.read 0 "t" "i" "renewing", .read 1 "t" "i" "revoked"] ++
      appended 0 5 ++ appended 1 6)).get rfl, (Option.some_get _).symm, by decide +kernel, ?_⟩
  rintro ⟨-, -, -, -, -, -, fork, -⟩
  exact absurd fork (by decide +kernel)

end Trustctl.Lifecycle
