import Trustctl.Outbox.Queue
import Trustctl.Systems.Run

/-!
# Workers on the outbox

Any number of workers run `Dispatch` against one table, each any number of calls at a time.  A call
claims a row in one transaction, delivers it, and records the outcome in a second one; between the
two the process may stop, the database may fail, and the lease may run out.

`World.step` is one transaction, or the end of a call that never records its outcome.
-/

namespace Trustctl.Outbox

open List Option Store
open Relational (updateRows mem_updateRows)

/-- The table and the claims made on it. -/
structure World where
  rows : List Row := []
  nextId : Nat := 1
  /-- Every claim so far, the oldest first; no call reads another's. -/
  made : List Claim := []
  /-- The positions of the claims whose outcome is still to be recorded. -/
  outstanding : List Nat := []
  /-- The clock at the last transaction. -/
  clock : Time := 0

/-- One transaction, or the loss of a call. -/
inductive Action
  | enqueue (tenantId : Uuid) (destination : String) (now : Time)
  | claimOne (worker : String) (cutoff : Time) (x : Exclusions) (now : Time)
  | finalizeClaim (n : Nat) (outcome : Outcome) (now : Time)
  /-- The call that holds the claim stops before the second transaction commits. -/
  | drop (n : Nat)
  | done (tenantId : Uuid) (destination : String) (id : Nat) (now : Time)
  | requeue (tenantId : Uuid) (id : Nat) (now : Time)
  | sweep (cutoff now : Time)

def Action.now? : Action → Option Time
  | .enqueue _ _ now | .claimOne _ _ _ now | .finalizeClaim _ _ now | .done _ _ _ now
  | .requeue _ _ now | .sweep _ now => some now
  | .drop _ => none

namespace World

def claim (w : World) : List Row × Option Claim → World
  | (rows, none) => { w with rows }
  | (rows, some c) =>
    { w with rows, made := w.made ++ [c], outstanding := w.outstanding ++ [w.made.length] }

/-- The table after a transaction. -/
def perform (cfg : Config) (w : World) : Action → Option World
  | .enqueue tenantId destination now =>
    some { w with
      rows := enqueue tenantId destination w.nextId now w.rows, nextId := w.nextId + 1 }
  | .claimOne worker cutoff x now => some (w.claim (claimOne cfg worker cutoff now x w.rows))
  | .finalizeClaim n outcome now =>
    if n ∈ w.outstanding then
      (w.made[n]?).map fun c =>
        { w with
          rows := (finalizeClaim cfg c outcome now w.rows).toOption.getD w.rows
          outstanding := w.outstanding.filter (· ≠ n) }
    else none
  | .drop n => some { w with outstanding := w.outstanding.filter (· ≠ n) }
  | .done tenantId destination id now =>
    some { w with rows := done tenantId destination id now w.rows }
  | .requeue tenantId id now => some { w with rows := requeueNotification tenantId id now w.rows }
  | .sweep cutoff _ => some { w with rows := sweep cutoff w.rows }

def step (cfg : Config) (w : World) (act : Action) : Option World :=
  (w.perform cfg act).map fun w' => { w' with clock := act.now?.getD w.clock }

/-- The claim at position `n` is the last one of its row. -/
def Latest (w : World) (n : Nat) : Prop :=
  ∀ m c c', n < m → w.made[n]? = some c → w.made[m]? = some c' → c'.id ≠ c.id

end World

/-- One step, with what it found. -/
inductive Moves (cfg : Config) (w : World) : Action → World → Prop
  | enqueued {tenantId : Uuid} {destination : String} {now : Time} :
    Moves cfg w (.enqueue tenantId destination now) { w with
      rows := enqueue tenantId destination w.nextId now w.rows, nextId := w.nextId + 1
      clock := now }
  | idle {worker : String} {cutoff now : Time} {x : Exclusions}
      (none : (claimOne cfg worker cutoff now x w.rows).2 = none) :
    Moves cfg w (.claimOne worker cutoff x now) { w with rows := recover now w.rows, clock := now }
  | claimed {worker : String} {cutoff now : Time} {x : Exclusions} {o : Row} {c : Claim}
      (found : o ∈ recover now w.rows)
      (ready : eligible cfg cutoff now x (recover now w.rows) o)
      (claim : c = { id := o.id, tenantId := o.tenantId, destination := o.destination,
                     attempts := o.attempts + 1, workerId := worker })
      (chosen : (claimOne cfg worker cutoff now x w.rows).2 = some c) :
    Moves cfg w (.claimOne worker cutoff x now) { w with
      rows := updateRows (fun r => r.id = o.id) (Row.claimedBy cfg worker now) (recover now w.rows)
      made := w.made ++ [c], outstanding := w.outstanding ++ [w.made.length], clock := now }
  | finalized {n : Nat} {outcome : Outcome} {now : Time} {c : Claim} (held : n ∈ w.outstanding)
      (claim : w.made[n]? = some c) (one : w.rows.countP c.holds = 1) :
    Moves cfg w (.finalizeClaim n outcome now) { w with
      rows := updateRows c.holds (outcome.record cfg c now) w.rows
      outstanding := w.outstanding.filter (· ≠ n), clock := now }
  | lost {n : Nat} {outcome : Outcome} {now : Time} {c : Claim} (held : n ∈ w.outstanding)
      (claim : w.made[n]? = some c) (other : w.rows.countP c.holds ≠ 1) :
    Moves cfg w (.finalizeClaim n outcome now) { w with
      outstanding := w.outstanding.filter (· ≠ n), clock := now }
  | dropped {n : Nat} : Moves cfg w (.drop n) { w with outstanding := w.outstanding.filter (· ≠ n) }
  | finished {tenantId : Uuid} {destination : String} {id : Nat} {now : Time} :
    Moves cfg w (.done tenantId destination id now) { w with
      rows := done tenantId destination id now w.rows, clock := now }
  | requeued {tenantId : Uuid} {id : Nat} {now : Time} :
    Moves cfg w (.requeue tenantId id now) { w with
      rows := requeueNotification tenantId id now w.rows, clock := now }
  | swept {cutoff now : Time} :
    Moves cfg w (.sweep cutoff now) { w with rows := sweep cutoff w.rows, clock := now }

variable {cfg : Config} {w w' : World} {act : Action}

theorem step_moves (moved : w.step cfg act = some w') : Moves cfg w act w' := by
  obtain ⟨mid, ran, rfl⟩ := map_eq_some_iff.mp moved
  cases act with
  | enqueue tid dest now =>
    cases ran
    exact .enqueued
  | claimOne worker cutoff x now =>
    cases ran
    match result : claimOne cfg worker cutoff now x w.rows with
    | (rows, none) =>
      obtain ⟨rfl, -⟩ := claimOne_eq_none result
      exact .idle (by rw [result])
    | (rows, some c) =>
      obtain ⟨o, hit, ready, claim, rfl⟩ := claimOne_eq_some result
      exact .claimed hit ready claim (by rw [result])
  | finalizeClaim n out now =>
    obtain ⟨held, ran⟩ := ite_none_right_eq_some.mp ran
    obtain ⟨c, claim, rfl⟩ := map_eq_some_iff.mp ran
    by_cases one : w.rows.countP c.holds = 1
    · have noted : finalizeClaim cfg c out now w.rows =
          .ok (updateRows c.holds (out.record cfg c now) w.rows) := if_pos one
      rw [noted]
      exact .finalized held claim one
    · have refused : finalizeClaim cfg c out now w.rows = .error (leaseLost c out) :=
        if_neg one
      rw [refused]
      exact .lost held claim one
  | drop n =>
    cases ran
    exact .dropped
  | done tid dest id now =>
    cases ran
    exact .finished
  | requeue tid id now =>
    cases ran
    exact .requeued
  | sweep cutoff now =>
    cases ran
    exact .swept

/-- The database draws every id once. -/
structure World.Ids (w : World) : Prop where
  unique : (w.rows.map Row.id).Nodup
  drawn : ∀ r ∈ w.rows, r.id < w.nextId
  claimed : ∀ c ∈ w.made, c.id < w.nextId

namespace World.Ids

/-- A step that draws no id and claims nothing keeps a part of the ids. -/
theorem keep (ids : w.Ids) (sub : (w'.rows.map Row.id).Sublist (w.rows.map Row.id))
    (next : w'.nextId = w.nextId) (made : w'.made = w.made) : w'.Ids where
  unique := ids.unique.sublist sub
  drawn := by
    intro r mem
    obtain ⟨q, kept, same⟩ := mem_map.mp (sub.subset (mem_map_of_mem mem))
    rw [next, ← same]
    exact ids.drawn q kept
  claimed := by
    rw [made, next]
    exact ids.claimed

theorem step (ids : w.Ids) (moves : Moves cfg w act w') : w'.Ids := by
  cases moves with
  | @enqueued tid dest now =>
    refine ⟨?_, ?_, fun c mem => Nat.lt_succ_of_lt (ids.claimed c mem)⟩
    · rw [enqueue, map_append]
      refine nodup_append.mpr ⟨ids.unique, nodup_singleton _, ?_⟩
      intro i old j fresh same
      obtain ⟨r, stored, rfl⟩ := mem_map.mp old
      rw [map_singleton, mem_singleton] at fresh
      exact absurd (same.trans fresh) (Nat.ne_of_lt (ids.drawn r stored))
    · refine Systems.forall_mem_snoc (fun r old => Nat.lt_succ_of_lt (ids.drawn r old)) ?_
      exact Nat.lt_succ_self _
  | idle | finalized | finished | requeued => exact ids.keep (by simp) rfl rfl
  | @claimed worker cutoff now x o c hit ready claim chosen =>
    have kept : (updateRows (fun r => decide (r.id = o.id)) (Row.claimedBy cfg worker now)
        (recover now w.rows)).map Row.id = w.rows.map Row.id :=
      (ids_claimed _ _).trans (ids_recover now w.rows)
    have drawn : ∀ i ∈ w.rows.map Row.id, i < w.nextId := by
      simpa using ids.drawn
    refine ⟨by rw [kept]; exact ids.unique, ?_, ?_⟩
    · intro r mem
      exact drawn _ (kept ▸ mem_map_of_mem mem)
    · intro d mem
      rcases Systems.mem_snoc.mp mem with old | rfl
      · exact ids.claimed d old
      · rw [claim]
        exact drawn _ (ids_recover now w.rows ▸ mem_map_of_mem hit)
  | lost | dropped => exact ids.keep (.refl _) rfl rfl
  | swept => exact ids.keep (filter_sublist.map _) rfl rfl

end World.Ids

end Trustctl.Outbox
