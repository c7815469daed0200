import Trustctl.Relational.Replay
import Trustctl.Store.Values

/-!
# The outbox table

The transactions that the dispatcher of `outbox.go` runs on the table `outbox`: claiming one due row
under a lease, and recording the outcome of its delivery.  The other writers of the table are an
enqueue, the operator's requeue of a dead notification, the workers of dynamic and synchronised
secrets, which mark their rows delivered, and the retention sweep.

* `claimOne_eq_some`: what a claim found and what it leaves;
* `finalizeClaim_eq_ok`: when the outcome is recorded, and what it leaves.
-/

namespace Trustctl.Outbox

open List Store
open Relational (updateRows mem_updateRows)

/-! ## Rows -/

inductive Status
  | pending
  | processing
  | delivered
  | failed
deriving DecidableEq

/-- The columns of `outbox` that the dispatcher reads or writes, the message apart. -/
structure Row where
  id : Nat
  tenantId : Uuid
  destination : String
  status : Status := .pending
  attempts : Nat := 0
  lastError : Option String := none
  nextAttemptAt : Time
  workerId : Option String := none
  leaseUntil : Option Time := none
  deliveredAt : Option Time := none
deriving DecidableEq

/-- `circuitKey`. -/
structure Key where
  tenantId : Uuid
  destination : String
deriving DecidableEq

def Row.key (r : Row) : Key := ⟨r.tenantId, r.destination⟩

/-- `(r.next_attempt_at, r.id) < (o.next_attempt_at, o.id)`. -/
def Row.before (r o : Row) : Bool :=
  r.nextAttemptAt < o.nextAttemptAt || (r.nextAttemptAt = o.nextAttemptAt && r.id < o.id)

/-- The lease of a row that is being processed is over. -/
def Row.expired (now : Time) (r : Row) : Bool :=
  r.status = .processing && r.leaseUntil.any fun l => l ≤ now

/-- A row that is being processed under a lease. -/
def Row.leased (now : Time) (r : Row) : Bool :=
  r.status = .processing && r.leaseUntil.any fun l => now < l

/-- A nanosecond count. -/
abbrev Duration := Int

structure Config where
  backoff : Nat → Duration
  maxAttempts : Nat := 10
  leaseTtl : Nat := 30000000000
  maxInFlightPerDestination : Nat := 1
  maxInFlightPerTenant : Nat := 2

/-! ## Claiming -/

/-- `claimedOutboxEntry`, with the worker that made the claim. -/
structure Claim where
  id : Nat
  tenantId : Uuid
  destination : String
  attempts : Nat
  workerId : String
deriving DecidableEq

def Claim.key (c : Claim) : Key := ⟨c.tenantId, c.destination⟩

/-- What the arguments of a claim exclude: the tenants and destinations seen in the round, and the
keys whose circuit blocks them. -/
structure Exclusions where
  seenTenants : List Uuid := []
  seenDestinations : List String := []
  blocked : List Key := []

def Exclusions.admits (x : Exclusions) (o : Row) : Bool :=
  !x.seenTenants.contains o.tenantId && !x.seenDestinations.contains o.destination &&
    !x.blocked.contains o.key

/-- The recovery of expired leases. -/
def Row.release (r : Row) : Row :=
  { r with status := .pending, workerId := none, leaseUntil := none }

def recover (now : Time) (rows : List Row) : List Row :=
  updateRows (Row.expired now) Row.release rows

def Row.due (cutoff : Time) (r : Row) : Bool := r.status = .pending && r.nextAttemptAt ≤ cutoff

/-- The two counting subqueries. -/
def underCaps (cfg : Config) (now : Time) (rows : List Row) (o : Row) : Bool :=
  rows.countP (fun p => p.leased now && p.destination = o.destination) <
      cfg.maxInFlightPerDestination &&
    rows.countP (fun p => p.leased now && p.tenantId = o.tenantId) < cfg.maxInFlightPerTenant

/-- The `WHERE` clause of the candidates. -/
def eligible (cfg : Config) (cutoff now : Time) (x : Exclusions) (rows : List Row) (o : Row) :
    Bool :=
  o.due cutoff && x.admits o && underCaps cfg now rows o &&
    !rows.any fun p => p.due cutoff && p.key = o.key && p.before o

/-- The first candidate in the order of `next_attempt_at` and `id`. -/
def candidate (cfg : Config) (cutoff now : Time) (x : Exclusions) (rows : List Row) : Option Row :=
  rows.find? fun o => eligible cfg cutoff now x rows o &&
    rows.all fun p => !eligible cfg cutoff now x rows p || !p.before o

/-- The `UPDATE` of the candidate. -/
def Row.claimedBy (cfg : Config) (worker : String) (now : Time) (r : Row) : Row :=
  { r with
    status := .processing, attempts := r.attempts + 1, workerId := some worker,
    leaseUntil := some (now + cfg.leaseTtl), lastError := none }

def claimOne (cfg : Config) (worker : String) (cutoff now : Time) (x : Exclusions)
    (rows : List Row) :
    List Row × Option Claim :=
  let rows := recover now rows
  match candidate cfg cutoff now x rows with
  | none => (rows, none)
  | some o =>
    (updateRows (fun r => r.id = o.id) (Row.claimedBy cfg worker now) rows,
      some { id := o.id, tenantId := o.tenantId, destination := o.destination,
             attempts := o.attempts + 1, workerId := worker })

/-! ## Finalising -/

/-- `retryDelay`, with the value the jitter returned. -/
def retryDelay (cfg : Config) (attempts : Nat) (jittered : Duration) : Duration :=
  let base := cfg.backoff attempts
  if base ≤ 0 then 0
  else if jittered < 0 then 0
  else if base < jittered then base
  else jittered

/-- The row is still leased to the worker of the claim. -/
def Claim.holds (c : Claim) (r : Row) : Bool :=
  r.id = c.id && r.tenantId = c.tenantId && r.status = .processing && r.workerId = some c.workerId

/-- The `UPDATE` after a failed delivery. -/
def Claim.recordFailure (cfg : Config) (c : Claim) (text : String) (now : Time)
    (jittered : Duration)
    (r : Row) : Row :=
  { r with
    lastError := some text
    nextAttemptAt := now + (retryDelay cfg c.attempts jittered).toNat
    status := if cfg.maxAttempts ≤ c.attempts then .failed else .pending
    workerId := none
    leaseUntil := none }

/-- The `UPDATE` after a delivery; `now` is the clock of the database. -/
def recordDelivery (now : Time) (r : Row) : Row :=
  { r with
    status := .delivered, deliveredAt := some now, lastError := none, workerId := none,
    leaseUntil := none }

inductive Outcome
  | delivered
  | failed (text : String) (jittered : Duration)

def Outcome.word : Outcome → String
  | .delivered => "delivery"
  | .failed .. => "failure"

/-- What `finalizeClaim` reports when the row is no longer its own. -/
def leaseLost (c : Claim) (outcome : Outcome) : String :=
  "orchestrator: finalize outbox " ++ outcome.word ++ ": lease for row " ++ toString c.id ++
    " was lost"

def Outcome.record (cfg : Config) (c : Claim) (now : Time) : Outcome → Row → Row
  | .delivered => recordDelivery now
  | .failed text jittered => c.recordFailure cfg text now jittered

def finalizeClaim (cfg : Config) (c : Claim) (outcome : Outcome) (now : Time) (rows : List Row) :
    Except String (List Row) :=
  if rows.countP c.holds = 1 then .ok (updateRows c.holds (outcome.record cfg c now) rows)
  else .error (leaseLost c outcome)

/-! ## The other writers -/

/-- `Enqueue`, with the id and the time the database draws. -/
def enqueue (tenantId : Uuid) (destination : String) (id : Nat) (now : Time) (rows : List Row) :
    List Row :=
  rows ++ [{ id, tenantId, destination, nextAttemptAt := now }]

/-- `Done` of the queues of dynamic and synchronised secrets, on the row of the secret. -/
def done (tenantId : Uuid) (destination : String) (id : Nat) (now : Time) (rows : List Row) :
    List Row :=
  updateRows (fun r => r.id = id && r.tenantId = tenantId && r.destination = destination &&
    r.status ≠ .delivered) (recordDelivery now) rows

/-- `RequeueNotificationOutbox`, where it changes the row. -/
def requeueNotification (tenantId : Uuid) (id : Nat) (now : Time) (rows : List Row) : List Row :=
  updateRows (fun r => r.id = id && r.tenantId = tenantId &&
      "notification.".toList.isPrefixOf r.destination.toList && r.status = .failed)
    (fun r => { r with
      status := .pending, attempts := 0, nextAttemptAt := now, workerId := none,
      leaseUntil := none }) rows

/-- The sweep of the retention worker. -/
def sweep (cutoff : Time) (rows : List Row) : List Row :=
  rows.filter fun r => !(r.status = .delivered && r.deliveredAt.any fun t => t < cutoff)

/-! ## What the transactions find and leave -/

variable {cfg : Config} {worker : String} {cutoff now : Time} {x : Exclusions}
  {rows rows' : List Row}
  {r o : Row} {c : Claim} {outcome : Outcome}

theorem eligible_iff : eligible cfg cutoff now x rows o ↔
    o.due cutoff ∧ x.admits o ∧ underCaps cfg now rows o ∧
      ∀ p ∈ rows, p.due cutoff → p.key = o.key → p.before o = false := by
  unfold eligible
  simp only [Bool.and_eq_true, Bool.not_eq_true', any_eq_false, decide_eq_true_eq, and_assoc,
    not_and, Bool.not_eq_true]

/-- A claim found an eligible row among those left by the recovery, and took it. -/
theorem claimOne_eq_some (claimed : claimOne cfg worker cutoff now x rows = (rows', some c)) :
    ∃ o ∈ recover now rows, eligible cfg cutoff now x (recover now rows) o ∧
      c = { id := o.id, tenantId := o.tenantId, destination := o.destination,
            attempts := o.attempts + 1, workerId := worker } ∧
      rows' = updateRows (fun r => r.id = o.id) (Row.claimedBy cfg worker now)
        (recover now rows) := by
  unfold claimOne at claimed
  dsimp only at claimed
  split at claimed
  next => cases claimed
  next o hit =>
    cases claimed
    have chosen := find?_some hit
    rw [Bool.and_eq_true] at chosen
    exact ⟨o, List.mem_of_find?_eq_some hit, chosen.1, rfl, rfl⟩

/-- A claim that found none leaves the recovered rows, and no row is eligible. -/
theorem claimOne_eq_none (claimed : claimOne cfg worker cutoff now x rows = (rows', none)) :
    rows' = recover now rows ∧ candidate cfg cutoff now x (recover now rows) = none := by
  unfold claimOne at claimed
  dsimp only at claimed
  split at claimed
  next gone =>
    cases claimed
    exact ⟨rfl, gone⟩
  next => cases claimed

/-- An outcome is recorded on the one row that the worker of the claim still holds. -/
theorem finalizeClaim_eq_ok : finalizeClaim cfg c outcome now rows = .ok rows' ↔
    rows.countP c.holds = 1 ∧ rows' = updateRows c.holds (outcome.record cfg c now) rows := by
  unfold finalizeClaim
  split
  next one => simp [one, eq_comm]
  next other => simp [other]

theorem Claim.holds_iff : c.holds r ↔
    r.id = c.id ∧ r.tenantId = c.tenantId ∧ r.status = .processing ∧
      r.workerId = some c.workerId := by
  unfold Claim.holds
  simp only [Bool.and_eq_true, decide_eq_true_eq, and_assoc]

/-! ## Ids -/

@[simp] theorem Outcome.record_id (cfg : Config) (c : Claim) (now : Time) (outcome : Outcome)
    (r : Row) : (outcome.record cfg c now r).id = r.id := by
  cases outcome <;> rfl

theorem ids_updateRows {cond : Row → Bool} {set : Row → Row} (keeps : ∀ r, (set r).id = r.id) :
    (updateRows cond set rows).map Row.id = rows.map Row.id := by
  unfold updateRows
  rw [map_map]
  refine map_congr_left fun r _ => ?_
  dsimp only [Function.comp_apply]
  split
  · exact keeps r
  · rfl

@[simp] theorem ids_recover (now : Time) (rows : List Row) :
    (recover now rows).map Row.id = rows.map Row.id :=
  ids_updateRows fun _ => rfl

@[simp] theorem ids_claimed (cond : Row → Bool) (rows : List Row) :
    (updateRows cond (Row.claimedBy cfg worker now) rows).map Row.id = rows.map Row.id :=
  ids_updateRows fun r => show (r.claimedBy cfg worker now).id = r.id from rfl

@[simp] theorem ids_recorded (cond : Row → Bool) (rows : List Row) :
    (updateRows cond (outcome.record cfg c now) rows).map Row.id = rows.map Row.id :=
  ids_updateRows (outcome.record_id cfg c now)

@[simp] theorem ids_done (tid : Uuid) (dest : String) (id : Nat) (rows : List Row) :
    (done tid dest id now rows).map Row.id = rows.map Row.id :=
  ids_updateRows fun r => show (recordDelivery now r).id = r.id from rfl

@[simp] theorem ids_requeueNotification (tid : Uuid) (id : Nat) (rows : List Row) :
    (requeueNotification tid id now rows).map Row.id = rows.map Row.id :=
  ids_updateRows fun _ => rfl

/-- Where no id occurs twice, a row is known by its id. -/
theorem eq_of_id (uniq : (rows.map Row.id).Nodup) {q : Row} (mem : r ∈ rows) (mem' : q ∈ rows)
    (same : r.id = q.id) : r = q :=
  inj_on_of_nodup_map uniq mem mem' same

/-- A row that is being processed after an update that hands out no row was so before. -/
theorem processing_of_updateRows {cond : Row → Bool} {set : Row → Row}
    (ends : ∀ r, cond r → (set r).status ≠ .processing)
    (mem : r ∈ updateRows cond set rows) (busy : r.status = .processing) : r ∈ rows := by
  rcases mem_updateRows.mp mem with ⟨q, -, hit, rfl⟩ | ⟨kept, -⟩
  · exact absurd busy (ends q hit)
  · exact kept

theorem processing_of_recover (mem : r ∈ recover now rows) (busy : r.status = .processing) :
    r ∈ rows := by
  refine processing_of_updateRows (fun q _ => ?_) mem busy
  simp [Row.release]

theorem Outcome.record_status (cfg : Config) (c : Claim) (now : Time) (outcome : Outcome)
    (r : Row) :
    (outcome.record cfg c now r).status ≠ .processing := by
  cases outcome with
  | delivered => exact nofun
  | failed text jittered =>
    dsimp only [Outcome.record, Claim.recordFailure]
    split <;> exact nofun

end Trustctl.Outbox
