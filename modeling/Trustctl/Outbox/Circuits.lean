import Trustctl.Outbox.Queue
import Trustctl.Systems.Run
import Trustctl.Systems.Table

/-!
# Circuit breakers

A worker keeps one circuit for every tenant and destination that failed.  An open circuit blocks its
key until a time; the next claim turns it half-open and may take one row of the key as a probe,
whose outcome closes or opens the circuit.  `claimOne` returns the reservations that it did not
use.  A `finalizeClaim` that fails returns before the outcome reaches the circuit.

`Worker.step` is one step of one of any number of concurrent `Dispatch` calls of a worker.

* `half_open_probed`: as long as `finalizeClaim` fails for keys only whose circuit is not half-open,
  every half-open circuit has a probe in progress;
* `probe_forgotten`: a half-open circuit and no call that will ever resolve it.
-/

namespace Trustctl.Outbox

open List Store Systems

/-! ## Circuits -/

inductive CircuitState
  | closed
  | opened
  | halfOpen
deriving DecidableEq

/-- `outboxCircuit`. -/
structure Circuit where
  state : CircuitState := .closed
  failures : Nat := 0
  openUntil : Time := 0
  updatedAt : Time := 0
  lastError : String := ""
deriving DecidableEq

/-- The options of the breaker; a threshold of zero disables it. -/
structure Breaker where
  circuitFailureThreshold : Nat := 3
  circuitOpenDuration : Nat := 30000000000

abbrev Circuits := Table Key Circuit

namespace Circuits

/-- An open circuit whose time has come. -/
def ripe (now : Time) (c : Circuit) : Bool := c.state = .opened && c.openUntil ≤ now

def blocks (now : Time) (c : Circuit) : Bool :=
  (c.state = .opened && now < c.openUntil) || c.state = .halfOpen

/-- The keys that `reserveHalfOpenProbes` turns half-open. -/
def reserved (b : Breaker) (now : Time) (t : Circuits) : List Key :=
  if b.circuitFailureThreshold = 0 then [] else (t.filter fun e => ripe now e.2).map Prod.fst

/-- The keys that it finds blocked. -/
def blocked (b : Breaker) (now : Time) (t : Circuits) : List Key :=
  if b.circuitFailureThreshold = 0 then [] else (t.filter fun e => blocks now e.2).map Prod.fst

/-- What `reserveHalfOpenProbes` leaves. -/
def reserveHalfOpenProbes (b : Breaker) (now : Time) (t : Circuits) : Circuits :=
  if b.circuitFailureThreshold = 0 then t
  else t.map fun e =>
    if ripe now e.2 then (e.1, { e.2 with state := .halfOpen, updatedAt := now }) else e

def releaseUnclaimedHalfOpenProbes (reserved : List Key) (claimed : Key) (now : Time)
    (t : Circuits) :
    Circuits :=
  t.map fun e =>
    if reserved.contains e.1 && e.1 ≠ claimed && e.2.state = .halfOpen then
      (e.1, { e.2 with state := .opened, openUntil := now, updatedAt := now })
    else e

/-- The circuit after one more failure. -/
def failed (b : Breaker) (text : String) (now : Time) (c : Circuit) : Circuit :=
  if c.state = .halfOpen || b.circuitFailureThreshold ≤ c.failures + 1 then
    { state := .opened, failures := c.failures + 1, openUntil := now + b.circuitOpenDuration,
      updatedAt := now, lastError := text }
  else { c with failures := c.failures + 1, updatedAt := now, lastError := text }

def recordCircuitFailure (b : Breaker) (k : Key) (text : String) (now : Time) (t : Circuits) :
    Circuits :=
  if b.circuitFailureThreshold = 0 then t
  else t.put k (failed b text now ((t.get k).getD {}))

def recordCircuitSuccess (b : Breaker) (k : Key) (now : Time) (t : Circuits) : Circuits :=
  if b.circuitFailureThreshold = 0 then t
  else if (t.get k).isSome then t.put k { updatedAt := now } else t

def record (b : Breaker) (k : Key) (now : Time) : Outcome → Circuits → Circuits
  | .delivered => recordCircuitSuccess b k now
  | .failed text _ => recordCircuitFailure b k text now

def HalfOpen (t : Circuits) (k : Key) : Prop := ∃ c, (k, c) ∈ t ∧ c.state = .halfOpen

/-! ### Half-open circuits -/

variable {b : Breaker} {t : Circuits} {k k' : Key} {now : Time}

/-- A circuit is half-open after the reservation if it was so before or is one of the reserved. -/
theorem halfOpen_reserve (half : (reserveHalfOpenProbes b now t).HalfOpen k) :
    t.HalfOpen k ∨ k ∈ reserved b now t := by
  obtain ⟨c, mem, state⟩ := half
  unfold reserveHalfOpenProbes at mem
  unfold reserved
  split at mem
  next => exact .inl ⟨c, mem, state⟩
  next enabled =>
    rw [if_neg enabled]
    obtain ⟨⟨k', c'⟩, kept, same⟩ := mem_map.mp mem
    split at same
    next due =>
      cases same
      exact .inr (mem_map.mpr ⟨(_, c'), mem_filter.mpr ⟨kept, due⟩, rfl⟩)
    next =>
      cases same
      exact .inl ⟨c, kept, state⟩

/-- The release leaves no half-open circuit among the reserved ones but that of the claimed row. -/
theorem halfOpen_release {reserved : List Key}
    (half : (releaseUnclaimedHalfOpenProbes reserved k' now t).HalfOpen k) :
    t.HalfOpen k ∧ (k ∈ reserved → k = k') := by
  obtain ⟨c, mem, state⟩ := half
  obtain ⟨⟨k₀, c₀⟩, stored, same⟩ := mem_map.mp mem
  split at same
  next =>
    cases same
    cases state
  next kept =>
    cases same
    refine ⟨⟨c, stored, state⟩, fun mine => ?_⟩
    simpa [mine, state] using kept

theorem record_disabled (out : Outcome) (off : b.circuitFailureThreshold = 0) :
    record b k now out t = t := by
  cases out with
  | delivered | failed => exact if_pos off

/-- The entries after the outcome of a delivery: the circuit of its key is closed or open, every
other is as it was. -/
theorem mem_record {out : Outcome} (enabled : b.circuitFailureThreshold ≠ 0) {c : Circuit}
    (mem : (k, c) ∈ record b k' now out t) :
    (k = k' ∧ c.state ≠ .halfOpen) ∨ ((k, c) ∈ t ∧ k ≠ k') := by
  cases out with
  | delivered =>
    dsimp only [record, recordCircuitSuccess] at mem
    rw [if_neg enabled] at mem
    split at mem
    next =>
      rcases Table.mem_put.mp mem with fresh | old
      · cases fresh
        refine .inl ⟨rfl, ?_⟩
        rintro ⟨⟩
      · exact .inr old
    next gone =>
      refine .inr ⟨mem, ?_⟩
      rintro rfl
      exact Table.not_mem_of_get (Option.not_isSome_iff_eq_none.mp gone) c mem
  | failed text jittered =>
    dsimp only [record, recordCircuitFailure] at mem
    rw [if_neg enabled] at mem
    rcases Table.mem_put.mp mem with fresh | old
    · cases fresh
      refine .inl ⟨rfl, ?_⟩
      unfold failed
      split
      next => rintro ⟨⟩
      next kept =>
        intro half
        simp [show ((t.get k).getD {}).state = .halfOpen from half] at kept
    · exact .inr old

end Circuits

/-! ## Concurrent calls -/

inductive Phase
  /-- Before its next `claimOne`. -/
  | ready
  /-- Inside `claimOne`, after the reservation. -/
  | claiming (blocked reserved : List Key) (now : Time)
  /-- A row of the key is claimed and its outcome not recorded. -/
  | delivering (k : Key)
  /-- The outcome is committed, the circuit not yet updated. -/
  | recording (k : Key) (outcome : Outcome) (now : Time)

/-- One worker: its circuits and its `Dispatch` calls. -/
structure Worker where
  circuits : Circuits := []
  calls : Nat → Option Phase := fun _ => none

inductive Call
  | start (n : Nat)
  /-- `reserveHalfOpenProbes`. -/
  | reserve (n : Nat) (now : Time)
  /-- The transaction of `claimOne` commits with a row of the key. -/
  | claimed (n : Nat) (k : Key)
  /-- The transaction finds no row, or fails, which ends the call. -/
  | unclaimed (n : Nat) (fails : Bool)
  /-- The transaction of `finalizeClaim` commits. -/
  | finalized (n : Nat) (outcome : Outcome) (now : Time)
  /-- It fails: the lease was lost, or the database reports an error. -/
  | unfinalized (n : Nat)
  /-- `recordCircuitFailure` or `recordCircuitSuccess`. -/
  | record (n : Nat)
  | finish (n : Nat)

namespace Worker

def set (w : Worker) (n : Nat) (p : Option Phase) : Worker :=
  { w with calls := Function.update w.calls n p }

@[simp] theorem set_circuits (w : Worker) (n : Nat) (p : Option Phase) :
    (w.set n p).circuits = w.circuits := rfl

theorem set_calls_self (w : Worker) (n : Nat) (p : Option Phase) : (w.set n p).calls n = p :=
  Function.update_self ..

theorem set_calls_of_ne {w : Worker} {n m : Nat} {p : Option Phase} (other : m ≠ n) :
    (w.set n p).calls m = w.calls m :=
  Function.update_of_ne other ..

/-- One step; a tenant's id is a uuid and never empty. -/
def step (b : Breaker) (w : Worker) : Call → Option Worker
  | .start n => if (w.calls n).isNone then some (w.set n (some .ready)) else none
  | .reserve n now =>
    match w.calls n with
    | some .ready =>
      some ({ w with circuits := w.circuits.reserveHalfOpenProbes b now }.set n
        (some (.claiming (w.circuits.blocked b now) (w.circuits.reserved b now) now)))
    | _ => none
  | .claimed n k =>
    match w.calls n with
    | some (.claiming blocked reserved now) =>
      if k ∉ blocked ∧ k.tenantId ≠ "" then
        some ({ w with circuits := w.circuits.releaseUnclaimedHalfOpenProbes reserved k now }.set n
          (some (.delivering k)))
      else none
    | _ => none
  | .unclaimed n fails =>
    match w.calls n with
    | some (.claiming _ reserved now) =>
      some ({ w with
        circuits := w.circuits.releaseUnclaimedHalfOpenProbes reserved ⟨"", ""⟩ now }.set n
        (if fails then none else some .ready))
    | _ => none
  | .finalized n outcome now =>
    match w.calls n with
    | some (.delivering k) => some (w.set n (some (.recording k outcome now)))
    | _ => none
  | .unfinalized n =>
    match w.calls n with
    | some (.delivering _) => some (w.set n none)
    | _ => none
  | .record n =>
    match w.calls n with
    | some (.recording k outcome now) =>
      some ({ w with circuits := w.circuits.record b k now outcome }.set n (some .ready))
    | _ => none
  | .finish n =>
    match w.calls n with
    | some .ready => some (w.set n none)
    | _ => none

end Worker

/-! ## Probes -/

/-- The call is about to resolve the circuit of the key. -/
def Phase.Probes (k : Key) : Phase → Prop
  | .ready => False
  | .claiming _ reserved _ => k ∈ reserved
  | .delivering k' | .recording k' _ _ => k' = k

/-- The key of the row that the call holds. -/
def Phase.key? : Phase → Option Key
  | .delivering k | .recording k _ _ => some k
  | _ => none

namespace Worker

variable {b : Breaker} {w w' : Worker} {n : Nat} {act : Call}

/-- `finalizeClaim` fails for keys only whose circuit is not half-open. -/
def resolves (w : Worker) : Call → Bool
  | .unfinalized n =>
    match w.calls n with
    | some (.delivering k) => !w.circuits.any fun e => e.1 = k && e.2.state = .halfOpen
    | _ => true
  | _ => true

/-- Every half-open circuit has a probe. -/
structure Probed (b : Breaker) (w : Worker) : Prop where
  named : ∀ e ∈ w.circuits, e.1.tenantId ≠ ""
  held : ∀ n p k, w.calls n = some p → p.key? = some k → k.tenantId ≠ ""
  disabled : b.circuitFailureThreshold = 0 → w.circuits = []
  probed : ∀ k, w.circuits.HalfOpen k → ∃ n p, w.calls n = some p ∧ p.Probes k

variable {p : Option Phase}

/-- The call moves on: where a circuit is half-open after, the call probes it now, or another does
since the call did not. -/
theorem Probed.move (probed : w.Probed b) {t : Circuits} (named : ∀ e ∈ t, e.1.tenantId ≠ "")
    (held : ∀ q ∈ p, ∀ k, q.key? = some k → k.tenantId ≠ "")
    (disabled : b.circuitFailureThreshold = 0 → t = [])
    (moved : ∀ k, t.HalfOpen k → (∃ q ∈ p, q.Probes k) ∨
      (w.circuits.HalfOpen k ∧ ∀ q, w.calls n = some q → ¬ q.Probes k)) :
    ({ w with circuits := t }.set n p : Worker).Probed b where
  named := named
  held := by
    intro m q k call key
    by_cases same : m = n
    · subst same
      rw [set_calls_self] at call
      exact held q call k key
    · rw [set_calls_of_ne same] at call
      exact probed.held m q k call key
  disabled := disabled
  probed := by
    intro k half
    rcases moved k half with ⟨q, now_, probes⟩ | ⟨old, idle⟩
    · exact ⟨n, q, (set_calls_self ..).trans now_, probes⟩
    · obtain ⟨m, q, call, probes⟩ := probed.probed k old
      have other : m ≠ n := by
        rintro rfl
        exact idle q call probes
      exact ⟨m, q, (set_calls_of_ne other).trans call, probes⟩

theorem named_map {t : Circuits} {f : Key × Circuit → Key × Circuit} (keeps : ∀ e, (f e).1 = e.1)
    (named : ∀ e ∈ t, e.1.tenantId ≠ "") : ∀ e ∈ t.map f, e.1.tenantId ≠ "" := by
  intro e mem
  obtain ⟨e', kept, rfl⟩ := mem_map.mp mem
  rw [keeps]
  exact named e' kept

variable (probed : w.Probed b)

include probed

/-- A call that leaves the circuits alone and probes the same keys as before. -/
theorem Probed.keep (held : ∀ q ∈ p, ∀ k, q.key? = some k → k.tenantId ≠ "")
    (probes : ∀ q k, w.calls n = some q → w.circuits.HalfOpen k → q.Probes k → ∃ q' ∈ p,
      q'.Probes k) :
    (w.set n p).Probed b := by
  refine probed.move probed.named held probed.disabled fun k half => ?_
  by_cases mine : ∃ q, w.calls n = some q ∧ q.Probes k
  · obtain ⟨q, call, probing⟩ := mine
    exact .inl (probes q k call half probing)
  · exact .inr ⟨half, fun q call probing => mine ⟨q, call, probing⟩⟩

variable {now : Time}

theorem Probed.reserve (ready : w.calls n = some .ready) :
    ({ w with circuits := w.circuits.reserveHalfOpenProbes b now }.set n
      (some (.claiming (w.circuits.blocked b now) (w.circuits.reserved b now) now)) :
        Worker).Probed b := by
  refine probed.move ?_ (by rintro q ⟨⟩ k ⟨⟩) ?_ fun k half => ?_
  · unfold Circuits.reserveHalfOpenProbes
    split
    · exact probed.named
    · exact named_map (fun e => by dsimp only; split <;> rfl) probed.named
  · intro off
    rw [Circuits.reserveHalfOpenProbes, if_pos off]
    exact probed.disabled off
  · rcases Circuits.halfOpen_reserve half with old | mine
    · refine .inr ⟨old, fun q call => ?_⟩
      rw [ready] at call
      cases call
      exact id
    · exact .inl ⟨_, rfl, mine⟩

/-- The end of `claimOne`: the reservation of the claimed key passes to the row, all others are
returned. -/
theorem Probed.release {blocked reserved : List Key}
    (claiming : w.calls n = some (.claiming blocked reserved now)) {k : Key}
    (held : ∀ q ∈ p, ∀ k', q.key? = some k' → k'.tenantId ≠ "")
    (pass : k.tenantId ≠ "" → ∃ q ∈ p, q.Probes k) :
    ({ w with circuits := w.circuits.releaseUnclaimedHalfOpenProbes reserved k now }.set n p :
      Worker).Probed b := by
  refine probed.move (named_map (fun e => by dsimp only; split <;> rfl) probed.named) held ?_ ?_
  · intro off
    rw [probed.disabled off]
    rfl
  · intro k' half
    obtain ⟨old, mine⟩ := Circuits.halfOpen_release half
    by_cases reserved_ : k' ∈ reserved
    · obtain ⟨c, kept, -⟩ := old
      obtain rfl := mine reserved_
      exact .inl (pass (probed.named _ kept))
    · refine .inr ⟨old, fun q call => ?_⟩
      rw [claiming] at call
      cases call
      exact reserved_

theorem Probed.record {k : Key} {out : Outcome}
    (recording : w.calls n = some (.recording k out now)) :
    ({ w with circuits := w.circuits.record b k now out }.set n (some .ready) : Worker).Probed
      b := by
  by_cases off : b.circuitFailureThreshold = 0
  · rw [Circuits.record_disabled out off]
    refine probed.keep (by rintro q ⟨⟩ k ⟨⟩) fun q k' _ half => ?_
    obtain ⟨c, kept, -⟩ := half
    rw [probed.disabled off] at kept
    cases kept
  · refine probed.move ?_ (by rintro q ⟨⟩ k ⟨⟩) (fun off' => absurd off' off) ?_
    · rintro ⟨k', c⟩ mem
      rcases Circuits.mem_record off mem with ⟨rfl, -⟩ | ⟨old, -⟩
      · exact probed.held n _ k' recording rfl
      · exact probed.named _ old
    · rintro k' ⟨c, mem, state⟩
      rcases Circuits.mem_record off mem with ⟨-, resolved⟩ | ⟨old, other⟩
      · exact absurd state resolved
      · refine .inr ⟨⟨c, old, state⟩, fun q call => ?_⟩
        rw [recording] at call
        cases call
        exact other.symm

theorem Probed.step (resolves : w.resolves act) (moved : w.step b act = some w') : w'.Probed b := by
  cases act with
  | start n =>
    obtain ⟨idle, ⟨⟩⟩ := Option.ite_none_right_eq_some.mp moved
    refine probed.keep (by rintro q ⟨⟩ k ⟨⟩) fun q k call => ?_
    rw [call] at idle
    cases idle
  | reserve n now =>
    dsimp only [step] at moved
    split at moved
    next ready =>
      cases moved
      exact probed.reserve ready
    next => cases moved
  | claimed n k =>
    dsimp only [step] at moved
    split at moved
    next claiming =>
      obtain ⟨may, ⟨⟩⟩ := Option.ite_none_right_eq_some.mp moved
      refine probed.release claiming ?_ fun _ => ⟨_, rfl, rfl⟩
      rintro q ⟨⟩ k' ⟨⟩
      exact may.2
    next => cases moved
  | unclaimed n fails =>
    dsimp only [step] at moved
    split at moved
    next claiming =>
      cases moved
      refine probed.release claiming ?_ fun named => absurd rfl named
      intro q phase k' key
      cases fails with
      | true => cases phase
      | false =>
        cases phase
        cases key
    next => cases moved
  | finalized n out now =>
    dsimp only [step] at moved
    split at moved
    next k delivering =>
      cases moved
      refine probed.keep ?_ fun q k' call _ probing => ?_
      · rintro q ⟨⟩ k' ⟨⟩
        exact probed.held n _ k delivering rfl
      · rw [delivering] at call
        cases call
        exact ⟨_, rfl, probing⟩
    next => cases moved
  | unfinalized n =>
    have spared : ∀ k, w.calls n = some (.delivering k) → ¬ w.circuits.HalfOpen k := by
      rintro k delivering ⟨c, kept, state⟩
      simp only [Worker.resolves, delivering, Bool.not_eq_true', any_eq_false] at resolves
      exact resolves _ kept (by simp [state])
    dsimp only [step] at moved
    split at moved
    next k delivering =>
      cases moved
      refine probed.keep (by rintro q ⟨⟩) fun q k' call half probing => ?_
      rw [delivering] at call
      cases call
      obtain rfl : k = k' := probing
      exact absurd half (spared k delivering)
    next => cases moved
  | record n =>
    dsimp only [step] at moved
    split at moved
    next recording =>
      cases moved
      exact probed.record recording
    next => cases moved
  | finish n =>
    dsimp only [step] at moved
    split at moved
    next ready =>
      cases moved
      refine probed.keep (by rintro q ⟨⟩) fun q k call _ probing => ?_
      rw [ready] at call
      cases call
      exact probing.elim
    next => cases moved

end Worker

/-- In every run of any number of concurrent calls of one worker in which `finalizeClaim` fails for
keys only whose circuit is not half-open: a half-open circuit has a call that reserved it or holds a
row of its key; so none is half-open when no call runs. -/
theorem half_open_probed (b : Breaker) {acts : List Call} {w : Worker}
    (run : Run (Worker.step b) (fun w a => w.resolves a) {} acts w) :
    (∀ k, w.circuits.HalfOpen k → ∃ n p, w.calls n = some p ∧ p.Probes k) ∧
      ((∀ n, w.calls n = none) → ∀ k, ¬ w.circuits.HalfOpen k) := by
  have probed : w.Probed b := run.invariant
    (fun _ _ _ resolves moved inv => inv.step resolves moved)
    ⟨nofun, nofun, fun _ => rfl, by rintro k ⟨c, mem, -⟩; cases mem⟩
  refine ⟨probed.probed, fun idle k half => ?_⟩
  obtain ⟨n, p, call, -⟩ := probed.probed k half
  rw [idle n] at call
  cases call

/-- A delivery of a row of the key that fails. -/
def failure (k : Key) : List Call :=
  [.reserve 0 1, .claimed 0 k, .finalized 0 (.failed "down" 0) 1, .record 0]

/-- Three failures open the circuit; when its time has come, a row of the key is claimed again. -/
def probing (k : Key) : List Call :=
  .start 0 :: failure k ++ failure k ++ failure k ++ [.reserve 0 40000000000, .claimed 0 k]

/-- A circuit opens, its time passes, and a worker has taken the probe. -/
theorem probe_in_flight : ∃ w,
    executeIf (Worker.step {}) Worker.resolves {} (probing ⟨"t", "ca.issue"⟩) = some w ∧
      w.circuits.HalfOpen ⟨"t", "ca.issue"⟩ ∧
      ∃ n p, w.calls n = some p ∧ p.Probes ⟨"t", "ca.issue"⟩ := by
  have ran : executeIf (Worker.step {}) Worker.resolves {} (probing ⟨"t", "ca.issue"⟩) =
      some _ := rfl
  refine ⟨_, ran, ⟨_, mem_singleton_self _, rfl⟩, ?_⟩
  exact (half_open_probed {} (run_of_executeIf ran)).1 _ ⟨_, mem_singleton_self _, rfl⟩

/-- The lease of the probe is lost: the call returns, and the circuit stays half-open. -/
theorem probe_forgotten : ∃ w,
    execute (Worker.step {}) {} (probing ⟨"t", "ca.issue"⟩ ++ [.unfinalized 0]) = some w ∧
      w.circuits.HalfOpen ⟨"t", "ca.issue"⟩ ∧ ∀ n, w.calls n = none := by
  refine ⟨_, rfl, ⟨_, mem_singleton_self _, rfl⟩, fun n => ?_⟩
  simp [Worker.set]

end Trustctl.Outbox
