import Trustctl.Outbox.Circuits
import Mathlib.Logic.Relation
import Mathlib.Data.Prod.Lex
import Mathlib.Order.WellFounded

/-!
# One pass of the dispatcher

`Dispatch` claims and delivers the rows that were due when it began, one at a time.  A round takes
at most one row of a tenant and of a destination; when a claim finds none, the next round begins,
and the pass ends when a round begins with such a claim.

The loop of the source has no bound, so `dispatch` takes the number of turns it may make.

* `defaultOutboxBackoff_pos` and `retryDelay_pos`: a failed row is put off, whatever the jitter is;
* `Drains.turn`: what one turn keeps;
* `dispatch_drains`: the pass ends within two turns for every row, claims no row twice, and leaves
  no row unattempted that was due and that neither a cap nor a circuit keeps back.
-/

namespace Trustctl.Outbox

open List Store
open Relational (updateRows mem_updateRows)
open Relation (ReflTransGen)

/-! ## Backoff and jitter -/

def second : Duration := 1000000000

/-- `capDelay`, five minutes. -/
def capDelay : Duration := 300 * second

/-- The loop of `defaultOutboxBackoff`, with the rounds it has left. -/
def doubled : Nat → Duration → Duration
  | 0, delay => if capDelay < delay then capDelay else delay
  | n + 1, delay => if capDelay / 2 ≤ delay then capDelay else doubled n (delay * 2)

def defaultOutboxBackoff (attempts : Nat) : Duration :=
  if attempts = 0 then second else doubled (attempts - 1) second

/-- `defaultOutboxJitter`, with the number that `rand` draws. -/
def defaultOutboxJitter (rand : Nat) (base : Duration) : Duration :=
  if base ≤ 0 then 0
  else
    let floor := base / 2
    let span := base - floor
    if span ≤ 0 then base else floor + (rand : Int) % (span + 1)

theorem doubled_bounds (n : Nat) {delay : Duration} (least : second ≤ delay) :
    second ≤ doubled n delay ∧ doubled n delay ≤ capDelay := by
  induction n generalizing delay with
  | zero =>
    unfold doubled
    unfold capDelay second Duration at *
    split
    · decide
    · exact ⟨least, by omega⟩
  | succ n ih =>
    unfold doubled
    split
    · decide
    · refine ih ?_
      unfold second Duration at *
      omega

/-- The jitter lies between half of its base and the base. -/
theorem defaultOutboxJitter_bounds (rand : Nat) {base : Duration} (positive : 0 < base) :
    base / 2 ≤ defaultOutboxJitter rand base ∧ defaultOutboxJitter rand base ≤ base := by
  unfold defaultOutboxJitter
  unfold Duration at *
  have span : 0 < base - base / 2 + 1 := by omega
  have low := Int.emod_nonneg (rand : Int) span.ne'
  have high := Int.emod_lt_of_pos (rand : Int) span
  rw [if_neg (by omega)]
  rw [if_neg (by omega)]
  omega

/-- With the default backoff and jitter a failed row is put off. -/
theorem retryDelay_pos {cfg : Config} (backoff : cfg.backoff = defaultOutboxBackoff)
    (attempts rand : Nat) :
    0 < retryDelay cfg attempts (defaultOutboxJitter rand (cfg.backoff attempts)) := by
  rw [backoff]
  have least : second ≤ defaultOutboxBackoff attempts := by
    unfold defaultOutboxBackoff
    split
    · decide
    · exact (doubled_bounds _ le_rfl).1
  have positive : 0 < defaultOutboxBackoff attempts := lt_of_lt_of_le (by decide) least
  have jitter := defaultOutboxJitter_bounds rand positive
  unfold retryDelay
  rw [backoff]
  unfold second at least
  unfold Duration at *
  rw [if_neg (by omega), if_neg (by omega), if_neg (by omega)]
  omega

/-! ## The loop -/

/-- What one turn of the loop meets: the clock, the result of the handler, the number drawn for the
jitter, errors of the database, and what other workers do to the table before the claim and during
the delivery. -/
structure Draw where
  claimAt : Time
  finalizeAt : Time
  failure : Option String := none
  rand : Nat := 0
  claimFault : Option String := none
  finalizeFault : Option String := none
  before : List Row → List Row := id
  during : List Row → List Row := id

def Draw.outcome (cfg : Config) (d : Draw) (attempts : Nat) : Outcome :=
  match d.failure with
  | none => .delivered
  | some text => .failed text (defaultOutboxJitter d.rand (cfg.backoff attempts))

/-- The variables of the loop, the table and the circuits; `claims` are those made, oldest first,
and `processed` is their number. -/
structure Pass where
  rows : List Row
  circuits : Circuits := []
  seenTenants : List Uuid := []
  seenDestinations : List String := []
  claims : List Claim := []

/-- How a pass ended: with an error, or with a last claim at `now` that found no row besides those
of the blocked keys. -/
structure Ended where
  pass : Pass
  error : Option String
  now : Time
  blocked : List Key

inductive Turn
  | next (s : Pass)
  | ended (e : Ended)

/-- The circuits after `claimOne`; the key is empty when no row was claimed. -/
def Pass.circuitsAfter (b : Breaker) (s : Pass) (now : Time) (claimed : Key) : Circuits :=
  Circuits.releaseUnclaimedHalfOpenProbes (s.circuits.reserved b now) claimed now
    (s.circuits.reserveHalfOpenProbes b now)

def Pass.claimed (b : Breaker) (s : Pass) (d : Draw) (c : Claim) (rows : List Row) : Pass :=
  { rows := d.during rows
    circuits := s.circuitsAfter b d.claimAt c.key
    seenTenants := c.tenantId :: s.seenTenants
    seenDestinations := c.destination :: s.seenDestinations
    claims := s.claims ++ [c] }

/-- The body of the loop. -/
def turn (cfg : Config) (b : Breaker) (worker : String) (cutoff : Time) (d : Draw) (s : Pass) :
    Turn :=
  let blocked := s.circuits.blocked b d.claimAt
  match d.claimFault with
  | some text =>
    .ended ⟨{ s with circuits := s.circuitsAfter b d.claimAt ⟨"", ""⟩ }, some text,
      d.claimAt, blocked⟩
  | none =>
    match claimOne cfg worker cutoff d.claimAt ⟨s.seenTenants, s.seenDestinations, blocked⟩
        (d.before s.rows) with
    | (rows, none) =>
      let circuits := s.circuitsAfter b d.claimAt ⟨"", ""⟩
      if s.seenTenants.isEmpty && s.seenDestinations.isEmpty then
        .ended ⟨{ s with rows, circuits }, none, d.claimAt, blocked⟩
      else .next { rows, circuits, claims := s.claims }
    | (rows, some c) =>
      let s := s.claimed b d c rows
      match d.finalizeFault with
      | some text => .ended ⟨s, some text, d.finalizeAt, blocked⟩
      | none =>
        match finalizeClaim cfg c (d.outcome cfg c.attempts) d.finalizeAt s.rows with
        | .error text => .ended ⟨s, some text, d.finalizeAt, blocked⟩
        | .ok rows =>
          .next { s with
            rows
            circuits := s.circuits.record b c.key d.finalizeAt (d.outcome cfg c.attempts) }

/-- `Dispatch` from its turn `i` on, as far as the given number of turns goes. -/
def dispatch (cfg : Config) (b : Breaker) (worker : String) (cutoff : Time) (draws : Nat → Draw) :
    (turns : Nat) → (i : Nat) → Pass → Option Ended
  | 0, _, _ => none
  | turns + 1, i, s =>
    match turn cfg b worker cutoff (draws i) s with
    | .next s => dispatch cfg b worker cutoff draws turns (i + 1) s
    | .ended e => some e

/-- What other workers do to a row as long as they recover none: they claim it, and they record the
outcome of what they claimed.  Their clock is past the cutoff and they put a failed row off as well.
-/
inductive Row.Meanwhile (worker : String) (cutoff : Time) : Row → Row → Prop
  | claimed {r : Row} (cfg : Config) (other : String) (now : Time) (foreign : other ≠ worker)
      (pending : r.status = .pending) : Row.Meanwhile worker cutoff r (r.claimedBy cfg other now)
  | delivered {r : Row} (now : Time) (foreign : r.workerId ≠ some worker)
      (processing : r.status = .processing) : Row.Meanwhile worker cutoff r (recordDelivery now r)
  | failed {r : Row} (cfg : Config) (c : Claim) (text : String) (now : Time) (jittered : Duration)
      (foreign : r.workerId ≠ some worker) (processing : r.status = .processing)
      (later : cutoff < now + (retryDelay cfg c.attempts jittered).toNat) :
      Row.Meanwhile worker cutoff r (c.recordFailure cfg text now jittered r)

/-- The table after other workers changed rows of it, any number of times each. -/
structure Others (worker : String) (cutoff : Time) (rows rows' : List Row) : Prop where
  ids : rows'.map Row.id = rows.map Row.id
  row : ∀ r ∈ rows, ∀ r' ∈ rows', r'.id = r.id → ReflTransGen (Row.Meanwhile worker cutoff) r r'

theorem Others.refl {cutoff : Time} {rows : List Row} (worker : String)
    (unique : (rows.map Row.id).Nodup) : Others worker cutoff rows rows where
  ids := rfl
  row := by
    intro r mem r' mem' same
    obtain rfl := eq_of_id unique mem' mem same
    exact .refl

/-! ## Rows during a pass -/

/-- The row may still be claimed in a pass with this cutoff: now, or when its lease is over. -/
def Row.waits (cutoff : Time) (r : Row) : Bool :=
  (r.status = .pending || r.status = .processing) && r.nextAttemptAt ≤ cutoff

/-- What happens to a row during a pass.  Its attempts tell whether it was claimed, and a row that
no longer waits never does again. -/
structure Row.Follows (cutoff : Time) (r r' : Row) : Prop where
  id : r'.id = r.id
  key : r'.key = r.key
  attempts : r.attempts ≤ r'.attempts
  due : r'.attempts = r.attempts → r.due cutoff → r'.due cutoff
  waits : r'.waits cutoff → r.waits cutoff

variable {cfg : Config} {b : Breaker} {worker : String} {cutoff now : Time}
  {rows rows' rows'' : List Row}
  {r r' r'' o : Row} {c : Claim} {d : Draw} {s s' : Pass} {e : Ended} {k : Key}

theorem Row.due_iff : r.due cutoff ↔ r.status = .pending ∧ r.nextAttemptAt ≤ cutoff := by
  unfold Row.due
  simp only [Bool.and_eq_true, decide_eq_true_eq]

theorem Row.waits_iff : r.waits cutoff ↔
    (r.status = .pending ∨ r.status = .processing) ∧ r.nextAttemptAt ≤ cutoff := by
  unfold Row.waits
  simp only [Bool.and_eq_true, Bool.or_eq_true, decide_eq_true_eq]

theorem Row.waits_of_due (due : r.due cutoff) : r.waits cutoff :=
  Row.waits_iff.mpr ⟨.inl (Row.due_iff.mp due).1, (Row.due_iff.mp due).2⟩

namespace Row.Follows

theorem refl (r : Row) :
    r.Follows cutoff r := ⟨rfl, rfl, le_rfl, fun _ due => due, fun waits => waits⟩

theorem trans (first : r.Follows cutoff r') (second : r'.Follows cutoff r'') :
    r.Follows cutoff r'' where
  id := second.id.trans first.id
  key := second.key.trans first.key
  attempts := first.attempts.trans second.attempts
  due := by
    intro same due
    have middle := first.attempts
    have last := second.attempts
    exact second.due (by omega) (first.due (by omega) due)
  waits := fun waits => first.waits (second.waits waits)

/-- A row that is being processed was not due. -/
theorem of_processing (busy : r.status = .processing) (id : r'.id = r.id) (key : r'.key = r.key)
    (tries : r'.attempts = r.attempts) (waits : r'.waits cutoff → r.waits cutoff) :
    r.Follows cutoff r' := by
  refine ⟨id, key, tries.ge, fun _ due => ?_, waits⟩
  have pending := (Row.due_iff.mp due).1
  rw [busy] at pending
  cases pending

theorem release (past : r.expired now) : r.Follows cutoff r.release := by
  have busy : r.status = .processing := by
    unfold Row.expired at past
    simp only [Bool.and_eq_true, decide_eq_true_eq] at past
    exact past.1
  refine of_processing busy rfl rfl rfl fun waits => ?_
  exact Row.waits_iff.mpr ⟨.inr busy, (Row.waits_iff.mp waits).2⟩

theorem claimedBy (pending : r.status = .pending) :
    r.Follows cutoff (r.claimedBy cfg worker now) := by
  refine ⟨rfl, rfl, Nat.le_succ _, fun same => ?_, fun waits => ?_⟩
  · exact absurd same (Nat.succ_ne_self _)
  · exact Row.waits_iff.mpr ⟨.inl pending, (Row.waits_iff.mp waits).2⟩

theorem recordDelivery (busy : r.status = .processing) : r.Follows cutoff (recordDelivery now r) :=
  of_processing busy rfl rfl rfl (by simp [Row.waits_iff, Outbox.recordDelivery])

theorem recordFailure {text : String} {jittered : Duration} (busy : r.status = .processing)
    (later : cutoff < now + (retryDelay cfg c.attempts jittered).toNat) :
    r.Follows cutoff (c.recordFailure cfg text now jittered r) := by
  refine of_processing busy rfl rfl rfl fun waits => ?_
  exact absurd (Row.waits_iff.mp waits).2 (Nat.not_le.mpr later)

end Row.Follows

theorem Row.Meanwhile.follows (moved : Row.Meanwhile worker cutoff r r') : r.Follows cutoff r' := by
  cases moved with
  | claimed cfg other now foreign pending => exact .claimedBy pending
  | delivered now foreign busy => exact .recordDelivery busy
  | failed cfg c text now jittered foreign busy later => exact .recordFailure busy later

theorem follows_of_meanwhile (moved : ReflTransGen (Row.Meanwhile worker cutoff) r r') :
    r.Follows cutoff r' := by
  induction moved with
  | refl => exact .refl r
  | tail _ step ih => exact ih.trans step.follows

/-- Other workers leave a row alone that the worker holds. -/
theorem eq_of_meanwhile (moved : ReflTransGen (Row.Meanwhile worker cutoff) r r')
    (busy : r.status = .processing) (mine : r.workerId = some worker) : r' = r := by
  induction moved with
  | refl => rfl
  | tail _ step same =>
    subst same
    cases step with
    | claimed cfg other now foreign pending =>
      rw [busy] at pending
      cases pending
    | delivered _ foreign | failed _ _ _ _ _ foreign => exact absurd mine foreign

/-! ## The table during a pass -/

/-- What happens to the table during a pass. -/
structure Onward (cutoff : Time) (rows rows' : List Row) : Prop where
  ids : rows'.map Row.id = rows.map Row.id
  row : ∀ r ∈ rows, ∀ r' ∈ rows', r'.id = r.id → r.Follows cutoff r'

/-- A row of a table is known in every table with the same ids. -/
theorem exists_of_ids (ids : rows'.map Row.id = rows.map Row.id) (mem : r ∈ rows) :
    ∃ r' ∈ rows', r'.id = r.id := by
  have listed : r.id ∈ rows'.map Row.id := ids ▸ mem_map_of_mem mem
  exact mem_map.mp listed

namespace Onward

theorem refl (unique : (rows.map Row.id).Nodup) : Onward cutoff rows rows where
  ids := rfl
  row := by
    intro r mem r' mem' same
    obtain rfl := eq_of_id unique mem' mem same
    exact .refl _

theorem trans (first : Onward cutoff rows rows') (second : Onward cutoff rows' rows'') :
    Onward cutoff rows rows'' where
  ids := second.ids.trans first.ids
  row := by
    intro r mem r'' mem'' same
    obtain ⟨r', mem', id⟩ := exists_of_ids first.ids mem
    exact (first.row r mem r' mem' id).trans (second.row r' mem' r'' mem'' (same.trans id.symm))

theorem of_others (others : Others worker cutoff rows rows') : Onward cutoff rows rows' where
  ids := others.ids
  row := by
    intro r mem r' mem' same
    exact follows_of_meanwhile (others.row r mem r' mem' same)

theorem updateRows {cond : Row → Bool} {set : Row → Row} (unique : (rows.map Row.id).Nodup)
    (keeps : ∀ r, (set r).id = r.id) (follows : ∀ r ∈ rows, cond r → r.Follows cutoff (set r)) :
    Onward cutoff rows (updateRows cond set rows) where
  ids := ids_updateRows keeps
  row := by
    intro r mem r' mem' same
    rcases mem_updateRows.mp mem' with ⟨q, kept, hit, rfl⟩ | ⟨kept, -⟩
    · obtain rfl := eq_of_id unique kept mem ((keeps q).symm.trans same)
      exact follows q kept hit
    · obtain rfl := eq_of_id unique kept mem same
      exact .refl _

theorem unique (onward : Onward cutoff rows rows') (unique : (rows.map Row.id).Nodup) :
    (rows'.map Row.id).Nodup :=
  onward.ids.symm ▸ unique

theorem recover (now : Time) (unique : (rows.map Row.id).Nodup) :
    Onward cutoff rows (recover now rows) :=
  updateRows unique (fun _ => rfl) fun _ _ past => .release past

end Onward

/-! ## A claim that finds no row -/

theorem Row.before_iff : r.before o ↔
    toLex (r.nextAttemptAt, r.id) < toLex (o.nextAttemptAt, o.id) := by
  unfold Row.before
  rw [Prod.Lex.toLex_lt_toLex]
  simp only [Bool.or_eq_true, Bool.and_eq_true, decide_eq_true_eq]

theorem exists_first {P : Row → Prop} (mem : r ∈ rows) (kind : P r) :
    ∃ m ∈ rows, P m ∧ ∀ p ∈ rows, P p → p.before m = false := by
  have order : WellFounded (InvImage (· < ·) fun q : Row => toLex (q.nextAttemptAt, q.id)) :=
    InvImage.wf _ wellFounded_lt
  obtain ⟨m, ⟨listed, holds⟩, least⟩ := order.has_min {q | q ∈ rows ∧ P q} ⟨r, mem, kind⟩
  refine ⟨m, listed, holds, fun p mem' kind' => ?_⟩
  exact Bool.eq_false_iff.mpr fun prior => least p ⟨mem', kind'⟩ (Row.before_iff.mp prior)

variable {x : Exclusions}

theorem underCaps_congr (same : r.key = o.key) :
    underCaps cfg now rows r = underCaps cfg now rows o := by
  obtain ⟨tenant, dest⟩ := Key.mk.injEq .. ▸ same
  unfold underCaps
  rw [tenant, dest]

/-- A claim that finds no row leaves none that is due, admitted and under the caps. -/
theorem excluded_of_candidate (gone : candidate cfg cutoff now x rows = none)
    (mem : r ∈ rows) (due : r.due cutoff) (admitted : x.admits r) :
    underCaps cfg now rows r = false := by
  refine Bool.eq_false_iff.mpr fun under => ?_
  -- the first due row of the key is eligible, so there is a first eligible row
  obtain ⟨m, listed, ⟨due', same⟩, least⟩ :=
    exists_first (P := fun q => q.due cutoff ∧ q.key = r.key) mem ⟨due, rfl⟩
  obtain ⟨tenant, dest⟩ := Key.mk.injEq .. ▸ same
  have chosen : eligible cfg cutoff now x rows m := by
    refine eligible_iff.mpr ⟨due', by rwa [Exclusions.admits, tenant, dest, same],
      (underCaps_congr same).trans under, fun p mem' due'' key => ?_⟩
    exact least p mem' ⟨due'', key.trans same⟩
  obtain ⟨f, listed', first, least'⟩ :=
    exists_first (P := fun q => eligible cfg cutoff now x rows q) listed chosen
  refine find?_eq_none.mp gone f listed' ?_
  rw [Bool.and_eq_true, all_eq_true]
  refine ⟨first, fun p mem' => ?_⟩
  cases picked : eligible cfg cutoff now x rows p with
  | false => rfl
  | true => rw [least' p mem' picked]; rfl

/-! ## Circuits during a pass -/

/-- A circuit that is half-open after `claimOne` was so before, or is that of the claimed row. -/
theorem halfOpen_circuitsAfter {claimed : Key} (half : (s.circuitsAfter b now claimed).HalfOpen k) :
    s.circuits.HalfOpen k ∨ (k = claimed ∧ b.circuitFailureThreshold ≠ 0) := by
  obtain ⟨reserved, pass⟩ := Circuits.halfOpen_release half
  rcases Circuits.halfOpen_reserve reserved with old | mine
  · exact .inl old
  · refine .inr ⟨pass mine, fun off => ?_⟩
    rw [Circuits.reserved, if_pos off] at mine
    cases mine

theorem named_circuitsAfter (named : ∀ e ∈ s.circuits, e.1.tenantId ≠ "") (claimed : Key) :
    ∀ e ∈ s.circuitsAfter b now claimed, e.1.tenantId ≠ "" := by
  refine Worker.named_map (fun e => by dsimp only; split <;> rfl) ?_
  unfold Circuits.reserveHalfOpenProbes
  split
  · exact named
  · exact Worker.named_map (fun e => by dsimp only; split <;> rfl) named

/-- An open circuit whose time has not come is left alone by `claimOne`. -/
theorem mem_circuitsAfter {claimed : Key} {q : Circuit} (mem : (k, q) ∈ s.circuits)
    (opened : q.state = .opened) (early : now < q.openUntil) :
    (k, q) ∈ s.circuitsAfter b now claimed := by
  have kept : (k, q) ∈ s.circuits.reserveHalfOpenProbes b now := by
    unfold Circuits.reserveHalfOpenProbes
    split
    · exact mem
    · refine mem_map.mpr ⟨(k, q), mem, ?_⟩
      simp [Circuits.ripe, Nat.not_le.mpr early]
  refine mem_map.mpr ⟨(k, q), kept, ?_⟩
  simp [opened]

theorem mem_blocked (mem : k ∈ s.circuits.blocked b now) :
    (∃ q, (k, q) ∈ s.circuits ∧ q.state = .opened ∧ now < q.openUntil) ∨ s.circuits.HalfOpen k := by
  unfold Circuits.blocked at mem
  split at mem
  next => cases mem
  next =>
    obtain ⟨⟨k', q⟩, found, rfl⟩ := mem_map.mp mem
    obtain ⟨kept, blocks⟩ := mem_filter.mp found
    unfold Circuits.blocks at blocks
    simp only [Bool.or_eq_true, Bool.and_eq_true, decide_eq_true_eq] at blocks
    rcases blocks with ⟨opened, early⟩ | half
    · exact .inl ⟨q, kept, opened, early⟩
    · exact .inr ⟨q, kept, half⟩

/-! ## What a turn keeps -/

/-- The state of a pass over a table and circuits: what was claimed no longer waits, and no circuit
is half-open that was not so at the start. -/
structure Drains (cutoff : Time) (rows₀ : List Row) (t₀ : Circuits) (s : Pass) : Prop where
  onward : Onward cutoff rows₀ s.rows
  once : (s.claims.map Claim.id).Nodup
  spent : ∀ c ∈ s.claims, ∃ r ∈ s.rows, r.id = c.id ∧ r.waits cutoff = false
  named : ∀ e ∈ s.circuits, e.1.tenantId ≠ ""
  halfOpen : ∀ k, s.circuits.HalfOpen k → t₀.HalfOpen k

/-- The table that a pass begins with: no id twice, and every row has a tenant. -/
structure Starts (rows₀ : List Row) : Prop where
  unique : (rows₀.map Row.id).Nodup
  tenants : ∀ r ∈ rows₀, r.tenantId ≠ ""

/-- What a turn may meet: errors, any outcome and any jitter at a clock past the cutoff, and workers
that neither enqueue nor recover. -/
structure Draw.Fair (worker : String) (cutoff : Time) (d : Draw) : Prop where
  late : cutoff ≤ d.finalizeAt
  before : ∀ rows, (rows.map Row.id).Nodup → Others worker cutoff rows (d.before rows)
  during : ∀ rows, (rows.map Row.id).Nodup → Others worker cutoff rows (d.during rows)

variable {rows₀ : List Row} {t₀ : Circuits}

theorem Onward.tenants (onward : Onward cutoff rows₀ rows) (starts : Starts rows₀)
    (mem : r ∈ rows) :
    r.tenantId ≠ "" := by
  obtain ⟨r₀, mem₀, id⟩ := exists_of_ids onward.ids.symm mem
  have key := (onward.row r₀ mem₀ r mem id.symm).key
  rw [show r.tenantId = r₀.tenantId from congrArg Key.tenantId key]
  exact starts.tenants r₀ mem₀

theorem spent_onward (onward : Onward cutoff rows rows')
    (spent : ∃ r ∈ rows, r.id = c.id ∧ r.waits cutoff = false) :
    ∃ r ∈ rows', r.id = c.id ∧ r.waits cutoff = false := by
  obtain ⟨r, kept, same, done⟩ := spent
  obtain ⟨r', mem, id⟩ := exists_of_ids onward.ids kept
  refine ⟨r', mem, id.trans same, Bool.eq_false_iff.mpr fun waits => ?_⟩
  rw [(onward.row r kept r' mem id).waits waits] at done
  cases done

/-- With the default backoff and jitter the row of a finalised claim no longer waits. -/
theorem record_follows (backoff : cfg.backoff = defaultOutboxBackoff) (late : cutoff ≤ d.finalizeAt)
    (busy : r.status = .processing) :
    r.Follows cutoff ((d.outcome cfg c.attempts).record cfg c d.finalizeAt r) ∧
      ((d.outcome cfg c.attempts).record cfg c d.finalizeAt r).waits cutoff = false := by
  unfold Draw.outcome
  split
  next => exact ⟨.recordDelivery busy, rfl⟩
  next text _ =>
    have positive := retryDelay_pos backoff c.attempts d.rand
    have later : cutoff < d.finalizeAt +
        (retryDelay cfg c.attempts (defaultOutboxJitter d.rand (cfg.backoff c.attempts))).toNat :=
      late.trans_lt (Nat.lt_add_of_pos_right (Int.lt_toNat.mpr positive))
    refine ⟨.recordFailure busy later, Bool.eq_false_iff.mpr fun waits => ?_⟩
    exact absurd (Row.waits_iff.mp waits).2 (Nat.not_le.mpr later)

theorem countP_holds (unique : (rows.map Row.id).Nodup) (mem : r ∈ rows) (holds : c.holds r) :
    rows.countP c.holds = 1 := by
  rw [← count_eq_one_of_mem (List.Nodup.of_map _ unique) mem]
  refine countP_congr fun q mem' => ⟨fun held => ?_, fun same => ?_⟩
  · have same := (Claim.holds_iff.mp held).1.trans (Claim.holds_iff.mp holds).1.symm
    exact beq_iff_eq.mpr (eq_of_id unique mem' mem same)
  · obtain rfl := beq_iff_eq.mp same
    exact holds

/-- The outcome of a claim whose row is held is recorded, and the row no longer waits. -/
theorem finalizeClaim_spent (backoff : cfg.backoff = defaultOutboxBackoff)
    (late : cutoff ≤ d.finalizeAt) (unique : (rows.map Row.id).Nodup) (mem : r ∈ rows)
    (holds : c.holds r) :
    ∃ rows', finalizeClaim cfg c (d.outcome cfg c.attempts) d.finalizeAt rows = .ok rows' ∧
      Onward cutoff rows rows' ∧ ∃ r' ∈ rows', r'.id = c.id ∧ r'.waits cutoff = false := by
  refine ⟨_, finalizeClaim_eq_ok.mpr ⟨countP_holds unique mem holds, rfl⟩, ?_, ?_⟩
  · refine .updateRows unique (fun q => Outcome.record_id ..) fun q _ held => ?_
    exact (record_follows backoff late (Claim.holds_iff.mp held).2.2.1).1
  · refine ⟨_, mem_updateRows.mpr (.inl ⟨r, mem, holds, rfl⟩), ?_, ?_⟩
    · rw [Outcome.record_id]
      exact (Claim.holds_iff.mp holds).1
    · exact (record_follows backoff late (Claim.holds_iff.mp holds).2.2.1).2

section Turns

variable (drains : Drains cutoff rows₀ t₀ s)

include drains

theorem Drains.listed : s.claims.map Claim.id ⊆ rows₀.map Row.id := by
  intro id mem
  obtain ⟨c, claimed, rfl⟩ := mem_map.mp mem
  obtain ⟨r, kept, same, -⟩ := drains.spent c claimed
  rw [← same, ← drains.onward.ids]
  exact mem_map_of_mem kept

theorem Drains.record (tenant : k.tenantId ≠ "") (now : Time) (out : Outcome) (later : Time) :
    (∀ e ∈ (s.circuitsAfter b now k).record b k later out, e.1.tenantId ≠ "") ∧
      ∀ k', ((s.circuitsAfter b now k).record b k later out).HalfOpen k' → t₀.HalfOpen k' := by
  by_cases off : b.circuitFailureThreshold = 0
  · rw [Circuits.record_disabled out off]
    refine ⟨named_circuitsAfter drains.named _, fun k' half => ?_⟩
    rcases halfOpen_circuitsAfter half with before | ⟨-, enabled⟩
    · exact drains.halfOpen k' before
    · exact absurd off enabled
  · refine ⟨?_, ?_⟩
    · rintro ⟨k', q⟩ mem
      rcases Circuits.mem_record off mem with ⟨rfl, -⟩ | ⟨old, -⟩
      · exact tenant
      · exact named_circuitsAfter drains.named _ _ old
    · rintro k' ⟨q, mem, half⟩
      rcases Circuits.mem_record off mem with ⟨-, resolved⟩ | ⟨old, other⟩
      · exact absurd half resolved
      · rcases halfOpen_circuitsAfter ⟨q, old, half⟩ with before | ⟨rfl, -⟩
        · exact drains.halfOpen k' before
        · exact absurd rfl other

variable (starts : Starts rows₀)

include starts

/-- A row that no longer waits is not claimed: the claim is new, and its row is held. -/
theorem Drains.claimOne (others : Others worker cutoff s.rows rows)
    (claimed : claimOne cfg worker cutoff now x rows = (rows', some c)) :
    Onward cutoff s.rows rows' ∧ c.id ∉ s.claims.map Claim.id ∧ c.workerId = worker ∧
      ∃ r ∈ rows', c.holds r := by
  obtain ⟨o, mem, chosen, rfl, rfl⟩ := claimOne_eq_some claimed
  have first := Onward.of_others others
  have unique := (drains.onward.trans first).unique starts.unique
  have second : Onward cutoff rows (recover now rows) := .recover now unique
  have third : Onward cutoff (recover now rows)
      (updateRows (fun r => r.id = o.id) (Row.claimedBy cfg worker now) (recover now rows)) := by
    refine .updateRows (second.unique unique) (fun _ => rfl) fun r mem' same => ?_
    obtain rfl := eq_of_id (second.unique unique) mem' mem (of_decide_eq_true same)
    exact .claimedBy (Row.due_iff.mp (eligible_iff.mp chosen).1).1
  refine ⟨first.trans (second.trans third), fun again => ?_, rfl, ?_⟩
  · obtain ⟨c', prior, same⟩ := mem_map.mp again
    obtain ⟨r, kept, id, done⟩ := drains.spent c' prior
    have waits := ((first.trans second).row r kept o mem (id.trans same).symm).waits
      (Row.waits_of_due (eligible_iff.mp chosen).1)
    rw [done] at waits
    cases waits
  · refine ⟨o.claimedBy cfg worker now, mem_updateRows.mpr (.inl ⟨o, mem, by simp, rfl⟩), ?_⟩
    exact Claim.holds_iff.mpr ⟨rfl, rfl, rfl, rfl⟩

def Pass.left (rows₀ : List Row) (s : Pass) : Nat :=
  2 * (rows₀.length - s.claims.length) +
    if s.seenTenants.isEmpty && s.seenDestinations.isEmpty then 0 else 1

/-- A claim found no row: the table and the circuits move on. -/
theorem Drains.unclaimed (others : Others worker cutoff s.rows rows) (now : Time)
    (seenTenants : List Uuid) (seenDestinations : List String) :
    Drains cutoff rows₀ t₀
      { rows := recover now rows, circuits := s.circuitsAfter b now ⟨"", ""⟩, seenTenants,
        seenDestinations, claims := s.claims } := by
  have first := Onward.of_others others
  have onward := first.trans (.recover now ((drains.onward.trans first).unique starts.unique))
  refine ⟨drains.onward.trans onward, drains.once, ?_, named_circuitsAfter drains.named _, ?_⟩
  · exact fun c claimed => spent_onward onward (drains.spent c claimed)
  · intro k half
    rcases halfOpen_circuitsAfter half with old | ⟨rfl, -⟩
    · exact drains.halfOpen k old
    · obtain ⟨q, mem, -⟩ := half
      exact absurd rfl (named_circuitsAfter drains.named _ _ mem)

/-- A row was claimed: its outcome is recorded, since no other worker touches a held row. -/
theorem Drains.claimed (backoff : cfg.backoff = defaultOutboxBackoff) (fair : d.Fair worker cutoff)
    (claimed : Outbox.claimOne cfg worker cutoff d.claimAt x (d.before s.rows) = (rows, some c)) :
    ∃ rows', finalizeClaim cfg c (d.outcome cfg c.attempts) d.finalizeAt
      (d.during rows) = .ok rows' ∧
      Drains cutoff rows₀ t₀ { s.claimed b d c rows with
          rows := rows'
          circuits := (s.circuitsAfter b d.claimAt c.key).record b c.key d.finalizeAt
            (d.outcome cfg c.attempts) } := by
  have old := fair.before s.rows (drains.onward.unique starts.unique)
  obtain ⟨first, fresh, rfl, r, mem, holds⟩ := drains.claimOne starts old claimed
  have during := fair.during rows ((drains.onward.trans first).unique starts.unique)
  have second := Onward.of_others during
  have onward := first.trans second
  have held : r ∈ d.during rows := by
    obtain ⟨r', mem', id⟩ := exists_of_ids second.ids mem
    obtain ⟨-, -, busy, mine⟩ := Claim.holds_iff.mp holds
    rw [← eq_of_meanwhile (during.row r mem r' mem' id) busy mine]
    exact mem'
  obtain ⟨rows', noted, third, spent⟩ := finalizeClaim_spent backoff fair.late
    ((drains.onward.trans onward).unique starts.unique) held holds
  have tenant : c.key.tenantId ≠ "" := by
    rw [show c.key.tenantId = r.tenantId from (Claim.holds_iff.mp holds).2.1.symm]
    exact (drains.onward.trans first).tenants starts mem
  obtain ⟨named, halfOpen⟩ := drains.record (b := b) tenant d.claimAt
    (d.outcome cfg c.attempts) d.finalizeAt
  refine ⟨rows', noted, drains.onward.trans (onward.trans third), ?_, ?_, named, halfOpen⟩
  · rw [Pass.claimed, map_append]
    refine nodup_append.mpr ⟨drains.once, nodup_singleton _, ?_⟩
    rintro id prior id' last rfl
    exact fresh (mem_singleton.mp last ▸ prior)
  · refine Systems.forall_mem_snoc
      (fun c' prior => spent_onward (onward.trans third) (drains.spent c' prior)) ?_
    exact spent

/-! ## The end of a pass -/

/-- A pass that ended: no row was claimed twice; and where it ended without an error, a row that was
due is attempted, or the circuit of its key or a cap keeps it back. -/
structure Ended.Drained (cfg : Config) (cutoff : Time) (rows₀ : List Row) (t₀ : Circuits)
    (e : Ended) :
    Prop where
  once : (e.pass.claims.map Claim.id).Nodup
  listed : e.pass.claims.map Claim.id ⊆ rows₀.map Row.id
  attempted : e.error = none → ∀ r ∈ rows₀, r.due cutoff → ∃ r' ∈ e.pass.rows, r'.id = r.id ∧
    (r.attempts < r'.attempts ∨ r.key ∈ e.blocked ∨ underCaps cfg e.now e.pass.rows r = false)
  open_ : e.error = none → ∀ k ∈ e.blocked,
    (∃ q, (k, q) ∈ e.pass.circuits ∧ q.state = .opened ∧ e.now < q.openUntil) ∨ t₀.HalfOpen k

/-- The last claim of a pass: a row that is due still was not attempted, and is kept back. -/
theorem Drains.stop (others : Others worker cutoff s.rows rows)
    (claimed : Outbox.claimOne cfg worker cutoff now ⟨[], [], s.circuits.blocked b now⟩ rows =
      (rows', none)) :
    Ended.Drained cfg cutoff rows₀ t₀
      ⟨{ s with rows := rows', circuits := s.circuitsAfter b now ⟨"", ""⟩ }, none, now,
        s.circuits.blocked b now⟩ := by
  obtain ⟨rfl, gone⟩ := claimOne_eq_none claimed
  have moved := drains.unclaimed (b := b) starts others now [] []
  refine ⟨drains.once, drains.listed, fun _ r mem due => ?_, fun _ k blocked => ?_⟩
  · obtain ⟨r', mem', id⟩ := exists_of_ids moved.onward.ids mem
    have follows := moved.onward.row r mem r' mem' id
    refine ⟨r', mem', id, ?_⟩
    rcases follows.attempts.lt_or_eq with more | same
    · exact .inl more
    · refine .inr ?_
      by_cases blocked : r.key ∈ s.circuits.blocked b now
      · exact .inl blocked
      · have admitted : Exclusions.admits ⟨[], [], s.circuits.blocked b now⟩ r' := by
          simp [Exclusions.admits, follows.key, blocked]
        rw [← underCaps_congr follows.key]
        exact .inr (excluded_of_candidate gone mem' (follows.due same.symm due) admitted)
  · rcases mem_blocked blocked with ⟨q, mem, opened, early⟩ | half
    · exact .inl ⟨q, mem_circuitsAfter mem opened early, opened, early⟩
    · exact .inr (drains.halfOpen k half)

/-- What a turn leads to; only an error of the database ends a pass with an error. -/
def Turn.Sound (cfg : Config) (cutoff : Time) (rows₀ : List Row) (t₀ : Circuits) (d : Draw)
    (s : Pass) :
    Turn → Prop
  | .next s' => Drains cutoff rows₀ t₀ s' ∧ s'.left rows₀ < s.left rows₀
  | .ended e => e.Drained cfg cutoff rows₀ t₀ ∧
      (e.error ≠ none → d.claimFault ≠ none ∨ d.finalizeFault ≠ none)

theorem Drains.turn (backoff : cfg.backoff = defaultOutboxBackoff) (fair : d.Fair worker cutoff) :
    (turn cfg b worker cutoff d s).Sound cfg cutoff rows₀ t₀ d s := by
  have old := fair.before s.rows (drains.onward.unique starts.unique)
  unfold Outbox.turn
  dsimp only
  split
  next text fault =>
    exact ⟨⟨drains.once, drains.listed, nofun, nofun⟩, fun _ => .inl (by simp [fault])⟩
  next =>
    split
    next rows claimed =>
      obtain ⟨same, -⟩ := claimOne_eq_none claimed
      split
      next empty =>
        simp only [Bool.and_eq_true, List.isEmpty_iff] at empty
        rw [empty.1, empty.2] at claimed
        exact ⟨drains.stop starts old claimed, nofun⟩
      next seen =>
        subst same
        refine ⟨drains.unclaimed starts old d.claimAt [] [], ?_⟩
        simp only [Pass.left, if_neg seen]
        simp
    next rows c claimed =>
      obtain ⟨rows', noted, moved⟩ := drains.claimed (b := b) starts backoff fair claimed
      have ended : ∀ text now blocked, Ended.Drained cfg cutoff rows₀ t₀
          ⟨s.claimed b d c rows, some text, now, blocked⟩ :=
        fun _ _ _ => ⟨moved.once, moved.listed, nofun, nofun⟩
      split
      next text fault => exact ⟨ended .., fun _ => .inr (by simp [fault])⟩
      next =>
        rw [show (s.claimed b d c rows).rows = d.during rows from rfl, noted]
        refine ⟨moved, ?_⟩
        have fits := moved.once.length_le_of_subset moved.listed
        simp only [Pass.claimed, map_append, length_append, length_map,
          length_cons, length_nil] at fits
        simp only [Pass.left, Pass.claimed, length_append, length_cons, length_nil]
        simp
        omega

end Turns

/-- The clock of the worker never goes back. -/
structure Clock (cutoff : Time) (draws : Nat → Draw) : Prop where
  start : cutoff ≤ (draws 0).claimAt
  within : ∀ i, (draws i).claimAt ≤ (draws i).finalizeAt
  next : ∀ i, (draws i).finalizeAt ≤ (draws (i + 1)).claimAt

theorem Clock.late {draws : Nat → Draw} (clock : Clock cutoff draws) (i : Nat) :
    cutoff ≤ (draws i).finalizeAt := by
  induction i with
  | zero => exact clock.start.trans (clock.within 0)
  | succ i ih => exact (ih.trans (clock.next i)).trans (clock.within (i + 1))

theorem Drains.dispatch (starts : Starts rows₀) (backoff : cfg.backoff = defaultOutboxBackoff)
    {draws : Nat → Draw} (fair : ∀ i, (draws i).Fair worker cutoff) (bound : Nat) (i : Nat)
    (drains : Drains cutoff rows₀ t₀ s) (enough : s.left rows₀ < bound) :
    ∃ e, (∀ turns, bound ≤ turns → dispatch cfg b worker cutoff draws turns i s = some e) ∧
      e.Drained cfg cutoff rows₀ t₀ ∧
      (e.error ≠ none → ∃ i, (draws i).claimFault ≠ none ∨ (draws i).finalizeFault ≠ none) := by
  induction bound generalizing i s with
  | zero => exact absurd enough (Nat.not_lt_zero _)
  | succ bound ih =>
    have sound := drains.turn (b := b) starts backoff (fair i)
    have unfolds : ∀ turns, bound + 1 ≤ turns → ∃ m, turns = m + 1 ∧ bound ≤ m := by
      intro turns more
      exact ⟨turns - 1, by omega, by omega⟩
    cases result : Outbox.turn cfg b worker cutoff (draws i) s with
    | next s' =>
      rw [result] at sound
      obtain ⟨e, ends, drained, faults⟩ := ih (i + 1) sound.1 (by have := sound.2; omega)
      refine ⟨e, fun turns more => ?_, drained, faults⟩
      obtain ⟨m, rfl, rest⟩ := unfolds turns more
      rw [Outbox.dispatch, result]
      exact ends m rest
    | ended e =>
      rw [result] at sound
      refine ⟨e, fun turns more => ?_, sound.1, fun failed => ⟨i, sound.2 failed⟩⟩
      obtain ⟨m, rfl, -⟩ := unfolds turns more
      rw [Outbox.dispatch, result]

/-- A pass over any table ends within two turns for every row and one more, whatever the handler
returns and the jitter is.  It claims no row twice, and so no more rows than there are.  Only an
error of the database ends it with an error.  Otherwise every row that was due at the cutoff is
attempted, or a cap keeps it back at the last claim, or its circuit does, which then is open until
later or was half-open when the pass began. -/
theorem dispatch_drains {cfg : Config} {b : Breaker} {worker : String} {cutoff : Time}
    {draws : Nat → Draw} {rows : List Row} {circuits : Circuits}
    (backoff : cfg.backoff = defaultOutboxBackoff) (starts : Starts rows)
    (named : ∀ e ∈ circuits, e.1.tenantId ≠ "") (clock : Clock cutoff draws)
    (others : ∀ i rows, (rows.map Row.id).Nodup →
      Others worker cutoff rows ((draws i).before rows) ∧
        Others worker cutoff rows ((draws i).during rows)) :
    ∃ e, (∀ turns, 2 * rows.length + 1 ≤ turns →
        dispatch cfg b worker cutoff draws turns 0 { rows, circuits } = some e) ∧
      (e.pass.claims.map Claim.id).Nodup ∧ e.pass.claims.length ≤ rows.length ∧
      (e.error ≠ none → ∃ i, (draws i).claimFault ≠ none ∨ (draws i).finalizeFault ≠ none) ∧
      (e.error = none → (∀ r ∈ rows, r.due cutoff → ∃ r' ∈ e.pass.rows, r'.id = r.id ∧
          (r.attempts < r'.attempts ∨ r.key ∈ e.blocked ∨
            underCaps cfg e.now e.pass.rows r = false)) ∧
        ∀ k ∈ e.blocked, (∃ q, (k, q) ∈ e.pass.circuits ∧ q.state = .opened ∧ e.now < q.openUntil) ∨
            circuits.HalfOpen k) := by
  have drains : Drains cutoff rows circuits { rows, circuits } :=
    ⟨.refl starts.unique, nodup_nil, nofun, named, fun _ half => half⟩
  have fair : ∀ i, (draws i).Fair worker cutoff := fun i =>
    ⟨clock.late i, fun rows unique => (others i rows unique).1,
      fun rows unique => (others i rows unique).2⟩
  obtain ⟨e, ends, drained, faults⟩ := drains.dispatch (b := b) starts backoff fair
    (2 * rows.length + 1) 0 (by simp [Pass.left])
  refine ⟨e, ends, drained.once, ?_, faults, fun clean =>
    ⟨drained.attempted clean, drained.open_ clean⟩⟩
  have fits := drained.once.length_le_of_subset drained.listed
  rwa [length_map, length_map] at fits

/-- The options that the server leaves as they are. -/
def defaults : Config := { backoff := defaultOutboxBackoff }

def twoRows : List Row :=
  [{ id := 1, tenantId := "t", destination := "ca.issue", nextAttemptAt := 1 },
    { id := 2, tenantId := "t", destination := "ca.issue", nextAttemptAt := 2 }]

def firstFails (i : Nat) : Draw :=
  { claimAt := 5, finalizeAt := 5, failure := if i = 0 then some "down" else none }

/-- The first row is put off, the second delivered in the next round. -/
theorem two_rows_drained : ∃ e,
    dispatch defaults {} "a" 5 firstFails 5 0 { rows := twoRows } = some e ∧
      e.error = none ∧ e.pass.claims.map Claim.id = [1, 2] ∧
      ∀ r ∈ twoRows, ∃ r' ∈ e.pass.rows, r'.id = r.id ∧ r.attempts < r'.attempts := by
  obtain ⟨e, ends, -, -, faults, drained⟩ :=
    dispatch_drains (b := {}) (show defaults.backoff = defaultOutboxBackoff from rfl)
      (show Starts twoRows from ⟨by decide, by decide⟩) (show ∀ e ∈ ([] : Circuits), _ from nofun)
      (show Clock 5 firstFails from ⟨le_rfl, fun _ => le_rfl, fun _ => le_rfl⟩)
      (fun i rows unique => ⟨.refl "a" unique, .refl "a" unique⟩)
  have ran : dispatch defaults {} "a" 5 firstFails 5 0 { rows := twoRows } = some _ := rfl
  cases (ends 5 le_rfl).symm.trans ran
  refine ⟨_, ran, rfl, rfl, fun r mem => ?_⟩
  obtain ⟨r', mem', id, attempted | blocked | cap⟩ := (drained rfl).1 r mem
    ((by decide : ∀ r ∈ twoRows, r.due 5 = true) r mem)
  · exact ⟨r', mem', id, attempted⟩
  · cases blocked
  · rcases mem_cons.mp mem with rfl | mem
    · cases cap
    · obtain rfl := mem_singleton.mp mem
      cases cap

end Trustctl.Outbox
