import Trustctl.Outbox.Workers

/-!
# In-flight caps

A claim counts the leased rows of the destination and of the tenant before it takes one more.  With
one clock that does not go back, rows leave the leased ones by themselves and enter them by a claim
only, so that the two counts stay under their caps.

* `caps_hold`: the caps in every state, and the order in which rows are claimed.
-/

namespace Trustctl.Outbox

open List Store Systems
open Relational (updateRows mem_updateRows)

variable {cfg : Config} {w w' : World} {act : Action} {now now' : Time} {rows : List Row}

/-! ## Counting -/

/-- The leased rows that satisfy a predicate. -/
def inFlight (now : Time) (p : Row → Bool) (rows : List Row) : Nat :=
  rows.countP fun r => r.leased now && p r

/-- A lease that has not run out had not before. -/
theorem Row.leased_mono {r : Row} (later : now ≤ now') (leased : r.leased now') : r.leased now := by
  unfold Row.leased at *
  rw [Bool.and_eq_true] at *
  refine ⟨leased.1, ?_⟩
  cases lease : r.leaseUntil with
  | none => simp [lease] at leased
  | some end_ =>
    have live : now' < end_ := by simpa [lease] using leased.2
    exact decide_eq_true (Nat.lt_of_le_of_lt later live)

/-- An update that hands out no row leaves no more leased rows. -/
theorem inFlight_updateRows_le {cond p : Row → Bool} {set : Row → Row}
    (ends : ∀ r, cond r → (set r).status ≠ .processing) (later : now ≤ now') :
    inFlight now' p (updateRows cond set rows) ≤ inFlight now p rows := by
  unfold inFlight updateRows
  rw [countP_map]
  refine countP_mono_left fun r _ counted => ?_
  dsimp only [Function.comp_apply] at counted
  rw [Bool.and_eq_true] at counted ⊢
  split at counted
  next hit =>
    have busy := of_decide_eq_true (Bool.and_eq_true_iff.mp counted.1).1
    exact absurd busy (ends r hit)
  next => exact ⟨Row.leased_mono later counted.1, counted.2⟩

theorem inFlight_recover_le {p : Row → Bool} (later : now ≤ now') :
    inFlight now' p (recover now' rows) ≤ inFlight now p rows :=
  inFlight_updateRows_le (fun r _ => by simp [Row.release]) later

/-- Where no id occurs twice, one row has an id. -/
theorem countP_id_le_one (uniq : (rows.map Row.id).Nodup) (i : Nat) :
    rows.countP (fun r => r.id = i) ≤ 1 := by
  have once := nodup_iff_count_le_one.mp uniq i
  rw [count, countP_map] at once
  exact Nat.le_trans (countP_mono_left fun r _ named => by simpa using named) once

/-- An update of the rows under one id adds at most those rows to a count. -/
theorem countP_updateRows_le (i : Nat) (p : Row → Bool) (set : Row → Row) (rows : List Row) :
    (updateRows (fun r => r.id = i) set rows).countP p ≤
      rows.countP p + rows.countP fun r => r.id = i && p (set r) := by
  induction rows with
  | nil => exact .refl
  | cons r rest ih =>
    dsimp only [updateRows] at ih ⊢
    simp only [map_cons, countP_cons]
    by_cases named : r.id = i
    · simp only [named, decide_true, if_true, Bool.true_and]
      omega
    · simp only [named, decide_false, Bool.false_eq_true, if_false, Bool.false_and]
      omega

/-- A claim adds at most one row to a count, and none to a count that leaves its row out. -/
theorem inFlight_claimed_le {worker : String} {o : Row} {p : Row → Bool} {cap : Nat}
    (uniq : (rows.map Row.id).Nodup) (mem : o ∈ rows)
    (reads : ∀ r, p (r.claimedBy cfg worker now) = p r)
    (below : inFlight now p rows ≤ cap) (room : p o → inFlight now p rows < cap) :
    inFlight now p (updateRows (fun r => r.id = o.id) (Row.claimedBy cfg worker now) rows) ≤
      cap := by
  have added := countP_updateRows_le o.id (fun r => r.leased now && p r)
    (Row.claimedBy cfg worker now) rows
  unfold inFlight at *
  by_cases counted : p o
  · have one : rows.countP (fun r => r.id = o.id &&
        ((r.claimedBy cfg worker now).leased now && p (r.claimedBy cfg worker now))) ≤ 1 := by
      refine Nat.le_trans (countP_mono_left fun r _ both => ?_) (countP_id_le_one uniq o.id)
      exact (Bool.and_eq_true_iff.mp both).1
    have free := room counted
    omega
  · have none : rows.countP (fun r => r.id = o.id &&
        ((r.claimedBy cfg worker now).leased now && p (r.claimedBy cfg worker now))) = 0 := by
      refine countP_eq_zero.mpr fun r kept both => counted ?_
      obtain ⟨named, -, picked⟩ : r.id = o.id ∧ _ ∧ p (r.claimedBy cfg worker now) := by
        simpa only [Bool.and_eq_true, decide_eq_true_eq] using both
      rw [reads] at picked
      rwa [eq_of_id uniq kept mem named] at picked
    omega

/-! ## Runs -/

/-- The clock does not go back. -/
def World.ticking (w : World) (act : Action) : Bool := act.now?.all fun now => w.clock ≤ now

/-- The leased rows stay under the two caps. -/
structure World.Capped (cfg : Config) (w : World) : Prop where
  ids : w.Ids
  destination : ∀ d, inFlight w.clock (fun r => r.destination = d) w.rows ≤
    cfg.maxInFlightPerDestination
  tenant : ∀ t, inFlight w.clock (fun r => r.tenantId = t) w.rows ≤ cfg.maxInFlightPerTenant

namespace World.Capped

theorem empty : ({} : World).Capped cfg :=
  ⟨⟨nodup_nil, nofun, nofun⟩, fun _ => Nat.zero_le _, fun _ => Nat.zero_le _⟩

theorem keep (cap : w.Capped cfg) (ids : w'.Ids)
    (fewer : ∀ p, inFlight w'.clock p w'.rows ≤ inFlight w.clock p w.rows) : w'.Capped cfg where
  ids := ids
  destination := fun d => Nat.le_trans (fewer _) (cap.destination d)
  tenant := fun t => Nat.le_trans (fewer _) (cap.tenant t)

theorem inFlight_later {p : Row → Bool} (later : now ≤ now') :
    inFlight now' p rows ≤ inFlight now p rows := by
  refine countP_mono_left fun r _ counted => ?_
  rw [Bool.and_eq_true] at counted ⊢
  exact ⟨Row.leased_mono later counted.1, counted.2⟩

theorem step (cap : w.Capped cfg) (ticks : w.ticking act) (moves : Moves cfg w act w') :
    w'.Capped cfg := by
  have ids := cap.ids.step moves
  cases moves with
  | @enqueued tid dest now =>
    refine cap.keep ids fun p => ?_
    have later : w.clock ≤ now := of_decide_eq_true ticks
    refine Nat.le_trans (Nat.le_of_eq ?_) (inFlight_later later)
    simp [inFlight, enqueue, Row.leased]
  | @idle worker cutoff now x none =>
    have later : w.clock ≤ now := of_decide_eq_true ticks
    exact cap.keep ids fun p => inFlight_recover_le later
  | @claimed worker cutoff now x o c hit ready claim chosen =>
    have later : w.clock ≤ now := of_decide_eq_true ticks
    have uniq : ((recover now w.rows).map Row.id).Nodup := by
      rw [ids_recover]
      exact cap.ids.unique
    obtain ⟨-, -, caps, -⟩ := eligible_iff.mp ready
    obtain ⟨underDestination, underTenant⟩ := Bool.and_eq_true_iff.mp caps
    refine ⟨ids, fun d => ?_, fun t => ?_⟩
    · refine inFlight_claimed_le uniq hit (fun _ => rfl)
        (Nat.le_trans (inFlight_recover_le later) (cap.destination d)) fun same => ?_
      rw [← of_decide_eq_true same]
      exact of_decide_eq_true underDestination
    · refine inFlight_claimed_le uniq hit (fun _ => rfl)
        (Nat.le_trans (inFlight_recover_le later) (cap.tenant t)) fun same => ?_
      rw [← of_decide_eq_true same]
      exact of_decide_eq_true underTenant
  | @finalized n out now c held claim one =>
    have later : w.clock ≤ now := of_decide_eq_true ticks
    exact cap.keep ids fun p =>
      inFlight_updateRows_le (fun r _ => out.record_status cfg c now r) later
  | @lost n out now =>
    have later : w.clock ≤ now := of_decide_eq_true ticks
    exact cap.keep ids fun p => inFlight_later later
  | dropped => exact cap.keep ids fun p => .refl
  | @finished tid dest id now =>
    have later : w.clock ≤ now := of_decide_eq_true ticks
    exact cap.keep ids fun p =>
      inFlight_updateRows_le (fun r _ => by simp [recordDelivery]) later
  | @requeued tid id now =>
    have later : w.clock ≤ now := of_decide_eq_true ticks
    exact cap.keep ids fun p => inFlight_updateRows_le (fun r _ => by simp) later
  | @swept cutoff now =>
    have later : w.clock ≤ now := of_decide_eq_true ticks
    exact cap.keep ids fun p =>
      Nat.le_trans (filter_sublist.countP_le) (inFlight_later later)

end World.Capped

/-- In every run whose clock does not go back: at the last time and at every later one, the leased
rows of a destination and of a tenant are at most as many as the caps allow, and every claim takes
the first of the pending rows of its tenant and destination. -/
theorem caps_hold (cfg : Config) {acts : List Action} {w : World}
    (run : Run (World.step cfg) (fun w a => w.ticking a) {} acts w) (now : Time)
    (later : w.clock ≤ now) :
    (∀ d, inFlight now (fun r => r.destination = d) w.rows ≤ cfg.maxInFlightPerDestination) ∧
      (∀ t, inFlight now (fun r => r.tenantId = t) w.rows ≤ cfg.maxInFlightPerTenant) ∧
      ∀ worker cutoff x rows c, claimOne cfg worker cutoff now x w.rows = (rows, some c) →
        ∃ o ∈ recover now w.rows, o.id = c.id ∧ o.status = .pending ∧
          ∀ p ∈ recover now w.rows, p.status = .pending → p.key = o.key → p.before o = false := by
  have cap : w.Capped cfg := run.invariant
    (fun _ _ _ ticks moved inv => inv.step ticks (step_moves moved)) .empty
  refine ⟨fun d => ?_, fun t => ?_, fun worker cutoff now x c claimed => ?_⟩
  · exact Nat.le_trans (World.Capped.inFlight_later later) (cap.destination d)
  · exact Nat.le_trans (World.Capped.inFlight_later later) (cap.tenant t)
  · -- a claimed row comes before every pending row of its tenant and destination
    obtain ⟨o, hit, ready, rfl, -⟩ := claimOne_eq_some claimed
    obtain ⟨due, -, -, first⟩ := eligible_iff.mp ready
    obtain ⟨pending, got⟩ := Bool.and_eq_true_iff.mp due
    refine ⟨o, hit, rfl, of_decide_eq_true pending, fun p kept waiting same => ?_⟩
    by_cases reached' : p.nextAttemptAt ≤ cutoff
    · exact first p kept (by simp [Row.due, waiting, reached']) same
    · have prior : o.nextAttemptAt < p.nextAttemptAt :=
        Nat.lt_of_le_of_lt (of_decide_eq_true got) (Nat.lt_of_not_le reached')
      unfold Row.before
      simp [Nat.not_lt_of_lt prior, Nat.ne_of_gt prior]

/-- Two rows of one destination: the older one is claimed, the other waits under the cap. -/
theorem second_row_waits : ∃ w, executeIf (World.step { backoff := fun _ => 0 }) World.ticking {}
        [.enqueue "t" "ca.issue" 1, .enqueue "u" "ca.issue" 1, .claimOne "a" 2 {} 2,
          .claimOne "b" 3 {} 3] = some w ∧
      inFlight 3 (fun r => r.destination = "ca.issue") w.rows ≤ 1 ∧ w.made.map Claim.id = [1] ∧
      ∃ o ∈ recover 40000000000 w.rows, o.id = 1 ∧ o.status = .pending := by
  have ran : executeIf (World.step { backoff := fun _ => 0 }) World.ticking {}
      [.enqueue "t" "ca.issue" 1, .enqueue "u" "ca.issue" 1, .claimOne "a" 2 {} 2,
        .claimOne "b" 3 {} 3] = some _ := rfl
  refine ⟨_, ran, ?_, rfl, ?_⟩
  · exact (caps_hold _ (run_of_executeIf ran) 3 (by decide)).1 "ca.issue"
  · obtain ⟨o, hit, named, pending, -⟩ :=
      (caps_hold _ (run_of_executeIf ran) 40000000000 (by decide)).2.2 "a" 40000000000 {} _ _ rfl
    exact ⟨o, hit, named, pending⟩

end Trustctl.Outbox
