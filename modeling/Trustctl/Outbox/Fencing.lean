import Trustctl.Outbox.Workers

/-!
# Claims and their leases

An outcome is recorded where the row is still processing under the worker's id.  The id names the
worker, not the claim, so the guard tells two claims of one row apart only if they are of different
workers.  The attempts of a row count its claims; they are compared with the limit when a failure is
recorded, but not when an expired lease is recovered.

* `finalize_fenced`: as long as no worker claims a row of which it still holds a claim, only the
  last claim of a row records its outcome;
* `attempts_bounded`: as long as, besides, no lease of a last attempt expires, no row is claimed
  more often than the limit.
-/

namespace Trustctl.Outbox

open List Store Systems
open Relational (updateRows mem_updateRows)

variable {cfg : Config} {w w' : World} {act : Action} {n : Nat} {c : Claim}

/-! ## Fencing -/

def World.fenced (cfg : Config) (w : World) : Action → Bool
  | .claimOne worker cutoff x now =>
    (claimOne cfg worker cutoff now x w.rows).2.all fun c =>
      w.outstanding.all fun n => (w.made[n]?).all fun c' =>
        !(c'.id = c.id && c'.workerId = c.workerId)
  | _ => true

/-- The claim at position `m` is the last one of the row, and the row is leased to its worker. -/
structure World.LeasedBy (w : World) (r : Row) (m : Nat) (c : Claim) : Prop where
  claim : w.made[m]? = some c
  row : c.id = r.id
  worker : r.workerId = some c.workerId
  latest : w.Latest m

/-- What the guard of `finalizeClaim` rests on. -/
structure World.Fenced (w : World) : Prop where
  made : ∀ n ∈ w.outstanding, n < w.made.length
  distinct : ∀ n ∈ w.outstanding, ∀ m c c', n < m → w.made[n]? = some c → w.made[m]? = some c' →
    c'.id = c.id → c'.workerId ≠ c.workerId
  leased : ∀ r ∈ w.rows, r.status = .processing → ∃ m c, w.LeasedBy r m c

namespace World

variable {m : Nat}

/-- A later claim of another row leaves the last claim of a row the last. -/
theorem Latest.append (last : w.Latest m) (made : w'.made = w.made ++ [c]) {d : Claim}
    (claim : w.made[m]? = some d) (other : c.id ≠ d.id) : w'.Latest m := by
  intro k d' c' later claim' new
  rw [made] at claim' new
  rw [List.getElem?_append_left (List.getElem?_eq_some_iff.mp claim).1, claim] at claim'
  cases claim'
  by_cases old : k < w.made.length
  · rw [List.getElem?_append_left old] at new
    exact last k d c' later claim new
  · rw [List.getElem?_append_right (by omega), List.getElem?_singleton] at new
    split at new
    · cases new
      exact other
    · cases new

theorem latest_last (made : w'.made = w.made ++ [c]) : w'.Latest w.made.length := by
  intro m d c' later _ new
  rw [made, List.getElem?_eq_none (by simp; omega)] at new
  cases new

theorem Latest.congr (last : w.Latest m) (made : w'.made = w.made) : w'.Latest m := by
  intro k d c' later claim new
  rw [made] at claim new
  exact last k d c' later claim new

/-- Two last claims of one row are the same claim. -/
theorem Latest.unique {d : Claim} (last : w.Latest n) (latest' : w.Latest m)
    (claim : w.made[n]? = some c) (claim' : w.made[m]? = some d) (same : c.id = d.id) : n = m := by
  rcases Nat.lt_trichotomy n m with old | equal | after
  · exact absurd same.symm (last m c d old claim claim')
  · exact equal
  · exact absurd same (latest' n d c after claim' claim)

namespace Fenced

theorem empty : ({} : World).Fenced := ⟨nofun, nofun, nofun⟩

theorem keep (fenced : w.Fenced) (made : w'.made = w.made) (sub : w'.outstanding ⊆ w.outstanding)
    (rows : ∀ r ∈ w'.rows, r.status = .processing → r ∈ w.rows) : w'.Fenced where
  made := by
    intro n held
    rw [made]
    exact fenced.made n (sub held)
  distinct := by
    intro n held
    rw [made]
    exact fenced.distinct n (sub held)
  leased := by
    intro r mem busy
    obtain ⟨m, c, leased⟩ := fenced.leased r (rows r mem busy) busy
    exact ⟨m, c, made ▸ leased.claim, leased.row, leased.worker, leased.latest.congr made⟩

variable {worker : String} {now : Time}

/-- The row that is claimed is leased to the new claim; every other keeps its own. -/
theorem claim (fenced : w.Fenced) {o : Row}
    (claim : c = { id := o.id, tenantId := o.tenantId, destination := o.destination,
                   attempts := o.attempts + 1, workerId := worker })
    (alone : ∀ n ∈ w.outstanding, ∀ c', w.made[n]? = some c' →
      ¬ (c'.id = c.id ∧ c'.workerId = c.workerId))
    (rows : w'.rows = updateRows (fun r => r.id = o.id) (Row.claimedBy cfg worker now)
      (recover now w.rows))
    (made : w'.made = w.made ++ [c])
    (outstanding : w'.outstanding = w.outstanding ++ [w.made.length]) : w'.Fenced where
  made := by
    intro n held
    rw [outstanding] at held
    rw [made, length_append, length_singleton]
    rcases mem_snoc.mp held with old | rfl
    · exact Nat.lt_succ_of_lt (fenced.made n old)
    · exact Nat.lt_succ_self _
  distinct := by
    intro n held m d d' later claimed claimed' same
    rw [outstanding] at held
    rw [made] at claimed claimed'
    have le : m < w.made.length + 1 := by
      simpa using (List.getElem?_eq_some_iff.mp claimed').1
    rcases mem_snoc.mp held with old | rfl
    · rw [List.getElem?_append_left (fenced.made n old)] at claimed
      by_cases older : m < w.made.length
      · rw [List.getElem?_append_left older] at claimed'
        exact fenced.distinct n old m d d' later claimed claimed' same
      · obtain rfl : m = w.made.length := by omega
        rw [List.getElem?_append_right (Nat.le_refl _), Nat.sub_self] at claimed'
        cases claimed'
        exact fun equal => alone n old d claimed ⟨same.symm, equal.symm⟩
    · omega
  leased := by
    intro r mem busy
    rw [rows] at mem
    rcases mem_updateRows.mp mem with ⟨q, -, hit, rfl⟩ | ⟨kept, miss⟩
    · refine ⟨w.made.length, c, by rw [made]; simp, ?_, ?_, latest_last made⟩
      · rw [claim]
        exact (of_decide_eq_true hit).symm
      · rw [claim]
        rfl
    · obtain ⟨m, d, leased⟩ := fenced.leased r (processing_of_recover kept busy) busy
      have le := (List.getElem?_eq_some_iff.mp leased.claim).1
      refine ⟨m, d, ?_, leased.row, leased.worker, leased.latest.append made leased.claim ?_⟩
      · rw [made, List.getElem?_append_left le]
        exact leased.claim
      · rw [claim, leased.row]
        exact fun same => of_decide_eq_false miss same.symm

theorem step (fenced : w.Fenced) (alone : w.fenced cfg act) (moves : Moves cfg w act w') :
    w'.Fenced := by
  have fewer {n : Nat} : w.outstanding.filter (· ≠ n) ⊆ w.outstanding := filter_subset_self _
  cases moves with
  | enqueued =>
    refine fenced.keep rfl (.refl _) fun r mem busy => ?_
    rcases mem_snoc.mp mem with old | rfl
    · exact old
    · cases busy
  | idle =>
    exact fenced.keep rfl (.refl _) fun _ mem busy =>
      processing_of_recover mem busy
  | claimed hit ready claim chosen =>
    refine fenced.claim claim (fun n held c' claimed both => ?_) rfl rfl rfl
    rw [World.fenced, chosen, Option.all_some, all_eq_true] at alone
    have apart := alone n held
    rw [claimed] at apart
    simp [both.1, both.2] at apart
  | @finalized n out now c =>
    exact fenced.keep rfl fewer fun _ mem busy =>
      processing_of_updateRows (fun q _ => out.record_status cfg c now q) mem busy
  | lost | dropped => exact fenced.keep rfl fewer fun _ mem _ => mem
  | finished =>
    refine fenced.keep rfl (.refl _) fun _ mem busy => ?_
    exact processing_of_updateRows (fun q _ => by simp [recordDelivery]) mem busy
  | requeued =>
    refine fenced.keep rfl (.refl _) fun _ mem busy => ?_
    exact processing_of_updateRows (fun q _ => by simp) mem busy
  | swept =>
    exact fenced.keep rfl (.refl _) fun _ mem _ => (mem_filter.mp mem).1

variable {r : Row}

/-- A claim that still holds a row is the last one of the row. -/
theorem latest_of_holds (fenced : w.Fenced) (held : n ∈ w.outstanding)
    (claim : w.made[n]? = some c) (mem : r ∈ w.rows) (holds : c.holds r) :
    w.LeasedBy r n c := by
  obtain ⟨row, -, busy, worker⟩ := Claim.holds_iff.mp holds
  obtain ⟨m, d, leased⟩ := fenced.leased r mem busy
  have same : d.id = c.id := leased.row.trans row
  have sameWorker : d.workerId = c.workerId := Option.some.inj (leased.worker.symm.trans worker)
  obtain rfl : n = m := by
    rcases Nat.lt_trichotomy n m with old | equal | after
    · exact absurd sameWorker (fenced.distinct n held m c d old claim leased.claim same)
    · exact equal
    · exact absurd same.symm (leased.latest n d c after leased.claim claim)
  exact ⟨claim, row.symm, worker, leased.latest⟩

end Fenced

end World

def plainConfig : Config := { backoff := fun _ => 1000000000 }

/-- A row that `a` claims, and the other claims when its lease is over. -/
def reclaimedBy (worker : String) : List Action := [
  .enqueue "t" "ca.issue" 1, .claimOne "a" 1 {} 1, .claimOne worker 40000000000 {} 40000000000]

/-- In every run in which no worker claims a row while it still holds a claim of it: an outcome is
recorded only for the last claim of a row, and a stale claim is told that its lease was lost and
changes nothing. -/
theorem finalize_fenced (cfg : Config) {acts : List Action} {w : World}
    (run : Run (World.step cfg) (fun w a => w.fenced cfg a) {} acts w) {n : Nat} {c : Claim}
    (held : n ∈ w.outstanding) (claim : w.made[n]? = some c) (outcome : Outcome) (now : Time) :
    (∀ rows, finalizeClaim cfg c outcome now w.rows = .ok rows → w.Latest n) ∧
      (¬ w.Latest n → finalizeClaim cfg c outcome now w.rows = .error (leaseLost c outcome) ∧
        ∀ w', w.step cfg (.finalizeClaim n outcome now) = some w' → w'.rows = w.rows) := by
  have fenced : w.Fenced := run.invariant
    (fun _ _ _ alone moved inv => inv.step alone (step_moves moved)) .empty
  have last (one : w.rows.countP c.holds = 1) : w.Latest n := by
    obtain ⟨r, mem, holds⟩ := countP_pos_iff.mp (Nat.lt_of_lt_of_eq Nat.zero_lt_one one.symm)
    exact (fenced.latest_of_holds held claim mem holds).latest
  refine ⟨fun rows noted => last (finalizeClaim_eq_ok.mp noted).1, fun stale => ⟨?_, ?_⟩⟩
  · exact if_neg fun one => stale (last one)
  · intro w' moved
    cases step_moves moved with
    | finalized _ claim' one =>
      rw [claim] at claim'
      cases claim'
      exact absurd (last one) stale
    | lost => rfl

/-- The lease of `a` runs out and `b` claims the row: `a` is refused. -/
theorem stale_worker_refused : ∃ w c,
    executeIf (World.step plainConfig) (World.fenced plainConfig) {} (reclaimedBy "b") = some w ∧
      ¬ w.Latest 0 ∧ w.made[0]? = some c ∧
      finalizeClaim plainConfig c .delivered 41000000000 w.rows = .error (leaseLost c .delivered) ∧
      w.Latest 1 := by
  have ran : executeIf (World.step plainConfig) (World.fenced plainConfig) {}
      (reclaimedBy "b") = some _ := rfl
  have run := run_of_executeIf ran
  refine ⟨_, _, ran, ?_, rfl, ?_, ?_⟩
  · exact fun last => last 1 _ _ Nat.zero_lt_one rfl rfl rfl
  · refine ((finalize_fenced plainConfig run (n := 0) (by decide) rfl _ _).2 fun last => ?_).1
    exact last 1 _ _ Nat.zero_lt_one rfl rfl rfl
  · exact (finalize_fenced plainConfig run (n := 1) (by decide) rfl .delivered 41000000000).1 _ rfl

/-- The lease runs out and the same worker claims the row again in another call: the first call
marks the row delivered while the second still delivers it. -/
theorem stale_claim_delivers : ∃ w w',
    execute (World.step plainConfig) {} (reclaimedBy "a") = some w ∧ 0 ∈ w.outstanding ∧
      ¬ w.Latest 0 ∧ w.step plainConfig (.finalizeClaim 0 .delivered 41000000000) = some w' ∧
      w.rows.map Row.status = [.processing] ∧ w'.rows.map Row.status = [.delivered] := by
  refine ⟨_, _, rfl, by decide, ?_, rfl, rfl, rfl⟩
  exact fun last => last 1 _ _ Nat.zero_lt_one rfl rfl rfl

/-! ## Attempts -/

/-- Besides, no lease of a last attempt is found expired, and no operator requeues a row. -/
def World.timely (cfg : Config) (w : World) : Action → Bool
  | .claimOne worker cutoff x now =>
    w.fenced cfg (.claimOne worker cutoff x now) &&
      w.rows.all fun r => !(r.expired now && cfg.maxAttempts ≤ r.attempts)
  | .requeue .. => false
  | _ => true

/-- The attempts of a row count its claims and leave one more to every pending row. -/
structure World.Counted (cfg : Config) (w : World) : Prop where
  ids : w.Ids
  fenced : w.Fenced
  counted : ∀ r ∈ w.rows, w.made.countP (fun c => c.id = r.id) = r.attempts
  bounded : ∀ r ∈ w.rows, r.attempts ≤ cfg.maxAttempts
  retryable : ∀ r ∈ w.rows, r.status = .pending → r.attempts < cfg.maxAttempts
  current : ∀ r ∈ w.rows, r.status = .processing → ∀ m c, w.LeasedBy r m c → c.attempts = r.attempts

namespace World.Counted

theorem empty : ({} : World).Counted cfg :=
  ⟨⟨nodup_nil, nofun, nofun⟩, .empty, nofun, nofun, nofun, nofun⟩

theorem leasedBy_congr {r : Row} {m : Nat} (leased : w'.LeasedBy r m c) (made : w'.made = w.made) :
    w.LeasedBy r m c :=
  ⟨made ▸ leased.claim, leased.row, leased.worker, leased.latest.congr made.symm⟩

variable (counted : w.Counted cfg)

include counted

/-- A step that claims nothing: every row it leaves was there with the same attempts. -/
theorem keep (ids : w'.Ids) (fenced : w'.Fenced) (made : w'.made = w.made)
    (rows : ∀ r ∈ w'.rows, (∃ q ∈ w.rows, q.id = r.id ∧ q.attempts = r.attempts) ∧
      (r.status = .pending → r.attempts < cfg.maxAttempts) ∧
      (r.status = .processing → r ∈ w.rows)) : w'.Counted cfg where
  ids := ids
  fenced := fenced
  counted := by
    intro r mem
    obtain ⟨⟨q, kept, same, tries⟩, -, -⟩ := rows r mem
    rw [made, ← same, ← tries]
    exact counted.counted q kept
  bounded := by
    intro r mem
    obtain ⟨⟨q, kept, -, tries⟩, -, -⟩ := rows r mem
    rw [← tries]
    exact counted.bounded q kept
  retryable := fun r mem => (rows r mem).2.1
  current := by
    intro r mem busy m c leased
    exact counted.current r ((rows r mem).2.2 busy) busy m c (leasedBy_congr leased made)

/-- What is left of a row by the recovery of expired leases that are not of last attempts. -/
theorem recovered {now : Time} {r : Row}
    (spare : ∀ q ∈ w.rows, q.expired now → q.attempts < cfg.maxAttempts)
    (mem : r ∈ recover now w.rows) : (∃ q ∈ w.rows, q.id = r.id ∧ q.attempts = r.attempts) ∧
      (r.status = .pending → r.attempts < cfg.maxAttempts) ∧
      (r.status = .processing → r ∈ w.rows) := by
  refine ⟨?_, ?_, processing_of_recover mem⟩
  · rcases mem_updateRows.mp mem with ⟨q, kept, -, rfl⟩ | ⟨kept, -⟩
    · exact ⟨q, kept, rfl, rfl⟩
    · exact ⟨r, kept, rfl, rfl⟩
  · intro pending
    rcases mem_updateRows.mp mem with ⟨q, kept, past, rfl⟩ | ⟨kept, -⟩
    · exact spare q kept past
    · exact counted.retryable r kept pending

/-- The claimed row has used one more attempt; every other row is as the recovery left it. -/
theorem claim {worker : String} {cutoff now : Time} {o : Row}
    (spare : ∀ q ∈ w.rows, q.expired now → q.attempts < cfg.maxAttempts)
    (found : o ∈ recover now w.rows) (due : o.due cutoff)
    (claim : c = { id := o.id, tenantId := o.tenantId, destination := o.destination,
                   attempts := o.attempts + 1, workerId := worker })
    (ids : w'.Ids) (fenced : w'.Fenced)
    (rows : w'.rows = updateRows (fun r => r.id = o.id) (Row.claimedBy cfg worker now)
      (recover now w.rows))
    (made : w'.made = w.made ++ [c]) : w'.Counted cfg := by
  have uniq : ((recover now w.rows).map Row.id).Nodup := by
    rw [ids_recover]
    exact counted.ids.unique
  obtain ⟨⟨q, stored, same, attempts⟩, spared, -⟩ := counted.recovered spare found
  have pending : o.status = .pending := by
    unfold Row.due at due
    rw [Bool.and_eq_true] at due
    exact of_decide_eq_true due.1
  have before : w.made.countP (fun d => d.id = o.id) = o.attempts := by
    rw [← same, ← attempts]
    exact counted.counted q stored
  -- A row of the new table is the claimed one or another that was not touched.
  have split : ∀ r ∈ w'.rows, r = o.claimedBy cfg worker now ∨
      (r ∈ recover now w.rows ∧ r.id ≠ o.id) := by
    intro r mem
    rw [rows] at mem
    rcases mem_updateRows.mp mem with ⟨p, kept, hit, rfl⟩ | ⟨kept, miss⟩
    · rw [eq_of_id uniq kept found (of_decide_eq_true hit)]
      exact .inl rfl
    · exact .inr ⟨kept, of_decide_eq_false miss⟩
  refine ⟨ids, fenced, ?_, ?_, ?_, ?_⟩
  · intro r mem
    rw [made, countP_append, countP_singleton, claim]
    rcases split r mem with rfl | ⟨kept, other⟩
    · simp only [Row.claimedBy, decide_true, if_true]
      exact congrArg (· + 1) before
    · obtain ⟨⟨p, old, sameId, sameAttempts⟩, -, -⟩ := counted.recovered spare kept
      rw [← sameAttempts, ← counted.counted p old, sameId]
      simp [other.symm]
  · intro r mem
    rcases split r mem with rfl | ⟨kept, -⟩
    · exact spared pending
    · obtain ⟨⟨p, old, -, sameAttempts⟩, -, -⟩ := counted.recovered spare kept
      rw [← sameAttempts]
      exact counted.bounded p old
  · intro r mem waiting
    rcases split r mem with rfl | ⟨kept, -⟩
    · cases waiting
    · exact (counted.recovered spare kept).2.1 waiting
  · intro r mem busy m d leased
    rcases split r mem with rfl | ⟨kept, other⟩
    · have last : w'.made[w.made.length]? = some c := by
        rw [made]
        simp
      have row : d.id = c.id := by
        rw [leased.row, claim]
        rfl
      obtain rfl := leased.latest.unique (latest_last made) leased.claim last row
      rw [leased.claim] at last
      cases last
      rw [claim]
      rfl
    · have old := processing_of_recover kept busy
      obtain ⟨k, e, leased'⟩ := counted.fenced.leased r old busy
      have le := (List.getElem?_eq_some_iff.mp leased'.claim).1
      have still : w'.made[k]? = some e := by
        rw [made, List.getElem?_append_left le]
        exact leased'.claim
      have apart : c.id ≠ e.id := by
        rw [claim, leased'.row]
        exact other.symm
      obtain rfl := leased.latest.unique (leased'.latest.append made leased'.claim apart)
        leased.claim still (leased.row.trans leased'.row.symm)
      rw [leased.claim] at still
      cases still
      exact counted.current r old busy _ _ leased'

/-- An outcome is recorded under the limit that the claim has counted. -/
theorem finalize {now : Time} {r : Row} {out : Outcome} (held : n ∈ w.outstanding)
    (claim : w.made[n]? = some c)
    (mem : r ∈ updateRows c.holds (out.record cfg c now) w.rows) :
    (∃ q ∈ w.rows, q.id = r.id ∧ q.attempts = r.attempts) ∧
      (r.status = .pending → r.attempts < cfg.maxAttempts) ∧
      (r.status = .processing → r ∈ w.rows) := by
  refine ⟨?_, ?_, processing_of_updateRows (fun q _ => out.record_status cfg c now q) mem⟩
  · rcases mem_updateRows.mp mem with ⟨q, kept, -, rfl⟩ | ⟨kept, -⟩
    · refine ⟨q, kept, (out.record_id cfg c now q).symm, ?_⟩
      cases out <;> rfl
    · exact ⟨r, kept, rfl, rfl⟩
  · intro pending
    rcases mem_updateRows.mp mem with ⟨q, kept, holds, rfl⟩ | ⟨kept, -⟩
    · have leased := counted.fenced.latest_of_holds held claim kept holds
      have used := counted.current q kept (Claim.holds_iff.mp holds).2.2.1 n c leased
      cases out with
      | delivered => cases pending
      | failed text jittered =>
        dsimp only [Outcome.record, Claim.recordFailure] at pending ⊢
        split at pending
        · cases pending
        · omega
    · exact counted.retryable r kept pending

omit counted

theorem fenced_of_timely (timely : w.timely cfg act) : w.fenced cfg act := by
  cases act with
  | claimOne worker cutoff x now => exact (Bool.and_eq_true_iff.mp timely).1
  | _ => rfl

theorem spare_of_timely {worker : String} {cutoff now : Time} {x : Exclusions}
    (timely : w.timely cfg (.claimOne worker cutoff x now)) :
    ∀ q ∈ w.rows, q.expired now → q.attempts < cfg.maxAttempts := by
  intro q kept past
  have spared := all_eq_true.mp (Bool.and_eq_true_iff.mp timely).2 q kept
  simpa [past] using spared

theorem step (counted : w.Counted cfg) (pos : 0 < cfg.maxAttempts)
    (timely : w.timely cfg act) (moves : Moves cfg w act w') : w'.Counted cfg := by
  have ids := counted.ids.step moves
  have fenced := counted.fenced.step (fenced_of_timely timely) moves
  have same : ∀ r ∈ w.rows, (∃ q ∈ w.rows, q.id = r.id ∧ q.attempts = r.attempts) ∧
      (r.status = .pending → r.attempts < cfg.maxAttempts) ∧
        (r.status = .processing → r ∈ w.rows) :=
    fun r mem => ⟨⟨r, mem, rfl, rfl⟩, counted.retryable r mem, fun _ => mem⟩
  cases moves with
  | @enqueued tid dest now =>
    refine ⟨ids, fenced, ?_, ?_, ?_, ?_⟩
    · refine forall_mem_snoc counted.counted ?_
      refine countP_eq_zero.mpr fun d claimed equal => ?_
      exact absurd (of_decide_eq_true equal) (Nat.ne_of_lt (counted.ids.claimed d claimed))
    · refine forall_mem_snoc counted.bounded ?_
      exact Nat.zero_le _
    · intro r mem pending
      rcases mem_snoc.mp mem with old | rfl
      · exact counted.retryable r old pending
      · exact pos
    · intro r mem busy m d leased
      rcases mem_snoc.mp mem with old | rfl
      · exact counted.current r old busy m d (leasedBy_congr leased rfl)
      · cases busy
  | idle =>
    exact counted.keep ids fenced rfl fun r mem => counted.recovered (spare_of_timely timely) mem
  | claimed hit ready claim chosen =>
    exact counted.claim (spare_of_timely timely) hit (eligible_iff.mp ready).1 claim ids fenced
      rfl rfl
  | finalized held claim one =>
    exact counted.keep ids fenced rfl fun r mem => counted.finalize held claim mem
  | lost | dropped => exact counted.keep ids fenced rfl same
  | finished =>
    refine counted.keep ids fenced rfl fun r mem => ?_
    rcases mem_updateRows.mp mem with ⟨q, kept, -, rfl⟩ | ⟨kept, -⟩
    · exact ⟨⟨q, kept, rfl, rfl⟩, by simp [recordDelivery], by simp [recordDelivery]⟩
    · exact same r kept
  | requeued => cases timely
  | swept => exact counted.keep ids fenced rfl fun r mem => same r (mem_filter.mp mem).1

end World.Counted

def Row.Settled (r : Row) : Prop := r.status = .failed ∨ r.status = .delivered

/-- A settled row is not handed out again. -/
theorem step_settled (timely : w.timely cfg act) (moves : Moves cfg w act w') {i : Nat}
    (drawn : i < w.nextId) (done : ∀ r ∈ w.rows, r.id = i → r.Settled) :
    i < w'.nextId ∧ ∀ r ∈ w'.rows, r.id = i → r.Settled := by
  have busy {r : Row} (mem : r ∈ w.rows) (named : r.id = i) : r.status ≠ .processing := by
    rcases done r mem named with failed | delivered
    · simp [failed]
    · simp [delivered]
  have recovered {now : Time} : ∀ r ∈ recover now w.rows, r.id = i → r.Settled := by
    intro r mem named
    rcases mem_updateRows.mp mem with ⟨q, stored, past, rfl⟩ | ⟨stored, -⟩
    · have processing := (Bool.and_eq_true_iff.mp past).1
      exact absurd (of_decide_eq_true processing) (busy stored named)
    · exact done r stored named
  cases moves with
  | enqueued =>
    refine ⟨Nat.lt_succ_of_lt drawn, fun r mem named => ?_⟩
    rcases mem_snoc.mp mem with old | rfl
    · exact done r old named
    · exact absurd named (Nat.ne_of_gt drawn)
  | idle => exact ⟨drawn, recovered⟩
  | claimed found ready claim chosen =>
    refine ⟨drawn, fun r mem named => ?_⟩
    rcases mem_updateRows.mp mem with ⟨q, -, hit, rfl⟩ | ⟨kept, -⟩
    · have due := (eligible_iff.mp ready).1
      have pending := of_decide_eq_true (Bool.and_eq_true_iff.mp due).1
      rcases recovered _ found ((of_decide_eq_true hit).symm.trans named) with failed | delivered
      · exact absurd (failed.symm.trans pending) nofun
      · exact absurd (delivered.symm.trans pending) nofun
    · exact recovered r kept named
  | @finalized n out now c held claim one =>
    refine ⟨drawn, fun r mem named => ?_⟩
    rcases mem_updateRows.mp mem with ⟨q, stored, holds, rfl⟩ | ⟨stored, -⟩
    · rw [out.record_id] at named
      exact absurd (Claim.holds_iff.mp holds).2.2.1 (busy stored named)
    · exact done r stored named
  | lost | dropped => exact ⟨drawn, done⟩
  | finished =>
    refine ⟨drawn, fun r mem named => ?_⟩
    rcases mem_updateRows.mp mem with ⟨q, -, -, rfl⟩ | ⟨stored, -⟩
    · exact .inr rfl
    · exact done r stored named
  | requeued => cases timely
  | swept => exact ⟨drawn, fun r mem named => done r (mem_filter.mp mem).1 named⟩

/-- In every run in which no worker claims a row while it still holds a claim of it and no lease of
a last attempt is found expired: no row is claimed more often than the limit, a row that has used
its attempts is not pending, and a row that has failed or was delivered stays so. -/
theorem attempts_bounded (cfg : Config) (positive : 0 < cfg.maxAttempts) {acts : List Action}
    {w : World} (run : Run (World.step cfg) (fun w a => w.timely cfg a) {} acts w) :
    (∀ r ∈ w.rows, w.made.countP (fun c => c.id = r.id) ≤ cfg.maxAttempts ∧
      r.attempts ≤ cfg.maxAttempts ∧ (r.attempts = cfg.maxAttempts → r.status ≠ .pending)) ∧
      ∀ (acts' : List Action) (w' : World),
        Run (World.step cfg) (fun w a => w.timely cfg a) w acts' w' →
        ∀ r ∈ w.rows, r.Settled → ∀ r' ∈ w'.rows, r'.id = r.id → r'.Settled := by
  have counted : w.Counted cfg := run.invariant
    (fun _ _ _ timely moved inv => inv.step positive timely (step_moves moved)) .empty
  refine ⟨fun r mem => ⟨?_, counted.bounded r mem, ?_⟩, ?_⟩
  · rw [counted.counted r mem]
    exact counted.bounded r mem
  · intro used pending
    exact absurd used (Nat.ne_of_lt (counted.retryable r mem pending))
  · intro acts' w' later r mem done
    have init : ∀ q ∈ w.rows, q.id = r.id → q.Settled := by
      intro q kept same
      rw [eq_of_id counted.ids.unique kept mem same]
      exact done
    exact (later.invariant (I := fun w => r.id < w.nextId ∧ ∀ q ∈ w.rows, q.id = r.id → q.Settled)
      (fun _ _ _ timely moved inv => step_settled timely (step_moves moved) inv.1 inv.2)
      ⟨counted.ids.drawn r mem, init⟩).2

/-- One attempt is all that a row gets; it fails and stays so. -/
def onceConfig : Config := { plainConfig with maxAttempts := 1 }

/-- The one attempt fails, and no later claim takes the row. -/
theorem failed_row_stays : ∃ w w', executeIf (World.step onceConfig) (World.timely onceConfig) {}
        [.enqueue "t" "ca.issue" 1, .claimOne "a" 1 {} 1, .finalizeClaim 0 (.failed "down" 0) 2] =
        some w ∧
      executeIf (World.step onceConfig) (World.timely onceConfig) w [.claimOne "a" 90 {} 90] =
        some w' ∧
      (∀ r ∈ w.rows, r.attempts ≤ 1) ∧ ∀ r ∈ w'.rows, r.Settled := by
  have ran : executeIf (World.step onceConfig) (World.timely onceConfig) {}
      [.enqueue "t" "ca.issue" 1, .claimOne "a" 1 {} 1, .finalizeClaim 0 (.failed "down" 0) 2] =
      some _ := rfl
  refine ⟨_, _, ran, rfl, ?_, ?_⟩
  · exact fun r mem =>
      ((attempts_bounded onceConfig (by decide) (run_of_executeIf ran)).1 r mem).2.1
  · intro r' mem
    obtain rfl := mem_singleton.mp mem
    exact (attempts_bounded onceConfig (by decide) (run_of_executeIf ran)).2
      [.claimOne "a" 90 {} 90] _ (run_of_executeIf rfl) _ (mem_singleton_self _) (.inl rfl) _
      mem rfl

/-- The worker stops during the only attempt; the lease is recovered and the row handed out again.
-/
theorem crashed_attempt_repeated : ∃ w,
    execute (World.step onceConfig) {} [.enqueue "t" "ca.issue" 1, .claimOne "a" 1 {} 1, .drop 0,
          .claimOne "a" 40000000000 {} 40000000000] = some w ∧
      w.rows.map Row.attempts = [2] ∧ w.made.map Claim.id = [1, 1] :=
  ⟨_, rfl, rfl, rfl⟩

end Trustctl.Outbox
