import Trustctl.Projections.Projector
import Trustctl.Systems.Run
import Trustctl.Systems.Table
import Mathlib.Data.List.Dedup
import Mathlib.Data.List.Sort

/-!
# Audit retention

The retention worker archives the oldest events of every tenant and deletes them from the log, which
is also what a rebuild of the read model replays.  `World.whole` keeps what commands appended,
deleted or not, and no function reads it.

* `projectForRebuild_filter`: a rebuild passes over events of types that the projector does not
  know;
* `retention_keeps_rebuild`: as long as only such events are archived, a rebuild derives what it
  would derive from the whole log;
* `archived_owner_lost`: an archived `owner.created` is missing after a rebuild.
-/

namespace Trustctl.Audit

open Store Relational Projections List Systems

/-! ## The worker -/

/-- `Checkpoint`, without the hash of the boundary. -/
structure Checkpoint where
  boundarySeq : Nat
  recordCount : Nat
deriving DecidableEq

/-- The log, the number of the last event appended, the sealed boundaries, and the events that
commands appended. -/
structure World where
  log : List Event := []
  last : Nat := 0
  checkpoints : Table Uuid Checkpoint := []
  whole : List Event := []

/-- How far `archiveTenant` gets: it fails before the seal, it fails after some deletes, or it ends.
-/
inductive Reach
  | unsealed
  | deleted (n : Nat)
  | archived
deriving DecidableEq

/-- One `RunOnce`: the clock, the retention, how far it gets with each tenant, and the id and time
of the events that record it. -/
structure Pass where
  now : Time
  retention : Nat
  reach : Uuid → Reach := fun _ => .archived
  eventId : Uuid → String := fun _ => ""
  time : Time := 1
  timeSet : time ≠ 0 := by decide

def Pass.cutoff (p : Pass) : Time := p.now - p.retention

/-- The event after a run, which no projection reads. -/
def Pass.event (p : Pass) (τ : Uuid) (sequence : Nat) : Event where
  id := p.eventId τ
  tenantId := τ
  sequence := sequence
  time := p.time
  timeSet := p.timeSet
  body := .raw "audit.archived"

namespace World

/-- `Search` for all records of a tenant, past the sealed boundary. -/
def search (w : World) (τ : Uuid) : List Event :=
  let floor := ((w.checkpoints.get τ).map fun c => c.boundarySeq + 1).getD 0
  w.log.filter fun e => floor ≤ e.sequence && e.tenantId = τ

/-- The leading run of records that are not after the cutoff. -/
def segment (w : World) (τ : Uuid) (cutoff : Time) : List Event :=
  (w.search τ).takeWhile fun e => e.time ≤ cutoff

def delete (w : World) (events : List Event) : World :=
  { w with log := w.log.filter fun e => !(events.any fun d => d.sequence = e.sequence) }

def saveAuditCheckpoint (w : World) (τ : Uuid) (boundarySeq count : Nat) : World :=
  let before := ((w.checkpoints.get τ).map Checkpoint.recordCount).getD 0
  { w with checkpoints := w.checkpoints.put τ ⟨boundarySeq, before + count⟩ }

/-- `archiveTenant`, and whether it succeeded. -/
def archiveTenant (p : Pass) (w : World) (τ : Uuid) : World × Bool :=
  let segment := w.segment τ p.cutoff
  match segment.getLast? with
  | none => (w, true)
  | some boundary =>
    if boundary.sequence = 0 then (w, false)
    else
      let sealed_ := w.saveAuditCheckpoint τ boundary.sequence segment.length
      match p.reach τ with
      | .unsealed => (w, false)
      | .deleted n => (sealed_.delete (segment.take n), false)
      | .archived =>
        let pruned := sealed_.delete segment
        ({ pruned with log := pruned.log ++ [p.event τ (w.last + 1)], last := w.last + 1 }, true)

def liveTenants (w : World) : List Uuid :=
  ((w.log.map fun e => e.tenantId).filter (· ≠ "")).dedup.insertionSort (· ≤ ·)

/-- The loop of `RunOnce`. -/
def archiveTenants (p : Pass) : List Uuid → World → World
  | [], w => w
  | τ :: rest, w =>
    match w.archiveTenant p τ with
    | (w, true) => archiveTenants p rest w
    | (w, false) => w

def runOnce (p : Pass) (w : World) : World :=
  if p.retention = 0 then w else w.archiveTenants p w.liveTenants

end World

/-- A command appends an event, or the worker runs. -/
inductive Action
  | append (e : Event)
  | runOnce (p : Pass)

def World.step (w : World) : Action → Option World
  | .append e =>
    let e := e.numbered (w.last + 1)
    some { w with log := w.log ++ [e], last := w.last + 1, whole := w.whole ++ [e] }
  | .runOnce p => some (w.runOnce p)

/-- The projector does not know the type of the event. -/
def ignored (e : Event) : Bool :=
  match e.body with
  | .raw type => !tenantEventTypes.contains type && (knownSchemaVersions.lookup type).isNone
  | _ => false

variable {h : Digest} {now : Time} {e : Event} {db : Database Row} {w w' : World} {p : Pass}
  {τ υ : Uuid}

theorem applyForRebuild_ignored (new : ignored e) : applyForRebuild h now e db = .ok db := by
  unfold ignored at new
  split at new
  next type body =>
    rw [Bool.and_eq_true, Bool.not_eq_true', Option.isNone_iff_eq_none] at new
    obtain ⟨ordinary, unversioned⟩ := new
    have valid : validateSchemaVersion e = .ok () := by
      rw [validateSchemaVersion, Event.type, body, unversioned]
    have sink : rawSink e type = .ok [] := by
      unfold rawSink
      rw [unversioned]
      split
      · rfl
      · split <;> rfl
    have sunk : applyTx h now e = .ok [] := by
      rw [applyTx, valid, body]
      exact sink
    rw [applyForRebuild, body]
    dsimp only
    rw [ordinary, sunk]
    rfl
  next => cases new

theorem projectForRebuild_filter (log : List Event) :
    projectForRebuild h now log db = projectForRebuild h now
      (log.filter fun e => !ignored e) db := by
  induction log generalizing db with
  | nil => rfl
  | cons e rest ih =>
    cases unknown : ignored e with
    | true =>
      rw [filter_cons_of_neg (by simp [unknown]), ← ih, projectForRebuild,
        applyForRebuild_ignored unknown]
      rfl
    | false =>
      rw [filter_cons_of_pos (by simp [unknown]), projectForRebuild, projectForRebuild]
      congr
      funext db'
      exact ih

/-! ## What a pass keeps -/

structure World.Numbered (w : World) : Prop where
  distinct : (w.log.map fun e => e.sequence).Nodup
  bounded : ∀ e ∈ w.log, e.sequence ≤ w.last

def World.known (w : World) : List Event := w.log.filter fun e => !ignored e

/-- The world after the worker archived a tenant: what the projector knows and the records of the
other tenants are as before. -/
structure World.Spared (τ : Uuid) (w w' : World) : Prop where
  numbered : w'.Numbered
  known : w'.known = w.known
  whole : w'.whole = w.whole
  search : ∀ υ, υ ≠ τ → w'.search υ = w.search υ

namespace World

theorem segment_subset {cutoff : Time} (mem : e ∈ w.segment τ cutoff) :
    e ∈ w.log ∧ e.tenantId = τ := by
  have listed := mem_filter.mp ((takeWhile_subset _) mem)
  rw [Bool.and_eq_true, decide_eq_true_eq, decide_eq_true_eq] at listed
  exact ⟨listed.1, listed.2.2⟩

/-- Deleting events of the tenant that the projector does not know. -/
theorem Numbered.delete (numbered : w.Numbered) {events : List Event}
    (listed : ∀ e ∈ events, e ∈ w.log ∧ e.tenantId = τ ∧ ignored e) :
    Spared τ w (w.delete events) := by
  -- an event with the number of a deleted one is that one
  have gone : ∀ e ∈ w.log, (events.any fun d => d.sequence = e.sequence) → e ∈ events := by
    intro e mem hit
    obtain ⟨d, deleted, same⟩ := any_eq_true.mp hit
    rw [← inj_on_of_nodup_map numbered.distinct (listed d deleted).1 mem (of_decide_eq_true same)]
    exact deleted
  have kept : ∀ keep : Event → Bool, (∀ e ∈ events, keep e = false) →
      (w.delete events).log.filter keep = w.log.filter keep := by
    intro keep cut
    rw [World.delete, filter_filter]
    refine filter_congr fun e mem => ?_
    cases hit : events.any fun d => d.sequence = e.sequence with
    | true => rw [cut e (gone e mem hit), Bool.false_and]
    | false => rw [Bool.not_false, Bool.and_true]
  refine ⟨⟨?_, fun e mem => numbered.bounded e (mem_filter.mp mem).1⟩, ?_, rfl, ?_⟩
  · exact numbered.distinct.sublist (filter_sublist.map _)
  · exact kept _ fun e mem => by simp [(listed e mem).2.2]
  · intro υ other
    refine kept _ fun e mem => ?_
    simp [(listed e mem).2.1, other.symm]

theorem Spared.trans {w'' : World} (first : Spared τ w w') (second : Spared τ w' w'') :
    Spared τ w w'' where
  numbered := second.numbered
  known := second.known.trans first.known
  whole := second.whole.trans first.whole
  search := fun υ other => (second.search υ other).trans (first.search υ other)

variable (numbered : w.Numbered)

include numbered

theorem Numbered.saveAuditCheckpoint (boundarySeq count : Nat) :
    Spared τ w (w.saveAuditCheckpoint τ boundarySeq count) := by
  refine ⟨⟨numbered.distinct, numbered.bounded⟩, rfl, rfl, fun υ other => ?_⟩
  unfold World.search World.saveAuditCheckpoint
  dsimp only
  rw [Table.get_put_of_ne other]

theorem Numbered.append (next : e.sequence = w.last + 1) (checkpoints : Table Uuid Checkpoint)
    (whole : List Event) :
    Numbered { log := w.log ++ [e], last := w.last + 1, checkpoints, whole } := by
  refine ⟨?_, fun e' mem => ?_⟩
  · rw [map_append]
    refine nodup_append.mpr ⟨numbered.distinct, nodup_singleton _, ?_⟩
    rintro n old n' last rfl
    obtain ⟨e', mem, rfl⟩ := mem_map.mp old
    have bounded := numbered.bounded e' mem
    rw [show e'.sequence = e.sequence from mem_singleton.mp last, next] at bounded
    exact absurd bounded (Nat.not_succ_le_self _)
  · rcases mem_snoc.mp mem with old | rfl
    · exact (numbered.bounded e' old).trans (Nat.le_succ _)
    · rw [next]

/-- The event after a run is one more that the projector does not know. -/
theorem Numbered.record :
    Spared τ w { w with log := w.log ++ [p.event τ (w.last + 1)], last := w.last + 1 } := by
  refine ⟨numbered.append rfl _ _, ?_, rfl, fun υ other => ?_⟩
  · have new : ignored (p.event τ (w.last + 1)) := rfl
    rw [World.known, World.known, filter_append]
    simp [new]
  · unfold World.search
    dsimp only
    rw [filter_append]
    simp [Pass.event, other.symm]

/-- `archiveTenant`, where the segment has only events that the projector does not know. -/
theorem Numbered.archiveTenant (new : ∀ e ∈ w.segment τ p.cutoff, ignored e) :
    Spared τ w (w.archiveTenant p τ).1 := by
  have same : Spared τ w w := ⟨numbered, rfl, rfl, fun _ _ => rfl⟩
  unfold World.archiveTenant
  dsimp only
  split
  next => exact same
  next boundary _ =>
    split
    next => exact same
    next =>
      have sealed_ := numbered.saveAuditCheckpoint (τ := τ) boundary.sequence
        (w.segment τ p.cutoff).length
      have deleted : ∀ evs : List Event, (∀ e ∈ evs, e ∈ w.segment τ p.cutoff) →
          Spared τ w ((w.saveAuditCheckpoint τ boundary.sequence
            (w.segment τ p.cutoff).length).delete evs) := by
        intro evs listed
        refine sealed_.trans (sealed_.numbered.delete fun e mem => ?_)
        obtain ⟨logged, tenant⟩ := segment_subset (listed e mem)
        exact ⟨logged, tenant, new e (listed e mem)⟩
      split
      next => exact same
      next n => exact deleted _ fun e mem => mem_of_mem_take mem
      next =>
        have pruned := deleted _ fun e mem => mem
        exact pruned.trans pruned.numbered.record

theorem Numbered.archiveTenants {tenants : List Uuid} (ne : tenants.Nodup)
    (new : ∀ τ ∈ tenants, ∀ e ∈ w.segment τ p.cutoff, ignored e) :
    (w.archiveTenants p tenants).Numbered ∧ (w.archiveTenants p tenants).known = w.known ∧
      (w.archiveTenants p tenants).whole = w.whole := by
  induction tenants generalizing w with
  | nil => exact ⟨numbered, rfl, rfl⟩
  | cons τ rest ih =>
    obtain ⟨apart, distinct'⟩ := nodup_cons.mp ne
    have spared := numbered.archiveTenant (new τ (mem_cons_self ..))
    unfold World.archiveTenants
    split
    next w' result =>
      rw [result] at spared
      have later : ∀ υ ∈ rest, ∀ e ∈ w'.segment υ p.cutoff, ignored e := by
        intro υ mem e listed
        have other : υ ≠ τ := by
          rintro rfl
          exact apart mem
        rw [World.segment, spared.search υ other] at listed
        exact new υ (mem_cons_of_mem _ mem) e listed
      obtain ⟨numbered', known, whole⟩ := ih spared.numbered distinct' later
      exact ⟨numbered', known.trans spared.known, whole.trans spared.whole⟩
    next w' result =>
      rw [result] at spared
      exact ⟨spared.numbered, spared.known, spared.whole⟩

omit numbered

/-- A pass archives only events that the projector does not know. -/
def spares (w : World) : Action → Bool
  | .append _ => true
  | .runOnce p => w.liveTenants.all fun τ => (w.segment τ p.cutoff).all ignored

structure Complete (w : World) : Prop extends w.Numbered where
  complete : w.known = w.whole.filter fun e => !ignored e

theorem Complete.init : Complete {} where
  distinct := .nil
  bounded := by
    intro e mem
    cases mem
  complete := rfl

theorem Complete.step {a : Action} (full : w.Complete) (spares : w.spares a)
    (moved : w.step a = some w') : w'.Complete := by
  cases a with
  | append e =>
    cases moved
    refine ⟨full.toNumbered.append rfl _ _, ?_⟩
    rw [World.known, filter_append, filter_append]
    exact congrArg (· ++ _) full.complete
  | runOnce p =>
    cases moved
    simp only [World.spares, all_eq_true] at spares
    unfold World.runOnce
    split
    next => exact full
    next =>
      have ne : w.liveTenants.Nodup :=
        (perm_insertionSort ..).nodup_iff.mpr (nodup_dedup _)
      obtain ⟨numbered, known, whole⟩ := full.toNumbered.archiveTenants ne spares
      exact ⟨numbered, by rw [known, whole, full.complete]⟩

end World

/-! ## Runs -/

/-- In every run of commands and retention passes in which a pass archives only events of types that
the projector does not know: a rebuild of any read model from the log derives the tables that it
would derive from everything that commands appended, or fails as it would. -/
theorem retention_keeps_rebuild {acts : List Action} {w : World}
    (run : Run World.step (fun w a => w.spares a) {} acts w) (h : Digest) (now : Time)
    (m : ReadModel) :
    (rebuild h now w.log m).map ReadModel.db = (rebuild h now w.whole m).map ReadModel.db := by
  have full : w.Complete :=
    run.invariant (fun _ _ _ spares moved full => full.step spares moved) .init
  have derived : ∀ log, (rebuild h now log m).map ReadModel.db =
      projectForRebuild h now (log.filter fun e => !ignored e) (truncateReadModel m.db) := by
    intro log
    rw [rebuild, ← projectForRebuild_filter]
    cases projectForRebuild h now log (truncateReadModel m.db) <;> rfl
  rw [derived, derived, ← full.complete]
  rfl

/-- A login, which no projection reads. -/
def loggedIn : Event where
  id := "e1"
  tenantId := "t"
  sequence := 0
  time := 1
  timeSet := Nat.one_ne_zero
  body := .raw "auth.login"

def ownerCreated (time : Time) (timeSet : time ≠ 0) : Event where
  id := "e2"
  tenantId := "t"
  sequence := 0
  time := time
  timeSet := timeSet
  body := .inventory (.ownerCreated "o" "team" "platform" "")

/-- A pass that archives what is not after time 5. -/
def pass : Pass := { now := 10, retention := 5, timeSet := Nat.one_ne_zero }

def rebuiltOwners (log : List Event) : Option (List String) :=
  match rebuild plainDigest 0 log { db := .empty, checkpoint := 0 } with
  | .ok m => some ((m.db.tables .owners).map fun (o : Owner) => o.name)
  | .error _ => none

/-- The login is archived, the newer owner stays. -/
theorem archived_login_missed_by_none : ∃ w, executeIf World.step World.spares {}
        [.append loggedIn, .append (ownerCreated 6 (by decide)), .runOnce pass] = some w ∧
      w.log.map (fun e => e.sequence) = [2, 3] ∧
      (rebuild plainDigest 0 w.log { db := .empty, checkpoint := 0 }).map ReadModel.db =
        (rebuild plainDigest 0 w.whole { db := .empty, checkpoint := 0 }).map ReadModel.db := by
  have ran : executeIf World.step World.spares {}
      [.append loggedIn, .append (ownerCreated 6 (by decide)), .runOnce pass] = some _ := rfl
  exact ⟨_, ran, rfl, retention_keeps_rebuild (run_of_executeIf ran) _ _ _⟩

/-- The event of the owner is archived, and a rebuild derives no owner. -/
theorem archived_owner_lost : ∃ w,
    execute World.step {} [.append (ownerCreated 1 (by decide)), .runOnce pass] = some w ∧
      rebuiltOwners w.whole = some ["platform"] ∧ rebuiltOwners w.log = some [] :=
  ⟨_, rfl, rfl, rfl⟩

end Trustctl.Audit
