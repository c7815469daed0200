import Trustctl.Projections.Projector
import Trustctl.Systems.Run

/-!
# The control plane around the projector

Three writers apply the events of one log to one read model, each event in its own
transaction and without a common order: the command that appended the event, the tail
worker, which applies every event in log order and keeps its position in a durable cursor,
and the catch-up of a booting replica, which replays the log after the checkpoint.  A
replica may stop between any two transactions.

`Plane.step` is one transaction of one writer; `step_db` says what it does to the read
model.
-/

namespace Trustctl.Projections

open Store Relational Systems List Option

/-- A catch-up in progress: the state of the loop of `ProjectCatchUp` and the events it has
still to replay. -/
structure CatchUp where
  last : Nat := 0
  since : Nat := 0
  rest : List Event

/-- How far the tail worker gets with an event it applied before it is interrupted. -/
inductive TailReach
  | applied
  | checkpointed
  | acknowledged
deriving DecidableEq

structure Plane where
  log : List Event := []
  model : ReadModel := { db := .empty, checkpoint := 0 }
  /-- The acknowledged position of the tail consumer. -/
  cursor : Nat := 0
  /-- The events whose command has not applied them yet. -/
  inFlight : List Nat := []
  /-- The catch-up that holds the projection lock. -/
  catchUp : Option CatchUp := none
  /-- The highest sequence applied so far; a history variable no writer reads. -/
  frontier : Nat := 0

/-- One transaction, or the loss of a replica. -/
inductive Action
  /-- `Log.Append` by a command. -/
  | append (e : Event)
  /-- The command applies its event. -/
  | inline (seq : Nat)
  /-- The command's replica stops before it applies its event. -/
  | abandon (seq : Nat)
  /-- The tail worker applies the event after its cursor. -/
  | tail (reach : TailReach)
  /-- A replica boots and starts its catch-up; one in progress is lost with its replica. -/
  | boot
  /-- The catch-up replays its next event, or ends. -/
  | catchUp

namespace Plane

def applies (σ : Plane) : Action → Option Event
  | .inline seq => if seq ∈ σ.inFlight then σ.log[seq - 1]? else none
  | .tail _ => σ.log[σ.cursor]?
  | .catchUp => σ.catchUp.bind fun c => c.rest.head?
  | _ => none

/-- Commit the projection of an event. -/
def settle (σ : Plane) (e : Event) (db : Database Row) : Plane :=
  { σ with model := { σ.model with db }, frontier := max σ.frontier e.sequence }

def afterTail (σ : Plane) (seq : Nat) : TailReach → Plane
  | .applied => σ
  | .checkpointed => { σ with model := σ.model.advance seq }
  | .acknowledged => { σ with model := σ.model.advance seq, cursor := σ.cursor + 1 }

def afterReplay (σ : Plane) (c : CatchUp) (seq : Nat) (rest : List Event) : Plane :=
  if checkpointEvery ≤ c.since + 1 then
    { σ with model := σ.model.advance seq, catchUp := some { last := seq, since := 0, rest } }
  else { σ with catchUp := some { last := seq, since := c.since + 1, rest } }

def step (h : Digest) (now : Time) (σ : Plane) : Action → Option Plane
  | .append e =>
    let seq := σ.log.length + 1
    some { σ with log := σ.log ++ [e.numbered seq], inFlight := σ.inFlight ++ [seq] }
  | .inline seq =>
    (σ.applies (.inline seq)).map fun e =>
      let σ := { σ with inFlight := σ.inFlight.erase seq }
      match apply h now e σ.model.db with
      | .ok db => σ.settle e db
      | .error _ => σ
  | .abandon seq =>
    if seq ∈ σ.inFlight then some { σ with inFlight := σ.inFlight.erase seq } else none
  | .tail reach =>
    (σ.applies (.tail reach)).map fun e =>
      match apply h now e σ.model.db with
      | .ok db => (σ.settle e db).afterTail e.sequence reach
      | .error _ => σ
  | .boot =>
    some { σ with
      catchUp := some { rest := σ.log.filter fun e => σ.model.checkpoint < e.sequence } }
  | .catchUp =>
    σ.catchUp.map fun c =>
      match c.rest with
      | [] =>
        { σ with
          model := if 0 < c.last then σ.model.advance c.last else σ.model, catchUp := none }
      | e :: rest =>
        match apply h now e σ.model.db with
        | .ok db => (σ.settle e db).afterReplay c e.sequence rest
        | .error _ => { σ with catchUp := none }

variable {h : Digest} {now : Time} {σ σ' : Plane} {a : Action}

@[simp] theorem settle_db (e : Event) (db : Database Row) : (σ.settle e db).model.db = db := rfl

@[simp] theorem afterTail_db (seq : Nat) (reach : TailReach) :
    (σ.afterTail seq reach).model.db = σ.model.db := by
  cases reach <;> rfl

@[simp] theorem afterReplay_db (c : CatchUp) (seq : Nat) (rest : List Event) :
    (σ.afterReplay c seq rest).model.db = σ.model.db := by
  unfold afterReplay
  split <;> rfl

/-- What a writer's step did: it left the read model and its own position, because there was nothing
to apply or the projection failed, or it applied the event it was at. -/
inductive Wrote (h : Digest) (now : Time) (σ : Plane) (a : Action) (σ' : Plane) : Prop
  | nothing (refused : ∀ e ∈ σ.applies a, ∀ db, apply h now e σ.model.db ≠ .ok db)
      (db : σ'.model.db = σ.model.db) (frontier : σ'.frontier = σ.frontier)
      (cursor : σ'.cursor = σ.cursor)
  | event (e : Event) (applies : σ.applies a = some e)
      (applied : apply h now e σ.model.db = .ok σ'.model.db)
      (frontier : σ'.frontier = max σ.frontier e.sequence)
      (cursor : σ'.cursor = σ.cursor ∨ (σ'.cursor = σ.cursor + 1 ∧ σ.log[σ.cursor]? = some e))

theorem refused_of_error {e : Event} {fault : Fault ApplyError} (applies : σ.applies a = some e)
    (done : apply h now e σ.model.db = .error fault) :
    ∀ e ∈ σ.applies a, ∀ db, apply h now e σ.model.db ≠ .ok db := by
  intro e' mem db ok
  cases applies.symm.trans mem
  rw [done] at ok
  cases ok

theorem step_writer (moved : σ.step h now a = some σ') (idle : ∀ e, a ≠ .append e) :
    Wrote h now σ a σ' := by
  cases a with
  | append e => exact absurd rfl (idle e)
  | inline seq =>
    obtain ⟨e, applies, rfl⟩ := map_eq_some_iff.mp moved
    cases applied : apply h now e σ.model.db with
    | ok db =>
      exact .event e applies (by simp [applied]) (by simp [applied, settle])
        (.inl (by simp [applied, settle]))
    | error fault =>
      exact .nothing (refused_of_error applies applied) (by simp [applied]) (by simp [applied])
        (by simp [applied])
  | abandon seq =>
    simp only [step] at moved
    split at moved
    · cases moved
      exact .nothing (by simp [applies]) rfl rfl rfl
    · cases moved
  | tail reach =>
    obtain ⟨e, applies, rfl⟩ := map_eq_some_iff.mp moved
    cases applied : apply h now e σ.model.db with
    | ok db =>
      refine .event e applies (by simpa using applied) (by cases reach <;> rfl) ?_
      cases reach with
      | acknowledged => exact .inr ⟨rfl, applies⟩
      | applied | checkpointed => exact .inl rfl
    | error fault => exact .nothing (refused_of_error applies applied) rfl rfl rfl
  | boot =>
    cases moved
    exact .nothing (by simp [applies]) rfl rfl rfl
  | catchUp =>
    obtain ⟨c, run, rfl⟩ := map_eq_some_iff.mp moved
    cases rest : c.rest with
    | nil =>
      refine .nothing (by simp [applies, run, rest]) ?_ rfl rfl
      dsimp only
      split <;> rfl
    | cons e rest' =>
      have next : σ.applies .catchUp = some e := by simp [applies, run, rest]
      cases applied : apply h now e σ.model.db with
      | ok db =>
        refine .event e next (by simp [applied]) ?_ (.inl ?_)
        · simp only [applied, afterReplay]
          split <;> rfl
        · simp only [applied, afterReplay]
          split <;> rfl
      | error fault =>
        exact .nothing (refused_of_error next applied) (by simp [applied]) (by simp [applied])
          (by simp [applied])

/-- A step leaves the read model alone or applies one event to it. -/
theorem step_db (moved : σ.step h now a = some σ') : σ'.model.db = σ.model.db ∨
      ∃ e, σ.applies a = some e ∧ apply h now e σ.model.db = .ok σ'.model.db := by
  by_cases appends : ∃ e, a = .append e
  · obtain ⟨e, rfl⟩ := appends
    cases moved
    exact .inl rfl
  · cases step_writer moved fun e same => appends ⟨e, same⟩ with
    | nothing refused db edge cursor => exact .inl db
    | event e applies done edge cursor => exact .inr ⟨e, applies, done⟩

/-- A step that appends no event leaves the log alone. -/
theorem step_log (moved : σ.step h now a = some σ') (idle : ∀ e, a ≠ .append e) :
    σ'.log = σ.log := by
  cases a with
  | append e => exact absurd rfl (idle e)
  | inline seq =>
    obtain ⟨e, -, rfl⟩ := map_eq_some_iff.mp moved
    dsimp only
    split <;> rfl
  | abandon seq =>
    simp only [step] at moved
    split at moved
    · cases moved
      rfl
    · cases moved
  | tail reach =>
    obtain ⟨e, -, rfl⟩ := map_eq_some_iff.mp moved
    split
    · cases reach <;> rfl
    · rfl
  | boot =>
    cases moved
    rfl
  | catchUp =>
    obtain ⟨c, -, rfl⟩ := map_eq_some_iff.mp moved
    split
    · rfl
    · split
      · unfold afterReplay
        split <;> rfl
      · rfl

def Queued (σ : Plane) : Prop := ∀ c ∈ σ.catchUp, ∀ e ∈ c.rest, e ∈ σ.log

theorem Queued.applies (queued : σ.Queued) {e : Event} (applies : σ.applies a = some e) :
    e ∈ σ.log := by
  cases a with
  | inline seq =>
    simp only [Plane.applies] at applies
    split at applies
    · exact mem_of_getElem? applies
    · cases applies
  | tail reach => exact mem_of_getElem? applies
  | catchUp =>
    obtain ⟨c, run, next⟩ := bind_eq_some_iff.mp applies
    exact queued c run e (mem_of_head? next)
  | append | abandon | boot => cases applies

theorem Queued.step (queued : σ.Queued) (moved : σ.step h now a = some σ') : σ'.Queued := by
  cases a with
  | append e =>
    cases moved
    exact fun c run e' mem => mem_append_left _ (queued c run e' mem)
  | inline seq =>
    obtain ⟨e, -, rfl⟩ := map_eq_some_iff.mp moved
    dsimp only
    split <;> exact queued
  | abandon seq =>
    simp only [Plane.step] at moved
    split at moved
    · cases moved
      exact queued
    · cases moved
  | tail reach =>
    obtain ⟨e, -, rfl⟩ := map_eq_some_iff.mp moved
    split
    · cases reach <;> exact queued
    · exact queued
  | boot =>
    cases moved
    rintro c ⟨⟩ e mem
    exact (mem_filter.mp mem).1
  | catchUp =>
    obtain ⟨c, run, rfl⟩ := map_eq_some_iff.mp moved
    have rest_ := queued c run
    split
    next => rintro c' ⟨⟩
    next e rest same =>
      rw [same] at rest_
      have kept : ∀ e' ∈ rest, e' ∈ σ.log := fun e' mem => rest_ e' (mem_cons_of_mem _ mem)
      split
      · unfold afterReplay
        split
        · rintro c' ⟨⟩ e' mem
          exact kept e' mem
        · rintro c' ⟨⟩ e' mem
          exact kept e' mem
      · rintro c' ⟨⟩

end Plane

end Trustctl.Projections
