import Mathlib.Data.List.Count
import Mathlib.Data.List.Perm.Basic
import Trustctl.Systems.Run

/-!
# The worker pool

A `Pool` of workers drains a bounded queue.  A caller that waits reads a channel to which only the
closure it submitted writes; a panic in that closure is swallowed.

* `no_task_lost`: if no task panics before the send for which its caller waits, and no `Close` is
  called while another one drains the pool, every accepted task is started once, every waiting
  caller is answered, and what `Close` promises holds;
* `panic_leaves_caller`: the caller of a task that panics before its send waits for ever.
-/

namespace Trustctl.Bulkhead

open Systems List

/-- What the closure handed to `Submit` does to the channel of its caller. -/
inductive Closure
  /-- `done <- fn()`: the send follows the work. -/
  | sends
  /-- `defer close(done)`, then the work. -/
  | closes
  /-- There is no channel. -/
  | works
  deriving DecidableEq

/-- Whether the receive of the caller returns once the closure has ended. -/
def Closure.received (panics : Bool) : Closure → Bool
  | .sends => !panics
  | .closes => true
  | .works => false

/-- Functions that hand work to a pool: those of EST, SCEP, CMP, the SSH CA and the policy engine,
two that defer what they owe their caller, and any that goes on at once, as `dispatchOnce`. -/
inductive Caller
  | estRunBounded | runServerKeygenBounded | scepRunBounded | cmpRunBounded | caRun | engineRun
  | runAgentBulkhead | bulkheadHandler
  | detached
  deriving DecidableEq

def Caller.closure : Caller → Closure
  | .estRunBounded | .runServerKeygenBounded | .scepRunBounded | .cmpRunBounded | .caRun
  | .engineRun => .sends
  | .runAgentBulkhead | .bulkheadHandler => .closes
  | .detached => .works

structure Task where
  id : Nat
  caller : Caller
  deriving DecidableEq

/-- The caller receives from the channel. -/
def Task.waits (t : Task) : Bool := t.caller.closure != .works

/-- A worker before its receive, in it, in `run`, or after the channel was closed and drained. -/
inductive Worker
  | between
  | idle
  | busy (t : Task)
  | exited
  deriving DecidableEq

structure Pool where
  capacity : Nat
  workers : List Worker
  queue : List Task := []
  closed : Bool := false
  /-- The first `Close` is in `wg.Wait`. -/
  draining : Bool := false
  /-- A `Close` returned. -/
  returned : Bool := false
  submitted : Nat := 0
  completed : Nat := 0
  rejected : Nat := 0
  panicked : Nat := 0
  accepted : List Task := []
  refused : List Task := []
  started : List Task := []
  ended : List Task := []
  answered : List Task := []

def new (workers queue : Int) : Pool where
  capacity := queue.toNat
  workers := replicate (max workers 1).toNat .between

inductive Action
  | submit (caller : Caller)
  | receive (worker : Nat)
  | take (worker : Nat)
  | finish (worker : Nat) (panics : Bool)
  | exit (worker : Nat)
  | close
  /-- `wg.Wait` returns. -/
  | waited

/-- `Submit`; the channel has room in its buffer and for each worker in its receive. -/
def Pool.submit (p : Pool) (caller : Caller) : Pool :=
  let t : Task := ⟨p.accepted.length + p.refused.length, caller⟩
  if p.closed = false ∧ p.queue.length < p.capacity + p.workers.count .idle then
    { p with queue := p.queue ++ [t], submitted := p.submitted + 1, accepted := p.accepted ++ [t] }
  else { p with rejected := p.rejected + 1, refused := p.refused ++ [t] }

def Pool.step (p : Pool) : Action → Option Pool
  | .submit caller => some (p.submit caller)
  | .receive i =>
    match p.workers[i]? with
    | some .between => some { p with workers := p.workers.set i .idle }
    | _ => none
  | .take i =>
    match p.workers[i]?, p.queue with
    | some .idle, t :: queue =>
      some { p with workers := p.workers.set i (.busy t), queue, started := p.started ++ [t] }
    | _, _ => none
  | .finish i panics =>
    match p.workers[i]? with
    | some (.busy t) => some { p with
        workers := p.workers.set i .between
        completed := if panics then p.completed else p.completed + 1
        panicked := if panics then p.panicked + 1 else p.panicked
        ended := p.ended ++ [t]
        answered := if t.caller.closure.received panics then p.answered ++ [t] else p.answered }
    | _ => none
  | .exit i =>
    match p.workers[i]?, p.queue with
    | some .idle, [] =>
      if p.closed then some { p with workers := p.workers.set i .exited } else none
    | _, _ => none
  | .close =>
    if p.closed then some { p with returned := true }
    else some { p with closed := true, draining := true }
  | .waited =>
    if p.draining ∧ ∀ x ∈ p.workers, x = .exited then
      some { p with draining := false, returned := true }
    else none

/-- The workers can still start every accepted task. -/
def Pool.starts (p : Pool) : Prop :=
  ∃ as p', execute Pool.step p as = some p' ∧ p'.accepted = p.accepted ∧ p.accepted ⊆ p'.started

structure Sound (p : Pool) : Prop where
  once : p.started.Nodup ∧ p.started ⊆ p.accepted
  starts : p.starts
  refused : ∀ t ∈ p.refused, t ∉ p.started
  shut : p.returned → ∀ caller, (p.submit caller).accepted = p.accepted
  drained : p.returned → ∀ t ∈ p.accepted, t ∈ p.ended
  counted : p.returned → p.submitted = p.completed + p.panicked
  answered : ∀ t ∈ p.ended, t.waits → t ∈ p.answered

/-- No task panics before the send for which its caller waits, and no `Close` is called while
another one drains the pool. -/
def Pool.calm (p : Pool) : Action → Bool
  | .finish i panics =>
    match p.workers[i]? with
    | some (.busy t) => !t.waits || t.caller.closure.received panics
    | _ => true
  | .close => !p.draining
  | _ => true

/-! ## Calm runs -/

variable {p p' : Pool} {i : Nat} {t : Task}

structure Good (p : Pool) : Prop where
  fifo : p.accepted = p.started ++ p.queue
  runs : ∀ t, p.started.count t = p.ended.count t + p.workers.count (.busy t)
  numbered : ∀ t, t ∈ p.accepted ∨ t ∈ p.refused → t.id < p.accepted.length + p.refused.length
  distinct : p.accepted.Nodup ∧ ∀ t ∈ p.refused, t ∉ p.accepted
  submitted : p.submitted = p.accepted.length
  finished : p.completed + p.panicked = p.ended.length
  staffed : p.workers ≠ []
  exited : .exited ∈ p.workers → p.closed ∧ p.queue = []
  closing : p.closed → p.draining ∨ p.returned
  returned : p.returned → p.closed ∧ ∀ x ∈ p.workers, x = .exited
  answered : ∀ t ∈ p.ended, t.waits → t ∈ p.answered

theorem good_new (workers queue : Int) : Good (new workers queue) := by
  have staffed : 0 < (new workers queue).workers.length := by
    simp only [new, length_replicate]
    omega
  refine ⟨rfl, fun t => ?_, ?_, ⟨nodup_nil, ?_⟩, rfl, rfl, ne_nil_of_length_pos staffed, ?_, ?_,
    ?_, ?_⟩
  · simp [new, count_replicate]
  all_goals simp [new]

theorem Good.submit (good : Good p) (caller : Caller) : Good (p.submit caller) := by
  have fresh (t : Task) (old : t ∈ p.accepted ∨ t ∈ p.refused) :
      t ≠ ⟨p.accepted.length + p.refused.length, caller⟩ := by
    rintro rfl
    exact Nat.lt_irrefl _ (good.numbered _ old)
  have numbered := good.numbered
  have distinct := good.distinct
  unfold Pool.submit
  dsimp only
  split
  next open_ =>
    refine { good with fifo := ?_, numbered := ?_, distinct := ?_, submitted := ?_, exited := ?_ }
    · rw [good.fifo, append_assoc]
    · grind
    · grind
    · simp [good.submitted]
    · intro exited
      cases open_.1.symm.trans (good.exited exited).1
  next =>
    refine { good with numbered := ?_, distinct := ⟨good.distinct.1, ?_⟩ }
    · grind
    · grind

theorem Good.set {x y : Worker} (good : Good p) (here : p.workers[i]? = some x) (live : x ≠ .exited)
    (stays : y ≠ .exited) : p.workers.set i y ≠ [] ∧ p.returned = false ∧
      (.exited ∈ p.workers.set i y → .exited ∈ p.workers) := by
  refine ⟨by simp [good.staffed], ?_, fun exited => ?_⟩
  · rw [Bool.eq_false_iff]
    exact fun back => live ((good.returned back).2 x (mem_of_getElem? here))
  · rcases mem_or_eq_of_mem_set exited with old | new
    · exact old
    · exact absurd new.symm stays

theorem count_set_of {x y z : Worker} {l : List Worker} (here : l[i]? = some x) :
    (l.set i y).count z + (if x = z then 1 else 0) = l.count z + if y = z then 1 else 0 := by
  obtain ⟨inside, rfl⟩ := List.getElem?_eq_some_iff.mp here
  have positive : l[i] = z → 0 < l.count z := fun same =>
    count_pos_iff.mpr (same ▸ getElem_mem inside)
  rw [count_set inside]
  grind

theorem Good.receive (good : Good p) (between : p.workers[i]? = some .between) :
    Good { p with workers := p.workers.set i .idle } := by
  obtain ⟨staffed, open_, exited⟩ := good.set between (by simp) (by simp : Worker.idle ≠ .exited)
  refine { good with
    runs := fun u => ?_, staffed, exited := fun left => good.exited (exited left), returned := ?_ }
  · have runs := good.runs u
    have moved := count_set_of (y := .idle) (z := .busy u) between
    grind
  · intro returned
    cases open_.symm.trans returned

theorem Good.take {queue : List Task} (good : Good p) (idle : p.workers[i]? = some .idle)
    (next : p.queue = t :: queue) :
    Good { p with workers := p.workers.set i (.busy t), queue, started := p.started ++ [t] } := by
  obtain ⟨staffed, open_, exited⟩ := good.set idle (by simp) (by simp : Worker.busy t ≠ .exited)
  refine { good with
    fifo := ?_, runs := fun u => ?_, staffed, exited := fun left => ?_, returned := ?_ }
  · rw [good.fifo, next, append_assoc]
    rfl
  · have runs := good.runs u
    have moved := count_set_of (y := .busy t) (z := .busy u) idle
    grind
  · cases next.symm.trans (good.exited (exited left)).2
  · intro returned
    cases open_.symm.trans returned

theorem calm_returns (busy : p.workers[i]? = some (.busy t)) : p.calm (.finish i false) := by
  rw [Pool.calm, busy]
  cases closure : t.caller.closure <;> simp [Task.waits, Closure.received, closure]

theorem Good.finish {panics : Bool} (good : Good p) (busy : p.workers[i]? = some (.busy t))
    (meets : p.calm (.finish i panics)) (moved : p.step (.finish i panics) = some p') :
    Good p' := by
  simp only [Pool.calm, busy, Pool.step] at meets moved
  cases moved
  obtain ⟨staffed, open_, exited⟩ := good.set busy (by simp) (by simp : Worker.between ≠ .exited)
  refine { good with runs := fun u => ?_, finished := ?_, staffed, exited := fun left => ?_,
                     returned := ?_, answered := ?_ }
  · have runs := good.runs u
    have moved := count_set_of (y := .between) (z := .busy u) busy
    grind
  · have finished := good.finished
    cases panics <;> simp <;> omega
  · exact good.exited (exited left)
  · intro returned
    cases open_.symm.trans returned
  · have answered := good.answered
    grind

theorem Good.step {a : Action} (good : Good p) (meets : p.calm a)
    (moved : p.step a = some p') : Good p' := by
  cases a with
  | submit caller =>
    cases moved
    exact good.submit caller
  | receive i =>
    simp only [Pool.step] at moved
    split at moved
    next between =>
      cases moved
      exact good.receive between
    next => cases moved
  | take i =>
    simp only [Pool.step] at moved
    split at moved
    next idle next_ =>
      cases moved
      exact good.take idle next_
    next => cases moved
  | finish i panics =>
    have stepped := moved
    simp only [Pool.step] at moved
    split at moved
    next busy => exact good.finish busy meets stepped
    next => cases moved
  | exit i =>
    simp only [Pool.step] at moved
    split at moved
    next idle empty =>
      obtain ⟨closed, moved⟩ := Option.ite_none_right_eq_some.mp moved
      cases moved
      refine { good with
        runs := fun u => ?_, staffed := ?_, exited := fun _ => ⟨closed, empty⟩, returned := ?_ }
      · have runs := good.runs u
        have moved := count_set_of (y := .exited) (z := .busy u) idle
        grind
      · simp [good.staffed]
      · intro returned
        cases (good.returned returned).2 _ (mem_of_getElem? idle)
    next => cases moved
  | close =>
    simp only [Pool.step] at moved
    split at moved
    next closed =>
      cases moved
      have returned : p.returned := by
        rcases good.closing closed with draining | returned
        · simp [Pool.calm, draining] at meets
        · exact returned
      exact { good with closing := fun _ => .inr rfl, returned := fun _ => good.returned returned }
    next closed =>
      cases moved
      refine { good with
        exited := fun exited => ?_, closing := fun _ => .inl rfl, returned := fun returned => ?_ }
      · exact ⟨rfl, (good.exited exited).2⟩
      · exact ⟨rfl, (good.returned returned).2⟩
  | waited =>
    obtain ⟨⟨draining, exited⟩, moved⟩ := Option.ite_none_right_eq_some.mp moved
    cases moved
    obtain ⟨x, mem⟩ := exists_mem_of_ne_nil _ good.staffed
    have closed := (good.exited (exited x mem ▸ mem)).1
    exact { good with closing := fun _ => .inr rfl, returned := fun _ => ⟨closed, exited⟩ }

theorem Good.starts (good : Good p) : p.starts := by
  induction queued : p.queue generalizing p with
  | nil => exact ⟨[], p, rfl, rfl, by simp [good.fifo, queued]⟩
  | cons t queue ih =>
    obtain ⟨x, mem⟩ := exists_mem_of_ne_nil _ good.staffed
    obtain ⟨i, here⟩ := mem_iff_getElem?.mp mem
    have from_idle {p : Pool} (good : Good p) (queued : p.queue = t :: queue)
        (idle : p.workers[i]? = some .idle) : p.starts := by
      obtain ⟨as, p', ran, rest⟩ := ih (good.take idle queued) rfl
      refine ⟨.take i :: as, p', ?_, rest⟩
      simpa [execute, Pool.step, idle, queued] using ran
    have from_between {p : Pool} (good : Good p) (queued : p.queue = t :: queue)
        (between : p.workers[i]? = some .between) : p.starts := by
      obtain ⟨lt, -⟩ := List.getElem?_eq_some_iff.mp between
      obtain ⟨as, p', ran, rest⟩ := from_idle (good.receive between) queued (by simp [lt])
      refine ⟨.receive i :: as, p', ?_, rest⟩
      simpa [execute, Pool.step, between] using ran
    cases x with
    | between => exact from_between good queued here
    | idle => exact from_idle good queued here
    | exited => cases queued.symm.trans (good.exited mem).2
    | busy u =>
      obtain ⟨lt, -⟩ := List.getElem?_eq_some_iff.mp here
      have moved : ∃ m, p.step (.finish i false) = some m ∧ m.queue = p.queue ∧
          m.accepted = p.accepted ∧ m.workers[i]? = some .between := by
        rw [Pool.step, here]
        exact ⟨_, rfl, rfl, rfl, by simp [lt]⟩
      obtain ⟨m, moved, queue', taken, between⟩ := moved
      have good' := good.finish here (calm_returns here) moved
      obtain ⟨as, p', ran, same, started⟩ := from_between good' (queue'.trans queued) between
      refine ⟨.finish i false :: as, p', ?_, same.trans taken, taken ▸ started⟩
      simp [execute, moved, ran]

/-- In every calm run each accepted task is started at most once and can still be started, refused
tasks are not, a `Close` that returned left no task behind, and who waits is answered. -/
theorem no_task_lost {workers queue : Int} {as : List Action}
    (run : Run Pool.step (fun p a => p.calm a) (new workers queue) as p) : Sound p := by
  have good : Good p := run.invariant (fun _ _ _ meets moved good => good.step meets moved)
    (good_new _ _)
  have ne := good.distinct
  have started : p.started ⊆ p.accepted := good.fifo ▸ subset_append_left ..
  have all (back : p.returned) : p.queue = [] ∧ p.started.Perm p.ended := by
    obtain ⟨-, exited⟩ := good.returned back
    obtain ⟨x, mem⟩ := exists_mem_of_ne_nil _ good.staffed
    refine ⟨(good.exited (exited x mem ▸ mem)).2, perm_iff_count.mpr fun t => ?_⟩
    have none_busy : p.workers.count (.busy t) = 0 := by
      rw [count_eq_zero]
      intro busy
      cases exited _ busy
    rw [good.runs, none_busy]
    rfl
  refine ⟨⟨?_, started⟩, good.starts, fun t refused => mt (started ·) (ne.2 t refused),
    fun back caller => ?_,
    fun back t mem => ?_, fun back => ?_, good.answered⟩
  · exact (nodup_append.mp (good.fifo ▸ ne.1)).1
  · simp [Pool.submit, (good.returned back).1]
  · rw [good.fifo, (all back).1, append_nil] at mem
    exact (all back).2.subset mem
  · rw [good.submitted, good.finished, good.fifo, (all back).1, append_nil]
    exact (all back).2.length_eq

/-- One worker and no buffer: a task comes before the worker receives and is refused, one for EST
is answered, and one that nobody waits for panics. -/
theorem one_task_drained : ∃ p as, Run Pool.step (fun p a => p.calm a) (new 1 0) as p ∧
    Sound p ∧ p.returned ∧ p.refused.length = 1 ∧ p.panicked = 1 ∧ p.answered.length = 1 := by
  obtain ⟨p, ran, result⟩ : ∃ p, executeIf Pool.step Pool.calm (new 1 0)
      [.submit .scepRunBounded, .receive 0, .submit .estRunBounded, .take 0, .finish 0 false,
        .receive 0, .submit .detached, .close, .take 0, .finish 0 true, .receive 0, .exit 0,
        .waited] = some p ∧
      p.returned ∧ p.refused.length = 1 ∧ p.panicked = 1 ∧ p.answered.length = 1 :=
    ⟨_, rfl, rfl, rfl, rfl, rfl⟩
  have run := run_of_executeIf ran
  exact ⟨p, _, run, no_task_lost run, result⟩

/-- The work of `CA.run` panics, and its answer is never sent. -/
theorem panic_leaves_caller :
    ∃ p as, Run Pool.step (fun _ _ => True) (new 1 1) as p ∧ ¬ Sound p := by
  refine ⟨_, [.submit .caRun, .receive 0, .take 0, .finish 0 true], run_of_execute rfl,
    fun sound => ?_⟩
  cases sound.answered ⟨0, .caRun⟩ (mem_singleton.mpr rfl) rfl

end Trustctl.Bulkhead
