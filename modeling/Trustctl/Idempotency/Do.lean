import Trustctl.Systems.Run
import Mathlib.Logic.Function.Basic

/-!
# Callers of one idempotency key

`Idempotency.Do` claims its key by an insert, runs `fn` and records the result, all in one
transaction.  Another insert of the key waits for that transaction.  What `fn` appends to the event
log is not part of the transaction, and stays when the transaction is rolled back.

`World.step` is one step of one of any number of callers of one key.

* `do_once`: as long as no transaction is lost whose `fn` made an effect, the effects of the key are
  those of one execution;
* `answers_stay`: once a caller has returned bytes the row keeps them, and no caller returns others;
* `effect_repeated`: a commit that fails lets the next caller repeat the effect.
-/

namespace Trustctl.Idempotency

open List Option Systems

/-! ## The system -/

/-- A committed row of `idempotency_keys`. -/
inductive Entry (β : Type)
  | pending
  | completed (result : β)

inductive Phase (β : Type)
  | idle
  /-- Before the insert. -/
  | calling
  /-- The insert took place; `fn` runs, as the execution of this number. -/
  | executing (e : Nat)
  /-- `fn` returned, the transaction is not committed. -/
  | recording (e : Nat) (out : β)

def Phase.execution? {β : Type} : Phase β → Option Nat
  | .executing e | .recording e _ => some e
  | _ => none

/-- One key: its row, the caller whose insert is not committed, the effects in the log with the
execution that made them, and what the callers returned. -/
structure World (β ε : Type) where
  row : Option (Entry β) := none
  holder : Option Nat := none
  phase : Nat → Phase β := fun _ => .idle
  executions : Nat := 0
  log : List (Nat × ε) := []
  answers : List (Except String β) := []

inductive Action (β ε : Type)
  | call (n : Nat)
  /-- The insert of the key. -/
  | claim (n : Nat)
  /-- The transaction cannot begin, or the insert or the read fails. -/
  | refuse (n : Nat) (text : String)
  /-- `fn` appends to the event log. -/
  | effect (n : Nat) (x : ε)
  | fail (n : Nat) (text : String)
  | finish (n : Nat) (out : β)
  | commit (n : Nat)
  /-- The update or the commit reports an error; the commit may have taken place. -/
  | abort (n : Nat) (text : String) (applied : Bool)
  /-- The connection is lost while `fn` runs on. -/
  | disconnect (n : Nat)
  | crash (n : Nat)

def errInProgress : String := "orchestrator: idempotent operation already in progress"

namespace World

variable {β ε : Type}

def set (w : World β ε) (n : Nat) (p : Phase β) : World β ε :=
  { w with phase := Function.update w.phase n p }

/-- The transaction of the caller, if it has one, is rolled back. -/
def rollback (w : World β ε) (n : Nat) : World β ε :=
  { w with holder := if w.holder = some n then none else w.holder }

def answer (w : World β ε) (n : Nat) (a : Except String β) : World β ε :=
  { w.set n .idle with answers := w.answers ++ [a] }

/-- The transaction of the caller is committed with its result. -/
def complete (w : World β ε) (out : β) : World β ε :=
  { w with row := some (.completed out), holder := none }

def step (w : World β ε) : Action β ε → Option (World β ε)
  | .call n =>
    match w.phase n with
    | .idle => some (w.set n .calling)
    | _ => none
  | .claim n =>
    match w.phase n, w.holder, w.row with
    | .calling, none, none =>
      some { w.set n (.executing w.executions) with
        holder := some n, executions := w.executions + 1 }
    | .calling, none, some (.completed out) => some (w.answer n (.ok out))
    | .calling, none, some .pending => some (w.answer n (.error errInProgress))
    | _, _, _ => none
  | .refuse n text =>
    match w.phase n with
    | .calling => some (w.answer n (.error text))
    | _ => none
  | .effect n x =>
    match w.phase n with
    | .executing e => some { w with log := w.log ++ [(e, x)] }
    | _ => none
  | .fail n text =>
    match w.phase n with
    | .executing _ => some ((w.rollback n).answer n (.error text))
    | _ => none
  | .finish n out =>
    match w.phase n with
    | .executing e => some (w.set n (.recording e out))
    | _ => none
  | .commit n =>
    match w.phase n with
    | .recording _ out =>
      if w.holder = some n then some ((w.complete out).answer n (.ok out)) else none
    | _ => none
  | .abort n text applied =>
    match w.phase n with
    | .recording _ out =>
      if applied then
        if w.holder = some n then some ((w.complete out).answer n (.error text)) else none
      else some ((w.rollback n).answer n (.error text))
    | _ => none
  | .disconnect n =>
    match w.phase n with
    | .executing _ => some (w.rollback n)
    | _ => none
  | .crash n => some ((w.rollback n).set n .idle)

def execution? (w : World β ε) (n : Nat) : Option Nat := (w.phase n).execution?

/-- No effect of the caller's execution is in the log. -/
def quiet (w : World β ε) (n : Nat) : Bool :=
  match w.execution? n with
  | some e => w.log.all fun p => p.1 ≠ e
  | none => true

/-- No transaction is lost once its `fn` made an effect, and none makes an effect once its
transaction is lost. -/
def settles (w : World β ε) : Action β ε → Bool
  | .effect n _ => w.holder = some n
  | .fail n _ | .abort n _ false | .disconnect n | .crash n => w.quiet n
  | _ => true

/-! ## What a step does -/

variable {w w' : World β ε} {n m : Nat} {a : Action β ε} {p : Phase β}

theorem execution?_set_self (w : World β ε) (n : Nat) (p : Phase β) :
    (w.set n p).execution? n = p.execution? :=
  congrArg Phase.execution? (Function.update_self ..)

theorem execution?_set_of_ne (p : Phase β) (other : m ≠ n) :
    (w.set n p).execution? m = w.execution? m :=
  congrArg Phase.execution? (Function.update_of_ne other ..)

theorem holder_rollback : (w.rollback n).holder = some m ↔ w.holder = some m ∧ m ≠ n := by
  unfold rollback
  dsimp only
  split
  next held =>
    refine ⟨nofun, fun other => ?_⟩
    rw [held] at other
    exact absurd (some.inj other.1).symm other.2
  next held =>
    refine ⟨fun holds => ⟨holds, ?_⟩, And.left⟩
    rintro rfl
    exact held holds

/-- The kinds of steps, by what they do to the key. -/
inductive Moves (w : World β ε) : Action β ε → World β ε → Prop
  /-- A caller moves on, and may return what the row holds. -/
  | moves {a : Action β ε} (n : Nat) (p : Phase β) (answers : List (Except String β))
      (same : p.execution? = w.execution? n)
      (read : ∀ out, .ok out ∈ answers → .ok out ∈ w.answers ∨ w.row = some (.completed out)) :
      Moves w a { w.set n p with answers }
  | starts {n : Nat} (free : w.holder = none) (fresh : w.row = none) :
      Moves w (.claim n) { w.set n (.executing w.executions) with
        holder := some n, executions := w.executions + 1 }
  | effect {n e : Nat} {x : ε} (executing : w.execution? n = some e) :
      Moves w (.effect n x) { w with log := w.log ++ [(e, x)] }
  /-- The transaction is rolled back. -/
  | loses {a : Action β ε} (n : Nat) (p : Phase β) (answers : List (Except String β))
      (condition : w.settles a = w.quiet n)
      (failed : ∀ out, .ok out ∈ answers → .ok out ∈ w.answers) :
      Moves w a { (w.rollback n).set n p with answers }
  | commits {a : Action β ε} (n : Nat) (out : β) (r : Except String β) (held : w.holder = some n)
      (result : ∀ out', r = .ok out' → out' = out) : Moves w a ((w.complete out).answer n r)

theorem step_moves (moved : w.step a = some w') : w.Moves a w' := by
  cases a with
  | call n =>
    dsimp only [step] at moved
    split at moved
    next idle =>
      cases moved
      refine .moves n .calling w.answers ?_ fun out mem => .inl mem
      rw [execution?, idle]
      rfl
    next => cases moved
  | claim n =>
    dsimp only [step] at moved
    split at moved
    next free fresh =>
      cases moved
      exact .starts free fresh
    next out calling free row =>
      cases moved
      refine .moves n .idle _ ?_ fun out' mem => ?_
      · rw [execution?, calling]
        rfl
      · rcases mem_append.mp mem with old | last
        · exact .inl old
        · cases mem_singleton.mp last
          exact .inr row
    next calling free row =>
      cases moved
      refine .moves n .idle _ ?_ fun out' mem => .inl (by simpa using mem)
      rw [execution?, calling]
      rfl
    next => cases moved
  | refuse n text =>
    dsimp only [step] at moved
    split at moved
    next calling =>
      cases moved
      refine .moves n .idle _ ?_ fun out' mem => .inl (by simpa using mem)
      rw [execution?, calling]
      rfl
    next => cases moved
  | effect n x =>
    dsimp only [step] at moved
    split at moved
    next e executing =>
      cases moved
      refine .effect ?_
      rw [execution?, executing]
      rfl
    next => cases moved
  | fail n text =>
    dsimp only [step] at moved
    split at moved
    next =>
      cases moved
      exact .loses n .idle _ rfl fun out mem => by simpa [rollback] using mem
    next => cases moved
  | finish n out =>
    dsimp only [step] at moved
    split at moved
    next e executing =>
      cases moved
      refine .moves n (.recording e out) w.answers ?_ fun out mem => .inl mem
      rw [execution?, executing]
      rfl
    next => cases moved
  | commit n =>
    dsimp only [step] at moved
    split at moved
    next e out _ =>
      obtain ⟨held, ⟨⟩⟩ := ite_none_right_eq_some.mp moved
      refine .commits n out (.ok out) held ?_
      rintro out' ⟨⟩
      rfl
    next => cases moved
  | abort n text done =>
    dsimp only [step] at moved
    split at moved
    next e out _ =>
      cases done with
      | true =>
        rw [if_pos rfl] at moved
        obtain ⟨held, ⟨⟩⟩ := ite_none_right_eq_some.mp moved
        exact .commits n out (.error text) held nofun
      | false =>
        cases moved
        exact .loses n .idle _ rfl fun out mem => by simpa [rollback] using mem
    next => cases moved
  | disconnect n =>
    dsimp only [step] at moved
    split at moved
    next =>
      cases moved
      have same : w.rollback n =
        { (w.rollback n).set n (w.phase n) with answers := w.answers } := by
        simp only [set, rollback, Function.update_eq_self]
      rw [same]
      exact .loses n (w.phase n) w.answers rfl fun _ mem => mem
    next => cases moved
  | crash n =>
    cases moved
    exact .loses n .idle w.answers rfl fun _ mem => mem

/-- What is returned is what the row holds, and a row is committed once. -/
structure Agreed (w : World β ε) : Prop where
  held : ∀ n, w.holder = some n → w.row = none
  answered : ∀ out, .ok out ∈ w.answers → w.row = some (.completed out)
  never : w.row ≠ some .pending

theorem Agreed.step (agreed : w.Agreed) (moved : w.step a = some w') : w'.Agreed := by
  cases step_moves moved with
  | moves n p ans same read =>
    refine ⟨agreed.held, fun out mem => ?_, agreed.never⟩
    exact (read out mem).elim (agreed.answered out) id
  | starts free fresh => exact ⟨fun _ _ => fresh, agreed.answered, agreed.never⟩
  | effect executing => exact ⟨agreed.held, agreed.answered, agreed.never⟩
  | loses n p ans condition failed =>
    refine ⟨fun m held => ?_, fun out mem => agreed.answered out (failed out mem), agreed.never⟩
    exact agreed.held m (holder_rollback.mp held).1
  | commits n out r held result =>
    refine ⟨nofun, fun out' mem => ?_, nofun⟩
    rcases mem_append.mp mem with old | last
    · have none_ := agreed.held n held
      rw [agreed.answered out' old] at none_
      cases none_
    · rw [result out' (mem_singleton.mp last).symm]
      rfl

/-- When `fn` of the caller that holds the key fails, the key is free. -/
theorem Agreed.fail (agreed : w.Agreed) {text : String} (held : w.holder = some n)
    (failed : w.step (.fail n text) = some w') : w'.holder = none ∧ w'.row = none := by
  dsimp only [World.step] at failed
  split at failed
  next =>
    cases failed
    exact ⟨if_pos held, agreed.held n held⟩
  next => cases failed

/-- Every effect belongs to the one execution that is committed, or that holds the key. -/
structure Once (w : World β ε) : Prop where
  traced : ∀ p ∈ w.log, w.row ≠ none ∨ ∃ n, w.holder = some n ∧ w.execution? n = some p.1
  once : ∀ p ∈ w.log, ∀ q ∈ w.log, p.1 = q.1

/-- While a caller holds the key, the effects are those of its execution. -/
theorem Once.execution (once : w.Once) (agreed : w.Agreed) (held : w.holder = some n) {e : Nat}
    (execution : w.execution? n = some e) : ∀ p ∈ w.log, p.1 = e := by
  intro p mem
  rcases once.traced p mem with done | ⟨m, held', execution'⟩
  · exact absurd (agreed.held n held) done
  · rw [held] at held'
    cases held'
    rw [execution] at execution'
    exact (some.inj execution').symm

theorem Once.step (once : w.Once) (agreed : w.Agreed) (settles : w.settles a)
    (moved : w.step a = some w') : w'.Once := by
  cases step_moves moved with
  | moves n p ans same read =>
    refine ⟨fun q mem => (once.traced q mem).imp_right ?_, once.once⟩
    rintro ⟨m, held, execution⟩
    refine ⟨m, held, ?_⟩
    by_cases mine : m = n
    · subst mine
      exact (execution?_set_self w m p).trans (same.trans execution)
    · exact (execution?_set_of_ne p mine).trans execution
  | starts free fresh =>
    -- neither committed nor held: the log is empty
    have empty : ∀ q, q ∉ w.log := by
      intro q mem
      rcases once.traced q mem with done | ⟨m, held, -⟩
      · exact done fresh
      · rw [free] at held
        cases held
    exact ⟨fun q mem => absurd mem (empty q), fun q mem => absurd mem (empty q)⟩
  | @effect n e x executing =>
    have held : w.holder = some n := of_decide_eq_true settles
    have all : ∀ q ∈ w.log ++ [(e, x)], q.1 = e := by
      exact forall_mem_snoc (once.execution agreed held executing) rfl
    refine ⟨fun q mem => .inr ⟨n, held, ?_⟩,
      fun q mem q' mem' => (all q mem).trans (all q' mem').symm⟩
    rw [all q mem]
    exact executing
  | loses n p ans condition failed =>
    have quiet : w.quiet n := condition ▸ settles
    refine ⟨fun q mem => (once.traced q mem).imp_right ?_, once.once⟩
    rintro ⟨m, held, execution⟩
    have other : m ≠ n := by
      rintro rfl
      rw [World.quiet, execution] at quiet
      exact of_decide_eq_true (all_eq_true.mp quiet q mem) rfl
    exact ⟨m, holder_rollback.mpr ⟨held, other⟩, (execution?_set_of_ne p other).trans execution⟩
  | commits n out r held result => exact ⟨fun q mem => .inl nofun, once.once⟩

end World

variable {β ε : Type}

/-- In every run of any number of callers of one key in which no transaction is lost once its `fn`
made an effect, nor makes one once it is lost: the effects are those of one execution, all callers
that return without an error return the same bytes, and after `fn` failed the next caller executes
it. -/
theorem do_once {acts : List (Action β ε)} {w : World β ε}
    (run : Run World.step (fun w a => w.settles a) {} acts w) :
    (∀ p ∈ w.log, ∀ q ∈ w.log, p.1 = q.1) ∧
      (∀ out out', .ok out ∈ w.answers → .ok out' ∈ w.answers → out = out') ∧
      ∀ n text w', w.holder = some n → w.step (.fail n text) = some w' → ∀ m,
        w'.phase m = .calling →
        ∃ w'' e, w'.step (.claim m) = some w'' ∧ w''.phase m = .executing e := by
  obtain ⟨agreed, once⟩ : w.Agreed ∧ w.Once := run.invariant (I := fun w => w.Agreed ∧ w.Once)
    (fun _ _ _ settles moved inv => ⟨inv.1.step moved, inv.2.step inv.1 settles moved⟩)
    ⟨⟨nofun, nofun, nofun⟩, ⟨nofun, nofun⟩⟩
  refine ⟨once.once, fun out out' mem mem' => ?_, fun n text w' held failed m calling => ?_⟩
  · have same := (agreed.answered out mem).symm.trans (agreed.answered out' mem')
    cases same
    rfl
  · obtain ⟨free, fresh⟩ := agreed.fail held failed
    simp only [World.step, calling, free, fresh]
    exact ⟨_, _, rfl, Function.update_self ..⟩

/-- The first caller makes an effect and commits, the second waits for it and reads the result. -/
theorem waiting_caller_reads : ∃ w : World String String, executeIf World.step World.settles {}
        [.call 0, .call 1, .claim 0, .effect 0 "owner.created", .finish 0 "ok", .commit 0,
          .claim 1] =
      some w ∧
      w.answers = [.ok "ok", .ok "ok"] ∧ ∀ p ∈ w.log, ∀ q ∈ w.log, p.1 = q.1 := by
  have ran : executeIf World.step World.settles ({} : World String String)
      [.call 0, .call 1, .claim 0, .effect 0 "owner.created", .finish 0 "ok", .commit 0, .claim 1] =
    some _ := rfl
  exact ⟨_, ran, rfl, (do_once (run_of_executeIf ran)).1⟩

/-- The commit of the first caller fails after its effect; the second repeats the effect. -/
theorem effect_repeated : ∃ w : World String String,
    execute World.step {} [.call 0, .call 1, .claim 0, .effect 0 "owner.created", .finish 0 "ok",
          .abort 0 "commit failed" false, .claim 1, .effect 1 "owner.created"] = some w ∧
      w.log = [(0, "owner.created"), (1, "owner.created")] :=
  ⟨_, rfl, rfl⟩

/-- Whatever is lost or fails: once a caller returned bytes, they stay in the row, and no caller
returns others. -/
theorem answers_stay {ok : World β ε → Action β ε → Prop} {acts acts' : List (Action β ε)}
    {w w' : World β ε} {out : β} (run : Run World.step ok {} acts w)
    (answered : .ok out ∈ w.answers)
    (later : Run World.step ok w acts' w') :
    w'.row = some (.completed out) ∧ ∀ out', .ok out' ∈ w'.answers → out' = out := by
  have agreed : w.Agreed :=
    run.invariant (fun _ _ _ _ moved old => old.step moved) ⟨nofun, nofun, nofun⟩
  have final : w'.Agreed ∧ w'.row = some (.completed out) := by
    refine later.invariant (I := fun x => x.Agreed ∧ x.row = some (.completed out))
      (fun x a x' _ moved old => ⟨old.1.step moved, ?_⟩) ⟨agreed, agreed.answered out answered⟩
    cases World.step_moves moved with
    | commits n _ _ held => cases (old.1.held n held).symm.trans old.2
    | moves | starts | effect | loses => exact old.2
  refine ⟨final.2, fun out' mem => ?_⟩
  cases (final.1.answered out' mem).symm.trans final.2
  rfl

/-- The second caller reads the result of the first. -/
theorem answer_read_later : ∃ w : World String String, w.answers.length = 2 ∧
    w.row = some (.completed "ok") := by
  have ran : execute World.step ({} : World String String)
    [.call 0, .call 1, .claim 0, .finish 0 "ok", .commit 0] = some _ := rfl
  exact ⟨_, rfl, (answers_stay (run_of_execute ran) (.head _)
    (.cons (a := .claim 1) trivial rfl (.nil _))).1⟩

end Trustctl.Idempotency
