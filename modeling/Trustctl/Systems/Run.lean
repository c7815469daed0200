/-!
# Runs of a transition system

A system is a partial step function on states; an action that is not enabled has no
successor.  `Run step ok s as s'` is a run from `s` to `s'` each of whose steps meets the
condition `ok` on the state before the step and the action, and `Run.invariant` is the one
induction over runs: what every step that meets the condition keeps holds in every state
reached.
-/

namespace Trustctl.Systems

variable {S A : Type} {step : S → A → Option S} {ok : S → A → Prop} {s s' : S}

/-- A run whose steps all meet the condition. -/
inductive Run (step : S → A → Option S) (ok : S → A → Prop) : S → List A → S → Prop
  | nil (s : S) : Run step ok s [] s
  | cons {s m s' : S} {a : A} {as : List A} (meets : ok s a) (moved : step s a = some m)
      (rest : Run step ok m as s') : Run step ok s (a :: as) s'

/-- What every step keeps holds in every state reached. -/
theorem Run.invariant {I : S → Prop}
    (keeps : ∀ s a s', ok s a → step s a = some s' → I s → I s') {as : List A}
    (run : Run step ok s as s') (init : I s) : I s' := by
  induction run with
  | nil => exact init
  | cons meets moved rest ih => exact ih (keeps _ _ _ meets moved init)

/-- A run, one step further. -/
theorem Run.snoc {as : List A} {a : A} {last : S} (run : Run step ok s as s') (meets : ok s' a)
    (moved : step s' a = some last) : Run step ok s (as ++ [a]) last := by
  induction run with
  | nil => exact .cons meets moved (.nil _)
  | cons meets' moved' rest ih => exact .cons meets' moved' (ih meets moved)

/-- What every step keeps, with the run that leads to it at hand, holds at the end. -/
theorem Run.invariant_along {I : List A → S → Prop}
    (keeps : ∀ past m a m', Run step ok s past m → ok m a → step m a = some m' → I past m →
      I (past ++ [a]) m') {as : List A} (run : Run step ok s as s') (init : I [] s) : I as s' := by
  have onward : ∀ {m s' : S} {as : List A}, Run step ok m as s' →
      ∀ past, Run step ok s past m → I past m → I (past ++ as) s' := by
    intro m s' as rest
    induction rest with
    | nil =>
      intro past _ here
      rwa [List.append_nil]
    | @cons m m' _ a as meets moved rest ih =>
      intro past led here
      have later := ih (past ++ [a]) (led.snoc meets moved) (keeps _ _ _ _ led meets moved here)
      rwa [List.append_assoc] at later
  exact onward run [] (.nil s) init

def execute (step : S → A → Option S) (s : S) : List A → Option S
  | [] => some s
  | a :: as => (step s a).bind fun m => execute step m as

/-- Every execution is an unconditional run. -/
theorem run_of_execute {as : List A} (ran : execute step s as = some s') :
    Run step (fun _ _ => True) s as s' := by
  induction as generalizing s with
  | nil =>
    cases ran
    exact .nil _
  | cons a as ih =>
    obtain ⟨m, moved, rest⟩ := Option.bind_eq_some_iff.mp ran
    exact .cons trivial moved (ih rest)

/-- Perform the actions one after the other, as long as each meets a condition. -/
def executeIf (step : S → A → Option S) (ok : S → A → Bool) (s : S) : List A → Option S
  | [] => some s
  | a :: as => if ok s a then (step s a).bind fun m => executeIf step ok m as else none

/-- Such an execution is a run that meets the condition. -/
theorem run_of_executeIf {ok : S → A → Bool} {as : List A}
    (ran : executeIf step ok s as = some s') :
    Run step (fun s a => ok s a) s as s' := by
  induction as generalizing s with
  | nil =>
    cases ran
    exact .nil _
  | cons a as ih =>
    unfold executeIf at ran
    obtain ⟨meets, ran⟩ := Option.ite_none_right_eq_some.mp ran
    obtain ⟨m, moved, rest⟩ := Option.bind_eq_some_iff.mp ran
    exact .cons meets moved (ih rest)

theorem mem_snoc {log : List A} {a b : A} : b ∈ log ++ [a] ↔ b ∈ log ∨ b = a := by
  rw [List.mem_append, List.mem_singleton]

/-- What holds of every entry of a log and of the one appended to it holds of the longer log. -/
theorem forall_mem_snoc {p : A → Prop} {log : List A} {a : A} (old : ∀ b ∈ log, p b) (last : p a) :
    ∀ b ∈ log ++ [a], p b :=
  List.forall_mem_append.mpr ⟨old, List.forall_mem_singleton.mpr last⟩

end Trustctl.Systems
