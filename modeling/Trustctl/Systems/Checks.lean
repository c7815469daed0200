/-!
# Sequences of checks

A request is checked by one test after the other, each with its own refusal.  `demand` is one
test, `each` the same test of every element of a list; `bind_ok`, `demand_eq_ok` and
`each_eq_ok` turn "the whole sequence passed" into the conditions it tests.
-/

namespace Trustctl.Systems

open List

variable {ε α β : Type}

/-- Refuse unless the condition holds. -/
def demand (holds : Prop) [Decidable holds] (refusal : ε) : Except ε Unit :=
  if holds then .ok () else .error refusal

@[simp] theorem demand_eq_ok {holds : Prop} [Decidable holds] {no : ε} {u : Unit} :
    demand holds no = .ok u ↔ holds := by
  unfold demand
  split <;> simp [*]

/-- A sequence passes if its first part does and then the rest. -/
@[simp] theorem bind_ok {first : Except ε α} {rest : α → Except ε β} {b : β} :
    (first >>= rest) = .ok b ↔ ∃ a, first = .ok a ∧ rest a = .ok b := by
  cases first <;> simp [bind, Except.bind]

/-- The check of each element in turn. -/
def each (check : α → Except ε Unit) : List α → Except ε Unit
  | [] => .ok ()
  | a :: rest => do
    check a
    each check rest

@[simp] theorem each_eq_ok {check : α → Except ε Unit} {items : List α} {u : Unit} :
    each check items = .ok u ↔ ∀ a ∈ items, check a = .ok () := by
  induction items with
  | nil => simp [each]
  | cons a rest ih =>
    rw [each, bind_ok, forall_mem_cons, ← ih]
    exact ⟨fun ⟨_, first, others⟩ => ⟨first, others⟩, fun ⟨first, others⟩ => ⟨(), first, others⟩⟩

@[simp] theorem mapError_ok {ε' : Type} {f : ε → ε'} {a : α} :
    (Except.ok a : Except ε α).mapError f = .ok a := rfl

@[simp] theorem mapError_error {ε' : Type} {f : ε → ε'} {e : ε} :
    (Except.error e : Except ε α).mapError f = .error (f e) := rfl

/-- Another text for the refusal does not change what passes. -/
@[simp] theorem mapError_eq_ok {ε' : Type} {x : Except ε α} {f : ε → ε'} {a : α} :
    x.mapError f = .ok a ↔ x = .ok a := by
  cases x with
  | ok | error => simp

/-- The results of a sequence are those of its elements. -/
theorem mem_mapM {f : α → Except ε β} {items : List α} {results : List β} {b : β}
    (done : items.mapM f = .ok results) : b ∈ results ↔ ∃ a ∈ items, f a = .ok b := by
  induction items generalizing results with
  | nil =>
    cases done
    simp
  | cons a rest ih =>
    simp only [mapM_cons, bind_ok] at done
    obtain ⟨first, made, others, rested, ⟨⟩⟩ := done
    rw [mem_cons, ih rested]
    constructor
    · rintro (rfl | ⟨a', there, made'⟩)
      · exact ⟨a, mem_cons_self, made⟩
      · exact ⟨a', mem_cons_of_mem _ there, made'⟩
    · rintro ⟨a', there, made'⟩
      rcases mem_cons.mp there with rfl | later
      · exact .inl (Except.ok.inj (made'.symm.trans made))
      · exact .inr ⟨a', later, made'⟩

theorem map_eq_ok {ε α β : Type} {x : Except ε α} {g : α → β} {b : β} :
    x.map g = .ok b ↔ ∃ a, x = .ok a ∧ g a = b := by
  cases x <;> simp [Except.map]

end Trustctl.Systems
