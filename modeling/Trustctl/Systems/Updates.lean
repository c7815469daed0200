import Mathlib.Logic.Function.Basic
import Mathlib.Data.List.Nodup

/-!
# Storing several records in a map

`putAll key xs f` stores the records of `xs` in the map `f` under their keys, one after the
other.  With distinct keys the result does not depend on the order and
`putAll_eq_some` says what is found under a key.
-/

namespace Trustctl.Systems

open List

variable {K A : Type} [DecidableEq K] {key : A → K}

/-- What is found in a map that was updated at one key. -/
theorem update_eq_some {f : K → Option A} {k j : K} {x y : A} :
    Function.update f k (some x) j = some y ↔ (j = k ∧ y = x) ∨ (j ≠ k ∧ f j = some y) := by
  by_cases same : j = k
  · simp [same, eq_comm]
  · simp [same]

def putAll (key : A → K) (xs : List A) (f : K → Option A) : K → Option A :=
  xs.foldl (fun f x => Function.update f (key x) (some x)) f

@[simp] theorem putAll_nil (f : K → Option A) : putAll key [] f = f := rfl

@[simp] theorem putAll_cons (x : A) (xs : List A) (f : K → Option A) :
    putAll key (x :: xs) f = putAll key xs (Function.update f (key x) (some x)) := rfl

theorem putAll_append (xs ys : List A) (f : K → Option A) :
    putAll key (xs ++ ys) f = putAll key ys (putAll key xs f) :=
  foldl_append ..

theorem putAll_of_notMem {xs : List A} {k : K} (fresh : k ∉ xs.map key) (f : K → Option A) :
    putAll key xs f k = f k := by
  induction xs generalizing f with
  | nil => rfl
  | cons x xs ih =>
    rw [map_cons, mem_cons, not_or] at fresh
    rw [putAll_cons, ih fresh.2, Function.update_of_ne fresh.1]

theorem putAll_of_mem {xs : List A} (ne : (xs.map key).Nodup) {x : A} (mem : x ∈ xs)
    (f : K → Option A) : putAll key xs f (key x) = some x := by
  induction xs generalizing f with
  | nil => contradiction
  | cons y ys ih =>
    rw [map_cons, nodup_cons] at ne
    rw [putAll_cons]
    rcases mem_cons.mp mem with rfl | later
    · rw [putAll_of_notMem ne.1, Function.update_self]
    · exact ih ne.2 later _

theorem putAll_eq_some {xs : List A} (ne : (xs.map key).Nodup) {f : K → Option A} {k : K} {y : A} :
    putAll key xs f k = some y ↔ (y ∈ xs ∧ key y = k) ∨ (k ∉ xs.map key ∧ f k = some y) := by
  by_cases kept : k ∈ xs.map key
  · obtain ⟨x, mem, rfl⟩ := mem_map.mp kept
    rw [putAll_of_mem ne mem]
    constructor
    · rintro ⟨⟩
      exact .inl ⟨mem, rfl⟩
    · rintro (⟨mem', same⟩ | ⟨fresh, -⟩)
      · rw [inj_on_of_nodup_map ne mem' mem same]
      · exact absurd kept fresh
  · rw [putAll_of_notMem kept]
    constructor
    · exact fun hit => .inr ⟨kept, hit⟩
    · rintro (⟨mem, rfl⟩ | ⟨-, hit⟩)
      · exact absurd (mem_map_of_mem mem) kept
      · exact hit

end Trustctl.Systems
