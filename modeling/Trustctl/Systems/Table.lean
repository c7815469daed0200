import Mathlib.Data.List.Basic

/-!
# Tables

A finite map as the list of its entries.  Storing replaces the entry of the key, so a key has
at most one entry and the listing of a table shows exactly what can be found in it.
-/

namespace Trustctl.Systems

open List Option

variable {K V : Type} [DecidableEq K]

abbrev Table (K V : Type) := List (K × V)

namespace Table

def get (t : Table K V) (k : K) : Option V := (t.find? fun e => e.1 = k).map Prod.snd

def drop (t : Table K V) (k : K) : Table K V := t.filter fun e => e.1 ≠ k

def put (t : Table K V) (k : K) (v : V) : Table K V := (k, v) :: t.drop k

variable {t : Table K V} {k : K} {v : V}

theorem mem_of_get (hit : t.get k = some v) : (k, v) ∈ t := by
  obtain ⟨⟨key, value⟩, entry, rfl⟩ := map_eq_some_iff.mp hit
  have same := find?_some entry
  rw [decide_eq_true_eq] at same
  cases same
  exact List.mem_of_find?_eq_some entry

theorem not_mem_of_get (gone : t.get k = none) (v : V) : (k, v) ∉ t := by
  intro entry
  rw [get, map_eq_none_iff, find?_eq_none] at gone
  exact gone (k, v) entry (decide_eq_true rfl)

theorem mem_drop {e : K × V} : e ∈ t.drop k ↔ e ∈ t ∧ e.1 ≠ k := by
  rw [drop, mem_filter, decide_eq_true_eq]

theorem mem_put {e : K × V} : e ∈ t.put k v ↔ e = (k, v) ∨ (e ∈ t ∧ e.1 ≠ k) := by
  rw [put, mem_cons, mem_drop]

variable {k' : K}

@[simp] theorem get_drop_self (t : Table K V) (k : K) : (t.drop k).get k = none := by
  rw [get, drop, find?_filter, map_eq_none_iff, find?_eq_none]
  intro e _
  simp

theorem get_drop_of_ne (other : k' ≠ k) : (t.drop k).get k' = t.get k' := by
  rw [get, get, drop, find?_filter]
  congr 2
  funext e
  by_cases same : e.1 = k'
  · simp [same, other]
  · simp [same]

@[simp] theorem get_put_self (t : Table K V) (k : K) (v : V) : (t.put k v).get k = some v := by
  rw [get, put, find?_cons_of_pos (by simp)]
  rfl

theorem get_put_of_ne (other : k' ≠ k) : (t.put k v).get k' = t.get k' := by
  rw [get, put, find?_cons_of_neg (by simp [other.symm])]
  exact get_drop_of_ne other

theorem get_drop_eq_some : (t.drop k).get k' = some v ↔ k' ≠ k ∧ t.get k' = some v := by
  by_cases same : k' = k
  · simp [same]
  · simp [same, get_drop_of_ne same]

theorem get_put_eq_some {v' : V} :
    (t.put k v).get k' = some v' ↔ (k' = k ∧ v = v') ∨ (k' ≠ k ∧ t.get k' = some v') := by
  by_cases same : k' = k
  · simp [same]
  · simp [same, get_put_of_ne same]

end Table

end Trustctl.Systems
