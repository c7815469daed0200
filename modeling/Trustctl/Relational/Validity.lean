import Trustctl.Relational.Basic

/-!
# Changes that keep the constraints

Two changes of whole tables keep a valid store valid without looking at the rows:
rewriting columns no constraint reads (`valid_map`), and dropping rows so that every
row that stays keeps the rows it references (`Constraint.holds_filter`).
-/

namespace Trustctl.Relational

open List

variable {T : Type} {R : T → Type} {db : Tables R}

theorem Constraint.nodup_of_holds {K : Type} [DecidableEq K] {t : T} {key : R t → K}
    (holds : (Constraint.unique t fun r => some (key r)).holds db) :
    ((db t).map key).Nodup := by
  rw [← filterMap_eq_map]
  exact of_decide_eq_true holds

/-- The constraint does not read the columns `f` changes. -/
def Constraint.Unread (f : (t : T) → R t → R t) : Constraint R → Prop
  | @unique _ _ _ _ t key => ∀ r, key (f t r) = key r
  | @foreignKey _ _ _ _ t t' ref key => (∀ r, ref (f t r) = ref r) ∧ ∀ p, key (f t' p) = key p
  | .check t ok => ∀ r, ok (f t r) = ok r

theorem Constraint.holds_map {f : (t : T) → R t → R t} {c : Constraint R} (unread : c.Unread f) :
    c.holds (fun t => (db t).map (f t)) = c.holds db := by
  cases c with
  | unique t key =>
    have same : key ∘ f t = key := funext unread
    simp only [holds, filterMap_map, same]
  | foreignKey t t' ref key =>
    simp only [holds, all_map, any_map, Function.comp_def, unread.1, unread.2]
  | check t ok =>
    have same : ok ∘ f t = ok := funext unread
    simp only [holds, all_map, same]

def Constraint.tables : Constraint R → List T
  | @unique _ _ _ _ t _ => [t]
  | @foreignKey _ _ _ _ t t' _ _ => [t, t']
  | .check t _ => [t]

def onTable [DecidableEq T] (t : T) (f : R t → R t) : (t' : T) → R t' → R t' :=
  Function.update (fun _ => id) t f

@[simp] theorem onTable_self [DecidableEq T] (t : T) (f : R t → R t) : onTable t f t = f :=
  Function.update_self ..

theorem onTable_of_ne [DecidableEq T] {t t' : T} (f : R t → R t) (ne : t' ≠ t) :
    onTable t f t' = id := Function.update_of_ne ne ..

theorem Constraint.unread_of_not_mem [DecidableEq T] {t : T} {f : R t → R t} {c : Constraint R}
    (other : t ∉ c.tables) : c.Unread (onTable t f) := by
  cases c with
  | unique t' | check t' =>
    have ne : t' ≠ t := fun same => other (by simp [tables, same])
    exact fun r => by rw [onTable_of_ne f ne, id]
  | foreignKey t₁ t₂ ref key =>
    have ne₁ : t₁ ≠ t := fun same => other (by simp [tables, same])
    have ne₂ : t₂ ≠ t := fun same => other (by simp [tables, same])
    exact ⟨fun r => by rw [onTable_of_ne f ne₁, id], fun p => by rw [onTable_of_ne f ne₂, id]⟩

/-- A row that is kept keeps the rows it references. -/
def Constraint.Closed (db : Tables R) (keep : (t : T) → R t → Bool) : Constraint R → Prop
  | @unique _ _ _ _ _ _ => True
  | @foreignKey _ _ _ _ t t' ref key => ∀ r ∈ db t, keep t r → ∀ p ∈ db t',
    ref r = some (key p) → keep t' p
  | .check _ _ => True

theorem Constraint.holds_filter {keep : (t : T) → R t → Bool} {c : Constraint R}
    (closed : c.Closed db keep) (holds : c.holds db) :
    c.holds (fun t => (db t).filter (keep t)) := by
  cases c with
  | unique t key =>
    have nodup := of_decide_eq_true holds
    exact decide_eq_true (nodup.sublist (filter_sublist.filterMap key))
  | foreignKey t t' ref key =>
    refine all_eq_true.mpr fun r mem => ?_
    obtain ⟨stored, kept⟩ := mem_filter.mp mem
    have here := all_eq_true.mp holds r stored
    cases named : ref r with
    | none => rfl
    | some k =>
      rw [named] at here
      obtain ⟨p, parent, names⟩ := any_eq_true.mp here
      have same : key p = k := of_decide_eq_true names
      have keptParent := closed r stored kept p parent (by rw [named, same])
      exact any_eq_true.mpr ⟨p, mem_filter.mpr ⟨parent, keptParent⟩, names⟩
  | check t ok =>
    refine all_eq_true.mpr fun r mem => ?_
    exact all_eq_true.mp holds r (mem_filter.mp mem).1

/-- The table of the references and the table they name. -/
def Constraint.edge : Constraint R → Option (T × T)
  | @foreignKey _ _ _ _ t t' _ _ => some (t, t')
  | _ => none

variable [Schema R]

theorem valid_map {f : (t : T) → R t → R t}
    (unread : ∀ c ∈ Schema.constraints (R := R), c.Unread f) :
    Schema.valid (fun t => (db t).map (f t)) = Schema.valid db := by
  rw [Bool.eq_iff_iff]
  simp only [Schema.valid, all_eq_true]
  exact forall₂_congr fun c mem => by rw [Constraint.holds_map (unread c mem)]

/-- Rewriting one table matters only to the constraints about that table. -/
theorem valid_onTable [DecidableEq T] {t : T} {f : R t → R t}
    (unread : ∀ c ∈ (Schema.constraints (R := R)).filter fun c => c.tables.contains t,
      c.Unread (onTable t f)) :
    Schema.valid (setTable db t ((db t).map f)) = Schema.valid db := by
  have moved : setTable db t ((db t).map f) = fun t' => (db t').map (onTable t f t') := by
    funext t'
    by_cases same : t' = t
    · subst same
      rw [setTable_self, onTable_self]
    · rw [setTable_of_ne _ same, onTable_of_ne f same, map_id]
  rw [moved]
  refine valid_map fun c mem => ?_
  by_cases about : t ∈ c.tables
  · exact unread c (mem_filter.mpr ⟨mem, by simpa using about⟩)
  · exact Constraint.unread_of_not_mem about

theorem valid_empty : Schema.valid (R := R) (fun _ => []) := by
  refine all_eq_true.mpr fun c _ => ?_
  cases c <;> simp [Constraint.holds]

def Database.empty : Database R := ⟨fun _ => [], valid_empty⟩

end Trustctl.Relational
