import Mathlib.Data.List.Nodup
import Mathlib.Logic.Function.Basic

/-!
# Tenant-scoped relational stores

A store is a family of tables indexed by a type `T`; a table is the list of its
rows.  A `Schema` names the tenant column, the constraints every committed state
satisfies and the referential actions of a delete.  `Database` carries the proof
that its constraints hold, so a state that violates one cannot be built.

A statement `Stmt R ε τ` is one SQL command of a transaction that works for the
tenant `τ`: its `WHERE` clauses carry `tenant_id = τ`, so it reads and changes
rows of `τ` only, the rows it inserts belong to `τ`, and its `SET` clauses keep the
tenant column.  The one place where such a command meets another tenant's row is
the conflict target of an insert, which ranges over the whole table; there the
`Session` decides: under row-level security the command fails, a session that
bypasses the policies overwrites the row.

* `effect` is what a statement does to the tables, `exec` runs it and succeeds
  exactly when the tables it leaves satisfy the constraints (`exec_ok`);
* `run` executes a transaction, which has no effect unless every statement succeeds.
-/

namespace Trustctl.Relational

abbrev Tables {T : Type} (R : T → Type) : Type := (t : T) → List (R t)

inductive Constraint {T : Type} (R : T → Type) : Type 1
  /-- No two rows agree on the key; a row whose key is `none` is not indexed. -/
  | unique {K : Type} [DecidableEq K] (t : T) (key : R t → Option K)
  /-- Every non-null reference of a row of `t` names a row of `t'`. -/
  | foreignKey {K : Type} [DecidableEq K] (t t' : T) (ref : R t → Option K) (key : R t' → K)
  /-- Every row of `t` satisfies the check. -/
  | check (t : T) (ok : R t → Bool)

def Constraint.holds {T : Type} {R : T → Type} (db : Tables R) : Constraint R → Bool
  | @unique _ _ _ _ t key => decide ((db t).filterMap key).Nodup
  | @foreignKey _ _ _ _ t t' ref key =>
    (db t).all fun r => (ref r).all fun k => (db t').any fun p => decide (key p = k)
  | .check t ok => (db t).all ok

/-- What a store declares about its tables. -/
class Schema {T : Type} (R : T → Type) where
  /-- The tenant column of a row. -/
  tenantOf : {t : T} → R t → String
  /-- Every unique, foreign-key and check constraint. -/
  constraints : List (Constraint R)
  /-- The `ON DELETE` actions after rows of one table are gone. -/
  onDelete : T → Tables R → Tables R
  /-- The tables those actions may change. -/
  cascades : T → List T

/-- The tables satisfy every constraint of the schema. -/
def Schema.valid {T : Type} {R : T → Type} [Schema R] (db : Tables R) : Bool :=
  (Schema.constraints (R := R)).all (Constraint.holds db)

/-- The referential actions repair what a delete broke and nothing else. -/
class LawfulSchema {T : Type} (R : T → Type) [Schema R] : Prop where
  onDelete_of_valid : ∀ (t : T) (db : Tables R), Schema.valid db → Schema.onDelete t db = db
  onDelete_of_not_mem : ∀ {t t' : T} (db : Tables R), t' ∉ Schema.cascades R t →
    Schema.onDelete t db t' = db t'

/-! ## Databases and statements -/

/-- Tables that satisfy the schema's constraints. -/
@[ext]
structure Database {T : Type} (R : T → Type) [Schema R] where
  tables : Tables R
  valid : Schema.valid tables

/-- How a statement fails: a constraint, a row-level-security policy, or an error
raised by the code around the statement. -/
inductive Fault (ε : Type)
  | constraint
  | rowSecurity
  | raised (e : ε)
deriving DecidableEq

/-- Whether the connection is subject to the row-level-security policies. -/
inductive Session
  | rowSecurity
  | bypass
deriving DecidableEq

/-- One statement of a transaction that works for the tenant `τ`. -/
inductive Stmt {T : Type} (R : T → Type) [Schema R] (ε : Type) (τ : String)
  /-- `INSERT … ON CONFLICT`: `conflict` selects the stored rows that agree with the
  new one on the conflict target, `set` is the update of such a row, `none` is
  `DO NOTHING`.  `ownOnly` is the error raised by a `DO UPDATE … WHERE tenant_id =
  EXCLUDED.tenant_id` that meets another tenant's row. -/
  | insert (t : T) (new : R t) (conflict : R t → Bool) (set : Option (R t → R t))
      (ownOnly : Option ε) (own : Schema.tenantOf new = τ)
      (keeps : ∀ f ∈ set, ∀ r, Schema.tenantOf (f r) = Schema.tenantOf r)
  /-- `UPDATE … SET … WHERE`; both clauses may query the tenant's rows.  `missing` is
  the error raised when no row matches. -/
  | update (t : T) (cond : Tables R → R t → Bool) (set : Tables R → R t → R t) (missing : Option ε)
      (keeps : ∀ view r, Schema.tenantOf (set view r) = Schema.tenantOf r)
  /-- `DELETE … WHERE`. -/
  | delete (t : T) (cond : R t → Bool)
  /-- A query of the tenant's rows whose result the surrounding code may turn into an
  error. -/
  | guard (check : Tables R → Option ε)
  /-- A statement the surrounding code skips when a query of the tenant's rows says so. -/
  | skipIf (skip : Tables R → Bool) (body : Stmt R ε τ)

section Forms

variable {T : Type} {R : T → Type} [Schema R] {ε : Type} {τ : String}

/-- `INSERT … ON CONFLICT DO UPDATE SET …`. -/
abbrev upsert (t : T) (new : R t) (conflict : R t → Bool) (set : R t → R t)
    (own : Schema.tenantOf new = τ)
    (keeps : ∀ r, Schema.tenantOf (set r) = Schema.tenantOf r) : Stmt R ε τ :=
  .insert t new conflict (some set) none own fun _ mem r => Option.some.inj mem ▸ keeps r

/-- `INSERT … ON CONFLICT DO NOTHING`. -/
abbrev insertIgnore (t : T) (new : R t) (conflict : R t → Bool)
    (own : Schema.tenantOf new = τ) : Stmt R ε τ :=
  .insert t new conflict none none own fun _ mem => nomatch mem

/-- `UPDATE … SET … WHERE` with clauses that read the row alone; `missing` is the error
raised when no row matches. -/
abbrev rowUpdate (t : T) (cond : R t → Bool) (set : R t → R t) (missing : Option ε)
    (keeps : ∀ r, Schema.tenantOf (set r) = Schema.tenantOf r) : Stmt R ε τ :=
  .update t (fun _ => cond) (fun _ => set) missing fun _ => keeps

end Forms

variable {T : Type} [DecidableEq T] {R : T → Type} {ε : Type}

def setTable (db : Tables R) (t : T) (rows : List (R t)) : Tables R := Function.update db t rows

@[simp] theorem setTable_self (db : Tables R) (t : T) (rows : List (R t)) :
    setTable db t rows t = rows := Function.update_self ..

theorem setTable_of_ne {db : Tables R} {t t' : T} (rows : List (R t)) (h : t' ≠ t) :
    setTable db t rows t' = db t' := Function.update_of_ne h ..

@[simp] theorem setTable_eq_self (db : Tables R) (t : T) : setTable db t (db t) = db :=
  Function.update_eq_self ..

/-- `ON DELETE CASCADE`: drop the rows of `t` whose reference names no row of `t'`. -/
def cascade {K : Type} [DecidableEq K] (t t' : T) (ref : R t → Option K) (key : R t' → K)
    (db : Tables R) : Tables R :=
  setTable db t ((db t).filter fun r => (ref r).all fun k => (db t').any fun p =>
    decide (key p = k))

def updateRows {α : Type} (cond : α → Bool) (set : α → α) (rows : List α) : List α :=
  rows.map fun r => if cond r then set r else r

variable [Schema R] {τ : String}

def owns (τ : String) {t : T} (r : R t) : Bool := decide (Schema.tenantOf r = τ)

/-- The rows of one tenant, all that its statements can query. -/
def slice (τ : String) (db : Tables R) : Tables R := fun t => (db t).filter (owns τ)

/-- What a statement does to the tables, before the constraints are checked. -/
def effect (s : Session) (db : Tables R) : Stmt R ε τ → Except (Fault ε) (Tables R)
  | .insert t new conflict set ownOnly _ _ =>
    if (db t).any conflict then
      match set with
      | none => .ok db
      | some f =>
        if (db t).all fun r => !conflict r || owns τ r then
          .ok (setTable db t (updateRows conflict f (db t)))
        else
          match s, ownOnly with
          | .rowSecurity, _ => .error .rowSecurity
          | .bypass, some e => .error (.raised e)
          | .bypass, none => .ok (setTable db t (updateRows conflict f (db t)))
    else .ok (setTable db t (db t ++ [new]))
  | .update t cond set missing _ =>
    let view := slice τ db
    let hit := fun r => owns τ r && cond view r
    match missing with
    | some e =>
      if (db t).any hit then .ok (setTable db t (updateRows hit (set view) (db t)))
      else .error (.raised e)
    | none => .ok (setTable db t (updateRows hit (set view) (db t)))
  | .delete t cond =>
    .ok (Schema.onDelete t (setTable db t ((db t).filter fun r => !(owns τ r && cond r))))
  | .guard check =>
    match check (slice τ db) with
    | none => .ok db
    | some e => .error (.raised e)
  | .skipIf skip body => if skip (slice τ db) then .ok db else effect s db body

/-- Accept tables that satisfy the constraints. -/
def commit (tables : Tables R) : Except (Fault ε) (Database R) :=
  if h : Schema.valid tables = true then .ok ⟨tables, h⟩ else .error .constraint

def exec (s : Session) (db : Database R) (stmt : Stmt R ε τ) : Except (Fault ε) (Database R) :=
  match effect s db.tables stmt with
  | .ok tables => commit tables
  | .error e => .error e

def run (s : Session) : List (Stmt R ε τ) → Database R → Except (Fault ε) (Database R)
  | [], db => .ok db
  | stmt :: rest, db =>
    match exec s db stmt with
    | .ok db' => run s rest db'
    | .error e => .error e

/-! ## Running transactions -/

variable {db : Database R}

omit [DecidableEq T] in
theorem commit_ok {tables : Tables R} : commit (ε := ε) tables = .ok db ↔ db.tables = tables := by
  unfold commit
  constructor
  · intro h
    split at h
    · cases h; rfl
    · cases h
  · rintro rfl
    rw [dif_pos db.valid]

variable {s : Session} {db' : Database R}

/-- A statement succeeds exactly when the tables it leaves are a database. -/
theorem exec_ok {stmt : Stmt R ε τ} :
    exec s db stmt = .ok db' ↔ effect s db.tables stmt = .ok db'.tables := by
  unfold exec
  cases effect s db.tables stmt with
  | error e => simp
  | ok tables =>
    simp only [commit_ok, Except.ok.injEq]
    exact eq_comm

@[simp] theorem run_nil (s : Session) (db : Database R) :
    run s ([] : List (Stmt R ε τ)) db = .ok db := rfl

theorem run_cons_ok {stmt : Stmt R ε τ} {rest : List (Stmt R ε τ)} :
    run s (stmt :: rest) db = .ok db' ↔
      ∃ mid, exec s db stmt = .ok mid ∧ run s rest mid = .ok db' := by
  conv_lhs => unfold run
  cases exec s db stmt with
  | ok | error => simp

/-- What every statement of a transaction keeps, the transaction keeps. -/
theorem run_invariant {P : Database R → Prop} {stmts : List (Stmt R ε τ)}
    (keeps : ∀ stmt ∈ stmts, ∀ db db', exec s db stmt = .ok db' → P db → P db')
    (ran : run s stmts db = .ok db') (first : P db) : P db' := by
  induction stmts generalizing db with
  | nil =>
    cases ran
    exact first
  | cons stmt rest ih =>
    obtain ⟨mid, head, tail⟩ := run_cons_ok.mp ran
    obtain ⟨here, later⟩ := List.forall_mem_cons.mp keeps
    exact ih later tail (here db mid head first)

@[simp] theorem run_singleton (s : Session) (stmt : Stmt R ε τ) (db : Database R) :
    run s [stmt] db = exec s db stmt := by
  unfold run
  cases exec s db stmt <;> rfl

theorem run_append_ok {left right : List (Stmt R ε τ)} : run s (left ++ right) db = .ok db' ↔
      ∃ mid, run s left db = .ok mid ∧ run s right mid = .ok db' := by
  induction left generalizing db with
  | nil => simp
  | cons stmt rest ih =>
    rw [List.cons_append, run_cons_ok]
    simp only [ih, run_cons_ok]
    constructor
    · rintro ⟨a, first, b, second, third⟩
      exact ⟨b, ⟨a, first, second⟩, third⟩
    · rintro ⟨b, ⟨a, first, second⟩, third⟩
      exact ⟨a, first, b, second, third⟩

end Trustctl.Relational
