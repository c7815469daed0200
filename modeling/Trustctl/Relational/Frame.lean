import Trustctl.Relational.Replay

/-!
# What a transaction leaves alone

`Stmt.footprint` lists the tables a statement may change; every other table is the
same afterwards (`effect_frame`, `run_frame`).  With it, statements on different
tables do not disturb one another: transactions whose statements settle and keep one
another (`Stable`) compose when they work on different tables (`Stable.append`), and one
settling statement per table is such a transaction (`Stable.of_local`).
-/

namespace Trustctl.Relational

variable {T : Type} [DecidableEq T] {R : T → Type} [Schema R] {ε : Type} {τ : String}
  {s : Session} {db db' : Database R}

/-- The tables a statement may change. -/
def Stmt.footprint : Stmt R ε τ → List T
  | .insert t _ _ _ _ _ _ => [t]
  | .update t _ _ _ _ => [t]
  | .delete t _ => t :: Schema.cascades R t
  | .guard _ => []
  | .skipIf _ body => body.footprint

variable [LawfulSchema R]

variable {t : T} {stmt : Stmt R ε τ}

theorem effect_frame {tables tables' : Tables R} (ran : effect s tables stmt = .ok tables')
    (outside : t ∉ stmt.footprint) :
    tables' t = tables t := by
  induction stmt with
  | insert t' new conflict set ownOnly own keeps =>
    have ne : t ≠ t' := by simpa [Stmt.footprint] using outside
    cases set with
    | none =>
      by_cases here : (tables t').any conflict
      · simp only [effect, here, if_true, Except.ok.injEq] at ran
        rw [ran]
      · simp only [effect, here, Bool.false_eq_true, if_false, Except.ok.injEq] at ran
        rw [← ran, setTable_of_ne _ ne]
    | some f =>
      rcases effect_upsert.mp ran with ⟨-, -, left⟩ | ⟨-, left⟩
      · rw [← left, setTable_of_ne _ ne]
      · rw [← left, setTable_of_ne _ ne]
  | update t' cond set missing keeps =>
    have ne : t ≠ t' := by simpa [Stmt.footprint] using outside
    simp only [effect] at ran
    split at ran
    · split at ran
      · cases ran
        exact setTable_of_ne _ ne
      · cases ran
    · cases ran
      exact setTable_of_ne _ ne
  | delete t' cond =>
    have ne : t ≠ t' := fun same => outside (by simp [Stmt.footprint, same])
    have kept : t ∉ Schema.cascades R t' := fun mem => outside (by simp [Stmt.footprint, mem])
    cases ran
    rw [LawfulSchema.onDelete_of_not_mem _ kept, setTable_of_ne _ ne]
  | guard check =>
    simp only [effect] at ran
    split at ran
    · cases ran
      rfl
    · cases ran
  | skipIf skip body ih =>
    simp only [effect] at ran
    split at ran
    · cases ran
      rfl
    · exact ih ran outside

theorem exec_frame (ran : exec s db stmt = .ok db') (outside : t ∉ stmt.footprint) :
    db'.tables t = db.tables t :=
  effect_frame (exec_ok.mp ran) outside

variable {stmts : List (Stmt R ε τ)}

theorem run_frame (ran : run s stmts db = .ok db') (outside : ∀ stmt ∈ stmts, t ∉ stmt.footprint) :
    db'.tables t = db.tables t :=
  run_invariant (P := fun now => now.tables t = db.tables t)
    (fun stmt mem _ _ moved same => (exec_frame moved (outside stmt mem)).trans same) ran rfl

/-! ## What decides whether a statement is fixed -/

/-- Whether the statement is fixed is decided by the rows of these tables. -/
def Reads (tables : List T) (stmt : Stmt R ε τ) : Prop :=
  ∀ ⦃s : Session⦄ ⦃db db' : Database R⦄, (∀ t ∈ tables, db'.tables t = db.tables t) →
    Fixed s db stmt → Fixed s db' stmt

variable {tables : List T}

theorem keeps_of_reads {next : Stmt R ε τ} (reads : Reads tables stmt)
    (apart : ∀ t ∈ tables, t ∉ next.footprint) : Keeps stmt next := by
  intro s db db' fixed ran
  exact reads (fun t mem => exec_frame ran (apart t mem)) fixed

omit [LawfulSchema R] in
theorem Reads.mono {more : List T} (reads : Reads tables stmt) (sub : tables ⊆ more) :
    Reads more stmt :=
  fun _ _ _ same fixed => reads (fun t mem => same t (sub mem)) fixed

section Reading

variable {t : T} {cond conflict : R t → Bool} {new : R t}

omit [LawfulSchema R] in
theorem reads_rowUpdate {set : R t → R t} {missing : Option ε}
    {keeps : ∀ r, Schema.tenantOf (set r) = Schema.tenantOf r} :
    Reads [t] (rowUpdate (τ := τ) t cond set missing keeps) := by
  intro s db db' same fixed
  rw [fixed_rowUpdate] at fixed ⊢
  rwa [same t (by simp)]

omit [LawfulSchema R] in
theorem reads_insert {set : Option (R t → R t)} {ownOnly : Option ε} {own : Schema.tenantOf new = τ}
    {keeps : ∀ f ∈ set, ∀ r, Schema.tenantOf (f r) = Schema.tenantOf r} :
    Reads [t] (.insert t new conflict set ownOnly own keeps) := by
  intro s db db' same fixed
  cases set with
  | none =>
    rw [fixed_insertIgnore] at fixed ⊢
    rwa [same t (by simp)]
  | some f =>
    rw [fixed_upsert] at fixed ⊢
    rwa [same t (by simp)]

omit [LawfulSchema R] in
theorem reads_guard {tables : List T} {check : Tables R → Option ε}
    (query : ∀ view view' : Tables R, (∀ t ∈ tables, view' t = view t) →
      check view' = check view) : Reads tables (.guard (τ := τ) check) := by
  intro s db db' same fixed
  unfold Fixed at fixed ⊢
  rw [exec_guard] at fixed ⊢
  refine ⟨?_, rfl⟩
  rw [← fixed.1]
  exact query _ _ fun t mem => by simp only [slice, same t mem]

end Reading

/-! ## Transactions that replay -/

/-- A transaction on these tables whose statements settle and keep one another. -/
structure Stable (tables : List T) (stmts : List (Stmt R ε τ)) : Prop where
  settles : ∀ stmt ∈ stmts, Settles stmt
  keeps : stmts.Pairwise Keeps
  reads : ∀ stmt ∈ stmts, Reads tables stmt
  footprint : ∀ stmt ∈ stmts, stmt.footprint ⊆ tables

namespace Stable

variable {tables more : List T} {stmts rest : List (Stmt R ε τ)} {stmt : Stmt R ε τ}

omit [LawfulSchema R] in
theorem replays (stable : Stable tables stmts) : Replays stmts stmts :=
  fun _ _ _ ran => run_of_fixed (run_settled stable.settles stable.keeps ran)

omit [LawfulSchema R] in
theorem nil : Stable tables ([] : List (Stmt R ε τ)) := ⟨by simp, .nil, by simp, by simp⟩

omit [LawfulSchema R] in
theorem single (settles : Settles stmt) (reads : Reads tables stmt)
    (footprint : stmt.footprint ⊆ tables) : Stable tables [stmt] :=
  ⟨by simpa using settles, List.pairwise_singleton .., by simpa using reads,
    by simpa using footprint⟩

omit [LawfulSchema R] in
theorem mono (stable : Stable tables stmts) (sub : tables ⊆ more) : Stable more stmts where
  settles := stable.settles
  keeps := stable.keeps
  reads stmt mem := (stable.reads stmt mem).mono sub
  footprint stmt mem := List.Subset.trans (stable.footprint stmt mem) sub

omit [LawfulSchema R] in
theorem join (first : Stable tables stmts) (second : Stable tables rest)
    (keeps : ∀ stmt ∈ stmts, ∀ next ∈ rest, Keeps stmt next) : Stable tables (stmts ++ rest) where
  settles := List.forall_mem_append.mpr ⟨first.settles, second.settles⟩
  keeps := List.pairwise_append.mpr ⟨first.keeps, second.keeps, keeps⟩
  reads := List.forall_mem_append.mpr ⟨first.reads, second.reads⟩
  footprint := List.forall_mem_append.mpr ⟨first.footprint, second.footprint⟩

omit [LawfulSchema R] in
/-- Another statement in front, on the tables of the rest. -/
theorem cons (settles : Settles stmt) (keeps : ∀ next ∈ rest, Keeps stmt next)
    (reads : Reads tables stmt) (footprint : stmt.footprint ⊆ tables)
    (stable : Stable tables rest) : Stable tables (stmt :: rest) :=
  (single settles reads footprint).join stable (by simpa using keeps)

/-- Transactions on different tables do not disturb one another. -/
theorem append (first : Stable tables stmts) (second : Stable more rest)
    (apart : ∀ t ∈ tables, t ∉ more) : Stable (tables ++ more) (stmts ++ rest) := by
  refine (first.mono (List.subset_append_left ..)).join
    (second.mono (List.subset_append_right ..)) fun stmt mem next later => ?_
  exact keeps_of_reads (first.reads stmt mem) fun t here there =>
    apart t here (second.footprint next later there)

end Stable

section OneTable

variable {t : T} {cond conflict : R t → Bool} {set : R t → R t} {new : R t}
  {missing ownOnly : Option ε}

omit [LawfulSchema R] in
theorem stable_rowUpdate {keeps : ∀ r, Schema.tenantOf (set r) = Schema.tenantOf r}
    (again : ∀ r, cond r → cond (set r) → set (set r) = set r)
    (hit : missing ≠ none → ∀ r, cond r → cond (set r)) :
    Stable [t] [rowUpdate (τ := τ) t cond set missing keeps] :=
  .single (settles_rowUpdate again hit) reads_rowUpdate (.refl _)

omit [LawfulSchema R] in
/-- The row is found by its own conflict, and an update that does not read the old row writes the
same row again. -/
theorem stable_upsert {own : Schema.tenantOf new = τ}
    {keeps : ∀ f ∈ some set, ∀ r, Schema.tenantOf (f r) = Schema.tenantOf r}
    (self : conflict new) (fresh : set new = new)
    (hit : ∀ r, conflict r → conflict (set r))
    (again : ∀ r, conflict r → set (set r) = set r) :
    Stable [t] [.insert t new conflict (some set) ownOnly own keeps] :=
  .single (settles_upsert self fresh hit again) reads_insert (.refl _)

omit [LawfulSchema R] in
theorem stable_insertIgnore {own : Schema.tenantOf new = τ}
    {keeps : ∀ f ∈ (none : Option (R t → R t)), ∀ r, Schema.tenantOf (f r) = Schema.tenantOf r}
    (self : conflict new) :
    Stable [t] [.insert t new conflict none ownOnly own keeps] :=
  .single (settles_insert self) reads_insert (.refl _)

theorem replays_delete (kept : t ∉ Schema.cascades R t) :
    Replays [(.delete t cond : Stmt R ε τ)] [.delete t cond] :=
  replays_singleton (settles_delete kept)

end OneTable

/-- A settling statement that works on one table. -/
structure Local (t : T) (stmt : Stmt R ε τ) : Prop where
  settles : Settles stmt
  reads : Reads [t] stmt
  footprint : stmt.footprint = [t]

omit [LawfulSchema R] in
theorem local_rowUpdate {cond : R t → Bool} {set : R t → R t}
    {keeps : ∀ r, Schema.tenantOf (set r) = Schema.tenantOf r}
    (again : ∀ r, cond r → cond (set r) → set (set r) = set r) :
    Local (ε := ε) t (rowUpdate (τ := τ) t cond set none keeps) :=
  ⟨settles_rowUpdate again (by simp), reads_rowUpdate, rfl⟩

/-- One settling statement per table is a transaction that replays. -/
theorem Stable.of_local (ne : tables.Nodup) (locals : List.Forall₂ Local tables stmts) :
    Stable tables stmts := by
  induction locals with
  | nil => exact .nil
  | @cons t stmt tables stmts here there ih =>
    rw [List.nodup_cons] at ne
    refine .append (.single here.settles here.reads (by simp [here.footprint])) (ih ne.2) ?_
    simpa using ne.1

end Trustctl.Relational
