import Trustctl.Relational.Basic

/-!
# Replaying a transaction

When does running a transaction a second time, on the state the first run left,
succeed and change nothing?  A statement is *fixed* in a database when running it
there succeeds and changes nothing (`Fixed`).  A transaction whose statements are
all fixed runs to the same database (`run_of_fixed`), so it is enough to show that
each statement is fixed where it ran (`Settles`) and that the statements after it
keep it fixed (`Keeps`): `run_settled`.

* `settles_upsert`, `settles_insert`, `settles_update`, `settles_delete`: when a single
  statement is fixed right after it ran;
* `fixed_update`, `fixed_upsert`: what being fixed means row by row.
-/

namespace Trustctl.Relational

open List

variable {T : Type} [DecidableEq T] {R : T → Type} [Schema R] {ε : Type} {τ : String}
  {s : Session} {db db' : Database R}

/-- Running the statement succeeds and changes nothing. -/
def Fixed (s : Session) (db : Database R) (stmt : Stmt R ε τ) : Prop :=
  exec s db stmt = .ok db

/-- Wherever the statement succeeds, it is fixed afterwards. -/
def Settles (stmt : Stmt R ε τ) : Prop :=
  ∀ ⦃s : Session⦄ ⦃db db' : Database R⦄, exec s db stmt = .ok db' → Fixed s db' stmt

def Keeps (stmt next : Stmt R ε τ) : Prop :=
  ∀ ⦃s : Session⦄ ⦃db db' : Database R⦄, Fixed s db stmt → exec s db next = .ok db' →
    Fixed s db' stmt

variable {stmt : Stmt R ε τ}

theorem fixed_iff : Fixed s db stmt ↔ effect s db.tables stmt = .ok db.tables :=
  exec_ok

/-! ## Transactions -/

variable {stmts : List (Stmt R ε τ)}

theorem run_of_fixed (fixed : ∀ stmt ∈ stmts, Fixed s db stmt) : run s stmts db = .ok db := by
  induction stmts with
  | nil => rfl
  | cons stmt rest ih =>
    rw [run_cons_ok]
    exact ⟨db, fixed stmt (by simp), ih fun next mem => fixed next (by simp [mem])⟩

/-- A transaction keeps a statement fixed that each of its statements keeps fixed. -/
theorem Fixed.run (fixed : Fixed s db stmt) (keeps : ∀ next ∈ stmts, Keeps stmt next)
    (ran : run s stmts db = .ok db') : Fixed s db' stmt :=
  run_invariant (P := fun db => Fixed s db stmt)
    (fun next mem _ _ moved fixed => keeps next mem fixed moved) ran fixed

/-- Statements that settle and that their successors keep are all fixed at the end. -/
theorem run_settled (settles : ∀ stmt ∈ stmts, Settles stmt) (keeps : stmts.Pairwise Keeps)
    (ran : run s stmts db = .ok db') :
    ∀ stmt ∈ stmts, Fixed s db' stmt := by
  induction stmts generalizing db with
  | nil => simp
  | cons first rest ih =>
    obtain ⟨mid, head, tail⟩ := run_cons_ok.mp ran
    rw [pairwise_cons] at keeps
    intro stmt mem
    rcases mem_cons.mp mem with rfl | later
    · exact (settles stmt (by simp) head).run keeps.1 tail
    · exact ih (fun q h => settles q (by simp [h])) keeps.2 tail stmt later

/-- Wherever `first` has run, running `second` succeeds and changes nothing. -/
def Replays (first second : List (Stmt R ε τ)) : Prop :=
  ∀ ⦃s : Session⦄ ⦃db db' : Database R⦄, run s first db = .ok db' → run s second db' = .ok db'

theorem replays_nil : Replays ([] : List (Stmt R ε τ)) [] := fun _ _ _ _ => rfl

theorem replays_singleton (settles : Settles stmt) : Replays [stmt] [stmt] := by
  intro s db db' ran
  rw [run_singleton] at ran ⊢
  exact settles ran

/-! ## Rows -/

variable {α : Type} {cond : α → Bool} {set : α → α} {rows : List α}

theorem conflict_cases (rows : List α) (conflict : α → Bool) :
    (rows.any conflict ∧ (∃ r ∈ rows, conflict r) ∧ ¬ ∀ r ∈ rows, conflict r = false) ∨
      (rows.any conflict = false ∧ (¬ ∃ r ∈ rows, conflict r) ∧
        ∀ r ∈ rows, conflict r = false) := by
  cases present : rows.any conflict <;> simpa using present

/-- What an update leaves alone is the same in the updated rows. -/
theorem apply_updated {β : Type} {key : α → β} (same : ∀ r, key (set r) = key r) (r : α) :
    key (if cond r = true then set r else r) = key r := by
  split
  · exact same r
  · rfl

theorem updateRows_eq_self
    (same : ∀ r ∈ rows, cond r → set r = r) : updateRows cond set rows = rows := by
  conv_rhs => rw [← map_id rows]
  refine map_congr_left fun r mem => ?_
  by_cases hit : cond r
  · simp [hit, same r mem hit]
  · simp [hit]

theorem mem_updateRows {r : α} : r ∈ updateRows cond set rows ↔
      (∃ q ∈ rows, cond q ∧ r = set q) ∨ (r ∈ rows ∧ cond r = false) := by
  unfold updateRows
  rw [mem_map]
  constructor
  · rintro ⟨q, mem, rfl⟩
    by_cases hit : cond q
    · exact .inl ⟨q, mem, hit, by simp [hit]⟩
    · exact .inr ⟨by simpa [hit] using mem, by simp [hit]⟩
  · rintro (⟨q, mem, hit, rfl⟩ | ⟨mem, miss⟩)
    · exact ⟨q, mem, by simp [hit]⟩
    · exact ⟨r, mem, by simp [miss]⟩

/-- A search that skips the updated rows, before and after. -/
theorem find?_updateRows {cond p : α → Bool}
    (apart : ∀ r, cond r → p r = false ∧ p (set r) = false) :
    (updateRows cond set rows).find? p = rows.find? p := by
  induction rows with
  | nil => rfl
  | cons r rest ih =>
    unfold updateRows at ih ⊢
    rw [map_cons]
    by_cases hit : cond r
    · obtain ⟨old, after⟩ := apart r hit
      rw [if_pos hit, find?_cons_of_neg (by simp [after]), ih, find?_cons_of_neg (by simp [old])]
    · rw [if_neg hit, find?_cons, find?_cons, ih]

/-- An update that leaves the list as it is leaves every matching row as it is. -/
theorem eq_of_updateRows_eq_self
    (same : updateRows cond set rows = rows) {r : α} (mem : r ∈ rows) (hit : cond r) :
    set r = r := by
  have pointwise := map_inj_left.mp (same.trans (map_id rows).symm)
  simpa [hit] using pointwise r mem

variable {t : T}

omit [Schema R] in
theorem setTable_eq_iff {tables : Tables R} {rows : List (R t)} :
    setTable tables t rows = tables ↔ rows = tables t := by
  constructor
  · intro same
    simpa using congrFun same t
  · rintro rfl
    exact setTable_eq_self tables t

/-! ## Updates -/

section Queries

variable {t : T} {cond : Tables R → R t → Bool} {set : Tables R → R t → R t} {missing : Option ε}
  {keeps : ∀ view r, Schema.tenantOf (set view r) = Schema.tenantOf r} {tables tables' : Tables R}

theorem effect_update : effect s tables (.update (τ := τ) t cond set missing keeps) = .ok tables' ↔
      (missing ≠ none → ∃ r ∈ tables t, owns τ r ∧ cond (slice τ tables) r) ∧
      setTable tables t (updateRows (fun r => owns τ r && cond (slice τ tables) r)
        (set (slice τ tables)) (tables t)) = tables' := by
  cases missing with
  | none => simp [effect]
  | some e =>
    by_cases hit : ∃ r ∈ tables t, owns τ r ∧ cond (slice τ tables) r
    · simp [effect, hit]
    · simp [effect, hit]

/-- A fixed update: every row it selects already has the new values. -/
theorem fixed_update : Fixed s db (.update (τ := τ) t cond set missing keeps) ↔
      (missing ≠ none → ∃ r ∈ db.tables t, owns τ r ∧ cond (slice τ db.tables) r) ∧
      ∀ r ∈ db.tables t, owns τ r → cond (slice τ db.tables) r → set (slice τ db.tables) r = r := by
  rw [fixed_iff, effect_update, setTable_eq_iff]
  refine and_congr_right fun _ => ⟨fun same r mem own hit => ?_, fun same => ?_⟩
  · exact eq_of_updateRows_eq_self same mem (by simp [own, hit])
  · refine updateRows_eq_self fun r mem hit => ?_
    rw [Bool.and_eq_true] at hit
    exact same r mem hit.1 hit.2

end Queries

section Updates

variable {t : T} {cond : R t → Bool} {set : R t → R t} {missing : Option ε}
  {keeps : ∀ r, Schema.tenantOf (set r) = Schema.tenantOf r}

variable {tables tables' : Tables R}

theorem effect_rowUpdate :
    effect s tables (rowUpdate (τ := τ) t cond set missing keeps) = .ok tables' ↔
      (missing ≠ none → ∃ r ∈ tables t, owns τ r ∧ cond r) ∧
      setTable tables t (updateRows (fun r => owns τ r && cond r) set (tables t)) = tables' :=
  effect_update

theorem fixed_rowUpdate : Fixed s db (rowUpdate (τ := τ) t cond set missing keeps) ↔
      (missing ≠ none → ∃ r ∈ db.tables t, owns τ r ∧ cond r) ∧
      ∀ r ∈ db.tables t, owns τ r → cond r → set r = r :=
  fixed_update

omit [DecidableEq T] in
theorem owns_eq_of_keeps (keeps : ∀ r, Schema.tenantOf (set r) = Schema.tenantOf r) (r : R t) :
    owns τ (set r) = owns τ r := by
  simp [owns, keeps r]

/-- An update settles when a second update of a row changes nothing, and, if it demands a
row, when the row it updated still matches. -/
theorem settles_rowUpdate (again : ∀ r, cond r → cond (set r) → set (set r) = set r)
    (found : missing ≠ none → ∀ r, cond r → cond (set r)) :
    Settles (rowUpdate (τ := τ) t cond set missing keeps) := by
  intro s db db' ran
  obtain ⟨asked, left⟩ := effect_rowUpdate.mp (exec_ok.mp ran)
  have rows : db'.tables t = updateRows (fun r => owns τ r && cond r) set (db.tables t) := by
    rw [← left, setTable_self]
  rw [fixed_rowUpdate, rows]
  constructor
  · intro some
    obtain ⟨r, mem, own, hit⟩ := asked some
    refine ⟨set r, mem_updateRows.mpr (.inl ⟨r, mem, by simp [own, hit], rfl⟩), ?_,
      found some r hit⟩
    rw [owns_eq_of_keeps keeps, own]
  · intro r mem own hit
    rcases mem_updateRows.mp mem with ⟨q, -, matched, rfl⟩ | ⟨-, missed⟩
    · rw [Bool.and_eq_true] at matched
      exact again q matched.2 hit
    · simp [own, hit] at missed

/-- Right after an update whose rows still match, it is fixed exactly when updating any
of those rows twice is updating it once. -/
theorem fixed_rowUpdate_after (matching : ∀ r, cond r → cond (set r))
    (ran : exec s db (rowUpdate (τ := τ) t cond set missing keeps) = .ok db') :
    Fixed s db' (rowUpdate (τ := τ) t cond set missing keeps) ↔
      ∀ r ∈ db.tables t, owns τ r → cond r → set (set r) = set r := by
  obtain ⟨asked, left⟩ := effect_rowUpdate.mp (exec_ok.mp ran)
  have rows : db'.tables t = updateRows (fun r => owns τ r && cond r) set (db.tables t) := by
    rw [← left, setTable_self]
  have updated : ∀ r ∈ db.tables t, owns τ r → cond r → set r ∈ db'.tables t ∧ owns τ (set r) := by
    intro r mem own hit
    rw [rows]
    exact ⟨mem_updateRows.mpr (.inl ⟨r, mem, by simp [own, hit], rfl⟩),
      by rw [owns_eq_of_keeps keeps, own]⟩
  rw [fixed_rowUpdate]
  constructor
  · rintro ⟨-, same⟩ r mem own hit
    obtain ⟨mem', own'⟩ := updated r mem own hit
    exact same (set r) mem' own' (matching r hit)
  · intro twice
    constructor
    · intro some
      obtain ⟨r, mem, own, hit⟩ := asked some
      obtain ⟨mem', own'⟩ := updated r mem own hit
      exact ⟨set r, mem', own', matching r hit⟩
    · intro r mem own hit
      rw [rows] at mem
      rcases mem_updateRows.mp mem with ⟨q, old, matched, rfl⟩ | ⟨-, missed⟩
      · rw [Bool.and_eq_true] at matched
        exact twice q old matched.1 matched.2
      · simp [own, hit] at missed

variable (left : setTable tables t (updateRows cond set (tables t)) = tables')

include left

/-- The tenant's rows after an update: the updated rows where the old ones were. -/
theorem slice_updated (keeps : ∀ r, Schema.tenantOf (set r) = Schema.tenantOf r) :
    slice τ tables' t = (slice τ tables t).map fun r => if cond r then set r else r := by
  simp only [← left, slice, setTable_self, updateRows, filter_map, Function.comp_def,
    apply_updated (owns_eq_of_keeps keeps)]

/-- A query by columns an update leaves alone finds the updated row. -/
theorem find_slice_updated {key : R t → Bool} {r : R t}
    (keeps : ∀ r, Schema.tenantOf (set r) = Schema.tenantOf r) (sameKey : ∀ r, key (set r) = key r)
    (found : (slice τ tables t).find? key = some r) (hit : cond r) :
    (slice τ tables' t).find? key = some (set r) := by
  simp only [slice_updated left keeps, find?_map, Function.comp_def, apply_updated sameKey,
    found, Option.map_some, hit, if_true]

/-- A query by columns an update leaves alone has the same answer. -/
theorem any_slice_updated {key : R t → Bool}
    (keeps : ∀ r, Schema.tenantOf (set r) = Schema.tenantOf r)
    (sameKey : ∀ r, key (set r) = key r) :
    (slice τ tables' t).any key = (slice τ tables t).any key := by
  simp only [slice_updated left keeps, any_map, Function.comp_def, apply_updated sameKey]

end Updates

/-- An update whose clauses query other tables settles like one that queries none. -/
theorem settles_update {cond : Tables R → R t → Bool} {set : Tables R → R t → R t}
    {keeps : ∀ view r, Schema.tenantOf (set view r) = Schema.tenantOf r}
    (unread : ∀ view view' : Tables R, (∀ t', t' ≠ t → view' t' = view t') →
      cond view' = cond view ∧ set view' = set view)
    (again : ∀ view r, cond view r → cond view (set view r) → set view (set view r) = set view r) :
    Settles (ε := ε) (.update (τ := τ) t cond set none keeps) := by
  intro s db db' ran
  obtain ⟨-, left⟩ := effect_update.mp (exec_ok.mp ran)
  obtain ⟨sameCond, sameSet⟩ := unread (slice τ db.tables) (slice τ db'.tables) fun t' ne => by
    simp only [slice, ← left, setTable_of_ne _ ne]
  rw [fixed_update, sameCond, sameSet]
  refine ⟨fun asked => absurd rfl asked, fun r mem own hit => ?_⟩
  rw [← left, setTable_self] at mem
  rcases mem_updateRows.mp mem with ⟨q, -, matched, rfl⟩ | ⟨-, missed⟩
  · rw [Bool.and_eq_true] at matched
    exact again _ q matched.2 hit
  · simp [own, hit] at missed

/-! ## Inserts -/

section Inserts

variable {t : T} {new : R t} {conflict : R t → Bool} {ownOnly : Option ε}
  {own : Schema.tenantOf new = τ}

section Ignore

variable {keeps : ∀ f ∈ (none : Option (R t → R t)), ∀ r, Schema.tenantOf (f r) = Schema.tenantOf r}

/-- What an insert that does nothing on conflict leaves behind. -/
theorem effect_insertIgnore {tables tables' : Tables R} :
    effect s tables (.insert t new conflict none ownOnly own keeps) = .ok tables' ↔
      ((∃ r ∈ tables t, conflict r) ∧ tables = tables') ∨
      ((∀ r ∈ tables t, conflict r = false) ∧ setTable tables t (tables t ++ [new]) = tables') := by
  rcases conflict_cases (tables t) conflict with
    ⟨here, some, notAbsent⟩ | ⟨here, none, gone⟩
  · simp only [effect, here, some, notAbsent, false_and, or_false, true_and, if_true,
      Except.ok.injEq]
  · simp only [effect, here, none, false_and, false_or, Except.ok.injEq, Bool.false_eq_true,
      if_false]
    exact ⟨fun left => ⟨gone, left⟩, fun h => h.2⟩

theorem fixed_insertIgnore : Fixed s db (.insert t new conflict none ownOnly own keeps) ↔
      ∃ r ∈ db.tables t, conflict r := by
  rw [fixed_iff, effect_insertIgnore]
  constructor
  · rintro (⟨here, -⟩ | ⟨-, left⟩)
    · exact here
    · have more := setTable_eq_iff.mp left
      simp at more
  · exact fun here => .inl ⟨here, rfl⟩

/-- An insert that does nothing on conflict settles when its own row is a conflict. -/
theorem settles_insert (self : conflict new) :
    Settles (.insert t new conflict none ownOnly own keeps) := by
  intro s db db' ran
  rw [fixed_insertIgnore]
  rcases effect_insertIgnore.mp (exec_ok.mp ran) with ⟨here, same⟩ | ⟨-, left⟩
  · rwa [← same]
  · exact ⟨new, by simp [← left], self⟩

end Ignore

variable {set : R t → R t} {keeps : ∀ f ∈ some set, ∀ r, Schema.tenantOf (f r) = Schema.tenantOf r}

/-- The session may update the rows the new one conflicts with. -/
def Admits (s : Session) (τ : String) (ownOnly : Option ε) (conflict : R t → Bool)
    (rows : List (R t)) : Prop :=
  (∀ r ∈ rows, conflict r → owns τ r) ∨ (s = .bypass ∧ ownOnly = none)

theorem effect_upsert {tables tables' : Tables R} :
    effect s tables (.insert t new conflict (some set) ownOnly own keeps) = .ok tables' ↔
      ((∃ r ∈ tables t, conflict r) ∧ Admits s τ ownOnly conflict (tables t) ∧
        setTable tables t (updateRows conflict set (tables t)) = tables') ∨
      ((∀ r ∈ tables t, conflict r = false) ∧ setTable tables t (tables t ++ [new]) = tables') := by
  rcases conflict_cases (tables t) conflict with
    ⟨here, some, notAbsent⟩ | ⟨here, none, gone⟩
  · simp only [effect, here, some, notAbsent, false_and, or_false, true_and, if_true]
    cases owned : (tables t).all fun r => !conflict r || owns τ r with
    | true =>
      have allOwned : ∀ r ∈ tables t, conflict r → owns τ r := by
        intro r mem hit
        simpa [hit] using all_eq_true.mp owned r mem
      simp only [if_true, Except.ok.injEq]
      exact ⟨fun left => ⟨.inl allOwned, left⟩, fun h => h.2⟩
    | false =>
      have notOwned : ¬ ∀ r ∈ tables t, conflict r → owns τ r := by
        obtain ⟨r, mem, hit⟩ := all_eq_false.mp owned
        intro allOwned
        cases found : conflict r with
        | false => simp [found] at hit
        | true => simp [found, allOwned r mem found] at hit
      cases s with
      | rowSecurity => simp [Admits, notOwned]
      | bypass =>
        cases ownOnly with
        | none => simp [Admits]
        | some e => simp [Admits, notOwned]
  · simp only [effect, here, none, false_and, false_or, Except.ok.injEq, Bool.false_eq_true,
      if_false]
    exact ⟨fun left => ⟨gone, left⟩, fun h => h.2⟩

/-- A fixed upsert: a conflicting row exists and every one already has the new values. -/
theorem fixed_upsert : Fixed s db (.insert t new conflict (some set) ownOnly own keeps) ↔
      (∃ r ∈ db.tables t, conflict r) ∧ Admits s τ ownOnly conflict (db.tables t) ∧
        ∀ r ∈ db.tables t, conflict r → set r = r := by
  rw [fixed_iff, effect_upsert]
  constructor
  · rintro (⟨here, lets, left⟩ | ⟨-, left⟩)
    · refine ⟨here, lets, fun r mem hit => ?_⟩
      exact eq_of_updateRows_eq_self (setTable_eq_iff.mp left) mem hit
    · have more := setTable_eq_iff.mp left
      simp at more
  · rintro ⟨here, lets, same⟩
    exact .inl ⟨here, lets, by rw [updateRows_eq_self same, setTable_eq_self]⟩

/-- An upsert settles when the new row is a conflict that the update leaves alone, and
updating a conflicting row twice is updating it once. -/
theorem settles_upsert (self : conflict new) (fresh : set new = new)
    (hit : ∀ r, conflict r → conflict (set r))
    (again : ∀ r, conflict r → set (set r) = set r) :
    Settles (.insert t new conflict (some set) ownOnly own keeps) := by
  intro s db db' ran
  have sameTenant : ∀ r, Schema.tenantOf (set r) = Schema.tenantOf r := keeps set rfl
  rcases effect_upsert.mp (exec_ok.mp ran) with ⟨⟨q, mem, found⟩, lets, left⟩ | ⟨gone, left⟩
  · have rows : db'.tables t = updateRows conflict set (db.tables t) := by
      rw [← left, setTable_self]
    refine fixed_upsert.mpr ⟨?_, ?_, ?_⟩
    · exact ⟨set q, by rw [rows]; exact mem_updateRows.mpr (.inl ⟨q, mem, found, rfl⟩), hit q found⟩
    · refine lets.imp_left fun owned r mem' hit' => ?_
      rw [rows] at mem'
      rcases mem_updateRows.mp mem' with ⟨p, memp, hitp, rfl⟩ | ⟨-, miss⟩
      · have := owned p memp hitp
        simpa [owns, sameTenant p] using this
      · simp [miss] at hit'
    · intro r mem' hit'
      rw [rows] at mem'
      rcases mem_updateRows.mp mem' with ⟨p, -, hitp, rfl⟩ | ⟨-, miss⟩
      · exact again p hitp
      · simp [miss] at hit'
  · have rows : db'.tables t = db.tables t ++ [new] := by rw [← left, setTable_self]
    have onlyNew : ∀ r ∈ db'.tables t, conflict r → r = new := by
      intro r mem' hit'
      rw [rows, mem_append] at mem'
      rcases mem' with old | last
      · simp [gone r old] at hit'
      · simpa using last
    refine fixed_upsert.mpr ⟨⟨new, by simp [rows], self⟩, .inl ?_, ?_⟩
    · intro r mem' hit'
      rw [onlyNew r mem' hit']
      simp [owns, own]
    · intro r mem' hit'
      rw [onlyNew r mem' hit', fresh]

/-- The row an upsert would have inserted does not matter once the upsert has run. -/
theorem replays_restamped {new' : R t} {own' : Schema.tenantOf new' = τ}
    {keeps' : ∀ f ∈ some set, ∀ r, Schema.tenantOf (f r) = Schema.tenantOf r}
    (settles : Settles (.insert t new conflict (some set) ownOnly own keeps)) :
    Replays [.insert t new conflict (some set) ownOnly own keeps]
      [.insert t new' conflict (some set) ownOnly own' keeps'] := by
  intro s db db' ran
  rw [run_singleton] at ran ⊢
  exact fixed_upsert.mpr (fixed_upsert.mp (settles ran))

end Inserts

/-! ## Deletes, guards and skipped statements -/

theorem settles_delete [LawfulSchema R] {cond : R t → Bool} (kept : t ∉ Schema.cascades R t) :
    Settles (ε := ε) (.delete (τ := τ) t cond) := by
  intro s db db' ran
  have left := Except.ok.inj (exec_ok.mp ran)
  have rows : db'.tables t = (db.tables t).filter fun r => !(owns τ r && cond r) := by
    rw [← left, LawfulSchema.onDelete_of_not_mem _ kept, setTable_self]
  have same : (db'.tables t).filter (fun r => !(owns τ r && cond r)) = db'.tables t := by
    rw [rows, filter_filter]
    simp
  rw [fixed_iff]
  simp only [effect, same, setTable_eq_self, LawfulSchema.onDelete_of_valid t _ db'.valid]

/-- A delete that selects none of the tenant's rows changes nothing. -/
theorem fixed_delete [LawfulSchema R] {cond : R t → Bool} (gone : slice τ db.tables t = []) :
    Fixed (ε := ε) s db (.delete (τ := τ) t cond) := by
  have same : (db.tables t).filter (fun r => !(owns τ r && cond r)) = db.tables t := by
    refine filter_eq_self.mpr fun r mem => ?_
    have foreign := filter_eq_nil_iff.mp gone r mem
    simp [foreign]
  rw [fixed_iff]
  simp only [effect, same, setTable_eq_self, LawfulSchema.onDelete_of_valid t _ db.valid]

theorem exec_guard {check : Tables R → Option ε} :
    exec s db (.guard (τ := τ) check) = .ok db' ↔ check (slice τ db.tables) = none ∧ db' = db := by
  rw [exec_ok]
  cases found : check (slice τ db.tables) with
  | none => simp [effect, found, Database.ext_iff, eq_comm]
  | some e => simp [effect, found]

theorem settles_guard {check : Tables R → Option ε} : Settles (.guard (τ := τ) check) := by
  intro s db db' ran
  obtain ⟨-, rfl⟩ := exec_guard.mp ran
  exact ran

theorem exec_skipIf {skip : Tables R → Bool} {body : Stmt R ε τ} : exec s db (.skipIf skip body) =
      if skip (slice τ db.tables) then .ok db else exec s db body := by
  cases skipped : skip (slice τ db.tables) with
  | true =>
    rw [if_pos rfl, exec_ok]
    simp [effect, skipped]
  | false => simp [exec, effect, skipped]

end Trustctl.Relational
