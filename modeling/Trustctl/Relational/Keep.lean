import Trustctl.Relational.Replay

/-!
# Statements on the same table

A statement changes the rows of its table in place, or appends one row (`Rewrites`).
From that description alone follows when it keeps another statement on the same table
fixed: `keeps_rowUpdate` and `keeps_upsert` ask how the updated rows and the appended
row look to the earlier statement.  `replays_overwritten` is the case where it does not,
because the later statement overwrites what the earlier one wrote.
-/

namespace Trustctl.Relational

open List

variable {T : Type} [DecidableEq T] {R : T → Type} [Schema R] {ε : Type} {τ : String}

/-- What a statement does to the rows of `t`: it updates those that match in place, or
appends `fresh`. -/
structure Rewrites (next : Stmt R ε τ) (t : T) (hit : R t → Bool) (set : R t → R t)
    (fresh : Option (R t)) : Prop where
  rows : ∀ ⦃s : Session⦄ ⦃db db' : Database R⦄, exec s db next = .ok db' →
    db'.tables t = updateRows hit set (db.tables t) ∨
      ∃ new ∈ fresh, db'.tables t = db.tables t ++ [new]
  tenant : ∀ r, Schema.tenantOf (set r) = Schema.tenantOf r

section Rewriting

variable {t : T} {hit cond conflict : R t → Bool} {set : R t → R t} {new : R t}
  {missing ownOnly : Option ε}

theorem rewrites_rowUpdate {keeps : ∀ r, Schema.tenantOf (set r) = Schema.tenantOf r} :
    Rewrites (rowUpdate (τ := τ) t cond set missing keeps) t
      (fun r => owns τ r && cond r) set none where
  rows s db db' ran := by
    obtain ⟨-, left⟩ := effect_rowUpdate.mp (exec_ok.mp ran)
    exact .inl (by rw [← left, setTable_self])
  tenant := keeps

theorem rewrites_upsert {own : Schema.tenantOf new = τ}
    {keeps : ∀ f ∈ some set, ∀ r, Schema.tenantOf (f r) = Schema.tenantOf r} :
    Rewrites (.insert t new conflict (some set) ownOnly own keeps) t conflict set (some new) where
  rows s db db' ran := by
    rcases effect_upsert.mp (exec_ok.mp ran) with ⟨-, -, left⟩ | ⟨-, left⟩
    · exact .inl (by rw [← left, setTable_self])
    · exact .inr ⟨new, rfl, by rw [← left, setTable_self]⟩
  tenant := keeps set rfl

variable {next : Stmt R ε τ} {fresh : Option (R t)} {s : Session} {db db' : Database R}

variable (rewrites : Rewrites next t hit set fresh)

include rewrites

theorem Rewrites.mem (ran : exec s db next = .ok db') {r : R t} (mem : r ∈ db'.tables t) :
    r ∈ db.tables t ∨ (∃ q ∈ db.tables t, hit q ∧ r = set q) ∨ r ∈ fresh := by
  rcases rewrites.rows ran with updated | ⟨new, isFresh, added⟩
  · rw [updated, mem_updateRows] at mem
    rcases mem with moved | ⟨old, -⟩
    · exact .inr (.inl moved)
    · exact .inl old
  · rw [added, mem_append, mem_singleton] at mem
    rcases mem with old | rfl
    · exact .inl old
    · exact .inr (.inr isFresh)

theorem Rewrites.survives (ran : exec s db next = .ok db') {r : R t} (mem : r ∈ db.tables t) :
    (hit r ∧ set r ∈ db'.tables t) ∨ r ∈ db'.tables t := by
  rcases rewrites.rows ran with updated | ⟨new, -, added⟩
  · rw [updated]
    cases matched : hit r with
    | true => exact .inl ⟨rfl, mem_updateRows.mpr (.inl ⟨r, mem, matched, rfl⟩)⟩
    | false => exact .inr (mem_updateRows.mpr (.inr ⟨mem, matched⟩))
  · exact .inr (by simp [added, mem])

theorem Rewrites.owns (r : R t) : owns τ (set r) = owns τ r := by
  simp [Relational.owns, rewrites.tenant r]

end Rewriting

section Keeping

variable {t : T} {hit cond conflict : R t → Bool} {f g : R t → R t} {new : R t}
  {missing ownOnly : Option ε} {next : Stmt R ε τ} {fresh : Option (R t)}

/-- An update stays fixed when the rows it would select afterwards are ones it leaves
alone, and, if it demands a row, when the updated rows still match. -/
theorem keeps_rowUpdate {keeps : ∀ r, Schema.tenantOf (f r) = Schema.tenantOf r}
    (rewrites : Rewrites next t hit g fresh)
    (added : ∀ r ∈ fresh, cond r → f r = r)
    (updated : ∀ r, hit r → (cond r → f r = r) → cond (g r) → f (g r) = g r)
    (found : missing ≠ none → ∀ r, cond r → hit r → cond (g r)) :
    Keeps (rowUpdate (τ := τ) t cond f missing keeps) next := by
  intro s db db' fixed ran
  rw [fixed_rowUpdate] at fixed ⊢
  obtain ⟨asked, same⟩ := fixed
  constructor
  · intro some
    obtain ⟨r, mem, own, matched⟩ := asked some
    rcases rewrites.survives ran mem with ⟨diff, mem'⟩ | mem'
    · exact ⟨g r, mem', by rw [rewrites.owns, own], found some r matched diff⟩
    · exact ⟨r, mem', own, matched⟩
  · intro r mem own matched
    rcases rewrites.mem ran mem with old | ⟨q, old, diff, rfl⟩ | isFresh
    · exact same r old own matched
    · rw [rewrites.owns] at own
      exact updated q diff (same q old own) matched
    · exact added r isFresh matched

/-- An upsert stays fixed when the conflicts stay where they are and the two updates of
such a row commute. -/
theorem keeps_upsert {own : Schema.tenantOf new = τ}
    {keeps : ∀ h ∈ some f, ∀ r, Schema.tenantOf (h r) = Schema.tenantOf r}
    (rewrites : Rewrites next t hit g fresh)
    (added : ∀ r ∈ fresh, conflict r = false)
    (target : ∀ r, hit r → conflict (g r) = conflict r)
    (commute : ∀ r, hit r → conflict r → f (g r) = g (f r)) :
    Keeps (.insert t new conflict (some f) ownOnly own keeps) next := by
  intro s db db' fixed ran
  rw [fixed_upsert] at fixed ⊢
  obtain ⟨⟨r, mem, conflicts⟩, lets, same⟩ := fixed
  refine ⟨?_, lets.imp_left fun owned q mem' clash' => ?_, fun q mem' clash' => ?_⟩
  · rcases rewrites.survives ran mem with ⟨diff, mem'⟩ | mem'
    · exact ⟨g r, mem', by rw [target r diff, conflicts]⟩
    · exact ⟨r, mem', conflicts⟩
  · rcases rewrites.mem ran mem' with old | ⟨p, old, diff, rfl⟩ | isFresh
    · exact owned q old clash'
    · rw [target p diff] at clash'
      rw [rewrites.owns]
      exact owned p old clash'
    · simp [added q isFresh] at clash'
  · rcases rewrites.mem ran mem' with old | ⟨p, old, diff, rfl⟩ | isFresh
    · exact same q old clash'
    · rw [target p diff] at clash'
      rw [commute p diff clash', same p old clash']
    · simp [added q isFresh] at clash'

end Keeping

/-- A guard changes nothing, so it keeps every statement fixed. -/
theorem keeps_guard {stmt : Stmt R ε τ} {check : Tables R → Option ε} :
    Keeps stmt (.guard check) := by
  intro s db db' fixed ran
  obtain ⟨-, rfl⟩ := exec_guard.mp ran
  exact fixed

section Overwriting

variable {t : T} {cond : R t → Bool} {f g : R t → R t} {new : R t} {missing : Option ε} {e : ε}

/-- An update of columns no constraint reads, overwritten by an upsert of the same rows:
the second run undoes and redoes what the first run left. -/
theorem replays_overwritten {keeps : ∀ r, Schema.tenantOf (f r) = Schema.tenantOf r}
    {own : Schema.tenantOf new = τ}
    {keeps' : ∀ h ∈ some g, ∀ r, Schema.tenantOf (h r) = Schema.tenantOf r}
    (unread : ∀ tables : Tables R, Schema.valid (setTable tables t
      (updateRows (fun r => owns τ r && cond r) f (tables t))) = Schema.valid tables)
    (settles : Settles (.insert t new cond (some g) (some e) own keeps'))
    (still : ∀ r, cond (f r) = cond r) (overwrites : ∀ r, cond r → g (f r) = g r) :
    Replays [rowUpdate t cond f missing keeps, .insert t new cond (some g) (some e) own keeps']
      [rowUpdate t cond f missing keeps, .insert t new cond (some g) (some e) own keeps'] := by
  intro s db db' ran
  obtain ⟨mid, -, noted⟩ := run_cons_ok.mp ran
  rw [run_singleton] at noted
  obtain ⟨⟨r, mem, hit⟩, admits, same⟩ := fixed_upsert.mp (settles noted)
  have owned := admits.resolve_right (by simp)
  let updated : Database R := ⟨_, (unread db'.tables).trans db'.valid⟩
  have rows : updated.tables t = (db'.tables t).map fun r => if cond r then f r else r := by
    simp only [updated, setTable_self, updateRows]
    refine map_congr_left fun q mem' => ?_
    by_cases matched : cond q
    · simp [matched, owned q mem' matched]
    · simp [matched]
  refine run_cons_ok.mpr ⟨updated, exec_ok.mpr (effect_rowUpdate.mpr ?_), ?_⟩
  · exact ⟨fun _ => ⟨r, mem, owned r mem hit, hit⟩, rfl⟩
  rw [run_singleton, exec_ok]
  refine effect_upsert.mpr (.inl ⟨?_, .inl ?_, ?_⟩)
  · exact ⟨f r, by rw [rows]; exact mem_map.mpr ⟨r, mem, by simp [hit]⟩, by rw [still, hit]⟩
  · intro q mem' matched
    rw [rows, mem_map] at mem'
    obtain ⟨p, old, rfl⟩ := mem'
    cases matchedOld : cond p with
    | false => simp [matchedOld] at matched
    | true => simpa [owns, keeps p] using owned p old matchedOld
  · have redone : updateRows cond g (updated.tables t) = db'.tables t := by
      rw [rows, updateRows, map_map]
      conv_rhs => rw [← map_id (db'.tables t)]
      refine map_congr_left fun q mem' => ?_
      by_cases matched : cond q
      · simp [matched, still, overwrites q matched, same q mem' matched]
      · simp [matched]
    rw [redone]
    simp [updated, setTable]

end Overwriting

end Trustctl.Relational
