import Trustctl.Projections.Projector

/-!
# Profile versions

A certificate profile is a series of versions under one name, of which at most one is active.
`NextProfileVersion` numbers the next one and `ApplyProfileVersionTx` makes it the active one.

* `apply_nextVersion`: the projection of the next version activates it and leaves what is active
  under every other name.
-/

namespace Trustctl.Projections

open Store Relational List Systems

def ofProfile (τ : Uuid) (name : String) (r : ProfileRecord) : Bool :=
  r.tenantId = τ ∧ r.name = name

def getActiveProfile (tables : Tables Row) (τ : Uuid) (name : String) : Option ProfileRecord :=
  (tables .certificateProfiles).find? fun (r : ProfileRecord) => ofProfile τ name r && r.active

def lastVersion : List ProfileRecord → Int
  | [] => 0
  | r :: rest => if lastVersion rest < r.version then r.version else lastVersion rest

def nextProfileVersion (tables : Tables Row) (τ : Uuid) (name : String) : Int :=
  lastVersion ((tables .certificateProfiles).filter (ofProfile τ name)) + 1

variable {db db' : Database Row} {s : Session} {h : Digest} {now : Time} {τ : Uuid} {name : String}

theorem le_lastVersion {r : ProfileRecord} {rows : List ProfileRecord} (mem : r ∈ rows) :
    r.version ≤ lastVersion rows := by
  induction rows with
  | nil => cases mem
  | cons q rest ih =>
    rw [lastVersion]
    rcases mem_cons.mp mem with rfl | later
    · split
      · exact Int.le_refl _
      · omega
    · have bound := ih later
      split <;> omega

theorem ofProfile_iff {r : ProfileRecord} :
    ofProfile τ name r ↔ r.tenantId = τ ∧ r.name = name := by
  rw [ofProfile, decide_eq_true_eq]

theorem run_nextVersion {p : ProfileRecord} (active : p.active)
    (next : p.version = nextProfileVersion db.tables p.tenantId p.name)
    (ran : run s (applyProfileVersionTx p) db = .ok db') :
    getActiveProfile db'.tables p.tenantId p.name = some p ∧
      ∀ τ name, ¬ (p.tenantId = τ ∧ p.name = name) →
        getActiveProfile db'.tables τ name = getActiveProfile db.tables τ name := by
  unfold applyProfileVersionTx at ran
  rw [if_pos active] at ran
  obtain ⟨mid, first, last⟩ := run_cons_ok.mp ran
  obtain ⟨-, left⟩ := effect_rowUpdate.mp (exec_ok.mp first)
  have deactivated := congrFun left .certificateProfiles
  rw [setTable_self] at deactivated
  -- no stored version has the number of the new one
  have older : ∀ r : ProfileRecord, r ∈ db.tables .certificateProfiles →
      ofProfile p.tenantId p.name r → r.version < p.version := by
    intro r stored prof
    rw [next]
    exact Int.lt_add_one_of_le (le_lastVersion (mem_filter.mpr ⟨stored, prof⟩))
  have kept : ∀ q : ProfileRecord, q ∈ mid.tables .certificateProfiles →
      ofProfile p.tenantId p.name q → q.version < p.version ∧ q.active = false := by
    intro q stored prof
    rw [← deactivated] at stored
    rcases mem_updateRows.mp stored with ⟨r, old, hit, rfl⟩ | ⟨old, missed⟩
    · exact ⟨older r old prof, rfl⟩
    · obtain ⟨tenant, named⟩ := ofProfile_iff.mp prof
      have own : owns (R := Row) (t := .certificateProfiles) p.tenantId q := decide_eq_true tenant
      have lt := older q old prof
      refine ⟨lt, ?_⟩
      rw [own, Bool.true_and, decide_eq_false_iff_not] at missed
      by_contra live
      exact missed ⟨named, (Bool.not_eq_false _).mp live, Int.ne_of_lt lt⟩
  have added : db'.tables .certificateProfiles = mid.tables .certificateProfiles ++ [p] := by
    rcases effect_upsert.mp (exec_ok.mp ((run_singleton ..).symm.trans last)) with
      ⟨⟨q, stored, same⟩, -⟩ | ⟨-, left'⟩
    · obtain ⟨tenant, named, ver⟩ := of_decide_eq_true same
      have lt := (kept q stored (ofProfile_iff.mpr ⟨tenant, named⟩)).1
      exact absurd ver (Int.ne_of_lt lt)
    · rw [← left', setTable_self]
  unfold getActiveProfile
  refine ⟨?_, fun τ name other => ?_⟩
  · have none_ : (mid.tables .certificateProfiles).find? (fun (r : ProfileRecord) =>
        ofProfile p.tenantId p.name r && r.active) = none := by
      refine find?_eq_none.mpr fun q stored live => ?_
      obtain ⟨prof, active'⟩ := Bool.and_eq_true _ _ ▸ live
      rw [(kept q stored prof).2] at active'
      cases active'
    rw [added, find?_append, none_, Option.none_or, find?_cons_of_pos]
    simp [ofProfile, active]
  · have apart : ofProfile τ name p = false := Bool.eq_false_iff.mpr fun same =>
      other (ofProfile_iff.mp same)
    rw [added, find?_append, find?_cons_of_neg (by simp [apart]), find?_nil,
      Option.or_none, ← deactivated]
    refine find?_updateRows fun r hit => ?_
    obtain ⟨own, same⟩ := Bool.and_eq_true _ _ ▸ hit
    have out : ofProfile τ name r = false := Bool.eq_false_iff.mpr fun prof => by
      obtain ⟨tenant, named⟩ := ofProfile_iff.mp prof
      exact other
        ⟨(of_decide_eq_true own).symm.trans tenant, (of_decide_eq_true same).1.symm.trans named⟩
    exact ⟨by rw [out, Bool.false_and], Bool.and_false _⟩

theorem apply_nextVersion {e : Event} {made : Bool} {pl : ProfileVersioned}
    (body : e.body = .inventory (.profileVersioned made pl)) (full : e.version ≠ 1)
    (active : pl.active)
    (next : pl.version = nextProfileVersion db.tables e.tenantId pl.name)
    (done : apply h now e db = .ok db') :
    (∃ r, getActiveProfile db'.tables e.tenantId pl.name = some r ∧ r.id = pl.id ∧
      r.spec = jsonbOrEmpty pl.spec) ∧
      ∀ τ name, ¬ (e.tenantId = τ ∧ pl.name = name) →
        getActiveProfile db'.tables τ name = getActiveProfile db.tables τ name := by
  simp only [apply, body] at done
  obtain ⟨p, sunk, ran⟩ := perform_ok.mp done
  obtain ⟨-, -, payload⟩ := bind_ok.mp sunk
  rw [body] at payload
  simp only [InventoryEvent.sink, if_neg full] at payload
  cases payload
  obtain ⟨activated, rest⟩ := run_nextVersion active next ran
  exact ⟨⟨_, activated, rfl, rfl⟩, rest⟩

end Trustctl.Projections
