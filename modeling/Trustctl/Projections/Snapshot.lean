import Mathlib.Data.List.Sort
import Trustctl.Projections.Projector

/-!
# Snapshots of the read model

A snapshot holds the rows of one tenant and the sequence they cover.  A boot that finds the
checkpoint behind every snapshot reloads the read model from them and replays the events
after the lowest covered sequence; if that fails it rebuilds from the log.

* `mem_restoreSnapshotsTx`: what a reload leaves in a table.
-/

namespace Trustctl.Projections

open Store Relational Systems

/-! ## Capture -/

/-- A row of `read_model_snapshots`. -/
structure TenantSnapshot where
  tenantId : Uuid
  coveredSeq : Nat
  payload : Tables Row

/-- The rows of the tenant in the captured tables. -/
def capture (τ : Uuid) (tables : Tables Row) : Tables Row :=
  fun t => if t ∈ snapshotTables then slice τ tables t else []

def writeTenantSnapshot (τ : Uuid) (coveredSeq : Nat) (tables : Tables Row)
    (snapshots : List TenantSnapshot) : Except ApplyError (List TenantSnapshot) :=
  if τ = "" then .error (.store "store: WriteTenantSnapshot requires a tenant id (AN-1)")
  else
    .ok ((snapshots.filter fun s => s.tenantId ≠ τ) ++
      [{ tenantId := τ, coveredSeq, payload := capture τ tables }])

/-- `LatestSnapshotOffset`; `none` is `ErrNoSnapshot`. -/
def latestSnapshotOffset (snapshots : List TenantSnapshot) : Option Nat :=
  (snapshots.map fun s => s.coveredSeq).min?

/-! ## Restore -/

/-- Insert the rows of the snapshots, one statement for each. -/
def restoreRows : List (TenantSnapshot × Table) → Database Row →
    Except (Fault ApplyError) (Database Row)
  | [], db => .ok db
  | (s, t) :: rest, db => do
    restoreRows rest (← commit (setTable db.tables t (db.tables t ++ s.payload t)))

def restoreStatements (snapshots : List TenantSnapshot) : List (TenantSnapshot × Table) :=
  (snapshots.insertionSort fun a b => a.tenantId ≤ b.tenantId).flatMap fun s =>
    snapshotTables.map fun t => (s, t)

def restoreSnapshotsTx (snapshots : List TenantSnapshot) (db : Database Row) :
    Except (Fault ApplyError) (Database Row) :=
  restoreRows (restoreStatements snapshots) (truncateReadModel db)

/-- The transaction of `RestoreFromSnapshot`: reload, then replay the events after `covered`. -/
def restoreReadModel (h : Digest) (now : Time) (log : List Event)
    (snapshots : List TenantSnapshot) (covered : Nat) (m : ReadModel) :
    Except (Fault ApplyError) ReadModel := do
  let tail := log.filter fun e => covered < e.sequence
  let db ← projectForRebuild h now tail (← restoreSnapshotsTx snapshots m.db)
  return { db, checkpoint := max covered (lastSequence tail) }

/-- `RestoreFromSnapshot`, with whether it handled the boot. -/
def restoreFromSnapshot (h : Digest) (now : Time) (log : List Event)
    (snapshots : List TenantSnapshot) (m : ReadModel) :
    Except (Fault ApplyError) (ReadModel × Bool) :=
  match latestSnapshotOffset snapshots with
  | none => .ok (m, false)
  | some covered =>
    if covered ≤ m.checkpoint then .ok (m, false)
    else
      match restoreReadModel h now log snapshots covered m with
      | .ok restored => .ok (restored, true)
      | .error _ => (rebuild h now log m).map fun rebuilt => (rebuilt, true)

variable {db db' : Database Row} {t : Table} {r : Row t}

theorem mem_restoreRows {stmts : List (TenantSnapshot × Table)}
    (back : restoreRows stmts db = .ok db') :
    r ∈ db'.tables t ↔ r ∈ db.tables t ∨ ∃ s, (s, t) ∈ stmts ∧ r ∈ s.payload t := by
  induction stmts generalizing db with
  | nil =>
    cases back
    simp
  | cons statement rest ih =>
    obtain ⟨s, t'⟩ := statement
    obtain ⟨mid, added, others⟩ := bind_ok.mp back
    rw [ih others, commit_ok.mp added]
    by_cases same : t = t'
    · subst same
      simp only [setTable_self, List.mem_append, List.mem_cons, Prod.mk.injEq, and_true]
      grind
    · rw [setTable_of_ne _ same]
      simp [same]

theorem mem_restoreSnapshotsTx {snapshots : List TenantSnapshot} (caught : t ∈ snapshotTables)
    (back : restoreSnapshotsTx snapshots db = .ok db') :
    r ∈ db'.tables t ↔ ∃ s ∈ snapshots, r ∈ s.payload t := by
  have emptied : (truncateReadModel db).tables t = [] := by
    have truncated : t ∈ truncatedTables := by
      revert caught
      cases t <;> decide
    simp [truncateReadModel, truncateTables, truncated]
  rw [mem_restoreRows back, emptied]
  simp [restoreStatements, caught]

end Trustctl.Projections
