import Trustctl.Store.Schema

/-!
# Statements of the store

The errors a projection can end in and the transactions the store's sinks build.
A sink is a list of statements for one tenant; a sink that validates its argument
first returns an error instead.
-/

namespace Trustctl.Store

open Relational

/-- Why an event is not applied, apart from a constraint or a row-level policy. -/
inductive ApplyError
  /-- `ErrUnknownSchemaVersion`. -/
  | unknownSchemaVersion (type : String) (version : Nat) (seq : Nat)
  /-- `projections: decode …`. -/
  | decode (type : String)
  /-- `projections: … requires …`, with its text. -/
  | requires (type : String) (fields : String)
  /-- `pgx.ErrNoRows`. -/
  | noRows
  /-- Any other error of a sink, with its text. -/
  | store (text : String)
deriving DecidableEq

abbrev Sink (τ : Uuid) := List (Stmt Row ApplyError τ)

/-- A sink that refuses its arguments before it issues a statement. -/
theorem refuse_ok {α : Type} {bad : Prop} [Decidable bad] {no : ApplyError} {sink p : α} :
    (if bad then .error no else .ok sink : Except ApplyError α) = .ok p ↔ ¬ bad ∧ sink = p := by
  by_cases h : bad <;> simp [h]

end Trustctl.Store
