import Trustctl.Store.Statement
import Trustctl.Systems.Checks

/-!
# Event envelopes

The part of a logged event that is the same for every type.  The log stamps the time of
every event it appends, so an envelope carries the proof that it is set; the sinks'
fallbacks for a zero time are therefore not reached from the projector.
-/

namespace Trustctl.Projections

open Store

structure Envelope where
  id : String
  tenantId : Uuid
  sequence : Nat
  time : Time
  schemaVersion : Nat := 1
  timeSet : time ≠ 0

/-- `schemaVersionOf`: a legacy zero version is the baseline. -/
def Envelope.version (e : Envelope) : Nat := if e.schemaVersion = 0 then 1 else e.schemaVersion

/-- The required-field check in front of a sink. -/
def require {α : Type} (type : String) (ok : Bool) (fields : String)
    (sink : Except ApplyError α) : Except ApplyError α :=
  if ok then sink else .error (.requires type fields)

theorem require_ok {α : Type} {type fields : String} {ok : Bool} {sink : Except ApplyError α}
    {p : α} : require type ok fields sink = .ok p ↔ ok ∧ sink = .ok p := by
  cases ok <;> simp [require]

theorem require_stable {type fields : String} {ok : Bool} {τ : Uuid} {tables : List Table}
    {p q : Sink τ} (sunk : require type ok fields (.ok p) = .ok q)
    (stable : Relational.Stable tables p) : Relational.Replays q q := by
  obtain ⟨-, ⟨⟩⟩ := require_ok.mp sunk
  exact stable.replays

theorem toOption_eq_some {ε α : Type} {x : Except ε α} {a : α} :
    x.toOption = some a ↔ x = .ok a := by
  cases x <;> simp [Except.toOption]

end Trustctl.Projections
