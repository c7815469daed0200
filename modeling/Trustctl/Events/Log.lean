import Trustctl.Store.Values
import Trustctl.Systems.Framing
import Trustctl.Systems.Stream

/-!
# The event log

The stream of stored events and its replay.  A message is identified with what its bytes
decode to, so an envelope that is marshalled again decodes to the same event.

* `replay_eq` : replay hands on the events of the messages in the order of the stream.
-/

namespace Trustctl.Events

open List Systems Store

structure Actor where
  subject : String
  roles : List String := []
deriving DecidableEq

/-- `storedEvent`, the envelope on the stream. -/
structure StoredEvent where
  id : String
  type : String
  tenantId : String
  time : Time
  schemaVersion : Nat := 1
  data : List Byte := []
  actor : Option Actor := none
deriving DecidableEq

/-- A message, with the envelope its bytes decode to or the text of the error. -/
structure Message where
  subject : String
  data : Except String StoredEvent

/-- `Event`, as replay hands it on. -/
structure Event where
  id : String
  type : String
  tenantId : String
  time : Time
  data : List Byte
  sequence : Nat
  actor : Option Actor
  schemaVersion : Nat

/-- An envelope without a version is of the first. -/
def StoredEvent.toEvent (seq : Nat) (e : StoredEvent) : Event where
  id := e.id
  type := e.type
  tenantId := e.tenantId
  time := e.time
  data := e.data
  sequence := seq
  actor := e.actor
  schemaVersion := if e.schemaVersion = 0 then 1 else e.schemaVersion

/-- The loop of `Replay`: the events handed on, and the error it ends in. -/
def replayFrom (s : Stream Message) : List Nat → List Event × Option String
  | [] => ([], none)
  | seq :: rest =>
    match s.get seq with
    | none => replayFrom s rest
    | some m =>
      match m.data with
      | .error text => ([], some (s!"events: decode seq {seq}: " ++ text))
      | .ok e => ((e.toEvent seq) :: (replayFrom s rest).1, (replayFrom s rest).2)

/-- `Replay` from the beginning, when the stream answers every call. -/
def replay (s : Stream Message) : List Event × Option String := replayFrom s s.sequences

/-- The events of some messages up to the first that is no envelope. -/
def collect : List (Nat × Message) → List Event × Option String
  | [] => ([], none)
  | (seq, m) :: rest =>
    match m.data with
    | .error text => ([], some (s!"events: decode seq {seq}: " ++ text))
    | .ok e => ((e.toEvent seq) :: (collect rest).1, (collect rest).2)

theorem replayFrom_eq (s : Stream Message) (seqs : List Nat) :
    replayFrom s seqs = collect (seqs.filterMap fun seq => (s.get seq).map (seq, ·)) := by
  induction seqs with
  | nil => rfl
  | cons seq rest ih =>
    rw [replayFrom, filterMap_cons]
    cases found : s.get seq with
    | none => exact ih
    | some m =>
      dsimp only [Option.map_some]
      rw [collect]
      cases m.data with
      | error text => rfl
      | ok e => rw [ih]

theorem replay_eq (s : Stream Message) : replay s = collect s.messages := by
  rw [replay, replayFrom_eq, Stream.read_eq_messages]

theorem collect_length_le (ms : List (Nat × Message)) : (collect ms).1.length ≤ ms.length := by
  induction ms with
  | nil => exact .refl
  | cons m rest ih =>
    rw [collect]
    cases m.2.data with
    | error text => exact Nat.zero_le _
    | ok e => exact Nat.succ_le_succ ih

theorem collect_eq {ms : List (Nat × Message)} {es : List (Nat × StoredEvent)}
    (read : ms.map (fun m => (m.1, m.2.data)) = es.map fun e => (e.1, .ok e.2)) :
    collect ms = (es.map fun e => e.2.toEvent e.1, none) := by
  induction ms generalizing es with
  | nil =>
    cases es with
    | nil => rfl
    | cons e more => cases read
  | cons m rest ih =>
    cases es with
    | nil => cases read
    | cons e more =>
      obtain ⟨first, later⟩ := cons.inj read
      obtain ⟨seq, data⟩ := Prod.mk.inj first
      rw [collect, data, ih later, seq]
      rfl

end Trustctl.Events
