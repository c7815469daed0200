import Mathlib.Logic.Function.Basic
import Trustctl.Systems.Run

/-!
# Leader election

`Elector.Run` of every replica against one database.  Leadership is the advisory lock of a session.
A replica learns of a broken connection at its next health check, the database at a moment of its
own, and the leader callback takes its time to stop.

* `one_leader`: as long as the database frees no lock under which a callback still runs, one replica
  runs it at a time, under the lock, and a replica that campaigns can become the leader.
* `freed_before_noticed`: the database notices first, and two callbacks run.
-/

namespace Trustctl.Leader

open Function (update forall_update_iff update_self)
open Systems

/-- Where a replica is: in the loop of `Run`, or in `serveAsLeader` with the connection of its
lease. -/
inductive Phase
  | campaigning
  | serving (broken cancelled running : Bool)
  | stopped

/-- A replica, and whether the context of its `Run` is cancelled. -/
structure Replica where
  phase : Phase := .campaigning
  shutdown : Bool := false

/-- The advisory lock.  It is orphaned where its session belongs to no lease and its connection
broke. -/
inductive Lock
  | free
  | held (r : Nat)
  | orphaned
  deriving DecidableEq

structure World where
  replicas : Nat → Replica := fun _ => {}
  lock : Lock := .free

/-- What happens; a campaign that does not get the lock changes nothing and is left out. -/
inductive Action
  | campaign (r : Nat)
  /-- `TryBecomeLeader` takes the lock, and its answer is lost with the connection. -/
  | lose (r : Nat)
  | drop (r : Nat)
  /-- The database ends the session that has the lock. -/
  | notice
  | check (r : Nat) (healthy : Bool)
  /-- The leader callback returns. -/
  | exit (r : Nat)
  /-- `serveAsLeader` returns, which releases the lease. -/
  | release (r : Nat)
  | shutdown (r : Nat)

/-- The unlock of a lease; over a broken connection it does nothing. -/
def Lock.release (lock : Lock) (r : Nat) (broken : Bool) : Lock :=
  if lock = .held r then if broken then .orphaned else .free else lock

/-- Change a replica that is in `serveAsLeader`. -/
def World.serving (w : World) (r : Nat) (f : Bool → Bool → Bool → Bool → Option Replica) :
    Option World :=
  match w.replicas r with
  | ⟨.serving broken cancelled running, shutdown⟩ =>
    (f broken cancelled running shutdown).map fun rep =>
      { w with replicas := update w.replicas r rep }
  | _ => none

def World.step (w : World) : Action → Option World
  | .campaign r =>
    match w.replicas r, w.lock with
    | ⟨.campaigning, false⟩, .free =>
      some ⟨update w.replicas r ⟨.serving false false true, false⟩, .held r⟩
    | _, _ => none
  | .lose r =>
    match w.replicas r, w.lock with
    | ⟨.campaigning, false⟩, .free => some { w with lock := .orphaned }
    | _, _ => none
  | .drop r => w.serving r fun _ cancelled running shutdown =>
    some ⟨.serving true cancelled running, shutdown⟩
  | .notice =>
    match w.lock with
    | .free => none
    | .orphaned => some { w with lock := .free }
    | .held r =>
      match (w.replicas r).phase with
      | .serving true _ _ => some { w with lock := .free }
      | _ => none
  | .check r healthy => w.serving r fun broken cancelled running shutdown =>
    -- A ping over a broken connection fails; one over a good connection may fail.
    if healthy && broken then none
    else some ⟨.serving broken (cancelled || !healthy) running, shutdown⟩
  | .exit r => w.serving r fun broken cancelled running shutdown =>
    if running then some ⟨.serving broken cancelled false, shutdown⟩ else none
  | .release r =>
    match w.replicas r with
    | ⟨.serving broken _ false, shutdown⟩ =>
      some ⟨update w.replicas r ⟨if shutdown then .stopped else .campaigning, shutdown⟩,
        w.lock.release r broken⟩
    | _ => none
  | .shutdown r =>
    match w.replicas r with
    | ⟨.campaigning, _⟩ => some { w with replicas := update w.replicas r ⟨.stopped, true⟩ }
    | _ => w.serving r fun broken _ running _ => some ⟨.serving broken true running, true⟩

def Replica.serves : Replica → Bool
  | ⟨.serving .., _⟩ => true
  | _ => false

def Replica.leads : Replica → Bool
  | ⟨.serving _ _ running, _⟩ => running
  | _ => false

/-- The database frees no lock under which a callback runs. -/
def World.calm (w : World) : Action → Bool
  | .notice =>
    match w.lock with
    | .held r => !(w.replicas r).leads
    | _ => true
  | _ => true

/-- From this state the replica can get to run its callback under the lock, with no lock freed under
a callback on the way. -/
def World.canLead (w : World) (r : Nat) : Prop :=
  ∃ as w', executeIf World.step World.calm w as = some w' ∧
    (w'.replicas r).leads ∧ w'.lock = .held r

structure Elected (w : World) : Prop where
  one : ∀ {r r'}, (w.replicas r).leads → (w.replicas r').leads → r = r'
  locked : ∀ {r}, (w.replicas r).leads → w.lock = .held r
  recovers : ∀ {r}, w.replicas r = ⟨.campaigning, false⟩ → w.canLead r

/-! ## One leader -/

variable {w w' : World} {a : Action} {r : Nat}

/-- A callback runs under the lock, and a lock that is held belongs to a lease. -/
structure Fits (lock : Lock) (r : Nat) (rep : Replica) : Prop where
  locked : rep.leads → lock = .held r
  leased : lock = .held r → rep.serves

def Sound (w : World) : Prop := ∀ r, Fits w.lock r (w.replicas r)

theorem Sound.serving {f : Bool → Bool → Bool → Bool → Option Replica} (sound : Sound w)
    (stays : ∀ {b c running d rep}, f b c running d = some rep → rep.serves ∧ (rep.leads → running))
    (moved : w.serving r f = some w') : Sound w' := by
  unfold World.serving at moved
  split at moved
  next here =>
    obtain ⟨rep, next, rfl⟩ := Option.map_eq_some_iff.mp moved
    obtain ⟨serves, leads⟩ := stays next
    refine (forall_update_iff _ _).mpr ⟨⟨fun now => (sound r).locked ?_, fun _ => serves⟩, ?_⟩
    · rw [here]
      exact leads now
    · exact fun i _ => sound i
  next => cases moved

theorem Lock.release_eq_held {lock : Lock} {i : Nat} {broken : Bool} :
    lock.release r broken = .held i ↔ i ≠ r ∧ lock = .held i := by
  unfold release
  split
  next mine => cases broken <;> simp [mine, eq_comm]
  next other => exact ⟨fun held => ⟨fun same => other (same ▸ held), held⟩, And.right⟩

theorem Sound.step (sound : Sound w) (meets : w.calm a) (moved : w.step a = some w') :
    Sound w' := by
  have unlocked (free : w.lock = .free) (i : Nat) : ¬ (w.replicas i).leads :=
    fun leads => nomatch free.symm.trans ((sound i).locked leads)
  cases a with
  | campaign r =>
    rw [World.step] at moved
    split at moved
    next free =>
      cases moved
      refine (forall_update_iff _ _).mpr ⟨⟨fun _ => rfl, fun _ => rfl⟩, fun i other => ⟨?_, ?_⟩⟩
      · exact fun leads => absurd leads (unlocked free i)
      · exact fun held => absurd (Lock.held.inj held).symm other
    next => cases moved
  | lose r =>
    rw [World.step] at moved
    split at moved
    next free =>
      cases moved
      exact fun i => ⟨fun leads => absurd leads (unlocked free i), nofun⟩
    next => cases moved
  | notice =>
    have free : w' = { w with lock := .free } := by
      rw [World.step] at moved
      repeat' split at moved
      all_goals cases moved
      all_goals rfl
    rw [free]
    refine fun i => ⟨fun leads => ?_, nofun⟩
    rw [World.calm, (sound i).locked leads] at meets
    simp [leads] at meets
  | drop r => exact sound.serving (fun same => by cases same; exact ⟨rfl, id⟩) moved
  | check r healthy =>
    refine sound.serving (fun next => ?_) moved
    obtain ⟨-, same⟩ := Option.ite_none_left_eq_some.mp next
    cases same
    exact ⟨rfl, id⟩
  | exit r =>
    refine sound.serving (fun next => ?_) moved
    obtain ⟨-, same⟩ := Option.ite_none_right_eq_some.mp next
    cases same
    exact ⟨rfl, nofun⟩
  | release r =>
    rw [World.step] at moved
    split at moved
    next broken _ shutdown here =>
      cases moved
      refine (forall_update_iff _ _).mpr
        ⟨⟨fun leads => ?_, fun held => ?_⟩, fun i other => ⟨?_, ?_⟩⟩
      · cases shutdown <;> cases leads
      · exact absurd rfl (Lock.release_eq_held.mp held).1
      · exact fun leads => Lock.release_eq_held.mpr ⟨other, (sound i).locked leads⟩
      · exact fun held => (sound i).leased (Lock.release_eq_held.mp held).2
    next => cases moved
  | shutdown r =>
    rw [World.step] at moved
    split at moved
    next here =>
      cases moved
      refine (forall_update_iff _ _).mpr ⟨⟨nofun, fun held => ?_⟩, fun i _ => sound i⟩
      have serves := (sound r).leased held
      rw [here] at serves
      cases serves
    next => exact sound.serving (fun same => by cases same; exact ⟨rfl, id⟩) moved

theorem canLead_of_free (free : w.lock = .free) (here : w.replicas r = ⟨.campaigning, false⟩) :
    w.canLead r := by
  refine ⟨[.campaign r], ⟨update w.replicas r ⟨.serving false false true, false⟩, _⟩, ?_, ?_, rfl⟩
  · simp [executeIf, World.calm, World.step, here, free]
  · simp [Replica.leads]

theorem canLead_of_step {m : World} (meets : w.calm a) (moved : w.step a = some m)
    (next : m.canLead r) : w.canLead r := by
  obtain ⟨as, w', ran, leads⟩ := next
  refine ⟨a :: as, w', ?_, leads⟩
  rw [executeIf, if_pos meets, moved]
  exact ran

theorem canLead_of_orphaned (lost : w.lock = .orphaned)
    (here : w.replicas r = ⟨.campaigning, false⟩) : w.canLead r := by
  have meets : w.calm .notice := by simp [World.calm, lost]
  have noticed : w.step .notice = some { w with lock := .free } := by simp [World.step, lost]
  exact canLead_of_step meets noticed (canLead_of_free rfl here)

/-- A lease whose callback returned is released, and the lock is free at once or when the database
notices. -/
theorem canLead_of_returned {i : Nat} {broken cancelled shutdown : Bool} (locked : w.lock = .held i)
    (returned : w.replicas i = ⟨.serving broken cancelled false, shutdown⟩)
    (here : w.replicas r = ⟨.campaigning, false⟩) : w.canLead r := by
  have other : r ≠ i := by
    rintro rfl
    cases here.symm.trans returned
  let rest := update w.replicas i ⟨if shutdown then .stopped else .campaigning, shutdown⟩
  have campaigning : rest r = ⟨.campaigning, false⟩ := by simp [rest, other, here]
  have released : w.step (.release i) =
      some ⟨rest, if broken then Lock.orphaned else Lock.free⟩ := by
    simp [World.step, returned, Lock.release, locked, rest]
  refine canLead_of_step rfl released ?_
  cases broken with
  | true => exact canLead_of_orphaned rfl campaigning
  | false => exact canLead_of_free rfl campaigning

/-- Whoever has the lock can fail a health check, stop its callback and release its lease. -/
theorem Sound.canLead (sound : Sound w) (here : w.replicas r = ⟨.campaigning, false⟩) :
    w.canLead r := by
  cases locked : w.lock with
  | free => exact canLead_of_free locked here
  | orphaned => exact canLead_of_orphaned locked here
  | held i =>
    have serves := (sound i).leased locked
    rcases at_ : w.replicas i with ⟨_ | ⟨broken, cancelled, running⟩ | _, shutdown⟩
    case serving =>
      cases running with
      | false => exact canLead_of_returned locked at_ here
      | true =>
        have other : r ≠ i := by
          rintro rfl
          cases here.symm.trans at_
        let failed := update w.replicas i ⟨.serving broken true true, shutdown⟩
        let returned := update failed i ⟨.serving broken true false, shutdown⟩
        have checked : w.step (.check i false) = some { w with replicas := failed } := by
          simp [World.step, World.serving, at_, failed]
        have exits : ({ w with replicas := failed } : World).step (.exit i) =
            some { w with replicas := returned } := by
          simp [World.step, World.serving, failed, returned]
        refine canLead_of_step rfl checked (canLead_of_step rfl exits ?_)
        refine canLead_of_returned locked (update_self ..) ?_
        simp [returned, failed, other, here]
    all_goals
      rw [at_] at serves
      cases serves

/-- In every run in which no lock is freed under a callback, one callback runs at a time, under the
lock, and every replica that campaigns can become the leader. -/
theorem one_leader {as : List Action}
    (run : Run World.step (fun w a => w.calm a) {} as w) : Elected w := by
  have sound : Sound w := run.invariant (fun _ _ _ meets moved sound => sound.step meets moved)
    fun _ => ⟨nofun, nofun⟩
  refine ⟨fun {r r'} leads leads' => ?_, fun {r} => (sound r).locked, sound.canLead⟩
  cases ((sound r).locked leads).symm.trans ((sound r').locked leads')
  rfl

/-- A replica steps down after the loss of its connection, and another one takes over. -/
theorem taken_over : ∃ w as, Run World.step (fun w a => w.calm a) {} as w ∧
    Elected w ∧ (w.replicas 1).leads := by
  obtain ⟨w, ran, leads⟩ : ∃ w, executeIf World.step World.calm {}
    [.campaign 0, .drop 0, .check 0 false, .exit 0, .release 0, .notice, .campaign 1] = some w ∧
    (w.replicas 1).leads := ⟨_, rfl, rfl⟩
  have run := run_of_executeIf ran
  exact ⟨w, _, run, one_leader run, leads⟩

/-- The database ends the session of a leader that has not checked its connection yet. -/
theorem freed_before_noticed : ∃ w as, Run World.step (fun _ _ => True) {} as w ∧ ¬ Elected w := by
  refine ⟨_, [.campaign 0, .drop 0, .notice, .campaign 1], run_of_execute rfl, fun elected => ?_⟩
  cases @elected.one 0 1 rfl rfl

end Trustctl.Leader
