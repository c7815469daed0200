import Trustctl.Systems.Run

/-!
# Managed signing keys

A `ManagedSigner` changes its state under its lock; `emit` then builds the event under a second
acquisition, from whatever the state is by then, and hands it to the sink.

* `events_tell_history`: if no transition starts while another is being recorded and no emission
  fails, the recorded events fold to the signer;
* `second_rotation_overtakes`: of two rotations at once, the first one's version is in no event.
-/

namespace Trustctl.Byok

open Systems List Option

inductive State
  | active | revoked | zeroized
  deriving DecidableEq

inductive Origin
  | generated | imported
  deriving DecidableEq

inductive EventType
  | keyGenerated | keyImported | keyRotated | keyRevoked | keyZeroized
  deriving DecidableEq

structure LifecycleEvent where
  type : EventType
  tenantId : String
  keyId : String
  version : Nat
  algorithm : String
  origin : Origin
  kind : String
  publicDer : String
  replaces : Nat
  deriving DecidableEq

/-- `ManagedSigner`; its locked key is known by the public one. -/
structure ManagedSigner where
  keyId : String
  pub : String
  alg : String
  origin : Origin
  version : Nat := 1
  state : State := .active

/-- The event that `emit` builds. -/
def ManagedSigner.event (m : ManagedSigner) (type : EventType) (tenantId : String)
    (replaces : Nat) :
    LifecycleEvent :=
  ⟨type, tenantId, m.keyId, m.version, m.alg, m.origin, "signing", m.pub, replaces⟩

/-- Where a call is that changed the state. -/
inductive Phase
  | emitting (type : EventType) (tenantId : String) (replaces : Nat)
  | sending (e : LifecycleEvent)

structure World where
  signer : ManagedSigner
  calls : List Phase := []
  /-- What the sink recorded. -/
  events : List LifecycleEvent
  /-- The transitions that took effect, each as the event that tells it. -/
  taken : List LifecycleEvent
  /-- Each version with the public key it had. -/
  keys : List (Nat × String)
  /-- A `Revoke` or `Zeroize` took effect or found the key retired: it may have returned. -/
  retired : Bool := false
  /-- A digest was signed after that. -/
  late : Bool := false

/-- `GenerateSigner` and `ImportSigner`, with the key drawn or read and the sink's answer. -/
def create (tenantId keyId alg : String) (origin : Origin) (key : Option String) (recorded : Bool) :
    Option World :=
  if tenantId = "" then none
  else key.bind fun pub =>
    let m : ManagedSigner := { keyId, pub, alg, origin }
    let e := m.event (if origin = .generated then .keyGenerated else .keyImported) tenantId 0
    if recorded then some { signer := m, events := [e], taken := [e], keys := [(1, pub)] } else none

/-- The signer becomes `m`, and the call goes on to `emit`. -/
def World.transition (w : World) (m : ManagedSigner) (type : EventType) (tenantId : String)
    (replaces : Nat) : World :=
  { w with
    signer := m
    calls := w.calls ++ [.emitting type tenantId replaces]
    taken := w.taken ++ [m.event type tenantId replaces] }

/-- The locked sections of the methods and of `emit`, and the sink's answers. -/
inductive Action
  | signDigest (signs : Bool)
  | rotate (tenantId : String) (fresh : Option String)
  | revoke (tenantId : String)
  | zeroize (tenantId : String)
  | build (call : Nat)
  | emit (call : Nat) (recorded : Bool)

def World.step (w : World) : Action → Option World
  | .signDigest signs =>
    some (if w.signer.state = .active ∧ signs then { w with late := w.late || w.retired } else w)
  | .rotate tenantId fresh =>
    if tenantId = "" ∨ w.signer.state ≠ .active then some w
    else match fresh with
      | none => some w
      | some pub =>
        let version := w.signer.version + 1
        some { w.transition { w.signer with pub, version } .keyRotated tenantId
          w.signer.version with
               keys := w.keys ++ [(version, pub)] }
  | .revoke tenantId =>
    if tenantId = "" then some w
    else if w.signer.state ≠ .active then some { w with retired := true }
    else some { w.transition { w.signer with state := .revoked } .keyRevoked tenantId 0 with
                retired := true }
  | .zeroize tenantId =>
    if tenantId = "" then some w
    else if w.signer.state = .zeroized then some { w with retired := true }
    else some { w.transition { w.signer with state := .zeroized } .keyZeroized tenantId 0 with
                retired := true }
  | .build call =>
    match w.calls[call]? with
    | some (.emitting type tenantId replaces) =>
      some { w with calls := w.calls.set call (.sending (w.signer.event type tenantId replaces)) }
    | _ => none
  | .emit call recorded =>
    match w.calls[call]? with
    | some (.sending e) =>
      some { w with
        calls := w.calls.eraseIdx call
        events := if recorded then w.events ++ [e] else w.events }
    | _ => none

/-! ## The history that events tell -/

/-- The signer after the transition that an event tells, if it tells it as it was. -/
def ManagedSigner.follow (m : ManagedSigner) (e : LifecycleEvent) : Option ManagedSigner :=
  let told (m' : ManagedSigner) (replaces : Nat) :=
    if e = m'.event e.type e.tenantId replaces then some m' else none
  match e.type, m.state with
  | .keyRotated, .active => told { m with pub := e.publicDer, version := m.version + 1 } m.version
  | .keyRevoked, .active => told { m with state := .revoked } 0
  | .keyZeroized, .active | .keyZeroized, .revoked => told { m with state := .zeroized } 0
  | _, _ => none

/-- Created at version 1, then one transition after the other. -/
def replay : List LifecycleEvent → Option ManagedSigner
  | [] => none
  | e :: es =>
    let m : ManagedSigner :=
      { keyId := e.keyId, pub := e.publicDer, alg := e.algorithm, origin := e.origin }
    if (e.type = .keyGenerated ∨ e.type = .keyImported) ∧ e = m.event e.type e.tenantId 0 then
      es.foldlM ManagedSigner.follow m
    else none

/-- The versions that creations and rotations name. -/
def versions (es : List LifecycleEvent) : List (Nat × String) :=
  (es.filter fun e => e.type ≠ .keyRevoked && e.type ≠ .keyZeroized).map fun e =>
    (e.version, e.publicDer)

/-- The events tell the signer's history, each version once, with the key it had. -/
structure Told (m : ManagedSigner) (keys : List (Nat × String)) (es : List LifecycleEvent) :
    Prop where
  folds : replay es = some m
  named : versions es = keys
  numbered : keys.map Prod.fst = range' 1 m.version

/-- The call changes the signer: it is neither refused nor without effect. -/
def World.changes (w : World) : Action → Bool
  | .rotate tenantId fresh => tenantId ≠ "" ∧ w.signer.state = .active ∧ fresh ≠ none
  | .revoke tenantId => tenantId ≠ "" ∧ w.signer.state = .active
  | .zeroize tenantId => tenantId ≠ "" ∧ w.signer.state ≠ .zeroized
  | _ => false

/-- No transition starts while another is being recorded, and no emission fails. -/
def World.orderly (w : World) : Action → Bool
  | .emit _ recorded => recorded
  | a => !w.changes a || w.calls.isEmpty

/-! ## Orderly runs -/

variable {w w' : World} {type : EventType} {tenantId : String} {replaces : Nat}

/-- The event a call is about to record. -/
def World.tells (w : World) : Phase → LifecycleEvent
  | .emitting type tenantId replaces => w.signer.event type tenantId replaces
  | .sending e => e

/-- At most one call is in flight, and it is about to record what is not recorded yet. -/
structure Good (w : World) : Prop where
  told : Told w.signer w.keys w.taken
  retired : w.retired → w.signer.state ≠ .active
  signed : w.late = false
  alone : w.calls.length ≤ 1
  recorded : w.taken = w.events ++ w.calls.map w.tells

theorem replay_snoc {es : List LifecycleEvent} {e : LifecycleEvent} {m m' : ManagedSigner}
    (folds : replay es = some m) (next : m.follow e = some m') : replay (es ++ [e]) = some m' := by
  cases es with
  | nil => cases folds
  | cons first es =>
    obtain ⟨made, folds⟩ := ite_none_right_eq_some.mp folds
    refine (if_pos made).trans ?_
    rw [append_eq, foldlM_append, folds]
    exact (bind_pure _).trans next

theorem Good.transition (good : Good w) (idle : w.calls.isEmpty) {m : ManagedSigner}
    {keys : List (Nat × String)} {retired : Bool}
    (next : w.signer.follow (m.event type tenantId replaces) = some m)
    (named : w.keys ++ versions [m.event type tenantId replaces] = keys)
    (nums : keys.map Prod.fst = range' 1 m.version)
    (off : retired → m.state ≠ .active) :
    Good { w.transition m type tenantId replaces with keys, retired } := by
  have idle := List.isEmpty_iff.mp idle
  have noted := good.recorded
  rw [idle, map_nil, append_nil] at noted
  refine ⟨⟨replay_snoc good.told.folds next, ?_, nums⟩, off, good.signed, ?_, ?_⟩
  · rw [← named, ← good.told.named]
    simp [World.transition, versions]
  · simp [World.transition, idle]
  · simp [World.transition, idle, noted, World.tells]

theorem Good.only {call : Nat} {p : Phase} (good : Good w) (hit : w.calls[call]? = some p) :
    call = 0 ∧ w.calls = [p] := by
  obtain ⟨lt, rfl⟩ := List.getElem?_eq_some_iff.mp hit
  have alone := good.alone
  obtain ⟨q, one⟩ := length_eq_one_iff.mp (by omega : w.calls.length = 1)
  obtain rfl : call = 0 := by omega
  simp [one]

theorem World.orderly.idle {a : Action} (meets : w.orderly a) (changes : w.changes a) :
    w.calls.isEmpty := by
  cases a with
  | emit call recorded => cases changes
  | _ => simpa [World.orderly, changes] using meets

theorem Good.step {a : Action} (good : Good w) (meets : w.orderly a)
    (moved : w.step a = some w') : Good w' := by
  cases a with
  | signDigest signs =>
    cases moved
    split
    next live =>
      refine { good with signed := ?_ }
      cases old : w.retired with
      | false => simp [good.signed]
      | true => exact absurd live.1 (good.retired old)
    next => exact good
  | rotate tenantId fresh =>
    simp only [World.step] at moved
    split at moved
    next =>
      cases moved
      exact good
    next live =>
      obtain ⟨tenant, active⟩ := not_or.mp live
      have active : w.signer.state = .active := Decidable.not_not.mp active
      cases fresh with
      | none =>
        cases moved
        exact good
      | some pub =>
        cases moved
        have idle := World.orderly.idle meets (by simp [World.changes, tenant, active])
        refine good.transition idle ?_ rfl ?_ good.retired
        · simp [ManagedSigner.follow, ManagedSigner.event, active]
        · rw [map_append, good.told.numbered, range'_1_concat, Nat.add_comm 1]
          rfl
  | revoke tenantId =>
    simp only [World.step] at moved
    repeat' split at moved
    all_goals cases moved
    next => exact good
    next off => exact { good with retired := fun _ => off }
    next tenant live =>
      have active := Decidable.not_not.mp live
      have idle := World.orderly.idle meets (by simp [World.changes, tenant, active])
      refine good.transition idle ?_ (append_nil _) good.told.numbered fun _ => State.noConfusion
      simp [ManagedSigner.follow, ManagedSigner.event, active]
  | zeroize tenantId =>
    simp only [World.step] at moved
    repeat' split at moved
    all_goals cases moved
    next => exact good
    next off => exact { good with retired := fun _ => by simp [off] }
    next tenant live =>
      have idle := World.orderly.idle meets (by simp [World.changes, tenant, live])
      refine good.transition idle ?_ (append_nil _) good.told.numbered fun _ => State.noConfusion
      cases state : w.signer.state with
      | zeroized => exact absurd state live
      | active | revoked => simp [ManagedSigner.follow, ManagedSigner.event, state]
  | build call =>
    simp only [World.step] at moved
    split at moved
    next hit =>
      cases moved
      obtain ⟨rfl, one⟩ := good.only hit
      have recorded := good.recorded
      rw [one] at recorded ⊢
      exact { good with alone := Nat.le_refl _, recorded }
    next => cases moved
  | emit call recorded =>
    cases meets
    simp only [World.step] at moved
    split at moved
    next e hit =>
      cases moved
      obtain ⟨rfl, one⟩ := good.only hit
      have recorded := good.recorded
      rw [one] at recorded ⊢
      refine { good with alone := Nat.zero_le _, recorded := ?_ }
      exact recorded.trans (append_nil _).symm
    next => cases moved

/-- In every orderly run no digest is signed once the key is retired, and whenever no call is in
flight the recorded events fold to the signer and tell every transition that took effect. -/
theorem events_tell_history {keyId alg : String} {origin : Origin} {key : Option String}
    {recorded : Bool} {w₀ : World} {as : List Action}
    (created : create tenantId keyId alg origin key recorded = some w₀)
    (run : Run World.step (fun w a => w.orderly a) w₀ as w) :
    w.late = false ∧
      (w.calls = [] → Told w.signer w.keys w.events ∧ ∀ e ∈ w.taken, e ∈ w.events) := by
  have good : Good w := by
    refine run.invariant (fun _ _ _ meets moved good => good.step meets moved) ?_
    obtain ⟨-, created⟩ := ite_none_left_eq_some.mp created
    obtain ⟨pub, -, created⟩ := bind_eq_some_iff.mp created
    obtain ⟨-, created⟩ := ite_none_right_eq_some.mp created
    cases created
    refine ⟨⟨?_, ?_, rfl⟩, nofun, rfl, Nat.zero_le _, rfl⟩
    all_goals cases origin <;> simp [replay, versions, ManagedSigner.event]
  refine ⟨good.signed, fun idle => ?_⟩
  have same := good.recorded
  rw [idle, map_nil, append_nil] at same
  rw [← same]
  exact ⟨good.told, fun _ mem => mem⟩

/-- A key is generated, rotated while another rotation has no key to put in, used, revoked and
zeroized. -/
theorem life_of_a_key : ∃ w₀ as w, create "t" "k" "ES256" .generated (some "p1") true = some w₀ ∧
    Run World.step (fun w a => w.orderly a) w₀ as w ∧ w.late = false ∧
      Told w.signer w.keys w.events ∧
    w.signer.version = 2 := by
  obtain ⟨w₀, made, w, ran, idle, rotated⟩ : ∃ w₀,
      create "t" "k" "ES256" .generated (some "p1") true = some w₀ ∧
      ∃ w, executeIf World.step World.orderly w₀
        [.rotate "t" (some "p2"), .rotate "t" none, .build 0, .emit 0 true, .signDigest true,
          .revoke "t", .revoke "t", .build 0, .emit 0 true, .signDigest true, .zeroize "t",
          .build 0, .emit 0 true] = some w ∧
        w.calls = [] ∧ w.signer.version = 2 := ⟨_, rfl, _, rfl, rfl, rfl⟩
  have run := run_of_executeIf ran
  obtain ⟨signed, told⟩ := events_tell_history made run
  exact ⟨w₀, _, w, made, run, signed, (told idle).1, rotated⟩

/-- The second rotation changes the state before the first one builds its event. -/
theorem second_rotation_overtakes : ∃ w₀ as w,
    create "t" "k" "ES256" .generated (some "p1") true = some w₀ ∧
    Run World.step (fun _ _ => True) w₀ as w ∧ w.calls = [] ∧ ¬ Told w.signer w.keys w.events ∧
    w.signer.version = 3 ∧ ∀ e ∈ w.events, e.version ≠ 2 := by
  refine ⟨_, [.rotate "t" (some "p2"), .rotate "t" (some "p3"), .build 0, .emit 0 true, .build 0,
    .emit 0 true], _, rfl, run_of_execute rfl, rfl, fun told => ?_, rfl, by decide⟩
  cases told.folds

end Trustctl.Byok
