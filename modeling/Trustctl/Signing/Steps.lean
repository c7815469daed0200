import Trustctl.Signing.Server

/-!
# What a step of the signer can do

`Step f w a w'` lists the outcomes of an action, with the guards that hold in each;
`step_cases` is the inversion of `step` that every invariant is derived from.

`Grows` is what all steps have in common: a process keeps its verifier, an object keeps its
key and constraints, and nothing that was created or authorized is forgotten.
-/

namespace Trustctl.Signing

open Option Systems

/-- How `lookup` comes by a key. -/
inductive Found (f : KeyFormats) (p : Nat) (srv : Server) (handle : String) (w : World) :
    Nat → World → Prop
  | cached {i : Nat} (onMap : srv.keys.get handle = some i) : Found f p srv handle w i w
  | loaded {key : SigningKey} {kc : KeyConstraints} (offMap : srv.keys.get handle = none)
      (read : loadHandle f w.files handle = .ok (some (key, kc))) :
      Found f p srv handle w w.heap.length
        (w.hold handle { owner := p, key := key, constraints := kc })

variable {w w' : World} {f : KeyFormats} {p : Nat} {srv : Server}

theorem lookup_ok {hd : String} {i : Nat} (hit : lookup f p srv hd w = .ok (i, w')) :
    hd ≠ "" ∧ Found f p srv hd w i w' := by
  unfold lookup at hit
  split at hit
  case isTrue => cases hit
  case isFalse here =>
    refine ⟨here, ?_⟩
    split at hit
    case h_1 onMap =>
      cases hit
      exact .cached onMap
    case h_2 offMap =>
      split at hit <;> cases hit
      case h_3 read => exact .loaded offMap read

/-- What `GenerateKey` is about to put on the map. -/
structure Prepared (srv : Server) (req : GenerateKeyRequest) (draw : Draw) (id : String)
    (key : SigningKey) (kc : KeyConstraints) : Prop where
  purposes : 0 ∉ req.allowedPurposes
  hashes : 0 ∉ req.allowedHashes
  algorithm : algorithmFromProto req.algorithm = .ok key.algorithm
  bytes : draw.key = .ok key.bytes
  id : handleFor req draw = .ok id
  constraints : kc = ⟨.of req.allowedPurposes, .of req.allowedHashes, req.dualControl⟩

theorem internalError_eq_ok {α : Type} {what : String} {result : Except String α} {a : α} :
    internalError what result = .ok a ↔ result = .ok a := by
  simp [internalError]

theorem prepareKey_ok {req : GenerateKeyRequest} {draw : Draw} {id : String} {key : SigningKey}
    {kc : KeyConstraints} (ready : prepareKey srv req draw = .ok (id, key, kc)) :
    Prepared srv req draw id key kc := by
  simp only [prepareKey, constraintsFromGenerate, bind_ok, demand_eq_ok, internalError_eq_ok]
    at ready
  obtain ⟨alg, named, kc', ⟨-, purposes, -, hashes, listed⟩, -, -, bytes, drawn, id', chosen,
    result⟩ := ready
  cases listed
  cases result
  exact ⟨purposes, hashes, named, drawn, chosen, rfl⟩

/-- The outcomes of the next section of a call, which is no longer in flight in `w`. -/
inductive Resumed (p : Nat) (w : World) : Call → World → Prop
  | sealed {req : GenerateKeyRequest} {id : String} {i : Nat} {held : HeldKey}
      (here : w.heap[i]? = some held) (alive : held.destroyed = false) :
      Resumed p w (.sealing req id i)
        (w.goOn p (.writing req id i (sealKey (sanitizeHandle id) held.key held.constraints)))
  | sealFailed {req : GenerateKeyRequest} {id : String} {i : Nat} (text : String) :
      Resumed p w (.sealing req id i) (w.goOn p (.rollingBack req id i text))
  | written {req : GenerateKeyRequest} {id : String} {i : Nat} {file : Sealed} {held : HeldKey}
      (here : w.heap[i]? = some held) :
      Resumed p w (.writing req id i file)
        ({ w with files := w.files.put (sanitizeHandle id) file }.answer p (.generateKey req)
          held.key (.ok (.generated id held.key.algorithm)))
  | writeFailed {req : GenerateKeyRequest} {id : String} {i : Nat} {file : Sealed} (text : String) :
      Resumed p w (.writing req id i file) (w.goOn p (.rollingBack req id i text))
  | rolledBack {req : GenerateKeyRequest} {id : String} {i : Nat} {text : String} :
      Resumed p w (.rollingBack req id i text)
        (((w.setServer p fun srv => { srv with keys := srv.keys.drop id }).destroy
          (· = i)).answer p (.generateKey req) none (.error ⟨.internal, "persist key: " ++ text⟩))
  | signed {req : SignRequest} {i : Nat} {held : HeldKey} (here : w.heap[i]? = some held)
      (alive : held.destroyed = false) :
      Resumed p w (.signing req i) (w.answer p (.sign req) held.key (.ok (.signature req.digest
        (mustHashForIntent req.hash) (paddingFromProto req.rsaPadding))))
  | signFailed {req : SignRequest} {i : Nat} {held : HeldKey} (here : w.heap[i]? = some held)
      (text : String) :
      Resumed p w (.signing req i)
        (w.answer p (.sign req) held.key (.error ⟨.internal, "sign: " ++ text⟩))
  | destroyed {handle : String} {i : Nat} :
      Resumed p w (.destroying handle i) ((w.destroy (· = i)).goOn p (.removing handle i))
  | removed {handle : String} {i : Nat} {held : HeldKey} (here : w.heap[i]? = some held) :
      Resumed p w (.removing handle i)
        ({ w with files := w.files.drop (sanitizeHandle handle) }.answer p (.destroyKey handle)
          held.key (.ok .destroyed))
  | removeFailed {handle : String} {i : Nat} {held : HeldKey} (here : w.heap[i]? = some held)
      (text : String) :
      Resumed p w (.removing handle i) (w.answer p (.destroyKey handle) held.key
        (.error ⟨.internal, "remove persisted key: " ++ text⟩))

theorem HeldKey.use_ok {held : HeldKey} {out : Except String Unit} {u : Unit}
    (used : held.use out = .ok u) : held.destroyed = false := by
  unfold HeldKey.use at used
  split at used
  case isTrue =>
    split at used <;> cases used
  case isFalse alive => exact Bool.eq_false_of_not_eq_true alive

theorem resume_cases {out : Except String Unit} {call : Call}
    (woke : resume p out call w = some w') : Resumed p w call w' := by
  cases call with
  | sealing req id i =>
    obtain ⟨held, here, result⟩ := map_eq_some_iff.mp woke
    split at result <;> cases result
    case h_1 text _ => exact .sealFailed text
    case h_2 used => exact .sealed here (HeldKey.use_ok used)
  | writing req id i file =>
    obtain ⟨held, here, result⟩ := map_eq_some_iff.mp woke
    cases out <;> cases result
    · exact .writeFailed _
    · exact .written here
  | rollingBack req id i text =>
    cases woke
    exact .rolledBack
  | signing req i =>
    obtain ⟨held, here, rfl⟩ := map_eq_some_iff.mp woke
    cases used : held.use out with
    | error text => exact .signFailed here text
    | ok _ => exact .signed here (HeldKey.use_ok used)
  | destroying hd i =>
    cases woke
    exact .destroyed
  | removing hd i =>
    obtain ⟨held, here, result⟩ := map_eq_some_iff.mp woke
    cases out <;> cases result
    · exact .removeFailed here _
    · exact .removed here

inductive Step (f : KeyFormats) (w : World) : Action → World → Prop
  | start (authorizer : Option SignAuthorizer) :
      Step f w (.start authorizer) { w with servers := w.servers ++
        [{ authorizer := authorizer, phase := .booting (w.files.map Prod.fst) }] }
  | booted {p : Nat} {srv : Server} {stems : List String} {outcome : Except String Unit}
      {phase : Phase} (server : w.servers[p]? = some srv) (booting : srv.phase = .booting stems)
      (ended : phase = .serving ∨ phase = .gone) : Step f w (.load p outcome) (w.setPhase p phase)
  | loaded {p : Nat} {srv : Server} {stem : String} {rest : List String}
      {outcome : Except String Unit} {sealed : Sealed} {key : SigningKey} {kc : KeyConstraints}
      (server : w.servers[p]? = some srv) (booting : srv.phase = .booting (stem :: rest))
      (file : w.files.get stem = some sealed) (read : loadFile f stem sealed = .ok (key, kc)) :
      Step f w (.load p outcome)
        ((w.hold stem { owner := p, key := key, constraints := kc }).setPhase p (.booting rest))
  | exit (p : Nat) : Step f w (.exit p) { w.setPhase p .gone with
      inFlight := w.inFlight.filter fun t => t.process ≠ p }
  | shutdown {p : Nat} {srv : Server} (serving : w.serving p = some srv) :
      Step f w (.shutdown p) (shutdown p srv w)
  | authorize (a : SignAuthorizer) (intent : SignIntent) :
      Step f w (.authorize a intent) { w with minted := w.minted ++ [(a, intent)] }
  | refused {p : Nat} {a : Action} (request : Request) (status : Status) :
      Step f w a (w.answer p request none (.error status))
  | created {p : Nat} {srv : Server} {req : GenerateKeyRequest} {draw : Draw} {id : String}
      {key : SigningKey} {kc : KeyConstraints} (serving : w.serving p = some srv)
      (possible : draw.possible f req w) (prepared : Prepared srv req draw id key kc)
      (offMap : srv.keys.get id = none) :
      Step f w (.generateKey p req draw) (((w.create ⟨id, key, req⟩).hold id
        { owner := p, key := key, constraints := kc }).goOn p (.sealing req id w.heap.length))
  | published {p : Nat} {srv : Server} {handle : String} {i : Nat} {w₁ : World} {held : HeldKey}
      (serving : w.serving p = some srv) (found : Found f p srv handle w i w₁)
      (here : w₁.heap[i]? = some held) :
      Step f w (.getPublicKey p handle) (w₁.answer p (.getPublicKey handle) held.key
        (.ok (.publicKey held.key.algorithm)))
  | signRefused {p : Nat} {srv : Server} {req : SignRequest} {i : Nat} {w₁ : World}
      {held : HeldKey} {status : Status} (serving : w.serving p = some srv)
      (found : Found f p srv req.handle w i w₁) (here : w₁.heap[i]? = some held)
      (refusal : held.constraints.authorizes srv.authorizer req = .error status) :
      Step f w (.sign p req) (w₁.answer p (.sign req) held.key (.error status))
  | signing {p : Nat} {srv : Server} {req : SignRequest} {i : Nat} {w₁ : World} {held : HeldKey}
      (serving : w.serving p = some srv) (valid : validateSignRequest req = .ok ())
      (fits : fitsMessage req.handle) (known : req.tokens.all w.knows)
      (found : Found f p srv req.handle w i w₁) (here : w₁.heap[i]? = some held)
      (passed : held.constraints.authorizes srv.authorizer req = .ok ()) :
      Step f w (.sign p req) (w₁.goOn p (.signing req i))
  | destroyAbsent {p : Nat} {srv : Server} {handle : String} (serving : w.serving p = some srv)
      (offMap : srv.keys.get handle = none) :
      Step f w (.destroyKey p handle) (w.answer p (.destroyKey handle) (w.named f srv handle)
        (.ok .destroyed))
  | destroying {p : Nat} {srv : Server} {handle : String} {i : Nat}
      (serving : w.serving p = some srv) (onMap : srv.keys.get handle = some i) :
      Step f w (.destroyKey p handle)
        ((w.setServer p fun srv => { srv with keys := srv.keys.drop handle }).goOn p
          (.destroying handle i))
  | proceed {i : Nat} {outcome : Except String Unit} {t : InFlight} {w' : World}
      (inFlight : w.inFlight[i]? = some t)
      (resumed : Resumed t.process { w with inFlight := w.inFlight.eraseIdx i } t.call w') :
      Step f w (.proceed i outcome) w'

theorem loadNext_cases {stems : List String} (out : Except String Unit)
    (server : w.servers[p]? = some srv) (boot : srv.phase = .booting stems) :
    Step f w (.load p out) (loadNext f p stems out w) := by
  unfold loadNext
  split
  case h_1 => exact .booted server boot (.inl rfl)
  case h_2 stem rest =>
    split
    case h_1 sealed file =>
      split
      case h_1 key kc read => exact .loaded server boot file read
      case h_2 => exact .booted server boot (.inr rfl)
    case h_2 => exact .booted server boot (.inr rfl)

theorem step_cases {a : Action} (moved : step f w a = some w') : Step f w a w' := by
  cases a with
  | start auth =>
    cases moved
    exact .start auth
  | load p out =>
    dsimp only [step] at moved
    split at moved
    case h_1 keys auth stems server =>
      cases moved
      exact loadNext_cases out server rfl
    case h_2 => cases moved
  | exit p =>
    cases moved
    exact .exit p
  | shutdown p =>
    obtain ⟨srv, live, rfl⟩ := map_eq_some_iff.mp moved
    exact .shutdown live
  | authorize a intent =>
    cases moved
    exact .authorize a intent
  | generateKey p req draw =>
    obtain ⟨guarded, moved⟩ := ite_none_right_eq_some.mp moved
    obtain ⟨-, possible⟩ := Bool.and_eq_true_iff.mp guarded
    obtain ⟨srv, live, rfl⟩ := map_eq_some_iff.mp moved
    unfold generateKey
    split
    case h_1 status _ => exact .refused _ status
    case h_2 id key kc prepared =>
      split
      case isTrue => exact .refused _ _
      case isFalse absent =>
        exact .created live possible (prepareKey_ok prepared) (not_isSome_iff_eq_none.mp absent)
  | getPublicKey p hd =>
    obtain ⟨-, moved⟩ := ite_none_right_eq_some.mp moved
    obtain ⟨srv, live, answered⟩ := bind_eq_some_iff.mp moved
    unfold getPublicKey at answered
    split at answered
    case h_1 status _ =>
      cases answered
      exact .refused _ status
    case h_2 i w₁ looked =>
      obtain ⟨held, here, rfl⟩ := map_eq_some_iff.mp answered
      exact .published live (lookup_ok looked).2 here
  | sign p req =>
    obtain ⟨guarded, moved⟩ := ite_none_right_eq_some.mp moved
    obtain ⟨fits, known⟩ := Bool.and_eq_true_iff.mp guarded
    obtain ⟨srv, live, answered⟩ := bind_eq_some_iff.mp moved
    unfold sign at answered
    split at answered
    case h_1 status _ =>
      cases answered
      exact .refused _ status
    case h_2 valid =>
      split at answered
      case h_1 status _ =>
        cases answered
        exact .refused _ status
      case h_2 i w₁ looked =>
        obtain ⟨held, here, rfl⟩ := map_eq_some_iff.mp answered
        split
        case h_1 status refusal =>
          exact .signRefused live (lookup_ok looked).2 here refusal
        case h_2 passed =>
          exact .signing live valid fits known (lookup_ok looked).2 here passed
  | destroyKey p hd =>
    obtain ⟨-, moved⟩ := ite_none_right_eq_some.mp moved
    obtain ⟨srv, live, rfl⟩ := map_eq_some_iff.mp moved
    unfold destroyKey
    split
    case isTrue => exact .refused _ _
    case isFalse =>
      split
      case h_1 offMap => exact .destroyAbsent live offMap
      case h_2 i onMap => exact .destroying live onMap
  | proceed i out =>
    obtain ⟨t, going, woke⟩ := bind_eq_some_iff.mp moved
    exact .proceed going (resume_cases woke)

/-! ## What no step takes away -/

/-- An object after some steps: the same key under the same constraints, at most zeroized. -/
structure HeldKey.Kept (held held' : HeldKey) : Prop where
  owner : held'.owner = held.owner
  key : held'.key = held.key
  constraints : held'.constraints = held.constraints
  destroyed : held.destroyed → held'.destroyed

theorem HeldKey.Kept.refl (held : HeldKey) : held.Kept held := ⟨rfl, rfl, rfl, id⟩

/-- Nothing that was created, authorized, started or held is forgotten. -/
structure Grows (w w' : World) : Prop where
  created : w.created ⊆ w'.created
  minted : w.minted ⊆ w'.minted
  servers : ∀ (p : Nat) (srv : Server), w.servers[p]? = some srv →
    ∃ srv' : Server, w'.servers[p]? = some srv' ∧ srv'.authorizer = srv.authorizer
  heap : ∀ (i : Nat) (held : HeldKey), w.heap[i]? = some held →
    ∃ held', w'.heap[i]? = some held' ∧ held.Kept held'

namespace Grows

variable {w w₁ w₂ : World}

theorem of_eq (same : (w₁.created, w₁.minted, w₁.servers, w₁.heap) =
    (w.created, w.minted, w.servers, w.heap)) : Grows w w₁ := by
  simp only [Prod.mk.injEq] at same
  obtain ⟨made, minted, servers, heap⟩ := same
  refine ⟨made ▸ List.Subset.refl _, minted ▸ List.Subset.refl _, ?_, ?_⟩
  · intro p srv hit
    exact ⟨srv, servers ▸ hit, rfl⟩
  · intro i held hit
    exact ⟨held, heap ▸ hit, .refl held⟩

theorem trans (first : Grows w w₁) (second : Grows w₁ w₂) : Grows w w₂ := by
  refine ⟨List.Subset.trans first.created second.created,
    List.Subset.trans first.minted second.minted, ?_, ?_⟩
  · intro p srv hit
    obtain ⟨srv₁, found₁, same₁⟩ := first.servers p srv hit
    obtain ⟨srv₂, found₂, same₂⟩ := second.servers p srv₁ found₁
    exact ⟨srv₂, found₂, same₂.trans same₁⟩
  · intro i held hit
    obtain ⟨held₁, found₁, kept₁⟩ := first.heap i held hit
    obtain ⟨held₂, found₂, kept₂⟩ := second.heap i held₁ found₁
    refine ⟨held₂, found₂, kept₂.owner.trans kept₁.owner, kept₂.key.trans kept₁.key,
      kept₂.constraints.trans kept₁.constraints, ?_⟩
    exact fun destroyed => kept₂.destroyed (kept₁.destroyed destroyed)

theorem answer (w : World) (p : Nat) (req : Request) (key : Option SigningKey)
    (result : Except Status Reply) : Grows w (w.answer p req key result) :=
  of_eq rfl

theorem goOn (w : World) (p : Nat) (call : Call) : Grows w (w.goOn p call) := of_eq rfl

theorem setServer (w : World) (p : Nat) {g : Server → Server}
    (keeps : ∀ srv, (g srv).authorizer = srv.authorizer) : Grows w (w.setServer p g) := by
  refine ⟨.refl _, .refl _, ?_, fun i held hit => ⟨held, hit, .refl held⟩⟩
  intro q srv hit
  refine ⟨if p = q then g srv else srv, ?_, ?_⟩
  · rw [World.setServer, List.getElem?_modify, hit]
    rfl
  · split
    case isTrue => exact keeps srv
    case isFalse => rfl

theorem create (w : World) (c : Created) : Grows w (w.create c) :=
  ⟨List.subset_append_left _ _, .refl _, fun _ srv hit => ⟨srv, hit, rfl⟩,
    fun _ held hit => ⟨held, hit, .refl held⟩⟩

theorem hold (w : World) (hd : String) (held : HeldKey) : Grows w (w.hold hd held) := by
  suffices longer : Grows w { w with heap := w.heap ++ [held] } from
    longer.trans (setServer _ _ fun _ => rfl)
  refine ⟨.refl _, .refl _, fun p srv hit => ⟨srv, hit, rfl⟩, ?_⟩
  intro i old hit
  have lt : i < w.heap.length := (List.getElem?_eq_some_iff.mp hit).1
  exact ⟨old, (List.getElem?_append_left lt).trans hit, .refl old⟩

theorem destroy (w : World) (place : Nat → Bool) : Grows w (w.destroy place) := by
  refine ⟨.refl _, .refl _, fun p srv hit => ⟨srv, hit, rfl⟩, ?_⟩
  intro i held hit
  refine ⟨if place i then { held with destroyed := true } else held, ?_, ?_⟩
  · rw [World.destroy, List.getElem?_mapIdx, hit]
    rfl
  · split
    case isTrue => exact ⟨rfl, rfl, rfl, fun _ => rfl⟩
    case isFalse => exact .refl held

end Grows

theorem Found.grows {hd : String} {i : Nat} (hit : Found f p srv hd w i w') : Grows w w' := by
  cases hit with
  | cached => exact .of_eq rfl
  | loaded => exact .hold ..

theorem Resumed.grows {call : Call} (woke : Resumed p w call w') : Grows w w' := by
  cases woke with
  | rolledBack =>
    refine Grows.trans ?_ (.answer ..)
    refine Grows.trans ?_ (.destroy ..)
    exact .setServer w p fun _ => rfl
  | destroyed => exact (Grows.destroy w _).trans (.goOn ..)
  | _ => exact .of_eq rfl

theorem Step.grows {a : Action} (moved : Step f w a w') : Grows w w' := by
  cases moved with
  | start auth =>
    refine ⟨.refl _, .refl _, ?_, fun i held hit => ⟨held, hit, .refl held⟩⟩
    intro p srv hit
    have lt : p < w.servers.length := (List.getElem?_eq_some_iff.mp hit).1
    exact ⟨srv, (List.getElem?_append_left lt).trans hit, rfl⟩
  | booted => exact .setServer w _ fun _ => rfl
  | loaded => exact (Grows.hold w ..).trans (.setServer _ _ fun _ => rfl)
  | exit p =>
    suffices ended : Grows w (w.setPhase p .gone) from ended.trans (.of_eq rfl)
    exact .setServer w p fun _ => rfl
  | shutdown => exact (Grows.destroy w _).trans (.setServer _ _ fun _ => rfl)
  | authorize =>
    exact ⟨.refl _, List.subset_append_left _ _, fun p srv hit => ⟨srv, hit, rfl⟩,
      fun i held hit => ⟨held, hit, .refl held⟩⟩
  | refused | destroyAbsent => exact .answer ..
  | created => exact ((Grows.create w _).trans (.hold ..)).trans (.goOn ..)
  | published live hit | signRefused live hit => exact hit.grows.trans (.answer ..)
  | signing live valid fits known hit => exact hit.grows.trans (.goOn ..)
  | destroying =>
    refine Grows.trans ?_ (.goOn ..)
    exact .setServer w _ fun _ => rfl
  | proceed going woke =>
    refine Grows.trans ?_ woke.grows
    exact .of_eq rfl

end Trustctl.Signing
