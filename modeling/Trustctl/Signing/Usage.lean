import Trustctl.Signing.Steps

/-!
# Usage constraints across restarts

A key is created with the purposes and hashes its request lists, and dual-control or not.
`Created.Permits` is what these demand of a signature, in terms of the two requests alone;
`UsageKept` says that every signature met the demands, that no request that meets them was
refused for its use of the key, and that the sealed header gives the constraints back.

* `usage_kept` : it holds in every run in which the values that `GenerateKey` is given fit
  into one byte.
* `purpose_changed_by_restart` : it fails without that, because the header keeps the low byte
  of each value only.
-/

namespace Trustctl.Signing

open List Systems

/-- The verifier a process was started with. -/
def World.authorizer (w : World) (p : Nat) : Option SignAuthorizer :=
  (w.servers[p]?).bind Server.authorizer

def Created.constraints (c : Created) : KeyConstraints where
  purposes := .of c.request.allowedPurposes
  hashes := .of c.request.allowedHashes
  requireAuth := c.request.dualControl

/-- The demands a created key makes of a signature at a process: a purpose and a hash it was
created for, if any were given, and for a dual-control key a token that the authorizer gave
for exactly this operation. -/
structure Created.Permits (c : Created) (w : World) (p : Nat) (req : SignRequest) : Prop where
  purpose : c.request.allowedPurposes ≠ [] → req.purpose ∈ c.request.allowedPurposes
  hash : c.request.allowedHashes ≠ [] → req.hash ∈ c.request.allowedHashes
  token : c.request.dualControl → ∃ a, w.authorizer p = some a ∧
    req.token = a.authorize (intentFor req) ∧ (a, intentFor req) ∈ w.minted

/-- The refusals that are about the use of the key. -/
def Status.aboutUsage (s : Status) : Bool :=
  s.code = .failedPrecondition || s.code = .permissionDenied

structure UsageKept (w : World) : Prop where
  /-- A signature is made with a created key, and meets its demands. -/
  signed : ∀ a ∈ w.answers, ∀ req reply, a.request = .sign req → a.result = .ok reply →
    (∃ c ∈ w.created, a.key = some c.key) ∧
      ∀ c ∈ w.created, a.key = some c.key → c.Permits w a.process req
  /-- A request refused for its use of the key does not meet its demands. -/
  refused : ∀ a ∈ w.answers, ∀ req status, a.request = .sign req → a.result = .error status →
    status.aboutUsage → ∀ c ∈ w.created, a.key = some c.key → ¬ c.Permits w a.process req
  /-- The header gives back the constraints, the algorithm and the bytes behind it. -/
  header : ∀ c ∈ w.created, ∀ bytes : List Byte, ∃ kc,
    decodeConstraintMeta (encodeConstraintMeta c.constraints
      (algorithmToProto c.key.algorithm) ++ bytes) =
      .ok (kc, algorithmToProto c.key.algorithm, bytes) ∧ kc.Same c.constraints

/-- The values fit into the bytes of the header. -/
def GenerateKeyRequest.fitsHeader (req : GenerateKeyRequest) : Bool :=
  (req.allowedPurposes ++ req.allowedHashes).all fun v => v.toNat < 256

/-- A key is only created with such values. -/
def Action.fitsHeader : Action → Bool
  | .generateKey _ req _ => req.fitsHeader
  | _ => true

/-! ## Permission in terms of the checks -/

/-- A created key that can be stored. -/
structure Created.Sound (c : Created) : Prop where
  purposes : c.constraints.purposes.Storable
  hashes : c.constraints.hashes.Storable

theorem Created.keys_eq_nil {vs : List Enum} : (KeySet.of vs).keys = [] ↔ vs = [] := by
  rw [eq_nil_iff_forall_not_mem, eq_nil_iff_forall_not_mem]
  simp

variable {w : World} {p : Nat} {req : SignRequest} {c : Created}

/-- A request that meets the demands passes the checks. -/
theorem Created.Permits.passes (sound : c.Sound) (lets : c.Permits w p req) :
    c.constraints.Passes (w.authorizer p) req := by
  have purpose : c.constraints.purposes.keys = [] ∨ req.purpose ∈ c.constraints.purposes.keys := by
    by_cases unconstrained : c.request.allowedPurposes = []
    · exact .inl (Created.keys_eq_nil.mpr unconstrained)
    · exact .inr (KeySet.mem_of.mpr (lets.purpose unconstrained))
  refine ⟨purpose.imp_right fun listed => (sound.purposes _ listed).1, purpose, ?_, ?_⟩
  · by_cases unconstrained : c.request.allowedHashes = []
    · exact .inl (Created.keys_eq_nil.mpr unconstrained)
    · exact .inr (KeySet.mem_of.mpr (lets.hash unconstrained))
  · intro dual
    obtain ⟨a, verifier, token, -⟩ := lets.token dual
    exact ⟨a, verifier, token⟩

theorem SignAuthorizer.eq_of_key {a b : SignAuthorizer} (same : a.key = b.key) : a = b := by
  cases b
  cases same
  rfl

/-- The canonical bytes of a request the signer accepts are far from wrapping. -/
theorem length_canonicalBytes (fits : fitsMessage req.handle)
    (valid : validateSignRequest req = .ok ()) :
    (intentFor req).canonicalBytes.length < 2 ^ 32 := by
  have hd : (utf8 req.handle).length ≤ 1048576 := of_decide_eq_true fits
  have digest : req.digest.length ≤ 64 := by
    simp only [validateSignRequest, bind_ok, demand_eq_ok] at valid
    obtain ⟨-, -, -, -, -, short, -⟩ := valid
    exact short
  have hash : (utf8 (mustHashForIntent req.hash)).length = 7 := by
    unfold mustHashForIntent hashFromProto
    split
    case h_1 hash wanted accepted =>
      split at accepted <;> cases accepted <;> rfl
    case h_2 => rfl
  have padding : (utf8 (paddingFromProto req.rsaPadding)).length ≤ 8 := by
    unfold paddingFromProto
    split <;> decide
  have dom : signIntentDomain.length = 23 := rfl
  simp only [SignIntent.canonicalBytes, intentFor, length_append, length_framed, length_be32, dom]
  omega

/-- A presented token that verifies was given for exactly the request. -/
theorem minted_of_known {a : SignAuthorizer} (known : req.tokens.all w.knows)
    (fits : fitsMessage req.handle) (valid : validateSignRequest req = .ok ())
    (token : req.token = a.authorize (intentFor req)) :
    (a, intentFor req) ∈ w.minted := by
  have presented : a.authorize (intentFor req) ∈ req.tokens := by
    unfold SignRequest.token at token
    cases tokens : req.tokens with
    | nil =>
      rw [tokens] at token
      cases token
    | cons first rest =>
      rw [tokens] at token
      cases token
      exact mem_cons_self
  obtain ⟨⟨b, intent⟩, given, agrees⟩ :=
    any_eq_true.mp (all_eq_true.mp known _ presented)
  simp only [Bool.and_eq_true, decide_eq_true_eq] at agrees
  obtain ⟨secret, bytes⟩ := agrees
  cases SignAuthorizer.eq_of_key secret
  cases canonicalBytes_inj bytes (length_canonicalBytes fits valid)
  exact given

/-! ## The invariant -/

/-- The object holds the created key under its constraints. -/
structure Created.HeldAs (c : Created) (held : HeldKey) : Prop where
  key : held.key = c.key
  same : held.constraints.Same c.constraints

def Created.StoredAs (c : Created) (stem : String) (file : Sealed) : Prop :=
  ∃ kc : KeyConstraints, file = sealKey stem c.key kc ∧ kc.Same c.constraints

/-- What a call in flight goes on with is a created key under its constraints. -/
def Call.Backed (w : World) (p : Nat) : Call → Prop
  | .writing _ id _ file => ∃ c ∈ w.created, c.StoredAs (sanitizeHandle id) file
  | .signing req i => ∃ c ∈ w.created, ∃ held srv, w.heap[i]? = some held ∧
      held.key = c.key ∧ w.servers[p]? = some srv ∧ c.Permits w p req
  | _ => True

structure Answer.Backed (w : World) (a : Answer) : Prop where
  signed : ∀ req reply, a.request = .sign req → a.result = .ok reply →
    ∃ c ∈ w.created, ∃ srv, a.key = some c.key ∧ w.servers[a.process]? = some srv ∧
      c.Permits w a.process req
  refused : ∀ req status, a.request = .sign req → a.result = .error status →
    status.aboutUsage → ∀ key, a.key = some key →
      ∃ c ∈ w.created, ∃ srv : Server, key = c.key ∧ w.servers[a.process]? = some srv ∧
        ¬ c.constraints.Passes srv.authorizer req

/-- Whatever is held, stored, in flight or answered goes back to a created key. -/
structure Bound (w : World) : Prop where
  created : ∀ c ∈ w.created, c.Sound
  distinct : (w.created.map fun c => c.key.bytes).Nodup
  held : ∀ held ∈ w.heap, ∃ c ∈ w.created, c.HeldAs held
  files : ∀ e ∈ w.files, ∃ c ∈ w.created, c.StoredAs e.1 e.2
  inFlight : ∀ t ∈ w.inFlight, t.call.Backed w t.process
  answers : ∀ a ∈ w.answers, a.Backed w

section Growth

variable {w w' : World} (grows : Grows w w')

include grows

variable {p : Nat} {srv : Server}

theorem Grows.authorizer (server : w.servers[p]? = some srv) :
    w'.authorizer p = w.authorizer p := by
  obtain ⟨srv', server', same⟩ := grows.servers p srv server
  rw [World.authorizer, World.authorizer, server, server']
  exact same

theorem Created.Permits.grow {req : SignRequest}
    (lets : c.Permits w p req) (server : w.servers[p]? = some srv) : c.Permits w' p req := by
  refine ⟨lets.purpose, lets.hash, ?_⟩
  intro dual
  obtain ⟨a, verifier, token, given⟩ := lets.token dual
  exact ⟨a, (grows.authorizer server).trans verifier, token, grows.minted given⟩

variable {call : Call}

theorem Call.Backed.grow (backed : call.Backed w p) : call.Backed w' p := by
  cases call with
  | writing req id i file =>
    obtain ⟨c, made, stored⟩ := backed
    exact ⟨c, grows.created made, stored⟩
  | signing req i =>
    obtain ⟨c, made, held, srv, here, key, server, lets⟩ := backed
    obtain ⟨held', here', kept⟩ := grows.heap i held here
    obtain ⟨srv', server', -⟩ := grows.servers p srv server
    exact ⟨c, grows.created made, held', srv', here', kept.key.trans key, server',
      lets.grow grows server⟩
  | _ => trivial

theorem Answer.Backed.grow {a : Answer} (backed : a.Backed w) : a.Backed w' := by
  constructor
  · intro req reply request result
    obtain ⟨c, made, srv, key, server, lets⟩ := backed.signed req reply request result
    obtain ⟨srv', server', -⟩ := grows.servers _ srv server
    exact ⟨c, grows.created made, srv', key, server', lets.grow grows server⟩
  · intro req status request result usage key named
    obtain ⟨c, made, srv, same, server, fails⟩ :=
      backed.refused req status request result usage key named
    obtain ⟨srv', server', verifier⟩ := grows.servers _ srv server
    exact ⟨c, grows.created made, srv', same, server', verifier ▸ fails⟩

/-- A step keeps the invariant if what it adds goes back to a created key. -/
theorem Bound.grow (bound : Bound w) (sound : ∀ c ∈ w'.created, c.Sound)
    (ne : (w'.created.map fun c => c.key.bytes).Nodup)
    (held : ∀ held ∈ w'.heap, ∃ c ∈ w'.created, c.HeldAs held)
    (files : ∀ e ∈ w'.files, e ∈ w.files ∨ ∃ c ∈ w.created, c.StoredAs e.1 e.2)
    (going : ∀ t ∈ w'.inFlight, t ∈ w.inFlight ∨ t.call.Backed w' t.process)
    (ans : ∀ a ∈ w'.answers, a ∈ w.answers ∨ a.Backed w') : Bound w' := by
  refine ⟨sound, ne, held, ?_, ?_, ?_⟩
  · intro e mem
    obtain ⟨c, made, kept⟩ := (files e mem).elim (bound.files e) id
    exact ⟨c, grows.created made, kept⟩
  · intro t mem
    exact (going t mem).elim (fun old => (bound.inFlight t old).grow grows) id
  · intro a mem
    exact (ans a mem).elim (fun old => (bound.answers a old).grow grows) id

/-- The case of a step that creates no key and loads none. -/
theorem Bound.keep (bound : Bound w) (made : w'.created = w.created) (heap : w'.heap = w.heap)
    (files : ∀ e ∈ w'.files, e ∈ w.files ∨ ∃ c ∈ w.created, c.StoredAs e.1 e.2)
    (going : ∀ t ∈ w'.inFlight, t ∈ w.inFlight ∨ t.call.Backed w' t.process)
    (ans : ∀ a ∈ w'.answers, a ∈ w.answers ∨ a.Backed w') : Bound w' := by
  refine bound.grow grows (made ▸ bound.created) (made ▸ bound.distinct) ?_ files going ans
  rw [heap, made]
  exact bound.held

end Growth

/-! ## The invariant is kept -/

section Updates

variable {w : World}

variable {p : Nat}

section Requests

variable (bound : Bound w)

include bound

theorem Bound.answer {req : Request} {key : Option SigningKey} {result : Except Status Reply}
    (backed : Answer.Backed w ⟨p, req, key, w.servers.length, result⟩) :
    Bound (w.answer p req key result) := by
  have grows : Grows w (w.answer p req key result) := .answer ..
  refine bound.keep grows rfl rfl (fun _ => .inl) (fun _ => .inl) ?_
  refine forall_mem_snoc (fun _ => .inl) ?_
  exact .inr (backed.grow grows)

theorem Bound.goOn {call : Call} (backed : call.Backed w p) : Bound (w.goOn p call) := by
  have grows : Grows w (w.goOn p call) := .goOn ..
  refine bound.keep grows rfl rfl (fun _ => .inl) ?_ (fun _ => .inl)
  refine forall_mem_snoc (fun _ => .inl) ?_
  exact .inr (backed.grow grows)

theorem Bound.setServer (p : Nat) {g : Server → Server}
    (keeps : ∀ srv, (g srv).authorizer = srv.authorizer) : Bound (w.setServer p g) :=
  bound.keep (.setServer w p keeps) rfl rfl (fun _ => .inl) (fun _ => .inl) (fun _ => .inl)

theorem Bound.hold (hd : String) {held : HeldKey} (back : ∃ c ∈ w.created, c.HeldAs held) :
    Bound (w.hold hd held) := by
  refine bound.grow (.hold ..) bound.created bound.distinct ?_ (fun _ => .inl)
    (fun _ => .inl) (fun _ => .inl)
  refine forall_mem_snoc bound.held ?_
  exact back

theorem Bound.destroy (place : Nat → Bool) : Bound (w.destroy place) := by
  refine bound.grow (.destroy ..) bound.created bound.distinct ?_ (fun _ => .inl)
    (fun _ => .inl) (fun _ => .inl)
  intro o mem
  obtain ⟨i, lt, rfl⟩ := mem_mapIdx.mp mem
  obtain ⟨c, made, same⟩ := bound.held _ (getElem_mem lt)
  refine ⟨c, made, ?_⟩
  split
  case isTrue => exact ⟨same.key, same.same⟩
  case isFalse => exact same

theorem Bound.create (sound : c.Sound) (fresh : ∀ old ∈ w.created, old.key.bytes ≠ c.key.bytes) :
    Bound (w.create c) := by
  refine bound.grow (.create ..) ?_ ?_ ?_ (fun _ => .inl) (fun _ => .inl) (fun _ => .inl)
  · refine forall_mem_snoc bound.created ?_
    exact sound
  · rw [World.create, map_append]
    refine nodup_append.mpr ⟨bound.distinct, nodup_singleton _, ?_⟩
    intro bytes old bytes' new
    obtain ⟨other, mem, rfl⟩ := mem_map.mp old
    cases mem_singleton.mp new
    exact fresh other mem
  · intro held mem
    obtain ⟨other, made, same⟩ := bound.held held mem
    exact ⟨other, mem_append_left _ made, same⟩

theorem Bound.withFiles {files : Table String Sealed}
    (back : ∀ e ∈ files, e ∈ w.files ∨ ∃ c ∈ w.created, c.StoredAs e.1 e.2) :
    Bound { w with files := files } := by
  have grows : Grows w { w with files := files } := .of_eq rfl
  exact bound.keep grows rfl rfl back (fun _ => .inl) (fun _ => .inl)

theorem Bound.withInFlight {inFlight : List InFlight} (fewer : inFlight ⊆ w.inFlight) :
    Bound { w with inFlight := inFlight } := by
  have grows : Grows w { w with inFlight := inFlight } := .of_eq rfl
  exact bound.keep grows rfl rfl (fun _ => .inl) (fun _ mem => .inl (fewer mem)) (fun _ => .inl)

variable {f : KeyFormats} {kc : KeyConstraints} {key : SigningKey}

theorem Bound.loaded {stem : String} {sealed : Sealed} (file : w.files.get stem = some sealed)
    (read : loadFile f stem sealed = .ok (key, kc)) (p : Nat) :
    ∃ c ∈ w.created, c.HeldAs { owner := p, key := key, constraints := kc } := by
  obtain ⟨c, made, stored, content, same⟩ := bound.files _ (Table.mem_of_get file)
  have content : sealed = sealKey stem c.key stored := content
  subst content
  have sound := bound.created c made
  have purposes : stored.purposes.Storable := fun v mem =>
    sound.purposes v ((same.purposes v).mp mem)
  have hashes : stored.hashes.Storable := fun v mem =>
    sound.hashes v ((same.hashes v).mp mem)
  obtain ⟨rfl, readBack⟩ := eq_of_loadFile purposes hashes read
  exact ⟨c, made, rfl, readBack.trans same⟩

end Requests

theorem Found.bound {f : KeyFormats} {srv : Server} {hd : String} {w₁ : World} {i : Nat}
    (hit : Found f p srv hd w i w₁) (bound : Bound w) : Bound w₁ := by
  cases hit with
  | cached => exact bound
  | loaded offMap read =>
    obtain ⟨sealed, file, loaded⟩ := loadHandle_eq_some read
    exact bound.hold hd (bound.loaded file loaded p)

end Updates

variable {srv : Server}

theorem World.servers_of_serving (live : w.serving p = some srv) : w.servers[p]? = some srv := by
  unfold World.serving at live
  split at live
  case h_1 server =>
    split at live
    case h_1 =>
      cases live
      exact server
    case h_2 => cases live
  case h_2 => cases live

theorem World.authorizer_eq (server : w.servers[p]? = some srv) :
    w.authorizer p = srv.authorizer := by
  rw [World.authorizer, server]
  rfl

/-- A created key whose values fit the header can be stored. -/
theorem Prepared.sound {key : SigningKey} {kc : KeyConstraints} {req : GenerateKeyRequest}
    {draw : Draw} {id : String}
    (ready : Prepared srv req draw id key kc) (fits : req.fitsHeader) :
    Created.Sound ⟨id, key, req⟩ := by
  have small : ∀ v ∈ req.allowedPurposes ++ req.allowedHashes, v.toNat < 256 := by
    intro v mem
    exact of_decide_eq_true (all_eq_true.mp fits v mem)
  constructor
  · intro v mem
    have listed : v ∈ req.allowedPurposes := KeySet.mem_of.mp mem
    refine ⟨?_, small v (mem_append_left _ listed)⟩
    rintro rfl
    exact ready.purposes listed
  · intro v mem
    have listed : v ∈ req.allowedHashes := KeySet.mem_of.mp mem
    refine ⟨?_, small v (mem_append_right _ listed)⟩
    rintro rfl
    exact ready.hashes listed

theorem Prepared.fresh {key : SigningKey} {kc : KeyConstraints} {f : KeyFormats}
    {req : GenerateKeyRequest} {draw : Draw} {id : String}
    (ready : Prepared srv req draw id key kc) (fits : draw.possible f req w) :
    ∀ old ∈ w.created, old.key.bytes ≠ key.bytes := by
  unfold Draw.possible at fits
  rw [ready.bytes, ready.algorithm] at fits
  obtain ⟨-, fresh⟩ := Bool.and_eq_true_iff.mp fits
  intro old mem
  exact of_decide_eq_true (all_eq_true.mp fresh old mem)

theorem Answer.Backed.of_ne {a : Answer} (other : ∀ req, a.request ≠ .sign req) : a.Backed w :=
  ⟨fun req _ request => absurd request (other req), fun req _ request => absurd request (other req)⟩

theorem Answer.Backed.of_none {a : Answer} {status : Status} (result : a.result = .error status)
    (key : a.key = none) : a.Backed w := by
  constructor
  · intro req reply _ signed
    rw [result] at signed
    cases signed
  · intro req status' _ _ _ k named
    rw [key] at named
    cases named

theorem Resumed.bound {call : Call} {w' : World} (woke : Resumed p w call w') (bound : Bound w)
    (backed : call.Backed w p) : Bound w' := by
  cases woke with
  | sealed here alive =>
    obtain ⟨c, made, same⟩ := bound.held _ (mem_of_getElem? here)
    refine bound.goOn ⟨c, made, _, ?_, same.same⟩
    rw [same.key]
  | sealFailed | writeFailed => exact bound.goOn trivial
  | written here =>
    refine (bound.withFiles ?_).answer (.of_ne nofun)
    intro e mem
    rcases Table.mem_put.mp mem with rfl | ⟨old, -⟩
    · exact .inr backed
    · exact .inl old
  | rolledBack =>
    refine Bound.answer (Bound.destroy ?_ _) (.of_ne nofun)
    exact bound.setServer p fun _ => rfl
  | signed here alive =>
    obtain ⟨c, made, held, srv, here', key, server, lets⟩ := backed
    cases here.symm.trans here'
    refine bound.answer ⟨?_, nofun⟩
    intro req reply request _
    cases request
    exact ⟨c, made, srv, congrArg some key, server, lets⟩
  | signFailed here text =>
    refine bound.answer ⟨nofun, ?_⟩
    -- an internal error is not about the use of the key
    intro req status _ result usage
    cases result
    cases usage
  | destroyed => exact (bound.destroy _).goOn trivial
  | removed here =>
    refine (bound.withFiles ?_).answer (.of_ne nofun)
    intro e mem
    exact .inl (Table.mem_drop.mp mem).1
  | removeFailed => exact bound.answer (.of_ne nofun)

theorem Step.bound {f : KeyFormats} {w' : World} {a : Action} (moved : Step f w a w')
    (fits : a.fitsHeader) (bound : Bound w) : Bound w' := by
  have grows := moved.grows
  cases moved with
  | start | authorize =>
    exact bound.keep grows rfl rfl (fun _ => .inl) (fun _ => .inl) (fun _ => .inl)
  | booted => exact bound.setServer _ fun _ => rfl
  | loaded server boot file read =>
    exact (bound.hold _ (bound.loaded file read _)).setServer _ fun _ => rfl
  | exit p =>
    have ended : Bound (w.setPhase p .gone) := bound.setServer _ fun _ => rfl
    exact ended.withInFlight fun _ member => mem_of_mem_filter member
  | shutdown => exact (bound.destroy _).setServer _ fun _ => rfl
  | refused request status => exact bound.answer (.of_none rfl rfl)
  | @created p srv req draw id key kc serving possible prepared offMap =>
    have sound := prepared.sound fits
    refine ((bound.create sound (prepared.fresh possible)).hold id ?_).goOn trivial
    refine ⟨⟨id, key, req⟩, mem_append_right _ (mem_singleton.mpr rfl), rfl, ?_⟩
    rw [prepared.constraints]
    exact ⟨fun _ => .rfl, fun _ => .rfl, rfl⟩
  | published serving found here => exact (found.bound bound).answer (.of_ne nofun)
  | signRefused serving found here no =>
    have bound₁ := found.bound bound
    obtain ⟨c, created, same⟩ := bound₁.held _ (mem_of_getElem? here)
    obtain ⟨srv₁, server₁, verifier⟩ :=
      found.grows.servers _ _ (World.servers_of_serving serving)
    refine bound₁.answer ⟨nofun, ?_⟩
    intro req status request result usage key named
    cases request
    cases named
    refine ⟨c, created, srv₁, same.key, server₁, ?_⟩
    intro passes
    rw [verifier] at passes
    have pass := authorizes_iff.mpr (same.same.symm.passes passes)
    rw [no] at pass
    cases pass
  | signing serving valid short known found here pass =>
    have bound₁ := found.bound bound
    obtain ⟨c, created, same⟩ := bound₁.held _ (mem_of_getElem? here)
    obtain ⟨srv₁, server₁, verifier⟩ :=
      found.grows.servers _ _ (World.servers_of_serving serving)
    refine bound₁.goOn ⟨c, created, _, srv₁, here, same.key, server₁, ?_⟩
    have passes := same.same.passes (authorizes_iff.mp pass)
    refine ⟨?_, ?_, ?_⟩
    · intro cond
      refine KeySet.mem_of.mp (passes.purpose.resolve_left ?_)
      exact fun empty => cond (Created.keys_eq_nil.mp empty)
    · intro cond
      refine KeySet.mem_of.mp (passes.hash.resolve_left ?_)
      exact fun empty => cond (Created.keys_eq_nil.mp empty)
    · intro dual
      obtain ⟨a, configured, token⟩ := passes.token dual
      refine ⟨a, ?_, token, found.grows.minted (minted_of_known known short valid token)⟩
      rw [World.authorizer_eq server₁, verifier, configured]
  | destroyAbsent => exact bound.answer (.of_ne nofun)
  | destroying =>
    refine Bound.goOn ?_ trivial
    exact bound.setServer _ fun _ => rfl
  | @proceed i out t w' inFlight resumed =>
    have bound₀ := bound.withInFlight (eraseIdx_subset (k := i))
    refine resumed.bound bound₀ ?_
    refine (bound.inFlight t (mem_of_getElem? inFlight)).grow ?_
    exact .of_eq rfl

/-! ## Runs -/

theorem bound_init : Bound {} := by
  refine ⟨?_, nodup_nil, ?_, ?_, ?_, ?_⟩ <;> exact forall_mem_nil _

theorem Bound.created_unique (bound : Bound w) {c other : Created} (made : c ∈ w.created)
    (made' : other ∈ w.created) (same : other.key = c.key) :
    other = c :=
  inj_on_of_nodup_map bound.distinct made' made (congrArg SigningKey.bytes same)

theorem Bound.usageKept (bound : Bound w) : UsageKept w := by
  refine ⟨?_, ?_, ?_⟩
  · intro a mem req reply request result
    obtain ⟨c, made, srv, key, server, lets⟩ :=
      (bound.answers a mem).signed req reply request result
    refine ⟨⟨c, made, key⟩, ?_⟩
    intro other made' key'
    rw [key] at key'
    cases bound.created_unique made made' (Option.some.inj key').symm
    exact lets
  · intro a mem req status request result usage other made' key' lets
    obtain ⟨c, made, srv, key, server, fails⟩ :=
      (bound.answers a mem).refused req status request result usage _ key'
    cases bound.created_unique made made' key
    apply fails
    rw [← World.authorizer_eq server]
    exact lets.passes (bound.created _ made)
  · intro c made bytes
    have sound := bound.created c made
    exact decode_encode sound.purposes sound.hashes c.key.algorithm bytes

/-- The usage constraints of every key are kept, over any number of restarts and reloads by
other processes, in every run in which `GenerateKey` is only given values that fit into one
byte. -/
theorem usage_kept (f : KeyFormats) {as : List Action} {w : World}
    (run : Run (step f) (fun _ a => a.fitsHeader) {} as w) : UsageKept w := by
  refine Bound.usageKept (run.invariant ?_ bound_init)
  intro w a w' fits moved bound
  exact (step_cases moved).bound fits bound

/-- A library that takes any bytes for a key. -/
def anyBytes : KeyFormats := ⟨fun _ _ => .ok (), fun _ => .ok .ecdsaP256⟩

def keyFor (purpose : Enum) (requireAuth : List String) : GenerateKeyRequest where
  algorithm := 4
  requestedId := "code-signer"
  allowedPurposes := [purpose]
  requireAuth := requireAuth

def signFor (purpose : Enum) (tokens : List Token) : SignRequest where
  handle := "code-signer"
  digest := replicate 32 0
  hash := 1
  purpose := purpose
  tokens := tokens

/-- The key is created, the signer shut down and started again, and the key used. -/
def restarted (authorizer : Option SignAuthorizer) (created : GenerateKeyRequest)
    (used : SignRequest) : List Action :=
  [.start authorizer, .load 0 (.ok ()), .generateKey 0 created { key := .ok [7] },
    .proceed 0 (.ok ()), .proceed 0 (.ok ()), .shutdown 0, .exit 0, .start authorizer,
    .load 1 (.ok ()), .load 1 (.ok ()), .sign 1 used, .proceed 0 (.ok ())]

def approver : SignAuthorizer := ⟨replicate 16 1, by decide⟩

/-- A dual-control key for code signing is used after a restart. -/
theorem dual_control_kept_by_restart :
    ∃ w, execute (step anyBytes) {} (.authorize approver (intentFor (signFor 4 [])) ::
        restarted (some approver) (keyFor 4 ["1"])
          (signFor 4 [approver.authorize (intentFor (signFor 4 []))])) = some w ∧
      (w.answers.map fun a => a.result.isOk) = [true, true] ∧ UsageKept w := by
  have run : ∃ w, executeIf (step anyBytes) (fun _ a => a.fitsHeader) {}
      (.authorize approver (intentFor (signFor 4 [])) :: restarted (some approver)
        (keyFor 4 ["1"]) (signFor 4 [approver.authorize (intentFor (signFor 4 []))])) = some w ∧
      execute (step anyBytes) {} (.authorize approver (intentFor (signFor 4 [])) ::
        restarted (some approver) (keyFor 4 ["1"])
          (signFor 4 [approver.authorize (intentFor (signFor 4 []))])) = some w ∧
      (w.answers.map fun a => a.result.isOk) = [true, true] :=
    ⟨_, rfl, rfl, rfl⟩
  obtain ⟨w, cond, ran, answered⟩ := run
  exact ⟨w, ran, answered, usage_kept anyBytes (run_of_executeIf cond)⟩

/-- A key created for purpose 257 only signs for purpose 1, a CA signature, after a restart. -/
theorem purpose_changed_by_restart :
    ∃ w, execute (step anyBytes) {} (restarted none (keyFor 257 []) (signFor 1 [])) = some w ∧
      (w.answers.map fun a => a.result.isOk) = [true, true] ∧ ¬ UsageKept w := by
  refine ⟨_, rfl, rfl, ?_⟩
  intro kept
  obtain ⟨-, lets⟩ := kept.signed _ (mem_cons_of_mem _ mem_cons_self) _ _ rfl rfl
  have listed := (lets _ mem_cons_self rfl).purpose (cons_ne_nil _ _)
  revert listed
  decide

end Trustctl.Signing
