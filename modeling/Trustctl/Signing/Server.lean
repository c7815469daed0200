import Trustctl.Signing.KeyFile
import Trustctl.Systems.Run

/-!
# The signer

Any number of signer processes over one sealed key store, as a transition system.  What a
handler does under one hold of its mutex is one step, and so is each operation on a file or on
the locked key buffer, so the steps of concurrent calls interleave.  A process starts by
listing the store and reading the files one by one; its calls are served when it has read all
of them.

A held key is an object in the memory of a process that calls in flight go on pointing to
after it was taken off the map, so objects live in a heap and the maps hold their places in it.
-/

namespace Trustctl.Signing

open Systems

/-! ## State -/

/-- `heldKey`, in the memory of process `owner`. -/
structure HeldKey where
  owner : Nat
  key : SigningKey
  constraints : KeyConstraints
  destroyed : Bool := false

/-- What using a key comes to: the buffer of a destroyed key is gone. -/
def HeldKey.use (held : HeldKey) (outcome : Except String Unit) : Except String Unit :=
  if held.destroyed then
    match held.key.algorithm with
    | .mldsa44 | .mldsa65 | .mldsa87 => .error "pqc: signing key has been destroyed"
    | .slhdsa128s | .slhdsa128f | .slhdsa192s | .slhdsa256s =>
      .error "crypto: SLH-DSA key has been destroyed"
    | _ => .error "crypto: locked key has been destroyed"
  else outcome

inductive Phase
  /-- `NewPersistentServer` is loading; the stems still to be read. -/
  | booting (stems : List String)
  | serving
  | gone

/-- `Server`: the keys by handle, as places in the heap. -/
structure Server where
  keys : Table String Nat := []
  authorizer : Option SignAuthorizer
  phase : Phase

inductive Request
  | generateKey (req : GenerateKeyRequest)
  | getPublicKey (handle : String)
  | sign (req : SignRequest)
  | destroyKey (handle : String)

inductive Reply
  | generated (id : String) (algorithm : Algorithm)
  | publicKey (algorithm : Algorithm)
  | signature (digest : List Byte) (hash padding : String)
  | destroyed

/-- What a call in flight does next. -/
inductive Call
  /-- `GenerateKey` put the key on the map and exports its bytes. -/
  | sealing (req : GenerateKeyRequest) (id : String) (held : Nat)
  | writing (req : GenerateKeyRequest) (id : String) (held : Nat) (file : Sealed)
  | rollingBack (req : GenerateKeyRequest) (id : String) (held : Nat) (text : String)
  /-- `Sign` found the key and its checks passed. -/
  | signing (req : SignRequest) (held : Nat)
  /-- `DestroyKey` took the key off the map. -/
  | destroying (handle : String) (held : Nat)
  | removing (handle : String) (held : Nat)

structure InFlight where
  process : Nat
  call : Call

/-- An answer, with the key that the handle of the request named and the number of processes
started before it was given. -/
structure Answer where
  process : Nat
  request : Request
  key : Option SigningKey
  fleet : Nat
  result : Except Status Reply

/-- A key that `GenerateKey` put on a map. -/
structure Created where
  handle : String
  key : SigningKey
  request : GenerateKeyRequest

structure World where
  files : Table String Sealed := []
  servers : List Server := []
  heap : List HeldKey := []
  inFlight : List InFlight := []
  answers : List Answer := []
  created : List Created := []
  /-- The authorizations given, each with the authorizer that gave it. -/
  minted : List (SignAuthorizer × SignIntent) := []

namespace World

def answer (p : Nat) (request : Request) (key : Option SigningKey)
    (result : Except Status Reply) (w : World) : World :=
  { w with answers := w.answers ++ [⟨p, request, key, w.servers.length, result⟩] }

def setServer (p : Nat) (g : Server → Server) (w : World) : World :=
  { w with servers := w.servers.modify p g }

def setPhase (p : Nat) (phase : Phase) (w : World) : World :=
  w.setServer p fun srv => { srv with phase := phase }

/-- Put a new object on the map of its owner. -/
def hold (handle : String) (held : HeldKey) (w : World) : World :=
  { w with heap := w.heap ++ [held] }.setServer held.owner fun srv =>
    { srv with keys := srv.keys.put handle w.heap.length }

/-- Zeroize the objects at some places. -/
def destroy (place : Nat → Bool) (w : World) : World :=
  { w with heap := w.heap.mapIdx fun i held =>
      if place i then { held with destroyed := true } else held }

def create (c : Created) (w : World) : World := { w with created := w.created ++ [c] }

def goOn (p : Nat) (call : Call) (w : World) : World :=
  { w with inFlight := w.inFlight ++ [⟨p, call⟩] }

/-- The key a handle names at a server: the one on its map, or else the one in the store. -/
def named (f : KeyFormats) (srv : Server) (handle : String) (w : World) : Option SigningKey :=
  match srv.keys.get handle with
  | some i => w.heap[i]?.map HeldKey.key
  | none => ((loadHandle f w.files handle).toOption.join).map Prod.fst

end World

/-! ## The handlers -/

/-- What `GenerateKey` draws at random: the bytes of the key and those of a handle. -/
structure Draw where
  key : Except String (List Byte)
  id : Except String (List Byte) := .ok []

def hexDigit (n : Nat) : Char := ("0123456789abcdef".toList[n]?).getD '0'

def hexEncode (raw : List Byte) : String :=
  .ofList (raw.flatMap fun b => [hexDigit (b.toNat / 16), hexDigit (b.toNat % 16)])

def internalError {α : Type} (what : String) (result : Except String α) : Except Status α :=
  result.mapError fun text => Status.mk .internal (what ++ text)

/-- The handle of a new key: the requested one, or a random one. -/
def handleFor (req : GenerateKeyRequest) (draw : Draw) : Except Status String :=
  if req.requestedId = "" then internalError "generate handle: " (draw.id.map hexEncode)
  else .ok req.requestedId

/-- What `GenerateKey` does before it takes the mutex. -/
def prepareKey (srv : Server) (req : GenerateKeyRequest) (draw : Draw) :
    Except Status (String × SigningKey × KeyConstraints) := do
  let algorithm ← algorithmFromProto req.algorithm
  let kc ← constraintsFromGenerate req
  demand (req.dualControl = false ∨ srv.authorizer.isSome) ⟨.failedPrecondition,
    "dual-control key requested but this signer has no authorizer configured"⟩
  let bytes ← internalError "generate key: " draw.key
  let id ← handleFor req draw
  return (id, ⟨algorithm, bytes⟩, { kc with requireAuth := req.dualControl })

def generateKey (p : Nat) (srv : Server) (req : GenerateKeyRequest) (draw : Draw) (w : World) :
    World :=
  match prepareKey srv req draw with
  | .error status => w.answer p (.generateKey req) none (.error status)
  | .ok (id, key, kc) =>
    if (srv.keys.get id).isSome then
      w.answer p (.generateKey req) none (.error ⟨.alreadyExists, "key handle already exists"⟩)
    else
      ((w.create ⟨id, key, req⟩).hold id { owner := p, key := key, constraints := kc }).goOn p
        (.sealing req id w.heap.length)

/-- `Server.lookup`: the place of the key, loaded from the store if it is not on the map. -/
def lookup (f : KeyFormats) (p : Nat) (srv : Server) (handle : String) (w : World) :
    Except Status (Nat × World) :=
  if handle = "" then .error ⟨.invalidArgument, "missing key handle"⟩
  else
    match srv.keys.get handle with
    | some i => .ok (i, w)
    | none =>
      match loadHandle f w.files handle with
      | .error text => .error ⟨.internal, "reload key handle: " ++ text⟩
      | .ok none => .error ⟨.notFound, "unknown key handle"⟩
      | .ok (some (key, kc)) =>
        .ok (w.heap.length, w.hold handle { owner := p, key := key, constraints := kc })

def getPublicKey (f : KeyFormats) (p : Nat) (srv : Server) (handle : String) (w : World) :
    Option World :=
  match lookup f p srv handle w with
  | .error status => some (w.answer p (.getPublicKey handle) none (.error status))
  | .ok (i, w) => w.heap[i]?.map fun held =>
      w.answer p (.getPublicKey handle) held.key (.ok (.publicKey held.key.algorithm))

def sign (f : KeyFormats) (p : Nat) (srv : Server) (req : SignRequest) (w : World) : Option World :=
  match validateSignRequest req with
  | .error status => some (w.answer p (.sign req) none (.error status))
  | .ok _ =>
    match lookup f p srv req.handle w with
    | .error status => some (w.answer p (.sign req) none (.error status))
    | .ok (i, w) => w.heap[i]?.map fun held =>
        match held.constraints.authorizes srv.authorizer req with
        | .error status => w.answer p (.sign req) held.key (.error status)
        | .ok _ => w.goOn p (.signing req i)

def destroyKey (f : KeyFormats) (p : Nat) (srv : Server) (handle : String) (w : World) : World :=
  if handle = "" then
    w.answer p (.destroyKey handle) none (.error ⟨.invalidArgument, "missing key handle"⟩)
  else
    match srv.keys.get handle with
    | none => w.answer p (.destroyKey handle) (w.named f srv handle) (.ok .destroyed)
    | some i =>
      (w.setServer p fun srv => { srv with keys := srv.keys.drop handle }).goOn p
        (.destroying handle i)

def shutdown (p : Nat) (srv : Server) (w : World) : World :=
  (w.destroy fun i => srv.keys.any fun e => e.2 = i).setServer p fun srv => { srv with keys := [] }

/-- The next section of a call; `outcome` is what the file operation, the sealing or the
signature in it comes to. -/
def resume (p : Nat) (outcome : Except String Unit) (call : Call) (w : World) : Option World :=
  match call with
  | .sealing req id i => w.heap[i]?.map fun held =>
      match held.use outcome with
      | .error text => w.goOn p (.rollingBack req id i text)
      | .ok _ =>
        w.goOn p (.writing req id i (sealKey (sanitizeHandle id) held.key held.constraints))
  | .writing req id i file => w.heap[i]?.map fun held =>
      match outcome with
      | .error text => w.goOn p (.rollingBack req id i text)
      | .ok _ =>
        { w with files := w.files.put (sanitizeHandle id) file }.answer p (.generateKey req)
          held.key (.ok (.generated id held.key.algorithm))
  | .rollingBack req id i text =>
    some (((w.setServer p fun srv => { srv with keys := srv.keys.drop id }).destroy
      (· = i)).answer p (.generateKey req) none (.error ⟨.internal, "persist key: " ++ text⟩))
  | .signing req i => w.heap[i]?.map fun held =>
      w.answer p (.sign req) held.key (internalError "sign: " ((held.use outcome).map fun _ =>
        .signature req.digest (mustHashForIntent req.hash) (paddingFromProto req.rsaPadding)))
  | .destroying handle i => some ((w.destroy (· = i)).goOn p (.removing handle i))
  | .removing handle i => w.heap[i]?.map fun held =>
      match outcome with
      | .error text => w.answer p (.destroyKey handle) held.key
          (.error ⟨.internal, "remove persisted key: " ++ text⟩)
      | .ok _ =>
        { w with files := w.files.drop (sanitizeHandle handle) }.answer p (.destroyKey handle)
          held.key (.ok .destroyed)

/-- Read the next file of a starting process; a process that cannot read one ends. -/
def loadNext (f : KeyFormats) (p : Nat) (stems : List String) (outcome : Except String Unit)
    (w : World) : World :=
  match stems with
  | [] => w.setPhase p .serving
  | stem :: rest =>
    match outcome, w.files.get stem with
    | .ok _, some sealed =>
      match loadFile f stem sealed with
      | .ok (key, kc) =>
        (w.hold stem { owner := p, key := key, constraints := kc }).setPhase p (.booting rest)
      | .error _ => w.setPhase p .gone
    | _, _ => w.setPhase p .gone

/-! ## Runs -/

inductive Action
  | start (authorizer : Option SignAuthorizer)
  | load (p : Nat) (outcome : Except String Unit)
  | exit (p : Nat)
  | shutdown (p : Nat)
  | authorize (a : SignAuthorizer) (intent : SignIntent)
  | generateKey (p : Nat) (req : GenerateKeyRequest) (draw : Draw)
  | getPublicKey (p : Nat) (handle : String)
  | sign (p : Nat) (req : SignRequest)
  | destroyKey (p : Nat) (handle : String)
  | proceed (i : Nat) (outcome : Except String Unit)

/-- The server of a process that is past its start. -/
def World.serving (w : World) (p : Nat) : Option Server :=
  match w.servers[p]? with
  | some srv => match srv.phase with
    | .serving => some srv
    | _ => none
  | none => none

/-- Tokens are unforgeable: a MAC in a request was given by an authorizer. -/
def World.knows (w : World) : Token → Bool
  | .mac key data => w.minted.any fun (a, intent) =>
      a.key = key && intent.canonicalBytes = data
  | .other _ => true

/-- A drawn key is a well-formed key of its algorithm and no key that was drawn before. -/
def Draw.possible (f : KeyFormats) (req : GenerateKeyRequest) (draw : Draw) (w : World) : Bool :=
  match draw.key, algorithmFromProto req.algorithm with
  | .ok bytes, .ok algorithm =>
    (f.parse algorithm bytes).isOk && w.created.all fun c => c.key.bytes ≠ bytes
  | _, _ => true

def step (f : KeyFormats) (w : World) : Action → Option World
  | .start authorizer => some { w with servers := w.servers ++
      [{ authorizer := authorizer, phase := .booting (w.files.map Prod.fst) }] }
  | .load p outcome =>
    match w.servers[p]? with
    | some ⟨_, _, .booting stems⟩ => some (loadNext f p stems outcome w)
    | _ => none
  | .exit p => some { w.setPhase p .gone with
      inFlight := w.inFlight.filter fun t => t.process ≠ p }
  | .shutdown p => (w.serving p).map fun srv => shutdown p srv w
  | .authorize a intent => some { w with minted := w.minted ++ [(a, intent)] }
  | .generateKey p req draw =>
    if fitsMessage req.requestedId && draw.possible f req w then
      (w.serving p).map fun srv => generateKey p srv req draw w
    else none
  | .getPublicKey p handle =>
    if fitsMessage handle then (w.serving p).bind fun srv => getPublicKey f p srv handle w
    else none
  | .sign p req =>
    if fitsMessage req.handle && req.tokens.all w.knows then
      (w.serving p).bind fun srv => sign f p srv req w
    else none
  | .destroyKey p handle =>
    if fitsMessage handle then (w.serving p).map fun srv => destroyKey f p srv handle w
    else none
  | .proceed i outcome =>
    (w.inFlight[i]?).bind fun t =>
      resume t.process outcome t.call { w with inFlight := w.inFlight.eraseIdx i }

end Trustctl.Signing
