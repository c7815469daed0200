import Trustctl.Acme.StateLog
import Trustctl.Store.Values

/-!
# Requests of the ACME server

Signed messages with their decoded payloads, what the server asks of its surroundings while
it serves one, and the parsers.  A payload that does not decode carries the text of its
error.  Signatures are unforgeable: a message names the public key its signature verifies
under, if any.
-/

namespace Trustctl.Acme

/-- The JWS of an external account binding; `bare` says that its header has neither nonce nor
jwk, `macKey` is the key its MAC verifies under. -/
structure Binding where
  alg : String
  kid : String
  url : String
  bare : Bool
  boundKey : Except String AcmeKey
  macKey : Option String

structure NewAccountRequest where
  contact : List String := []
  onlyReturnExisting : Bool := false
  externalAccountBinding : Option (Except String Binding) := none

/-- The decoded body of a newOrder request: identifiers with their types. -/
structure OrderPayload where
  identifiers : List (String × String)
  replaces : String := ""

structure OrderRequest where
  domains : List String
  replaces : String

structure Csr where
  der : String
  dnsNames : List String
deriving DecidableEq

structure KeyChangeInner where
  account : AccountUrl
  oldKey : Except String AcmeKey

structure InnerJws where
  jwk : Except String AcmeKey
  signer : Option Nat
  payload : Except String KeyChangeInner

/-- `RevokeRequest`, with the fingerprint of its certificate; `""` if that does not parse. -/
structure RevokeRequest where
  fingerprint : String
  reason : Nat

/-- The endpoint of a request and its decoded payload. -/
inductive Call
  | newAccount (payload : Except String NewAccountRequest)
  | newOrder (payload : Except String OrderPayload)
  | getAuthz (id : Nat)
  | acceptChallenge (id : Nat)
  | getOrder (id : Nat)
  | finalize (id : Nat) (csr : Except String Csr)
  | getCert (id : Nat)
  | keyChange (inner : Except String InnerJws)
  | revokeCert (payload : Except String RevokeRequest)

/-- A parsed ACME JWS.  A `jwk` that is no supported key carries the error. -/
structure Message where
  kid : Option AccountUrl := none
  jwk : Option (Except String AcmeKey) := none
  nonce : Nonce
  signer : Option Nat
  call : Call

def Message.verify (msg : Message) (key : AcmeKey) : Bool := msg.signer = some key.pub

/-- `jose.ACMEKeyFromJWK(msg.Protected.JWK)`. -/
def Message.jwkKey (msg : Message) : Except String AcmeKey :=
  msg.jwk.getD (.error "jose: parse jwk: unexpected end of JSON input")

/-- How a request is answered.  A handler that dereferences a missing account ends in a
crash. -/
inductive Reply
  | problem (status : Nat) (type detail : String)
  | ok (status : Nat)
  | crash
deriving DecidableEq

def Reply.rateLimited (detail : String) : Reply := .problem 429 "rateLimited" detail

/-- The error of a failed append. -/
def Reply.internal (detail : String) : Reply := .problem 500 "serverInternal" detail

structure Config where
  quota : Quota := {}
  authMode : AuthMode := .publicTrust
  externalAccountRequired : Bool := false
  /-- The MAC keys of external accounts; the inner `none` is a destroyed key. -/
  eabKeys : String → Option (Option String) := fun _ => none
  /-- `ari.ValidCertID`. -/
  validCertId : String → Bool := fun _ => true

/-- Why the domain-validation policy offers no method. -/
inductive PolicyError
  | notAllowed (detail : String)
  | failed (detail : String)

/-- `writeDVPolicyProblem`. -/
def PolicyError.reply : PolicyError → Reply
  | .notAllowed detail => .problem 400 "unauthorized" detail
  | .failed detail => .internal detail

def ChallengeType.name : ChallengeType → String
  | .http01 => "http-01"
  | .dns01 => "dns-01"
  | .tlsAlpn01 => "tls-alpn-01"

def defaultChallengeTypes : List ChallengeType := [.http01, .dns01, .tlsAlpn01]

def knownMethod (method : String) : Bool :=
  defaultChallengeTypes.any fun type => type.name = method

/-- `ch.token + "." + acct.key.Thumbprint()`. -/
structure KeyAuthorization where
  token : String
  thumbprint : AcmeKey
deriving DecidableEq

/-- A leaf the signer returns, apart from its names. -/
structure Leaf where
  serial : String
  fingerprint : String := ""
  ariCertId : String := ""
  keyThumb : Option AcmeKey := none
  notBefore : Nat := 0
  notAfter : Nat := 0

/-- What the surroundings contribute to one step. -/
structure Oracle where
  now : Nat
  source : String := ""
  base : String := ""
  /-- The nonce that is drawn. -/
  nonce : Nonce := ""
  /-- The token that is drawn for a challenge. -/
  token : Nat → String := fun _ => ""
  /-- The append to the state log. -/
  append : Except String Unit := .ok ()
  /-- The account limiter. -/
  allowNewOrder : Except String Bool := .ok true
  /-- The methods the domain-validation policy allows for a domain; `none` is no constraint. -/
  allowedMethods : String → Except String (Option (List String)) := fun _ => .ok none
  /-- The DNS-01 automation. -/
  present : Except String Unit := .ok ()
  /-- The validator's verdict on a domain and a key authorization. -/
  validate : ChallengeType → String → KeyAuthorization → Except String Unit :=
    fun _ _ _ => .ok ()
  /-- The signer behind the served issuer. -/
  sign : Except String Leaf := .error ""
  /-- Recording the signed leaf. -/
  record : Except String Unit := .ok ()
  /-- The revocation list the served issuer makes sure of before it returns the leaf. -/
  deliver : Except String Unit := .ok ()
  /-- The revocation hook. -/
  revoke : Except String Unit := .ok ()

/-! ## Parsers and checks -/

/-- The `%q` verb, on printable text. -/
def quoted (text : String) : String := text.quote

/-- The first method `challengeTypesForDomain` does not know. -/
def unknownMethod (methods : List String) : Option String :=
  (methods.map Store.trimSpace).find? fun method => method ≠ "" && !knownMethod method

def challengeTypesForDomain (o : Oracle) (domain : String) :
    Except PolicyError (List ChallengeType) :=
  match o.allowedMethods domain with
  | .error detail =>
    .error (.failed
      ("acme: domain-validation policy lookup for " ++ quoted domain ++ ": " ++ detail))
  | .ok none => .ok defaultChallengeTypes
  | .ok (some methods) =>
    match unknownMethod methods with
    | some method =>
      .error (.failed ("acme: domain-validation policy for " ++ quoted domain ++
        " returned unknown method " ++ quoted method))
    | none =>
      match defaultChallengeTypes.filter fun type =>
          (methods.map Store.trimSpace).contains type.name with
      | [] =>
        .error (.notAllowed ("acme: domain-validation method is not allowed for " ++ quoted domain))
      | types => .ok types

def challengeAllowed (o : Oracle) (domain : String) (type : ChallengeType) :
    Except PolicyError Unit :=
  match challengeTypesForDomain o domain with
  | .error err => .error err
  | .ok types =>
    if types.contains type then .ok ()
    else .error (.notAllowed ("acme: domain-validation method is not allowed: " ++ type.name ++
      " for " ++ quoted domain))

/-- The first identifier `ParseOrderRequest` refuses, from index `i` on. -/
def refuseIdentifier (i : Nat) : List (String × String) → Option String
  | [] => none
  | (type, value) :: rest =>
    if type ≠ "dns" then
      some ("acme: identifier " ++ toString i ++ " has unsupported type " ++ quoted type ++
        " (only dns)")
    else if value = "" then some ("acme: identifier " ++ toString i ++ " has empty value")
    else refuseIdentifier (i + 1) rest

def parseOrderRequest (cfg : Config) (payload : Except String OrderPayload) :
    Except String OrderRequest :=
  match payload with
  | .error detail => .error ("acme: malformed newOrder: " ++ detail)
  | .ok raw =>
    if raw.identifiers = [] then .error "acme: newOrder requests no identifiers"
    else
      match refuseIdentifier 0 raw.identifiers with
      | some detail => .error detail
      | none =>
        if raw.replaces ≠ "" && !cfg.validCertId raw.replaces then
          .error "acme: replaces is not a valid certificate identifier"
        else .ok { domains := raw.identifiers.map Prod.snd, replaces := raw.replaces }

/-- `VerifyExternalAccountBinding`. -/
def Binding.verify (b : Binding) (macKey kid url : String) (key : AcmeKey) : Bool :=
  macKey ≠ "" && b.alg = "HS256" && b.kid = kid && b.url = url && b.bare && (match b.boundKey with
      | .ok bound => decide (bound = key)
      | .error _ => false) &&
    b.macKey = some macKey

/-- The external account binding of a registration, refused or accepted. -/
def checkBinding (cfg : Config) (base : String) (key : AcmeKey) (req : NewAccountRequest) :
    Option Reply :=
  match req.externalAccountBinding with
  | none =>
    if cfg.externalAccountRequired then
      some (.problem 400 "externalAccountRequired" "this CA requires an external account binding")
    else none
  | some (.error _) => some (.problem 400 "malformed" "cannot parse external account binding")
  | some (.ok b) =>
    let kid := Store.trimSpace b.kid
    match cfg.eabKeys kid with
    | none => some (.problem 401 "unauthorized" "unknown external account binding key id")
    | some none => some (.internal "external account binding key is unavailable")
    | some (some macKey) =>
      if b.verify macKey kid (base ++ "/acme/new-account") key then none
      else some (.problem 401 "unauthorized" "external account binding verification failed")

end Trustctl.Acme
