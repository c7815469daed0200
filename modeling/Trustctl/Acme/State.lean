import Mathlib.Logic.Function.Basic

/-!
# The serving state of the ACME server

The maps of `acme.Server`, the quotas and the pruning.  An id is the number `nextID` renders;
a path segment that is no such number names nothing, like a number that was never handed out.
An instant is a number too, `0` the zero `time.Time`.
The maps hold pointers, and the same object is reached from several of them: an account
index maps to the account's URL, an authorization lists the ids of its challenges.

A key stands for its spelled JWK members.  Signatures are checked against the public key, the
RFC 7638 thumbprint is the digest of the members, so two spellings of one public key have two
thumbprints and the thumbprint is the key itself.
-/

namespace Trustctl.Acme

abbrev Nonce := String

structure AcmeKey where
  pub : Nat
  spelling : String := ""
deriving DecidableEq

/-- `baseURL(r) + "/acme/acct/" + id`. -/
structure AccountUrl where
  base : String
  id : Nat
deriving DecidableEq

/-- The status of an order, an authorization or a challenge. -/
inductive Status
  | pending
  | ready
  | valid
deriving DecidableEq

/-- `profile.ACMEAuthMode`. -/
inductive AuthMode
  | publicTrust
  | trustAuthenticated
deriving DecidableEq

inductive ChallengeType
  | http01
  | dns01
  | tlsAlpn01
deriving DecidableEq

/-- `account`; the id is the thumbprint. -/
structure Account where
  id : AcmeKey
  url : AccountUrl
  key : AcmeKey
  jwk : Option AcmeKey
  contact : List String
deriving DecidableEq

structure Order where
  id : Nat
  accountUrl : AccountUrl
  domains : List String
  authzIds : List Nat
  status : Status
  authMode : AuthMode
  certId : Option Nat := none
  replaces : String := ""
  createdAt : Nat
deriving DecidableEq

structure Authorization where
  id : Nat
  orderId : Nat
  domain : String
  status : Status
  challengeIds : List Nat
  createdAt : Nat
deriving DecidableEq

structure Challenge where
  id : Nat
  type : ChallengeType
  token : String
  status : Status
  authzId : Nat
deriving DecidableEq

/-- An issued certificate, as the server inspects it.  `signedAt` is the position of its
signing in the run, which no code reads. -/
structure Certificate where
  dnsNames : List String
  serial : String
  fingerprint : String
  ariCertId : String
  keyThumb : Option AcmeKey
  notBefore : Nat
  notAfter : Nat
  signedAt : Nat
deriving DecidableEq

structure IssuedCert where
  accountUrl : AccountUrl
  keyThumb : Option AcmeKey
  serial : String
  certId : Nat
deriving DecidableEq

structure Revocation where
  serial : String
  reason : Nat
  at_ : Nat
deriving DecidableEq

structure AriWindow where
  notBefore : Nat
  notAfter : Nat
deriving DecidableEq

/-- The maps a restart rebuilds, and the id counter. -/
structure View where
  accounts : AccountUrl → Option Account := fun _ => none
  /-- `len(s.accounts)`. -/
  accountTotal : Nat := 0
  byKey : AcmeKey → Option AccountUrl := fun _ => none
  orders : Nat → Option Order := fun _ => none
  authzs : Nat → Option Authorization := fun _ => none
  challenges : Nat → Option Challenge := fun _ => none
  certs : Nat → Option Certificate := fun _ => none
  issued : String → Option IssuedCert := fun _ => none
  revoked : String → Option Revocation := fun _ => none
  ariWindows : String → Option AriWindow := fun _ => none
  earlyRenew : String → Bool := fun _ => false
  seq : Nat := 0

structure SourceBudget where
  resetAt : Nat
  newNonce : Nat := 0
  newAccount : Nat := 0
  newOrder : Nat := 0
deriving DecidableEq

/-- The limits of `QuotaConfig` the handlers read. -/
structure Quota where
  maxNonces : Nat := 4096
  maxAccounts : Nat := 2048
  maxPendingOrders : Nat := 4096
  maxPendingAuthorizations : Nat := 8192
  maxPendingChallenges : Nat := 24576
  maxPendingOrdersPerAccount : Nat := 128
  maxNewNoncesPerSource : Nat := 120
  maxNewAccountsPerSource : Nat := 20
  maxNewOrdersPerSource : Nat := 60
  sourceWindow : Nat := 600
  nonceTTL : Nat := 600
  stateTTL : Nat := 86400

structure Server where
  view : View := {}
  nonces : List (Nonce × Nat) := []
  sources : String → Option SourceBudget := fun _ => none

/-! ## Counting -/

namespace View

/-- The values of a map whose keys `nextID` minted. -/
def values {α : Type} (v : View) (map : Nat → Option α) : List α :=
  (List.range (v.seq + 1)).filterMap map

/-- `pendingOrdersLocked`; no URL counts the orders of every account. -/
def pendingOrders (v : View) (account : Option AccountUrl) : Nat :=
  (v.values v.orders).countP fun o =>
    o.status ≠ .valid && account.all fun url => o.accountUrl = url

def pendingAuthzs (v : View) : Nat :=
  (v.values v.authzs).countP fun az => az.status ≠ .valid

def pendingChallenges (v : View) : Nat :=
  (v.values v.challenges).countP fun ch =>
    ch.status ≠ .valid && !(v.authzs ch.authzId).any fun az => az.status = .valid

def allAuthzValid (v : View) (o : Order) : Bool :=
  o.authzIds.all fun id => (v.authzs id).any fun az => az.status = .valid

/-! ## Pruning -/

/-- An order is pruned once it is older than the TTL, unless it is valid. -/
def expired (q : Quota) (now : Nat) (o : Order) : Bool :=
  o.status ≠ .valid && q.stateTTL < now - o.createdAt

/-- The body of the loop of `deleteOrderStateLocked`. -/
def deleteAuthz (v : View) (authzId : Nat) : View :=
  { v with
    challenges := fun id =>
      if (v.authzs authzId).any fun az => az.challengeIds.contains id then none
      else v.challenges id
    authzs := Function.update v.authzs authzId none }

def deleteOrderState (v : View) (orderId : Nat) : View :=
  match v.orders orderId with
  | none => v
  | some o =>
    let v := o.authzIds.foldl deleteAuthz v
    { v with orders := Function.update v.orders orderId none }

/-- One round of the loop of `pruneExpiredLocked` over the orders. -/
def pruneOrder (q : Quota) (now : Nat) (v : View) (id : Nat) : View :=
  match v.orders id with
  | none => v
  | some o => if expired q now o then v.deleteOrderState id else v

/-- The loop of `pruneExpiredLocked` over the orders. -/
def prune (q : Quota) (now : Nat) (v : View) : View :=
  (List.range (v.seq + 1)).foldl (pruneOrder q now) v

end View

namespace Server

/-- `pruneExpiredLocked`. -/
def prune (q : Quota) (now : Nat) (s : Server) : Server where
  nonces := s.nonces.filter fun n => n.2 = 0 || now - n.2 ≤ q.nonceTTL
  sources := fun source => (s.sources source).filter fun b => now < b.resetAt
  view := s.view.prune q now

/-- `mintNonce`, with the nonce drawn. -/
def mintNonce (q : Quota) (now : Nat) (nonce : Nonce) (s : Server) : Option Server :=
  if q.maxNonces ≤ s.nonces.length then none
  else some { s with nonces := (nonce, now) :: s.nonces.filter (·.1 ≠ nonce) }

/-- What a request uses up of its source's budget. -/
inductive Kind
  | nonce
  | account
  | order

/-- `consumeSourceLocked`: the state afterwards, and whether the budget allows the request. -/
def consumeSource (q : Quota) (source : String) (kind : Kind) (now : Nat) (s : Server) :
    Server × Bool :=
  let b := ((s.sources source).filter fun b => now < b.resetAt).getD
    { resetAt := now + q.sourceWindow }
  let store := fun b => { s with sources := Function.update s.sources source (some b) }
  match kind with
  | .nonce =>
    if q.maxNewNoncesPerSource ≤ b.newNonce then (store b, false)
    else (store { b with newNonce := b.newNonce + 1 }, true)
  | .account =>
    if q.maxNewAccountsPerSource ≤ b.newAccount then (store b, false)
    else (store { b with newAccount := b.newAccount + 1 }, true)
  | .order =>
    if q.maxNewOrdersPerSource ≤ b.newOrder then (store b, false)
    else (store { b with newOrder := b.newOrder + 1 }, true)

end Server

end Trustctl.Acme
