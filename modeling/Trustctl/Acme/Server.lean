import Trustctl.Acme.Requests
import Trustctl.Systems.Run
import Mathlib.Algebra.Order.Ring.Nat

/-!
# The ACME server

The handlers of `acme.Server` behind the `jws` wrapper, and the transition system they form.
A handler runs in sections: what it does under one hold of the mutex is one step, and so is
each call to the validator, to the issuer and to the revocation hook, so the steps of
concurrent requests interleave.  A section decides what to do (`Plan`); what it appends to the
state log and changes in the maps is a `Write`, performed in one place.
-/

namespace Trustctl.Acme

/-! ## Requests in flight -/

/-- Whom the wrapper authenticated: the account of the `kid`, if there is one, and the key the
signature is checked under. -/
structure Caller where
  account : Option AccountUrl
  key : AcmeKey

inductive Stage
  /-- The nonce is spent and the key found. -/
  | authenticated
  /-- The signature is verified; the handler begins. -/
  | dispatched
  | validating (challenge : Challenge) (domain : String)
  | validated (challengeId : Nat) (keyAuth : KeyAuthorization)
  | issuing (orderId : Nat) (csr : Csr)
  | issued (orderId : Nat) (cert : Certificate)
  | revoking (fingerprint : String) (rev : Revocation)

structure Task where
  msg : Message
  caller : Caller
  stage : Stage

/-- What becomes of a request after a section: it is answered, or goes on. -/
inductive Next
  | reply (reply : Reply)
  | stage (stage : Stage)

structure World where
  server : Server := {}
  log : List StateEvent := []
  /-- The leaves the served issuer recorded, by request. -/
  minted : List (Csr × Certificate) := []
  /-- Every signature, with the order it was made for. -/
  signed : List (Nat × Certificate) := []
  inFlight : List Task := []
  answers : List (Message × Reply) := []
  /-- Every nonce drawn so far. -/
  drawn : List Nonce := []
  /-- Every nonce a request was accepted with. -/
  spent : List Nonce := []
  clock : Nat := 0
  /-- A handler crashed while it held the mutex. -/
  wedged : Bool := false

namespace World

/-- The maps a restart rebuilds. -/
abbrev view (w : World) : View := w.server.view

def setView (v : View) (w : World) : World := { w with server := { w.server with view := v } }

def setSeq (seq : Nat) (w : World) : World := w.setView { w.view with seq := seq }

/-- `pruneExpiredLocked`. -/
def prune (cfg : Config) (now : Nat) (w : World) : World :=
  { w with server := w.server.prune cfg.quota now }

end World

/-! ## Writes -/

/-- What a handler appends to the state log and then changes in the maps by hand. -/
inductive Write
  /-- A new account. -/
  | register (acct : Account)
  /-- The contact of a returning account. -/
  | amend (acct : Account)
  /-- A key rollover. -/
  | rekey (acct : Account)
  | order (o : Order) (authorizations : List (Authorization × List Challenge))
  | validate (ch : Challenge) (az : Authorization)
  | issue (orderId certId : Nat) (cert : Certificate) (issued : IssuedCert)
  | revoke (fingerprint : String) (rev : Revocation)
  | mark (certId : String)

namespace View

/-- The order status `acceptChallenge` logs: ready when every other authorization is valid. -/
def statusAfter (v : View) (az : Authorization) (o : Order) : Status :=
  if o.authzIds.all fun id => id = az.id || (v.authzs id).any fun az => az.status = .valid
  then .ready else o.status

/-- Store an authorization of a new order and then its challenges. -/
def storeAuthz (v : View) (az : Authorization × List Challenge) : View :=
  az.2.foldl putChallenge { v with authzs := Function.update v.authzs az.1.id (some az.1) }

/-- The maps after `newOrder`. -/
def storeOrder (o : Order) (authorizations : List (Authorization × List Challenge)) (v : View) :
    View :=
  let v := authorizations.foldl storeAuthz v
  { v with orders := Function.update v.orders o.id (some o) }

/-- The maps after `newAccount` created an account. -/
def storeAccount (acct : Account) (v : View) : View :=
  { v with
    byKey := Function.update v.byKey acct.id (some acct.url)
    accounts := Function.update v.accounts acct.url (some acct)
    accountTotal := v.accountTotal + 1 }

/-- The maps after `keyChange`. -/
def rotateKey (acct : Account) (v : View) : View :=
  let unindexed :=
    match v.accounts acct.url with
    | some old => Function.update v.byKey old.key none
    | none => v.byKey
  { v with
    accounts := Function.update v.accounts acct.url (some acct)
    byKey := Function.update unindexed acct.key (some acct.url) }

/-- The order of a validated authorization becomes ready with its last authorization. -/
def readyOrder (orderId : Nat) (v : View) : View :=
  match v.orders orderId with
  | none => v
  | some o =>
    if v.allAuthzValid o then
      { v with orders := Function.update v.orders orderId (some { o with status := .ready }) }
    else v

/-- The maps after `acceptChallenge`. -/
def storeValidation (ch : Challenge) (az : Authorization) (v : View) : View :=
  readyOrder az.orderId { v with
    challenges := Function.update v.challenges ch.id (some { ch with status := .valid })
    authzs := Function.update v.authzs az.id (some { az with status := .valid }) }

end View

def Write.event (v : View) : Write → StateEvent
  | .register acct => .accountUpserted v.seq acct.id acct.url acct.jwk acct.contact
  | .amend acct => .accountUpserted 0 acct.id acct.url acct.jwk acct.contact
  | .rekey acct => .accountUpserted 0 acct.id acct.url acct.jwk acct.contact
  | .order o authorizations => .orderCreated v.seq o authorizations
  | .validate ch az =>
    .challengeValidated ch.id az.id az.orderId ((v.orders az.orderId).map (v.statusAfter az))
  | .issue orderId certId cert issued => .certificateIssued v.seq orderId certId cert issued
  | .revoke fingerprint rev => .certificateRevoked fingerprint rev.serial rev.reason rev.at_
  | .mark certId => .earlyRenewalMarked certId

/-- The change a handler makes once the event is appended.  Only `finalize` can fail here. -/
def Write.live (v : View) : Write → Except String View
  | .register acct => .ok (v.storeAccount acct)
  | .amend acct => .ok { v with accounts := Function.update v.accounts acct.url (some acct) }
  | .rekey acct => .ok (v.rotateKey acct)
  | .order o authorizations => .ok (v.storeOrder o authorizations)
  | .validate ch az => .ok (v.storeValidation ch az)
  | .issue orderId certId cert issued =>
    v.applyCertificateIssuedEvent v.seq orderId certId cert issued
  | .revoke fingerprint rev =>
    .ok { v with revoked := Function.update v.revoked fingerprint (some rev) }
  | .mark certId => .ok { v with earlyRenew := Function.update v.earlyRenew certId true }

/-- What a section decides to do. -/
inductive Plan
  | done (w : World) (next : Next)
  /-- Append, change the maps, answer with the status. -/
  | write (w : World) (change : Write) (status : Nat)

def Plan.refuse (w : World) (reply : Reply) : Plan := .done w (.reply reply)

/-- Carry out a plan: `appendStateEventLocked`, then the change of the maps. -/
def Plan.perform (o : Oracle) : Plan → World × Next
  | .done w next => (w, next)
  | .write w change status =>
    match o.append with
    | .error detail => (w, .reply (.internal detail))
    | .ok () =>
      let logged := { w with log := w.log ++ [change.event w.view] }
      match change.live w.view with
      | .error detail => (logged, .reply (.internal detail))
      | .ok v => (logged.setView v, .reply (.ok status))

/-! ## The wrapper -/

def newNonce (cfg : Config) (o : Oracle) (w : World) : World :=
  let w := w.prune cfg o.now
  let (server, allowed) := w.server.consumeSource cfg.quota o.source .nonce o.now
  let w := { w with server := server }
  if allowed then
    match w.server.mintNonce cfg.quota o.now o.nonce with
    | none => w
    | some server => { w with server := server, drawn := o.nonce :: w.drawn }
  else w

/-- The key a request is checked under, and its account. -/
def findCaller (v : View) (msg : Message) : Except Reply Caller :=
  match msg.kid with
  | some url =>
    match v.accounts url with
    | none => .error (.problem 400 "accountDoesNotExist" "unknown account")
    | some acct => .ok { account := some url, key := acct.key }
  | none =>
    match msg.jwk with
    | some (.ok key) => .ok { account := none, key }
    | some (.error detail) => .error (.problem 400 "badPublicKey" detail)
    | none => .error (.problem 400 "malformed" "JWS has neither kid nor jwk")

/-- The first section of `jws`: spend the nonce and find the key. -/
def authenticate (cfg : Config) (o : Oracle) (msg : Message) (w : World) :
    World × Except Reply Caller :=
  let w := w.prune cfg o.now
  if w.server.nonces.any fun n => n.1 = msg.nonce then
    let nonces := w.server.nonces.filter fun n => n.1 ≠ msg.nonce
    ({ w with server := { w.server with nonces }, spent := msg.nonce :: w.spent },
      findCaller w.view msg)
  else (w, .error (.problem 400 "badNonce" "unknown or used nonce"))

/-- The rest of `jws`: verify the signature and mint the next nonce. -/
def admitRequest (cfg : Config) (o : Oracle) (task : Task) (w : World) : Plan :=
  if task.msg.verify task.caller.key then
    let w := w.prune cfg o.now
    match w.server.mintNonce cfg.quota o.now o.nonce with
    | none => .refuse w (.rateLimited "too many outstanding ACME nonces")
    | some server =>
      .done { w with server := server, drawn := o.nonce :: w.drawn } (.stage .dispatched)
  else .refuse w (.problem 401 "unauthorized" "JWS verification failed")

/-! ## Accounts -/

/-- `newAccount` for a key without an account. -/
def createAccount (cfg : Config) (o : Oracle) (key : AcmeKey) (req : NewAccountRequest)
    (w : World) : Plan :=
  if req.onlyReturnExisting then
    .refuse w (.problem 400 "accountDoesNotExist" "no account exists for this key")
  else
    let (server, allowed) := w.server.consumeSource cfg.quota o.source .account o.now
    let w := { w with server := server }
    if !allowed then
      .refuse w (.rateLimited "too many ACME account creations from this source")
    else if cfg.quota.maxAccounts ≤ w.view.accountTotal then
      .refuse w (.rateLimited "too many ACME accounts on this tenant mount")
    else
      match checkBinding cfg o.base key req with
      | some reply => .refuse w reply
      | none =>
        let id := w.view.seq + 1
        .write (w.setSeq id) (.register
          { id := key, url := { base := o.base, id }, key, jwk := some key,
            contact := req.contact }) 201

/-- `newAccount` for a key with an account. -/
def returnAccount (key : AcmeKey) (req : NewAccountRequest) (acct : Account) (w : World) : Plan :=
  if req.contact = [] then .done w (.reply (.ok 200))
  else .write w (.amend { acct with contact := req.contact, jwk := acct.jwk <|> some key }) 200

/-- `newAccount`.  The key is the one in the header, whoever signed the request. -/
def newAccount (cfg : Config) (o : Oracle) (msg : Message)
    (payload : Except String NewAccountRequest) (w : World) : Plan :=
  match msg.jwkKey with
  | .error detail => .refuse w (.problem 400 "badPublicKey" detail)
  | .ok key =>
    match payload with
    | .error _ => .refuse w (.problem 400 "malformed" "cannot parse new-account request")
    | .ok req =>
      let w := w.prune cfg o.now
      match (w.view.byKey key).bind w.view.accounts with
      | none => createAccount cfg o key req w
      | some acct => returnAccount key req acct w

/-- The checks of `keyChange` outside the mutex: the new key, and the old key it names. -/
def checkInner (url : AccountUrl) (inner : Except String InnerJws) :
    Except Reply (AcmeKey × AcmeKey) :=
  match inner with
  | .error detail => .error (.problem 400 "malformed" ("keyChange inner JWS: " ++ detail))
  | .ok jws =>
    match jws.jwk with
    | .error detail => .error (.problem 400 "badPublicKey" ("keyChange new key: " ++ detail))
    | .ok newKey =>
      if jws.signer ≠ some newKey.pub then
        .error (.problem 400 "malformed" "keyChange inner JWS not signed by the new key")
      else
        match jws.payload with
        | .error detail => .error (.problem 400 "malformed" detail)
        | .ok body =>
          match body.oldKey with
          | .error detail => .error (.problem 400 "malformed" ("keyChange oldKey: " ++ detail))
          | .ok oldKey =>
            if body.account ≠ url then
              .error (.problem 403 "unauthorized"
                "keyChange account URL does not match the authenticated account")
            else .ok (newKey, oldKey)

/-- The section of `keyChange` under the mutex. -/
def rollover (url : AccountUrl) (newKey oldKey : AcmeKey) (acct : Account) (w : World) : Plan :=
  if oldKey ≠ acct.key then
    .refuse w (.problem 403 "unauthorized"
      "keyChange oldKey does not match the account's current key")
  else if (w.view.byKey newKey).any fun other => other ≠ url then
    .refuse w (.problem 409 "accountDoesNotExist"
      "the new key is already in use by another account")
  else .write w (.rekey { acct with id := newKey, key := newKey, jwk := some newKey }) 200

def keyChange (caller : Caller) (inner : Except String InnerJws) (w : World) : Plan :=
  match caller.account with
  | none =>
    .refuse w (.problem 401 "unauthorized" "keyChange requires an existing account (kid)")
  | some url =>
    match checkInner url inner with
    | .error reply => .refuse w reply
    | .ok (newKey, oldKey) =>
      match w.view.accounts url with
      -- accounts are never removed, so the wrapper's account is still there
      | none => .refuse w .crash
      | some acct => rollover url newKey oldKey acct w

/-! ## Orders -/

/-- The challenge types of every domain of a new order. -/
def challengeTypes (o : Oracle) :
    List String → Except PolicyError (List (String × List ChallengeType))
  | [] => .ok []
  | domain :: rest =>
    match challengeTypesForDomain o domain with
    | .error err => .error err
    | .ok types =>
      match challengeTypes o rest with
      | .error err => .error err
      | .ok others => .ok ((domain, types) :: others)

/-- The challenge types of a new order under the mode of the mount. -/
def orderChallenges (cfg : Config) (o : Oracle) (domains : List String) :
    Except PolicyError (List (String × List ChallengeType)) :=
  match cfg.authMode with
  | .publicTrust => challengeTypes o domains
  | .trustAuthenticated => .ok (domains.map fun domain => (domain, [.http01]))

/-- The challenges of an authorization, with the ids after the authorization's own. -/
def buildChallenges (token : Nat → String) (status : Status) (authzId : Nat) :
    Nat → List ChallengeType → List Challenge
  | _, [] => []
  | seq, type :: rest =>
    { id := seq + 1, type, token := token (seq + 1), status, authzId } ::
      buildChallenges token status authzId (seq + 1) rest

/-- The authorizations of a new order, with the ids after `seq`. -/
def buildAuthzs (token : Nat → String) (status : Status) (orderId : Nat) (now : Nat) :
    Nat → List (String × List ChallengeType) → List (Authorization × List Challenge)
  | _, [] => []
  | seq, (domain, types) :: rest =>
    let challenges := buildChallenges token status (seq + 1) (seq + 1) types
    ({ id := seq + 1, orderId, domain, status, challengeIds := challenges.map Challenge.id,
       createdAt := now }, challenges) ::
      buildAuthzs token status orderId now (seq + 1 + types.length) rest

/-- How many ids the authorizations of a new order take. -/
def idsTaken (planned : List (String × List ChallengeType)) : Nat :=
  (planned.map fun entry => 1 + entry.2.length).sum

def newAuthzs (cfg : Config) (o : Oracle) (planned : List (String × List ChallengeType))
    (seq : Nat) : List (Authorization × List Challenge) :=
  buildAuthzs o.token (if cfg.authMode = .trustAuthenticated then .valid else .pending)
    (seq + 1) o.now (seq + 1) planned

def nextOrder (cfg : Config) (o : Oracle) (url : AccountUrl) (req : OrderRequest)
    (planned : List (String × List ChallengeType)) (seq : Nat) : Order where
  id := seq + 1
  accountUrl := url
  domains := planned.map Prod.fst
  authzIds := (newAuthzs cfg o planned seq).map (·.1.id)
  status := if cfg.authMode = .trustAuthenticated then .ready else .pending
  authMode := cfg.authMode
  replaces := req.replaces
  createdAt := o.now

/-- `newOrder` after the quotas. -/
def createOrder (cfg : Config) (o : Oracle) (url : AccountUrl) (req : OrderRequest)
    (planned : List (String × List ChallengeType)) (w : World) : Plan :=
  let seq := w.view.seq
  .write (w.setSeq (seq + 1 + idsTaken planned))
    (.order (nextOrder cfg o url req planned seq) (newAuthzs cfg o planned seq)) 201

def pendingAuthzDelta (cfg : Config) (planned : List (String × List ChallengeType)) : Nat :=
  match cfg.authMode with
  | .publicTrust => planned.length
  | .trustAuthenticated => 0

def pendingChallengeDelta (cfg : Config) (planned : List (String × List ChallengeType)) : Nat :=
  match cfg.authMode with
  | .publicTrust => (planned.map fun entry => entry.2.length).sum
  | .trustAuthenticated => 0

/-- The section of `newOrder` under the mutex. -/
def admitOrder (cfg : Config) (o : Oracle) (url : AccountUrl) (req : OrderRequest)
    (planned : List (String × List ChallengeType)) (w : World) : Plan :=
  let w := w.prune cfg o.now
  let (server, allowed) := w.server.consumeSource cfg.quota o.source .order o.now
  let w := { w with server := server }
  if !allowed then .refuse w (.rateLimited "too many ACME newOrder requests from this source")
  else if cfg.quota.maxPendingOrders ≤ w.view.pendingOrders none then
    .refuse w (.rateLimited "too many pending ACME orders")
  else if cfg.quota.maxPendingOrdersPerAccount ≤ w.view.pendingOrders (some url) then
    .refuse w (.rateLimited "too many pending ACME orders for this account")
  else if cfg.quota.maxPendingAuthorizations <
      w.view.pendingAuthzs + pendingAuthzDelta cfg planned then
    .refuse w (.rateLimited "too many pending ACME authorizations")
  else if cfg.quota.maxPendingChallenges <
      w.view.pendingChallenges + pendingChallengeDelta cfg planned then
    .refuse w (.rateLimited "too many pending ACME challenges")
  else createOrder cfg o url req planned w

def newOrder (cfg : Config) (o : Oracle) (caller : Caller) (payload : Except String OrderPayload)
    (w : World) : Plan :=
  match caller.account with
  | none => .refuse w (.problem 401 "unauthorized" "newOrder requires an existing account (kid)")
  | some url =>
    match parseOrderRequest cfg payload with
    | .error detail => .refuse w (.problem 400 "malformed" detail)
    | .ok req =>
      match o.allowNewOrder with
      | .error detail => .refuse w (.internal detail)
      | .ok false =>
        .refuse w (.rateLimited "too many ACME newOrder requests for this account")
      | .ok true =>
        match orderChallenges cfg o req.domains with
        | .error err => .refuse w err.reply
        | .ok planned => admitOrder cfg o url req planned w

/-- Answer whether a map holds the object of a request. -/
def lookUp {α : Type} (found : Option α) (missing : String) (w : World) : Plan :=
  match found with
  | none => .refuse w (.problem 404 "malformed" missing)
  | some _ => .done w (.reply (.ok 200))

def getAuthz (id : Nat) (w : World) : Plan := lookUp (w.view.authzs id) "no such authorization" w

def getOrder (id : Nat) (w : World) : Plan := lookUp (w.view.orders id) "no such order" w

def getCert (id : Nat) (w : World) : Plan := lookUp (w.view.certs id) "no such certificate" w

/-- A challenge and its authorization, as `acceptChallenge` looks them up twice. -/
def findChallenge (id : Nat) (v : View) : Except Reply (Challenge × Authorization) :=
  match v.challenges id with
  | none => .error (.problem 404 "malformed" "no such challenge")
  | some ch =>
    match v.authzs ch.authzId with
    | none => .error (.problem 404 "malformed" "no such authorization")
    | some az => .ok (ch, az)

/-- The first section of `acceptChallenge`. -/
def acceptChallenge (id : Nat) (w : World) : Plan :=
  match findChallenge id w.view with
  | .error reply => .refuse w reply
  | .ok (ch, az) => .done w (.stage (.validating ch az.domain))

/-- `acceptChallenge` outside the mutex.  Nothing asks whether the caller has an account. -/
def validateChallenge (o : Oracle) (caller : Caller) (ch : Challenge) (domain : String)
    (w : World) : Plan :=
  match challengeAllowed o domain ch.type with
  | .error err => .refuse w err.reply
  | .ok () =>
    match caller.account.bind w.view.accounts with
    | none => .refuse w .crash
    | some acct =>
      let keyAuth := { token := ch.token, thumbprint := acct.key }
      match (if ch.type = .dns01 then o.present else .ok ()), o.validate ch.type domain keyAuth with
      | .ok (), .ok () => .done w (.stage (.validated ch.id keyAuth))
      | .ok (), .error detail | .error detail, _ =>
        .refuse w (.problem 400 "unauthorized" ("challenge validation failed: " ++ detail))

/-- The last section of `acceptChallenge`. -/
def recordValidation (id : Nat) (w : World) : Plan :=
  match findChallenge id w.view with
  | .error reply => .refuse w reply
  | .ok (ch, az) => .write w (.validate ch az) 200

/-- The first section of `finalize`.  Nothing compares the order's account with the caller. -/
def finalize (id : Nat) (csr : Except String Csr) (w : World) : Plan :=
  match w.view.orders id with
  | none => .refuse w (.problem 404 "malformed" "no such order")
  | some o =>
    if o.status = .valid && o.certId.isSome then .done w (.reply (.ok 200))
    else if o.status ≠ .ready then
      .refuse w (.problem 403 "orderNotReady" "order is not ready to finalize")
    else
      match csr with
      | .error detail => .refuse w (.problem 400 "badCSR" detail)
      | .ok csr => .done w (.stage (.issuing id csr))

/-- The certificate of a leaf: the served issuer takes the names from the request. -/
def Leaf.certificate (leaf : Leaf) (csr : Csr) (signedAt : Nat) : Certificate where
  dnsNames := csr.dnsNames
  serial := leaf.serial
  fingerprint := leaf.fingerprint
  ariCertId := leaf.ariCertId
  keyThumb := leaf.keyThumb
  notBefore := leaf.notBefore
  notAfter := leaf.notAfter
  signedAt := signedAt

/-- Return a recorded leaf, unless its revocation list is missing. -/
def deliverLeaf (o : Oracle) (orderId : Nat) (cert : Certificate) (w : World) : Plan :=
  match o.deliver with
  | .error detail => .refuse w (.internal ("issuance failed: " ++ detail))
  | .ok () => .done w (.stage (.issued orderId cert))

/-- `protocolCAAdapter.Issue` with `IssueProtocolLeaf`: a request that was served before gets
the leaf it got then. -/
def issueProtocolLeaf (o : Oracle) (orderId : Nat) (csr : Csr) (w : World) : Plan :=
  match w.minted.lookup csr with
  | some cert => deliverLeaf o orderId cert w
  | none =>
    match o.sign with
    | .error detail => .refuse w (.internal ("issuance failed: " ++ detail))
    | .ok leaf =>
      let cert := leaf.certificate csr w.log.length
      let w := { w with signed := w.signed ++ [(orderId, cert)] }
      match o.record with
      | .error detail => .refuse w (.internal ("issuance failed: " ++ detail))
      | .ok () => deliverLeaf o orderId cert { w with minted := (csr, cert) :: w.minted }

/-- The last section of `finalize`.  Without an account it crashes after `nextID` and leaves
the mutex locked. -/
def storeCertificate (caller : Caller) (orderId : Nat) (cert : Certificate) (w : World) : Plan :=
  let certId := w.view.seq + 1
  let w := w.setSeq certId
  match caller.account with
  | none => .refuse { w with wedged := true } .crash
  | some url =>
    .write w (.issue orderId certId cert
      { accountUrl := url, keyThumb := cert.keyThumb, serial := cert.serial, certId }) 200

/-! ## Revocation -/

/-- Whether the caller may revoke: its account ordered the certificate, or, without an account,
its key is the certificate's. -/
def mayRevoke (msg : Message) (caller : Caller) (ic : IssuedCert) : Bool :=
  match caller.account with
  | some url => ic.accountUrl = url
  | none =>
    match msg.jwk with
    | some (.ok key) => ic.keyThumb = some key
    | _ => false

/-- The first section of `revokeCert`. -/
def revokeCert (o : Oracle) (msg : Message) (caller : Caller)
    (payload : Except String RevokeRequest) (w : World) : Plan :=
  match payload with
  | .error detail => .refuse w (.problem 400 "malformed" detail)
  | .ok req =>
    if req.fingerprint = "" then
      .refuse w (.problem 400 "malformed" "revoke certificate does not parse")
    else
      match w.view.issued req.fingerprint with
      | none => .refuse w (.problem 404 "malformed" "no such certificate")
      | some ic =>
        if (w.view.revoked req.fingerprint).isSome then
          .refuse w (.problem 400 "alreadyRevoked" "certificate is already revoked")
        else if mayRevoke msg caller ic then
          .done w (.stage (.revoking req.fingerprint
            { serial := ic.serial, reason := req.reason, at_ := o.now }))
        else
          .refuse w (.problem 403 "unauthorized" "not authorized to revoke this certificate")

/-- `revokeCert` from the hook on. -/
def recordRevocation (o : Oracle) (fingerprint : String) (rev : Revocation) (w : World) : Plan :=
  match o.revoke with
  | .error detail => .refuse w (.internal ("revocation failed: " ++ detail))
  | .ok () =>
    if (w.view.revoked fingerprint).isSome then .done w (.reply (.ok 200))
    else .write w (.revoke fingerprint rev) 200

/-- `MarkEarlyRenewalContext`; its caller gets no ACME answer. -/
def markEarlyRenewal (certId : String) (w : World) : Plan :=
  if w.view.earlyRenew certId then .done w (.reply (.ok 200)) else .write w (.mark certId) 200

/-! ## Steps -/

/-- The first section of the handler of a request. -/
def dispatch (cfg : Config) (o : Oracle) (task : Task) (w : World) : Plan :=
  match task.msg.call with
  | .newAccount payload => newAccount cfg o task.msg payload w
  | .newOrder payload => newOrder cfg o task.caller payload w
  | .getAuthz id => getAuthz id w
  | .acceptChallenge id => acceptChallenge id w
  | .getOrder id => getOrder id w
  | .finalize id csr => finalize id csr w
  | .getCert id => getCert id w
  | .keyChange inner => keyChange task.caller inner w
  | .revokeCert payload => revokeCert o task.msg task.caller payload w

def resume (cfg : Config) (o : Oracle) (task : Task) (w : World) : Plan :=
  match task.stage with
  | .authenticated => admitRequest cfg o task w
  | .dispatched => dispatch cfg o task w
  | .validating ch domain => validateChallenge o task.caller ch domain w
  | .validated challengeId _ => recordValidation challengeId w
  | .issuing orderId csr => issueProtocolLeaf o orderId csr w
  | .issued orderId cert => storeCertificate task.caller orderId cert w
  | .revoking fingerprint rev => recordRevocation o fingerprint rev w

/-- Put a request where its section left it. -/
def World.settle (i : Nat) (task : Task) (next : Next) (w : World) : World :=
  match next with
  | .reply reply =>
    { w with inFlight := w.inFlight.eraseIdx i, answers := w.answers ++ [(task.msg, reply)] }
  | .stage stage => { w with inFlight := w.inFlight.set i { task with stage } }

/-- Put a request where the wrapper's first section left it. -/
def World.enter (msg : Message) (found : Except Reply Caller) (w : World) : World :=
  match found with
  | .error reply => { w with answers := w.answers ++ [(msg, reply)] }
  | .ok caller => { w with inFlight := w.inFlight ++ [{ msg, caller, stage := .authenticated }] }

inductive Action
  | newNonce
  | receive (msg : Message)
  | proceed (i : Nat)
  | markEarlyRenewal (certId : String)

/-- One step.  The clock does not run back and a drawn nonce is new; a server whose mutex is
held by a crashed handler does nothing. -/
def step (cfg : Config) (w : World) (a : Action × Oracle) : Option World :=
  if w.wedged || decide (a.2.now < w.clock) || w.drawn.contains a.2.nonce then none
  else
    let w := { w with clock := a.2.now }
    match a.1 with
    | .newNonce => some (newNonce cfg a.2 w)
    | .receive msg =>
      let (entered, found) := authenticate cfg a.2 msg w
      some (entered.enter msg found)
    | .proceed i =>
      match w.inFlight[i]? with
      | none => none
      | some task =>
        let (performed, next) := (resume cfg a.2 task w).perform a.2
        some (performed.settle i task next)
    | .markEarlyRenewal certId => some ((markEarlyRenewal certId w).perform a.2).1

/-! ## Requests in a run -/

/-- The next section of the first request in flight. -/
def go : Action × Oracle := (.proceed 0, { now := 1 })

/-- A request that is received, verified and dispatched; `next` is the nonce of its reply. -/
def request (msg : Message) (next : Nonce) : List (Action × Oracle) :=
  [(.receive msg, { now := 1 }), (.proceed 0, { now := 1, nonce := next })]

def registration (key : AcmeKey) (contact : List String) (nonce : Nonce) : Message where
  jwk := some (.ok key)
  nonce := nonce
  signer := some key.pub
  call := .newAccount (.ok { contact })

/-- A request of the account with an id, signed by the key of the same number. -/
def signedBy (id : Nat) (nonce : Nonce) (call : Call) : Message where
  kid := some { base := "", id }
  nonce := nonce
  signer := some id
  call := call

/-- Account 1 registers and orders a certificate for `a.example`: order 2 with authorization 3
and the challenges 4, 5 and 6. -/
def orderPlaced : List (Action × Oracle) :=
  (.newNonce, { now := 1, nonce := "n1" }) ::
    request (registration { pub := 1 } [] "n1") "n2" ++ [go] ++
    request (signedBy 1 "n2" (.newOrder (.ok { identifiers := [("dns", "a.example")] }))) "n3" ++
    [go]

def accept (challengeId : Nat) (nonce next : Nonce) : List (Action × Oracle) :=
  request (signedBy 1 nonce (.acceptChallenge challengeId)) next ++ [go, go, go]

/-- Account 1 finalizes its order, up to the call of the issuer. -/
def finalizing (csr : Csr) (nonce next : Nonce) : List (Action × Oracle) :=
  request (signedBy 1 nonce (.finalize 2 (.ok csr))) next ++ [go]

def sign (serial : String) : Action × Oracle :=
  (.proceed 0, { now := 1, sign := .ok { serial } })

def finalized (csr : Csr) : List (Action × Oracle) :=
  orderPlaced ++ accept 4 "n3" "n4" ++ finalizing csr "n4" "n5" ++ [sign "01", go]

end Trustctl.Acme
