import Trustctl.Acme.State

/-!
# The state log of the ACME server

The events a served ACME server appends and the code that rebuilds the serving view from
them: `WithStateLog` replays the log from its start through the `apply…EventLocked`
functions.  Ids, keys and statuses are never empty here, so of the checks for malformed
events those remain that an event of this server can fail.
-/

namespace Trustctl.Acme

/-- An event of the state log with its decoded payload. -/
inductive StateEvent
  | accountUpserted (seq : Nat) (id : AcmeKey) (url : AccountUrl) (jwk : Option AcmeKey)
      (contact : List String)
  | orderCreated (seq : Nat) (order : Order)
      (authorizations : List (Authorization × List Challenge))
  | challengeValidated (challengeId authzId orderId : Nat) (orderStatus : Option Status)
  | certificateIssued (seq : Nat) (orderId certId : Nat) (cert : Certificate) (issued : IssuedCert)
  | certificateRevoked (fingerprint serial : String) (reason : Nat) (at_ : Nat)
  | earlyRenewalMarked (certId : String)

namespace View

def rememberSeq (seq : Nat) (v : View) : View := { v with seq := max v.seq seq }

def applyAccountEvent (seq : Nat) (id : AcmeKey) (url : AccountUrl) (jwk : Option AcmeKey)
    (contact : List String) (v : View) : Except String View :=
  match jwk with
  | none => .error "acme: malformed account event"
  | some key =>
    let stored := v.accounts url
    let unindexed :=
      match stored with
      | some old => if old.id = id then v.byKey else Function.update v.byKey old.id none
      | none => v.byKey
    .ok (rememberSeq seq { v with
      accounts := Function.update v.accounts url (some { id, url, key, jwk, contact })
      accountTotal := if stored.isSome then v.accountTotal else v.accountTotal + 1
      byKey := Function.update unindexed id (some url) })

/-- Store a challenge of an `orderCreated` event. -/
def putChallenge (v : View) (ch : Challenge) : View :=
  { v with challenges := Function.update v.challenges ch.id (some ch) }

/-- Store an authorization of an `orderCreated` event after its challenges. -/
def putAuthz (v : View) (az : Authorization × List Challenge) : View :=
  let v := az.2.foldl putChallenge v
  { v with
    authzs := Function.update v.authzs az.1.id
      (some { az.1 with challengeIds := az.2.map Challenge.id }) }

def applyOrderCreatedEvent (seq : Nat) (o : Order)
    (authorizations : List (Authorization × List Challenge)) (v : View) : View :=
  let v := { v with orders := Function.update v.orders o.id (some o) }
  rememberSeq seq (authorizations.foldl putAuthz v)

def applyChallengeValidatedEvent (challengeId authzId orderId : Nat) (orderStatus : Option Status)
    (v : View) : Except String View :=
  match v.challenges challengeId, v.authzs authzId with
  | some ch, some az =>
    .ok { v with
      challenges := Function.update v.challenges challengeId (some { ch with status := .valid })
      authzs := Function.update v.authzs authzId (some { az with status := .valid })
      orders :=
        match orderStatus, v.orders orderId with
        | some status, some o => Function.update v.orders orderId (some { o with status })
        | _, _ => v.orders }
  | _, _ => .error "acme: challenge validation event references missing state"

def applyCertificateIssuedEvent (seq : Nat) (orderId certId : Nat) (cert : Certificate)
    (issued : IssuedCert) (v : View) : Except String View :=
  match v.orders orderId with
  | none => .error "acme: certificate-issued event references missing order"
  | some o =>
    .ok (rememberSeq seq { v with
      orders := Function.update v.orders orderId
        (some { o with certId := some certId, status := .valid })
      certs := Function.update v.certs certId (some cert)
      ariWindows :=
        if cert.ariCertId = "" then v.ariWindows
        else Function.update v.ariWindows cert.ariCertId
          (some { notBefore := cert.notBefore, notAfter := cert.notAfter })
      issued :=
        if cert.fingerprint = "" then v.issued
        else Function.update v.issued cert.fingerprint (some issued) })

def applyCertificateRevokedEvent (fingerprint serial : String) (reason : Nat) (at_ : Nat)
    (v : View) : Except String View :=
  if fingerprint = "" then .error "acme: malformed certificate-revoked event"
  else .ok { v with
    revoked := Function.update v.revoked fingerprint (some { serial, reason, at_ }) }

def applyEarlyRenewalEvent (certId : String) (v : View) : Except String View :=
  if certId = "" then .error "acme: malformed early-renewal event"
  else .ok { v with earlyRenew := Function.update v.earlyRenew certId true }

def applyStateEvent (v : View) : StateEvent → Except String View
  | .accountUpserted seq id url jwk contact => v.applyAccountEvent seq id url jwk contact
  | .orderCreated seq order authorizations =>
      .ok (v.applyOrderCreatedEvent seq order authorizations)
  | .challengeValidated challengeId authzId orderId orderStatus =>
    v.applyChallengeValidatedEvent challengeId authzId orderId orderStatus
  | .certificateIssued seq orderId certId cert issued =>
    v.applyCertificateIssuedEvent seq orderId certId cert issued
  | .certificateRevoked fingerprint serial reason at_ =>
    v.applyCertificateRevokedEvent fingerprint serial reason at_
  | .earlyRenewalMarked certId => v.applyEarlyRenewalEvent certId

def replay : List StateEvent → View → Except String View
  | [], v => .ok v
  | e :: rest, v => do replay rest (← v.applyStateEvent e)

end View

end Trustctl.Acme
