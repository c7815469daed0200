import Trustctl.Store.Statement

/-!
# Certificate authority and agent sinks

The projection sinks of issued serials, revocation lists, responders, key ceremonies,
authorities and agents, statement by statement.
-/

namespace Trustctl.Store

open Relational

/-! ## Issued serials, revocation lists and responders -/

def recordIssuedCertTx (τ caId : Uuid) (serial : String) (issuedAt : Time) : Sink τ := [
  insertIgnore .caIssuedCerts { tenantId := τ, caId, serial, issuedAt : IssuedCert }
    (fun (r : IssuedCert) => r.tenantId = τ ∧ r.caId = caId ∧ r.serial = serial) rfl]

def validCrlReasonCode (code : Int) : Bool := 0 ≤ code && code ≤ 10 && code ≠ 7

/-- `RevokeIssuedCertTx`; the first revocation time wins. -/
def revokeIssuedCertTx (τ caId : Uuid) (serial : String) (reasonCode : Int) (at_ : Time) :
    Except ApplyError (Sink τ) :=
  if validCrlReasonCode reasonCode then
    .ok [ upsert .caIssuedCerts
        { tenantId := τ, caId, serial, issuedAt := at_, revokedAt := some at_, reasonCode :
          IssuedCert }
        (fun (r : IssuedCert) => r.tenantId = τ ∧ r.caId = caId ∧ r.serial = serial)
        (fun (r : IssuedCert) => { r with
          revokedAt := if r.revokedAt = none then some at_ else r.revokedAt
          reasonCode := if r.revokedAt = none then reasonCode else r.reasonCode })
        rfl fun _ => rfl]
  else .error (.store ("store: invalid RFC 5280 revocation reason code " ++ toString reasonCode))

/-- `InsertCRLTx`, after `normalizeCRL`. -/
def insertCrlTx (c : Crl) : Sink c.tenantId :=
  let kind := if c.kind = "" then "full" else c.kind
  let shardCount := if c.shardCount = 0 then 1 else c.shardCount
  [upsert .caCrls ({ c with kind, shardCount } : Crl)
    (fun (r : Crl) => r.tenantId = c.tenantId ∧ r.caId = c.caId ∧ r.number = c.number)
    (fun (r : Crl) => { r with
      der := c.der, thisUpdate := c.thisUpdate, nextUpdate := c.nextUpdate,
      createdAt := c.createdAt, kind, shardIndex := c.shardIndex, shardCount,
      deltaBaseNumber := c.deltaBaseNumber, parentNumber := c.parentNumber,
      revokedCount := c.revokedCount })
    rfl fun _ => rfl]

def upsertOcspResponderTx (o : OcspResponder) : Sink o.tenantId := [
  upsert .caOcspResponders o (fun (r : OcspResponder) => r.tenantId = o.tenantId ∧ r.caId = o.caId)
    (fun (r : OcspResponder) => { r with
      serial := o.serial, certDer := o.certDer, notBefore := o.notBefore,
      notAfter := o.notAfter, rotatedFromSerial := o.rotatedFromSerial,
      createdAt := o.createdAt })
    rfl fun _ => rfl]

/-! ## Key ceremonies -/

/-- `ApplyKeyCeremonyStartedTx`; the conflict target is the global id. -/
def applyKeyCeremonyStartedTx (c : KeyCeremony) : Sink c.tenantId := [
  insertIgnore .caKeyCeremonies c (fun (r : KeyCeremony) => r.id = c.id) rfl]

def findCeremony (view : Tables Row) (id : Uuid) : Option KeyCeremony :=
  (view .caKeyCeremonies).find? fun (c : KeyCeremony) => c.id = id

/-- The custodian's approval already carries this event as its evidence. -/
def approvalEvidenced (view : Tables Row) (ceremonyId : Uuid) (custodian eventId : String)
    (eventSeq : Nat) : Bool :=
  (view .caCeremonyApprovals).any fun (a : CeremonyApproval) =>
    a.ceremonyId = ceremonyId ∧ a.custodian = custodian ∧ a.approvalEventId = some eventId ∧
      a.approvalEventSequence = some eventSeq

/-- The checks `ApplyKeyCeremonyApprovedTx` makes on the ceremony before it writes. -/
def ceremonyAcceptsApproval (ceremonyId : Uuid) (custodian eventId : String) (eventSeq : Nat)
    (view : Tables Row) : Option ApplyError :=
  match findCeremony view ceremonyId with
  | none => some .noRows
  | some c =>
    if c.status ≠ "pending" then
      if approvalEvidenced view ceremonyId custodian eventId eventSeq then none
      else some (.store "store: key ceremony is not pending")
    else if c.opener ≠ "" ∧ c.opener = custodian then
      some (.store
        "store: ceremony opener may not approve their own ceremony (separation of duties)")
    else none

def ceremonyClosed (ceremonyId : Uuid) (view : Tables Row) : Bool :=
  (findCeremony view ceremonyId).any fun c => c.status ≠ "pending"

/-- The `INSERT` of `ApplyKeyCeremonyApprovedTx`; the first evidence wins. -/
def recordApproval (τ ceremonyId : Uuid) (custodian eventId : String) (eventSeq : Nat)
    (approvedAt : Time) : Stmt Row ApplyError τ :=
  upsert .caCeremonyApprovals
    { tenantId := τ, ceremonyId, custodian, approvedAt, approvalEventId := some eventId,
      approvalEventSequence := some eventSeq : CeremonyApproval }
    (fun (r : CeremonyApproval) =>
      r.tenantId = τ ∧ r.ceremonyId = ceremonyId ∧ r.custodian = custodian)
    (fun (r : CeremonyApproval) => { r with
      approvalEventId := r.approvalEventId <|> some eventId
      approvalEventSequence := r.approvalEventSequence <|> some eventSeq })
    rfl fun _ => rfl

def applyKeyCeremonyApprovedTx (τ ceremonyId : Uuid) (custodian eventId : String)
    (eventSeq : Nat) (approvedAt : Time) : Except ApplyError (Sink τ) :=
  if custodian = "" then
    .error (.store "store: ceremony approval requires an authenticated custodian identity")
  else if eventId = "" ∨ eventSeq = 0 then
    .error (.store "store: ceremony approval evidence requires event id and sequence")
  else .ok [ .guard (ceremonyAcceptsApproval ceremonyId custodian eventId eventSeq),
    .skipIf (ceremonyClosed ceremonyId)
      (recordApproval τ ceremonyId custodian eventId eventSeq approvedAt)]

/-! ## Authorities -/

def supersedeAuthority (τ id : Uuid) : Stmt Row ApplyError τ :=
  rowUpdate .caAuthorities (fun (r : CaAuthority) => r.id = id)
    (fun (r : CaAuthority) => { r with status := "superseded" }) (some .noRows) fun _ => rfl

def applyCaAuthorityRotatedTx (τ predecessorId successorId : Uuid) : Sink τ := [
  supersedeAuthority τ predecessorId,
  rowUpdate .caAuthorities (fun (r : CaAuthority) => r.id = successorId)
    (fun (r : CaAuthority) => { r with replacesId := some predecessorId })
    (some .noRows) fun _ => rfl]

/-- The `INSERT` of `ApplyCAAuthorityRekeyedTx`.  Its update is confined to the tenant's own
row, and `NULLIF` on the serial never bites because the projector demands one. -/
def recordAuthority (a : CaAuthority) : Stmt Row ApplyError a.tenantId :=
  .insert .caAuthorities a (fun (r : CaAuthority) => r.id = a.id)
    (some fun (r : CaAuthority) => { r with
      parentId := a.parentId, commonName := a.commonName, kind := a.kind, status := a.status,
      certificatePem := a.certificatePem, signerHandle := a.signerHandle, serial := a.serial,
      notAfter := a.notAfter, maxPathLen := a.maxPathLen,
      permittedDnsNames := a.permittedDnsNames, ekus := a.ekus, replacesId := a.replacesId,
      createdAt := a.createdAt })
    (some .noRows) rfl (by rintro _ ⟨⟩ _; rfl)

def applyCaAuthorityRekeyedTx (successor : CaAuthority) (predecessorId : Uuid) :
    Sink successor.tenantId :=
  let status := if successor.status = "" then "active" else successor.status
  let replacesId := successor.replacesId <|> some predecessorId
  [supersedeAuthority successor.tenantId predecessorId,
    recordAuthority { successor with status, replacesId }]

/-! ## Agents -/

/-- `ApplyAgentHeartbeatTx`; an offboarded agent is left as it is. -/
def applyAgentHeartbeatTx (a : Agent) : Sink a.tenantId := [
  upsert .agents a (fun (r : Agent) => r.tenantId = a.tenantId ∧ r.id = a.id)
    (fun (r : Agent) => if r.status = "offboarded" then r else { r with
      name := a.name, status := a.status, version := a.version, lastSeenAt := a.lastSeenAt })
    rfl fun r => by split <;> rfl]

def applyAgentCertRenewedTx (a : Agent) : Sink a.tenantId := [
  upsert .agents a (fun (r : Agent) => r.tenantId = a.tenantId ∧ r.id = a.id)
    (fun (r : Agent) => if r.status = "offboarded" then r else { r with
      name := a.name, lastSeenAt := a.lastSeenAt })
    rfl fun r => by split <;> rfl]

/-- The non-empty text of a nullable column, or the new one. -/
def keepText (old : Option String) (new : String) : Option String :=
  if old.getD "" = "" then some new else old

/-- `ApplyAgentOffboardedTx`; `now` is the row's own creation stamp. -/
def applyAgentOffboardedTx (τ id : Uuid) (name : String) (at_ : Time) (by_ reason : String)
    (now : Time) : Sink τ :=
  if id = "" then []
  else
    let name := if trimSpace name = "" then id else name
    [upsert .agents
      { id, tenantId := τ, name, status := "offboarded", version := "", lastSeenAt := none,
        createdAt := now, offboardedAt := some at_, offboardedBy := some by_,
        offboardReason := some reason : Agent }
      (fun (r : Agent) => r.tenantId = τ ∧ r.id = id)
      (fun (r : Agent) => { r with
        status := "offboarded"
        name := if r.name = "" then name else r.name
        offboardedAt := some (match r.offboardedAt with | none => at_ | some old => min old at_)
        offboardedBy := keepText r.offboardedBy by_
        offboardReason := keepText r.offboardReason reason })
      rfl fun _ => rfl]

def normalizeAgentCertSelectorType (v : String) : String :=
  let v := toLower (trimSpace v)
  if v = "serial" ∨ v = "fingerprint" then v else ""

def normalizeAgentCertSelector (selectorType v : String) : String :=
  let v := toLower (trimSpace v)
  if selectorType = "serial" then dropColons v
  else if selectorType = "fingerprint" then dropColons (trimPrefix "sha256:" v)
  else ""

/-- The `INSERT` of `ApplyAgentCertRevokedTx`; the earliest revocation time wins. -/
def denyAgentCert (n : AgentCertRevocation) : Stmt Row ApplyError n.tenantId :=
  upsert .agentCertRevocations n
    (fun (r : AgentCertRevocation) => r.tenantId = n.tenantId ∧ r.agentId = n.agentId ∧
      r.selectorType = n.selectorType ∧ r.selector = n.selector)
    (fun (r : AgentCertRevocation) => { r with
      agentName := if r.agentName = "" then n.agentName else r.agentName
      reason := if r.reason = "" then n.reason else r.reason
      revokedAt := min r.revokedAt n.revokedAt })
    rfl fun _ => rfl

def applyAgentCertRevokedTx (n : AgentCertRevocation) : Sink n.tenantId :=
  let selectorType := normalizeAgentCertSelectorType n.selectorType
  let selector := normalizeAgentCertSelector selectorType n.selector
  if selectorType = "" ∨ selector = "" then []
  else [denyAgentCert { n with selectorType, selector }]

end Trustctl.Store
