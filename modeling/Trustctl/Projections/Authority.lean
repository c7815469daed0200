import Trustctl.Projections.Inventory

/-!
# Certificate authority and agent events

The events of issued serials, revocation lists, responders, key ceremonies, authorities
and agents: their payloads and the cases of `ApplyTx` that project them.  `now` is the
database clock, which stamps the creation time of an agent row.

Every one of these events replays (`AuthorityEvent.replays`), also when the two
applications read the clock at different times.
-/

namespace Trustctl.Projections

open Relational Store

/-! ## Payloads -/

structure CaAuthorityRekeyed where
  id : Uuid
  predecessorCaId : Uuid
  parentId : Option Uuid := none
  commonName : String
  kind : String
  certificatePem : String
  signerHandle : String
  serial : String
  notAfter : Time
  maxPathLen : Int
  permittedDnsNames : List String := []
  ekus : List String := []

structure CrlPublished where
  caId : Uuid
  number : Int
  der : String := ""
  thisUpdate : Time := 0
  nextUpdate : Time := 0
  revokedCount : Int := 0
  kind : String := ""
  shardIndex : Int := 0
  shardCount : Int := 0
  deltaBaseNumber : Option Int := none
  parentNumber : Option Int := none

structure OcspResponderRotated where
  caId : Uuid
  serial : String
  certDer : String
  notBefore : Time
  notAfter : Time
  rotatedFromSerial : String := ""

/-- The authority and agent events the projector decodes. -/
inductive AuthorityEvent
  /-- `ca.certificate.issued`, or `ca.endentity.issued` with the same payload. -/
  | caIssuedCertificate (endEntity : Bool) (caId : Uuid) (serial : String) (issuedAt : Time)
  | caCertificateRevoked (caId : Uuid) (serial : String) (reason reasonCode : Int)
      (revokedAt : Time)
  | caCeremonyStarted (ceremonyId : Uuid) (purpose : String) (threshold : Int) (opener : String)
  | caCeremonyApproved (ceremonyId : Uuid) (custodian : String)
  | caAuthorityRotated (predecessorCaId successorCaId : Uuid)
  | caAuthorityRekeyed (pl : CaAuthorityRekeyed)
  | crlPublished (pl : CrlPublished)
  | ocspResponderRotated (pl : OcspResponderRotated)
  | agentHeartbeat (id : Uuid) (agent version status : String)
  | agentCertRenewed (id : Uuid) (agent : String)
  | agentCertRevoked (id : Uuid) (agent serial fingerprint reason : String) (revokedAt : Time)
  | agentOffboarded (id : Uuid) (agent reason offboardedBy : String)

/-! ## Projection -/

def AuthorityEvent.type : AuthorityEvent → String
  | .caIssuedCertificate endEntity .. =>
    if endEntity then "ca.endentity.issued" else "ca.certificate.issued"
  | .caCertificateRevoked .. => "ca.certificate.revoked"
  | .caCeremonyStarted .. => "ca.ceremony.started"
  | .caCeremonyApproved .. => "ca.ceremony.approved"
  | .caAuthorityRotated .. => "ca.authority.rotated"
  | .caAuthorityRekeyed .. => "ca.authority.rekeyed"
  | .crlPublished .. => "ca.crl.published"
  | .ocspResponderRotated .. => "ca.ocsp_responder.rotated"
  | .agentHeartbeat .. => "agent.heartbeat"
  | .agentCertRenewed .. => "agent.cert.renewed"
  | .agentCertRevoked .. => "agent.cert.revoked"
  | .agentOffboarded .. => "agent.offboarded"

def CaAuthorityRekeyed.authority (pl : CaAuthorityRekeyed) (e : Envelope) : CaAuthority where
  id := pl.id
  tenantId := e.tenantId
  parentId := pl.parentId
  commonName := pl.commonName
  kind := pl.kind
  status := "active"
  certificatePem := pl.certificatePem
  signerHandle := some pl.signerHandle
  serial := pl.serial
  notAfter := some pl.notAfter
  maxPathLen := pl.maxPathLen
  permittedDnsNames := pl.permittedDnsNames
  ekus := pl.ekus
  replacesId := none
  createdAt := e.time

/-- The row of a published revocation list. -/
def CrlPublished.crl (pl : CrlPublished) (e : Envelope) : Crl where
  tenantId := e.tenantId
  caId := pl.caId
  number := pl.number
  der := pl.der
  thisUpdate := pl.thisUpdate.orElse e.time
  nextUpdate := pl.nextUpdate
  createdAt := e.time
  kind := pl.kind
  shardIndex := pl.shardIndex
  shardCount := pl.shardCount
  deltaBaseNumber := pl.deltaBaseNumber
  parentNumber := pl.parentNumber
  revokedCount := pl.revokedCount

/-- One deny-list entry of a revoked agent certificate; an absent selector writes nothing. -/
def revokeAgentSelector (e : Envelope) (agentId : Uuid) (agentName selectorType selector : String)
    (reason : String) (revokedAt : Time) : Sink e.tenantId :=
  if selector = "" then []
  else applyAgentCertRevokedTx {
    tenantId := e.tenantId, agentId, agentName, selectorType, selector, reason, revokedAt }

/-- The cases of `ApplyTx`. -/
def AuthorityEvent.sink (now : Time) (e : Envelope) (b : AuthorityEvent) :
    Except ApplyError (Sink e.tenantId) :=
  let need := require (α := Sink e.tenantId) b.type
  match b with
  | .caIssuedCertificate _ caId serial issuedAt =>
    need (issuedSerial caId serial) "ca_id and serial"
      (.ok (recordIssuedCertTx e.tenantId caId serial (issuedAt.orElse e.time)))
  | .caCertificateRevoked caId serial reason reasonCode revokedAt =>
    let code := if reasonCode ≠ 0 then reasonCode else reason
    need (issuedSerial caId serial) "ca_id and serial"
      (revokeIssuedCertTx e.tenantId caId serial code (revokedAt.orElse e.time))
  | .caCeremonyStarted ceremonyId purpose threshold opener =>
    need (ceremonyId ≠ "" ∧ purpose ≠ "" ∧ 1 ≤ threshold)
      "ceremony_id, purpose, and positive threshold"
      (.ok (applyKeyCeremonyStartedTx {
        id := ceremonyId, tenantId := e.tenantId, purpose, threshold, status := "pending",
        opener, createdAt := e.time }))
  | .caCeremonyApproved ceremonyId custodian =>
    need (ceremonyId ≠ "" ∧ custodian ≠ "") "ceremony_id and custodian"
      (applyKeyCeremonyApprovedTx e.tenantId ceremonyId custodian e.id e.sequence e.time)
  | .caAuthorityRotated predecessor successor =>
    need (predecessor ≠ "" ∧ successor ≠ "") "predecessor_ca_id and successor_ca_id"
      (.ok (applyCaAuthorityRotatedTx e.tenantId predecessor successor))
  | .caAuthorityRekeyed pl =>
    need (pl.id ≠ "" ∧ pl.predecessorCaId ≠ "" ∧ pl.commonName ≠ "" ∧ pl.kind ≠ "" ∧
        pl.certificatePem ≠ "" ∧ pl.signerHandle ≠ "" ∧ pl.serial ≠ "" ∧ pl.notAfter ≠ 0)
      "a complete signer-backed successor authority"
      (.ok (applyCaAuthorityRekeyedTx (pl.authority e) pl.predecessorCaId))
  | .crlPublished pl =>
    -- The first payload shape was audit metadata without the list itself.
    if e.version = 1 ∧ pl.der = "" then .ok []
    else
      let need := require (α := Sink e.tenantId) (b.type ++ " v" ++ toString e.version)
      need (pl.caId ≠ "" ∧ pl.number ≠ 0 ∧ pl.der ≠ "") "ca_id, crl_number, and crl_der"
        (need (pl.nextUpdate ≠ 0) "next_update" (.ok (insertCrlTx (pl.crl e))))
  | .ocspResponderRotated pl =>
    need (pl.caId ≠ "" ∧ pl.serial ≠ "" ∧ pl.certDer ≠ "" ∧ pl.notAfter ≠ 0)
      "ca_id, serial, cert_der, and not_after"
      (.ok (upsertOcspResponderTx {
        tenantId := e.tenantId, caId := pl.caId, serial := pl.serial, certDer := pl.certDer,
        notBefore := pl.notBefore.orElse e.time, notAfter := pl.notAfter,
        rotatedFromSerial := pl.rotatedFromSerial, createdAt := e.time }))
  | .agentHeartbeat id agent version status =>
    .ok (applyAgentHeartbeatTx {
      id, tenantId := e.tenantId, name := agent, status, version, lastSeenAt := some e.time,
      createdAt := now })
  | .agentCertRenewed id agent =>
    .ok (applyAgentCertRenewedTx {
      id, tenantId := e.tenantId, name := agent, status := "active", version := "",
      lastSeenAt := some e.time, createdAt := now })
  | .agentCertRevoked id agent serial fingerprint reason revokedAt =>
    let at_ := revokedAt.orElse e.time
    need (id ≠ "" ∧ (serial ≠ "" ∨ fingerprint ≠ "")) "id and serial or fingerprint"
      (.ok (revokeAgentSelector e id agent "serial" serial reason at_ ++
        revokeAgentSelector e id agent "fingerprint" fingerprint reason at_))
  | .agentOffboarded id agent reason offboardedBy =>
    need (id ≠ "") "id"
      (.ok (applyAgentOffboardedTx e.tenantId id agent e.time offboardedBy reason now))

/-! ## Replay -/

/-- Evidence of an approval: the first application either records it or finds the
ceremony closed with it. -/
theorem replays_ceremonyApproved {τ ceremonyId : Uuid} {owner eid : String}
    {eventSeq : Nat} {approvedAt : Time} {p : Sink τ}
    (sunk : applyKeyCeremonyApprovedTx τ ceremonyId owner eid eventSeq approvedAt = .ok p) :
    Replays p p := by
  have stmts : p = [ .guard (ceremonyAcceptsApproval ceremonyId owner eid eventSeq),
      .skipIf (ceremonyClosed ceremonyId)
        (recordApproval τ ceremonyId owner eid eventSeq approvedAt)] := by
    unfold applyKeyCeremonyApprovedTx at sunk
    split at sunk
    · cases sunk
    · split at sunk
      · cases sunk
      · exact (Except.ok.inj sunk).symm
  subst stmts
  intro s db db' ran
  obtain ⟨mid, pass, noted⟩ := run_cons_ok.mp ran
  obtain ⟨takes, rfl⟩ := exec_guard.mp pass
  rw [run_singleton, exec_skipIf] at noted
  cases closed : ceremonyClosed ceremonyId (slice τ mid.tables) with
  | true =>
    rw [closed, if_pos rfl] at noted
    cases noted
    exact ran
  | false =>
    rw [closed, if_neg Bool.false_ne_true] at noted
    -- The approval leaves the ceremony itself alone, and it is still pending.
    have cers : findCeremony (slice τ db'.tables) ceremonyId =
        findCeremony (slice τ mid.tables) ceremonyId := by
      unfold findCeremony slice
      rw [exec_frame noted (t := .caKeyCeremonies) (by simp [recordApproval, Stmt.footprint])]
    have done : Settles (recordApproval τ ceremonyId owner eid eventSeq approvedAt) := by
      refine settles_upsert (by simp) rfl (fun _ h => h) fun r _ => ?_
      cases r.approvalEventId <;> cases r.approvalEventSequence <;> rfl
    refine run_cons_ok.mpr ⟨db', exec_guard.mpr ⟨?_, rfl⟩, ?_⟩
    · unfold ceremonyAcceptsApproval ceremonyClosed at *
      rw [cers]
      cases found : findCeremony (slice τ mid.tables) ceremonyId with
      | none => simp [found] at takes
      | some c =>
        have pending : c.status = "pending" := by simpa [found] using closed
        simpa [found, pending] using takes
    · rw [run_singleton, exec_skipIf, if_neg]
      · exact done noted
      · simpa [ceremonyClosed, cers] using closed

/-- The successor takes its predecessor's place. -/
theorem stable_authorityRotated (τ pred succ : Uuid) :
    Stable [.caAuthorities] (applyCaAuthorityRotatedTx τ pred succ) := by
  refine .cons (settles_rowUpdate (fun _ _ _ => rfl) (by simp)) ?_ reads_rowUpdate
    (.refl _) (stable_rowUpdate (fun _ _ _ => rfl) (by simp))
  simp only [List.mem_singleton]
  rintro next rfl
  refine keeps_rowUpdate rewrites_rowUpdate (by simp) ?_ fun _ _ h _ => h
  intro r _ same hit
  exact congrArg (fun (r : CaAuthority) => { r with replacesId := some pred }) (same hit)

theorem settles_recordAuthority (a : CaAuthority) : Settles (recordAuthority a) :=
  settles_upsert (by simp) rfl (fun _ h => h) fun _ _ => rfl

/-- A successor under its own identifier leaves the superseded row alone; one under its
predecessor's identifier overwrites it. -/
theorem replays_authorityRekeyed (a : CaAuthority) (pred : Uuid) :
    Replays (applyCaAuthorityRekeyedTx a pred) (applyCaAuthorityRekeyedTx a pred) := by
  by_cases reused : a.id = pred
  · subst reused
    exact replays_overwritten (fun tables => valid_authorityStatus tables _ _)
      (settles_recordAuthority _) (fun _ => rfl) fun _ _ => rfl
  · have stable : Stable [.caAuthorities] (applyCaAuthorityRekeyedTx a pred) := by
      refine .cons (settles_rowUpdate (fun _ _ _ => rfl) (by simp)) ?_ reads_rowUpdate
        (.refl _) (.single (settles_recordAuthority _) reads_insert (.refl _))
      simp only [List.mem_singleton]
      rintro next rfl
      refine keeps_rowUpdate rewrites_upsert ?_ ?_ ?_
      · simp [reused]
      · intro r clash _ hit
        simp_all
      · intro _ r hit clash
        simp_all
    exact stable.replays

theorem stable_denyAgentCert (n : AgentCertRevocation) :
    Stable [.agentCertRevocations] [denyAgentCert n] := by
  refine stable_upsert (by simp) ?_ (fun _ h => h) fun r _ => ?_
  · simp
  · by_cases named : r.agentName = "" <;> by_cases given : r.reason = "" <;> simp [named, given]

/-- Entries under different selector types do not meet. -/
theorem keeps_denyAgentCert (n : AgentCertRevocation) {selectorType : String} (selector : String)
    (ne : n.selectorType ≠ selectorType) :
    Keeps (denyAgentCert n) (denyAgentCert { n with selectorType, selector }) := by
  refine keeps_upsert rewrites_upsert ?_ ?_ ?_
  · simp [ne.symm]
  · intro r _
    rfl
  · intro r hit clash
    simp only [decide_eq_true_eq] at hit clash
    exact absurd (clash.2.2.1.symm.trans hit.2.2.1) ne

section CertRevoked

variable (e : Envelope) (agentId : Uuid) (agentName : String) (reason : String) (revokedAt : Time)

theorem revokeAgentSelector_cases {selectorType : String}
    (normal : normalizeAgentCertSelectorType selectorType = selectorType) (selector : String) :
    revokeAgentSelector e agentId agentName selectorType selector reason revokedAt = [] ∨
      ∃ norm, revokeAgentSelector e agentId agentName selectorType selector reason revokedAt =
          [denyAgentCert {
            tenantId := e.tenantId, agentId, agentName, selectorType, selector := norm,
            reason, revokedAt }] := by
  by_cases gone : selector = ""
  · exact .inl (by simp only [revokeAgentSelector, gone, if_true])
  by_cases empty : selectorType = "" ∨ normalizeAgentCertSelector selectorType selector = ""
  · exact .inl (by simp only [revokeAgentSelector, applyAgentCertRevokedTx, gone, normal,
      empty, if_true, if_false])
  · refine .inr ⟨normalizeAgentCertSelector selectorType selector, ?_⟩
    simp only [revokeAgentSelector, applyAgentCertRevokedTx, gone, normal, empty, if_false]
    generalize normalizeAgentCertSelectorType selectorType = normalType at normal
    subst normal
    rfl

/-- A revoked certificate is denied under each selector the event gives. -/
theorem stable_agentCertRevoked (serial fp : String) : Stable [.agentCertRevocations]
      (revokeAgentSelector e agentId agentName "serial" serial reason revokedAt ++
        revokeAgentSelector e agentId agentName "fingerprint" fp reason revokedAt) := by
  have bySerial : normalizeAgentCertSelectorType "serial" = "serial" := by decide
  have byFingerprint : normalizeAgentCertSelectorType "fingerprint" = "fingerprint" := by decide
  have first := revokeAgentSelector_cases e agentId agentName reason revokedAt bySerial serial
  have second :=
    revokeAgentSelector_cases e agentId agentName reason revokedAt byFingerprint fp
  rcases first with none | ⟨norm, one⟩
  · rcases second with none' | ⟨normalized', one'⟩
    · rw [none, none']
      exact .nil
    · rw [none, one']
      exact stable_denyAgentCert _
  · rcases second with none' | ⟨normalized', one'⟩
    · rw [one, none']
      exact stable_denyAgentCert _
    · rw [one, one']
      refine (stable_denyAgentCert _).join (stable_denyAgentCert _) ?_
      simp only [List.mem_singleton]
      rintro _ rfl _ rfl
      exact keeps_denyAgentCert _ normalized' (by simp)

end CertRevoked

theorem keepText_keepText (old : Option String) (new : String) :
    keepText (keepText old new) new = keepText old new := by
  unfold keepText
  by_cases empty : old.getD "" = ""
  · by_cases blank : new = ""
    · simp [empty, blank]
    · simp [empty, blank]
  · simp [empty]

/-- Every authority and agent event replays, whatever the database clock says. -/
theorem AuthorityEvent.replays {now now' : Time} {e : Envelope} {b : AuthorityEvent}
    {p q : Sink e.tenantId} (sunk : b.sink now e = .ok p) (again : b.sink now' e = .ok q) :
    Replays p q := by
  cases b with
  | caIssuedCertificate | caCeremonyStarted =>
    obtain ⟨-, ⟨⟩⟩ := require_ok.mp sunk
    obtain ⟨-, ⟨⟩⟩ := require_ok.mp again
    exact Stable.replays (stable_insertIgnore (by simp))
  | caCertificateRevoked caId serial reason reasonCode revokedAt =>
    obtain ⟨-, revoked⟩ := require_ok.mp sunk
    obtain ⟨-, revoked'⟩ := require_ok.mp again
    cases revoked.symm.trans revoked'
    exact (stable_revokeIssuedCert revoked).replays
  | caCeremonyApproved cid owner =>
    obtain ⟨-, approved⟩ := require_ok.mp sunk
    obtain ⟨-, approved'⟩ := require_ok.mp again
    cases approved.symm.trans approved'
    exact replays_ceremonyApproved approved
  | caAuthorityRotated pred succ =>
    obtain ⟨-, ⟨⟩⟩ := require_ok.mp sunk
    obtain ⟨-, ⟨⟩⟩ := require_ok.mp again
    exact (stable_authorityRotated ..).replays
  | caAuthorityRekeyed pl =>
    obtain ⟨-, ⟨⟩⟩ := require_ok.mp sunk
    obtain ⟨-, ⟨⟩⟩ := require_ok.mp again
    exact replays_authorityRekeyed _ _
  | crlPublished pl =>
    cases sunk.symm.trans again
    simp only [AuthorityEvent.sink] at sunk
    split at sunk
    · cases sunk
      exact replays_nil
    · obtain ⟨-, dated⟩ := require_ok.mp sunk
      obtain ⟨-, ⟨⟩⟩ := require_ok.mp dated
      exact Stable.replays (stable_upsert (by simp) rfl (fun _ h => h) fun _ _ => rfl)
  | ocspResponderRotated pl =>
    obtain ⟨-, ⟨⟩⟩ := require_ok.mp sunk
    obtain ⟨-, ⟨⟩⟩ := require_ok.mp again
    exact Stable.replays (stable_upsert (by simp) rfl (fun _ h => h) fun _ _ => rfl)
  | agentHeartbeat | agentCertRenewed =>
    cases sunk
    cases again
    refine replays_restamped (settles_upsert (by simp) (by simp) ?_ ?_)
    · intro r clash
      by_cases gone : r.status = "offboarded" <;> simpa [gone] using clash
    · intro r _
      by_cases gone : r.status = "offboarded" <;> simp [gone]
  | agentCertRevoked id agent serial fp reason revokedAt =>
    obtain ⟨-, ⟨⟩⟩ := require_ok.mp sunk
    obtain ⟨-, ⟨⟩⟩ := require_ok.mp again
    exact (stable_agentCertRevoked ..).replays
  | agentOffboarded id agent reason offboardedBy =>
    obtain ⟨-, ⟨⟩⟩ := require_ok.mp sunk
    obtain ⟨named, ⟨⟩⟩ := require_ok.mp again
    have here : id ≠ "" := by simpa using named
    simp only [applyAgentOffboardedTx, here, if_false]
    refine replays_restamped (settles_upsert (by simp) ?_ (fun _ h => h) ?_)
    · simp [keepText]
    · intro r _
      by_cases unnamed : r.name = "" <;> cases r.offboardedAt <;>
        simp [unnamed, keepText_keepText]

end Trustctl.Projections
