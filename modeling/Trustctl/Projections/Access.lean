import Trustctl.Projections.Event
import Trustctl.Relational.Tenancy

/-!
# The tables an event touches

For each event the accesses its transaction may make, as a table beside the sinks, and the
proof that the sinks stay inside it (`applyTx_confined`).
-/

namespace Trustctl.Projections

open Store Relational List Systems

/-! ## Declared accesses -/

def InventoryEvent.accesses : InventoryEvent → List (Access Table)
  | .ownerCreated .. => [.upsert .owners]
  | .ownerUpdated .. => [.update .owners]
  | .ownerDeleted .. => [.delete .owners]
  | .issuerCreated .. => [.upsert .issuers]
  | .identityCreated .. => [.upsert .identities]
  | .identityTransitioned .. => [.update .identities, .upsert .identityTransitions]
  | .identityConnectorTargetBound .. => [.update .identities]
  | .certificateRecorded .. =>
    [.upsert .certificates, .update .certificates, .insertIgnore .caIssuedCerts]
  | .certificateRevoked .. => [.update .certificates, .upsert .caIssuedCerts]
  | .certificateSuperseded .. => [.update .certificates]
  | .profileVersioned .. => [.update .certificateProfiles, .upsert .certificateProfiles]
  | .cbomAssetObserved .. => [.upsert .cryptoAssets]
  | .pqcMigrationStarted .. => []
  | .pqcMigrationAssetCompleted .. => [.update .cryptoAssets]
  | .pqcMigrationRollbackCompleted .. => [.update .cryptoAssets]
  | .deploymentTargetUpserted .. => [.upsert .deploymentTargets]
  | .deploymentTargetDeleted .. => [.delete .deploymentTargets]

def AuthorityEvent.accesses : AuthorityEvent → List (Access Table)
  | .caIssuedCertificate .. => [.insertIgnore .caIssuedCerts]
  | .caCertificateRevoked .. => [.upsert .caIssuedCerts]
  | .caCeremonyStarted .. => [.insertIgnore .caKeyCeremonies]
  | .caCeremonyApproved .. => [.upsert .caCeremonyApprovals]
  | .caAuthorityRotated .. => [.update .caAuthorities]
  | .caAuthorityRekeyed .. => [.update .caAuthorities, .upsert .caAuthorities]
  | .crlPublished .. => [.upsert .caCrls]
  | .ocspResponderRotated .. => [.upsert .caOcspResponders]
  | .agentHeartbeat .. | .agentCertRenewed .. | .agentOffboarded .. => [.upsert .agents]
  | .agentCertRevoked .. => [.upsert .agentCertRevocations]

def OperationsEvent.accesses : OperationsEvent → List (Access Table)
  | .discoverySourceUpserted .. => [.upsert .discoverySources]
  | .discoveryScheduleUpserted .. => [.upsert .discoverySchedules]
  | .discoveryRunQueued .. => [.upsert .discoveryRuns]
  | .discoveryRunStarted .. | .discoveryRunCompleted .. => [.update .discoveryRuns]
  | .discoveryFindingRecorded .. => [.upsert .discoveryFindings]
  | .discoveryFindingTriageChanged .. => [.update .discoveryFindings]
  | .acmeDns01ProviderConfigUpserted .. => [.upsert .acmeDns01ProviderConfigs]
  | .acmeDns01ProviderConfigDeleted .. => [.delete .acmeDns01ProviderConfigs]
  | .acmeDns01Preflighted .. | .acmeDns01RecordChanged .. => []
  | .mdmScepPolicyUpserted .. => [.upsert .mdmScepPolicies]
  | .mdmScepPolicyDeleted .. => [.delete .mdmScepPolicies]
  | .mdmScepChallengeRotated .. => [.update .mdmScepPolicies]
  | .workloadAttesterTrustSourceUpserted .. => [.upsert .workloadAttesterTrustSources]
  | .workloadAttesterTrustSourceRotated .. | .workloadAttesterTrustSourceRevoked .. =>
    [.update .workloadAttesterTrustSources]
  | .workloadAttesterTrustSourceDeleted .. => [.delete .workloadAttesterTrustSources]
  | .complianceReportScheduleUpserted .. => [.upsert .complianceReportSchedules]
  | .secretRotationScheduleUpserted .. => [.upsert .secretRotationSchedules]
  | .secretRotationScheduleRan .. => [.update .secretRotationSchedules]
  | .notificationThresholdDelivered .. => [.upsert .notificationThresholdDeliveries]
  | .notificationChannelUpserted .. => [.upsert .notificationChannels]
  | .notificationChannelDeleted .. => [.delete .notificationChannels]
  | .notificationRoutingPolicyUpserted .. => [.upsert .notificationRoutingPolicies]
  | .notificationRoutingPolicyDeleted .. => [.delete .notificationRoutingPolicies]
  | .notificationRead .. => [.upsert .notificationReads]
  | .connectorDeliveryRecorded .. => [.upsert .connectorDeliveryReceipts]
  | .lifecycleRotationRecorded .. => [.upsert .lifecycleRotationRuns]
  | .incidentExecutionRecorded .. => [.upsert .incidentExecutions]
  | .incidentFleetReissuanceRecorded .. => [.upsert .incidentFleetReissuanceRuns]
  | .remediationPlaybookRunRecorded .. => [.upsert .remediationPlaybookRuns]
  | .responseIntegrationDispatched .. => []

def GovernanceEvent.accesses : GovernanceEvent → List (Access Table)
  | .tenantMemberUpserted .. => [.upsert .tenantMembers]
  | .tenantMemberOffboarded .. => [.upsert .tenantMembers, .update .apiTokens]
  | .apiTokenCreated .. => [.upsert .apiTokens]
  | .apiTokenRevoked .. => [.update .apiTokens]
  | .pamSessionStarted .. => [.upsert .pamSessions]
  | .pamSessionExpired .. => [.update .pamSessions]
  | .nhiAccessReviewCampaignStarted .. =>
    [.insertIgnore .nhiAccessReviewCampaigns, .insertIgnore .nhiAccessReviewItems]
  | .nhiAccessReviewItemDecided .. =>
    [.update .nhiAccessReviewItems, .update .nhiAccessReviewCampaigns]
  | .accessChangeRequestCreated .. => [.insertIgnore .accessChangeRequests]
  | .accessChangeRequestDecided .. =>
    [.insertIgnore .accessChangeRequestDecisions, .update .accessChangeRequests]

/-- The tables the privacy statements redact. -/
def redactedTables : List Table := [
  .tenantMembers, .apiTokens, .owners, .identities, .certificates, .sshKeys, .attestations,
  .issuanceApprovalRequests, .issuanceApprovals, .certificateProfiles, .agents, .pamSessions,
  .discoveryFindings, .notificationThresholdDeliveries, .incidentExecutions,
  .nhiAccessReviewCampaigns, .nhiAccessReviewItems, .accessChangeRequests,
  .accessChangeRequestDecisions, .discoveryRuns, .notificationRoutingPolicies,
  .remediationPlaybookRuns, .complianceReportSchedules, .incidentFleetReissuanceRuns]

def PrivacyEvent.accesses : PrivacyEvent → List (Access Table)
  | .privacySubjectErased .. => .upsert .privacySubjectErasures :: redactedTables.map .update
  | .privacyRetentionEnforced .. => .upsert .privacyRetentionRuns :: redactedTables.map .update
  | .privacyArchiveErasureAttested .. => [.upsert .privacyArchiveErasureAttestations]

/-- The accesses of an event's transaction inside the tenant. -/
def Event.accesses (e : Event) : List (Access Table) :=
  match e.body with
  | .inventory b => b.accesses
  | .authority b => b.accesses
  | .operations b => b.accesses
  | .governance b => b.accesses
  | .privacy b => b.accesses
  | .tenantRegistered _ | .tenantOffboarded | .raw _ => []

/-! ## The sinks stay inside them -/

/-- Every statement of the transaction is confined to the accesses. -/
def Confined {τ : Uuid} (accesses : List (Access Table)) (p : Sink τ) : Prop :=
  p.all (Stmt.confined accesses)

/-- No statement of the transaction changes a table that is not listed. -/
theorem Confined.apart {τ : Uuid} {accesses : List (Access Table)} {p : Sink τ} {t : Table}
    (confined : Confined accesses p) (unlisted : ∀ a ∈ accesses, a.table ≠ t) :
    ∀ stmt ∈ p, t ∉ stmt.footprint := by
  intro stmt mem touched
  obtain ⟨a, listed, there⟩ :=
    Stmt.footprint_of_confined (all_eq_true.mp confined stmt mem) touched
  exact unlisted a listed there

theorem revokeIssuedCertTx_confined {τ caId : Uuid} {serial : String} {reasonCode : Int}
    {at_ : Time} {p : Sink τ} {accesses : List (Access Table)}
    (revoked : revokeIssuedCertTx τ caId serial reasonCode at_ = .ok p)
    (listed : .upsert .caIssuedCerts ∈ accesses) : Confined accesses p := by
  unfold revokeIssuedCertTx at revoked
  split at revoked
  · cases revoked
    simp [Confined, Stmt.confined, Stmt.access, Access.confined, listed]
  · cases revoked

variable {e : Envelope}

theorem InventoryEvent.sink_confined {b : InventoryEvent} {p : Sink e.tenantId}
    (sunk : b.sink e = .ok p) : Confined b.accesses p := by
  cases b with
  | ownerCreated | ownerUpdated | ownerDeleted | issuerCreated | identityCreated
  | identityTransitioned | certificateSuperseded =>
    cases sunk
    rfl
  | identityConnectorTargetBound | cbomAssetObserved | pqcMigrationStarted
  | pqcMigrationAssetCompleted | pqcMigrationRollbackCompleted | deploymentTargetUpserted
  | deploymentTargetDeleted =>
    obtain ⟨-, ⟨⟩⟩ := require_ok.mp sunk
    rfl
  | certificateRecorded pl =>
    obtain ⟨record, noted, rest⟩ := bind_ok.mp sunk
    have confined : Confined (InventoryEvent.certificateRecorded pl).accesses record := by
      unfold applyCertificateRecordedTx at noted
      split at noted
      · cases noted
      · split at noted <;> (cases noted; rfl)
    split at rest
    · cases rest
      unfold Confined at confined ⊢
      rw [all_append, confined]
      rfl
    · cases rest
      exact confined
  | certificateRevoked pl =>
    simp only [InventoryEvent.sink] at sunk
    split at sunk
    · obtain ⟨issued, revoked, ⟨⟩⟩ := bind_ok.mp sunk
      unfold Confined
      rw [all_append, Bool.and_eq_true]
      exact ⟨rfl, revokeIssuedCertTx_confined revoked (by simp [InventoryEvent.accesses])⟩
    · cases sunk
      rfl
  | profileVersioned made pl =>
    simp only [InventoryEvent.sink] at sunk
    split at sunk
    · cases sunk
      rfl
    · cases sunk
      unfold applyProfileVersionTx
      split <;> rfl

theorem revokeAgentSelector_confined (e : Envelope) (agentId : Uuid)
    (agentName selectorType selector why : String) (revokedAt : Time) :
    Confined [.upsert .agentCertRevocations]
      (revokeAgentSelector e agentId agentName selectorType selector why revokedAt) := by
  unfold revokeAgentSelector
  split
  · rfl
  · unfold applyAgentCertRevokedTx
    dsimp only
    split <;> rfl

theorem AuthorityEvent.sink_confined {now : Time} {b : AuthorityEvent}
    {p : Sink e.tenantId} (sunk : b.sink now e = .ok p) : Confined b.accesses p := by
  cases b with
  | agentHeartbeat | agentCertRenewed =>
    cases sunk
    rfl
  | caIssuedCertificate | caCeremonyStarted | caAuthorityRotated | caAuthorityRekeyed
  | ocspResponderRotated =>
    obtain ⟨-, ⟨⟩⟩ := require_ok.mp sunk
    rfl
  | caCertificateRevoked =>
    obtain ⟨-, revoked⟩ := require_ok.mp sunk
    exact revokeIssuedCertTx_confined revoked (by simp [AuthorityEvent.accesses])
  | caCeremonyApproved =>
    obtain ⟨-, approved⟩ := require_ok.mp sunk
    unfold applyKeyCeremonyApprovedTx at approved
    split at approved
    · cases approved
    · obtain ⟨-, ⟨⟩⟩ := refuse_ok.mp approved
      rfl
  | crlPublished pl =>
    simp only [AuthorityEvent.sink] at sunk
    split at sunk
    · cases sunk
      rfl
    · obtain ⟨-, dated⟩ := require_ok.mp sunk
      obtain ⟨-, ⟨⟩⟩ := require_ok.mp dated
      rfl
  | agentCertRevoked =>
    obtain ⟨-, ⟨⟩⟩ := require_ok.mp sunk
    unfold Confined
    rw [all_append, Bool.and_eq_true]
    exact ⟨revokeAgentSelector_confined .., revokeAgentSelector_confined ..⟩
  | agentOffboarded =>
    obtain ⟨-, ⟨⟩⟩ := require_ok.mp sunk
    unfold applyAgentOffboardedTx
    split <;> rfl

theorem OperationsEvent.sink_confined {b : OperationsEvent} {p : Sink e.tenantId}
    (sunk : b.sink e = .ok p) : Confined b.accesses p := by
  cases b with
  | discoverySourceUpserted | discoveryScheduleUpserted | discoveryRunQueued
  | discoveryRunStarted | discoveryFindingRecorded | discoveryFindingTriageChanged
  | discoveryRunCompleted | notificationThresholdDelivered =>
    cases sunk
    rfl
  | notificationChannelUpserted | notificationChannelDeleted | notificationRoutingPolicyUpserted
  | notificationRoutingPolicyDeleted | notificationRead =>
    obtain ⟨-, ⟨⟩⟩ := refuse_ok.mp sunk
    rfl
  | responseIntegrationDispatched =>
    obtain ⟨-, provided⟩ := require_ok.mp sunk
    obtain ⟨-, ⟨⟩⟩ := require_ok.mp provided
    rfl
  | _ =>
    obtain ⟨-, ⟨⟩⟩ := require_ok.mp sunk
    rfl

variable {h : Digest}

theorem GovernanceEvent.sink_confined {b : GovernanceEvent}
    {p : Sink e.tenantId} (sunk : b.sink h e = .ok p) : Confined b.accesses p := by
  cases b with
  | nhiAccessReviewCampaignStarted id name scope reviewerSubject requestedBy dueAt items =>
    obtain ⟨-, full⟩ := require_ok.mp sunk
    obtain ⟨-, ⟨⟩⟩ := require_ok.mp full
    refine all_eq_true.mpr fun stmt mem => ?_
    rcases mem_cons.mp mem with rfl | item
    · rfl
    · obtain ⟨n, -, rfl⟩ := mem_map.mp item
      rfl
  | _ =>
    obtain ⟨-, ⟨⟩⟩ := require_ok.mp sunk
    rfl

theorem PrivacyEvent.sink_confined {b : PrivacyEvent}
    {p : Sink e.tenantId} (sunk : b.sink h e = .ok p) : Confined b.accesses p := by
  cases b with
  | _ =>
    obtain ⟨-, ⟨⟩⟩ := require_ok.mp sunk
    rfl

theorem applyTx_confined {now : Time} {e : Event} {p : Sink e.tenantId}
    (sunk : applyTx h now e = .ok p) : Confined e.accesses p := by
  obtain ⟨-, -, payload⟩ := bind_ok.mp sunk
  unfold Event.accesses
  generalize e.body = b at payload
  cases b with
  | tenantRegistered | tenantOffboarded =>
    cases payload
    rfl
  | inventory b => exact InventoryEvent.sink_confined payload
  | authority b => exact AuthorityEvent.sink_confined payload
  | operations b => exact OperationsEvent.sink_confined payload
  | governance b => exact GovernanceEvent.sink_confined payload
  | privacy b => exact PrivacyEvent.sink_confined payload
  | raw type =>
    obtain rfl := rawSink_nil payload
    rfl

end Trustctl.Projections
