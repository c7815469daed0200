import Trustctl.Relational.Frame
import Trustctl.Relational.Validity
import Trustctl.Store.Rows.Inventory
import Trustctl.Store.Rows.Operations
import Trustctl.Store.Rows.Governance

/-!
# The relational schema

The tables the projector writes or reads, the type of their rows, and the
constraints and referential actions of the migrations.  A primary key, a `UNIQUE`
constraint and a partial unique index are all `unique`; a partial index leaves out
the rows its predicate rejects.
-/

namespace Trustctl.Store

open Relational List

inductive Table
  | tenants | owners | issuers | identities | identityTransitions | certificates
  | certificateProfiles | cryptoAssets | deploymentTargets | agents | agentCertRevocations
  | sshKeys | attestations
  | caAuthorities | caKeyCeremonies | caCeremonyApprovals | caIssuedCerts | caCrls
  | caOcspResponders
  | discoverySources | discoverySchedules | discoveryRuns | discoveryFindings
  | acmeDns01ProviderConfigs | mdmScepPolicies | workloadAttesterTrustSources
  | complianceReportSchedules | secretRotationSchedules
  | notificationChannels | notificationRoutingPolicies | notificationThresholdDeliveries
  | notificationReads
  | connectorDeliveryReceipts | lifecycleRotationRuns | incidentExecutions
  | incidentFleetReissuanceRuns | remediationPlaybookRuns
  | tenantMembers | apiTokens | pamSessions | nhiAccessReviewCampaigns | nhiAccessReviewItems
  | accessChangeRequests | accessChangeRequestDecisions
  | issuanceApprovalRequests | issuanceApprovals
  | privacySubjectErasures | privacyRetentionRuns | privacyArchiveErasureAttestations
deriving DecidableEq

abbrev Row : Table → Type
  | .tenants => Tenant
  | .owners => Owner
  | .issuers => Issuer
  | .identities => Identity
  | .identityTransitions => IdentityTransition
  | .certificates => Certificate
  | .certificateProfiles => ProfileRecord
  | .cryptoAssets => CryptoAsset
  | .deploymentTargets => DeploymentTarget
  | .agents => Agent
  | .agentCertRevocations => AgentCertRevocation
  | .sshKeys => SshKey
  | .attestations => Attestation
  | .caAuthorities => CaAuthority
  | .caKeyCeremonies => KeyCeremony
  | .caCeremonyApprovals => CeremonyApproval
  | .caIssuedCerts => IssuedCert
  | .caCrls => Crl
  | .caOcspResponders => OcspResponder
  | .discoverySources => DiscoverySource
  | .discoverySchedules => DiscoverySchedule
  | .discoveryRuns => DiscoveryRun
  | .discoveryFindings => DiscoveryFinding
  | .acmeDns01ProviderConfigs => AcmeDns01ProviderConfig
  | .mdmScepPolicies => MdmScepPolicy
  | .workloadAttesterTrustSources => WorkloadAttesterTrustSource
  | .complianceReportSchedules => ComplianceReportSchedule
  | .secretRotationSchedules => SecretRotationSchedule
  | .notificationChannels => NotificationChannel
  | .notificationRoutingPolicies => NotificationRoutingPolicy
  | .notificationThresholdDeliveries => NotificationThresholdDelivery
  | .notificationReads => NotificationReadReceipt
  | .connectorDeliveryReceipts => ConnectorDeliveryReceipt
  | .lifecycleRotationRuns => RotationRun
  | .incidentExecutions => IncidentExecution
  | .incidentFleetReissuanceRuns => IncidentFleetReissuanceRun
  | .remediationPlaybookRuns => RemediationPlaybookRun
  | .tenantMembers => TenantMember
  | .apiTokens => ApiToken
  | .pamSessions => PamSession
  | .nhiAccessReviewCampaigns => NhiReviewCampaign
  | .nhiAccessReviewItems => NhiReviewItem
  | .accessChangeRequests => AccessChangeRequest
  | .accessChangeRequestDecisions => AccessChangeDecision
  | .issuanceApprovalRequests => ApprovalRequest
  | .issuanceApprovals => Approval
  | .privacySubjectErasures => PrivacySubjectErasure
  | .privacyRetentionRuns => PrivacyRetentionRun
  | .privacyArchiveErasureAttestations => PrivacyArchiveErasureAttestation

def tenantOf : {t : Table} → Row t → Uuid
  | .tenants, r => Tenant.tenantId r
  | .owners, r => Owner.tenantId r
  | .issuers, r => Issuer.tenantId r
  | .identities, r => Identity.tenantId r
  | .identityTransitions, r => IdentityTransition.tenantId r
  | .certificates, r => Certificate.tenantId r
  | .certificateProfiles, r => ProfileRecord.tenantId r
  | .cryptoAssets, r => CryptoAsset.tenantId r
  | .deploymentTargets, r => DeploymentTarget.tenantId r
  | .agents, r => Agent.tenantId r
  | .agentCertRevocations, r => AgentCertRevocation.tenantId r
  | .sshKeys, r => SshKey.tenantId r
  | .attestations, r => Attestation.tenantId r
  | .caAuthorities, r => CaAuthority.tenantId r
  | .caKeyCeremonies, r => KeyCeremony.tenantId r
  | .caCeremonyApprovals, r => CeremonyApproval.tenantId r
  | .caIssuedCerts, r => IssuedCert.tenantId r
  | .caCrls, r => Crl.tenantId r
  | .caOcspResponders, r => OcspResponder.tenantId r
  | .discoverySources, r => DiscoverySource.tenantId r
  | .discoverySchedules, r => DiscoverySchedule.tenantId r
  | .discoveryRuns, r => DiscoveryRun.tenantId r
  | .discoveryFindings, r => DiscoveryFinding.tenantId r
  | .acmeDns01ProviderConfigs, r => AcmeDns01ProviderConfig.tenantId r
  | .mdmScepPolicies, r => MdmScepPolicy.tenantId r
  | .workloadAttesterTrustSources, r => WorkloadAttesterTrustSource.tenantId r
  | .complianceReportSchedules, r => ComplianceReportSchedule.tenantId r
  | .secretRotationSchedules, r => SecretRotationSchedule.tenantId r
  | .notificationChannels, r => NotificationChannel.tenantId r
  | .notificationRoutingPolicies, r => NotificationRoutingPolicy.tenantId r
  | .notificationThresholdDeliveries, r => NotificationThresholdDelivery.tenantId r
  | .notificationReads, r => NotificationReadReceipt.tenantId r
  | .connectorDeliveryReceipts, r => ConnectorDeliveryReceipt.tenantId r
  | .lifecycleRotationRuns, r => RotationRun.tenantId r
  | .incidentExecutions, r => IncidentExecution.tenantId r
  | .incidentFleetReissuanceRuns, r => IncidentFleetReissuanceRun.tenantId r
  | .remediationPlaybookRuns, r => RemediationPlaybookRun.tenantId r
  | .tenantMembers, r => TenantMember.tenantId r
  | .apiTokens, r => ApiToken.tenantId r
  | .pamSessions, r => PamSession.tenantId r
  | .nhiAccessReviewCampaigns, r => NhiReviewCampaign.tenantId r
  | .nhiAccessReviewItems, r => NhiReviewItem.tenantId r
  | .accessChangeRequests, r => AccessChangeRequest.tenantId r
  | .accessChangeRequestDecisions, r => AccessChangeDecision.tenantId r
  | .issuanceApprovalRequests, r => ApprovalRequest.tenantId r
  | .issuanceApprovals, r => Approval.tenantId r
  | .privacySubjectErasures, r => PrivacySubjectErasure.tenantId r
  | .privacyRetentionRuns, r => PrivacyRetentionRun.tenantId r
  | .privacyArchiveErasureAttestations, r => PrivacyArchiveErasureAttestation.tenantId r

/-! ## Constraints -/

/-- A row satisfies `column <> ''` for every listed column. -/
def nonempty (columns : List String) : Bool := columns.all (· ≠ "")

/-! ### Primary keys, unique constraints and unique indexes

A `UNIQUE (tenant_id, id)` beside a primary key on `id` is implied by it and left out. -/

def inventoryUniques : List (Constraint Row) := [
  .unique .tenants fun r => some (Tenant.tenantId r),
  .unique .owners fun r => some (Owner.id r),
  .unique .issuers fun r => some (Issuer.id r),
  .unique .identities fun r => some (Identity.id r),
  .unique .identityTransitions fun (r : IdentityTransition) =>
    some (r.tenantId, r.identityId, r.seq),
  .unique .certificates fun r => some (Certificate.id r),
  .unique .certificates fun (r : Certificate) => some (r.tenantId, r.fingerprint),
  .unique .certificateProfiles fun r => some (ProfileRecord.id r),
  .unique .certificateProfiles fun (r : ProfileRecord) => some (r.tenantId, r.name, r.version),
  .unique .certificateProfiles fun (r : ProfileRecord) =>
    if r.active then some (r.tenantId, r.name) else none,
  .unique .cryptoAssets fun r => some (CryptoAsset.id r),
  .unique .cryptoAssets fun (r : CryptoAsset) => some (r.tenantId, r.signature),
  .unique .deploymentTargets fun r => some (DeploymentTarget.id r)]

def agentUniques : List (Constraint Row) := [ .unique .agents fun r => some (Agent.id r),
  .unique .agentCertRevocations fun (r : AgentCertRevocation) =>
    some (r.tenantId, r.agentId, r.selectorType, r.selector),
  .unique .sshKeys fun r => some (SshKey.id r),
  .unique .attestations fun r => some (Attestation.id r)]

def authorityUniques : List (Constraint Row) := [
  .unique .caAuthorities fun r => some (CaAuthority.id r),
  .unique .caAuthorities fun (r : CaAuthority) =>
    r.signerHandle.bind fun h => if h = "" then none else some (r.tenantId, h),
  .unique .caKeyCeremonies fun r => some (KeyCeremony.id r),
  .unique .caCeremonyApprovals fun (r : CeremonyApproval) =>
    some (r.tenantId, r.ceremonyId, r.custodian),
  .unique .caCeremonyApprovals fun (r : CeremonyApproval) =>
    r.approvalEventId.map fun e => (r.tenantId, e),
  .unique .caIssuedCerts fun (r : IssuedCert) => some (r.tenantId, r.caId, r.serial),
  .unique .caCrls fun (r : Crl) => some (r.tenantId, r.caId, r.number),
  .unique .caOcspResponders fun (r : OcspResponder) => some (r.tenantId, r.caId)]

def discoveryUniques : List (Constraint Row) := [
  .unique .discoverySources fun r => some (DiscoverySource.id r),
  .unique .discoverySources fun (r : DiscoverySource) => some (r.tenantId, r.name),
  .unique .discoverySchedules fun r => some (DiscoverySchedule.id r),
  .unique .discoverySchedules fun (r : DiscoverySchedule) => some (r.tenantId, r.name),
  .unique .discoveryRuns fun r => some (DiscoveryRun.id r),
  .unique .discoveryFindings fun r => some (DiscoveryFinding.id r),
  .unique .discoveryFindings fun (r : DiscoveryFinding) =>
    some (r.tenantId, r.runId, r.kind, r.ref, r.fingerprint)]

def protocolUniques : List (Constraint Row) := [
  .unique .acmeDns01ProviderConfigs fun r => some (AcmeDns01ProviderConfig.id r),
  .unique .acmeDns01ProviderConfigs fun (r : AcmeDns01ProviderConfig) =>
    some (r.tenantId, r.name),
  .unique .mdmScepPolicies fun r => some (MdmScepPolicy.id r),
  .unique .mdmScepPolicies fun (r : MdmScepPolicy) => some (r.tenantId, toLower r.name),
  .unique .workloadAttesterTrustSources fun r => some (WorkloadAttesterTrustSource.id r),
  .unique .workloadAttesterTrustSources fun (r : WorkloadAttesterTrustSource) =>
    some (r.tenantId, toLower r.name),
  .unique .complianceReportSchedules fun (r : ComplianceReportSchedule) =>
    some (r.tenantId, r.id),
  .unique .complianceReportSchedules fun (r : ComplianceReportSchedule) =>
    some (r.tenantId, r.name),
  .unique .secretRotationSchedules fun (r : SecretRotationSchedule) => some (r.tenantId, r.id),
  .unique .secretRotationSchedules fun (r : SecretRotationSchedule) => some (r.tenantId, r.name)]

def notificationUniques : List (Constraint Row) := [
  .unique .notificationChannels fun (r : NotificationChannel) => some (r.tenantId, r.id),
  .unique .notificationRoutingPolicies fun r => some (NotificationRoutingPolicy.id r),
  .unique .notificationRoutingPolicies fun (r : NotificationRoutingPolicy) =>
    some (r.tenantId, r.name),
  .unique .notificationThresholdDeliveries fun (r : NotificationThresholdDelivery) =>
    some (r.tenantId, r.subject, r.thresholdDays, r.channel),
  .unique .notificationReads fun (r : NotificationReadReceipt) => some (r.tenantId, r.outboxId)]

def operationUniques : List (Constraint Row) := [
  .unique .connectorDeliveryReceipts fun r => some (ConnectorDeliveryReceipt.id r),
  .unique .connectorDeliveryReceipts fun (r : ConnectorDeliveryReceipt) =>
    r.outboxId.map fun o => (r.tenantId, o),
  .unique .lifecycleRotationRuns fun r => some (RotationRun.id r),
  .unique .lifecycleRotationRuns fun (r : RotationRun) => r.outboxId.map fun o => (r.tenantId, o),
  .unique .incidentExecutions fun r => some (IncidentExecution.id r),
  .unique .incidentFleetReissuanceRuns fun r => some (IncidentFleetReissuanceRun.id r),
  .unique .remediationPlaybookRuns fun r => some (RemediationPlaybookRun.id r)]

def accessUniques : List (Constraint Row) := [
  .unique .tenantMembers fun (r : TenantMember) => some (r.tenantId, r.subject),
  .unique .apiTokens fun r => some (ApiToken.id r),
  .unique .apiTokens fun r => some (ApiToken.tokenHash r),
  .unique .pamSessions fun (r : PamSession) => some (r.tenantId, r.id),
  .unique .nhiAccessReviewCampaigns fun (r : NhiReviewCampaign) => some (r.tenantId, r.id),
  .unique .nhiAccessReviewItems fun (r : NhiReviewItem) =>
    some (r.tenantId, r.campaignId, r.itemId),
  .unique .accessChangeRequests fun (r : AccessChangeRequest) => some (r.tenantId, r.id),
  .unique .accessChangeRequestDecisions fun (r : AccessChangeDecision) =>
    some (r.tenantId, r.requestId, r.approverSubject)]

def privacyUniques : List (Constraint Row) := [
  .unique .issuanceApprovalRequests fun (r : ApprovalRequest) =>
    some (r.tenantId, r.resource, r.action),
  .unique .issuanceApprovals fun (r : Approval) =>
    some (r.tenantId, r.resource, r.action, r.approver),
  .unique .privacySubjectErasures fun (r : PrivacySubjectErasure) =>
    some (r.tenantId, r.subjectRef),
  .unique .privacyRetentionRuns fun (r : PrivacyRetentionRun) => some (r.tenantId, r.runId),
  .unique .privacyArchiveErasureAttestations fun (r : PrivacyArchiveErasureAttestation) =>
    some (r.tenantId, r.attestationId)]

/-! ### Foreign keys -/

def inventoryForeignKeys : List (Constraint Row) := [
  .foreignKey .identities .owners (fun (r : Identity) => some (r.tenantId, r.ownerId))
    fun (o : Owner) => (o.tenantId, o.id),
  .foreignKey .identities .issuers (fun (r : Identity) => r.issuerId.map fun i => (r.tenantId, i))
    fun (i : Issuer) => (i.tenantId, i.id),
  .foreignKey .certificates .owners
    (fun (r : Certificate) => r.ownerId.map fun o => (r.tenantId, o))
    fun (o : Owner) => (o.tenantId, o.id),
  .foreignKey .certificates .certificates Certificate.replacesId Certificate.id,
  .foreignKey .attestations .identities
    (fun (r : Attestation) => r.identityId.map fun i => (r.tenantId, i))
    fun (i : Identity) => (i.tenantId, i.id)]

def authorityForeignKeys : List (Constraint Row) := [ .foreignKey .caAuthorities .caAuthorities
    (fun (r : CaAuthority) => r.parentId.map fun p => (r.tenantId, p))
    fun (p : CaAuthority) => (p.tenantId, p.id),
  .foreignKey .caAuthorities .caAuthorities
    (fun (r : CaAuthority) => r.replacesId.map fun p => (r.tenantId, p))
    fun (p : CaAuthority) => (p.tenantId, p.id),
  .foreignKey .caCeremonyApprovals .caKeyCeremonies
    (fun (r : CeremonyApproval) => some r.ceremonyId) KeyCeremony.id]

def discoveryForeignKeys : List (Constraint Row) := [
  .foreignKey .discoverySchedules .discoverySources
    (fun (r : DiscoverySchedule) => some (r.tenantId, r.sourceId))
    fun (s : DiscoverySource) => (s.tenantId, s.id),
  .foreignKey .discoveryRuns .discoverySources
    (fun (r : DiscoveryRun) => some (r.tenantId, r.sourceId))
    fun (s : DiscoverySource) => (s.tenantId, s.id),
  .foreignKey .discoveryRuns .discoverySchedules
    (fun (r : DiscoveryRun) => r.scheduleId.map fun s => (r.tenantId, s))
    fun (s : DiscoverySchedule) => (s.tenantId, s.id),
  .foreignKey .discoveryFindings .discoveryRuns
    (fun (r : DiscoveryFinding) => some (r.tenantId, r.runId))
    fun (n : DiscoveryRun) => (n.tenantId, n.id),
  .foreignKey .discoveryFindings .discoverySources
    (fun (r : DiscoveryFinding) => some (r.tenantId, r.sourceId))
    fun (s : DiscoverySource) => (s.tenantId, s.id)]

def accessForeignKeys : List (Constraint Row) := [
  .foreignKey .nhiAccessReviewItems .nhiAccessReviewCampaigns
    (fun (r : NhiReviewItem) => some (r.tenantId, r.campaignId))
    fun (c : NhiReviewCampaign) => (c.tenantId, c.id),
  .foreignKey .accessChangeRequestDecisions .accessChangeRequests
    (fun (r : AccessChangeDecision) => some (r.tenantId, r.requestId))
    fun (q : AccessChangeRequest) => (q.tenantId, q.id),
  .foreignKey .issuanceApprovals .issuanceApprovalRequests
    (fun (r : Approval) => some (r.tenantId, r.resource, r.action))
    fun (q : ApprovalRequest) => (q.tenantId, q.resource, q.action)]

/-! ### Checks -/

/-- The four checks of `ca_crls`. -/
def Crl.check (r : Crl) : Bool :=
  (["full", "shard", "delta"].contains r.kind) &&
    (0 < r.shardCount && 0 ≤ r.shardIndex && r.shardIndex < r.shardCount) &&
    (r.deltaBaseNumber.all (0 < ·)) && (r.parentNumber.all (0 < ·)) && (0 ≤ r.revokedCount)

/-- The four checks of `access_change_requests`. -/
def AccessChangeRequest.check (r : AccessChangeRequest) : Bool :=
  ["pending", "approved", "denied"].contains r.status &&
    ["grant", "modify", "revoke", "rotate", "deploy", "break_glass"].contains r.requestedAction &&
    nonempty [r.requestedAction, r.requesterSubject, r.nhiId, r.nhiKind, r.displayName,
      r.resource, r.entitlement, r.changeRef, r.reason] &&
    (1 ≤ r.requiredApprovals && r.requiredApprovals ≤ 5 && 0 ≤ r.approvalCount &&
      r.approvalCount ≤ r.requiredApprovals)

/-- The checks of the migrations, and of the `uuid` type where the code lets an empty reference
through: no certificate has the empty text as its id. -/
def checks : List (Constraint Row) := [ .check .certificates fun (r : Certificate) => r.id ≠ "",
  .check .discoverySchedules fun (r : DiscoverySchedule) => 0 < r.intervalSeconds,
  .check .caCrls Crl.check,
  .check .agentCertRevocations fun (r : AgentCertRevocation) =>
    ["serial", "fingerprint"].contains r.selectorType && r.selector ≠ "",
  .check .nhiAccessReviewCampaigns fun (r : NhiReviewCampaign) =>
    ["open", "completed"].contains r.status && nonempty [r.name, r.reviewerSubject, r.requestedBy],
  .check .nhiAccessReviewItems fun (r : NhiReviewItem) =>
    ["pending", "certified", "revoked", "exception"].contains r.status &&
      nonempty [r.nhiId, r.nhiKind, r.displayName, r.resource, r.entitlement],
  .check .complianceReportSchedules fun (r : ComplianceReportSchedule) =>
    nonempty [r.framework, r.name, r.reportType, r.delivery] && 0 < r.intervalSeconds,
  .check .accessChangeRequests AccessChangeRequest.check,
  .check .accessChangeRequestDecisions fun (r : AccessChangeDecision) =>
    ["approved", "denied"].contains r.decision && r.approverSubject ≠ "",
  .check .secretRotationSchedules fun (r : SecretRotationSchedule) =>
    nonempty [r.name, r.provider, r.key, r.oldRef] && 0 < r.intervalSeconds,
  .check .privacyArchiveErasureAttestations fun (r : PrivacyArchiveErasureAttestation) =>
    ["backup", "signed_audit_archive"].contains r.artifactType &&
      ["deleted", "legal_hold", "cryptographic_shred"].contains r.action]

def constraints : List (Constraint Row) :=
  inventoryUniques ++ agentUniques ++ authorityUniques ++ discoveryUniques ++ protocolUniques ++
    notificationUniques ++ operationUniques ++ accessUniques ++ privacyUniques ++
    inventoryForeignKeys ++ authorityForeignKeys ++ discoveryForeignKeys ++ accessForeignKeys ++
    checks

/-! ## Referential actions -/

/-- `certificates_replaces_fk … ON DELETE SET NULL`. -/
def clearReplaced (db : Tables Row) : Tables Row :=
  setTable db .certificates (updateRows (fun (c : Certificate) => c.replacesId.any fun p =>
      !(db .certificates).any fun (q : Certificate) => q.id = p)
    (fun (c : Certificate) => { c with replacesId := none }) (db .certificates))

/-- The `ON DELETE` actions.  `ca_authorities` has composite `SET NULL` keys over its
non-null tenant column, so a delete that leaves a reference behind fails; that is the
foreign key itself and needs no action. -/
def onDelete (t : Table) (db : Tables Row) : Tables Row :=
  match t with
  | .certificates => clearReplaced db
  | .caKeyCeremonies =>
    cascade .caCeremonyApprovals .caKeyCeremonies
      (fun (r : CeremonyApproval) => some r.ceremonyId) KeyCeremony.id db
  | .discoverySources =>
    let bySource := fun (s : DiscoverySource) => (s.tenantId, s.id)
    let schedules := cascade .discoverySchedules .discoverySources
      (fun (r : DiscoverySchedule) => some (r.tenantId, r.sourceId)) bySource db
    let runs := cascade .discoveryRuns .discoverySources
      (fun (r : DiscoveryRun) => some (r.tenantId, r.sourceId)) bySource schedules
    let findings := cascade .discoveryFindings .discoverySources
      (fun (r : DiscoveryFinding) => some (r.tenantId, r.sourceId)) bySource runs
    cascade .discoveryFindings .discoveryRuns
      (fun (r : DiscoveryFinding) => some (r.tenantId, r.runId))
      (fun (n : DiscoveryRun) => (n.tenantId, n.id)) findings
  | .discoveryRuns =>
    cascade .discoveryFindings .discoveryRuns
      (fun (r : DiscoveryFinding) => some (r.tenantId, r.runId))
      (fun (n : DiscoveryRun) => (n.tenantId, n.id)) db
  | .nhiAccessReviewCampaigns =>
    cascade .nhiAccessReviewItems .nhiAccessReviewCampaigns
      (fun (r : NhiReviewItem) => some (r.tenantId, r.campaignId))
      (fun (c : NhiReviewCampaign) => (c.tenantId, c.id)) db
  | .accessChangeRequests =>
    cascade .accessChangeRequestDecisions .accessChangeRequests
      (fun (r : AccessChangeDecision) => some (r.tenantId, r.requestId))
      (fun (q : AccessChangeRequest) => (q.tenantId, q.id)) db
  | .issuanceApprovalRequests =>
    cascade .issuanceApprovals .issuanceApprovalRequests
      (fun (r : Approval) => some (r.tenantId, r.resource, r.action))
      (fun (q : ApprovalRequest) => (q.tenantId, q.resource, q.action)) db
  | _ => db

/-- The tables the `ON DELETE` actions may change. -/
def cascades : Table → List Table
  | .certificates => [.certificates]
  | .caKeyCeremonies => [.caCeremonyApprovals]
  | .discoverySources => [.discoverySchedules, .discoveryRuns, .discoveryFindings]
  | .discoveryRuns => [.discoveryFindings]
  | .nhiAccessReviewCampaigns => [.nhiAccessReviewItems]
  | .accessChangeRequests => [.accessChangeRequestDecisions]
  | .issuanceApprovalRequests => [.issuanceApprovals]
  | _ => []

instance : Schema Row where
  tenantOf := tenantOf
  constraints := constraints
  onDelete := onDelete
  cascades := cascades

/-! ## The referential actions are lawful -/

/-- A satisfied foreign key leaves nothing to cascade. -/
theorem cascade_of_foreignKey {K : Type} [DecidableEq K] {t t' : Table} {ref : Row t → Option K}
    {key : Row t' → K} {db : Tables Row}
    (holds : (Constraint.foreignKey t t' ref key).holds db) :
    cascade t t' ref key db = db := by
  unfold cascade
  rw [filter_eq_self.mpr fun r mem => all_eq_true.mp holds r mem]
  exact setTable_eq_self db t

theorem clearReplaced_of_foreignKey {db : Tables Row}
    (holds : (Constraint.foreignKey (R := Row) .certificates .certificates Certificate.replacesId
      Certificate.id).holds db) : clearReplaced db = db := by
  unfold clearReplaced
  rw [updateRows_eq_self fun (c : Certificate) mem hit => ?_]
  · exact setTable_eq_self db .certificates
  · have here := all_eq_true.mp holds c mem
    cases replaced : c.replacesId with
    | none => simp [replaced] at hit
    | some p =>
      simp only [replaced, Option.all_some] at here
      simp only [replaced, Option.any_some, here] at hit
      cases hit

theorem foreignKeys_of_valid {db : Tables Row} (valid : Schema.valid db) :
    (∀ c ∈ inventoryForeignKeys, c.holds db) ∧ (∀ c ∈ authorityForeignKeys, c.holds db) ∧
      (∀ c ∈ discoveryForeignKeys, c.holds db) ∧
      (∀ c ∈ accessForeignKeys, c.holds db) := by
  have all := all_eq_true.mp valid
  refine ⟨fun c mem => all c ?_, fun c mem => all c ?_, fun c mem => all c ?_,
    fun c mem => all c ?_⟩ <;>
    simp only [Schema.constraints, constraints, mem_append, mem, true_or, or_true]

instance : LawfulSchema Row where
  onDelete_of_valid t db valid := by
    obtain ⟨inventory, authority, discovery, access⟩ := foreignKeys_of_valid valid
    simp only [inventoryForeignKeys, authorityForeignKeys, discoveryForeignKeys,
      accessForeignKeys, forall_mem_cons] at inventory authority discovery access
    cases t
    case certificates => exact clearReplaced_of_foreignKey inventory.2.2.2.1
    case caKeyCeremonies => exact cascade_of_foreignKey authority.2.2.1
    case discoverySources =>
      show onDelete .discoverySources db = db
      simp only [onDelete, cascade_of_foreignKey discovery.1,
        cascade_of_foreignKey discovery.2.1, cascade_of_foreignKey discovery.2.2.2.2.1,
        cascade_of_foreignKey discovery.2.2.2.1]
    case discoveryRuns => exact cascade_of_foreignKey discovery.2.2.2.1
    case nhiAccessReviewCampaigns => exact cascade_of_foreignKey access.1
    case accessChangeRequests => exact cascade_of_foreignKey access.2.1
    case issuanceApprovalRequests => exact cascade_of_foreignKey access.2.2.1
    all_goals rfl
  onDelete_of_not_mem {t t'} db outside := by
    cases t
    case discoverySources =>
      simp only [Schema.cascades, cascades, mem_cons, not_mem_nil, or_false, not_or] at outside
      show onDelete .discoverySources db t' = db t'
      simp only [onDelete, cascade]
      rw [setTable_of_ne _ outside.2.2, setTable_of_ne _ outside.2.2, setTable_of_ne _ outside.2.1,
        setTable_of_ne _ outside.1]
    case certificates | caKeyCeremonies | discoveryRuns | nhiAccessReviewCampaigns |
        accessChangeRequests | issuanceApprovalRequests =>
      exact setTable_of_ne _ fun same => outside (by simp [Schema.cascades, cascades, same])
    all_goals rfl

/-- No constraint mentions the status of an authority. -/
theorem valid_authorityStatus (db : Tables Row) (cond : CaAuthority → Bool) (status : String) :
    Schema.valid (setTable db .caAuthorities
      (updateRows cond (fun (r : CaAuthority) => { r with status }) (db .caAuthorities))) =
      Schema.valid db := by
  let set : CaAuthority → CaAuthority := fun r => if cond r then { r with status } else r
  have columns : ∀ r, set r = { r with status := (set r).status } := by
    intro r
    simp only [set]
    split <;> rfl
  have about : constraints.filter (fun c => c.tables.contains .caAuthorities) =
      authorityUniques.take 2 ++ authorityForeignKeys.take 2 := rfl
  show Schema.valid (setTable db .caAuthorities ((db .caAuthorities).map set)) = Schema.valid db
  refine valid_onTable ?_
  simp only [Schema.constraints, about, authorityUniques, authorityForeignKeys, take_succ_cons,
    take_zero, cons_append, nil_append, forall_mem_cons, Constraint.Unread,
    onTable_self]
  refine ⟨?_, ?_, ⟨?_, ?_⟩, ⟨?_, ?_⟩, by simp⟩
  all_goals
    intro r
    rw [columns r]

end Trustctl.Store
