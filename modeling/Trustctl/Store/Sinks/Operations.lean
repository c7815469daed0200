import Trustctl.Store.Statement

/-!
# Discovery, protocol, notification and response sinks

The projection sinks of the operational tables, statement by statement.
-/

namespace Trustctl.Store

open Relational

/-! ## Discovery -/

def applyDiscoverySourceUpsertedTx (n : DiscoverySource) : Sink n.tenantId := [
  upsert .discoverySources n (fun (r : DiscoverySource) => r.tenantId = n.tenantId ∧ r.id = n.id)
    (fun (r : DiscoverySource) => { r with
      kind := n.kind, name := n.name, config := n.config, updatedAt := n.updatedAt })
    rfl fun _ => rfl]

def applyDiscoveryScheduleUpsertedTx (n : DiscoverySchedule) : Sink n.tenantId := [
  upsert .discoverySchedules n
    (fun (r : DiscoverySchedule) => r.tenantId = n.tenantId ∧ r.id = n.id)
    (fun (r : DiscoverySchedule) => { r with
      sourceId := n.sourceId, name := n.name, intervalSeconds := n.intervalSeconds,
      enabled := n.enabled, updatedAt := n.updatedAt })
    rfl fun _ => rfl]

def applyDiscoveryRunQueuedTx (n : DiscoveryRun) : Sink n.tenantId := [
  upsert .discoveryRuns n (fun (r : DiscoveryRun) => r.tenantId = n.tenantId ∧ r.id = n.id)
    (fun (r : DiscoveryRun) => { r with
      status := n.status, dryRun := n.dryRun, requestedBy := n.requestedBy })
    rfl fun _ => rfl]

def applyDiscoveryRunStartedTx (τ id : Uuid) (startedAt : Time) : Sink τ := [
  rowUpdate .discoveryRuns (fun (r : DiscoveryRun) => r.id = id)
    (fun (r : DiscoveryRun) => { r with status := "running", startedAt := some startedAt })
    (some .noRows) fun _ => rfl]

def applyDiscoveryFindingRecordedTx (n : DiscoveryFinding) : Sink n.tenantId := [
  upsert .discoveryFindings n (fun (r : DiscoveryFinding) => r.tenantId = n.tenantId ∧ r.id = n.id)
    (fun (r : DiscoveryFinding) => { r with
      kind := n.kind, ref := n.ref, provenance := n.provenance, fingerprint := n.fingerprint,
      riskScore := n.riskScore, metadata := n.metadata, discoveredAt := n.discoveredAt })
    rfl fun _ => rfl]

/-- `CASE WHEN patch IS NULL THEN metadata ELSE metadata || patch END`. -/
def patchMetadata (metadata : Json) : Option Json → Json
  | none => metadata
  | some patch => metadata.concat patch

def applyDiscoveryFindingTriageChangedTx (τ id : Uuid) (status : String)
    (managedIdentityId : Option Uuid) (actor reason : String) (changedAt : Time)
    (metadataPatch : Option Json) : Sink τ := [
  rowUpdate .discoveryFindings (fun (r : DiscoveryFinding) => r.id = id)
    (fun (r : DiscoveryFinding) => { r with
      triageStatus := status, managedIdentityId, triageActor := actor, triageReason := reason,
      triagedAt := some changedAt, metadata := patchMetadata r.metadata metadataPatch })
    (some .noRows) fun _ => rfl]

def applyDiscoveryRunCompletedTx (τ id : Uuid) (status : String)
    (targets discovered failed rejected : Int) (error : String) (completedAt : Time) :
    Sink τ := [
  rowUpdate .discoveryRuns (fun (r : DiscoveryRun) => r.id = id) (fun (r : DiscoveryRun) => { r with
      status, targets, discovered, failed, rejected, error, completedAt := some completedAt })
    (some .noRows) fun _ => rfl]

/-! ## Enrollment protocols -/

def applyAcmeDns01ProviderConfigUpsertedTx (n : AcmeDns01ProviderConfig) : Sink n.tenantId := [
  upsert .acmeDns01ProviderConfigs n
    (fun (r : AcmeDns01ProviderConfig) => r.tenantId = n.tenantId ∧ r.id = n.id)
    (fun (r : AcmeDns01ProviderConfig) => { n with
      id := r.id, tenantId := r.tenantId, createdAt := r.createdAt })
    rfl fun _ => rfl]

def applyAcmeDns01ProviderConfigDeletedTx (τ id : Uuid) : Sink τ := [
  .delete .acmeDns01ProviderConfigs fun (r : AcmeDns01ProviderConfig) => r.id = id]

/-- `ApplyMDMSCEPPolicyUpsertedTx`; the rotation version never goes back. -/
def applyMdmScepPolicyUpsertedTx (p : MdmScepPolicy) : Sink p.tenantId :=
  let rotationVersion := if p.rotationVersion ≤ 0 then 1 else p.rotationVersion
  [upsert .mdmScepPolicies ({ p with rotationVersion } : MdmScepPolicy)
    (fun (r : MdmScepPolicy) => r.tenantId = p.tenantId ∧ r.id = p.id)
    (fun (r : MdmScepPolicy) => { r with
      name := p.name, provider := p.provider, scepProfile := p.scepProfile,
      scepEndpoint := p.scepEndpoint, expectedAudience := p.expectedAudience,
      challengeMode := p.challengeMode, trustAnchorRefs := p.trustAnchorRefs,
      profileGuidance := p.profileGuidance, enabled := p.enabled,
      rotationVersion := max r.rotationVersion rotationVersion, updatedAt := p.updatedAt })
    rfl fun _ => rfl]

def applyMdmScepPolicyDeletedTx (τ id : Uuid) : Sink τ := [
  .delete .mdmScepPolicies fun (r : MdmScepPolicy) => r.id = id]

def applyMdmScepChallengeRotatedTx (τ id : Uuid) (rotationVersion : Int) (rotatedAt : Time) :
    Sink τ := [
  rowUpdate .mdmScepPolicies (fun (r : MdmScepPolicy) => r.id = id)
    (fun (r : MdmScepPolicy) => { r with
      rotationVersion := max r.rotationVersion rotationVersion
      lastRotatedAt := some rotatedAt, updatedAt := rotatedAt })
    (some (.store "store: mdm scep policy not found")) fun _ => rfl]

def trustSourceNotFound : ApplyError := .store "store: workload attester trust source not found"

def applyWorkloadAttesterTrustSourceUpsertedTx (p : WorkloadAttesterTrustSource) :
    Sink p.tenantId :=
  let rotationVersion := if p.rotationVersion ≤ 0 then 1 else p.rotationVersion
  [upsert .workloadAttesterTrustSources ({ p with rotationVersion } : WorkloadAttesterTrustSource)
    (fun (r : WorkloadAttesterTrustSource) => r.tenantId = p.tenantId ∧ r.id = p.id)
    (fun (r : WorkloadAttesterTrustSource) => { r with
      name := p.name, method := p.method, issuer := p.issuer, audience := p.audience,
      jwks := p.jwks, rootCertsPem := p.rootCertsPem,
      expectedNonceBase64 := p.expectedNonceBase64, enabled := p.enabled, revokedAt := none,
      revokedReason := "", rotationVersion := max r.rotationVersion rotationVersion,
      updatedAt := p.updatedAt })
    rfl fun _ => rfl]

def applyWorkloadAttesterTrustSourceRotatedTx (τ id : Uuid) (issuer audience : String)
    (jwks : Json) (rootCertsPem : List String) (expectedNonceBase64 : String)
    (rotationVersion : Int) (rotatedAt : Time) : Sink τ :=
  let rotationVersion := if rotationVersion ≤ 0 then 1 else rotationVersion
  [rowUpdate .workloadAttesterTrustSources (fun (r : WorkloadAttesterTrustSource) => r.id = id)
    (fun (r : WorkloadAttesterTrustSource) => { r with
      issuer, audience, jwks, rootCertsPem, expectedNonceBase64, enabled := true,
      revokedAt := none, revokedReason := ""
      rotationVersion := max r.rotationVersion rotationVersion
      lastRotatedAt := some rotatedAt, updatedAt := rotatedAt })
    (some trustSourceNotFound) fun _ => rfl]

def applyWorkloadAttesterTrustSourceRevokedTx (τ id : Uuid) (reason : String)
    (revokedAt : Time) : Sink τ := [
  rowUpdate .workloadAttesterTrustSources (fun (r : WorkloadAttesterTrustSource) => r.id = id)
    (fun (r : WorkloadAttesterTrustSource) => { r with
      enabled := false, revokedAt := some revokedAt, revokedReason := reason,
      updatedAt := revokedAt })
    (some trustSourceNotFound) fun _ => rfl]

def applyWorkloadAttesterTrustSourceDeletedTx (τ id : Uuid) : Sink τ := [
  .delete .workloadAttesterTrustSources fun (r : WorkloadAttesterTrustSource) => r.id = id]

def applyComplianceReportScheduleUpsertedTx (n : ComplianceReportSchedule) : Sink n.tenantId := [
  upsert .complianceReportSchedules n
    (fun (r : ComplianceReportSchedule) => r.tenantId = n.tenantId ∧ r.id = n.id)
    (fun (r : ComplianceReportSchedule) => { n with
      id := r.id, tenantId := r.tenantId, createdAt := r.createdAt })
    rfl fun _ => rfl]

def applySecretRotationScheduleUpsertedTx (n : SecretRotationSchedule) : Sink n.tenantId := [
  upsert .secretRotationSchedules n
    (fun (r : SecretRotationSchedule) => r.tenantId = n.tenantId ∧ r.id = n.id)
    (fun (r : SecretRotationSchedule) => { r with
      name := n.name, provider := n.provider, key := n.key, oldRef := n.oldRef,
      intervalSeconds := n.intervalSeconds, enabled := n.enabled, nextRunAt := n.nextRunAt,
      updatedAt := n.updatedAt })
    rfl fun _ => rfl]

def applySecretRotationScheduleRunTx (τ scheduleId runId : Uuid) (status newRef error : String)
    (ranAt : Time) : Sink τ := [
  rowUpdate .secretRotationSchedules (fun (r : SecretRotationSchedule) => r.id = scheduleId)
    (fun (r : SecretRotationSchedule) => { r with
      oldRef := if status = "completed" ∧ newRef ≠ "" then newRef else r.oldRef
      nextRunAt := Time.addSeconds ranAt r.intervalSeconds
      lastRunId := some runId, lastRunAt := some ranAt, lastRunStatus := status,
      lastNewRef := newRef, lastError := error, updatedAt := ranAt })
    (some .noRows) fun _ => rfl]

/-! ## Notifications -/

def applyNotificationChannelUpsertedTx (n : NotificationChannel) :
    Except ApplyError (Sink n.tenantId) :=
  if n.tenantId = "" ∨ n.id = "" ∨ n.channelType = "" ∨ n.label = "" then
    .error (.store "store: notification channel requires tenant, id, type, and label")
  else .ok [ upsert .notificationChannels n
      (fun (r : NotificationChannel) => r.tenantId = n.tenantId ∧ r.id = n.id)
      (fun (r : NotificationChannel) => { n with
        id := r.id, tenantId := r.tenantId, createdAt := r.createdAt })
      rfl fun _ => rfl]

def deleteNotificationChannelTx (τ : Uuid) (id : String) : Except ApplyError (Sink τ) :=
  if τ = "" ∨ id = "" then
    .error (.store "store: notification channel delete requires tenant and id")
  else .ok [.delete .notificationChannels fun (r : NotificationChannel) => r.id = id]

def normalizeNotificationChannel (channel : String) : String := toLower (trimSpace channel)

/-- `ApplyNotificationThresholdDeliveredTx`; the first instant only moves back and the
last one only forward. -/
def applyNotificationThresholdDeliveredTx (τ : Uuid) (subject : String) (thresholdDays : Int)
    (channel : String) (sentAt : Time) : Sink τ :=
  let subject := trimSpace subject
  let channel := normalizeNotificationChannel channel
  [upsert .notificationThresholdDeliveries
    ({ tenantId := τ, subject, thresholdDays, channel, firstSentAt := sentAt,
       lastSentAt := sentAt } : NotificationThresholdDelivery)
    (fun (r : NotificationThresholdDelivery) => r.tenantId = τ ∧ r.subject = subject ∧
      r.thresholdDays = thresholdDays ∧ r.channel = channel)
    (fun (r : NotificationThresholdDelivery) => { r with
      firstSentAt := min r.firstSentAt sentAt, lastSentAt := max r.lastSentAt sentAt })
    rfl fun _ => rfl]

def applyNotificationReadTx (n : NotificationReadReceipt) : Except ApplyError (Sink n.tenantId) :=
  if n.tenantId = "" ∨ n.outboxId ≤ 0 then
    .error (.store "store: notification read receipt requires tenant and outbox id")
  else .ok [ upsert .notificationReads n
      (fun (r : NotificationReadReceipt) => r.tenantId = n.tenantId ∧ r.outboxId = n.outboxId)
      (fun (r : NotificationReadReceipt) => { r with readAt := max r.readAt n.readAt })
      rfl fun _ => rfl]

/-- `ApplyNotificationRoutingPolicyUpsertedTx`, with its digest defaults. -/
def applyNotificationRoutingPolicyUpsertedTx (p : NotificationRoutingPolicy) :
    Except ApplyError (Sink p.tenantId) :=
  if p.tenantId = "" ∨ p.id = "" ∨ p.name = "" then
    .error (.store "store: notification routing policy requires tenant, id, and name")
  else
    let n : NotificationRoutingPolicy := { p with
      digestInterval := if p.digestInterval ≤ 0 then 86400 else p.digestInterval
      digestTimezone := if p.digestTimezone = "" then "UTC" else p.digestTimezone }
    .ok [upsert .notificationRoutingPolicies n
      (fun (r : NotificationRoutingPolicy) => r.tenantId = p.tenantId ∧ r.id = p.id)
      (fun (r : NotificationRoutingPolicy) => { n with
        id := r.id, tenantId := r.tenantId, createdAt := r.createdAt })
      rfl fun _ => rfl]

def deleteNotificationRoutingPolicyTx (τ : Uuid) (id : String) : Except ApplyError (Sink τ) :=
  if τ = "" ∨ id = "" then
    .error (.store "store: notification routing policy delete requires tenant and id")
  else .ok [.delete .notificationRoutingPolicies fun (r : NotificationRoutingPolicy) => r.id = id]

/-! ## Delivery and response evidence

Each of these tables is keyed by an identifier that is unique across tenants, and a
repeated record overwrites everything but the tenant and the creation time. -/

def applyConnectorDeliveryRecordedTx (n : ConnectorDeliveryReceipt) : Sink n.tenantId := [
  upsert .connectorDeliveryReceipts n (fun (r : ConnectorDeliveryReceipt) => r.id = n.id)
    (fun (r : ConnectorDeliveryReceipt) => { n with
      id := r.id, tenantId := r.tenantId, createdAt := r.createdAt })
    rfl fun _ => rfl]

def applyRotationRunRecordedTx (n : RotationRun) : Sink n.tenantId := [
  upsert .lifecycleRotationRuns n (fun (r : RotationRun) => r.id = n.id)
    (fun (r : RotationRun) => { n with
      id := r.id, tenantId := r.tenantId, createdAt := r.createdAt })
    rfl fun _ => rfl]

def applyIncidentExecutionRecordedTx (n : IncidentExecution) : Sink n.tenantId := [
  upsert .incidentExecutions n (fun (r : IncidentExecution) => r.id = n.id)
    (fun (r : IncidentExecution) => { n with
      id := r.id, tenantId := r.tenantId, createdAt := r.createdAt })
    rfl fun _ => rfl]

def applyIncidentFleetReissuanceRecordedTx (n : IncidentFleetReissuanceRun) : Sink n.tenantId := [
  upsert .incidentFleetReissuanceRuns n (fun (r : IncidentFleetReissuanceRun) => r.id = n.id)
    (fun (r : IncidentFleetReissuanceRun) => { n with
      id := r.id, tenantId := r.tenantId, createdAt := r.createdAt })
    rfl fun _ => rfl]

def applyRemediationPlaybookRunRecordedTx (n : RemediationPlaybookRun) : Sink n.tenantId := [
  upsert .remediationPlaybookRuns n (fun (r : RemediationPlaybookRun) => r.id = n.id)
    (fun (r : RemediationPlaybookRun) => { n with
      id := r.id, tenantId := r.tenantId, createdAt := r.createdAt })
    rfl fun _ => rfl]

end Trustctl.Store
