import Trustctl.Projections.Envelope
import Trustctl.Store.Sinks.Operations

/-!
# Discovery, protocol, notification and response events

The events of the operational tables and the cases of `ApplyTx` that project them.

Where a payload has the columns of its row, the row type stands for the payload: the
projector overwrites the tenant and the time stamps with the envelope's, so it does not
read what such a payload says there.  A JSON document that a payload may leave out is an
argument of its own, since the sink decides what an absent document is stored as.

Every one of these events replays, except a triage change with a metadata patch:
`OperationsEvent.replay_iff`.
-/

namespace Trustctl.Projections

open Relational Store

inductive OperationsEvent
  | discoverySourceUpserted (id : Uuid) (kind name : String) (config : Option Json)
  | discoveryScheduleUpserted (id sourceId : Uuid) (name : String) (intervalSeconds : Int)
      (enabled : Bool)
  | discoveryRunQueued (id sourceId : Uuid) (scheduleId : Option Uuid) (dryRun : Bool)
      (requestedBy : String)
  | discoveryRunStarted (id : Uuid)
  | discoveryFindingRecorded (pl : DiscoveryFinding) (metadata : Option Json)
  | discoveryFindingTriageChanged (id : Uuid) (status : String) (managedIdentityId : Option Uuid)
      (actor reason : String) (metadataPatch : Option Json)
  | discoveryRunCompleted (id : Uuid) (status : String)
      (targets discovered failed rejected : Int) (error : String)
  | acmeDns01ProviderConfigUpserted (pl : AcmeDns01ProviderConfig)
      (credentialRefs config : Option Json)
  | acmeDns01ProviderConfigDeleted (id : Uuid)
  | acmeDns01Preflighted (domain recordName : String)
  /-- `acme.dns01.record.presented`, or `acme.dns01.record.cleaned` with the same payload. -/
  | acmeDns01RecordChanged (cleaned : Bool) (configId provider domain recordName : String)
      (outboxId : Int)
  | mdmScepPolicyUpserted (pl : MdmScepPolicy) (trustAnchorRefs profileGuidance : Option Json)
  | mdmScepPolicyDeleted (id : Uuid)
  | mdmScepChallengeRotated (id : Uuid) (rotationVersion : Int)
  | workloadAttesterTrustSourceUpserted (pl : WorkloadAttesterTrustSource) (jwks : Option Json)
  | workloadAttesterTrustSourceRotated (id : Uuid) (issuer audience : String)
      (jwks : Option Json) (rootCertsPem : List String) (expectedNonceBase64 : String)
      (rotationVersion : Int)
  | workloadAttesterTrustSourceRevoked (id : Uuid) (reason : String)
  | workloadAttesterTrustSourceDeleted (id : Uuid)
  | complianceReportScheduleUpserted (pl : ComplianceReportSchedule)
  | secretRotationScheduleUpserted (pl : SecretRotationSchedule)
  | secretRotationScheduleRan (scheduleId runId : Uuid) (status newRef error : String)
  | notificationThresholdDelivered (subject : String) (thresholdDays : Int) (channel : String)
      (sentAt : Time)
  | notificationChannelUpserted (pl : NotificationChannel)
  | notificationChannelDeleted (id : String)
  | notificationRoutingPolicyUpserted (pl : NotificationRoutingPolicy)
  | notificationRoutingPolicyDeleted (id : Uuid)
  | notificationRead (outboxId : Int) (readAt : Time)
  | connectorDeliveryRecorded (pl : ConnectorDeliveryReceipt)
  | lifecycleRotationRecorded (pl : RotationRun)
  | incidentExecutionRecorded (pl : IncidentExecution) (blastRadius : Option Json)
  | incidentFleetReissuanceRecorded (pl : IncidentFleetReissuanceRun) (graphImpact : Option Json)
  | remediationPlaybookRunRecorded (pl : RemediationPlaybookRun) (scopeDelta : Option Json)
  | responseIntegrationDispatched (id title : String) (providers : List String)

def OperationsEvent.type : OperationsEvent → String
  | .discoverySourceUpserted .. => "discovery.source.upserted"
  | .discoveryScheduleUpserted .. => "discovery.schedule.upserted"
  | .discoveryRunQueued .. => "discovery.run.queued"
  | .discoveryRunStarted .. => "discovery.run.started"
  | .discoveryFindingRecorded .. => "discovery.finding.recorded"
  | .discoveryFindingTriageChanged .. => "discovery.finding.triage_changed"
  | .discoveryRunCompleted .. => "discovery.run.completed"
  | .acmeDns01ProviderConfigUpserted .. => "acme.dns01.provider_config.upserted"
  | .acmeDns01ProviderConfigDeleted .. => "acme.dns01.provider_config.deleted"
  | .acmeDns01Preflighted .. => "acme.dns01.preflighted"
  | .acmeDns01RecordChanged cleaned .. =>
    if cleaned then "acme.dns01.record.cleaned" else "acme.dns01.record.presented"
  | .mdmScepPolicyUpserted .. => "mdm.scep_policy.upserted"
  | .mdmScepPolicyDeleted .. => "mdm.scep_policy.deleted"
  | .mdmScepChallengeRotated .. => "mdm.scep_challenge.rotated"
  | .workloadAttesterTrustSourceUpserted .. => "workload.attester_trust_source.upserted"
  | .workloadAttesterTrustSourceRotated .. => "workload.attester_trust_source.rotated"
  | .workloadAttesterTrustSourceRevoked .. => "workload.attester_trust_source.revoked"
  | .workloadAttesterTrustSourceDeleted .. => "workload.attester_trust_source.deleted"
  | .complianceReportScheduleUpserted .. => "compliance.report_schedule.upserted"
  | .secretRotationScheduleUpserted .. => "secret.rotation_schedule.upserted"
  | .secretRotationScheduleRan .. => "secret.rotation_schedule.ran"
  | .notificationThresholdDelivered .. => "notification.threshold.delivered"
  | .notificationChannelUpserted .. => "notification.channel.upserted"
  | .notificationChannelDeleted .. => "notification.channel.deleted"
  | .notificationRoutingPolicyUpserted .. => "notification.routing_policy.upserted"
  | .notificationRoutingPolicyDeleted .. => "notification.routing_policy.deleted"
  | .notificationRead .. => "notification.read"
  | .connectorDeliveryRecorded .. => "connector.delivery.recorded"
  | .lifecycleRotationRecorded .. => "lifecycle.rotation.recorded"
  | .incidentExecutionRecorded .. => "incident.execution.recorded"
  | .incidentFleetReissuanceRecorded .. => "incident.fleet_reissuance.recorded"
  | .remediationPlaybookRunRecorded .. => "remediation.playbook_run.recorded"
  | .responseIntegrationDispatched .. => "response.integration.dispatched"

/-- The cases of `ApplyTx`. -/
def OperationsEvent.sink (e : Envelope) (b : OperationsEvent) :
    Except ApplyError (Sink e.tenantId) :=
  let need := require (α := Sink e.tenantId) b.type
  match b with
  | .discoverySourceUpserted id kind name config =>
    .ok (applyDiscoverySourceUpsertedTx {
      id, tenantId := e.tenantId, kind, name, config := normalizeJSON config,
      createdAt := e.time, updatedAt := e.time })
  | .discoveryScheduleUpserted id sourceId name intervalSeconds enabled =>
    .ok (applyDiscoveryScheduleUpsertedTx {
      id, tenantId := e.tenantId, sourceId, name, intervalSeconds, enabled,
      createdAt := e.time, updatedAt := e.time })
  | .discoveryRunQueued id sourceId scheduleId dryRun requestedBy =>
    .ok (applyDiscoveryRunQueuedTx {
      id, tenantId := e.tenantId, sourceId, scheduleId, status := "queued", dryRun, requestedBy,
      createdAt := e.time })
  | .discoveryRunStarted id => .ok (applyDiscoveryRunStartedTx e.tenantId id e.time)
  | .discoveryFindingRecorded pl metadata =>
    .ok (applyDiscoveryFindingRecordedTx {
      id := pl.id, tenantId := e.tenantId, runId := pl.runId, sourceId := pl.sourceId,
      kind := pl.kind, ref := pl.ref, provenance := pl.provenance,
      fingerprint := pl.fingerprint, riskScore := pl.riskScore,
      metadata := normalizeJSON metadata, discoveredAt := e.time })
  | .discoveryFindingTriageChanged id status managedIdentityId actor reason metadataPatch =>
    .ok (applyDiscoveryFindingTriageChangedTx e.tenantId id status managedIdentityId actor reason
      e.time metadataPatch)
  | .discoveryRunCompleted id status targets discovered failed rejected error =>
    .ok (applyDiscoveryRunCompletedTx e.tenantId id status targets discovered failed rejected
      error e.time)
  | .acmeDns01ProviderConfigUpserted pl credentialRefs config =>
    need (pl.id ≠ "" ∧ pl.name ≠ "" ∧ pl.provider ≠ "") "id, name, and provider"
      (.ok (applyAcmeDns01ProviderConfigUpsertedTx { pl with
        tenantId := e.tenantId, credentialRefs := jsonbOrEmpty credentialRefs,
        config := jsonbOrEmpty config, createdAt := e.time, updatedAt := e.time }))
  | .acmeDns01ProviderConfigDeleted id =>
    need (id ≠ "") "id" (.ok (applyAcmeDns01ProviderConfigDeletedTx e.tenantId id))
  | .acmeDns01Preflighted domain recordName =>
    need (domain ≠ "" ∧ recordName ≠ "") "domain and record_name" (.ok [])
  | .acmeDns01RecordChanged _ configId provider domain recordName outboxId =>
    need (configId ≠ "" ∧ provider ≠ "" ∧ domain ≠ "" ∧ recordName ≠ "" ∧ outboxId ≠ 0)
      "config_id, provider, domain, record_name, and outbox_id" (.ok [])
  | .mdmScepPolicyUpserted pl trustAnchorRefs profileGuidance =>
    need (pl.id ≠ "" ∧ pl.name ≠ "" ∧ pl.provider ≠ "" ∧ pl.scepProfile ≠ "" ∧ pl.scepEndpoint ≠ "")
      "id, name, provider, scep_profile, and scep_endpoint"
      (.ok (applyMdmScepPolicyUpsertedTx { pl with
        tenantId := e.tenantId, trustAnchorRefs := normalizeJSON trustAnchorRefs,
        profileGuidance := normalizeJSON profileGuidance, lastRotatedAt := none,
        createdAt := e.time, updatedAt := e.time }))
  | .mdmScepPolicyDeleted id =>
    need (id ≠ "") "id" (.ok (applyMdmScepPolicyDeletedTx e.tenantId id))
  | .mdmScepChallengeRotated id rotationVersion =>
    need (id ≠ "" ∧ 0 < rotationVersion) "id and positive rotation_version"
      (.ok (applyMdmScepChallengeRotatedTx e.tenantId id rotationVersion e.time))
  | .workloadAttesterTrustSourceUpserted pl jwks =>
    need (pl.id ≠ "" ∧ pl.name ≠ "" ∧ pl.method ≠ "") "id, name, and method"
      (.ok (applyWorkloadAttesterTrustSourceUpsertedTx { pl with
        tenantId := e.tenantId, jwks := jsonbOrEmpty jwks, revokedAt := none,
        revokedReason := "", lastRotatedAt := none, createdAt := e.time, updatedAt := e.time }))
  | .workloadAttesterTrustSourceRotated id issuer audience jwks rootCertsPem nonce version =>
    need (id ≠ "" ∧ 0 < version) "id and positive rotation_version"
      (.ok (applyWorkloadAttesterTrustSourceRotatedTx e.tenantId id issuer audience
        (jsonbOrEmpty jwks) rootCertsPem nonce version e.time))
  | .workloadAttesterTrustSourceRevoked id reason =>
    need (id ≠ "") "id"
      (.ok (applyWorkloadAttesterTrustSourceRevokedTx e.tenantId id reason e.time))
  | .workloadAttesterTrustSourceDeleted id =>
    need (id ≠ "") "id" (.ok (applyWorkloadAttesterTrustSourceDeletedTx e.tenantId id))
  | .complianceReportScheduleUpserted pl =>
    need (pl.id ≠ "" ∧ pl.framework ≠ "" ∧ pl.name ≠ "" ∧ pl.reportType ≠ "" ∧
        0 < pl.intervalSeconds)
      "id, framework, name, report_type, and positive interval_seconds"
      (.ok (applyComplianceReportScheduleUpsertedTx { pl with
        tenantId := e.tenantId
        delivery := if pl.delivery = "" then "audit_export" else pl.delivery
        nextRunAt := Time.addSeconds e.time pl.intervalSeconds
        createdAt := e.time, updatedAt := e.time }))
  | .secretRotationScheduleUpserted pl =>
    need (pl.id ≠ "" ∧ pl.name ≠ "" ∧ pl.provider ≠ "" ∧ pl.key ≠ "" ∧ pl.oldRef ≠ "" ∧
        0 < pl.intervalSeconds)
      "id, name, provider, key, old_ref, and positive interval_seconds"
      (.ok (applySecretRotationScheduleUpsertedTx {
        id := pl.id, tenantId := e.tenantId, name := pl.name, provider := pl.provider,
        key := pl.key, oldRef := pl.oldRef, intervalSeconds := pl.intervalSeconds,
        enabled := pl.enabled
        nextRunAt := pl.nextRunAt.orElse (Time.addSeconds e.time pl.intervalSeconds)
        createdAt := e.time, updatedAt := e.time }))
  | .secretRotationScheduleRan scheduleId runId status newRef error =>
    need (scheduleId ≠ "" ∧ runId ≠ "" ∧ status ≠ "") "schedule_id, run_id, and status"
      (.ok (applySecretRotationScheduleRunTx e.tenantId scheduleId runId status newRef error
        e.time))
  | .notificationThresholdDelivered subject thresholdDays channel sentAt =>
    .ok (applyNotificationThresholdDeliveredTx e.tenantId subject thresholdDays channel
      (sentAt.orElse e.time))
  | .notificationChannelUpserted pl =>
    applyNotificationChannelUpsertedTx { pl with
      tenantId := e.tenantId, createdAt := e.time, updatedAt := e.time }
  | .notificationChannelDeleted id => deleteNotificationChannelTx e.tenantId id
  | .notificationRoutingPolicyUpserted pl =>
    applyNotificationRoutingPolicyUpsertedTx { pl with
      tenantId := e.tenantId, createdAt := e.time, updatedAt := e.time }
  | .notificationRoutingPolicyDeleted id => deleteNotificationRoutingPolicyTx e.tenantId id
  | .notificationRead outboxId readAt =>
    applyNotificationReadTx { tenantId := e.tenantId, outboxId, readAt := readAt.orElse e.time }
  | .connectorDeliveryRecorded pl =>
    need (pl.id ≠ "" ∧ pl.status ≠ "") "id and status"
      (.ok (applyConnectorDeliveryRecordedTx { pl with
        tenantId := e.tenantId, createdAt := e.time, updatedAt := e.time }))
  | .lifecycleRotationRecorded pl =>
    need (pl.id ≠ "" ∧ pl.identityId ≠ "" ∧ pl.status ≠ "") "id, identity_id, and status"
      (.ok (applyRotationRunRecordedTx { pl with
        tenantId := e.tenantId, createdAt := e.time, updatedAt := e.time }))
  | .incidentExecutionRecorded pl blastRadius =>
    need (pl.id ≠ "" ∧ pl.compromisedIdentityId ≠ "" ∧ pl.status ≠ "")
      "id, compromised_identity_id, and status"
      (.ok (applyIncidentExecutionRecordedTx { pl with
        tenantId := e.tenantId, blastRadius := jsonbOrEmpty blastRadius, createdAt := e.time,
        updatedAt := e.time }))
  | .incidentFleetReissuanceRecorded pl graphImpact =>
    need (pl.id ≠ "" ∧ pl.issuerId ≠ "" ∧ pl.status ≠ "") "id, issuer_id, and status"
      (.ok (applyIncidentFleetReissuanceRecordedTx { pl with
        tenantId := e.tenantId, graphImpact := jsonbOrEmpty graphImpact, createdAt := e.time,
        updatedAt := e.time }))
  | .remediationPlaybookRunRecorded pl scopeDelta =>
    need (pl.id ≠ "" ∧ pl.playbookId ≠ "" ∧ pl.status ≠ "" ∧ pl.action ≠ "")
      "id, playbook_id, status, and action"
      (.ok (applyRemediationPlaybookRunRecordedTx { pl with
        tenantId := e.tenantId, scopeDelta := jsonbOrEmpty scopeDelta, createdAt := e.time,
        updatedAt := e.time }))
  | .responseIntegrationDispatched id title providers =>
    need (id ≠ "" ∧ title ≠ "" ∧ providers ≠ []) "id, title, and destinations"
      (require (b.type ++ " destination") (providers.all (· ≠ "")) "provider" (.ok []))

/-- What must hold of the event and of the state it is applied to for a second application
to change nothing. -/
def OperationsEvent.Replayable (e : Envelope) (db : Tables Row) : OperationsEvent → Prop
  | .discoveryFindingTriageChanged id _ _ _ _ metadataPatch =>
    ∀ r : DiscoveryFinding, r ∈ db .discoveryFindings → r.tenantId = e.tenantId → r.id = id →
      ∀ patch ∈ metadataPatch, (r.metadata.isObject ∧ patch.isObject) ∨ patch.isEmptyArray
  | _ => True

/-- Every event but a triage change is one whose transaction replays. -/
theorem OperationsEvent.replays {e : Envelope} {b : OperationsEvent} {p : Sink e.tenantId}
    (sunk : b.sink e = .ok p)
    (untriaged : ∀ id status managed actor why patch,
      b ≠ .discoveryFindingTriageChanged id status managed actor why patch) :
    Replays p p := by
  cases b with
  | discoverySourceUpserted | discoveryScheduleUpserted | discoveryRunQueued
  | discoveryFindingRecorded =>
    cases sunk
    exact Stable.replays (stable_upsert (by simp) rfl (fun _ h => h) fun _ _ => rfl)
  | discoveryRunStarted | discoveryRunCompleted =>
    cases sunk
    exact Stable.replays (stable_rowUpdate (fun _ _ _ => rfl) (by simp))
  | discoveryFindingTriageChanged id status managed actor why patch =>
    exact absurd rfl (untriaged id status managed actor why patch)
  | acmeDns01ProviderConfigUpserted | complianceReportScheduleUpserted
  | secretRotationScheduleUpserted | connectorDeliveryRecorded | lifecycleRotationRecorded
  | incidentExecutionRecorded | incidentFleetReissuanceRecorded | remediationPlaybookRunRecorded =>
    exact require_stable sunk (stable_upsert (by simp) rfl (fun _ h => h) fun _ _ => rfl)
  | acmeDns01ProviderConfigDeleted | mdmScepPolicyDeleted | workloadAttesterTrustSourceDeleted =>
    obtain ⟨-, ⟨⟩⟩ := require_ok.mp sunk
    exact replays_delete (by decide)
  | acmeDns01Preflighted | acmeDns01RecordChanged =>
    obtain ⟨-, ⟨⟩⟩ := require_ok.mp sunk
    exact replays_nil
  | mdmScepPolicyUpserted | workloadAttesterTrustSourceUpserted =>
    exact require_stable sunk (stable_upsert (by simp) (by simp) (fun _ h => h) (by simp))
  | mdmScepChallengeRotated | workloadAttesterTrustSourceRotated =>
    exact require_stable sunk (stable_rowUpdate (by simp) fun _ _ h => h)
  | workloadAttesterTrustSourceRevoked id why =>
    exact require_stable sunk (stable_rowUpdate (fun _ _ _ => rfl) (by simp))
  | secretRotationScheduleRan scheduleId runId status newRef error =>
    refine require_stable sunk (stable_rowUpdate (fun r _ _ => ?_) fun _ _ h => h)
    by_cases rotated : status = "completed" ∧ newRef ≠ "" <;> simp [rotated]
  | notificationThresholdDelivered subj thresholdDays channel sentAt =>
    cases sunk
    exact Stable.replays (stable_upsert (by simp) (by simp) (fun _ h => h) (by simp))
  | notificationChannelUpserted | notificationRoutingPolicyUpserted =>
    obtain ⟨-, ⟨⟩⟩ := refuse_ok.mp sunk
    exact Stable.replays (stable_upsert (by simp) rfl (fun _ h => h) fun _ _ => rfl)
  | notificationChannelDeleted | notificationRoutingPolicyDeleted =>
    obtain ⟨-, ⟨⟩⟩ := refuse_ok.mp sunk
    exact replays_delete (by decide)
  | notificationRead outboxId readAt =>
    obtain ⟨-, ⟨⟩⟩ := refuse_ok.mp sunk
    exact Stable.replays (stable_upsert (by simp) (by simp) (fun _ h => h) (by simp))
  | responseIntegrationDispatched id title providers =>
    obtain ⟨-, provided⟩ := require_ok.mp sunk
    obtain ⟨-, ⟨⟩⟩ := require_ok.mp provided
    exact replays_nil

/-- A second application of an operational event changes nothing exactly where it is
replayable. -/
theorem OperationsEvent.replay_iff {e : Envelope} {b : OperationsEvent} {p : Sink e.tenantId}
    {s : Session} {db db' : Database Row} (sunk : b.sink e = .ok p)
    (ran : run s p db = .ok db') :
    run s p db' = .ok db' ↔ b.Replayable e db.tables := by
  cases b with
  | discoveryFindingTriageChanged id status managed actor why patch =>
    -- a triage change replays exactly where concatenating its patch twice does not show
    cases sunk
    unfold applyDiscoveryFindingTriageChangedTx at ran ⊢
    rw [run_singleton] at ran ⊢
    refine (fixed_rowUpdate_after ?_ ran).trans (forall₂_congr fun r _ => ?_)
    · exact fun _ h => h
    have own : owns e.tenantId r ↔ (r : DiscoveryFinding).tenantId = e.tenantId :=
      decide_eq_true_iff
    simp only [own, decide_eq_true_eq, DiscoveryFinding.mk.injEq, true_and, and_true]
    refine imp_congr_right fun _ => imp_congr_right fun _ => ?_
    cases patch with
    | none => simp [patchMetadata]
    | some patch => simpa [patchMetadata] using Json.concat_again_iff
  | _ => exact iff_of_true (OperationsEvent.replays sunk (by simp) ran) trivial

end Trustctl.Projections
