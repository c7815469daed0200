import Trustctl.Store.Statement

/-!
# Whole-tenant operations of the store

Registering a tenant, erasing it (`OffboardTenant`), and the table lists of the rebuild:
the read model that a rebuild truncates and the rows it deletes when it meets an
offboarding in the log.  The four lists are hand-written in the source and are
reproduced here in its order.
-/

namespace Trustctl.Store

open Relational List

/-- `UpsertTenant` and `UpsertTenantTx`. -/
def upsertTenant (τ : Uuid) (name : String) (eventSeq : Nat) : Sink τ := [
  upsert .tenants { tenantId := τ, name, eventSeq : Tenant } (fun (r : Tenant) => r.tenantId = τ)
    (fun (r : Tenant) => { r with name, eventSeq }) rfl fun _ => rfl]

/-! ## Table lists -/

/-- `TenantScopedTables`, without the tables no projected state lives in. -/
def tenantScopedTables : List Table := [
  .attestations, .discoveryFindings, .notificationReads, .notificationThresholdDeliveries,
  .discoveryRuns, .discoverySchedules, .discoverySources, .remediationPlaybookRuns,
  .incidentFleetReissuanceRuns, .incidentExecutions, .pamSessions, .complianceReportSchedules,
  .secretRotationSchedules, .accessChangeRequestDecisions, .accessChangeRequests,
  .nhiAccessReviewItems, .nhiAccessReviewCampaigns, .privacyArchiveErasureAttestations,
  .privacyRetentionRuns, .privacySubjectErasures, .connectorDeliveryReceipts,
  .lifecycleRotationRuns, .certificates, .identityTransitions, .identities,
  .caCeremonyApprovals, .caKeyCeremonies, .issuanceApprovals, .issuanceApprovalRequests,
  .owners, .issuers, .deploymentTargets, .agentCertRevocations, .agents, .tenantMembers,
  .apiTokens, .caAuthorities, .caIssuedCerts, .caCrls, .caOcspResponders, .sshKeys,
  .cryptoAssets, .certificateProfiles, .workloadAttesterTrustSources,
  .acmeDns01ProviderConfigs, .mdmScepPolicies, .notificationChannels,
  .notificationRoutingPolicies, .tenants]

def readModelTables : List Table := [
  .owners, .issuers, .identities, .certificates, .cryptoAssets, .agents, .agentCertRevocations,
  .tenants, .identityTransitions, .certificateProfiles, .acmeDns01ProviderConfigs,
  .mdmScepPolicies, .workloadAttesterTrustSources, .tenantMembers, .caKeyCeremonies,
  .caCeremonyApprovals, .caIssuedCerts, .caCrls, .caOcspResponders, .discoverySources,
  .discoverySchedules, .discoveryRuns, .discoveryFindings, .notificationChannels,
  .notificationReads, .notificationThresholdDeliveries, .connectorDeliveryReceipts,
  .lifecycleRotationRuns, .incidentExecutions, .incidentFleetReissuanceRuns,
  .remediationPlaybookRuns, .pamSessions, .complianceReportSchedules, .secretRotationSchedules,
  .privacySubjectErasures, .privacyRetentionRuns, .privacyArchiveErasureAttestations,
  .nhiAccessReviewCampaigns, .nhiAccessReviewItems, .accessChangeRequests,
  .accessChangeRequestDecisions]

/-- The `ordered` list of `DeleteTenantReadModelTx`. -/
def deletedReadModelTables : List Table := [
  .identityTransitions, .connectorDeliveryReceipts, .lifecycleRotationRuns,
  .remediationPlaybookRuns, .incidentFleetReissuanceRuns, .pamSessions,
  .secretRotationSchedules, .complianceReportSchedules, .accessChangeRequestDecisions,
  .accessChangeRequests, .nhiAccessReviewItems, .nhiAccessReviewCampaigns, .notificationReads,
  .notificationThresholdDeliveries, .notificationChannels, .caCrls, .caOcspResponders,
  .caIssuedCerts, .caCeremonyApprovals, .caKeyCeremonies, .certificates, .cryptoAssets,
  .agentCertRevocations, .identities, .certificateProfiles, .workloadAttesterTrustSources,
  .mdmScepPolicies, .acmeDns01ProviderConfigs, .discoveryFindings, .discoveryRuns,
  .discoverySchedules, .discoverySources, .privacyArchiveErasureAttestations,
  .privacyRetentionRuns, .privacySubjectErasures, .issuers, .owners, .tenants]

def snapshotTables : List Table := [
  .owners, .issuers, .certificateProfiles, .acmeDns01ProviderConfigs, .mdmScepPolicies,
  .identities, .certificates, .cryptoAssets, .agents, .caKeyCeremonies, .caCeremonyApprovals,
  .caIssuedCerts, .caCrls, .caOcspResponders, .discoverySources, .discoverySchedules,
  .discoveryRuns, .discoveryFindings, .notificationChannels, .notificationReads,
  .notificationThresholdDeliveries, .connectorDeliveryReceipts, .lifecycleRotationRuns,
  .incidentExecutions, .incidentFleetReissuanceRuns, .remediationPlaybookRuns, .pamSessions,
  .complianceReportSchedules, .secretRotationSchedules, .privacySubjectErasures,
  .privacyRetentionRuns, .privacyArchiveErasureAttestations, .nhiAccessReviewCampaigns,
  .nhiAccessReviewItems, .accessChangeRequests, .accessChangeRequestDecisions,
  .identityTransitions]

/-! ## Truncation -/

/-- What `TRUNCATE … CASCADE` over the read model empties: the tables themselves and the
one table that refers to them. -/
def truncatedTables : List Table := .attestations :: readModelTables

def truncateTables (db : Tables Row) : Tables Row :=
  fun t => if t ∈ truncatedTables then [] else db t

theorem truncated_children : ∀ edge ∈ constraints.filterMap Constraint.edge,
    edge.1 ∉ truncatedTables → edge.2 ∉ truncatedTables := by decide

theorem valid_truncateTables {db : Tables Row} (valid : Schema.valid db) :
    Schema.valid (truncateTables db) := by
  have kept : truncateTables db = fun t => (db t).filter fun _ => decide (t ∉ truncatedTables) := by
    funext t
    by_cases emptied : t ∈ truncatedTables <;> simp [truncateTables, emptied]
  rw [kept]
  refine all_eq_true.mpr fun c mem =>
    Constraint.holds_filter ?_ (all_eq_true.mp valid c mem)
  cases c with
  | unique | check => trivial
  | foreignKey t t' =>
    have outside := truncated_children (t, t') (mem_filterMap.mpr ⟨_, mem, rfl⟩)
    exact fun _ _ child _ _ _ => decide_eq_true (outside (of_decide_eq_true child))

def truncateReadModel (db : Database Row) : Database Row :=
  ⟨truncateTables db.tables, valid_truncateTables db.valid⟩

/-! ## Erasing a tenant -/

def Table.name : Table → String
  | .tenants => "tenants"
  | .owners => "owners"
  | .issuers => "issuers"
  | .identities => "identities"
  | .identityTransitions => "identity_transitions"
  | .certificates => "certificates"
  | .certificateProfiles => "certificate_profiles"
  | .cryptoAssets => "crypto_assets"
  | .deploymentTargets => "deployment_targets"
  | .agents => "agents"
  | .agentCertRevocations => "agent_cert_revocations"
  | .sshKeys => "ssh_keys"
  | .attestations => "attestations"
  | .caAuthorities => "ca_authorities"
  | .caKeyCeremonies => "ca_key_ceremonies"
  | .caCeremonyApprovals => "ca_ceremony_approvals"
  | .caIssuedCerts => "ca_issued_certs"
  | .caCrls => "ca_crls"
  | .caOcspResponders => "ca_ocsp_responders"
  | .discoverySources => "discovery_sources"
  | .discoverySchedules => "discovery_schedules"
  | .discoveryRuns => "discovery_runs"
  | .discoveryFindings => "discovery_findings"
  | .acmeDns01ProviderConfigs => "acme_dns01_provider_configs"
  | .mdmScepPolicies => "mdm_scep_policies"
  | .workloadAttesterTrustSources => "workload_attester_trust_sources"
  | .complianceReportSchedules => "compliance_report_schedules"
  | .secretRotationSchedules => "secret_rotation_schedules"
  | .notificationChannels => "notification_channels"
  | .notificationRoutingPolicies => "notification_routing_policies"
  | .notificationThresholdDeliveries => "notification_threshold_deliveries"
  | .notificationReads => "notification_reads"
  | .connectorDeliveryReceipts => "connector_delivery_receipts"
  | .lifecycleRotationRuns => "lifecycle_rotation_runs"
  | .incidentExecutions => "incident_executions"
  | .incidentFleetReissuanceRuns => "incident_fleet_reissuance_runs"
  | .remediationPlaybookRuns => "remediation_playbook_runs"
  | .tenantMembers => "tenant_members"
  | .apiTokens => "api_tokens"
  | .pamSessions => "pam_sessions"
  | .nhiAccessReviewCampaigns => "nhi_access_review_campaigns"
  | .nhiAccessReviewItems => "nhi_access_review_items"
  | .accessChangeRequests => "access_change_requests"
  | .accessChangeRequestDecisions => "access_change_request_decisions"
  | .issuanceApprovalRequests => "issuance_approval_requests"
  | .issuanceApprovals => "issuance_approvals"
  | .privacySubjectErasures => "privacy_subject_erasures"
  | .privacyRetentionRuns => "privacy_retention_runs"
  | .privacyArchiveErasureAttestations => "privacy_archive_erasure_attestations"

/-- `DELETE FROM … WHERE tenant_id = $1`. -/
def deleteTenantRows (τ : Uuid) (t : Table) : Stmt Row ApplyError τ := .delete t fun _ => true

/-- One query of the verification pass of `OffboardTenant`. -/
def verifyErased (τ : Uuid) (t : Table) : Stmt Row ApplyError τ :=
  .guard fun view =>
    if view t = [] then none
    else some (.store ("store: offboard incomplete: " ++ toString (view t).length ++
      " row(s) remain in " ++ t.name ++ " for tenant " ++ τ))

def offboardTenant (τ : Uuid) : Except ApplyError (Sink τ) :=
  if τ = "" then .error (.store "store: OffboardTenant requires a tenant id (AN-1)")
  else .ok (tenantScopedTables.map (deleteTenantRows τ) ++ tenantScopedTables.map (verifyErased τ))

def deleteTenantReadModelTx (τ : Uuid) : Except ApplyError (Sink τ) :=
  if τ = "" then .error (.store "store: DeleteTenantReadModelTx requires a tenant id (AN-1)")
  else .ok (deletedReadModelTables.map (deleteTenantRows τ))

/-! ## What an erasure leaves -/

variable {τ : Uuid} {s : Session} {db db' : Database Row} {p : Sink τ}

theorem mem_tenantScopedTables (t : Table) : t ∈ tenantScopedTables := by cases t <;> decide

theorem exec_verifyErased {t : Table} : exec s db (verifyErased τ t) = .ok db' ↔
    slice τ db.tables t = [] ∧ db' = db := by
  unfold verifyErased
  rw [exec_guard]
  by_cases erased : slice τ db.tables t = [] <;> simp [erased]

theorem run_verifyErased {tables : List Table}
    (ran : run s (tables.map (verifyErased τ)) db = .ok db') :
    db' = db ∧ ∀ t ∈ tables, slice τ db.tables t = [] := by
  induction tables with
  | nil =>
    cases ran
    exact ⟨rfl, by simp⟩
  | cons t rest ih =>
    obtain ⟨mid, valid, others⟩ := run_cons_ok.mp ran
    obtain ⟨erased, rfl⟩ := exec_verifyErased.mp valid
    obtain ⟨same, later⟩ := ih others
    exact ⟨same, forall_mem_cons.mpr ⟨erased, later⟩⟩

/-- An erasure that commits leaves no row of the tenant in any table. -/
theorem offboardTenant_erases (sunk : offboardTenant τ = .ok p) (ran : run s p db = .ok db')
    (t : Table) : slice τ db'.tables t = [] := by
  obtain ⟨-, ⟨⟩⟩ := refuse_ok.mp sunk
  obtain ⟨mid, -, valid⟩ := run_append_ok.mp ran
  obtain ⟨rfl, erased⟩ := run_verifyErased valid
  exact erased t (mem_tenantScopedTables t)

theorem offboardTenant_replays (sunk : offboardTenant τ = .ok p) : Replays p p := by
  intro s db db' ran
  have erased := offboardTenant_erases sunk ran
  obtain ⟨-, ⟨⟩⟩ := refuse_ok.mp sunk
  refine run_of_fixed fun stmt mem => ?_
  rcases mem_append.mp mem with deleted | valid
  · obtain ⟨t, -, rfl⟩ := mem_map.mp deleted
    exact fixed_delete (erased t)
  · obtain ⟨t, -, rfl⟩ := mem_map.mp valid
    exact exec_verifyErased.mpr ⟨erased t, rfl⟩

end Trustctl.Store
