import Trustctl.Store.Statement

/-!
# Privacy sinks

Subject erasure, retention enforcement and archive attestations.  The source's
read-then-update loops over the rows of one table are one `UPDATE` here: each round
changes the row it has just read and no other.

Redaction settles (`redact_redact`, `retainActor_idem`): a value it has replaced is one
it leaves alone, which is what makes the two sinks safe to apply twice.
-/

namespace Trustctl.Store

open Relational

/-! ## Redaction -/

section Redaction

variable (h : Digest) (τ : Uuid) (ref : String)

def subjectValueMatches (value : String) : Bool :=
  value ≠ "" && !isPlaceholder value && subjectRef h τ value = ref

def redactSubjectValue (value : String) : String :=
  if subjectValueMatches h τ ref value then placeholder ref else value

def redactSubjectValues (values : List String) : List String :=
  values.map (redactSubjectValue h τ ref)

@[simp] theorem redact_redact (value : String) :
    redactSubjectValue h τ ref (redactSubjectValue h τ ref value) =
      redactSubjectValue h τ ref value := by
  have done : subjectValueMatches h τ ref (placeholder ref) = false := by
    simp [subjectValueMatches]
  cases hit : subjectValueMatches h τ ref value <;> simp [redactSubjectValue, hit, done]

@[simp] theorem redactValues_redactValues (values : List String) :
    redactSubjectValues h τ ref (redactSubjectValues h τ ref values) =
      redactSubjectValues h τ ref values := by
  simp [redactSubjectValues]

end Redaction

def retained (s : String) : String := "retained:" ++ left 12 s

def isRetained (s : String) : Bool := hasPrefix "retained:" s

@[simp] theorem isRetained_retained (s : String) : isRetained (retained s) = true :=
  hasPrefix_append ..

/-- The `CASE` that replaces an actor unless it is already replaced. -/
def retainActor (h : Digest) (τ : Uuid) (actor : String) : String :=
  if isRetained actor ∨ isPlaceholder actor then actor
  else retained (h.md5 (τ ++ ":" ++ actor))

@[simp] theorem retainActor_idem (h : Digest) (τ : Uuid) (actor : String) :
    retainActor h τ (retainActor h τ actor) = retainActor h τ actor := by
  by_cases done : isRetained actor ∨ isPlaceholder actor <;> simp [retainActor, done]

/-- The same `CASE` for a column whose empty text names nobody. -/
def retainNamedActor (h : Digest) (τ : Uuid) (actor : String) : String :=
  if actor = "" then actor else retainActor h τ actor

@[simp] theorem retainNamedActor_idem (h : Digest) (τ : Uuid) (actor : String) :
    retainNamedActor h τ (retainNamedActor h τ actor) = retainNamedActor h τ actor := by
  by_cases nobody : actor = ""
  · simp [retainNamedActor, nobody]
  · by_cases same : retainActor h τ actor = "" <;> simp [retainNamedActor, nobody, same]

/-- The `CASE` of an agent's offboarder, which replaces a placeholder too. -/
def retainOffboarder (h : Digest) (τ : Uuid) (by_ : String) : String :=
  if by_ = "" ∨ isRetained by_ then by_ else retained (h.md5 (τ ++ ":" ++ by_))

@[simp] theorem retainOffboarder_idem (h : Digest) (τ : Uuid) (by_ : String) :
    retainOffboarder h τ (retainOffboarder h τ by_) = retainOffboarder h τ by_ := by
  by_cases done : by_ = "" ∨ isRetained by_ <;> simp [retainOffboarder, done]

/-! ## Selectors -/

/-- The loop body shared by the `readModel…` functions: the first selector of each key. -/
def distinctBy {α : Type} (key : α → String) : List α → List α :=
  List.eraseDupsBy fun a b => key a == key b

def readModelIds (selectors : List PrivacyReadModelSelector) (table : String) : List String :=
  distinctBy id ((selectors.filter fun s => s.table = table ∧ s.id ≠ "").map (·.id))

def readModelChildSelectors (selectors : List PrivacyReadModelSelector) (table : String) :
    List PrivacyReadModelSelector :=
  distinctBy (fun s => s.parentId ++ "/" ++ s.id)
    (selectors.filter fun s => s.table = table ∧ s.id ≠ "" ∧ s.parentId ≠ "")

def readModelThresholds (selectors : List PrivacyReadModelSelector) (table : String) : List Int :=
  ((selectors.filter fun s => s.table = table ∧ s.thresholdDays ≠ 0).map
    (·.thresholdDays)).eraseDups

def bumpCount (counts : List (String × Nat)) (table : String) : List (String × Nat) :=
  if counts.any (·.1 = table) then
    counts.map fun c => if c.1 = table then (c.1, c.2 + 1) else c
  else counts ++ [(table, 1)]

def countsForPrivacySelectors (s : PrivacyErasureSelectors) : List (String × Nat) :=
  (s.readModels.map (·.table)).foldl bumpCount
    [("owners", s.ownerIds.length), ("identities", s.identityIds.length),
      ("certificates", s.certificateFingerprints.length), ("ssh_keys", s.sshKeyIds.length),
      ("attestations", s.attestationIds.length),
      ("approval_requests", s.approvalRequests.length), ("approvals", s.approvals.length),
      ("profiles", s.profileIds.length), ("agents", s.agentIds.length),
      ("agent_offboard_actors", s.agentOffboardActorIds.length),
      ("agent_offboard_reasons", s.agentOffboardReasonIds.length), ("api_tokens", 0),
      ("tenant_members", 0), ("read_models", s.readModels.length)]

/-! ## Erasure -/

section Erasure

variable (h : Digest) (τ : Uuid) (ref : String)

def recordErasure (n : PrivacySubjectErasure) : Stmt Row ApplyError n.tenantId :=
  upsert .privacySubjectErasures n
    (fun (r : PrivacySubjectErasure) => r.tenantId = n.tenantId ∧ r.subjectRef = n.subjectRef)
    (fun (r : PrivacySubjectErasure) => { n with
      tenantId := r.tenantId, subjectRef := r.subjectRef })
    rfl fun _ => rfl

/-- The statements that retire the subject's membership and tokens. -/
def eraseAccess (reason : String) (erasedAt : Time) : Sink τ := [ rowUpdate .tenantMembers
    (fun (r : TenantMember) => r.subjectRef = ref ∧ r.subject ≠ placeholder ref)
    (fun (r : TenantMember) => { r with
      subject := placeholder ref, displayName := "", email := "", status := "offboarded",
      updatedAt := erasedAt, offboardedAt := r.offboardedAt <|> some erasedAt,
      offboardedBy := "privacy-erasure"
      offboardReason := if r.offboardReason = "" then reason else r.offboardReason })
    none fun _ => rfl,
  rowUpdate .apiTokens (fun (r : ApiToken) => r.subjectRef = ref) (fun (r : ApiToken) => { r with
      subject := placeholder ref, revokedAt := r.revokedAt <|> some erasedAt
      revokedBy := if r.revokedBy = "" then "privacy-erasure" else r.revokedBy
      revocationReason := if r.revocationReason = "" then reason else r.revocationReason })
    none fun _ => rfl]

/-- The statements over the inventory tables, `eraseApprovalRequestActors` and
`eraseApprovalActors`. -/
def eraseInventory (s : PrivacyErasureSelectors) : Sink τ := [
  rowUpdate .owners (fun (r : Owner) => r.id ∈ s.ownerIds)
    (fun (r : Owner) => { r with name := "erased:" ++ left 12 r.id, email := "" })
    none fun _ => rfl,
  rowUpdate .identities (fun (r : Identity) => r.id ∈ s.identityIds)
    (fun (r : Identity) => { r with name := "erased:" ++ left 12 r.id, attributes := .empty })
    none fun _ => rfl,
  rowUpdate .certificates (fun (r : Certificate) => r.fingerprint ∈ s.certificateFingerprints)
    (fun (r : Certificate) => { r with
      subject := "erased:" ++ left 12 r.fingerprint, sans := [], deploymentLocation := "",
      source := "" })
    none fun _ => rfl,
  rowUpdate .sshKeys (fun (r : SshKey) => r.id ∈ s.sshKeyIds)
    (fun (r : SshKey) => { r with comment := "", location := "" }) none fun _ => rfl,
  rowUpdate .attestations (fun (r : Attestation) => r.id ∈ s.attestationIds)
    (fun (r : Attestation) => { r with evidence := .empty }) none fun _ => rfl,
  rowUpdate .issuanceApprovalRequests (fun (r : ApprovalRequest) =>
      (s.approvalRequests.any fun a => a.resource = r.resource ∧ a.action = r.action) ∧
        subjectRef h τ r.requester = ref)
    (fun (r : ApprovalRequest) => { r with requester := placeholder ref }) none fun _ => rfl,
  rowUpdate .issuanceApprovals (fun (r : Approval) =>
      (s.approvals.any fun a => a.resource = r.resource ∧ a.action = r.action) ∧
        subjectRef h τ r.approver = ref)
    (fun (r : Approval) => { r with approver := placeholder ref }) none fun _ => rfl,
  rowUpdate .certificateProfiles (fun (r : ProfileRecord) => r.id ∈ s.profileIds)
    (fun (r : ProfileRecord) => { r with createdBy := placeholder ref }) none fun _ => rfl]

/-- The three statements over agents. -/
def eraseAgents (s : PrivacyErasureSelectors) : Sink τ := [
  rowUpdate .agents (fun (r : Agent) => r.id ∈ s.agentIds)
    (fun (r : Agent) => { r with name := placeholder ref }) none fun _ => rfl,
  rowUpdate .agents (fun (r : Agent) => r.id ∈ s.agentOffboardActorIds)
    (fun (r : Agent) => { r with offboardedBy := some (placeholder ref) }) none fun _ => rfl,
  rowUpdate .agents (fun (r : Agent) => r.id ∈ s.agentOffboardReasonIds)
    (fun (r : Agent) => { r with offboardReason := some "" }) none fun _ => rfl]

def erasePrivacyReadModelRows (selectors : List PrivacyReadModelSelector) : Sink τ :=
  let redact := redactSubjectValue h τ ref
  let redactAll := redactSubjectValues h τ ref
  [rowUpdate .pamSessions (fun (r : PamSession) => r.id ∈ readModelIds selectors "pam_sessions")
    (fun (r : PamSession) => { r with
      subject := redact r.subject, requestedBy := redact r.requestedBy, reason := "",
      audit := .empty })
    none fun _ => rfl,
  rowUpdate .discoveryFindings
    (fun (r : DiscoveryFinding) => r.id ∈ readModelIds selectors "discovery_findings")
    (fun (r : DiscoveryFinding) => { r with
      triageActor := redact r.triageActor, triageReason := "" })
    none fun _ => rfl,
  rowUpdate .notificationThresholdDeliveries (fun (r : NotificationThresholdDelivery) =>
      r.thresholdDays ∈ readModelThresholds selectors "notification_threshold_deliveries" ∧
        (subjectValueMatches h τ ref r.subject ∨ subjectValueMatches h τ ref r.channel))
    (fun (r : NotificationThresholdDelivery) => { r with
      subject := redact r.subject, channel := redact r.channel })
    none fun _ => rfl,
  rowUpdate .incidentExecutions
    (fun (r : IncidentExecution) => r.id ∈ readModelIds selectors "incident_executions")
    (fun (r : IncidentExecution) => { r with
      createdBy := redact r.createdBy, reason := "", evidenceBundle := "",
      failedTargets := redactAll r.failedTargets, rollbackRefs := redactAll r.rollbackRefs })
    none fun _ => rfl,
  rowUpdate .nhiAccessReviewCampaigns
    (fun (r : NhiReviewCampaign) => r.id ∈ readModelIds selectors "nhi_access_review_campaigns")
    (fun (r : NhiReviewCampaign) => { r with
      reviewerSubject := redact r.reviewerSubject, requestedBy := redact r.requestedBy })
    none fun _ => rfl,
  rowUpdate .nhiAccessReviewItems (fun (r : NhiReviewItem) =>
      (readModelChildSelectors selectors "nhi_access_review_items").any fun s =>
        s.parentId = r.campaignId ∧ s.id = r.itemId)
    (fun (r : NhiReviewItem) => { r with
      decisionBy := redact r.decisionBy, decisionReason := "",
      decisionEvidenceRefs := redactAll r.decisionEvidenceRefs })
    none fun _ => rfl,
  rowUpdate .accessChangeRequests
    (fun (r : AccessChangeRequest) => r.id ∈ readModelIds selectors "access_change_requests")
    (fun (r : AccessChangeRequest) => { r with
      requesterSubject := redact r.requesterSubject, reason := "privacy-redacted",
      evidenceRefs := redactAll r.evidenceRefs })
    none fun _ => rfl,
  rowUpdate .accessChangeRequestDecisions (fun (r : AccessChangeDecision) =>
      r.requestId ∈ readModelIds selectors "access_change_request_decisions")
    (fun (r : AccessChangeDecision) => { r with
      approverSubject := redact r.approverSubject, reason := "",
      decisionEvidenceRefs := redactAll r.decisionEvidenceRefs })
    none fun _ => rfl,
  rowUpdate .discoveryRuns
    (fun (r : DiscoveryRun) => r.id ∈ readModelIds selectors "discovery_runs")
    (fun (r : DiscoveryRun) => { r with requestedBy := placeholder ref }) none fun _ => rfl,
  rowUpdate .notificationRoutingPolicies (fun (r : NotificationRoutingPolicy) =>
      r.id ∈ readModelIds selectors "notification_routing_policies")
    (fun (r : NotificationRoutingPolicy) => { r with
      ownerRef := redact r.ownerRef
      ownerEmail := if subjectValueMatches h τ ref r.ownerEmail then "" else r.ownerEmail })
    none fun _ => rfl,
  rowUpdate .remediationPlaybookRuns
    (fun (r : RemediationPlaybookRun) => r.id ∈ readModelIds selectors "remediation_playbook_runs")
    (fun (r : RemediationPlaybookRun) => { r with
      createdBy := redact r.createdBy, reason := "", evidenceRefs := redactAll r.evidenceRefs,
      rollbackRefs := redactAll r.rollbackRefs })
    none fun _ => rfl,
  rowUpdate .complianceReportSchedules (fun (r : ComplianceReportSchedule) =>
      r.id ∈ readModelIds selectors "compliance_report_schedules")
    (fun (r : ComplianceReportSchedule) => { r with recipientRef := placeholder ref })
    none fun _ => rfl,
  rowUpdate .incidentFleetReissuanceRuns (fun (r : IncidentFleetReissuanceRun) =>
      r.id ∈ readModelIds selectors "incident_fleet_reissuance_runs")
    (fun (r : IncidentFleetReissuanceRun) => { r with
      createdBy := redact r.createdBy, reason := "", evidenceBundle := "",
      failedTargets := redactAll r.failedTargets, rollbackRefs := redactAll r.rollbackRefs })
    none fun _ => rfl]

end Erasure

/-- `ApplyPrivacySubjectErasedTx`; the counts default to those of the selectors. -/
def applyPrivacySubjectErasedTx (h : Digest) (τ : Uuid) (ref requestedByRef reason : String)
    (selectors : PrivacyErasureSelectors) (counts : Option (List (String × Nat)))
    (erasedAt : Time) : Sink τ :=
  recordErasure {
      tenantId := τ, subjectRef := ref, requestedByRef, reason, selectors,
      counts := counts.getD (countsForPrivacySelectors selectors), erasedAt } ::
    (eraseAccess τ ref reason erasedAt ++ eraseInventory h τ ref selectors ++
      eraseAgents τ ref selectors ++ erasePrivacyReadModelRows h τ ref selectors.readModels)

/-! ## Retention -/

/-- A nullable instant is set and lies before the cutoff. -/
def isBefore (at_ : Option Time) (cutoff : Time) : Bool := at_.any (· < cutoff)

section Retention

variable (h : Digest) (τ : Uuid) (c : PrivacyRetentionCutoffs)

/-- An old owner that still names somebody and that no identity refers to. -/
def inactiveOwner (view : Tables Row) (r : Owner) : Bool :=
  r.createdAt < c.ownerInactiveBefore ∧ (r.email ≠ "" ∨ !isRetained r.name) ∧
    !(view .identities).any fun (i : Identity) => i.ownerId = r.id

/-- The statement over inactive owners. -/
def retainOwners : Stmt Row ApplyError τ :=
  .update .owners (inactiveOwner c)
    (fun _ (r : Owner) => { r with name := retained r.id, email := "" }) none fun _ _ => rfl

/-- The statement over ended identities. -/
def retainIdentities : Stmt Row ApplyError τ :=
  rowUpdate .identities (fun (r : Identity) => (!isRetained r.name ∨ !r.attributes.isEmpty) ∧
      (((r.status = "revoked" ∨ r.status = "retired") ∧ r.createdAt < c.identityTerminalBefore) ∨
        isBefore r.notAfter c.identityTerminalBefore))
    (fun (r : Identity) => { r with name := retained r.id, attributes := .empty })
    none fun _ => rfl

/-- The retention statements over the inventory tables. -/
def retainInventory : Sink τ := [ retainOwners τ c, retainIdentities τ c,
  rowUpdate .certificates (fun (r : Certificate) =>
      (!isRetained r.subject ∨ r.sans ≠ [] ∨ r.deploymentLocation ≠ "" ∨ r.source ≠ "") ∧
      (((r.status = "revoked" ∨ r.status = "superseded") ∧
          (((r.revokedAt <|> r.renewedAt) <|> r.notAfter).getD r.createdAt) <
            c.certificateTerminalBefore) ∨
        isBefore r.notAfter c.certificateTerminalBefore))
    (fun (r : Certificate) => { r with
      subject := retained r.fingerprint, sans := [], deploymentLocation := "", source := "" })
    none fun _ => rfl,
  rowUpdate .sshKeys (fun (r : SshKey) => r.orphaned ∧ r.createdAt < c.sshStaleBefore ∧
      (r.comment ≠ "" ∨ r.location ≠ ""))
    (fun (r : SshKey) => { r with comment := "", location := "" }) none fun _ => rfl,
  rowUpdate .attestations
    (fun (r : Attestation) => r.createdAt < c.attestationEvidenceBefore ∧ !r.evidence.isEmpty)
    (fun (r : Attestation) => { r with evidence := .empty }) none fun _ => rfl,
  rowUpdate .issuanceApprovalRequests
    (fun (r : ApprovalRequest) => r.createdAt < c.approvalActorBefore ∧ r.requester ≠ "" ∧
      !isRetained r.requester)
    (fun (r : ApprovalRequest) => { r with
      requester := retained (h.md5 (τ ++ ":" ++ r.requester)) })
    none fun _ => rfl,
  rowUpdate .issuanceApprovals
    (fun (r : Approval) => r.approvedAt < c.approvalActorBefore ∧ r.approver ≠ "" ∧
      !isRetained r.approver)
    (fun (r : Approval) => { r with approver := retained (h.md5 (τ ++ ":" ++ r.approver)) })
    none fun _ => rfl,
  rowUpdate .certificateProfiles
    (fun (r : ProfileRecord) => r.createdAt < c.profileActorBefore ∧ r.createdBy ≠ "" ∧
      !isRetained r.createdBy)
    (fun (r : ProfileRecord) => { r with createdBy := retained r.id }) none fun _ => rfl]

/-- The retention statements over tokens, members, agents and privileged sessions. -/
def retainAccess : Sink τ := [
  rowUpdate .apiTokens (fun (r : ApiToken) => r.subjectRef ≠ "" ∧ !isPlaceholder r.subject ∧
      (isBefore r.revokedAt c.accessTerminalBefore ∨ isBefore r.expiresAt c.accessTerminalBefore))
    (fun (r : ApiToken) => { r with subject := placeholder r.subjectRef }) none fun _ => rfl,
  rowUpdate .tenantMembers (fun (r : TenantMember) => r.subjectRef ≠ "" ∧ r.status = "offboarded" ∧
      isBefore r.offboardedAt c.accessTerminalBefore ∧
      (!isPlaceholder r.subject ∨ r.displayName ≠ "" ∨ r.email ≠ ""))
    (fun (r : TenantMember) => { r with
      subject := placeholder r.subjectRef, displayName := "", email := "" })
    none fun _ => rfl,
  rowUpdate .agents (fun (r : Agent) =>
      (!isRetained r.name ∨ (r.offboardedBy.getD "" ≠ "" ∧ !isRetained (r.offboardedBy.getD "")) ∨
        r.offboardReason.getD "" ≠ "") ∧
      (isBefore r.lastSeenAt c.agentStaleBefore ∨
        (r.lastSeenAt = none ∧ r.createdAt < c.agentStaleBefore) ∨
        isBefore r.offboardedAt c.agentStaleBefore))
    (fun (r : Agent) => { r with
      name := if isRetained r.name then r.name else retained r.id
      offboardedBy := r.offboardedBy.map (retainOffboarder h τ)
      offboardReason := r.offboardReason.map fun _ => "" })
    none fun _ => rfl,
  rowUpdate .pamSessions
    (fun (r : PamSession) => r.endedAt.getD r.expiresAt < c.accessTerminalBefore ∧
      (!isRetained r.subject ∨ !isRetained r.requestedBy ∨ r.reason ≠ "" ∨ !r.audit.isEmpty))
    (fun (r : PamSession) => { r with
      subject := retainActor h τ r.subject, requestedBy := retainActor h τ r.requestedBy,
      reason := "", audit := .empty })
    none fun _ => rfl]

/-- The channels retention keeps by name. -/
def channelKinds : List String :=
  ["email", "slack", "teams", "sms", "webhook", "pagerduty", "opsgenie", "siem"]

/-- The retention statements over the operational evidence. -/
def retainOperations : Sink τ := [ rowUpdate .discoveryFindings
    (fun (r : DiscoveryFinding) => isBefore r.triagedAt c.attestationEvidenceBefore ∧
      (r.triageActor ≠ "" ∨ r.triageReason ≠ ""))
    (fun (r : DiscoveryFinding) => { r with
      triageActor := retainNamedActor h τ r.triageActor, triageReason := "" })
    none fun _ => rfl,
  rowUpdate .notificationThresholdDeliveries
    (fun (r : NotificationThresholdDelivery) => r.lastSentAt < c.attestationEvidenceBefore ∧
      (!isRetained r.subject ∨ (r.channel ∉ channelKinds ∧ !isRetained r.channel)))
    (fun (r : NotificationThresholdDelivery) => { r with
      subject := retainActor h τ r.subject
      channel := if r.channel ∈ channelKinds then r.channel else retainActor h τ r.channel })
    none fun _ => rfl,
  rowUpdate .incidentExecutions
    (fun (r : IncidentExecution) => r.updatedAt < c.attestationEvidenceBefore ∧
      (r.createdBy ≠ "" ∨ r.reason ≠ "" ∨ r.evidenceBundle ≠ "" ∨ r.failedTargets ≠ [] ∨
        r.rollbackRefs ≠ []))
    (fun (r : IncidentExecution) => { r with
      createdBy := retainNamedActor h τ r.createdBy, reason := "", evidenceBundle := "",
      failedTargets := [], rollbackRefs := [] })
    none fun _ => rfl]

/-- The retention statements over reviews and change requests. -/
def retainReviews : Sink τ := [
  rowUpdate .nhiAccessReviewCampaigns (fun (r : NhiReviewCampaign) => r.status = "completed" ∧
      r.completedAt.getD r.updatedAt < c.approvalActorBefore ∧
      (!isRetained r.reviewerSubject ∨ !isRetained r.requestedBy))
    (fun (r : NhiReviewCampaign) => { r with
      reviewerSubject := retainActor h τ r.reviewerSubject
      requestedBy := retainActor h τ r.requestedBy })
    none fun _ => rfl,
  rowUpdate .nhiAccessReviewItems (fun (r : NhiReviewItem) => r.status ≠ "pending" ∧
      r.decidedAt.getD r.updatedAt < c.approvalActorBefore ∧
      (r.decisionBy ≠ "" ∨ r.decisionReason ≠ "" ∨ r.decisionEvidenceRefs ≠ []))
    (fun (r : NhiReviewItem) => { r with
      decisionBy := retainNamedActor h τ r.decisionBy, decisionReason := "",
      decisionEvidenceRefs := [] })
    none fun _ => rfl,
  rowUpdate .accessChangeRequests (fun (r : AccessChangeRequest) => r.status ≠ "pending" ∧
      r.completedAt.getD r.updatedAt < c.approvalActorBefore ∧
      (!isRetained r.requesterSubject ∨ r.reason ≠ "privacy-redacted" ∨ r.evidenceRefs ≠ []))
    (fun (r : AccessChangeRequest) => { r with
      requesterSubject := retainActor h τ r.requesterSubject, reason := "privacy-redacted",
      evidenceRefs := [] })
    none fun _ => rfl,
  rowUpdate .accessChangeRequestDecisions
    (fun (r : AccessChangeDecision) => r.decidedAt < c.approvalActorBefore ∧
      (!isRetained r.approverSubject ∨ r.reason ≠ "" ∨ r.decisionEvidenceRefs ≠ []))
    (fun (r : AccessChangeDecision) => { r with
      approverSubject := retainActor h τ r.approverSubject, reason := "",
      decisionEvidenceRefs := [] })
    none fun _ => rfl]

/-- The remaining retention statements. -/
def retainRuns : Sink τ := [ rowUpdate .discoveryRuns (fun (r : DiscoveryRun) =>
      (r.completedAt ≠ none ∨ r.status ∈ ["succeeded", "partial", "failed", "completed"]) ∧
      (r.completedAt <|> r.startedAt).getD r.createdAt < c.attestationEvidenceBefore ∧
      r.requestedBy ≠ "" ∧ !isRetained r.requestedBy)
    (fun (r : DiscoveryRun) => { r with requestedBy := retainNamedActor h τ r.requestedBy })
    none fun _ => rfl,
  rowUpdate .notificationRoutingPolicies
    (fun (r : NotificationRoutingPolicy) => r.updatedAt < c.attestationEvidenceBefore ∧
      (r.ownerRef ≠ "" ∨ r.ownerEmail ≠ ""))
    (fun (r : NotificationRoutingPolicy) => { r with
      ownerRef := retainNamedActor h τ r.ownerRef, ownerEmail := "" })
    none fun _ => rfl,
  rowUpdate .remediationPlaybookRuns
    (fun (r : RemediationPlaybookRun) => r.updatedAt < c.attestationEvidenceBefore ∧
      (r.createdBy ≠ "" ∨ r.reason ≠ "" ∨ r.evidenceRefs ≠ [] ∨ r.rollbackRefs ≠ []))
    (fun (r : RemediationPlaybookRun) => { r with
      createdBy := retainNamedActor h τ r.createdBy, reason := "", evidenceRefs := [],
      rollbackRefs := [] })
    none fun _ => rfl,
  rowUpdate .complianceReportSchedules
    (fun (r : ComplianceReportSchedule) => r.updatedAt < c.attestationEvidenceBefore ∧
      r.recipientRef ≠ "" ∧ !isRetained r.recipientRef)
    (fun (r : ComplianceReportSchedule) => { r with
      recipientRef := retainNamedActor h τ r.recipientRef })
    none fun _ => rfl,
  rowUpdate .incidentFleetReissuanceRuns
    (fun (r : IncidentFleetReissuanceRun) => r.updatedAt < c.attestationEvidenceBefore ∧
      (r.createdBy ≠ "" ∨ r.reason ≠ "" ∨ r.evidenceBundle ≠ "" ∨ r.failedTargets ≠ [] ∨
        r.rollbackRefs ≠ []))
    (fun (r : IncidentFleetReissuanceRun) => { r with
      createdBy := retainNamedActor h τ r.createdBy, reason := "", evidenceBundle := "",
      failedTargets := [], rollbackRefs := [] })
    none fun _ => rfl]

end Retention

/-- The evidence row of `ApplyPrivacyRetentionEnforcedTx`. -/
def recordRetention (n : PrivacyRetentionRun) : Stmt Row ApplyError n.tenantId :=
  upsert .privacyRetentionRuns n
    (fun (r : PrivacyRetentionRun) => r.tenantId = n.tenantId ∧ r.runId = n.runId)
    (fun (r : PrivacyRetentionRun) => { n with tenantId := r.tenantId, runId := r.runId })
    rfl fun _ => rfl

def applyPrivacyRetentionEnforcedTx (h : Digest) (n : PrivacyRetentionRun) : Sink n.tenantId :=
  recordRetention n ::
    (retainInventory h n.tenantId n.cutoffs ++ retainAccess h n.tenantId n.cutoffs ++
      retainOperations h n.tenantId n.cutoffs ++ retainReviews h n.tenantId n.cutoffs ++
      retainRuns h n.tenantId n.cutoffs)

def applyPrivacyArchiveErasureAttestedTx (n : PrivacyArchiveErasureAttestation) :
    Sink n.tenantId := [
  upsert .privacyArchiveErasureAttestations n (fun (r : PrivacyArchiveErasureAttestation) =>
      r.tenantId = n.tenantId ∧ r.attestationId = n.attestationId)
    (fun (r : PrivacyArchiveErasureAttestation) => { n with
      tenantId := r.tenantId, attestationId := r.attestationId })
    rfl fun _ => rfl]

end Trustctl.Store
