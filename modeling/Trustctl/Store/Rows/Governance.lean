import Trustctl.Store.Values

/-!
# Rows of the access, review and privacy tables
-/

namespace Trustctl.Store

structure TenantMember where
  tenantId : Uuid
  subject : String
  subjectRef : String
  displayName : String
  email : String
  roles : List String
  source : String
  status : String
  createdAt : Time
  updatedAt : Time
  offboardedAt : Option Time := none
  offboardedBy : String := ""
  offboardReason : String := ""

structure ApiToken where
  id : Uuid
  tenantId : Uuid
  tokenHash : String
  subject : String
  subjectRef : String
  scopes : List String
  expiresAt : Option Time
  createdAt : Time
  revokedAt : Option Time := none
  revokedBy : String := ""
  revocationReason : String := ""

structure PamSession where
  tenantId : Uuid
  id : Uuid
  targetType : String
  targetId : String
  role : String
  status : String
  subject : String
  requestedBy : String
  reason : String
  attestationId : String
  backendRef : String
  sshKeyId : String
  sshSerial : Nat
  idempotencyKey : String
  audit : Json
  startedAt : Time
  expiresAt : Time
  endedAt : Option Time := none

/-- `nhi_access_review_campaigns`. -/
structure NhiReviewCampaign where
  tenantId : Uuid
  id : Uuid
  name : String
  scope : String
  reviewerSubject : String
  requestedBy : String
  status : String
  dueAt : Option Time
  itemCount : Nat
  pendingCount : Nat
  certifiedCount : Nat := 0
  revokedCount : Nat := 0
  exceptionCount : Nat := 0
  createdAt : Time
  updatedAt : Time
  completedAt : Option Time := none

/-- `nhi_access_review_items`. -/
structure NhiReviewItem where
  tenantId : Uuid
  campaignId : Uuid
  itemId : Uuid
  nhiId : String
  nhiKind : String
  displayName : String
  ownerRef : String
  resource : String
  entitlement : String
  risk : String
  evidenceRefs : List String
  status : String
  decisionBy : String := ""
  decisionReason : String := ""
  decisionEvidenceRefs : List String := []
  decidedAt : Option Time := none
  createdAt : Time
  updatedAt : Time

structure AccessChangeRequest where
  tenantId : Uuid
  id : Uuid
  requestedAction : String
  requesterSubject : String
  nhiId : String
  nhiKind : String
  displayName : String
  ownerRef : String
  resource : String
  entitlement : String
  changeRef : String
  changeSystem : String
  changeUrl : String
  risk : String
  reason : String
  evidenceRefs : List String
  status : String
  requiredApprovals : Int
  approvalCount : Int := 0
  createdAt : Time
  updatedAt : Time
  completedAt : Option Time := none

structure AccessChangeDecision where
  tenantId : Uuid
  requestId : Uuid
  approverSubject : String
  decision : String
  reason : String
  decisionEvidenceRefs : List String
  decidedAt : Time

/-- `issuance_approval_requests`, the columns the privacy statements read or write. -/
structure ApprovalRequest where
  tenantId : Uuid
  resource : String
  action : String
  requester : String
  createdAt : Time

/-- `issuance_approvals`. -/
structure Approval where
  tenantId : Uuid
  resource : String
  action : String
  approver : String
  approvedAt : Time

/-! ## Privacy evidence -/

structure PrivacyApprovalSelector where
  resource : String
  action : String

structure PrivacyReadModelSelector where
  table : String
  id : String := ""
  parentId : String := ""
  thresholdDays : Int := 0

structure PrivacyErasureSelectors where
  ownerIds : List String := []
  identityIds : List String := []
  certificateFingerprints : List String := []
  sshKeyIds : List String := []
  attestationIds : List String := []
  approvalRequests : List PrivacyApprovalSelector := []
  approvals : List PrivacyApprovalSelector := []
  profileIds : List String := []
  agentIds : List String := []
  agentOffboardActorIds : List String := []
  agentOffboardReasonIds : List String := []
  readModels : List PrivacyReadModelSelector := []

structure PrivacyRetentionCutoffs where
  ownerInactiveBefore : Time
  identityTerminalBefore : Time
  certificateTerminalBefore : Time
  sshStaleBefore : Time
  accessTerminalBefore : Time
  approvalActorBefore : Time
  profileActorBefore : Time
  attestationEvidenceBefore : Time
  agentStaleBefore : Time

structure PrivacySubjectErasure where
  tenantId : Uuid
  subjectRef : String
  requestedByRef : String
  reason : String
  selectors : PrivacyErasureSelectors
  counts : List (String × Nat)
  erasedAt : Time

structure PrivacyRetentionRun where
  tenantId : Uuid
  runId : Uuid
  requestedByRef : String
  cutoffs : PrivacyRetentionCutoffs
  counts : List (String × Nat)
  enforcedAt : Time

structure PrivacyArchiveErasureAttestation where
  tenantId : Uuid
  attestationId : Uuid
  subjectRef : String
  requestedByRef : String
  artifactType : String
  artifactUri : String
  action : String
  reason : String
  evidenceRefs : List String
  heldUntil : Option Time
  attestedAt : Time

end Trustctl.Store
