import Trustctl.Store.Statement

/-!
# Access and review sinks

The projection sinks of tenant members, API tokens, privileged sessions, access reviews
and access change requests, statement by statement.  Review and change-request decisions
are the two sinks that are guarded by the state a decision leaves: an item that is no
longer pending, or an approver who has decided, makes the sink fail.
-/

namespace Trustctl.Store

open Relational

/-! ## Members and tokens -/

/-- `CASE WHEN column = '' THEN new ELSE column END`. -/
def fillText (old new : String) : String := if old = "" then new else old

def applyTenantMemberUpsertedTx (h : Digest) (τ : Uuid)
    (subject displayName email : String) (roles : List String) (source : String)
    (createdAt updatedAt : Time) : Sink τ :=
  let subjectRef := subjectRef h τ subject
  [upsert .tenantMembers
    ({ tenantId := τ, subject, subjectRef, displayName, email, roles, source,
       status := "active", createdAt, updatedAt } : TenantMember)
    (fun (r : TenantMember) => r.tenantId = τ ∧ r.subject = subject)
    (fun (r : TenantMember) => { r with
      subjectRef, displayName, email, roles, source, status := "active", updatedAt,
      offboardedAt := none, offboardedBy := "", offboardReason := "" })
    rfl fun _ => rfl]

/-- `ApplyTenantMemberOffboardedTx`; the first offboarding keeps its evidence. -/
def applyTenantMemberOffboardedTx (h : Digest) (τ : Uuid) (subject : String)
    (updatedAt : Time) (offboardedBy offboardReason : String) : Sink τ :=
  let subjectRef := subjectRef h τ subject
  [upsert .tenantMembers
    ({ tenantId := τ, subject, subjectRef, displayName := "", email := "", roles := [],
       source := "offboard", status := "offboarded", createdAt := updatedAt, updatedAt,
       offboardedAt := some updatedAt, offboardedBy, offboardReason } : TenantMember)
    (fun (r : TenantMember) => r.tenantId = τ ∧ r.subject = subject)
    (fun (r : TenantMember) => { r with
      subjectRef, status := "offboarded", updatedAt
      offboardedAt := r.offboardedAt <|> some updatedAt
      offboardedBy := fillText r.offboardedBy offboardedBy
      offboardReason := fillText r.offboardReason offboardReason })
    rfl fun _ => rfl]

/-- `ApplyAPITokenCreatedTx`; the conflict target is the global id, and an existing
token loses its revocation. -/
def applyApiTokenCreatedTx (h : Digest) (τ id : Uuid) (tokenHash subject : String)
    (scopes : List String) (expiresAt : Option Time) (createdAt : Time) : Sink τ :=
  let subjectRef := subjectRef h τ subject
  [upsert .apiTokens
    ({ id, tenantId := τ, tokenHash, subject, subjectRef, scopes, expiresAt, createdAt } : ApiToken)
    (fun (r : ApiToken) => r.id = id)
    (fun (r : ApiToken) => { r with
      tokenHash, subject, subjectRef, scopes, expiresAt, createdAt, revokedAt := none,
      revokedBy := "", revocationReason := "" })
    rfl fun _ => rfl]

/-- The `SET` clause of both token revocations: the first evidence stays. -/
def revokeToken (revokedBy reason : String) (at_ : Time) (r : ApiToken) : ApiToken := { r with
  revokedAt := r.revokedAt <|> some at_
  revokedBy := fillText r.revokedBy revokedBy
  revocationReason := fillText r.revocationReason reason }

def applyApiTokenRevokedTx (τ id : Uuid) (revokedBy reason : String) (at_ : Time) : Sink τ := [
  rowUpdate .apiTokens (fun (r : ApiToken) => r.id = id) (revokeToken revokedBy reason at_)
    none fun _ => rfl]

def applyApiTokensRevokedForSubjectTx (τ : Uuid) (subject revokedBy reason : String)
    (at_ : Time) : Sink τ := [
  rowUpdate .apiTokens (fun (r : ApiToken) => r.subject = subject ∧ r.revokedAt = none)
    (revokeToken revokedBy reason at_) none fun _ => rfl]

def lookupApiTokenByHash (db : Tables Row) (hash : String) : Option ApiToken :=
  (db .apiTokens).find? fun (r : ApiToken) => r.tokenHash = hash ∧ r.revokedAt = none

def applyPamSessionStartedTx (n : PamSession) : Sink n.tenantId := [
  upsert .pamSessions n (fun (r : PamSession) => r.tenantId = n.tenantId ∧ r.id = n.id)
    (fun (r : PamSession) => { n with id := r.id, tenantId := r.tenantId })
    rfl fun _ => rfl]

def applyPamSessionExpiredTx (τ id : Uuid) (endedAt : Time) : Sink τ := [
  rowUpdate .pamSessions (fun (r : PamSession) => r.id = id) (fun (r : PamSession) => { r with
      status := "expired", endedAt := r.endedAt <|> some endedAt })
    none fun _ => rfl]

/-! ## Access reviews -/

/-- The `INSERT` of an item in `ApplyNHIReviewCampaignStartedTx`; the item takes the
campaign's time stamps. -/
def insertReviewItem (τ campaignId : Uuid) (createdAt : Time) (item : NhiReviewItem) :
    Stmt Row ApplyError τ :=
  insertIgnore .nhiAccessReviewItems ({ item with
       tenantId := τ, campaignId, status := "pending", createdAt,
       updatedAt := createdAt } : NhiReviewItem)
    (fun (r : NhiReviewItem) =>
      r.tenantId = τ ∧ r.campaignId = campaignId ∧ r.itemId = item.itemId) rfl

def applyNhiReviewCampaignStartedTx (τ id : Uuid)
    (name scope reviewerSubject requestedBy : String) (dueAt : Option Time) (createdAt : Time)
    (items : List NhiReviewItem) : Sink τ :=
  insertIgnore .nhiAccessReviewCampaigns
      ({ tenantId := τ, id, name, scope, reviewerSubject, requestedBy, status := "open", dueAt,
         itemCount := items.length, pendingCount := items.length, createdAt,
         updatedAt := createdAt } : NhiReviewCampaign)
      (fun (r : NhiReviewCampaign) => r.tenantId = τ ∧ r.id = id) rfl ::
    items.map (insertReviewItem τ id createdAt)

def countItems (view : Tables Row) (campaignId : Uuid) (status : String) : Nat :=
  (view .nhiAccessReviewItems).countP fun (r : NhiReviewItem) =>
    r.campaignId = campaignId ∧ r.status = status

/-- What `ApplyNHIReviewItemDecidedTx` recomputes of the campaign. -/
def tallyCampaign (view : Tables Row) (decidedAt : Time) (r : NhiReviewCampaign) :
    NhiReviewCampaign :=
  let pending := countItems view r.id "pending"
  { r with
    itemCount := (view .nhiAccessReviewItems).countP fun (i : NhiReviewItem) => i.campaignId = r.id
    pendingCount := pending
    certifiedCount := countItems view r.id "certified"
    revokedCount := countItems view r.id "revoked"
    exceptionCount := countItems view r.id "exception"
    status := if pending = 0 then "completed" else "open"
    completedAt := if pending = 0 then r.completedAt <|> some decidedAt else r.completedAt
    updatedAt := decidedAt }

def findItem (view : Tables Row) (campaignId itemId : Uuid) : Option NhiReviewItem :=
  (view .nhiAccessReviewItems).find? fun (r : NhiReviewItem) =>
    r.campaignId = campaignId ∧ r.itemId = itemId

/-- The query of `ApplyNHIReviewItemDecidedTx`: the item is pending. -/
def itemPending (campaignId itemId : Uuid) (view : Tables Row) : Option ApplyError :=
  match findItem view campaignId itemId with
  | none => some .noRows
  | some r =>
    if r.status = "pending" then none
    else some (.store ("nhi access review item already decided: item " ++ itemId ++ " is " ++
      r.status))

/-- Its `UPDATE` of the item. -/
def decideItem (τ campaignId itemId : Uuid) (decision reviewerSubject reason : String)
    (evidenceRefs : List String) (decidedAt : Time) : Stmt Row ApplyError τ :=
  rowUpdate .nhiAccessReviewItems (fun (r : NhiReviewItem) =>
      r.campaignId = campaignId ∧ r.itemId = itemId ∧ r.status = "pending")
    (fun (r : NhiReviewItem) => { r with
      status := decision, decisionBy := reviewerSubject, decisionReason := reason,
      decisionEvidenceRefs := evidenceRefs, decidedAt := some decidedAt,
      updatedAt := decidedAt })
    none fun _ => rfl

/-- Its `UPDATE` of the campaign. -/
def recountCampaign (τ campaignId : Uuid) (decidedAt : Time) : Stmt Row ApplyError τ :=
  .update .nhiAccessReviewCampaigns (fun _ (r : NhiReviewCampaign) => r.id = campaignId)
    (fun view (r : NhiReviewCampaign) => tallyCampaign view decidedAt r) none
    fun _ _ => rfl

/-- `ApplyNHIReviewItemDecidedTx`; only a pending item takes a decision. -/
def applyNhiReviewItemDecidedTx (τ campaignId itemId : Uuid)
    (decision reviewerSubject reason : String) (evidenceRefs : List String)
    (decidedAt : Time) : Sink τ := [
  .guard (itemPending campaignId itemId),
  decideItem τ campaignId itemId decision reviewerSubject reason evidenceRefs decidedAt,
  recountCampaign τ campaignId decidedAt]

/-! ## Access change requests -/

def applyAccessChangeRequestCreatedTx (n : AccessChangeRequest) : Sink n.tenantId := [
  insertIgnore .accessChangeRequests ({ n with
       status := "pending", approvalCount := 0, updatedAt := n.createdAt,
       completedAt := none } : AccessChangeRequest)
    (fun (r : AccessChangeRequest) => r.tenantId = n.tenantId ∧ r.id = n.id) rfl]

/-- The query of `ApplyAccessChangeRequestDecidedTx`: the request is pending. -/
def requestPending (τ requestId : Uuid) : Stmt Row ApplyError τ :=
  .guard fun view =>
    match (view .accessChangeRequests).find? fun (r : AccessChangeRequest) =>
        r.id = requestId with
    | none => some .noRows
    | some (r : AccessChangeRequest) =>
      if r.status = "pending" then none
      else some (.store ("access change request is already terminal: request " ++ requestId ++
        " is " ++ r.status))

/-- The affected-row check of its `INSERT`: the approver has not decided. -/
def approverUndecided (τ requestId : Uuid) (approver : String) : Stmt Row ApplyError τ :=
  .guard fun view =>
    if (view .accessChangeRequestDecisions).any fun (r : AccessChangeDecision) =>
        r.requestId = requestId ∧ r.approverSubject = approver then
      some (.store ("access change request decision already recorded: " ++ approver ++
        " already decided request " ++ requestId))
    else none

def approvalCount (view : Tables Row) (requestId : Uuid) : Nat :=
  (view .accessChangeRequestDecisions).countP fun (r : AccessChangeDecision) =>
    r.requestId = requestId ∧ r.decision = "approved"

/-- The `UPDATE` of `ApplyAccessChangeRequestDecidedTx`: a denial ends the request, and
enough approvals do. -/
def tallyRequest (view : Tables Row) (decision : String) (decidedAt : Time)
    (r : AccessChangeRequest) : AccessChangeRequest :=
  let approvals : Int := approvalCount view r.id
  if decision = "denied" then { r with
    status := "denied", approvalCount := approvals, completedAt := some decidedAt,
    updatedAt := decidedAt }
  else { r with
    approvalCount := approvals
    status := if r.requiredApprovals ≤ approvals then "approved" else "pending"
    completedAt := if r.requiredApprovals ≤ approvals then r.completedAt <|> some decidedAt
      else r.completedAt
    updatedAt := decidedAt }

def applyAccessChangeRequestDecidedTx (d : AccessChangeDecision) : Sink d.tenantId := [
  requestPending d.tenantId d.requestId,
  approverUndecided d.tenantId d.requestId d.approverSubject,
  insertIgnore .accessChangeRequestDecisions d
    (fun (r : AccessChangeDecision) => r.tenantId = d.tenantId ∧ r.requestId = d.requestId ∧
      r.approverSubject = d.approverSubject) rfl,
  .update .accessChangeRequests (fun _ (r : AccessChangeRequest) => r.id = d.requestId)
    (fun view (r : AccessChangeRequest) => tallyRequest view d.decision d.decidedAt r) none
    fun view r => by unfold tallyRequest; dsimp only; split <;> rfl]

end Trustctl.Store
