import Trustctl.Projections.Envelope
import Trustctl.Relational.Keep
import Trustctl.Store.Sinks.Governance

/-!
# Access and review events

The events of tenant members, API tokens, privileged sessions, access reviews and access
change requests, and the cases of `ApplyTx` that project them.  As for the operational
events, a row type stands for a payload with the columns of its row.

Two of these events do not replay.  A decision on a change request is refused the second
time, because its approver has decided; a decision on a review item is refused unless it
leaves the item pending (`GovernanceEvent.replay_iff`).
-/

namespace Trustctl.Projections

open Relational Store List

/-- The access and review events the projector decodes. -/
inductive GovernanceEvent
  | tenantMemberUpserted (subject displayName email : String) (roles : List String)
      (source : String)
  | tenantMemberOffboarded (subject reason offboardedBy : String)
  | apiTokenCreated (id : Uuid) (tokenHash subject : String) (scopes : List String)
      (expiresAt : Option Time)
  | apiTokenRevoked (id : Uuid) (revokedBy reason : String)
  | pamSessionStarted (pl : PamSession) (audit : Option Json)
  | pamSessionExpired (id : Uuid) (endedAt : Time)
  | nhiAccessReviewCampaignStarted (id : Uuid) (name scope reviewerSubject requestedBy : String)
      (dueAt : Option Time) (items : List NhiReviewItem)
  | nhiAccessReviewItemDecided (campaignId itemId : Uuid) (decision reviewerSubject reason : String)
      (evidenceRefs : List String) (decidedAt : Time)
  | accessChangeRequestCreated (pl : AccessChangeRequest)
  | accessChangeRequestDecided (requestId : Uuid) (decision approverSubject reason : String)
      (evidenceRefs : List String) (decidedAt : Time)

/-! ## Projection -/

def GovernanceEvent.type : GovernanceEvent → String
  | .tenantMemberUpserted .. => "tenant.member.upserted"
  | .tenantMemberOffboarded .. => "tenant.member.offboarded"
  | .apiTokenCreated .. => "api_token.created"
  | .apiTokenRevoked .. => "api_token.revoked"
  | .pamSessionStarted .. => "pam.session.started"
  | .pamSessionExpired .. => "pam.session.expired"
  | .nhiAccessReviewCampaignStarted .. => "nhi.access_review.campaign.started"
  | .nhiAccessReviewItemDecided .. => "nhi.access_review.item.decided"
  | .accessChangeRequestCreated .. => "access.change_request.created"
  | .accessChangeRequestDecided .. => "access.change_request.decided"

/-- The fields every review item must have. -/
def completeItem (item : NhiReviewItem) : Bool :=
  item.itemId ≠ "" ∧ item.nhiId ≠ "" ∧ item.nhiKind ≠ "" ∧ item.displayName ≠ "" ∧
    item.resource ≠ "" ∧ item.entitlement ≠ ""

def openItem (e : Envelope) (campaignId : Uuid) (item : NhiReviewItem) : NhiReviewItem where
  tenantId := e.tenantId
  campaignId := campaignId
  itemId := item.itemId
  nhiId := item.nhiId
  nhiKind := item.nhiKind
  displayName := item.displayName
  ownerRef := item.ownerRef
  resource := item.resource
  entitlement := item.entitlement
  risk := fillText item.risk "medium"
  evidenceRefs := item.evidenceRefs
  status := "pending"
  createdAt := e.time
  updatedAt := e.time

/-- The cases of `ApplyTx`. -/
def GovernanceEvent.sink (h : Digest) (e : Envelope) (b : GovernanceEvent) :
    Except ApplyError (Sink e.tenantId) :=
  let need := require (α := Sink e.tenantId) b.type
  match b with
  | .tenantMemberUpserted subject displayName email roles source =>
    need (subject ≠ "") "subject"
      (.ok (applyTenantMemberUpsertedTx h e.tenantId subject displayName email roles
        (fillText source "manual") e.time e.time))
  | .tenantMemberOffboarded subject reason offboardedBy =>
    need (subject ≠ "") "subject"
      (.ok (applyTenantMemberOffboardedTx h e.tenantId subject e.time offboardedBy reason ++
        applyApiTokensRevokedForSubjectTx e.tenantId subject offboardedBy
          ("member offboarded: " ++ reason) e.time))
  | .apiTokenCreated id tokenHash subject scopes expiresAt =>
    need (id ≠ "" ∧ tokenHash ≠ "" ∧ subject ≠ "") "id, token_hash, and subject"
      (.ok (applyApiTokenCreatedTx h e.tenantId id tokenHash subject scopes expiresAt e.time))
  | .apiTokenRevoked id revokedBy reason =>
    need (id ≠ "") "id" (.ok (applyApiTokenRevokedTx e.tenantId id revokedBy reason e.time))
  | .pamSessionStarted pl audit =>
    need (pl.id ≠ "" ∧ pl.targetType ≠ "" ∧ pl.targetId ≠ "" ∧ pl.status ≠ "" ∧
        pl.subject ≠ "" ∧ pl.expiresAt ≠ 0)
      "id, target, status, subject, and expires_at"
      (.ok (applyPamSessionStartedTx { pl with
        tenantId := e.tenantId, audit := jsonbOrEmpty audit
        startedAt := pl.startedAt.orElse e.time, endedAt := none }))
  | .pamSessionExpired id endedAt =>
    need (id ≠ "") "id" (.ok (applyPamSessionExpiredTx e.tenantId id (endedAt.orElse e.time)))
  | .nhiAccessReviewCampaignStarted id name scope reviewerSubject requestedBy dueAt items =>
    need (id ≠ "" ∧ name ≠ "" ∧ reviewerSubject ≠ "" ∧ requestedBy ≠ "" ∧ items ≠ [])
      "id, name, reviewer_subject, requested_by, and items"
      (require (b.type ++ " item") (items.all completeItem)
        "item_id, nhi_id, nhi_kind, display_name, resource, and entitlement"
        (.ok (applyNhiReviewCampaignStartedTx e.tenantId id name (fillText scope "all_nhi")
          reviewerSubject requestedBy dueAt e.time (items.map (openItem e id)))))
  | .nhiAccessReviewItemDecided campaignId itemId decision reviewerSubject reason evidenceRefs
      decidedAt =>
    need (campaignId ≠ "" ∧ itemId ≠ "" ∧ decision ≠ "" ∧ reviewerSubject ≠ "")
      "campaign_id, item_id, decision, and reviewer_subject"
      (.ok (applyNhiReviewItemDecidedTx e.tenantId campaignId itemId decision reviewerSubject
        reason evidenceRefs (decidedAt.orElse e.time)))
  | .accessChangeRequestCreated pl =>
    need (pl.id ≠ "" ∧ pl.requestedAction ≠ "" ∧ pl.requesterSubject ≠ "" ∧ pl.nhiId ≠ "" ∧
        pl.nhiKind ≠ "" ∧ pl.displayName ≠ "" ∧ pl.resource ≠ "" ∧ pl.entitlement ≠ "" ∧
        pl.changeRef ≠ "" ∧ pl.reason ≠ "" ∧ 1 ≤ pl.requiredApprovals)
      ("id, action, requester, NHI, resource, entitlement, change_ref, reason, and " ++
        "required_approvals")
      (.ok (applyAccessChangeRequestCreatedTx { pl with
        tenantId := e.tenantId, changeSystem := fillText pl.changeSystem "external"
        risk := fillText pl.risk "medium", createdAt := e.time }))
  | .accessChangeRequestDecided requestId decision approverSubject reason evidenceRefs decidedAt =>
    need (requestId ≠ "" ∧ decision ≠ "" ∧ approverSubject ≠ "")
      "request_id, decision, and approver_subject"
      (.ok (applyAccessChangeRequestDecidedTx {
        tenantId := e.tenantId, requestId, approverSubject, decision, reason
        decisionEvidenceRefs := evidenceRefs, decidedAt := decidedAt.orElse e.time }))

/-! ## Replay -/

theorem fillText_fillText (old new : String) :
    fillText (fillText old new) new = fillText old new := by
  unfold fillText
  by_cases empty : old = ""
  · by_cases blank : new = ""
    · simp [empty, blank]
    · simp [empty, blank]
  · simp [empty]

theorem fillText_self (text : String) : fillText text text = text := by
  simp [fillText]

theorem orElse_orElse {α : Type} (old : Option α) (new : α) :
    ((old <|> some new) <|> some new) = (old <|> some new) := by
  cases old <;> rfl

theorem revokeToken_revokeToken (revokedBy reason : String) (at_ : Time) (r : ApiToken) :
    revokeToken revokedBy reason at_ (revokeToken revokedBy reason at_ r) =
      revokeToken revokedBy reason at_ r := by
  simp only [revokeToken, fillText_fillText, orElse_orElse]

/-- The items of a campaign are inserted one by one, and none of them removes another. -/
theorem stable_reviewItems (τ campaignId : Uuid) (createdAt : Time) (items : List NhiReviewItem) :
    Stable [.nhiAccessReviewItems] (items.map (insertReviewItem τ campaignId createdAt)) := by
  induction items with
  | nil => exact .nil
  | cons item rest ih =>
    refine .cons (settles_insert (by simp)) ?_ reads_insert (.refl _) ih
    intro next later
    obtain ⟨other, -, rfl⟩ := mem_map.mp later
    intro s db db' fixed ran
    obtain ⟨r, mem, clash⟩ := fixed_insertIgnore.mp fixed
    refine fixed_insertIgnore.mpr ⟨r, ?_, clash⟩
    rcases effect_insertIgnore.mp (exec_ok.mp ran) with ⟨-, left⟩ | ⟨-, left⟩
    · rwa [← left]
    · rw [← left, setTable_self]
      exact mem_append_left _ mem

section ItemDecided

variable {τ campaignId itemId : Uuid} {decision reviewerSubject reason : String}
  {evidenceRefs : List String} {decidedAt : Time} {s : Session} {db db' : Database Row}

theorem itemPending_eq_none {view : Tables Row} : itemPending campaignId itemId view = none ↔
      ∃ r, findItem view campaignId itemId = some r ∧ r.status = "pending" := by
  unfold itemPending
  cases findItem view campaignId itemId with
  | none | some => simp

theorem itemPending_decided (taken : itemPending campaignId itemId (slice τ db.tables) = none)
    (ran : exec s db (decideItem τ campaignId itemId decision reviewerSubject reason evidenceRefs
      decidedAt) = .ok db') :
    itemPending campaignId itemId (slice τ db'.tables) = none ↔ decision = "pending" := by
  obtain ⟨r, hit, pending⟩ := itemPending_eq_none.mp taken
  obtain ⟨-, left⟩ := effect_rowUpdate.mp (exec_ok.mp ran)
  have key := find?_some hit
  have own := (mem_filter.mp (List.mem_of_find?_eq_some hit)).2
  simp only [decide_eq_true_eq] at key
  have decided : findItem (slice τ db'.tables) campaignId itemId = some _ :=
    find_slice_updated left (fun _ => rfl) (fun _ => rfl) hit (by simp [own, key, pending])
  rw [itemPending_eq_none, decided]
  simp

theorem tallyCampaign_tallyCampaign (view : Tables Row) (at_ : Time) (r : NhiReviewCampaign) :
    tallyCampaign view at_ (tallyCampaign view at_ r) = tallyCampaign view at_ r := by
  unfold tallyCampaign
  by_cases done : countItems view r.id "pending" = 0
  · simp [done]
  · simp [done]

theorem settles_decideItem : Settles (decideItem τ campaignId itemId decision reviewerSubject reason
    evidenceRefs decidedAt) :=
  settles_rowUpdate (fun _ _ _ => rfl) (by simp)

theorem settles_recountCampaign : Settles (recountCampaign τ campaignId decidedAt) := by
  refine settles_update ?_ fun view r _ _ => tallyCampaign_tallyCampaign view decidedAt r
  intro view view' same
  have items := same .nhiAccessReviewItems (by decide)
  refine ⟨rfl, funext fun r => ?_⟩
  unfold tallyCampaign countItems
  rw [items]

/-- A decision replays exactly when it leaves the item pending. -/
theorem replay_itemDecided_iff
    (ran : run s (applyNhiReviewItemDecidedTx τ campaignId itemId decision reviewerSubject reason
      evidenceRefs decidedAt) db = .ok db') :
    run s (applyNhiReviewItemDecidedTx τ campaignId itemId decision reviewerSubject reason
      evidenceRefs decidedAt) db' = .ok db' ↔ decision = "pending" := by
  obtain ⟨mid, pass, rest⟩ := run_cons_ok.mp ran
  obtain ⟨taken, rfl⟩ := exec_guard.mp pass
  obtain ⟨decided, first, recount⟩ := run_cons_ok.mp rest
  rw [run_singleton] at recount
  have items : db'.tables .nhiAccessReviewItems = decided.tables .nhiAccessReviewItems :=
    exec_frame recount (by simp [recountCampaign, Stmt.footprint])
  have pending : itemPending campaignId itemId (slice τ db'.tables) = none ↔
      decision = "pending" := by
    rw [← itemPending_decided taken first]
    unfold itemPending findItem slice
    rw [items]
  constructor
  · intro again
    obtain ⟨_, passed', _⟩ := run_cons_ok.mp again
    exact pending.mp (exec_guard.mp passed').1
  · intro unset
    have itemFixed : Fixed s db' (decideItem τ campaignId itemId decision reviewerSubject reason
        evidenceRefs decidedAt) := by
      refine keeps_of_reads reads_rowUpdate ?_ (settles_decideItem first) recount
      simp [recountCampaign, Stmt.footprint]
    refine run_of_fixed ?_
    simp only [applyNhiReviewItemDecidedTx, forall_mem_cons, not_mem_nil, false_imp_iff,
      implies_true, and_true]
    exact ⟨exec_guard.mpr ⟨pending.mpr unset, rfl⟩, itemFixed, settles_recountCampaign recount⟩

end ItemDecided

theorem replay_requestDecided_refused {s : Session} {db db' db'' : Database Row}
    {d : AccessChangeDecision}
    (ran : run s (applyAccessChangeRequestDecidedTx d) db = .ok db') :
    run s (applyAccessChangeRequestDecidedTx d) db' ≠ .ok db'' := by
  obtain ⟨_, _, rest⟩ := run_cons_ok.mp ran
  obtain ⟨unset, _, rest⟩ := run_cons_ok.mp rest
  obtain ⟨decided, added, tally⟩ := run_cons_ok.mp rest
  rw [run_singleton] at tally
  have decisions : db'.tables .accessChangeRequestDecisions =
      decided.tables .accessChangeRequestDecisions :=
    exec_frame tally (by simp [Stmt.footprint])
  obtain ⟨r, mem, same⟩ := fixed_insertIgnore.mp (settles_insert (by simp) added)
  simp only [decide_eq_true_eq] at same
  intro again
  obtain ⟨mid, pass, rest'⟩ := run_cons_ok.mp again
  obtain ⟨-, rfl⟩ := exec_guard.mp pass
  obtain ⟨_, passed', _⟩ := run_cons_ok.mp rest'
  have takes := (exec_guard.mp passed').1
  have visible : r ∈ slice d.tenantId mid.tables .accessChangeRequestDecisions := by
    refine mem_filter.mpr ⟨by rwa [decisions], ?_⟩
    exact decide_eq_true same.1
  have noted : (slice d.tenantId mid.tables .accessChangeRequestDecisions).any
      (fun (q : AccessChangeDecision) =>
        q.requestId = d.requestId ∧ q.approverSubject = d.approverSubject) :=
    any_eq_true.mpr ⟨r, visible, decide_eq_true same.2⟩
  rw [if_pos noted] at takes
  cases takes

/-- What must hold of the event for a second application to change nothing. -/
def GovernanceEvent.Replayable : GovernanceEvent → Prop
  | .nhiAccessReviewItemDecided _ _ decision _ _ _ _ => decision = "pending"
  | .accessChangeRequestDecided .. => False
  | _ => True

/-- Every event but the two decisions is one whose transaction replays. -/
theorem GovernanceEvent.replays {h : Digest} {e : Envelope} {b : GovernanceEvent}
    {p : Sink e.tenantId} (sunk : b.sink h e = .ok p)
    (noItem : ∀ campaignId itemId decision reviewer reason refs decidedAt,
      b ≠ .nhiAccessReviewItemDecided campaignId itemId decision reviewer reason refs decidedAt)
    (noRequest : ∀ rid decision approver reason refs decidedAt,
      b ≠ .accessChangeRequestDecided rid decision approver reason refs decidedAt) :
    Replays p p := by
  cases b with
  | tenantMemberUpserted | apiTokenCreated | pamSessionStarted =>
    exact require_stable sunk (stable_upsert (by simp) rfl (fun _ h => h) fun _ _ => rfl)
  | tenantMemberOffboarded subj reason offboardedBy =>
    refine require_stable sunk (.append (stable_upsert (by simp) ?_ (fun _ h => h) ?_)
      (stable_rowUpdate ?_ (by simp)) (by decide))
    · simp [fillText_self]
    · intro r _
      simp only [fillText_fillText, orElse_orElse]
    · intro r _ _
      exact revokeToken_revokeToken ..
  | apiTokenRevoked id revokedBy reason =>
    exact require_stable sunk (stable_rowUpdate (fun _ _ _ => revokeToken_revokeToken ..) (by simp))
  | pamSessionExpired id endedAt =>
    exact require_stable sunk
      (stable_rowUpdate (fun r _ _ => by simp only [orElse_orElse]) (by simp))
  | nhiAccessReviewCampaignStarted id name scope reviewerSubject requestedBy dueAt items =>
    obtain ⟨-, full⟩ := require_ok.mp sunk
    obtain ⟨-, ⟨⟩⟩ := require_ok.mp full
    exact Stable.replays
      (.append (stable_insertIgnore (by simp)) (stable_reviewItems ..) (by decide))
  | nhiAccessReviewItemDecided campaignId itemId decision reviewer reason refs decidedAt =>
    exact absurd rfl (noItem campaignId itemId decision reviewer reason refs decidedAt)
  | accessChangeRequestCreated pl =>
    exact require_stable sunk (stable_insertIgnore (by simp))
  | accessChangeRequestDecided rid decision approver reason refs decidedAt =>
    exact absurd rfl (noRequest rid decision approver reason refs decidedAt)

/-- A second application of an access or review event changes nothing exactly when it is
replayable. -/
theorem GovernanceEvent.replay_iff {h : Digest} {e : Envelope} {b : GovernanceEvent}
    {p : Sink e.tenantId} {s : Session} {db db' : Database Row} (sunk : b.sink h e = .ok p)
    (ran : run s p db = .ok db') : run s p db' = .ok db' ↔ b.Replayable := by
  cases b with
  | nhiAccessReviewItemDecided campaignId itemId decision reviewer reason refs decidedAt =>
    obtain ⟨-, ⟨⟩⟩ := require_ok.mp sunk
    exact replay_itemDecided_iff ran
  | accessChangeRequestDecided rid decision approver reason refs decidedAt =>
    obtain ⟨-, ⟨⟩⟩ := require_ok.mp sunk
    exact iff_of_false (replay_requestDecided_refused ran) id
  | _ => exact iff_of_true (GovernanceEvent.replays sunk (by simp) (by simp) ran) trivial

end Trustctl.Projections
