import Trustctl.Projections.Envelope
import Trustctl.Relational.Keep
import Trustctl.Store.Sinks.Privacy

/-!
# Privacy events

Subject erasure, retention enforcement and archive attestations, and the cases of
`ApplyTx` that project them.

Both sinks work through the read model table by table, and what they leave in a row they
leave alone the second time, so every privacy event replays (`PrivacyEvent.replays`).
-/

namespace Trustctl.Projections

open Relational Store List

inductive PrivacyEvent
  | privacySubjectErased (subjectRef requestedByRef reason : String)
      (selectors : PrivacyErasureSelectors) (counts : Option (List (String × Nat)))
  | privacyRetentionEnforced (runId : Uuid) (requestedByRef : String)
      (cutoffs : PrivacyRetentionCutoffs) (counts : List (String × Nat))
  | privacyArchiveErasureAttested (pl : PrivacyArchiveErasureAttestation)

def PrivacyEvent.type : PrivacyEvent → String
  | .privacySubjectErased .. => "privacy.subject.erased"
  | .privacyRetentionEnforced .. => "privacy.retention.enforced"
  | .privacyArchiveErasureAttested .. => "privacy.archive_erasure.attested"

/-- The cases of `ApplyTx`. -/
def PrivacyEvent.sink (h : Digest) (e : Envelope) (b : PrivacyEvent) :
    Except ApplyError (Sink e.tenantId) :=
  let need := require (α := Sink e.tenantId) b.type
  match b with
  | .privacySubjectErased subjectRef requestedByRef reason selectors counts =>
    need (subjectRef ≠ "") "subject_ref"
      (.ok (applyPrivacySubjectErasedTx h e.tenantId subjectRef requestedByRef reason selectors
        counts e.time))
  | .privacyRetentionEnforced runId requestedByRef cutoffs counts =>
    need (runId ≠ "") "run_id" (.ok (applyPrivacyRetentionEnforcedTx h {
        tenantId := e.tenantId, runId, requestedByRef, cutoffs, counts, enforcedAt := e.time }))
  | .privacyArchiveErasureAttested pl =>
    need (pl.attestationId ≠ "" ∧ pl.subjectRef ≠ "" ∧ pl.artifactType ≠ "" ∧ pl.action ≠ "")
      "attestation_id, subject_ref, artifact_type, and action"
      (.ok (applyPrivacyArchiveErasureAttestedTx { pl with
        tenantId := e.tenantId, attestedAt := e.time }))

/-! ## Replay -/

section Erasure

variable (h : Digest) (τ : Uuid) (ref : String)

theorem stable_eraseAccess (why : String) (erasedAt : Time) :
    Stable [.tenantMembers, .apiTokens] (eraseAccess τ ref why erasedAt) := by
  refine .of_local (by decide) (.cons (local_rowUpdate ?_) (.cons (local_rowUpdate ?_) .nil))
  · -- A member that carries the placeholder is not selected again.
    intro r _ picked
    simp at picked
  · intro r _ _
    cases r.revokedAt <;> by_cases by_ : r.revokedBy = "" <;>
      by_cases given : r.revocationReason = "" <;> simp [by_, given]

theorem stable_eraseInventory (selectors : PrivacyErasureSelectors) :
    Stable [.owners, .identities, .certificates, .sshKeys, .attestations,
      .issuanceApprovalRequests, .issuanceApprovals, .certificateProfiles]
      (eraseInventory h τ ref selectors) :=
  .of_local (by decide)
    (.cons (local_rowUpdate fun _ _ _ => rfl) (.cons (local_rowUpdate fun _ _ _ => rfl)
    (.cons (local_rowUpdate fun _ _ _ => rfl) (.cons (local_rowUpdate fun _ _ _ => rfl)
    (.cons (local_rowUpdate fun _ _ _ => rfl) (.cons (local_rowUpdate fun _ _ _ => rfl)
    (.cons (local_rowUpdate fun _ _ _ => rfl) (.cons (local_rowUpdate fun _ _ _ => rfl)
    .nil))))))))

/-- The three statements over agents write different columns. -/
theorem stable_eraseAgents (selectors : PrivacyErasureSelectors) :
    Stable [.agents] (eraseAgents τ ref selectors) := by
  refine .cons (settles_rowUpdate (fun _ _ _ => rfl) (by simp)) ?_ reads_rowUpdate
    (.refl _) (.cons (settles_rowUpdate (fun _ _ _ => rfl) (by simp)) ?_
      reads_rowUpdate (.refl _) (stable_rowUpdate (fun _ _ _ => rfl) (by simp)))
  · simp only [mem_cons, not_mem_nil, or_false]
    rintro next (rfl | rfl)
    · refine keeps_rowUpdate rewrites_rowUpdate (by simp) (fun r _ same picked => ?_) (by simp)
      exact congrArg (fun (r : Agent) => { r with offboardedBy := some (placeholder ref) })
        (same picked)
    · refine keeps_rowUpdate rewrites_rowUpdate (by simp) (fun r _ same picked => ?_) (by simp)
      exact congrArg (fun (r : Agent) => { r with offboardReason := some "" }) (same picked)
  · simp only [mem_singleton]
    rintro next rfl
    refine keeps_rowUpdate rewrites_rowUpdate (by simp) (fun r _ same picked => ?_) (by simp)
    exact congrArg (fun (r : Agent) => { r with offboardReason := some "" }) (same picked)

theorem stable_eraseReadModels (selectors : List PrivacyReadModelSelector) :
    Stable [.pamSessions, .discoveryFindings, .notificationThresholdDeliveries,
      .incidentExecutions, .nhiAccessReviewCampaigns, .nhiAccessReviewItems,
      .accessChangeRequests, .accessChangeRequestDecisions, .discoveryRuns,
      .notificationRoutingPolicies, .remediationPlaybookRuns, .complianceReportSchedules,
      .incidentFleetReissuanceRuns] (erasePrivacyReadModelRows h τ ref selectors) := by
  refine .of_local (by decide)
    (.cons (local_rowUpdate ?_) (.cons (local_rowUpdate ?_) (.cons (local_rowUpdate ?_)
    (.cons (local_rowUpdate ?_) (.cons (local_rowUpdate ?_) (.cons (local_rowUpdate ?_)
    (.cons (local_rowUpdate ?_) (.cons (local_rowUpdate ?_) (.cons (local_rowUpdate ?_)
    (.cons (local_rowUpdate ?policies) (.cons (local_rowUpdate ?_) (.cons (local_rowUpdate ?_)
    (.cons (local_rowUpdate ?_) .nil)))))))))))))
  case policies =>
    intro r _ _
    by_cases hit : subjectValueMatches h τ ref r.ownerEmail
    · simp [hit]
    · simp [hit]
  all_goals
    intro r _ _
    simp only [redact_redact, redactValues_redactValues]

end Erasure

section Retention

variable (h : Digest) (τ : Uuid) (c : PrivacyRetentionCutoffs)

theorem inactiveOwner_congr {view view' : Tables Row}
    (same : ∀ id : Uuid, (view' .identities).any (fun (i : Identity) => i.ownerId = id) =
      (view .identities).any fun (i : Identity) => i.ownerId = id) :
    inactiveOwner c view' = inactiveOwner c view := by
  funext r
  unfold inactiveOwner
  rw [same r.id]

theorem fixed_retainOwners {s : Session} {db db' : Database Row}
    (fixed : Fixed s db (retainOwners τ c))
    (owners : db'.tables .owners = db.tables .owners)
    (inactive : inactiveOwner c (slice τ db'.tables) = inactiveOwner c (slice τ db.tables)) :
    Fixed s db' (retainOwners τ c) := by
  obtain ⟨-, same⟩ := fixed_update.mp fixed
  refine fixed_update.mpr ⟨fun asked => absurd rfl asked, ?_⟩
  rw [owners, inactive]
  exact same

theorem reads_retainOwners : Reads [.owners, .identities] (retainOwners τ c) := by
  intro s db db' same fixed
  refine fixed_retainOwners τ c fixed (same .owners (by simp)) (inactiveOwner_congr c fun id => ?_)
  simp only [slice, same .identities (by simp)]

/-- Retention changes no identity's owner, so an owner stays inactive. -/
theorem keeps_retainOwners : Keeps (retainOwners τ c) (retainIdentities τ c) := by
  intro s db db' fixed ran
  obtain ⟨-, left⟩ := effect_rowUpdate.mp (exec_ok.mp ran)
  refine fixed_retainOwners τ c fixed ?_ (inactiveOwner_congr c fun id => ?_)
  · exact exec_frame ran (by simp [retainIdentities, Stmt.footprint])
  · exact any_slice_updated left (fun _ => rfl) fun _ => rfl

theorem stable_retainInventory :
    Stable [.owners, .identities, .certificates, .sshKeys, .attestations,
      .issuanceApprovalRequests, .issuanceApprovals, .certificateProfiles]
      (retainInventory h τ c) := by
  have rest : Stable [.identities, .certificates, .sshKeys, .attestations,
      .issuanceApprovalRequests, .issuanceApprovals, .certificateProfiles]
      (retainInventory h τ c).tail := by
    refine .of_local (by decide)
      (.cons (local_rowUpdate fun _ _ _ => rfl) (.cons (local_rowUpdate fun _ _ _ => rfl)
      (.cons (local_rowUpdate fun _ _ _ => rfl) (.cons (local_rowUpdate fun _ _ _ => rfl)
      (.cons (local_rowUpdate ?_) (.cons (local_rowUpdate ?_)
      (.cons (local_rowUpdate fun _ _ _ => rfl) .nil)))))))
    · intro r _ picked
      simp at picked
    · intro r _ picked
      simp at picked
  refine .cons (settles_update ?_ fun _ _ _ _ => rfl) ?_ ((reads_retainOwners τ c).mono (by simp))
    (by simp [retainOwners, Stmt.footprint]) (rest.mono (subset_cons_self ..))
  · intro view view' same
    exact ⟨inactiveOwner_congr c fun id => by rw [same .identities (by decide)], rfl⟩
  · intro next later
    simp only [mem_cons, not_mem_nil, or_false] at later
    rcases later with rfl | later
    · exact keeps_retainOwners τ c
    · refine keeps_of_reads (reads_retainOwners τ c) ?_
      rcases later with rfl | rfl | rfl | rfl | rfl | rfl <;> simp [Stmt.footprint]

theorem stable_retainAccess :
    Stable [.apiTokens, .tenantMembers, .agents, .pamSessions] (retainAccess h τ c) := by
  refine .of_local (by decide) (.cons (local_rowUpdate fun _ _ _ => rfl)
    (.cons (local_rowUpdate fun _ _ _ => rfl) (.cons (local_rowUpdate ?_)
    (.cons (local_rowUpdate ?_) .nil))))
  · intro r _ _
    have name : isRetained (if isRetained r.name = true then r.name else retained r.id) := by
      split
      · assumption
      · exact isRetained_retained _
    simp only [if_pos name, Option.map_map, Function.comp_def, retainOffboarder_idem]
  · intro r _ _
    simp only [retainActor_idem]

theorem stable_retainOperations :
    Stable [.discoveryFindings, .notificationThresholdDeliveries, .incidentExecutions]
      (retainOperations h τ c) := by
  refine .of_local (by decide) (.cons (local_rowUpdate ?_) (.cons (local_rowUpdate ?_)
    (.cons (local_rowUpdate ?_) .nil)))
  · intro r _ _
    simp only [retainNamedActor_idem]
  · intro r _ _
    by_cases kept : r.channel ∈ channelKinds
    · simp only [if_pos kept, retainActor_idem]
    · simp only [if_neg kept, retainActor_idem, ite_self]
  · intro r _ _
    simp only [retainNamedActor_idem]

theorem stable_retainReviews :
    Stable [.nhiAccessReviewCampaigns, .nhiAccessReviewItems, .accessChangeRequests,
      .accessChangeRequestDecisions] (retainReviews h τ c) := by
  refine .of_local (by decide) (.cons (local_rowUpdate ?_) (.cons (local_rowUpdate ?_)
    (.cons (local_rowUpdate ?_) (.cons (local_rowUpdate ?_) .nil))))
  all_goals
    intro r _ _
    simp only [retainActor_idem, retainNamedActor_idem]

theorem stable_retainRuns :
    Stable [.discoveryRuns, .notificationRoutingPolicies, .remediationPlaybookRuns,
      .complianceReportSchedules, .incidentFleetReissuanceRuns] (retainRuns h τ c) := by
  refine .of_local (by decide) (.cons (local_rowUpdate ?_) (.cons (local_rowUpdate ?_)
    (.cons (local_rowUpdate ?_) (.cons (local_rowUpdate ?_) (.cons (local_rowUpdate ?_) .nil)))))
  all_goals
    intro r _ _
    simp only [retainNamedActor_idem]

end Retention

theorem stable_recordErasure (n : PrivacySubjectErasure) :
    Stable [.privacySubjectErasures] [recordErasure n] :=
  stable_upsert (by simp) rfl (fun _ h => h) fun _ _ => rfl

theorem stable_recordRetention (n : PrivacyRetentionRun) :
    Stable [.privacyRetentionRuns] [recordRetention n] :=
  stable_upsert (by simp) rfl (fun _ h => h) fun _ _ => rfl

theorem PrivacyEvent.replays {h : Digest} {e : Envelope} {b : PrivacyEvent}
    {p : Sink e.tenantId} (sunk : b.sink h e = .ok p) : Replays p p := by
  cases b with
  | privacySubjectErased subjectRef requestedByRef why selectors counts =>
    exact require_stable sunk (.append (stable_recordErasure _)
      (.append (.append (.append (stable_eraseAccess ..) (stable_eraseInventory ..) (by decide))
        (stable_eraseAgents ..) (by decide)) (stable_eraseReadModels ..) (by decide)) (by decide))
  | privacyRetentionEnforced runId requestedByRef cutoffs counts =>
    exact require_stable sunk (.append (stable_recordRetention _)
      (.append (.append (.append (.append (stable_retainInventory ..) (stable_retainAccess ..)
        (by decide)) (stable_retainOperations ..) (by decide)) (stable_retainReviews ..)
        (by decide)) (stable_retainRuns ..) (by decide)) (by decide))
  | privacyArchiveErasureAttested pl =>
    exact require_stable sunk (stable_upsert (by simp) rfl (fun _ h => h) fun _ _ => rfl)

end Trustctl.Projections
