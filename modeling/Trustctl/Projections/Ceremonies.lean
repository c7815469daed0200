import Trustctl.Systems.Run
import Trustctl.Projections.Access
import Trustctl.Projections.Projector
import Trustctl.Store.Ceremonies
import Trustctl.Systems.Checks

/-!
# What transactions do to key ceremonies

An approval counts when a named custodian other than the opener gave it and an event of the
log is its evidence.  Every transaction keeps the stored approvals sound in this sense, and
only the erasure of a tenant, a truncation or a restore reopens or drops a closed ceremony.

* `CeremonyChange`: everything a transaction can do to the ceremonies and their approvals,
  `CeremonyErasure` apart;
* `apply_ceremonies`: the projection of an event does one or the other.
-/

namespace Trustctl.Projections

open Store Relational List Systems

/-! ## Approvals that count -/

/-- The event records the approval, and the approval carries it as its evidence. -/
def Event.Evidences (e : Event) (a : CeremonyApproval) : Prop :=
  e.tenantId = a.tenantId ∧ e.body = .authority (.caCeremonyApproved a.ceremonyId a.custodian) ∧
    a.approvalEventId = some e.id ∧ a.approvalEventSequence = some e.sequence

/-- An approval by a named custodian who did not open the ceremony, with its evidence in the
log if it carries any. -/
structure ApprovalSound (log : List Event) (ceremonies : List KeyCeremony)
    (a : CeremonyApproval) : Prop where
  named : a.custodian ≠ ""
  ceremony : ∃ c ∈ ceremonies,
    c.id = a.ceremonyId ∧ c.tenantId = a.tenantId ∧ c.opener ≠ a.custodian
  evidence : (a.approvalEventId = none ∧ a.approvalEventSequence = none) ∨ ∃ e ∈ log, e.Evidences a

/-- Every stored approval is sound. -/
def ApprovalsSound (log : List Event) (tables : Tables Row) : Prop :=
  ∀ a ∈ tables .caCeremonyApprovals, ApprovalSound log (tables .caKeyCeremonies) a

variable {a : CeremonyApproval}

theorem ApprovalSound.grow {log log' : List Event} {cers : List KeyCeremony}
    (sound : ApprovalSound log cers a) (sub : log ⊆ log') :
    ApprovalSound log' cers a := by
  refine ⟨sound.named, sound.ceremony, sound.evidence.imp_right ?_⟩
  intro ⟨e, logged, evidences⟩
  exact ⟨e, sub logged, evidences⟩

theorem ApprovalsSound.grow {log log' : List Event} {tables : Tables Row}
    (sound : ApprovalsSound log tables) (sub : log ⊆ log') : ApprovalsSound log' tables :=
  fun a kept => (sound a kept).grow sub

/-- The ceremony is stored and no longer pending. -/
def CeremonyClosed (id : Uuid) (tables : Tables Row) : Prop :=
  ∃ c : KeyCeremony, c ∈ tables .caKeyCeremonies ∧ c.id = id ∧ c.status ≠ "pending"

/-! ## What a transaction does to them -/

/-- The approvals an event of the log is evidence for. -/
def approvedBy (τ id : Uuid) (custodian : String) (a : CeremonyApproval) : Bool :=
  a.tenantId = τ ∧ a.ceremonyId = id ∧ a.custodian = custodian

/-- Everything a transaction can do to the ceremonies and their approvals. -/
inductive CeremonyChange (log : List Event) (tables tables' : Tables Row) : Prop
  | none (ceremonies : tables' .caKeyCeremonies = tables .caKeyCeremonies)
      (approvals : tables' .caCeremonyApprovals = tables .caCeremonyApprovals)
  | opened (c : KeyCeremony)
      (ceremonies : tables' .caKeyCeremonies = tables .caKeyCeremonies ++ [c])
      (approvals : tables' .caCeremonyApprovals = tables .caCeremonyApprovals)
  | approved (a : CeremonyApproval) (sound : ApprovalSound log (tables .caKeyCeremonies) a)
      (ceremonies : tables' .caKeyCeremonies = tables .caKeyCeremonies)
      (approvals : tables' .caCeremonyApprovals = tables .caCeremonyApprovals ++ [a])
  | attached (e : Event) (id : Uuid) (custodian : String) (logged : e ∈ log)
      (records : e.body = .authority (.caCeremonyApproved id custodian))
      (ceremonies : tables' .caKeyCeremonies = tables .caKeyCeremonies)
      (approvals : tables' .caCeremonyApprovals =
        updateRows (approvedBy e.tenantId id custodian) (attachEvidence e.id e.sequence)
          (tables .caCeremonyApprovals))
  | completed (which : KeyCeremony → Bool) (ceremonies : tables' .caKeyCeremonies =
        updateRows which completeCeremony (tables .caKeyCeremonies))
      (approvals : tables' .caCeremonyApprovals = tables .caCeremonyApprovals)

namespace CeremonyChange

variable {log : List Event} {tables tables' : Tables Row} {c : KeyCeremony}

theorem keeps (change : CeremonyChange log tables tables')
    (kept : c ∈ tables .caKeyCeremonies) : ∃ c' : KeyCeremony, c' ∈ tables' .caKeyCeremonies ∧
      c'.id = c.id ∧ c'.tenantId = c.tenantId ∧ c'.opener = c.opener ∧
      (c.status ≠ "pending" → c'.status ≠ "pending") := by
  have same (still : c ∈ tables' .caKeyCeremonies) :
      ∃ c' : KeyCeremony, c' ∈ tables' .caKeyCeremonies ∧ c'.id = c.id ∧
        c'.tenantId = c.tenantId ∧ c'.opener = c.opener ∧
        (c.status ≠ "pending" → c'.status ≠ "pending") :=
    ⟨c, still, rfl, rfl, rfl, id⟩
  cases change with
  | none cers | approved _ _ cers | attached _ _ _ _ _ cers =>
    exact same (cers ▸ kept)
  | opened c' cers => exact same (cers ▸ mem_append_left _ kept)
  | completed which cers =>
    cases hit : which c with
    | false => exact same (cers ▸ mem_updateRows.mpr (.inr ⟨kept, hit⟩))
    | true =>
      refine ⟨completeCeremony c, ?_, rfl, rfl, rfl, fun _ => by simp [completeCeremony]⟩
      exact cers ▸ mem_updateRows.mpr (.inl ⟨c, kept, hit, rfl⟩)

theorem attach {e : Event} {cers : List KeyCeremony} {id : Uuid}
    {custodian : String} (sound : ApprovalSound log cers a) (logged : e ∈ log)
    (recs : e.body = .authority (.caCeremonyApproved id custodian))
    (hit : approvedBy e.tenantId id custodian a) :
    ApprovalSound log cers (attachEvidence e.id e.sequence a) := by
  obtain ⟨tenant, rfl, rfl⟩ := of_decide_eq_true hit
  refine ⟨sound.named, sound.ceremony, .inr ?_⟩
  rcases sound.evidence with ⟨noId, noSequence⟩ | ⟨e', logged', sameTenant, body, eid, seq⟩
  · exact ⟨e, logged, tenant.symm, recs, by simp [attachEvidence, noId],
      by simp [attachEvidence, noSequence]⟩
  · exact ⟨e', logged', sameTenant, body, by simp [attachEvidence, eid],
      by simp [attachEvidence, seq]⟩

theorem sound (change : CeremonyChange log tables tables') (before : ApprovalsSound log tables) :
    ApprovalsSound log tables' := by
  intro a kept
  have has : ∀ a, a ∈ tables .caCeremonyApprovals →
      ApprovalSound log (tables' .caKeyCeremonies) a := by
    -- the ceremonies keep their openers
    intro a old
    obtain ⟨named, ⟨c, kept, ofCeremony, tenant, other⟩, evidence⟩ := before a old
    obtain ⟨c', kept', sameId, sameTenant, sameOpener, -⟩ := change.keeps kept
    exact ⟨named, ⟨c', kept', sameId.trans ofCeremony, sameTenant.trans tenant,
      sameOpener.trans_ne other⟩, evidence⟩
  cases change with
  | none cers approvals | opened c cers approvals
  | completed which cers approvals => exact has a (approvals ▸ kept)
  | approved new sound cers approvals =>
    rw [approvals] at kept
    rcases mem_snoc.mp kept with old | rfl
    · exact has a old
    · exact cers ▸ sound
  | attached e id custodian logged recs cers approvals =>
    rw [approvals] at kept
    rcases mem_updateRows.mp kept with ⟨q, old, hit, rfl⟩ | ⟨old, -⟩
    · exact attach (has q old) logged recs hit
    · exact has a old

theorem closed (change : CeremonyChange log tables tables') {id : Uuid}
    (closed : CeremonyClosed id tables) : CeremonyClosed id tables' := by
  obtain ⟨c, kept, same, status⟩ := closed
  obtain ⟨c', kept', sameId, -, -, still⟩ := change.keeps kept
  exact ⟨c', kept', sameId.trans same, still status⟩

end CeremonyChange

/-- The erasure of a tenant: rows go, and only the tenant's ceremonies. -/
structure CeremonyErasure (τ : Uuid) (tables tables' : Tables Row) : Prop where
  ceremonies : tables' .caKeyCeremonies ⊆ tables .caKeyCeremonies
  approvals : tables' .caCeremonyApprovals ⊆ tables .caCeremonyApprovals
  others : ∀ c : KeyCeremony, c ∈ tables .caKeyCeremonies → c.tenantId ≠ τ →
    c ∈ tables' .caKeyCeremonies

namespace CeremonyErasure

variable {τ : Uuid} {log : List Event} {tables tables' tables'' : Tables Row}

theorem refl (τ : Uuid) (tables : Tables Row) : CeremonyErasure τ tables tables :=
  ⟨.refl _, .refl _, fun _ kept _ => kept⟩

theorem trans (first : CeremonyErasure τ tables tables')
    (second : CeremonyErasure τ tables' tables'') : CeremonyErasure τ tables tables'' where
  ceremonies := Subset.trans second.ceremonies first.ceremonies
  approvals := Subset.trans second.approvals first.approvals
  others c stored foreign := second.others c (first.others c stored foreign) foreign

/-- An approval that stays refers to a ceremony that stays, and ids are unique. -/
theorem sound {db db' : Database Row} (erasure : CeremonyErasure τ db.tables db'.tables)
    (before : ApprovalsSound log db.tables) : ApprovalsSound log db'.tables := by
  intro a kept
  have sound := before a (erasure.approvals kept)
  obtain ⟨c, old, ofCeremony, tenant, other⟩ := sound.ceremony
  obtain ⟨c', stays, named⟩ := approval_ceremony db' kept
  obtain rfl := ceremonyId_unique db (erasure.ceremonies stays) old (named.trans ofCeremony.symm)
  exact ⟨sound.named, ⟨c', stays, named, tenant, other⟩, sound.evidence⟩

theorem closed {id : Uuid} (erasure : CeremonyErasure τ tables tables')
    (pending : ∀ c : KeyCeremony, c ∈ tables .caKeyCeremonies → c.tenantId = τ →
      c.status = "pending")
    (closed : CeremonyClosed id tables) : CeremonyClosed id tables' := by
  obtain ⟨c, kept, same, status⟩ := closed
  have foreign : c.tenantId ≠ τ := fun own => status (pending c kept own)
  exact ⟨c, erasure.others c kept foreign, same, status⟩

end CeremonyErasure

/-! ## Transactions -/

section Transactions

variable {h : Digest} {now : Time} {log : List Event} {e : Event} {s : Session}
  {db db' : Database Row} {τ id : Uuid} {custodian : String}

variable {p : Sink τ}

theorem change_confined {accesses : List (Access Table)} (confined : Confined accesses p)
    (ran : run s p db = .ok db') (rest : accesses.all (fun a =>
      a.table ≠ .caKeyCeremonies ∧ a.table ≠ .caCeremonyApprovals)) :
    CeremonyChange log db.tables db'.tables := by
  have unlisted a listed := of_decide_eq_true (all_eq_true.mp rest a listed)
  refine .none (run_frame ran (confined.apart ?_)) (run_frame ran (confined.apart ?_))
  · exact fun a listed => (unlisted a listed).1
  · exact fun a listed => (unlisted a listed).2

theorem change_opened {c : KeyCeremony} {clash : KeyCeremony → Bool}
    (ran : run s ([insertIgnore .caKeyCeremonies c clash rfl] : Sink c.tenantId) db = .ok db') :
    CeremonyChange log db.tables db'.tables := by
  have same : db'.tables .caCeremonyApprovals = db.tables .caCeremonyApprovals :=
    run_frame ran (by simp [Stmt.footprint])
  rw [run_singleton] at ran
  rcases effect_insertIgnore.mp (exec_ok.mp ran) with ⟨-, left⟩ | ⟨-, left⟩
  · exact .none (by rw [left]) same
  · exact .opened c (by rw [← left, setTable_self]) same

theorem change_approved {c : KeyCeremony} (hit : findCeremony (slice τ db.tables) id = some c)
    (other : c.opener ≠ custodian) (named : custodian ≠ "") (tenant : a.tenantId = τ)
    (ofCeremony : a.ceremonyId = id) (by_ : a.custodian = custodian)
    (evidence : (a.approvalEventId = none ∧ a.approvalEventSequence = none) ∨
      ∃ e ∈ log, e.Evidences a) (left : db'.tables = setTable db.tables .caCeremonyApprovals
      (db.tables .caCeremonyApprovals ++ [a])) :
    CeremonyChange log db.tables db'.tables := by
  obtain ⟨kept, own, sameId⟩ := findCeremony_slice hit
  refine .approved a ⟨by_ ▸ named, ⟨c, kept, ?_, ?_, ?_⟩, evidence⟩ ?_ ?_
  · exact sameId.trans ofCeremony.symm
  · exact own.trans tenant.symm
  · exact by_ ▸ other
  · rw [left, setTable_of_ne _ (by decide)]
  · rw [left, setTable_self]

/-- A ceremony that is still pending and takes the approval is not the custodian's own. -/
theorem ceremonyAcceptsApproval_eq_none {view : Tables Row} {eid : String} {eventSeq : Nat}
    (named : custodian ≠ "")
    (taken : ceremonyAcceptsApproval id custodian eid eventSeq view = none)
    (pending : ceremonyClosed id view = false) :
    ∃ c, findCeremony view id = some c ∧ c.opener ≠ custodian := by
  unfold ceremonyAcceptsApproval at taken
  unfold ceremonyClosed at pending
  split at taken
  next => cases taken
  next c hit =>
    rw [hit] at pending
    refine ⟨c, hit, ?_⟩
    rintro rfl
    have open_ : ¬ c.status ≠ "pending" := of_decide_eq_false pending
    rw [if_neg open_, if_pos ⟨named, rfl⟩] at taken
    cases taken

theorem change_ceremonyApproved {p : Sink e.tenantId} (logged : e ∈ log)
    (recs : e.body = .authority (.caCeremonyApproved id custodian))
    (sunk : applyKeyCeremonyApprovedTx e.tenantId id custodian e.id e.sequence e.time = .ok p)
    (ran : run s p db = .ok db') : CeremonyChange log db.tables db'.tables := by
  unfold applyKeyCeremonyApprovedTx at sunk
  split at sunk
  next => cases sunk
  next named =>
  obtain ⟨-, ⟨⟩⟩ := refuse_ok.mp sunk
  obtain ⟨mid, check, noted⟩ := run_cons_ok.mp ran
  obtain ⟨taken, rfl⟩ := exec_guard.mp check
  rw [run_singleton, exec_skipIf] at noted
  split at noted
  next => cases noted; exact .none rfl rfl
  next pending =>
    obtain ⟨c, hit, other⟩ :=
      ceremonyAcceptsApproval_eq_none named taken (Bool.eq_false_iff.mpr pending)
    rcases effect_upsert.mp (exec_ok.mp noted) with ⟨-, -, left⟩ | ⟨-, left⟩
    · refine .attached e id custodian logged recs ?_ ?_
      · rw [← left, setTable_of_ne _ (by decide)]
      · rw [← left, setTable_self]
        rfl
    · refine change_approved hit other named rfl rfl rfl (.inr ⟨e, logged, ?_⟩) left.symm
      exact ⟨rfl, recs, rfl, rfl⟩

theorem change_applyTx (logged : e ∈ log) (performed : perform s (applyTx h now e) db = .ok db') :
    CeremonyChange log db.tables db'.tables := by
  obtain ⟨p, sunk, ran⟩ := perform_ok.mp performed
  have confined := applyTx_confined sunk
  obtain ⟨-, -, payload⟩ := bind_ok.mp sunk
  unfold Event.accesses at confined
  cases body : e.body with
  | authority b =>
    rw [body] at payload confined
    cases b with
    | caCeremonyStarted cid purpose threshold opener =>
      obtain ⟨-, ⟨⟩⟩ := require_ok.mp payload
      exact change_opened ran
    | caCeremonyApproved cid custodian =>
      obtain ⟨-, approved⟩ := require_ok.mp payload
      exact change_ceremonyApproved logged body approved ran
    | _ => exact change_confined confined ran rfl
  | inventory b | operations b | governance b | privacy b =>
    rw [body] at confined
    exact change_confined confined ran (by cases b <;> rfl)
  | tenantRegistered | tenantOffboarded | raw =>
    rw [body] at confined
    exact change_confined confined ran rfl

theorem change_registerTenant {name : String}
    (performed : perform s (registerTenant e name) db = .ok db') :
    CeremonyChange log db.tables db'.tables := by
  obtain ⟨p, sunk, ran⟩ := perform_ok.mp performed
  obtain ⟨-, -, ⟨⟩⟩ := bind_ok.mp sunk
  exact .none (run_frame ran (by simp [upsertTenant, Stmt.footprint]))
    (run_frame ran (by simp [upsertTenant, Stmt.footprint]))

theorem refuseTenantEvent_ne_ok {type : String}
    (ran : perform s (refuseTenantEvent e type) db = .ok db') : False := by
  obtain ⟨p, refused, -⟩ := perform_ok.mp ran
  obtain ⟨-, -, ⟨⟩⟩ := bind_ok.mp refused

variable {t : Table}

/-- Rows of other tenants stay in the table a tenant's rows are deleted from. -/
theorem mem_deleted {r : Row t} {tables : Tables Row} :
    r ∈ setTable tables t ((tables t).filter fun r => !(owns τ r && true)) t ↔
      r ∈ tables t ∧ Schema.tenantOf r ≠ τ := by
  simp [owns]

/-- Only the deletion of ceremonies reaches another table of the two. -/
theorem deleteTenantRows_frame {t' : Table} (other : t ≠ .caKeyCeremonies)
    (which : t' = .caKeyCeremonies ∨ (t' = .caCeremonyApprovals ∧ t ≠ .caCeremonyApprovals)) :
    t' ∉ (deleteTenantRows τ t).footprint := by
  show t' ∉ t :: cascades t
  rcases which with rfl | ⟨rfl, other'⟩
  · revert other
    cases t <;> decide
  · revert other other'
    cases t <;> decide

theorem erasure_deleteTenantRows (ran : exec s db (deleteTenantRows τ t) = .ok db') :
    CeremonyErasure τ db.tables db'.tables := by
  have left : onDelete t (setTable db.tables t
      ((db.tables t).filter fun r => !(owns τ r && true))) = db'.tables :=
    Except.ok.inj (exec_ok.mp ran)
  by_cases cers : t = .caKeyCeremonies
  · subst cers
    -- The approvals of the deleted ceremonies go with them.
    rw [← left]
    refine ⟨fun c stays => ?_, fun a stays => ?_, fun c kept foreign => ?_⟩
    · exact (mem_deleted.mp stays).1
    · exact (mem_filter.mp stays).1
    · exact mem_deleted.mpr ⟨kept, foreign⟩
  · have same := exec_frame ran (deleteTenantRows_frame cers (.inl rfl))
    refine ⟨same ▸ Subset.refl _, ?_, fun c kept _ => same ▸ kept⟩
    by_cases approvals : t = .caCeremonyApprovals
    · subst approvals
      rw [← left]
      exact fun a stays => (mem_deleted.mp stays).1
    · have same := exec_frame ran (deleteTenantRows_frame cers (.inr ⟨rfl, approvals⟩))
      exact same ▸ Subset.refl _

theorem erasure_deletes {tables : List Table}
    (ran : run s (tables.map (deleteTenantRows τ)) db = .ok db') :
    CeremonyErasure τ db.tables db'.tables := by
  induction tables generalizing db with
  | nil =>
    cases ran
    exact .refl _ _
  | cons t rest ih =>
    obtain ⟨mid, deleted, others⟩ := run_cons_ok.mp ran
    exact (erasure_deleteTenantRows deleted).trans (ih others)

theorem erasure_offboardTenant (sunk : offboardTenant τ = .ok p) (ran : run s p db = .ok db') :
    CeremonyErasure τ db.tables db'.tables := by
  obtain ⟨-, ⟨⟩⟩ := refuse_ok.mp sunk
  obtain ⟨mid, deleted, valid⟩ := run_append_ok.mp ran
  obtain ⟨rfl, -⟩ := run_verifyErased valid
  exact erasure_deletes deleted

theorem apply_ceremonies (logged : e ∈ log) (done : apply h now e db = .ok db') :
    CeremonyChange log db.tables db'.tables ∨
      (e.body = .tenantOffboarded ∧ CeremonyErasure e.tenantId db.tables db'.tables) := by
  unfold apply at done
  split at done
  next => exact .inl (change_registerTenant done)
  next erased =>
    obtain ⟨p, sunk, ran⟩ := perform_ok.mp done
    obtain ⟨-, -, offboarded⟩ := bind_ok.mp sunk
    exact .inr ⟨erased, erasure_offboardTenant offboarded ran⟩
  next =>
    split at done
    next => exact (refuseTenantEvent_ne_ok done).elim
    next => exact .inl (change_applyTx logged done)
  next => exact .inl (change_applyTx logged done)

theorem applyForRebuild_sound (logged : e ∈ log) (done : applyForRebuild h now e db = .ok db')
    (old : ApprovalsSound log db.tables) : ApprovalsSound log db'.tables := by
  unfold applyForRebuild at done
  split at done
  next => exact (change_registerTenant done).sound old
  next =>
    obtain ⟨p, sunk, ran⟩ := perform_ok.mp done
    obtain ⟨-, -, deleted⟩ := bind_ok.mp sunk
    obtain ⟨-, ⟨⟩⟩ := refuse_ok.mp deleted
    exact (erasure_deletes ran).sound old
  next =>
    split at done
    next => exact (refuseTenantEvent_ne_ok done).elim
    next => exact (change_applyTx logged done).sound old
  next => exact (change_applyTx logged done).sound old

theorem projectForRebuild_sound {evs : List Event} (logged : evs ⊆ log)
    (again : projectForRebuild h now evs db = .ok db')
    (old : ApprovalsSound log db.tables) : ApprovalsSound log db'.tables := by
  induction evs generalizing db with
  | nil =>
    cases again
    exact old
  | cons e rest ih =>
    obtain ⟨mid, done, others⟩ := bind_ok.mp again
    have first := applyForRebuild_sound (logged mem_cons_self) done old
    exact ih (fun e' mem => logged (mem_cons_of_mem e mem)) others first

/-! ### Operations of the store -/

theorem change_reserve {count : Nat} {needed : Bool}
    (reserved : reserveKeyCeremonyApproval τ id custodian now db = .ok (db', count, needed)) :
    CeremonyChange log db.tables db'.tables := by
  unfold reserveKeyCeremonyApproval at reserved
  split at reserved
  next => cases reserved
  next named =>
    obtain ⟨left, ran, ⟨⟩⟩ := map_eq_ok.mp reserved
    obtain ⟨mid, check, added⟩ := run_cons_ok.mp ran
    obtain ⟨open_, rfl⟩ := exec_guard.mp check
    obtain ⟨c, hit, other⟩ := ceremonyOpenTo_eq_none named open_
    rw [run_singleton] at added
    rcases effect_insertIgnore.mp (exec_ok.mp added) with ⟨-, same⟩ | ⟨-, left⟩
    · exact .none (by rw [same]) (by rw [same])
    · exact change_approved hit other named rfl rfl rfl (.inl ⟨rfl, rfl⟩) left.symm

theorem change_attach {count : Nat} (logged : e ∈ log)
    (recs : e.body = .authority (.caCeremonyApproved id custodian))
    (attached : attachKeyCeremonyApprovalEvidence e.tenantId id custodian e.id e.sequence db =
      .ok (db', count)) : CeremonyChange log db.tables db'.tables := by
  unfold attachKeyCeremonyApprovalEvidence at attached
  split at attached
  next => cases attached
  next =>
    obtain ⟨left, ran, ⟨⟩⟩ := map_eq_ok.mp attached
    rw [attachEvidenceTx, run_singleton] at ran
    obtain ⟨-, left⟩ := effect_rowUpdate.mp (exec_ok.mp ran)
    have picked : (fun a : CeremonyApproval => decide (a.tenantId = e.tenantId) &&
        decide (a.ceremonyId = id ∧ a.custodian = custodian)) =
        approvedBy e.tenantId id custodian := by
      funext a
      simp [approvedBy]
    refine .attached e id custodian logged recs ?_ ?_
    · rw [← left, setTable_of_ne _ (by decide)]
    · rw [← left, setTable_self]
      exact congrArg (fun hit => updateRows hit _ _) picked

end Transactions

end Trustctl.Projections
