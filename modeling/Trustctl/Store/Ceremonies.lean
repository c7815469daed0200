import Trustctl.Store.Sinks.Authority

/-!
# Key ceremonies

The operations on key ceremonies that write the store directly, beside the two projection
sinks: opening a ceremony, reserving an approval, attaching its evidence, and consuming the
ceremony.  An approval counts towards the quorum once it carries the id of an event.

* `consumed_ceremony`: a consumption that commits found the ceremony pending, with the
  expected purpose and its quorum, and closed it.
-/

namespace Trustctl.Store

open Relational List

def evidencedApprovals (view : Tables Row) (id : Uuid) : List CeremonyApproval :=
  (view .caCeremonyApprovals).filter fun (a : CeremonyApproval) =>
    a.ceremonyId = id ∧ a.approvalEventId ≠ none

def keyCeremonyApprovalEvidenced (view : Tables Row) (id : Uuid) (custodian : String) : Bool :=
  (evidencedApprovals view id).any fun a => a.custodian = custodian

/-! ## Opening and approving -/

def errKeyCeremonyNotPending : ApplyError := .store "store: key ceremony is not pending"

def errKeyCeremonyPurposeMismatch : ApplyError := .store "store: key ceremony purpose mismatch"

def errKeyCeremonyQuorumNotMet : ApplyError := .store "store: key ceremony quorum not met"

/-- `CreateKeyCeremony`, with the id and the time the database draws. -/
def createKeyCeremony (τ id : Uuid) (purpose opener : String) (threshold : Int) (now : Time) :
    Sink τ := [
  insertIgnore .caKeyCeremonies
    { id, tenantId := τ, purpose, threshold, status := "pending", opener, createdAt := now :
      KeyCeremony }
    (fun _ => false) rfl]

/-- The checks of `ReserveKeyCeremonyApproval` on the ceremony. -/
def ceremonyOpenTo (id : Uuid) (custodian : String) (view : Tables Row) : Option ApplyError :=
  match findCeremony view id with
  | none => some .noRows
  | some c =>
    if c.status ≠ "pending" then some errKeyCeremonyNotPending
    else if c.opener ≠ "" ∧ c.opener = custodian then
      some (.store
        "store: ceremony opener may not approve their own ceremony (separation of duties)")
    else none

/-- The transaction of `ReserveKeyCeremonyApproval`. -/
def reserveApprovalTx (τ id : Uuid) (custodian : String) (now : Time) : Sink τ := [
  .guard (ceremonyOpenTo id custodian),
  insertIgnore .caCeremonyApprovals
    { tenantId := τ, ceremonyId := id, custodian, approvedAt := now, approvalEventId := none,
      approvalEventSequence := none : CeremonyApproval }
    (fun (r : CeremonyApproval) => r.tenantId = τ ∧ r.ceremonyId = id ∧ r.custodian = custodian)
    rfl]

/-- `ReserveKeyCeremonyApproval`: the state it leaves, the evidenced approvals and whether the
row still needs evidence. -/
def reserveKeyCeremonyApproval (τ id : Uuid) (custodian : String) (now : Time)
    (db : Database Row) : Except (Fault ApplyError) (Database Row × Nat × Bool) :=
  if custodian = "" then
    .error (.raised
      (.store "store: ceremony approval requires an authenticated custodian identity"))
  else
    (run .rowSecurity (reserveApprovalTx τ id custodian now) db).map fun db' =>
      let view := slice τ db'.tables
      (db', (evidencedApprovals view id).length, !keyCeremonyApprovalEvidenced view id custodian)

/-- Bind an approval to an event, unless it is bound already. -/
def attachEvidence (eventId : String) (eventSeq : Nat) (a : CeremonyApproval) : CeremonyApproval :=
  { a with
    approvalEventId := a.approvalEventId <|> some eventId
    approvalEventSequence := a.approvalEventSequence <|> some eventSeq }

def attachEvidenceTx (τ id : Uuid) (custodian eventId : String) (eventSeq : Nat) : Sink τ := [
  rowUpdate .caCeremonyApprovals
    (fun (r : CeremonyApproval) => r.ceremonyId = id ∧ r.custodian = custodian)
    (attachEvidence eventId eventSeq) (some errKeyCeremonyQuorumNotMet) fun _ => rfl]

/-- `AttachKeyCeremonyApprovalEvidence`: the state it leaves and the evidenced approvals. -/
def attachKeyCeremonyApprovalEvidence (τ id : Uuid) (custodian eventId : String)
    (eventSeq : Nat) (db : Database Row) : Except (Fault ApplyError) (Database Row × Nat) :=
  if eventId = "" ∨ eventSeq = 0 then
    .error (.raised (.store "store: ceremony approval evidence requires event id and sequence"))
  else
    (run .rowSecurity (attachEvidenceTx τ id custodian eventId eventSeq) db).map fun db' =>
      (db', (evidencedApprovals (slice τ db'.tables) id).length)

/-- The checks of `ConsumeKeyCeremonyTx`. -/
def ceremonyConsumable (id : Uuid) (expectedPurpose : String) (view : Tables Row) :
    Option ApplyError :=
  match findCeremony view id with
  | none => some .noRows
  | some c =>
    if c.status ≠ "pending" then some errKeyCeremonyNotPending
    else if c.purpose ≠ expectedPurpose then some errKeyCeremonyPurposeMismatch
    else if ((evidencedApprovals view id).length : Int) < c.threshold then
      some errKeyCeremonyQuorumNotMet
    else none

/-- The `UPDATE` that completes a pending ceremony. -/
def completeCeremony (c : KeyCeremony) : KeyCeremony := { c with status := "completed" }

def consumeKeyCeremonyTx (τ id : Uuid) (expectedPurpose : String) : Sink τ := [
  .guard (ceremonyConsumable id expectedPurpose),
  rowUpdate .caKeyCeremonies (fun (r : KeyCeremony) => r.id = id ∧ r.status = "pending")
    completeCeremony (some errKeyCeremonyNotPending) fun _ => rfl]

/-! ## Constraints -/

section Constraints

variable (db : Database Row)

theorem authorityUniques_hold : ∀ c ∈ authorityUniques, c.holds db.tables := by
  intro c mem
  refine all_eq_true.mp db.valid c ?_
  simp only [Schema.constraints, constraints, mem_append, mem, true_or, or_true]

/-- The id is the key of a ceremony, across all tenants. -/
theorem ceremonyId_unique {c c' : KeyCeremony} (kept : c ∈ db.tables .caKeyCeremonies)
    (kept' : c' ∈ db.tables .caKeyCeremonies) (same : c.id = c'.id) : c = c' := by
  have holds := authorityUniques_hold db
  simp only [authorityUniques, forall_mem_cons] at holds
  exact inj_on_of_nodup_map (Constraint.nodup_of_holds holds.2.2.1) kept kept' same

theorem approval_ceremony {a : CeremonyApproval} (kept : a ∈ db.tables .caCeremonyApprovals) :
    ∃ c : KeyCeremony, c ∈ db.tables .caKeyCeremonies ∧ c.id = a.ceremonyId := by
  have holds := (foreignKeys_of_valid db.valid).2.1
  simp only [authorityForeignKeys, forall_mem_cons] at holds
  obtain ⟨c, parent, named⟩ := any_eq_true.mp (all_eq_true.mp holds.2.2.1 a kept)
  exact ⟨c, parent, of_decide_eq_true named⟩

theorem evidencedApprovals_nodup (τ id : Uuid) :
    ((evidencedApprovals (slice τ db.tables) id).map CeremonyApproval.custodian).Nodup := by
  have holds := authorityUniques_hold db
  simp only [authorityUniques, forall_mem_cons] at holds
  let key : CeremonyApproval → Uuid × Uuid × String :=
    fun a => (a.tenantId, a.ceremonyId, a.custodian)
  have nodup : ((db.tables .caCeremonyApprovals).map key).Nodup :=
    Constraint.nodup_of_holds holds.2.2.2.1
  have sub : (evidencedApprovals (slice τ db.tables) id).Sublist
      (db.tables .caCeremonyApprovals) := filter_sublist.trans filter_sublist
  have counted := nodup.sublist (sub.map key)
  have fixed : (evidencedApprovals (slice τ db.tables) id).map key =
      ((evidencedApprovals (slice τ db.tables) id).map CeremonyApproval.custodian).map
        fun u => (τ, id, u) := by
    rw [map_map]
    refine map_congr_left fun a mem => ?_
    obtain ⟨inSlice, ofCeremony⟩ := mem_filter.mp mem
    have own : a.tenantId = τ := of_decide_eq_true (mem_filter.mp inSlice).2
    have same : a.ceremonyId = id := (of_decide_eq_true ofCeremony).1
    simp [key, own, same]
  rw [fixed] at counted
  exact counted.of_map

end Constraints

/-! ## What they find and leave -/

variable {τ id : Uuid} {db db' : Database Row} {view : Tables Row} {c : KeyCeremony}

theorem findCeremony_slice (hit : findCeremony (slice τ db.tables) id = some c) :
    c ∈ db.tables .caKeyCeremonies ∧ c.tenantId = τ ∧ c.id = id := by
  unfold findCeremony at hit
  have named := find?_some hit
  rw [decide_eq_true_eq] at named
  obtain ⟨kept, own⟩ := mem_filter.mp (List.mem_of_find?_eq_some hit)
  exact ⟨kept, of_decide_eq_true own, named⟩

/-- A ceremony that takes an approval is not the custodian's own. -/
theorem ceremonyOpenTo_eq_none {custodian : String} (named : custodian ≠ "")
    (taken : ceremonyOpenTo id custodian view = none) :
    ∃ c, findCeremony view id = some c ∧ c.opener ≠ custodian := by
  unfold ceremonyOpenTo at taken
  split at taken
  next => cases taken
  next c hit =>
    refine ⟨c, hit, ?_⟩
    rintro rfl
    split at taken
    next => cases taken
    next =>
      rw [if_pos ⟨named, rfl⟩] at taken
      cases taken

theorem ceremonyConsumable_eq_none {want : String} : ceremonyConsumable id want view = none ↔
      ∃ c, findCeremony view id = some c ∧ c.status = "pending" ∧ c.purpose = want ∧
        c.threshold ≤ (evidencedApprovals view id).length := by
  unfold ceremonyConsumable
  cases findCeremony view id with
  | none => simp
  | some c =>
    simp only [Option.some.injEq, exists_eq_left']
    split
    next closed => simp [closed]
    next pending =>
      split
      next other => simp [other]
      next same =>
        split
        next short => simp [short]
        next enough => simp [not_not.mp pending, not_not.mp same, Int.not_lt.mp enough]

/-- A consumption that commits found its ceremony pending, with the expected purpose and its
quorum, and closed it. -/
theorem consumed_ceremony {want : String}
    (ran : run .rowSecurity (consumeKeyCeremonyTx τ id want) db = .ok db') :
    ∃ c, findCeremony (slice τ db.tables) id = some c ∧ c.status = "pending" ∧ c.purpose = want ∧
      c.threshold ≤ (evidencedApprovals (slice τ db.tables) id).length ∧
      db'.tables = setTable db.tables .caKeyCeremonies
        (updateRows (fun (r : KeyCeremony) => decide (r.tenantId = τ) &&
          decide (r.id = id ∧ r.status = "pending")) completeCeremony
          (db.tables .caKeyCeremonies)) := by
  obtain ⟨mid, check, completed⟩ := run_cons_ok.mp ran
  obtain ⟨consumable, rfl⟩ := exec_guard.mp check
  rw [run_singleton] at completed
  obtain ⟨-, left⟩ := effect_rowUpdate.mp (exec_ok.mp completed)
  obtain ⟨c, hit, pending, purpose, quorum⟩ := ceremonyConsumable_eq_none.mp consumable
  exact ⟨c, hit, pending, purpose, quorum, left.symm⟩

end Trustctl.Store
