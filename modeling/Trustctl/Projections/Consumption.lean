import Trustctl.Projections.Ceremonies
import Trustctl.Projections.Snapshot

/-!
# Key ceremonies over whole runs

A ceremony is opened and approved through events or directly in the store, it is consumed by
the transaction that creates or changes an authority, and all the while the read model may be
rebuilt from the log, captured in snapshots and restored from them.  Consuming a ceremony
writes its status and appends no event, so the log does not know about it.

* `ceremonies_single_use`: in a run that derives the read model anew only while every ceremony
  is pending, and erases a tenant only while its ceremonies are, no ceremony is consumed twice
  and every consumption had its purpose and its quorum;
* `rebuilt_ceremony_consumed_again`: after a rebuild a consumed ceremony is consumed again.
-/

namespace Trustctl.Projections.Ceremony

open Store Relational Systems List Option

/-! ## The system -/

/-- A successful consumption: the ceremony and the approvals that counted. -/
structure Consumption where
  tenantId : Uuid
  id : Uuid
  expectedPurpose : String
  ceremony : KeyCeremony
  approvals : List CeremonyApproval

/-- A snapshot pass: the checkpoint it read and the tenants it has still to capture. -/
structure SnapshotPass where
  covered : Nat
  rest : List Uuid

/-- The log, the read model and its snapshots; `consumed` is a history variable. -/
structure World where
  log : List Event := []
  model : ReadModel := { db := .empty, checkpoint := 0 }
  snapshots : List TenantSnapshot := []
  /-- The pass that holds the projection lock. -/
  pass : Option SnapshotPass := none
  consumed : List Consumption := []

inductive Action
  /-- `Log.Append`. -/
  | append (e : Event)
  /-- A command, the tail worker or a catch-up projects the event at the position. -/
  | project (i : Nat)
  /-- `AdvanceProjectionCheckpoint`, by any of them. -/
  | advance (seq : Nat)
  /-- `CreateKeyCeremony`. -/
  | create (tenantId id : Uuid) (purpose opener : String) (threshold : Int)
  /-- `ReserveKeyCeremonyApproval`. -/
  | reserve (tenantId id : Uuid) (custodian : String)
  /-- `AttachKeyCeremonyApprovalEvidence`, with the approval at the position of the log. -/
  | attach (i : Nat)
  /-- The transaction around `ConsumeKeyCeremonyTx`. -/
  | consume (tenantId id : Uuid) (expectedPurpose : String)
  | rebuild
  /-- `Snapshot` takes the lock and lists the tenants. -/
  | beginSnapshot
  /-- It captures the next tenant, or ends. -/
  | captureNext
  /-- The replica stops during the pass. -/
  | abandonSnapshot
  /-- `RestoreFromSnapshot`. -/
  | restore
  /-- The read model is lost with its checkpoint; the snapshots survive. -/
  | lose

namespace World

/-- Commit the tables a transaction leaves. -/
def commit (w : World) (db : Database Row) : World := { w with model := { w.model with db } }

/-- Commit a transaction, or leave the store as it was. -/
def settle (w : World) : Except (Fault ApplyError) (Database Row) → World
  | .ok db => w.commit db
  | .error _ => w

/-- The approval event at the position of the log, with its ceremony and custodian. -/
def approvalAt (w : World) (i : Nat) : Option (Event × Uuid × String) :=
  w.log[i]?.bind fun e =>
    match e.body with
    | .authority (.caCeremonyApproved id custodian) => some (e, id, custodian)
    | _ => none

/-- The history entry of a consumption. -/
def consumption (w : World) (τ id : Uuid) (expectedPurpose : String) (c : KeyCeremony) :
    Consumption where
  tenantId := τ
  id := id
  expectedPurpose := expectedPurpose
  ceremony := c
  approvals := evidencedApprovals (slice τ w.model.db.tables) id

def listTenants (w : World) : List Uuid :=
  ((w.model.db.tables .tenants).map fun (t : Tenant) => t.tenantId).insertionSort (· ≤ ·)

/-- One step of the system.  A transaction that is refused leaves everything as it was. -/
def step (h : Digest) (now : Time) (w : World) : Action → Option World
  | .append e => some { w with log := w.log ++ [e.numbered (w.log.length + 1)] }
  | .project i => w.log[i]?.map fun e => w.settle (apply h now e w.model.db)
  | .advance seq => some { w with model := w.model.advance seq }
  | .create τ id purpose opener threshold =>
    some (w.settle (run .rowSecurity (createKeyCeremony τ id purpose opener threshold now)
      w.model.db))
  | .reserve τ id custodian =>
    some (w.settle ((reserveKeyCeremonyApproval τ id custodian now w.model.db).map Prod.fst))
  | .attach i => (w.approvalAt i).map fun (e, id, custodian) =>
    w.settle ((attachKeyCeremonyApprovalEvidence e.tenantId id custodian e.id e.sequence
      w.model.db).map Prod.fst)
  | .consume τ id expectedPurpose =>
    match run .rowSecurity (consumeKeyCeremonyTx τ id expectedPurpose) w.model.db,
      findCeremony (slice τ w.model.db.tables) id with
    | .ok db, some c =>
      some { w.commit db with consumed := w.consumed ++ [w.consumption τ id expectedPurpose c] }
    | _, _ => some w
  | .rebuild =>
    match Projections.rebuild h now w.log w.model with
    | .ok model => some { w with model }
    | .error _ => some w
  | .beginSnapshot =>
    if w.pass.isSome then none
    else some { w with pass := some { covered := w.model.checkpoint, rest := w.listTenants } }
  | .captureNext => w.pass.map fun p =>
    match p.rest with
    | [] => { w with pass := none }
    | τ :: rest =>
      match writeTenantSnapshot τ p.covered w.model.db.tables w.snapshots with
      | .ok snapshots => { w with snapshots, pass := some { p with rest } }
      | .error _ => { w with pass := none }
  | .abandonSnapshot => some { w with pass := none }
  | .restore =>
    if w.pass.isSome then none
    else
      match restoreFromSnapshot h now w.log w.snapshots w.model with
      | .ok (model, _) => some { w with model }
      | .error _ => some w
  | .lose => some { w with model := { db := .empty, checkpoint := 0 } }

/-! ## Conditions -/

def allPending (w : World) : Bool :=
  (w.model.db.tables .caKeyCeremonies).all fun (c : KeyCeremony) => c.status = "pending"

def tenantPending (w : World) (τ : Uuid) : Bool :=
  (w.model.db.tables .caKeyCeremonies).all fun (c : KeyCeremony) =>
    c.tenantId ≠ τ || c.status = "pending"

/-- Some snapshot is ahead of the checkpoint. -/
def restores (w : World) : Bool :=
  (latestSnapshotOffset w.snapshots).any fun covered => w.model.checkpoint < covered

/-- The read model is derived anew, or a tenant erased, while no ceremony that goes has been
completed. -/
def settled (w : World) : Action → Bool
  | .project i => w.log[i]?.all fun e =>
    match e.body with
    | .tenantOffboarded => w.tenantPending e.tenantId
    | _ => true
  | .rebuild | .lose => w.allPending
  | .restore => !w.restores || w.allPending
  | _ => true

end World

/-- The consumption had the purpose it was asked for, and enough pairwise distinct custodians
had approved it: named, none the opener, each with an event of the log as evidence. -/
structure Consumption.Governed (log : List Event) (c : Consumption) : Prop where
  ceremony : c.ceremony.id = c.id ∧ c.ceremony.tenantId = c.tenantId
  purpose : c.ceremony.purpose = c.expectedPurpose
  distinct : (c.approvals.map CeremonyApproval.custodian).Nodup
  quorum : c.ceremony.threshold ≤ c.approvals.length
  approvals : ∀ a ∈ c.approvals, a.tenantId = c.tenantId ∧ a.ceremonyId = c.id ∧
    a.custodian ≠ "" ∧ a.custodian ≠ c.ceremony.opener ∧ ∃ e ∈ log, e.Evidences a

/-- No ceremony was consumed twice, and every consumption was governed. -/
structure World.SingleUse (w : World) : Prop where
  once : (w.consumed.map Consumption.id).Nodup
  governed : ∀ c ∈ w.consumed, c.Governed w.log

theorem Consumption.Governed.grow {log log' : List Event} {c : Consumption}
    (governed : c.Governed log) (sub : log ⊆ log') : c.Governed log' := by
  refine { governed with approvals := fun a counted => ?_ }
  obtain ⟨tenant, ofCeremony, named, other, e, logged, evidences⟩ := governed.approvals a counted
  exact ⟨tenant, ofCeremony, named, other, e, sub logged, evidences⟩

/-! ## Snapshots -/

section Snapshots

variable {h : Digest} {now : Time} {log : List Event} {τ : Uuid} {db db' : Database Row}
  {snapshots snapshots' : List TenantSnapshot} {m m' : ReadModel}

/-- The approvals a tenant's snapshot holds belong to ceremonies it holds. -/
theorem capture_sound {tables : Tables Row} (sound : ApprovalsSound log tables) :
    ApprovalsSound log (capture τ tables) := by
  intro a caught
  obtain ⟨kept, own⟩ := mem_filter.mp caught
  obtain ⟨named, ⟨c, ceremony, ofCeremony, tenant, other⟩, evidence⟩ := sound a kept
  have ofTenant : c.tenantId = τ := tenant.trans (of_decide_eq_true own)
  refine ⟨named, ⟨c, ?_, ofCeremony, tenant, other⟩, evidence⟩
  exact mem_filter.mpr ⟨ceremony, decide_eq_true ofTenant⟩

theorem rebuild_sound (rebuilt : rebuild h now log m = .ok m') :
    ApprovalsSound log m'.db.tables := by
  obtain ⟨db, again, ⟨⟩⟩ := bind_ok.mp rebuilt
  refine projectForRebuild_sound (.refl _) again ?_
  exact nofun

theorem restoreReadModel_sound {cover : Nat}
    (back : restoreReadModel h now log snapshots cover m = .ok m')
    (sound : ∀ s ∈ snapshots, ApprovalsSound log s.payload) :
    ApprovalsSound log m'.db.tables := by
  obtain ⟨db, reloaded, rest⟩ := bind_ok.mp back
  obtain ⟨db', again, ⟨⟩⟩ := bind_ok.mp rest
  refine projectForRebuild_sound (filter_subset_self _) again ?_
  intro a stored
  obtain ⟨s, kept, caught⟩ := (mem_restoreSnapshotsTx (by decide) reloaded).mp stored
  obtain ⟨named, ⟨c, ceremony, rest⟩, evidence⟩ := sound s kept a caught
  refine ⟨named, ⟨c, ?_, rest⟩, evidence⟩
  exact (mem_restoreSnapshotsTx (by decide) reloaded).mpr ⟨s, kept, ceremony⟩

/-- A restore leaves the read model alone unless a snapshot is ahead of the checkpoint. -/
theorem restoreFromSnapshot_sound {handled : Bool}
    (back : restoreFromSnapshot h now log snapshots m = .ok (m', handled))
    (sound : ∀ s ∈ snapshots, ApprovalsSound log s.payload) :
    m' = m ∨ ((latestSnapshotOffset snapshots).any (fun cover => m.checkpoint < cover) ∧
      ApprovalsSound log m'.db.tables) := by
  unfold restoreFromSnapshot at back
  split at back
  next =>
    cases back
    exact .inl rfl
  next cover last =>
    split at back
    next =>
      cases back
      exact .inl rfl
    next ahead =>
      refine .inr ⟨?_, ?_⟩
      · rw [last]
        exact decide_eq_true (Nat.lt_of_not_le ahead)
      · split at back
        next reloaded =>
          cases back
          exact restoreReadModel_sound reloaded sound
        next =>
          obtain ⟨model, rebuilt, ⟨⟩⟩ := map_eq_ok.mp back
          exact rebuild_sound rebuilt

end Snapshots

/-! ## The invariant -/

/-- What every settled step keeps. -/
structure Kept (w : World) : Prop where
  sound : ApprovalsSound w.log w.model.db.tables
  snapshots : ∀ s ∈ w.snapshots, ApprovalsSound w.log s.payload
  closed : ∀ c ∈ w.consumed, CeremonyClosed c.id w.model.db.tables
  singleUse : w.SingleUse

namespace Kept

variable {w : World} {h : Digest} {now : Time}

theorem init : Kept {} where
  sound := nofun
  snapshots := nofun
  closed := nofun
  singleUse := ⟨.nil, nofun⟩

variable (kept : Kept w)

include kept

/-- Checkpoints and snapshot passes are not part of it. -/
theorem same {w' : World} (log : w'.log = w.log) (db : w'.model.db = w.model.db)
    (snapshots : w'.snapshots = w.snapshots) (spent : w'.consumed = w.consumed) : Kept w' := by
  refine ⟨?_, ?_, ?_, ?_, ?_⟩
  · rw [log, db]
    exact kept.sound
  · rw [log, snapshots]
    exact kept.snapshots
  · rw [spent, db]
    exact kept.closed
  · rw [spent]
    exact kept.singleUse.once
  · rw [log, spent]
    exact kept.singleUse.governed

theorem commit {db : Database Row} (change : CeremonyChange w.log w.model.db.tables db.tables) :
    Kept (w.commit db) where
  sound := change.sound kept.sound
  snapshots := kept.snapshots
  closed c consumed := change.closed (kept.closed c consumed)
  singleUse := ⟨kept.singleUse.once, kept.singleUse.governed⟩

theorem settle {ran : Except (Fault ApplyError) (Database Row)}
    (change : ∀ db, ran = .ok db → CeremonyChange w.log w.model.db.tables db.tables) :
    Kept (w.settle ran) := by
  cases ran with
  | ok db => exact kept.commit (change db rfl)
  | error fault => exact kept

/-- The read model is derived anew while every ceremony is pending. -/
theorem rederive (pending : w.allPending) {model : ReadModel}
    (sound : ApprovalsSound w.log model.db.tables) : Kept { w with model } where
  sound := sound
  snapshots := kept.snapshots
  closed c consumed := by
    -- as long as every ceremony is pending none has been consumed
    obtain ⟨row, stored, -, status⟩ := kept.closed c consumed
    exact absurd (of_decide_eq_true (all_eq_true.mp pending row stored)) status
  singleUse := ⟨kept.singleUse.once, kept.singleUse.governed⟩

/-- The approvals that count towards a stored ceremony are those of its quorum. -/
theorem counted {τ id : Uuid} {c : KeyCeremony}
    (hit : findCeremony (slice τ w.model.db.tables) id = some c) :
    ∀ a ∈ evidencedApprovals (slice τ w.model.db.tables) id,
      a.tenantId = τ ∧ a.ceremonyId = id ∧ a.custodian ≠ "" ∧ a.custodian ≠ c.opener ∧
        ∃ e ∈ w.log, e.Evidences a := by
  intro a counted
  obtain ⟨inSlice, evidenced⟩ := mem_filter.mp counted
  obtain ⟨stored, own⟩ := mem_filter.mp inSlice
  obtain ⟨ofCeremony, evidenced⟩ := of_decide_eq_true evidenced
  obtain ⟨ceremony, -, named⟩ := findCeremony_slice hit
  have sound := kept.sound a stored
  obtain ⟨c', kept', sameId, -, other⟩ := sound.ceremony
  obtain rfl : c' = c :=
    ceremonyId_unique _ kept' ceremony ((sameId.trans ofCeremony).trans named.symm)
  refine ⟨of_decide_eq_true own, ofCeremony, sound.named, other.symm, ?_⟩
  exact sound.evidence.resolve_left fun bare => evidenced bare.1

theorem consume {τ id : Uuid} {want : String} {db : Database Row} {c : KeyCeremony}
    (ran : run .rowSecurity (consumeKeyCeremonyTx τ id want) w.model.db = .ok db)
    (hit : findCeremony (slice τ w.model.db.tables) id = some c) :
    Kept { w.commit db with consumed := w.consumed ++ [w.consumption τ id want c] } := by
  obtain ⟨c', hit', pending, purpose, quorum, left⟩ := consumed_ceremony ran
  obtain rfl := some.inj (hit'.symm.trans hit)
  obtain ⟨stored, own, named⟩ := findCeremony_slice hit
  have done : Kept (w.commit db) :=
    kept.commit (.completed _ (by rw [left, setTable_self])
      (by rw [left, setTable_of_ne _ (by decide)]))
  refine ⟨done.sound, done.snapshots, ?_, ?_, ?_⟩
  · refine forall_mem_snoc done.closed ?_
    refine ⟨completeCeremony c', ?_, named, by simp [completeCeremony]⟩
    rw [World.commit, left, setTable_self]
    exact mem_updateRows.mpr (.inl ⟨c', stored, by simp [own, named, pending], rfl⟩)
  · -- A ceremony consumed before is closed, and this one was pending.
    rw [map_append, nodup_append]
    refine ⟨kept.singleUse.once, nodup_singleton _, fun used old used' here => ?_⟩
    obtain ⟨past, consumed, rfl⟩ := mem_map.mp old
    obtain rfl := mem_singleton.mp here
    intro same
    obtain ⟨row, kept', sameId, status⟩ := kept.closed past consumed
    have row_eq : row = c' :=
      ceremonyId_unique _ kept' stored ((sameId.trans same).trans named.symm)
    exact status (row_eq ▸ pending)
  · refine forall_mem_snoc kept.singleUse.governed ?_
    exact ⟨⟨named, own⟩, purpose, evidencedApprovals_nodup _ _ _, quorum, kept.counted hit⟩

/-- The projection of an event, which may erase a tenant whose ceremonies are all pending. -/
theorem project {e : Event} (logged : e ∈ w.log)
    (pending : e.body = .tenantOffboarded → w.tenantPending e.tenantId) :
    Kept (w.settle (apply h now e w.model.db)) := by
  cases done : apply h now e w.model.db with
  | error fault => exact kept
  | ok db =>
    rcases apply_ceremonies logged done with change | ⟨erased, erasure⟩
    · exact kept.commit change
    · refine ⟨erasure.sound kept.sound, kept.snapshots, fun c spent => ?_, ?_⟩
      · refine erasure.closed (fun row stored own => ?_) (kept.closed c spent)
        have check := all_eq_true.mp (pending erased) row stored
        simpa [own] using check
      · exact ⟨kept.singleUse.once, kept.singleUse.governed⟩

theorem append (e : Event) : Kept { w with log := w.log ++ [e] } := by
  have sub : w.log ⊆ w.log ++ [e] := subset_append_left ..
  exact ⟨kept.sound.grow sub, fun s stored => (kept.snapshots s stored).grow sub, kept.closed,
    kept.singleUse.once, fun c spent => (kept.singleUse.governed c spent).grow sub⟩

end Kept

variable {h : Digest} {now : Time}

theorem step_kept {w w' : World} {a : Action} (done : w.settled a)
    (moved : w.step h now a = some w') (kept : Kept w) : Kept w' := by
  cases a with
  | append e =>
    cases moved
    exact kept.append _
  | project i =>
    obtain ⟨e, at_, rfl⟩ := map_eq_some_iff.mp moved
    refine kept.project (mem_of_getElem? at_) fun erases => ?_
    simpa [World.settled, at_, erases] using done
  | advance | abandonSnapshot =>
    cases moved
    exact kept.same rfl rfl rfl rfl
  | create τ id purpose opener threshold =>
    cases moved
    exact kept.settle fun db ran => change_opened ran
  | reserve τ id owner =>
    cases moved
    refine kept.settle fun db ran => ?_
    obtain ⟨⟨left, count, needed⟩, reserved, ⟨⟩⟩ := map_eq_ok.mp ran
    exact change_reserve reserved
  | attach i =>
    obtain ⟨⟨e, id, owner⟩, hit, rfl⟩ := map_eq_some_iff.mp moved
    obtain ⟨e', at_, body⟩ := bind_eq_some_iff.mp hit
    split at body
    next recs =>
      cases body
      refine kept.settle fun db ran => ?_
      obtain ⟨⟨left, count⟩, attached, ⟨⟩⟩ := map_eq_ok.mp ran
      exact change_attach (mem_of_getElem? at_) recs attached
    next => cases body
  | consume τ id want =>
    dsimp only [World.step] at moved
    split at moved
    next ran hit =>
      cases moved
      exact kept.consume ran hit
    next =>
      cases moved
      exact kept
  | rebuild =>
    dsimp only [World.step] at moved
    split at moved
    next rebuilt =>
      cases moved
      exact kept.rederive done (rebuild_sound rebuilt)
    next =>
      cases moved
      exact kept
  | beginSnapshot =>
    obtain ⟨-, ⟨⟩⟩ := ite_none_left_eq_some.mp moved
    exact kept.same rfl rfl rfl rfl
  | captureNext =>
    obtain ⟨p, holds, rfl⟩ := map_eq_some_iff.mp moved
    have unchanged : Kept { w with pass := none } := kept.same rfl rfl rfl rfl
    split
    next => exact unchanged
    next =>
      split
      next wrote =>
        obtain ⟨-, rfl⟩ := refuse_ok.mp wrote
        refine ⟨kept.sound, forall_mem_snoc (fun s stays => ?_) (capture_sound kept.sound),
          kept.closed, kept.singleUse.once, kept.singleUse.governed⟩
        exact kept.snapshots s (mem_of_mem_filter stays)
      next => exact unchanged
  | restore =>
    obtain ⟨-, moved⟩ := ite_none_left_eq_some.mp moved
    split at moved
    next model handled back =>
      cases moved
      rcases restoreFromSnapshot_sound back kept.snapshots with rfl | ⟨ahead, sound⟩
      · exact kept
      · have restores : w.restores := ahead
        refine kept.rederive ?_ sound
        simpa [World.settled, restores] using done
    next =>
      cases moved
      exact kept
  | lose =>
    cases moved
    exact kept.rederive done nofun

/-- In a run that derives the read model anew only while every ceremony is pending, and erases a
tenant only while its ceremonies are, no ceremony is consumed twice, and every consumption had
the purpose it was asked for and its quorum. -/
theorem ceremonies_single_use {as : List Action} {w : World}
    (run : Run (World.step h now) (fun w a => w.settled a) {} as w) : w.SingleUse :=
  (run.invariant (I := Kept) (fun _ _ _ settled moved kept => step_kept settled moved kept)
    Kept.init).singleUse

/-- A tenant opens a ceremony that takes one approval. -/
def ceremonyStarted : Event where
  id := "e1"
  tenantId := "t"
  sequence := 1
  time := 1
  timeSet := Nat.one_ne_zero
  body := .authority (.caCeremonyStarted "c" "root" 1 "alice")

/-- Another custodian approves it. -/
def ceremonyApproved : Event where
  id := "e2"
  tenantId := "t"
  sequence := 2
  time := 1
  timeSet := Nat.one_ne_zero
  body := .authority (.caCeremonyApproved "c" "bob")

def consumedOnce : List Action := [
  .append ceremonyStarted, .project 0, .append ceremonyApproved, .project 1,
  .consume "t" "c" "root"]

/-- A rebuild, then a ceremony from its opening to its use. -/
theorem consumedOnce_single_use : ∃ w,
    executeIf (World.step plainDigest 1) World.settled {} (.rebuild :: consumedOnce) = some w ∧
      w.consumed.map Consumption.id = ["c"] ∧ w.SingleUse := by
  have ran : executeIf (World.step plainDigest 1) World.settled {} (.rebuild :: consumedOnce) =
      some _ := rfl
  exact ⟨_, ran, rfl, ceremonies_single_use (run_of_executeIf ran)⟩

/-- The rebuild replays the opening and the approval, but no event tells it that the ceremony was
completed: it is pending again and is consumed a second time. -/
theorem rebuilt_ceremony_consumed_again : ∃ w, execute (World.step plainDigest 1) {}
        (consumedOnce ++ [.rebuild, .consume "t" "c" "root"]) = some w ∧
      w.consumed.map Consumption.id = ["c", "c"] ∧ ¬ w.SingleUse := by
  refine ⟨_, rfl, rfl, fun singleUse => ?_⟩
  exact absurd singleUse.once (by decide)

end Trustctl.Projections.Ceremony
