import Trustctl.Projections.Event

/-!
# The projector

`apply` projects one event in its own transaction; it is what a command, the tail worker
and the boot catch-up run.  `applyForRebuild` is its counterpart inside the one
transaction of a rebuild: it bypasses the row-level policies and erases an offboarded
tenant from the read model only.

* `project`, `projectCatchUp` and `rebuild` replay a log;
* `apply_idempotent_iff`: where an application succeeded, a second one succeeds and changes
  nothing exactly if the event is replayable on the state the first one met.
-/

namespace Trustctl.Projections

open Store Relational Systems

/-! ## One event -/

/-- Run the transaction of a sink, or raise the error the sink was refused with. -/
def perform {τ : Uuid} (s : Session) (sink : Except ApplyError (Sink τ)) (db : Database Row) :
    Except (Fault ApplyError) (Database Row) :=
  match sink with
  | .ok p => run s p db
  | .error err => .error (.raised err)

def registerTenant (e : Event) (name : String) : Except ApplyError (Sink e.tenantId) := do
  validateSchemaVersion e
  return upsertTenant e.tenantId name e.sequence

/-- A tenant event whose data does not decode. -/
def refuseTenantEvent (e : Event) (type : String) : Except ApplyError (Sink e.tenantId) := do
  validateSchemaVersion e
  .error (.decode type)

/-- The two types that `Apply` handles before it opens a tenant's transaction. -/
def tenantEventTypes : List String := ["tenant.registered", "tenant.offboarded"]

def apply (h : Digest) (now : Time) (e : Event) (db : Database Row) :
    Except (Fault ApplyError) (Database Row) :=
  match e.body with
  | .tenantRegistered name => perform .bypass (registerTenant e name) db
  | .tenantOffboarded =>
    perform .rowSecurity (do validateSchemaVersion e; offboardTenant e.tenantId) db
  | .raw type =>
    if tenantEventTypes.contains type then perform .bypass (refuseTenantEvent e type) db
    else perform .rowSecurity (applyTx h now e) db
  | _ => perform .rowSecurity (applyTx h now e) db

def applyForRebuild (h : Digest) (now : Time) (e : Event) (db : Database Row) :
    Except (Fault ApplyError) (Database Row) :=
  match e.body with
  | .tenantRegistered name => perform .bypass (registerTenant e name) db
  | .tenantOffboarded =>
    perform .bypass (do validateSchemaVersion e; deleteTenantReadModelTx e.tenantId) db
  | .raw type =>
    if tenantEventTypes.contains type then perform .bypass (refuseTenantEvent e type) db
    else perform .bypass (applyTx h now e) db
  | _ => perform .bypass (applyTx h now e) db

/-! ## Logs -/

/-- `Project`: apply every event, in log order. -/
def project (h : Digest) (now : Time) : List Event → Database Row →
    Except (Fault ApplyError) (Database Row)
  | [], db => .ok db
  | e :: rest, db => do project h now rest (← apply h now e db)

/-- The replay of a log inside the transaction of a rebuild. -/
def projectForRebuild (h : Digest) (now : Time) : List Event → Database Row →
    Except (Fault ApplyError) (Database Row)
  | [], db => .ok db
  | e :: rest, db => do projectForRebuild h now rest (← applyForRebuild h now e db)

/-- The read model and the high-water mark of the events it covers. -/
structure ReadModel where
  db : Database Row
  checkpoint : Nat

def ReadModel.advance (m : ReadModel) (seq : Nat) : ReadModel :=
  { m with checkpoint := max m.checkpoint seq }

/-- How many events `ProjectCatchUp` applies between two advances of the checkpoint. -/
def checkpointEvery : Nat := 256

/-- The loop of `ProjectCatchUp`: `last` is the last sequence applied, `since` the number of
events since the checkpoint moved.  A failure keeps what was applied before it. -/
def catchUpFrom (h : Digest) (now : Time) (last since : Nat) :
    List Event → ReadModel → ReadModel × Option (Fault ApplyError)
  | [], m => (if 0 < last then m.advance last else m, none)
  | e :: rest, m =>
    match apply h now e m.db with
    | .error fault => (m, some fault)
    | .ok db =>
      if checkpointEvery ≤ since + 1 then
        catchUpFrom h now e.sequence 0 rest (ReadModel.advance { m with db } e.sequence)
      else catchUpFrom h now e.sequence (since + 1) rest { m with db }

/-- `ProjectCatchUp`: replay the events after the checkpoint. -/
def projectCatchUp (h : Digest) (now : Time) (log : List Event) (m : ReadModel) :
    ReadModel × Option (Fault ApplyError) :=
  catchUpFrom h now 0 0 (log.filter fun e => m.checkpoint < e.sequence) m

def lastSequence (log : List Event) : Nat := (log.getLast?.map fun e => e.sequence).getD 0

/-- `Rebuild`: empty the read model and replay the whole log, all or nothing. -/
def rebuild (h : Digest) (now : Time) (log : List Event) (m : ReadModel) :
    Except (Fault ApplyError) ReadModel := do
  let db ← projectForRebuild h now log (truncateReadModel m.db)
  return { db, checkpoint := lastSequence log }

/-! ## Applying an event twice -/

variable {h : Digest} {now now' : Time} {e : Event} {s : Session} {db db' : Database Row}

theorem perform_ok {τ : Uuid} {sink : Except ApplyError (Sink τ)} :
    perform s sink db = .ok db' ↔ ∃ p, sink = .ok p ∧ run s p db = .ok db' := by
  cases sink with
  | ok | error => simp [perform]

/-- What a successful application of an event ran: the registration of the tenant, its erasure,
or the transaction of `ApplyTx`. -/
inductive Applied (h : Digest) (now : Time) (e : Event) (db db' : Database Row) : Prop
  | registered (name : String) (body : e.body = .tenantRegistered name)
      (ran : run .bypass (upsertTenant e.tenantId name e.sequence) db = .ok db')
  | offboarded (p : Sink e.tenantId) (body : e.body = .tenantOffboarded)
      (sunk : offboardTenant e.tenantId = .ok p) (ran : run .rowSecurity p db = .ok db')
  | projected (p : Sink e.tenantId) (sunk : applyTx h now e = .ok p)
      (ran : run .rowSecurity p db = .ok db')

theorem apply_cases (done : apply h now e db = .ok db') : Applied h now e db db' := by
  unfold apply at done
  split at done
  next name body =>
    obtain ⟨p, sunk, ran⟩ := perform_ok.mp done
    obtain ⟨-, -, ⟨⟩⟩ := bind_ok.mp sunk
    exact .registered name body ran
  next body =>
    obtain ⟨p, sunk, ran⟩ := perform_ok.mp done
    obtain ⟨-, -, offboarded⟩ := bind_ok.mp sunk
    exact .offboarded p body offboarded ran
  next type body =>
    split at done
    · obtain ⟨p, refused, -⟩ := perform_ok.mp done
      obtain ⟨-, -, ⟨⟩⟩ := bind_ok.mp refused
    · obtain ⟨p, sunk, ran⟩ := perform_ok.mp done
      exact .projected p sunk ran
  next =>
    obtain ⟨p, sunk, ran⟩ := perform_ok.mp done
    exact .projected p sunk ran

/-- A sink whose transaction replays can be performed twice. -/
theorem perform_again {τ : Uuid} {sink : Except ApplyError (Sink τ)}
    (replays : ∀ p, sink = .ok p → Replays p p) (performed : perform s sink db = .ok db') :
    perform s sink db' = .ok db' := by
  obtain ⟨p, sunk, ran⟩ := perform_ok.mp performed
  exact perform_ok.mpr ⟨p, sunk, replays p sunk ran⟩

theorem perform_applyTx_again_iff (performed : perform s (applyTx h now e) db = .ok db') :
    perform s (applyTx h now' e) db' = .ok db' ↔ e.Replayable db.tables := by
  obtain ⟨p, sunk, ran⟩ := perform_ok.mp performed
  obtain ⟨q, again⟩ : ∃ q, applyTx h now' e = .ok q := applyTx_clock sunk
  rw [perform_ok]
  constructor
  · rintro ⟨q', again', ran'⟩
    cases again.symm.trans again'
    exact (applyTx_replay_iff sunk again ran).mp ran'
  · intro replayable
    exact ⟨q, again, (applyTx_replay_iff sunk again ran).mpr replayable⟩

/-- The database clock may have moved between the two applications. -/
theorem apply_again_iff (done : apply h now e db = .ok db') :
    apply h now' e db' = .ok db' ↔ e.Replayable db.tables := by
  unfold apply at done ⊢
  cases body : e.body with
  | tenantRegistered name =>
    rw [body] at done
    have replayable : e.Replayable db.tables := by simp [Event.Replayable, body]
    refine iff_of_true (perform_again (fun p sunk => ?_) done) replayable
    obtain ⟨-, -, ⟨⟩⟩ := bind_ok.mp sunk
    exact Stable.replays (stable_upsert (by simp) rfl (fun _ h => h) fun _ _ => rfl)
  | tenantOffboarded =>
    rw [body] at done
    have replayable : e.Replayable db.tables := by simp [Event.Replayable, body]
    refine iff_of_true (perform_again (fun p sunk => ?_) done) replayable
    obtain ⟨-, -, offboarded⟩ := bind_ok.mp sunk
    exact offboardTenant_replays offboarded
  | raw type =>
    rw [body] at done
    by_cases tenantType : tenantEventTypes.contains type
    · simp only [tenantType, if_true] at done
      obtain ⟨p, refused, -⟩ := perform_ok.mp done
      obtain ⟨-, -, ⟨⟩⟩ := bind_ok.mp refused
    · simp only [tenantType] at done ⊢
      exact perform_applyTx_again_iff done
  | _ =>
    rw [body] at done
    exact perform_applyTx_again_iff done

/-- The second application of an event succeeds and leaves every table as the first one left
it exactly when the event is replayable: it is no decision on an access request or, unless it
decides nothing, on a review item, and a patch or a target binding meets a JSON object. -/
theorem apply_idempotent_iff (applied : apply h now e db = .ok db') :
    (∃ db'', apply h now' e db' = .ok db'' ∧ ∀ t, db''.tables t = db'.tables t) ↔
      e.Replayable db.tables := by
  have again_iff : apply h now' e db' = .ok db' ↔ e.Replayable db.tables :=
    apply_again_iff applied
  rw [← again_iff]
  constructor
  · rintro ⟨db'', again, same⟩
    obtain rfl : db'' = db' := Database.ext (funext same)
    exact again
  · intro again
    exact ⟨db', again, fun _ => rfl⟩

/-- The digests of the fixed runs. -/
def plainDigest : Digest := ⟨id, id, id⟩

/-- A tenant asks for an access change that takes two approvals. -/
def accessRequested : Event where
  id := "e1"
  tenantId := "t"
  sequence := 1
  time := 1
  timeSet := Nat.one_ne_zero
  body := .governance (.accessChangeRequestCreated {
    tenantId := "t", id := "r", requestedAction := "grant", requesterSubject := "alice"
    nhiId := "n", nhiKind := "service", displayName := "n", ownerRef := "", resource := "db"
    entitlement := "read", changeRef := "c", changeSystem := "", changeUrl := "", risk := ""
    reason := "need", evidenceRefs := [], status := "pending", requiredApprovals := 2
    createdAt := 1, updatedAt := 1 })

def accessApproved : Event where
  id := "e2"
  tenantId := "t"
  sequence := 2
  time := 1
  timeSet := Nat.one_ne_zero
  body := .governance (.accessChangeRequestDecided "r" "approved" "bob" "" [] 2)

/-- An access request is applied twice. -/
theorem accessRequested_idempotent : ∃ db',
    apply plainDigest 1 accessRequested .empty = .ok db' ∧
      ∃ db'', apply plainDigest 2 accessRequested db' = .ok db'' ∧
        ∀ t, db''.tables t = db'.tables t := by
  have done : apply plainDigest 1 accessRequested .empty = .ok _ := rfl
  exact ⟨_, done, (apply_idempotent_iff done).mpr trivial⟩

/-- The approver has already decided when the decision is applied again. -/
theorem accessApproved_not_idempotent : ∃ db db',
    project plainDigest 1 [accessRequested] .empty = .ok db ∧
      apply plainDigest 1 accessApproved db = .ok db' ∧
      apply plainDigest 1 accessApproved db' = .error (.raised (.store
        "access change request decision already recorded: bob already decided request r")) :=
  ⟨_, _, rfl, rfl, rfl⟩

end Trustctl.Projections
