import Trustctl.Projections.Profiles
import Trustctl.Systems.Run
import Trustctl.Systems.Table

/-!
# Profile edits under dual control

A profile edit that needs approval is parked in a map of the process.  `ApproveProfileEdit` takes
the entry out of the map, works on its copy without the lock and writes the copy back; the version
it creates is numbered under the projection lock.  `CreateProfile` looks at the active profile
before it takes that lock.  Nothing reads the time at which a request expires.

* `Kept.step`: what a step keeps, where no two approvals of one request overlap, no version of a
  profile is created between the check and the creation of another, and none after its request
  expired;
* `profile_edits_approved`: then every request leads to at most one version, every such version
  follows an approval by someone else, and no other version replaces one that requires approval;
* `profile_edit_unguarded`: two approvals that overlap create two versions, an approval after the
  expiry creates one, and an edit that passed the check replaces a profile that has come to require
  approval.
-/

namespace Trustctl.Approvals.ProfileEdits

open Store Relational Projections List Option Systems Systems.Table

/-! ## Requests -/

/-- `approval.State`. -/
inductive RequestState
  | awaitingApproval | approved | denied | issued | expired
deriving DecidableEq

structure Approval where
  approver : String
  decision : String
  at_ : Time
deriving DecidableEq

/-- `approval.Request`, without its kind and its payload, which is the spec of the entry. -/
structure Request where
  id : Uuid
  tenantId : Uuid
  resource : String
  requester : String
  requiredApprovals : Nat := 1
  approvals : List Approval := []
  state : RequestState := .awaitingApproval
  credentialId : Uuid := ""
  createdAt : Time
  expiresAt : Time

/-- `approvalProfileEditRequest`. -/
structure Entry where
  request : Request
  name : String
  spec : Json

def profileEditApprovalKey (tenantId requestId : String) : String := tenantId ++ "|" ++ requestId

def Entry.key (e : Entry) : String := profileEditApprovalKey e.request.tenantId e.request.id

/-- `24 * time.Hour`. -/
def approvalWindow : Nat := 24 * 60 * 60 * 1000000000

/-! ## The gate -/

/-- The fields of a spec, one after the other, into the probe of `profileSpecRequiresApproval`. -/
def probeRequiresApproval (probe : Bool) : List (String × Json) → Except String Bool
  | [] => .ok probe
  | (key, value) :: rest =>
    if Unicode.equalFold key.toList "requires_approval".toList then
      match value with
      | .bool b => probeRequiresApproval b rest
      | .null => probeRequiresApproval probe rest
      | _ => .error "orchestrator: decode profile approval policy"
    else probeRequiresApproval probe rest

def profileSpecRequiresApproval : Json → Except String Bool
  | .obj fields => probeRequiresApproval false fields
  | .null => .ok false
  | _ => .error "orchestrator: decode profile approval policy"

def profileEditRequiresApproval (tables : Tables Row) (τ : Uuid) (name : String) (spec : Json) :
    Except String Bool := do
  let proposed ← profileSpecRequiresApproval spec
  match getActiveProfile tables τ name with
  | none => return proposed
  | some active =>
    let current ← profileSpecRequiresApproval active.spec
    return current || proposed

def gated (spec : Json) : Bool :=
  match profileSpecRequiresApproval spec with
  | .ok requires => requires
  | .error _ => false

/-! ## Calls -/

/-- A call that goes on without the lock of the map: one that creates a version, one that creates
the version of an approved request, and one that writes its copy of the entry back. -/
inductive Phase
  | creating (tenantId : Uuid) (name : String) (spec : Json) (actor : String)
  | approving (entry : Entry) (approval : Approval) (actor : String)
  | saving (entry : Entry)

/-- The request that a call works on. -/
def Phase.key? : Phase → Option String
  | .creating .. => none
  | .approving entry .. => some entry.key
  | .saving entry => some entry.key

/-- The call passed the check of `CreateProfile` for the profile. -/
def Phase.creates (τ : Uuid) (name : String) : Phase → Bool
  | .creating tenantId name' .. => tenantId = τ ∧ name' = name
  | _ => false

/-- The approval that a version follows. -/
structure Origin where
  key : String
  requester : String
  approver : String
  approvedAt : Time
  expiresAt : Time
deriving DecidableEq

/-- A version that became active: the spec it replaced, the approval it follows, and when. -/
structure Version where
  id : Uuid
  tenantId : Uuid
  name : String
  spec : Json
  replaced : Option Json
  origin : Option Origin
  createdAt : Time

/-- The read model, the map of requests, the calls, the keys drawn, events that are appended and not
projected, the versions that became active, and the clock. -/
structure World where
  db : Database Row
  entries : Table String Entry := []
  calls : Table Nat Phase := []
  drawn : List String := []
  unprojected : List (Event × Option Origin) := []
  versions : List Version := []
  clock : Time := 1
  clockSet : clock ≠ 0 := by decide

/-- How the append and the projection of a version end. -/
inductive Outcome
  | projected | failed | unprojected
deriving DecidableEq

/-- What `createProfileVersion` draws. -/
structure Draw where
  id : Uuid
  eventId : String := ""
  sequence : Nat := 1
  outcome : Outcome := .projected

/-- `createProfileVersion`: the event. -/
def World.versionEvent (w : World) (τ : Uuid) (name : String) (spec : Json) (actor : String)
    (d : Draw) : Event where
  id := d.eventId
  tenantId := τ
  sequence := d.sequence
  time := w.clock
  timeSet := w.clockSet
  schemaVersion := 2
  body := .inventory (.profileVersioned (nextProfileVersion w.db.tables τ name ≤ 1) {
    id := d.id, name, version := nextProfileVersion w.db.tables τ name, spec := some spec
    active := true, createdBy := actor })

def World.activate (h : Digest) (now : Time) (w : World) (e : Event) (origin : Option Origin) :
    Option World :=
  match e.body with
  | .inventory (.profileVersioned _ pl) =>
    (apply h now e w.db).toOption.map fun db => { w with
      db
      versions := w.versions ++ [{
        id := pl.id, tenantId := e.tenantId, name := pl.name, spec := jsonbOrEmpty pl.spec
        replaced := (getActiveProfile w.db.tables e.tenantId pl.name).map ProfileRecord.spec
        origin, createdAt := w.clock }] }
  | _ => none

/-- `createProfileVersion`, and whether it succeeds. -/
def World.createProfileVersion (h : Digest) (now : Time) (w : World) (τ : Uuid) (name : String)
    (spec : Json) (actor : String) (origin : Option Origin) (d : Draw) : Option (World × Bool) :=
  let e := w.versionEvent τ name spec actor d
  match d.outcome with
  | .projected => (w.activate h now e origin).map (·, true)
  | .failed => some (w, false)
  | .unprojected => some ({ w with unprojected := w.unprojected ++ [(e, origin)] }, false)

/-- The approval behind a version of the entry. -/
def Entry.origin (e : Entry) (a : Approval) : Origin :=
  ⟨e.key, e.request.requester, a.approver, a.at_, e.request.expiresAt⟩

/-- The entry that `requestProfileEditApproval` parks. -/
def World.request (w : World) (τ : Uuid) (name : String) (spec : Json) (requester : String)
    (id : Uuid) : Entry where
  request := {
    id, tenantId := τ, resource := "profile:" ++ name, requester, createdAt := w.clock
    expiresAt := w.clock + approvalWindow }
  name := name
  spec := spec

/-- A call begins, goes on with `createProfileVersion` or writes its entry back; the tail worker
projects an event; the process restarts; time passes. -/
inductive Action
  | createProfile (call : Nat) (τ : Uuid) (name : String) (spec : Json) (actor : Option String)
      (requestId : Uuid)
  | approveProfileEdit (call : Nat) (τ requestId approver : String) (actor : Option String)
  | version (call : Nat) (d : Draw)
  | save (call : Nat)
  | tail
  | restart
  | tick (n : Nat)

section Steps

variable (validateSpec : Json → Bool) (h : Digest) (now : Time)

/-- `CreateProfile`, up to `createProfileVersion`. -/
def World.createProfile (w : World) (call : Nat) (τ : Uuid) (name : String) (spec : Json)
    (actor : Option String) (requestId : Uuid) : Option World :=
  if validateSpec spec then
    match profileEditRequiresApproval w.db.tables τ name spec with
    | .error _ => some w
    | .ok false => some { w with calls := w.calls.put call (.creating τ name spec (actor.getD "")) }
    | .ok true =>
      let key := profileEditApprovalKey τ requestId
      if actor.getD "" = "" then some w
      else if key ∈ w.drawn then none
      else some { w with
        entries := w.entries.put key (w.request τ name spec (actor.getD "") requestId)
        drawn := key :: w.drawn }
  else some w

/-- `ApproveProfileEdit`, up to `createProfileVersion`. -/
def World.approveProfileEdit (w : World) (call : Nat) (τ requestId approver : String)
    (actor : Option String) : World :=
  let approver := if approver = "" then actor.getD "" else approver
  if approver = "" then w
  else
    match w.entries.get (profileEditApprovalKey τ requestId) with
    | none => w
    | some entry =>
      if entry.request.state = .issued ∨ entry.request.state = .denied then w
      else if approver = entry.request.requester then w
      else if entry.request.approvals.any fun a => a.approver = approver ∧
        a.decision = "approve" then w
      else
        let approval : Approval := ⟨approver, "approve", w.clock⟩
        let entry := { entry with request := { entry.request with
          approvals := entry.request.approvals ++ [approval], state := .approved } }
        { w with calls := w.calls.put call (.approving entry approval (actor.getD "")) }

def World.version (w : World) (call : Nat) (d : Draw) : Option World :=
  match w.calls.get call with
  | some (.creating τ name spec actor) => do
    let (w, _) ← w.createProfileVersion h now τ name spec actor none d
    return { w with calls := w.calls.drop call }
  | some (.approving entry approval actor) => do
    let (w, ok) ← w.createProfileVersion h now entry.request.tenantId entry.name entry.spec actor
      (some (entry.origin approval)) d
    let entry := if ok then { entry with request := { entry.request with
      state := .issued, credentialId := d.id } } else entry
    return { w with calls := w.calls.put call (.saving entry) }
  | _ => none

def World.step (w : World) : Action → Option World
  | .createProfile call τ name spec actor requestId =>
    if (w.calls.get call).isSome then none
    else w.createProfile validateSpec call τ name spec actor requestId
  | .approveProfileEdit call τ requestId approver actor =>
    if (w.calls.get call).isSome then none
    else some (w.approveProfileEdit call τ requestId approver actor)
  | .version call d => w.version h now call d
  | .save call =>
    match w.calls.get call with
    | some (.saving entry) => some { w with
        entries := w.entries.put entry.key entry, calls := w.calls.drop call }
    | _ => none
  | .tail =>
    match w.unprojected with
    | [] => none
    | (e, origin) :: rest => World.activate h now { w with unprojected := rest } e origin
  | .restart => some { w with entries := [], calls := [] }
  | .tick n => some { w with
      clock := w.clock + n
      clockSet := fun zero => w.clockSet (Nat.eq_zero_of_add_eq_zero_right zero) }

end Steps

/-- No approval of the request is under way when another begins, no `CreateProfile` of the profile
has passed its check when a version is created, the version is projected or not appended, and its
request has not expired. -/
def orderly (w : World) : Action → Bool
  | .approveProfileEdit _ τ requestId _ _ =>
    w.calls.all fun c => c.2.key? ≠ some (profileEditApprovalKey τ requestId)
  | .version call d =>
    d.outcome ≠ .unprojected &&
    match w.calls.get call with
    | some (.creating τ name _ _) => w.calls.all fun c => c.1 = call || !c.2.creates τ name
    | some (.approving entry _ _) =>
      (w.calls.all fun c => !c.2.creates entry.request.tenantId entry.name) &&
        w.clock ≤ entry.request.expiresAt
    | _ => true
  | _ => true

variable {validateSpec : Json → Bool} {h : Digest} {now : Time} {w w' : World} {τ : Uuid}
  {name : String}

/-- The world after a version became active. -/
structure Created (w w' : World) (v : Version) : Prop where
  versions : w'.versions = w.versions ++ [v]
  calls : w'.calls = w.calls
  entries : w'.entries = w.entries
  drawn : w'.drawn = w.drawn
  unprojected : w'.unprojected = w.unprojected
  clock : w'.clock = w.clock
  createdAt : v.createdAt = w.clock
  replaced : v.replaced = (getActiveProfile w.db.tables v.tenantId v.name).map ProfileRecord.spec
  active : ∃ r, getActiveProfile w'.db.tables v.tenantId v.name = some r ∧ r.id = v.id ∧
    r.spec = v.spec
  others : ∀ τ name, ¬ (v.tenantId = τ ∧ v.name = name) →
    getActiveProfile w'.db.tables τ name = getActiveProfile w.db.tables τ name

variable {spec : Json} {actor : String} {d : Draw}

/-- A version that is not left unprojected is created, or nothing happens. -/
theorem createProfileVersion_cases {origin : Option Origin} {ok : Bool}
    (done : d.outcome ≠ .unprojected)
    (ran : w.createProfileVersion h now τ name spec actor origin d = some (w', ok)) :
    (ok = false ∧ w' = w) ∨
      (ok ∧ ∃ v, Created w w' v ∧ v.tenantId = τ ∧ v.name = name ∧ v.origin = origin) := by
  unfold World.createProfileVersion at ran
  split at ran
  next =>
    obtain ⟨next, activated, same⟩ := map_eq_some_iff.mp ran
    cases same
    obtain ⟨db, proj, rfl⟩ := map_eq_some_iff.mp activated
    obtain ⟨active, rest⟩ := apply_nextVersion rfl
      (by simp [World.versionEvent, Envelope.version]) rfl rfl (toOption_eq_some.mp proj)
    exact .inr ⟨rfl, _, ⟨rfl, rfl, rfl, rfl, rfl, rfl, rfl, rfl, active, rest⟩, rfl, rfl, rfl⟩
  next =>
    cases ran
    exact .inl ⟨rfl, rfl⟩
  next unprojected => exact absurd unprojected done

/-! ## Versions and approvals -/

/-- A version that follows an approval follows one of another subject, in time; one without an
approval replaced none that requires it. -/
structure Version.Sound (v : Version) : Prop where
  approved : ∀ o, v.origin = some o →
    o.approver ≠ o.requester ∧ o.approvedAt ≤ v.createdAt ∧ v.createdAt ≤ o.expiresAt
  guarded : v.replaced.any gated → v.origin ≠ none

/-- The active version of a profile requires approval. -/
def World.requires (w : World) (τ : Uuid) (name : String) : Bool :=
  ((getActiveProfile w.db.tables τ name).map ProfileRecord.spec).any gated

/-- The versions are sound and cover the active profiles; the calls under way are approved by
another subject or passed a check that still holds. -/
structure Guarded (w : World) : Prop where
  settled : w.unprojected = []
  sound : ∀ v ∈ w.versions, v.Sound
  active : ∀ τ name r, getActiveProfile w.db.tables τ name = some r →
    ∃ v ∈ w.versions, v.tenantId = τ ∧ v.name = name ∧ v.id = r.id ∧ v.spec = r.spec
  approved : ∀ i e a actor, w.calls.get i = some (.approving e a actor) →
    a.approver ≠ e.request.requester ∧ a.at_ ≤ w.clock
  ungated : ∀ i τ name spec actor, w.calls.get i = some (.creating τ name spec actor) →
    w.requires τ name = false

/-- The check of `CreateProfile` looks at the active version. -/
theorem requires_of_ungated
    (check : profileEditRequiresApproval w.db.tables τ name spec = .ok false) :
    w.requires τ name = false := by
  obtain ⟨proposed, -, rest⟩ := bind_ok.mp check
  unfold World.requires
  cases active : getActiveProfile w.db.tables τ name with
  | none => rfl
  | some r =>
    rw [active] at rest
    obtain ⟨current, read, same⟩ := bind_ok.mp rest
    have neither := Except.ok.inj same
    rw [map_some, any_some, gated, read]
    exact (Bool.or_eq_false_iff.mp neither).1

/-- A version is created, where no call that is left has passed the check for its profile. -/
theorem Guarded.created {v : Version} {calls : Table Nat Phase} (guarded : Guarded w)
    (made : Created w w' v) (sound : v.Sound) (left : ∀ i p, calls.get i = some p →
      (w.calls.get i = some p ∧ p.creates v.tenantId v.name = false) ∨ ∃ e, p = .saving e) :
    Guarded { w' with calls } where
  settled := made.unprojected.trans guarded.settled
  sound := by
    rw [made.versions]
    exact forall_mem_snoc guarded.sound sound
  active τ name r found := by
    rw [made.versions]
    by_cases here : v.tenantId = τ ∧ v.name = name
    · obtain ⟨rfl, rfl⟩ := here
      obtain ⟨r', active, id, spec⟩ := made.active
      cases found.symm.trans active
      exact ⟨v, mem_append_right _ (mem_singleton.mpr rfl), rfl, rfl, id.symm, spec.symm⟩
    · rw [made.others τ name here] at found
      obtain ⟨u, mem, rest⟩ := guarded.active τ name r found
      exact ⟨u, mem_append_left _ mem, rest⟩
  approved i e a actor call := by
    rcases left i _ call with ⟨old, -⟩ | ⟨_, same⟩
    · exact made.clock ▸ guarded.approved i e a actor old
    · cases same
  ungated i τ name spec actor call := by
    rcases left i _ call with ⟨old, out⟩ | ⟨_, same⟩
    · rw [World.requires, made.others τ name]
      · exact guarded.ungated i τ name spec actor old
      · exact fun same => of_decide_eq_false out ⟨same.1.symm, same.2.symm⟩
    · cases same

theorem Guarded.init {db : Database Row} (unused : db.tables .certificateProfiles = []) :
    Guarded { db := db } where
  settled := rfl
  sound := by
    intro v mem
    cases mem
  active := by
    intro τ name r hit
    rw [getActiveProfile, unused] at hit
    cases hit
  approved := by
    intro i e a actor call
    cases call
  ungated := by
    intro i τ name spec actor call
    cases call

/-- Steps that change neither the read model nor the versions, with the calls they leave. -/
theorem Guarded.calls (guarded : Guarded w) (db : w'.db = w.db)
    (versions : w'.versions = w.versions)
    (unprojected : w'.unprojected = w.unprojected) (clock : w.clock ≤ w'.clock)
    (calls : ∀ i p, w'.calls.get i = some p → w.calls.get i = some p ∨
      (∃ e a actor, p = .approving e a actor ∧ a.approver ≠ e.request.requester ∧
        a.at_ ≤ w'.clock) ∨
      (∃ τ name spec actor, p = .creating τ name spec actor ∧ w.requires τ name = false) ∨
      ∃ e, p = .saving e) : Guarded w' where
  settled := unprojected.trans guarded.settled
  sound := by
    rw [versions]
    exact guarded.sound
  active := by
    rw [db, versions]
    exact guarded.active
  approved := by
    intro i e a actor call
    rcases calls i _ call with old | ⟨e', a', actor', same, approved⟩ | ⟨_, _, _, _, same, -⟩
      | ⟨_, same⟩
    · obtain ⟨other, time⟩ := guarded.approved i e a actor old
      exact ⟨other, Nat.le_trans time clock⟩
    · cases same
      exact approved
    · cases same
    · cases same
  ungated := by
    intro i τ name spec actor call
    rw [World.requires, db]
    rcases calls i _ call with old | ⟨_, _, _, same, -⟩ | ⟨_, _, _, _, same, ungated⟩ | ⟨_, same⟩
    · exact guarded.ungated i τ name spec actor old
    · cases same
    · cases same
      exact ungated
    · cases same

/-! ### Steps -/

variable {call : Nat}

/-- What `CreateProfile` does before it creates a version. -/
theorem createProfile_cases {actor : Option String} {rid : Uuid}
    (moved : w.createProfile validateSpec call τ name spec actor rid = some w') :
    w' = w ∨ (w.requires τ name = false ∧
        w' = { w with calls := w.calls.put call (.creating τ name spec (actor.getD "")) }) ∨
      (profileEditApprovalKey τ rid ∉ w.drawn ∧ w' = { w with
        entries := w.entries.put (profileEditApprovalKey τ rid)
          (w.request τ name spec (actor.getD "") rid)
        drawn := profileEditApprovalKey τ rid :: w.drawn }) := by
  unfold World.createProfile at moved
  split at moved
  next =>
    split at moved
    next =>
      cases moved
      exact .inl rfl
    next check =>
      cases moved
      exact .inr (.inl ⟨requires_of_ungated check, rfl⟩)
    next =>
      split at moved
      next =>
        cases moved
        exact .inl rfl
      next =>
        obtain ⟨fresh, ⟨⟩⟩ := ite_none_left_eq_some.mp moved
        exact .inr (.inr ⟨fresh, rfl⟩)
  next =>
    cases moved
    exact .inl rfl

/-- What `ApproveProfileEdit` does before it creates a version. -/
theorem approveProfileEdit_cases (w : World) (call : Nat) (τ rid approver : String)
    (actor : Option String) :
    w.approveProfileEdit call τ rid approver actor = w ∨
      ∃ entry entry' approval, w.entries.get (profileEditApprovalKey τ rid) = some entry ∧
        entry.request.state ≠ .issued ∧ entry'.key = entry.key ∧
        approval.approver ≠ entry'.request.requester ∧ approval.at_ = w.clock ∧
        w.approveProfileEdit call τ rid approver actor =
          { w with calls := w.calls.put call (.approving entry' approval (actor.getD "")) } := by
  unfold World.approveProfileEdit
  dsimp only
  generalize (if approver = "" then actor.getD "" else approver) = subject
  split
  next => exact .inl rfl
  next =>
    split
    next => exact .inl rfl
    next entry hit =>
      split
      next => exact .inl rfl
      next open_ =>
        split
        next => exact .inl rfl
        next other =>
          split
          next => exact .inl rfl
          next =>
            refine .inr ⟨entry, _, _, hit, (not_or.mp open_).1, ?_, ?_, ?_, rfl⟩
            · rfl
            · exact other
            · rfl

theorem version_cases (done : d.outcome ≠ .unprojected) (moved : w.version h now call d = some w') :
    (∃ τ name spec actor mid, w.calls.get call = some (.creating τ name spec actor) ∧
      w' = { mid with calls := mid.calls.drop call } ∧ (mid = w ∨
        ∃ v, Created w mid v ∧ v.tenantId = τ ∧ v.name = name ∧ v.origin = none)) ∨
    ∃ entry approval actor mid entry', w.calls.get call = some (.approving entry approval actor) ∧
      w' = { mid with calls := mid.calls.put call (.saving entry') } ∧ entry'.key = entry.key ∧
      (mid = w ∨ (entry'.request.state = .issued ∧
        ∃ v, Created w mid v ∧ v.tenantId = entry.request.tenantId ∧ v.name = entry.name ∧
          v.origin = some (entry.origin approval))) := by
  unfold World.version at moved
  split at moved
  next τ name spec actor hit =>
    obtain ⟨⟨mid, ok⟩, ran, same⟩ := bind_eq_some_iff.mp moved
    cases same
    left
    refine ⟨τ, name, spec, actor, mid, hit, rfl, ?_⟩
    rcases createProfileVersion_cases done ran with ⟨-, same⟩ | ⟨-, made⟩
    · exact .inl same
    · exact .inr made
  next entry approval actor hit =>
    obtain ⟨⟨mid, ok⟩, ran, same⟩ := bind_eq_some_iff.mp moved
    cases same
    right
    refine ⟨entry, approval, actor, mid, _, hit, rfl, ?_, ?_⟩
    · cases ok <;> rfl
    · rcases createProfileVersion_cases done ran with ⟨-, same⟩ | ⟨rfl, made⟩
      · exact .inl same
      · exact .inr ⟨rfl, made⟩
  next => cases moved

/-- What the condition says about a version that is created. -/
theorem orderly_version (meets : orderly w (.version call d)) : d.outcome ≠ .unprojected ∧
      (∀ τ name spec actor, w.calls.get call = some (.creating τ name spec actor) →
        ∀ i p, w.calls.get i = some p → i ≠ call → p.creates τ name = false) ∧
      ∀ e a actor, w.calls.get call = some (.approving e a actor) → w.clock ≤ e.request.expiresAt ∧
          ∀ i p, w.calls.get i = some p → p.creates e.request.tenantId e.name = false := by
  unfold orderly at meets
  rw [Bool.and_eq_true, decide_eq_true_eq] at meets
  refine ⟨meets.1, fun τ name spec actor hit i p other apart => ?_, fun e a actor hit => ?_⟩
  · have all := meets.2
    rw [hit] at all
    have here := all_eq_true.mp all (i, p) (mem_of_get other)
    simpa [apart] using here
  · have all := meets.2
    rw [hit] at all
    obtain ⟨alone, inTime⟩ := Bool.and_eq_true _ _ ▸ all
    refine ⟨of_decide_eq_true inTime, fun i p other => ?_⟩
    simpa using all_eq_true.mp alone (i, p) (mem_of_get other)

theorem Guarded.version (guarded : Guarded w) (meets : orderly w (.version call d))
    (moved : w.version h now call d = some w') :
    Guarded w' := by
  obtain ⟨done, alone, inTime⟩ := orderly_version meets
  rcases version_cases done moved with ⟨τ, name, spec, actor, mid, hit, rfl, result⟩ |
    ⟨entry, approval, actor, mid, entry', hit, rfl, -, result⟩
  · rcases result with rfl | ⟨v, made, rfl, rfl, unapproved⟩
    · exact guarded.calls rfl rfl rfl .refl fun i p left => .inl (get_drop_eq_some.mp left).2
    · have sound : v.Sound := by
        refine ⟨fun o approved => ?_, fun requires => ?_⟩
        · rw [unapproved] at approved
          cases approved
        · rw [made.replaced] at requires
          exact absurd ((guarded.ungated call _ _ _ _ hit).symm.trans requires) (by decide)
      refine guarded.created made sound fun i p left => .inl ?_
      obtain ⟨apart, old⟩ := get_drop_eq_some.mp left
      rw [made.calls] at old
      exact ⟨old, alone _ _ _ _ hit i p old apart⟩
  · rcases result with rfl | ⟨-, v, made, tenant, prof, approved⟩
    · refine guarded.calls rfl rfl rfl .refl fun i p left => ?_
      rcases get_put_eq_some.mp left with ⟨-, rfl⟩ | ⟨-, old⟩
      · exact .inr (.inr (.inr ⟨entry', rfl⟩))
      · exact .inl old
    · obtain ⟨inTime, out⟩ := inTime _ _ _ hit
      obtain ⟨other, time⟩ := guarded.approved call _ _ _ hit
      have sound : v.Sound := by
        refine ⟨fun o follows => ?_, fun _ => ?_⟩
        · rw [approved] at follows
          cases follows
          rw [made.createdAt]
          exact ⟨other, time, inTime⟩
        · rw [approved]
          exact some_ne_none _
      refine guarded.created made sound fun i p left => ?_
      rcases get_put_eq_some.mp left with ⟨-, rfl⟩ | ⟨-, old⟩
      · exact .inr ⟨entry', rfl⟩
      · rw [made.calls] at old
        rw [tenant, prof]
        exact .inl ⟨old, out i p old⟩

theorem Guarded.step {a : Action} (guarded : Guarded w) (meets : orderly w a)
    (moved : w.step validateSpec h now a = some w') : Guarded w' := by
  cases a with
  | createProfile call τ name spec actor rid =>
    obtain ⟨-, moved⟩ := ite_none_left_eq_some.mp moved
    rcases createProfile_cases moved with rfl | ⟨ungated, rfl⟩ | ⟨-, rfl⟩
    · exact guarded
    · refine guarded.calls rfl rfl rfl .refl fun i p left => ?_
      rcases get_put_eq_some.mp left with ⟨-, rfl⟩ | ⟨-, old⟩
      · exact .inr (.inr (.inl ⟨τ, name, spec, _, rfl, ungated⟩))
      · exact .inl old
    · exact guarded.calls rfl rfl rfl .refl fun i p left => .inl left
  | approveProfileEdit call τ rid approver actor =>
    obtain ⟨-, moved⟩ := ite_none_left_eq_some.mp moved
    cases moved
    rcases approveProfileEdit_cases w call τ rid approver actor with
      same | ⟨-, entry', approval, -, -, -, other, time, same⟩
    · rw [same]
      exact guarded
    · rw [same]
      refine guarded.calls rfl rfl rfl .refl fun i p left => ?_
      rcases get_put_eq_some.mp left with ⟨-, rfl⟩ | ⟨-, old⟩
      · exact .inr (.inl ⟨entry', approval, _, rfl, other, Nat.le_of_eq time⟩)
      · exact .inl old
  | version call d => exact guarded.version meets moved
  | save call =>
    simp only [World.step] at moved
    split at moved
    next entry hit =>
      cases moved
      exact guarded.calls rfl rfl rfl .refl fun i p left => .inl (get_drop_eq_some.mp left).2
    next => cases moved
  | tail =>
    simp only [World.step, guarded.settled] at moved
    cases moved
  | restart =>
    cases moved
    refine guarded.calls rfl rfl rfl .refl fun i p left => ?_
    cases left
  | tick n =>
    cases moved
    exact guarded.calls rfl rfl rfl (Nat.le_add_right ..) fun i p left => .inl left

/-! ## Versions of a request -/

/-- How many versions follow an approval of the request. -/
def World.spent (w : World) (k : String) : Nat :=
  w.versions.countP fun v => v.origin.any fun o => o.key = k

/-- The request has its version: whoever works on it is about to write an issued entry back, and
where nobody does, its entry is issued. -/
structure World.Closed (w : World) (k : String) : Prop where
  calls : ∀ i p, w.calls.get i = some p → p.key? = some k →
    ∃ e, p = .saving e ∧ e.request.state = .issued
  entry : (∀ i p, w.calls.get i = some p → p.key? ≠ some k) →
    ∀ e, w.entries.get k = some e → e.request.state = .issued

/-- One call works on a request, and a request has no version or one, and then it is closed. -/
structure Counted (w : World) : Prop where
  named : ∀ k e, w.entries.get k = some e → e.key = k
  unknown : ∀ k, k ∉ w.drawn → w.entries.get k = none ∧ w.spent k = 0 ∧
    ∀ i p, w.calls.get i = some p → p.key? ≠ some k
  distinct : ∀ i j p q k, w.calls.get i = some p → w.calls.get j = some q →
    p.key? = some k → q.key? = some k → i = j
  closed : ∀ k, w.spent k = 0 ∨ w.spent k = 1 ∧ w.Closed k

theorem Counted.init {db : Database Row} : Counted { db := db } where
  named _ _ left := by cases left
  unknown _ _ := ⟨rfl, rfl, fun _ _ left => by cases left⟩
  distinct _ _ _ _ _ left := by cases left
  closed _ := .inl rfl

theorem Created.spent {v : Version} (made : Created w w' v) (k : String) :
    w'.spent k = w.spent k + if v.origin.any (fun o => o.key = k) then 1 else 0 := by
  rw [World.spent, made.versions, countP_append, countP_singleton]
  rfl

variable {call : Nat}

variable (counted : Counted w)

include counted

/-- A request that a call still approves has no version. -/
theorem Counted.unspent {e : Entry} {a : Approval} {actor : String}
    (hit : w.calls.get call = some (.approving e a actor)) : w.spent e.key = 0 := by
  refine (counted.closed e.key).resolve_right fun ⟨_, closed⟩ => ?_
  obtain ⟨_, saving, -⟩ := closed.calls call _ hit rfl
  cases saving

theorem Counted.recall {calls : Table Nat Phase}
    (same : ∀ i p k, p.key? = some k → (calls.get i = some p ↔ w.calls.get i = some p)) :
    Counted { w with calls } where
  named := counted.named
  unknown k fresh := by
    obtain ⟨gone, unspent, idle⟩ := counted.unknown k fresh
    exact ⟨gone, unspent, fun i p left works => idle i p ((same i p k works).mp left) works⟩
  distinct i j p q k left left' works works' :=
    counted.distinct i j p q k ((same i p k works).mp left) ((same j q k works').mp left')
      works works'
  closed k := by
    refine (counted.closed k).imp_right fun ⟨once, closed⟩ =>
      ⟨once, fun i p left works => ?_, fun idle => ?_⟩
    · exact closed.calls i p ((same i p k works).mp left) works
    · exact closed.entry fun i p left works => idle i p ((same i p k works).mpr left) works

theorem Counted.park {spec : Json} {actor rid : String}
    (fresh : profileEditApprovalKey τ rid ∉ w.drawn) :
    Counted { w with
      entries := w.entries.put (profileEditApprovalKey τ rid) (w.request τ name spec actor rid)
      drawn := profileEditApprovalKey τ rid :: w.drawn } where
  named k e left := by
    rcases get_put_eq_some.mp left with ⟨rfl, rfl⟩ | ⟨-, old⟩
    · rfl
    · exact counted.named k e old
  unknown k undrawn := by
    obtain ⟨other, undrawn⟩ := not_or.mp (mt mem_cons.mpr undrawn)
    obtain ⟨gone, rest⟩ := counted.unknown k undrawn
    exact ⟨(get_put_of_ne other).trans gone, rest⟩
  distinct := counted.distinct
  closed k := by
    by_cases here : k = profileEditApprovalKey τ rid
    · exact .inl (here ▸ (counted.unknown _ fresh).2.1)
    · refine (counted.closed k).imp_right fun ⟨once, closed⟩ =>
        ⟨once, closed.calls, fun idle e left => ?_⟩
      exact closed.entry idle e ((get_put_of_ne here).symm.trans left)

/-- A call begins to work on a request that nobody works on, or goes on with its own.  If the
request has a version now, its entry is about to be issued. -/
theorem Counted.work {p : Phase} {k : String} (works : p.key? = some k) (drawn : k ∈ w.drawn)
    (alone : ∀ i q, i ≠ call → w.calls.get i = some q → q.key? ≠ some k)
    (own : ∀ q, w.calls.get call = some q → q.key? = some k) (after : w'.calls = w.calls.put call p)
    (es : w'.entries = w.entries) (same : w'.drawn = w.drawn)
    (rest : ∀ l, l ≠ k → w'.spent l = w.spent l)
    (closed : w'.spent k = 0 ∨ w'.spent k = 1 ∧ ∃ e, p = .saving e ∧ e.request.state = .issued) :
    Counted w' := by
  -- whoever works on another request did so before
  have other : ∀ {i q l}, l ≠ k → q.key? = some l →
      (w'.calls.get i = some q ↔ w.calls.get i = some q) := by
    intro i q l ne works'
    rw [after]
    by_cases here : i = call
    · subst here
      rw [get_put_self]
      refine ⟨fun left => ?_, fun left => ?_⟩
      · cases left
        exact absurd (some.inj (works'.symm.trans works)) ne
      · exact absurd (some.inj (works'.symm.trans (own q left))) ne
    · rw [get_put_of_ne here]
  have mine : ∀ {i q}, w'.calls.get i = some q → q.key? = some k → i = call ∧ q = p := by
    intro i q left works'
    rw [after] at left
    rcases get_put_eq_some.mp left with ⟨here, same⟩ | ⟨apart, old⟩
    · exact ⟨here, same.symm⟩
    · exact absurd works' (alone i q apart old)
  refine ⟨fun l e left => counted.named l e (es ▸ left), fun l fresh => ?_,
    fun i j q r l left left' works' works'' => ?_, fun l => ?_⟩
  · rw [same] at fresh
    have ne : l ≠ k := fun here => fresh (here ▸ drawn)
    obtain ⟨gone, unspent, idle⟩ := counted.unknown l fresh
    rw [es, rest l ne]
    exact ⟨gone, unspent, fun i q left works' => idle i q ((other ne works').mp left) works'⟩
  · by_cases here : l = k
    · subst here
      rw [(mine left works').1, (mine left' works'').1]
    · exact counted.distinct i j q r l ((other here works').mp left) ((other here works'').mp left')
        works' works''
  · by_cases here : l = k
    · subst here
      refine closed.imp_right fun ⟨once, saving⟩ =>
        ⟨once, fun i q left works' => ?_, fun idle => ?_⟩
      · rw [(mine left works').2]
        exact saving
      · exact absurd works (idle call p (by rw [after, get_put_self]))
    · rw [rest l here]
      refine (counted.closed l).imp_right fun ⟨once, closed⟩ =>
        ⟨once, fun i q left works' => ?_, fun idle => ?_⟩
      · exact closed.calls i q ((other here works').mp left) works'
      · rw [es]
        exact closed.entry fun i q left works' => idle i q ((other here works').mpr left) works'

/-- A version without an approval counts for no request. -/
theorem Counted.congr (es : w'.entries = w.entries) (calls : w'.calls = w.calls)
    (drawn : w'.drawn = w.drawn) (spent : ∀ k, w'.spent k = w.spent k) :
    Counted w' := by
  obtain ⟨named, new, ne, closed⟩ := counted
  refine ⟨?_, ?_, ?_, fun k => ?_⟩
  · rwa [es]
  · simpa only [es, drawn, calls, spent] using new
  · rwa [calls]
  · rw [spent]
    refine (closed k).imp_right fun once => ⟨once.1, ?_, ?_⟩
    · rw [calls]
      exact once.2.calls
    · rw [calls, es]
      exact once.2.entry

theorem Counted.save {entry : Entry} (hit : w.calls.get call = some (.saving entry)) :
    Counted { w with entries := w.entries.put entry.key entry, calls := w.calls.drop call } := by
  have old : ∀ {i p}, (w.calls.drop call).get i = some p → w.calls.get i = some p :=
    fun left => (get_drop_eq_some.mp left).2
  refine ⟨fun k e left => ?_, fun k fresh => ?_,
    fun i j p q k left left' => counted.distinct i j p q k (old left) (old left'), fun k => ?_⟩
  · rcases get_put_eq_some.mp left with ⟨rfl, rfl⟩ | ⟨-, before⟩
    · rfl
    · exact counted.named k e before
  · obtain ⟨gone, unspent, idle⟩ := counted.unknown k fresh
    have other : k ≠ entry.key := fun here => idle call _ hit (congrArg some here.symm)
    exact ⟨(get_put_of_ne other).trans gone, unspent, fun i p left => idle i p (old left)⟩
  · refine (counted.closed k).imp_right fun ⟨once, closed⟩ =>
      ⟨once, fun i p left => closed.calls i p (old left), fun idle e left => ?_⟩
    rcases get_put_eq_some.mp left with ⟨rfl, rfl⟩ | ⟨other, before⟩
    · obtain ⟨_, same, issued⟩ := closed.calls call _ hit rfl
      cases same
      exact issued
    · refine closed.entry (fun i p old' works => ?_) e before
      refine idle i p (get_drop_eq_some.mpr ⟨?_, old'⟩) works
      rintro rfl
      cases hit.symm.trans old'
      exact other (some.inj works).symm

theorem Counted.step {a : Action} (done : w.unprojected = []) (meets : orderly w a)
    (moved : w.step validateSpec h now a = some w') : Counted w' := by
  cases a with
  | createProfile call τ name spec actor rid =>
    obtain ⟨free, moved⟩ := ite_none_left_eq_some.mp moved
    rw [not_isSome_iff_eq_none] at free
    rcases createProfile_cases moved with rfl | ⟨-, rfl⟩ | ⟨fresh, rfl⟩
    · exact counted
    · refine counted.recall fun i p k works => ?_
      rw [get_put_eq_some]
      constructor
      · rintro (⟨-, rfl⟩ | ⟨-, old⟩)
        · cases works
        · exact old
      · refine fun old => .inr ⟨?_, old⟩
        rintro rfl
        cases free.symm.trans old
    · exact counted.park fresh
  | approveProfileEdit call τ rid approver actor =>
    obtain ⟨free, moved⟩ := ite_none_left_eq_some.mp moved
    rw [not_isSome_iff_eq_none] at free
    cases moved
    have idle : ∀ i p, w.calls.get i = some p → p.key? ≠ some (profileEditApprovalKey τ rid) :=
      fun i p left => of_decide_eq_true (all_eq_true.mp meets (i, p) (mem_of_get left))
    rcases approveProfileEdit_cases w call τ rid approver actor with
      same | ⟨entry, entry', approval, hit, open_, key, -, -, same⟩
    · rw [same]
      exact counted
    · rw [same]
      have drawn : profileEditApprovalKey τ rid ∈ w.drawn := by
        by_contra fresh
        cases hit.symm.trans (counted.unknown _ fresh).1
      have unspent := (counted.closed _).resolve_right fun once =>
        open_ (once.2.entry idle entry hit)
      have works : (Phase.approving entry' approval (actor.getD "")).key? =
          some (profileEditApprovalKey τ rid) :=
        congrArg some (key.trans (counted.named _ _ hit))
      exact counted.work works drawn (fun i q _ => idle i q)
        (fun q left => by cases free.symm.trans left)
        rfl rfl rfl (fun _ _ => rfl) (.inl unspent)
  | version call d =>
    obtain ⟨proj, -, -⟩ := orderly_version meets
    rcases version_cases proj moved with ⟨τ, name, spec, actor, mid, hit, rfl, result⟩ |
      ⟨entry, approval, actor, mid, entry', hit, rfl, key, result⟩
    · have counted' : Counted mid ∧ mid.calls = w.calls := by
        rcases result with rfl | ⟨v, made, -, -, unapproved⟩
        · exact ⟨counted, rfl⟩
        · refine ⟨counted.congr made.entries made.calls made.drawn fun k => ?_, made.calls⟩
          rw [made.spent, unapproved]
          rfl
      refine counted'.1.recall fun i p k works => ?_
      rw [get_drop_eq_some, counted'.2]
      refine ⟨And.right, fun old => ⟨?_, old⟩⟩
      rintro rfl
      cases hit.symm.trans old
      cases works
    · have unspent := counted.unspent hit
      have drawn : entry.key ∈ w.drawn := by
        by_contra fresh
        exact (counted.unknown _ fresh).2.2 call _ hit rfl
      have alone : ∀ i q, i ≠ call → w.calls.get i = some q → q.key? ≠ some entry.key :=
        fun i q apart left works => apart (counted.distinct i call _ _ _ left hit works rfl)
      have own : ∀ q, w.calls.get call = some q → q.key? = some entry.key := by
        intro q left
        cases hit.symm.trans left
        rfl
      have works : (Phase.saving entry').key? = some entry.key := congrArg some key
      rcases result with rfl | ⟨issued, v, made, -, -, approved⟩
      · exact counted.work works drawn alone own rfl rfl rfl (fun _ _ => rfl) (.inl unspent)
      · have spent : ∀ k, mid.spent k = w.spent k + if entry.key = k then 1 else 0 := by
          intro k
          rw [made.spent, approved]
          simp [Entry.origin]
        have calls : mid.calls.put call (.saving entry') = w.calls.put call (.saving entry') := by
          rw [made.calls]
        refine counted.work works drawn alone own calls made.entries made.drawn
          (fun k other => ?_) (.inr ⟨?_, entry', rfl, issued⟩)
        · exact (spent k).trans (by rw [if_neg other.symm, Nat.add_zero])
        · exact (spent _).trans (by rw [unspent, if_pos rfl])
  | save call =>
    simp only [World.step] at moved
    split at moved
    next entry hit =>
      cases moved
      exact counted.save hit
    next => cases moved
  | tail =>
    simp only [World.step, done] at moved
    cases moved
  | restart =>
    cases moved
    refine ⟨fun k e left => ?_,
      fun k fresh => ⟨rfl, (counted.unknown k fresh).2.1, fun i p left => ?_⟩,
      fun i j p q k left => ?_, fun k => (counted.closed k).imp_right fun once =>
        ⟨once.1, fun i p left => ?_, fun _ e left => ?_⟩⟩
    all_goals cases left
  | tick n =>
    cases moved
    exact counted.congr rfl rfl rfl fun _ => rfl

omit counted

/-! ## Runs -/

/-- In every run from a read model without profiles in which no two approvals of one request
overlap, no version of a profile is created while a `CreateProfile` of it is between its check and
its creation, every version that is appended is projected, and none is created after its request
expired: a request leads to at most one version; a version that follows a request was approved
before by another subject than the requester, and is not created after the expiry; a version that
replaces one whose spec requires approval follows a request; and what is active is one of these
versions. -/
theorem profile_edits_approved {db : Database Row} {acts : List Action}
    (unused : db.tables .certificateProfiles = [])
    (run : Run (World.step validateSpec h now) (fun w a => orderly w a) { db := db } acts w) :
    (∀ k, w.versions.countP (fun v => v.origin.any fun o => o.key = k) ≤ 1) ∧
      (∀ v ∈ w.versions, ∀ o, v.origin = some o →
        o.approver ≠ o.requester ∧ o.approvedAt ≤ v.createdAt ∧ v.createdAt ≤ o.expiresAt) ∧
      (∀ v ∈ w.versions, v.replaced.any gated → ∃ o, v.origin = some o) ∧
      ∀ τ name r, getActiveProfile w.db.tables τ name = some r →
        ∃ v ∈ w.versions, v.tenantId = τ ∧ v.name = name ∧ v.id = r.id ∧ v.spec = r.spec := by
  obtain ⟨guarded, counted⟩ : Guarded w ∧ Counted w := by
    refine run.invariant (I := fun w => Guarded w ∧ Counted w) ?_ ⟨.init unused, .init⟩
    intro w a w' meets moved ⟨guarded, counted⟩
    exact ⟨guarded.step meets moved, counted.step guarded.settled meets moved⟩
  have once (k : String) : w.spent k ≤ 1 := by
    rcases counted.closed k with none | ⟨one, -⟩
    · omega
    · omega
  refine ⟨once, fun v mem => (guarded.sound v mem).approved, fun v mem requires => ?_,
    guarded.active⟩
  exact ne_none_iff_exists'.mp ((guarded.sound v mem).guarded requires)

/-! ### Fixed runs -/

/-- A spec that requires approval, and one that does not. -/
def strictSpec : Json := .obj [("requires_approval", .bool true)]

def plainSpec : Json := .obj []

/-- Alice asks for a profile that requires approval. -/
def ask (call : Nat) : Action := .createProfile call "t" "p" strictSpec (some "alice") "r"

/-- Another subject approves the request. -/
def approveBy (call : Nat) (approver : String) : Action :=
  .approveProfileEdit call "t" "r" approver none

def create (call : Nat) (id : Uuid) : Action := .version call { id := id }

/-- Every spec passes. -/
def anySpec (_ : Json) : Bool := true

/-- The versions that became active: their ids, whether they replaced one that requires approval,
and the approvals. -/
def World.history (w : World) : List (Uuid × Bool × Option Origin) :=
  w.versions.map fun v => (v.id, v.replaced.any gated, v.origin)

/-- The approval of the request by one of them at the time. -/
def approvedBy (approver : String) (approvedAt : Time) : Option Origin :=
  some ⟨"t|r", "alice", approver, approvedAt, 1 + approvalWindow⟩

/-- Two approve, one after the other, and one version is created. -/
theorem edit_approved_once : ∃ w,
    executeIf (World.step anySpec plainDigest 0) orderly { db := .empty }
        [ask 0, approveBy 0 "bob", create 0 "v1", .save 0, approveBy 0 "carol"] = some w ∧
      w.history = [("v1", false, approvedBy "bob" 1)] ∧
      (∀ k, w.versions.countP (fun v => v.origin.any fun o => o.key = k) ≤ 1) ∧
      ∀ v ∈ w.versions, v.replaced.any gated → ∃ o, v.origin = some o := by
  have ran : (executeIf (World.step anySpec plainDigest 0) orderly { db := .empty }
      [ask 0, approveBy 0 "bob", create 0 "v1", .save 0, approveBy 0 "carol"]).map World.history =
        some [("v1", false, approvedBy "bob" 1)] := by decide +kernel
  obtain ⟨w, executed, history⟩ := map_eq_some_iff.mp ran
  obtain ⟨once, -, guarded, -⟩ := profile_edits_approved rfl (run_of_executeIf executed)
  exact ⟨w, executed, history, once, guarded⟩

/-- Two approvals that overlap create two versions; an approval long after the expiry creates one;
and an edit that passed the check replaces a profile that has come to require approval. -/
theorem profile_edit_unguarded : (execute (World.step anySpec plainDigest 0) { db := .empty }
        [ask 0, approveBy 1 "bob", approveBy 2 "carol", create 1 "v1", create 2 "v2"]).map
      World.history = some [("v1", false, approvedBy "bob" 1), ("v2", true, approvedBy "carol" 1)] ∧
    (execute (World.step anySpec plainDigest 0) { db := .empty }
        [ask 0, .tick (approvalWindow + 1), approveBy 0 "bob", create 0 "v1"]).map
      (fun w => (w.history, w.versions.map Version.createdAt)) =
        some ([("v1", false, approvedBy "bob" (approvalWindow + 2))], [approvalWindow + 2]) ∧
    (execute (World.step anySpec plainDigest 0) { db := .empty }
        [.createProfile 0 "t" "p" plainSpec (some "dave") "", ask 1, approveBy 1 "bob",
          create 1 "v1",
          create 0 "v2"]).map
      World.history = some [("v1", false, approvedBy "bob" 1), ("v2", true, none)] := by
  refine ⟨?_, ?_, ?_⟩
  · decide +kernel
  · decide +kernel
  · decide +kernel

end Trustctl.Approvals.ProfileEdits
