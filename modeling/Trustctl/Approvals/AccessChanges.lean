import Trustctl.Projections.Projector
import Trustctl.Systems.GoText
import Trustctl.Systems.Run
import Mathlib.Data.List.Dedup

/-!
# Access change requests

`DecideAccessChangeRequest` reads the request, checks the decision against what it read, appends the
event and projects it.  Other calls run in between, so a decision that passed the checks may meet a
request that has moved on; the projection checks again what it can see.  It does not see the
requester: that an approver is not the requester is checked once, before the event is encoded, on
the subject cut to 180 bytes.

* `apply_decided`: what the projection of a decision does to the request and its decisions;
* `quorum_decides`: as long as no subject is cut inside a rune, a request is approved exactly when
  enough approvers other than the requester approved it before a denial, and no decision is recorded
  later;
* `cut_subject_approves_itself`: a requester whose subject is cut inside a rune approves the own
  request.
-/

namespace Trustctl.Approvals

open Store Relational Projections List Systems Systems.GoString

/-! ## The command -/

@[irreducible] def trimBounded (s : String) (max : Nat) : GoString :=
  let s := ofText (trimSpace s)
  if s.size ≤ max then s else upTo max s

/-- `AccessChangeDecisionRequest`. -/
structure DecisionRequest where
  decision : String
  approverSubject : String := ""
  reason : String := ""
  decisionEvidenceRefs : List String := []

/-- `AccessChangeRequestDecided`, before it is encoded. -/
structure Decided where
  requestId : Uuid
  decision : String
  approverSubject : GoString
  reason : GoString
  decisionEvidenceRefs : List GoString
  decidedAt : Time

/-- Why a call is refused before anything is appended. -/
inductive Refusal
  | notFound
  | terminal (text : String)
  | duplicate (approver : GoString) (requestId : Uuid)
  | invalid (text : String)
deriving DecidableEq

/-- One call: the tenant and the actor of its context, the path, the body, and what it draws. -/
structure Call where
  tenantId : Uuid
  actor : Option String := none
  requestId : String
  input : DecisionRequest
  eventId : String := ""
  now : Time := 1
  nowSet : now ≠ 0 := by decide

def normalizeEvidenceRefs (refs : List String) : Except Refusal (List GoString) :=
  if 20 < refs.length then .error (.invalid "at most 20 evidence_refs are allowed")
  else .ok ((refs.map (trimBounded · 260)).filter (· ≠ []))

def Call.approver (c : Call) : GoString :=
  let named := trimBounded c.input.approverSubject 180
  if named = [] then (c.actor.map (trimBounded · 180)).getD [] else named

def normalizeAccessChangeDecision (req : AccessChangeRequest) (c : Call) : Except Refusal Decided :=
  do
  let decision := toLower (trimSpace c.input.decision)
  if decision ≠ "approved" ∧ decision ≠ "denied" then
    .error (.invalid "decision must be approved or denied")
  else if c.approver = [] then .error (.invalid "approver_subject is required")
  else if c.approver = ofText req.requesterSubject then
    .error (.invalid "approver_subject must differ from requester_subject")
  else
    let reason := trimBounded c.input.reason 500
    if decision = "denied" ∧ reason = [] then
      .error (.invalid "reason is required for denied decisions")
    else
      let refs ← normalizeEvidenceRefs c.input.decisionEvidenceRefs
      return { requestId := req.id, decision, approverSubject := c.approver, reason
               decisionEvidenceRefs := refs, decidedAt := c.now }

def requestOf (tables : Tables Row) (τ id : Uuid) : Option AccessChangeRequest :=
  (tables .accessChangeRequests).find? fun (r : AccessChangeRequest) => r.tenantId = τ ∧ r.id = id

/-- The decisions on a request, in the order they were recorded. -/
def decisionsOf (tables : Tables Row) (τ id : Uuid) : List AccessChangeDecision :=
  (tables .accessChangeRequestDecisions).filter fun (d : AccessChangeDecision) =>
    d.tenantId = τ ∧ d.requestId = id

/-- `DecideAccessChangeRequest` up to the append. -/
def checkDecision (tables : Tables Row) (c : Call) : Except Refusal Decided :=
  match requestOf tables c.tenantId (trimSpace c.requestId) with
  | none => .error .notFound
  | some req =>
    if req.status ≠ "pending" then
      .error (.terminal
        ("access change request is already terminal: request " ++ req.id ++ " is " ++
        req.status))
    else do
      let payload ← normalizeAccessChangeDecision req c
      if (decisionsOf tables c.tenantId req.id).any fun d =>
          ofText d.approverSubject = payload.approverSubject then
        .error (.duplicate payload.approverSubject req.id)
      else return payload

/-- The event of a call, as it is read back from the log. -/
def Call.event (c : Call) (payload : Decided) : Event where
  id := c.eventId
  tenantId := c.tenantId
  sequence := 0
  time := c.now
  timeSet := c.nowSet
  body := .governance (.accessChangeRequestDecided payload.requestId payload.decision
    (reread payload.approverSubject) (reread payload.reason)
    (payload.decisionEvidenceRefs.map reread) payload.decidedAt)

/-! ## Interleavings -/

/-- The read model, the events of calls that passed the checks and have not appended, the log, and
how much of it is projected. -/
structure World where
  db : Database Row
  checked : List Event := []
  log : List Event := []
  projected : Nat := 0

inductive Action
  | check (c : Call)
  | append (n : Nat)
  | project

/-- A refused call and a refused projection change nothing. -/
def World.step (h : Digest) (now : Time) (w : World) : Action → Option World
  | .check c =>
    match checkDecision w.db.tables c with
    | .ok payload => some { w with checked := w.checked ++ [c.event payload] }
    | .error _ => some w
  | .append n =>
    w.checked[n]?.map fun e => { w with
      checked := w.checked.eraseIdx n, log := w.log ++ [e.numbered (w.log.length + 1)] }
  | .project =>
    w.log[w.projected]?.map fun e => { w with
      db := ((apply h now e w.db).toOption).getD w.db, projected := w.projected + 1 }

/-- The subjects of the call are not cut inside a rune. -/
def uncut (_ : World) : Action → Bool
  | .check c => (trimBounded c.input.approverSubject 180).whole &&
      c.actor.all fun subject => (trimBounded subject 180).whole
  | _ => true

/-! ## The projection of a decision -/

variable {db db' : Database Row} {s : Session} {h : Digest} {now : Time} {e : Event}
  {d : AccessChangeDecision} {τ id : Uuid} {r : AccessChangeRequest}

def approvals (ds : List AccessChangeDecision) : Nat := ds.countP fun d => d.decision = "approved"

theorem approvalCount_slice (tables : Tables Row) (τ id : Uuid) :
    approvalCount (slice τ tables) id = approvals (decisionsOf tables τ id) := by
  unfold approvalCount approvals decisionsOf slice
  rw [countP_filter, countP_filter]
  refine countP_congr fun (d : AccessChangeDecision) _ => ?_
  have own : owns (R := Row) (t := .accessChangeRequestDecisions) τ d = decide
    (d.tenantId = τ) := rfl
  rw [own]
  simp only [Bool.and_eq_true, decide_eq_true_eq]
  tauto

/-- The request and its decisions after a decision was projected. -/
structure Recorded (d : AccessChangeDecision) (tables tables' : Tables Row)
    (r r' : AccessChangeRequest) : Prop where
  found : requestOf tables d.tenantId d.requestId = some r
  pending : r.status = "pending"
  decided : requestOf tables' d.tenantId d.requestId = some r'
  requester : r'.requesterSubject = r.requesterSubject
  required : r'.requiredApprovals = r.requiredApprovals
  count : r'.approvalCount = approvals (decisionsOf tables' d.tenantId d.requestId)
  status : r'.status = if d.decision = "denied" then "denied"
    else if r.requiredApprovals ≤ r'.approvalCount then "approved" else "pending"
  decisions : tables' .accessChangeRequestDecisions = tables .accessChangeRequestDecisions ++ [d]
  others : ∀ τ id, ¬ (d.tenantId = τ ∧ d.requestId = id) →
    requestOf tables' τ id = requestOf tables τ id

theorem tallyRequest_columns (view : Tables Row) (dec : String) (at_ : Time)
    (r : AccessChangeRequest) :
    (tallyRequest view dec at_ r).tenantId = r.tenantId ∧ (tallyRequest view dec at_ r).id = r.id ∧
      (tallyRequest view dec at_ r).requesterSubject = r.requesterSubject ∧
      (tallyRequest view dec at_ r).requiredApprovals = r.requiredApprovals ∧
      (tallyRequest view dec at_ r).approvalCount = approvalCount view r.id ∧
      (tallyRequest view dec at_ r).status = if dec = "denied" then "denied"
        else if r.requiredApprovals ≤ approvalCount view r.id then "approved" else "pending" := by
  unfold tallyRequest
  by_cases denied : dec = "denied"
  · simp [denied]
  · simp [denied]

variable {tables : Tables Row}

theorem requestOf_key (hit : requestOf tables τ id = some r) : r.tenantId = τ ∧ r.id = id := by
  have matching := find?_some hit
  exact of_decide_eq_true matching

variable {tables' : Tables Row}

/-- A header is found again after an update that keeps the keys. -/
theorem requestOf_updateRows {cond : AccessChangeRequest → Bool}
    {set : AccessChangeRequest → AccessChangeRequest}
    (updated : tables' .accessChangeRequests = updateRows cond set (tables .accessChangeRequests))
    (keeps : ∀ r, (set r).tenantId = r.tenantId ∧ (set r).id = r.id) (τ id : Uuid) :
    requestOf tables' τ id = (requestOf tables τ id).map fun r => if cond r then set r else r := by
  unfold requestOf
  rw [updated, updateRows, find?_map]
  congr 2
  funext r
  simp only [Function.comp_apply]
  split
  · rw [(keeps r).1, (keeps r).2]
  · rfl

theorem exec_requestPending (ran : exec s db (requestPending τ id) = .ok db') :
    db' = db ∧ ∃ r, requestOf db.tables τ id = some r ∧ r.status = "pending" := by
  obtain ⟨answer, same⟩ := exec_guard.mp ran
  refine ⟨same, ?_⟩
  split at answer
  next => cases answer
  next r hit =>
    split at answer
    next open_ =>
      refine ⟨r, ?_, open_⟩
      rw [slice, find?_filter] at hit
      rw [requestOf, ← hit]
      congr 1
      funext (q : AccessChangeRequest)
      have own : owns (R := Row) (t := .accessChangeRequests) τ q = decide (q.tenantId = τ) := rfl
      rw [own]
      simp only [decide_eq_true_eq]
    next => cases answer

/-- The decision of an approver who has not decided is stored. -/
theorem run_insertDecision {rest : Sink d.tenantId}
    (ran : run s (approverUndecided d.tenantId d.requestId d.approverSubject ::
      insertIgnore .accessChangeRequestDecisions d
        (fun (r : AccessChangeDecision) => r.tenantId = d.tenantId ∧ r.requestId = d.requestId ∧
          r.approverSubject = d.approverSubject) rfl :: rest) db = .ok db') :
    ∃ mid, run s rest mid = .ok db' ∧
      mid.tables .accessChangeRequests = db.tables .accessChangeRequests ∧
      mid.tables .accessChangeRequestDecisions =
        db.tables .accessChangeRequestDecisions ++ [d] := by
  obtain ⟨db₁, first, others⟩ := run_cons_ok.mp ran
  obtain ⟨unset, rfl⟩ := exec_guard.mp first
  obtain ⟨mid, added, remaining⟩ := run_cons_ok.mp others
  refine ⟨mid, remaining, exec_frame added (by simp [Stmt.footprint]), ?_⟩
  rcases effect_insertIgnore.mp (exec_ok.mp added) with ⟨⟨q, kept, same⟩, -⟩ | ⟨-, left⟩
  · obtain ⟨tenant, req, approver⟩ := of_decide_eq_true same
    have visible : q ∈ slice d.tenantId db₁.tables .accessChangeRequestDecisions :=
      mem_filter.mpr ⟨kept, decide_eq_true tenant⟩
    rw [if_pos (any_eq_true.mpr ⟨q, visible, decide_eq_true ⟨req, approver⟩⟩)] at unset
    cases unset
  · rw [← left, setTable_self]

theorem run_decided (ran : run s (applyAccessChangeRequestDecidedTx d) db = .ok db') :
    ∃ r r', Recorded d db.tables db'.tables r r' := by
  obtain ⟨db₁, first, rest⟩ := run_cons_ok.mp ran
  obtain ⟨rfl, r, found, pending⟩ := exec_requestPending first
  obtain ⟨mid, last, headers, noted⟩ := run_insertDecision rest
  rw [run_singleton] at last
  have decisions : db'.tables .accessChangeRequestDecisions =
      mid.tables .accessChangeRequestDecisions := exec_frame last (by simp [Stmt.footprint])
  have sameDecisions : decisionsOf db'.tables = decisionsOf mid.tables := by
    funext τ id
    rw [decisionsOf, decisionsOf, decisions]
  obtain ⟨-, left⟩ := effect_update.mp (exec_ok.mp last)
  have tallied := congrFun left .accessChangeRequests
  rw [setTable_self, headers] at tallied
  have requests := requestOf_updateRows tallied.symm fun r =>
    ⟨(tallyRequest_columns ..).1, (tallyRequest_columns ..).2.1⟩
  obtain ⟨tenant, req⟩ := requestOf_key found
  obtain ⟨-, -, requester, required, count, status⟩ :=
    tallyRequest_columns (slice d.tenantId mid.tables) d.decision d.decidedAt r
  rw [approvalCount_slice, req, ← sameDecisions] at count status
  refine ⟨r, tallyRequest (slice d.tenantId mid.tables) d.decision d.decidedAt r, found,
    pending, ?_,
    requester, required, count, ?_, decisions.trans noted, fun τ id other => ?_⟩
  · rw [requests, found, Option.map_some, if_pos]
    exact Bool.and_eq_true _ _ ▸ ⟨decide_eq_true tenant, decide_eq_true req⟩
  · rw [status, count]
  · rw [requests]
    cases here : requestOf db₁.tables τ id with
    | none => rfl
    | some q =>
      obtain ⟨tenant', request'⟩ := requestOf_key here
      rw [Option.map_some, if_neg]
      intro hit
      obtain ⟨own, same⟩ := Bool.and_eq_true _ _ ▸ hit
      exact other
        ⟨(of_decide_eq_true own).symm.trans tenant', (of_decide_eq_true same).symm.trans request'⟩

def decisionOf (e : Event) : Option AccessChangeDecision :=
  match e.body with
  | .governance
      (.accessChangeRequestDecided requestId decision approverSubject reason refs decidedAt) =>
    some { tenantId := e.tenantId, requestId, approverSubject, decision, reason
           decisionEvidenceRefs := refs, decidedAt := decidedAt.orElse e.time }
  | _ => none

theorem apply_decided (dec : decisionOf e = some d) (done : apply h now e db = .ok db') :
    ∃ r r', Recorded d db.tables db'.tables r r' := by
  unfold decisionOf at dec
  split at dec
  next rid dec approver why refs decidedAt body =>
    simp only [apply, body] at done
    obtain ⟨p, sunk, ran⟩ := perform_ok.mp done
    obtain ⟨-, -, payload⟩ := bind_ok.mp sunk
    rw [body] at payload
    obtain ⟨-, ⟨⟩⟩ := require_ok.mp payload
    cases dec
    exact run_decided ran
  next => cases dec

/-! ## The tally -/

/-- How the status of a request goes with its decisions: it is pending while there are too few
approvals, approved when there are enough, and denied after one denial. -/
inductive Stands (required : Int) (ds : List AccessChangeDecision) (status : String) : Prop
  | pending (open_ : status = "pending") (approved : ∀ d ∈ ds, d.decision = "approved")
      (short : (ds.length : Int) < required)
  | approved (ended : status = "approved") (approved : ∀ d ∈ ds, d.decision = "approved")
      (enough : required ≤ ds.length)
  | denied (ended : status = "denied") (before : List AccessChangeDecision)
      (d : AccessChangeDecision)
      (last : ds = before ++ [d]) (denied : d.decision = "denied")
      (approved : ∀ d ∈ before, d.decision = "approved") (short : (before.length : Int) < required)

structure Tally (tables : Tables Row) (τ id : Uuid) (subject : String) (r : AccessChangeRequest) :
    Prop where
  found : requestOf tables τ id = some r
  requester : r.requesterSubject = subject
  count : r.approvalCount = approvals (decisionsOf tables τ id)
  stands : Stands r.requiredApprovals (decisionsOf tables τ id) r.status
  others : ∀ d ∈ decisionsOf tables τ id, d.approverSubject ≠ subject

variable {ds : List AccessChangeDecision}

theorem approvals_eq_length (approved : ∀ d ∈ ds, d.decision = "approved") :
    approvals ds = ds.length :=
  countP_eq_length.mpr fun d mem => decide_eq_true (approved d mem)

variable {subject : String}

theorem Recorded.tally {r' q : AccessChangeRequest} (noted : Recorded d tables tables' r r')
    (kind : d.decision = "approved" ∨ d.decision = "denied") (other : d.approverSubject ≠ subject)
    (tally : Tally tables d.tenantId d.requestId subject q) :
    Tally tables' d.tenantId d.requestId subject r' := by
  obtain rfl : q = r := Option.some.inj (tally.found.symm.trans noted.found)
  have added : decisionsOf tables' d.tenantId d.requestId =
      decisionsOf tables d.tenantId d.requestId ++ [d] := by
    rw [decisionsOf, noted.decisions, filter_append]
    simp [decisionsOf]
  obtain ⟨approved, short⟩ : (∀ d' ∈ decisionsOf tables d.tenantId d.requestId,
      d'.decision = "approved") ∧
      ((decisionsOf tables d.tenantId d.requestId).length : Int) < q.requiredApprovals := by
    cases tally.stands with
    | pending _ approved short => exact ⟨approved, short⟩
    | approved ended | denied ended =>
      exact absurd (noted.pending.symm.trans ended) (by decide)
  refine ⟨noted.decided, noted.requester.trans tally.requester, noted.count, ?_, ?_⟩
  · rw [noted.required, noted.status, noted.count, added]
    rcases kind with approves | denies
    · have all : ∀ d' ∈ decisionsOf tables d.tenantId d.requestId ++ [d],
        d'.decision = "approved" :=
        forall_mem_snoc approved approves
      rw [approvals_eq_length all, if_neg (by rw [approves]; decide)]
      split
      next enough => exact .approved rfl all enough
      next short' => exact .pending rfl all (Int.not_le.mp short')
    · rw [if_pos denies]
      exact .denied rfl _ d rfl denies approved short
  · rw [added]
    exact forall_mem_snoc tally.others other

/-! ## Checked calls -/

variable {c : Call} {payload : Decided}

theorem normalizeAccessChangeDecision_ok {req : AccessChangeRequest}
    (norm : normalizeAccessChangeDecision req c = .ok payload) :
    payload.requestId = req.id ∧ payload.approverSubject = c.approver ∧
      (payload.decision = "approved" ∨ payload.decision = "denied") ∧
      c.approver ≠ ofText req.requesterSubject := by
  unfold normalizeAccessChangeDecision at norm
  dsimp only at norm
  split at norm
  next => cases norm
  next known =>
    split at norm
    next => cases norm
    next =>
      split at norm
      next => cases norm
      next other =>
        split at norm
        next => cases norm
        next =>
          obtain ⟨refs, -, made⟩ := bind_ok.mp norm
          cases made
          refine ⟨rfl, rfl, ?_, other⟩
          by_contra neither
          exact known (not_or.mp neither)

theorem checkDecision_ok (check : checkDecision tables c = .ok payload) :
    ∃ req, requestOf tables c.tenantId payload.requestId = some req ∧
      payload.approverSubject = c.approver ∧
      (payload.decision = "approved" ∨ payload.decision = "denied") ∧
      c.approver ≠ ofText req.requesterSubject := by
  unfold checkDecision at check
  split at check
  next => cases check
  next req hit =>
    split at check
    next => cases check
    next =>
      obtain ⟨payload', norm, rest⟩ := bind_ok.mp check
      split at rest
      next => cases rest
      next =>
        cases rest
        obtain ⟨request, approver, kind, other⟩ := normalizeAccessChangeDecision_ok norm
        refine ⟨req, ?_, approver, kind, other⟩
        rw [request, (requestOf_key hit).2]
        exact hit

variable {w : World}

theorem Call.approver_whole (meets : uncut w (.check c)) : c.approver.whole := by
  simp only [uncut, Bool.and_eq_true] at meets
  obtain ⟨named, actor⟩ := meets
  unfold Call.approver
  dsimp only
  split
  next =>
    cases subject : c.actor with
    | none => rfl
    | some a =>
      rw [subject, Option.all_some] at actor
      exact actor
  next => exact named

def Sound (τ id : Uuid) (subject : String) (e : Event) : Prop :=
  ∃ d, decisionOf e = some d ∧ (d.decision = "approved" ∨ d.decision = "denied") ∧
    (d.tenantId = τ → d.requestId = id → d.approverSubject ≠ subject)

/-- The event of a call that passes the checks, where no subject is cut inside a rune. -/
theorem sound_of_check (hit : requestOf w.db.tables τ id = some r)
    (requester : r.requesterSubject = subject) (meets : uncut w (.check c))
    (checked : checkDecision w.db.tables c = .ok payload) :
    Sound τ id subject (c.event payload) := by
  obtain ⟨req, kept, approver, kind, other⟩ := checkDecision_ok checked
  refine ⟨_, rfl, kind, fun tenant request own => other ?_⟩
  obtain rfl : req = r := by
    rw [show c.tenantId = τ from tenant, show payload.requestId = id from request] at kept
    exact Option.some.inj (kept.symm.trans hit)
  have same : reread c.approver = req.requesterSubject := by
    rw [← approver, requester]
    exact own
  rw [← same, GoString.ofText_reread (Call.approver_whole meets)]

/-! ## Runs -/

structure Kept (τ id : Uuid) (subject : String) (w : World) : Prop where
  tally : ∃ r, Tally w.db.tables τ id subject r
  checked : ∀ e ∈ w.checked, Sound τ id subject e
  log : ∀ e ∈ w.log, Sound τ id subject e

/-- The projection of an event of the log: the request keeps its tally, and once it is decided
nothing changes. -/
theorem project_kept (sound : Sound τ id subject e) (tally : ∃ r, Tally db.tables τ id subject r)
    (done : apply h now e db = .ok db') :
    (∃ r, Tally db'.tables τ id subject r) ∧
      ((requestOf db'.tables τ id = requestOf db.tables τ id ∧
        decisionsOf db'.tables τ id = decisionsOf db.tables τ id) ∨
        ∃ r, requestOf db.tables τ id = some r ∧ r.status = "pending") := by
  obtain ⟨d, dec, kind, other⟩ := sound
  obtain ⟨r, r', noted⟩ := apply_decided dec done
  by_cases here : d.tenantId = τ ∧ d.requestId = id
  · obtain ⟨rfl, rfl⟩ := here
    obtain ⟨q, tally⟩ := tally
    exact ⟨⟨r', noted.tally kind (other rfl rfl) tally⟩, .inr ⟨r, noted.found, noted.pending⟩⟩
  · have header := noted.others τ id here
    have decisions : decisionsOf db'.tables τ id = decisionsOf db.tables τ id := by
      rw [decisionsOf, noted.decisions, filter_append, filter_cons_of_neg (by simpa using here)]
      simp [decisionsOf]
    refine ⟨?_, .inl ⟨header, decisions⟩⟩
    obtain ⟨q, hit, requester, count, stands, rest⟩ := tally
    exact ⟨q, header.trans hit, requester, by rw [decisions]; exact count,
      by rw [decisions]; exact stands, by rw [decisions]; exact rest⟩

theorem Kept.step {w' : World} {a : Action} (kept : Kept τ id subject w) (meets : uncut w a)
    (moved : w.step h now a = some w') :
    Kept τ id subject w' ∧ ((requestOf w'.db.tables τ id = requestOf w.db.tables τ id ∧
        decisionsOf w'.db.tables τ id = decisionsOf w.db.tables τ id) ∨
        ∃ r, requestOf w.db.tables τ id = some r ∧ r.status = "pending") := by
  cases a with
  | check c =>
    simp only [World.step] at moved
    split at moved
    next payload checked =>
      cases moved
      obtain ⟨r, tally⟩ := kept.tally
      have sound := sound_of_check tally.found tally.requester meets checked
      exact ⟨⟨kept.tally, forall_mem_snoc kept.checked sound, kept.log⟩, .inl ⟨rfl, rfl⟩⟩
    next =>
      cases moved
      exact ⟨kept, .inl ⟨rfl, rfl⟩⟩
  | append n =>
    obtain ⟨e, listed, rfl⟩ := Option.map_eq_some_iff.mp moved
    have sound := kept.checked e (mem_of_getElem? listed)
    exact ⟨⟨kept.tally, fun e mem => kept.checked e (mem_of_mem_eraseIdx mem),
      forall_mem_snoc kept.log sound⟩, .inl ⟨rfl, rfl⟩⟩
  | project =>
    obtain ⟨e, logged, rfl⟩ := Option.map_eq_some_iff.mp moved
    have sound := kept.log e (mem_of_getElem? logged)
    cases applied : apply h now e w.db with
    | error fault => exact ⟨⟨kept.tally, kept.checked, kept.log⟩, .inl ⟨rfl, rfl⟩⟩
    | ok db' =>
      obtain ⟨tally, change⟩ := project_kept sound kept.tally applied
      exact ⟨⟨tally, kept.checked, kept.log⟩, change⟩

/-! ### The quorum -/

def approvers (ds : List AccessChangeDecision) : List String :=
  ((ds.takeWhile fun d => d.decision ≠ "denied").filter fun d => d.decision = "approved").map
    AccessChangeDecision.approverSubject

theorem approvers_append {before after : List AccessChangeDecision}
    (approved : ∀ d ∈ before, d.decision = "approved") :
    approvers (before ++ after) =
      before.map AccessChangeDecision.approverSubject ++ approvers after := by
  have pass : ∀ d ∈ before, decide (d.decision ≠ "denied") = true := by
    intro d mem
    rw [approved d mem]
    decide
  have kept : before.filter (fun d => d.decision = "approved") = before :=
    filter_eq_self.mpr fun d mem => decide_eq_true (approved d mem)
  rw [approvers, takeWhile_append_of_pos pass, filter_append, kept, map_append]
  rfl

theorem approvers_approved (approved : ∀ d ∈ ds, d.decision = "approved") :
    approvers ds = ds.map AccessChangeDecision.approverSubject := by
  have all : approvers (ds ++ []) = _ ++ approvers [] := approvers_append approved
  have none_ : approvers [] = [] := rfl
  rwa [none_, append_nil, append_nil] at all

theorem approvers_sublist (ds : List AccessChangeDecision) :
    (approvers ds).Sublist (ds.map AccessChangeDecision.approverSubject) :=
  (filter_sublist.trans (takeWhile_sublist _)).map _

theorem Stands.approved_iff {required : Int} {status : String}
    (stands : Stands required ds status) :
    status = "approved" ↔ required ≤ (approvers ds).length := by
  cases stands with
  | pending open_ approved short =>
    rw [approvers_approved approved, length_map, open_]
    exact iff_of_false (by decide) (Int.not_le.mpr short)
  | approved ended approved enough =>
    rw [approvers_approved approved, length_map]
    exact iff_of_true ended enough
  | denied ended old d last denied approved short =>
    have none_ : approvers [d] = [] := by simp [approvers, denied]
    rw [last, approvers_append approved, none_, append_nil, length_map, ended]
    exact iff_of_false (by decide) (Int.not_le.mpr short)

/-- An approver decides a request at most once. -/
theorem approverSubjects_nodup (db : Database Row) (τ id : Uuid) :
    ((decisionsOf db.tables τ id).map AccessChangeDecision.approverSubject).Nodup := by
  let key : AccessChangeDecision → Uuid × Uuid × String :=
    fun d => (d.tenantId, d.requestId, d.approverSubject)
  have holds : (Constraint.unique .accessChangeRequestDecisions fun (d : AccessChangeDecision) =>
      some (key d)).holds db.tables := by
    refine all_eq_true.mp db.valid _ ?_
    simp only [Schema.constraints, constraints, accessUniques, mem_append, mem_cons, key,
      true_or, or_true]
  have keys := (Constraint.nodup_of_holds holds).sublist
    ((filter_sublist (p := fun (d : AccessChangeDecision) =>
      decide (d.tenantId = τ ∧ d.requestId = id))).map key)
  have fixed : (decisionsOf db.tables τ id).map key =
      ((decisionsOf db.tables τ id).map AccessChangeDecision.approverSubject).map
        fun subject => (τ, id, subject) := by
    rw [map_map]
    refine map_congr_left fun d mem => ?_
    obtain ⟨tenant, req⟩ := of_decide_eq_true (mem_filter.mp mem).2
    simp only [key, Function.comp_apply, tenant, req]
  exact .of_map _ (fixed ▸ keys)

/-- The request is as it was created. -/
def Opened (tables : Tables Row) (τ id : Uuid) : Prop :=
  ∃ r, requestOf tables τ id = some r ∧ r.status = "pending" ∧ r.approvalCount = 0 ∧
    decisionsOf tables τ id = []

theorem Opened.tally (opened : Opened db.tables τ id) :
    ∃ subject, Kept τ id subject { db := db } := by
  obtain ⟨r, hit, pending, unapproved, unset⟩ := opened
  have checked :
      (Constraint.check .accessChangeRequests AccessChangeRequest.check).holds db.tables =
      true := by
    refine all_eq_true.mp db.valid _ ?_
    simp only [Schema.constraints, constraints, checks, mem_append, mem_cons, true_or, or_true]
  have row := all_eq_true.mp checked r (mem_of_find?_eq_some hit)
  simp only [AccessChangeRequest.check, Bool.and_eq_true, decide_eq_true_eq] at row
  refine ⟨r.requesterSubject, ⟨r, hit, rfl, ?_, ?_, ?_⟩, ?_, ?_⟩
  · rw [unset, unapproved]
    rfl
  · rw [unset]
    refine .pending pending ?_ ?_
    · intro d mem
      cases mem
    · have required := row.2.1.1.1
      simp only [length_nil]
      omega
  · rw [unset]
    intro d mem
    cases mem
  · intro e mem
    cases mem
  · intro e mem
    cases mem

/-- In every interleaving of calls on an open request none of which has a subject cut inside a rune,
in every state reached: the request is approved exactly when the approvals of distinct approvers
before a denial reached the number required; the requester is none of them; the count is that of the
approvals stored; and no decision is recorded once the request has left `pending`. -/
theorem quorum_decides {before after : List Action} {mid w : World} (opened : Opened db.tables τ id)
    (run : Run (World.step h now) (fun w a => uncut w a) { db := db } before mid)
    (later : Run (World.step h now) (fun w a => uncut w a) mid after w) :
    ∃ q r, requestOf mid.db.tables τ id = some q ∧ requestOf w.db.tables τ id = some r ∧
      (r.status = "approved" ↔
        r.requiredApprovals ≤ (approvers (decisionsOf w.db.tables τ id)).dedup.length) ∧
      (∀ subject ∈ approvers (decisionsOf w.db.tables τ id), subject ≠ r.requesterSubject) ∧
      r.approvalCount = (decisionsOf w.db.tables τ id).countP (fun d => d.decision = "approved") ∧
      (q.status ≠ "pending" → decisionsOf w.db.tables τ id = decisionsOf mid.db.tables τ id) := by
  obtain ⟨subject, kept⟩ := opened.tally
  have keptMid : Kept τ id subject mid :=
    run.invariant (fun _ _ _ meets moved kept => (kept.step meets moved).1) kept
  obtain ⟨q, ended⟩ := keptMid.tally
  -- from a request that has left `pending`, nothing changes
  have final : Kept τ id subject w ∧ (q.status ≠ "pending" → requestOf w.db.tables τ id = some q ∧
      decisionsOf w.db.tables τ id = decisionsOf mid.db.tables τ id) := by
    refine later.invariant (I := fun w => Kept τ id subject w ∧ (q.status ≠ "pending" →
      requestOf w.db.tables τ id = some q ∧
        decisionsOf w.db.tables τ id = decisionsOf mid.db.tables τ id)) ?_
      ⟨keptMid, fun _ => ⟨ended.found, rfl⟩⟩
    rintro w a w' meets moved ⟨kept, fixed⟩
    obtain ⟨kept', change⟩ := kept.step meets moved
    refine ⟨kept', fun left => ?_⟩
    obtain ⟨hit, same⟩ := fixed left
    rcases change with ⟨header, decisions⟩ | ⟨r, hit', pending⟩
    · exact ⟨header.trans hit, decisions.trans same⟩
    · cases hit.symm.trans hit'
      exact absurd pending left
  obtain ⟨keptEnd, fixed⟩ := final
  obtain ⟨r, tally⟩ := keptEnd.tally
  have ne := (approverSubjects_nodup w.db τ id).sublist (approvers_sublist _)
  refine ⟨q, r, ended.found, tally.found, ?_, ?_, tally.count, fun left => (fixed left).2⟩
  · rw [Nodup.dedup ne]
    exact tally.stands.approved_iff
  · intro subject' mem
    obtain ⟨d, noted, rfl⟩ := mem_map.mp ((approvers_sublist _).subset mem)
    rw [tally.requester]
    exact tally.others d noted

/-- A request that takes one approval. -/
def openedBy (requester : String) : Event where
  id := "e1"
  tenantId := "t"
  sequence := 1
  time := 1
  timeSet := Nat.one_ne_zero
  body := .governance (.accessChangeRequestCreated {
    tenantId := "t", id := "r", requestedAction := "grant"
    requesterSubject := requester
    nhiId := "n", nhiKind := "service", displayName := "n", ownerRef := "", resource := "db"
    entitlement := "read", changeRef := "c", changeSystem := "", changeUrl := "", risk := ""
    reason := "need", evidenceRefs := [], status := "pending", requiredApprovals := 1
    createdAt := 1, updatedAt := 1 })

/-- The read model after the request is projected. -/
def openedDb (requester : String) : Database Row :=
  ((apply plainDigest 0 (openedBy requester) .empty).toOption).getD .empty

def approval (subject : String) : Call where
  tenantId := "t"
  requestId := "r"
  input := { decision := "approved", approverSubject := subject }
  nowSet := Nat.one_ne_zero

def decideAtOnce (c : Call) : List Action := [.check c, .append 0, .project]

theorem execute_decideAtOnce (check : checkDecision db.tables c = .ok payload)
    (done : apply h now ((c.event payload).numbered 1) db = .ok db') :
    ∃ w, execute (World.step h now) { db := db } (decideAtOnce c) = some w ∧ w.db = db' := by
  simp only [decideAtOnce, execute, World.step, check, Option.bind_some, nil_append,
    getElem?_cons_zero, Option.map_some, length_nil, Nat.zero_add, done]
  exact ⟨_, rfl, rfl⟩

def outcome (db : Database Row) : Option (String × String) × List String :=
  ((requestOf db.tables "t" "r").map fun r => (r.status, r.requesterSubject),
    approvers (decisionsOf db.tables "t" "r"))

/-- One of two colleagues approves the request of the other. -/
theorem colleague_approves : ∃ w r,
    executeIf (World.step plainDigest 0) uncut { db := openedDb "alice" }
        (decideAtOnce (approval "bob")) = some w ∧
      outcome w.db = (some ("approved", "alice"), ["bob"]) ∧
      requestOf w.db.tables "t" "r" = some r ∧
      (r.status = "approved" ↔
        r.requiredApprovals ≤ (approvers (decisionsOf w.db.tables "t" "r")).dedup.length) := by
  have ran : (executeIf (World.step plainDigest 0) uncut { db := openedDb "alice" }
      (decideAtOnce (approval "bob"))).map (fun w => outcome w.db) =
        some (some ("approved", "alice"), ["bob"]) := by decide +kernel
  obtain ⟨w, executed, ended⟩ := Option.map_eq_some_iff.mp ran
  have opened : Opened (openedDb "alice").tables "t" "r" := by
    have kept : (requestOf (openedDb "alice").tables "t" "r").map
        (fun r => (r.status, r.approvalCount)) = some ("pending", 0) := by decide +kernel
    obtain ⟨r, hit, columns⟩ := Option.map_eq_some_iff.mp kept
    obtain ⟨pending, unapproved⟩ := Prod.mk.inj columns
    exact ⟨r, hit, pending, unapproved, isEmpty_iff.mp (by decide +kernel)⟩
  obtain ⟨-, r, -, hit, quorum, -⟩ :=
    quorum_decides opened (run_of_executeIf executed) (.nil _)
  exact ⟨w, r, executed, ended, hit, quorum⟩

/-- A subject of 181 bytes, whose last rune takes two. -/
def longSubject : String := String.ofList (replicate 179 'a' ++ ['é'])

/-- What `trimBounded` leaves of it. -/
def cutSubject : GoString := replicate 179 (.rune 'a') ++ [.stray 0xC3]

theorem trimBounded_longSubject : trimBounded longSubject 180 = cutSubject := by
  decide +kernel

/-- The requester passes the checks: what is compared is cut, and no stored subject is. -/
theorem checkDecision_longSubject :
    checkDecision (openedDb (reread cutSubject)).tables (approval longSubject) =
      .ok { requestId := "r", decision := "approved", approverSubject := cutSubject, reason := []
            decisionEvidenceRefs := [], decidedAt := 1 } := by
  have approver : (approval longSubject).approver = cutSubject := by
    have nonempty : cutSubject ≠ [] := by decide +kernel
    simp only [Call.approver, approval, trimBounded_longSubject, nonempty, if_false]
  have compared : ∀ s, cutSubject ≠ ofText s := by
    intro s same
    have whole := GoString.whole_ofText s
    rw [← same] at whole
    exact absurd whole (by decide +kernel)
  have kept : (requestOf (openedDb (reread cutSubject)).tables "t" "r").map (·.status) =
      some "pending" := by decide +kernel
  obtain ⟨r, hit, pending⟩ := Option.map_eq_some_iff.mp kept
  have unset : decisionsOf (openedDb (reread cutSubject)).tables "t" "r" = [] :=
    isEmpty_iff.mp (by decide +kernel)
  have named : requestOf (openedDb (reread cutSubject)).tables (approval longSubject).tenantId
      (trimSpace (approval longSubject).requestId) = some r := hit
  have reason : trimBounded (approval longSubject).input.reason 500 = [] := by decide +kernel
  have decision : toLower (trimSpace (approval longSubject).input.decision) = "approved" := by
    decide +kernel
  have norm : normalizeAccessChangeDecision r (approval longSubject) =
      .ok { requestId := r.id, decision := "approved", approverSubject := cutSubject, reason := []
            decisionEvidenceRefs := [], decidedAt := 1 } := by
    unfold normalizeAccessChangeDecision
    have known : ¬ ("approved" ≠ "approved" ∧ "approved" ≠ "denied") := by decide
    have here : cutSubject ≠ [] := by decide +kernel
    simp only [approver, decision, reason, if_neg known, if_neg here, if_neg (compared _)]
    rfl
  unfold checkDecision
  rw [named]
  simp only [pending, ne_eq, not_true_eq_false, if_false, norm, (requestOf_key hit).2]
  rw [show (approval longSubject).tenantId = "t" from rfl, unset]
  rfl

/-- The requester approves the own request: the subject that is compared is cut inside its last
rune, and the one that is stored is not. -/
theorem cut_subject_approves_itself : ∃ w,
    execute (World.step plainDigest 0) { db := openedDb (reread (trimBounded longSubject 180)) }
        (decideAtOnce (approval longSubject)) = some w ∧
      outcome w.db = (some ("approved", reread (trimBounded longSubject 180)),
        [reread (trimBounded longSubject 180)]) := by
  rw [trimBounded_longSubject]
  let payload : Decided := {
    requestId := "r", decision := "approved", approverSubject := cutSubject, reason := []
    decisionEvidenceRefs := [], decidedAt := 1 }
  have done : (apply plainDigest 0 (((approval longSubject).event payload).numbered 1)
      (openedDb (reread cutSubject))).toOption.map outcome =
        some (some ("approved", reread cutSubject), [reread cutSubject]) := by decide +kernel
  obtain ⟨db', ok, ended⟩ := Option.map_eq_some_iff.mp done
  obtain ⟨w, ran, rfl⟩ :=
    execute_decideAtOnce checkDecision_longSubject (toOption_eq_some.mp ok)
  exact ⟨w, ran, ended⟩

end Trustctl.Approvals
