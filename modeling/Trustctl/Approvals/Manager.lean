import Trustctl.Approvals.ProfileEdits

/-!
# The approval manager

`RequestIssuance`, `Approve` and `Deny` on one id of a store.  A call reads the request, decides,
issues and saves its copy, without a lock or a version check: calls that overlap do not see each
other, and a request under an id that is taken replaces the one before.

* `Kept.step`: what a step keeps while calls do not overlap;
* `issued_once_with_quorum`: then the request is issued at most once and with its quorum, is never
  taken out of a final state, and can be completed after `Issue` failed;
* `overlapping_approvals_issue_twice`: two approvals that overlap both issue.
-/

namespace Trustctl.Approvals.Manager

open Store (Time)
open Systems List ProfileEdits

/-! ## Calls -/

/-- `Config` after `New`, and the key of the request; without a policy everyone is permitted. -/
structure Config where
  tenantId : String
  id : String
  permits : String → Bool := fun _ => true
  defaultTtl : Nat := 60 * 60 * 1000000000
  defaultRequiredApprovals : Nat := 2

/-- What a call has left to do: to issue and then to save its copy, or only to save it. -/
inductive Phase
  | issuing (r : Request)
  | saving (r : Request)

def approveCount (r : Request) : Nat := r.approvals.countP (·.decision = "approve")

/-- `Approve` once it has read the request. -/
def approve (cfg : Config) (now : Time) (approver : String) (r : Request) : Option Phase :=
  if r.state = .issued ∨ r.state = .denied then none
  else if r.state = .expired ∨ r.expiresAt < now then
    if r.state = .expired then none else some (.saving { r with state := .expired })
  else if approver = r.requester then none
  else if !cfg.permits approver then none
  else if r.approvals.any fun a => a.approver = approver ∧ a.decision = "approve" then none
  else
    let r := { r with approvals := r.approvals ++ [⟨approver, "approve", now⟩] }
    if r.requiredApprovals ≤ approveCount r then some (.issuing { r with state := .approved })
    else some (.saving r)

/-- `Deny` once it has read the request. -/
def deny (now : Time) (approver : String) (r : Request) : Option Phase :=
  if r.state = .issued ∨ r.state = .denied then none
  else
    some (.saving { r with
      approvals := r.approvals ++ [⟨approver, "deny", now⟩], state := .denied })

/-- A call of `Issue`: the copy it is made for, and what the store holds. -/
structure Issue where
  request : Request
  stored : Option Request
  succeeded : Bool

/-- The request in the store, the calls in flight, and the calls of `Issue` so far. -/
structure World where
  stored : Option Request := none
  calls : List Phase := []
  issues : List Issue := []
  clock : Time

def World.successes (w : World) : Nat := w.issues.countP Issue.succeeded

inductive Action
  | tick (elapsed : Nat)
  | request (requester resource : String) (requiredApprovals ttl : Nat)
  | approve (approver : String)
  | deny (approver : String)
  | issue (i : Nat) (outcome : Option String)
  | save (i : Nat)

/-- `RequestIssuance` saves, `Approve` and `Deny` read, and a call in flight issues or saves. -/
def World.step (cfg : Config) (w : World) : Action → Option World
  | .tick elapsed => some { w with clock := w.clock + elapsed }
  | .request requester resource requiredApprovals ttl =>
    if cfg.id = "" ∨ requester = "" ∨ resource = "" then none
    else
      some { w with
        stored := some {
          id := cfg.id, tenantId := cfg.tenantId, resource, requester
          requiredApprovals :=
            if requiredApprovals = 0 then cfg.defaultRequiredApprovals else requiredApprovals
          createdAt := w.clock
          expiresAt := w.clock + if ttl = 0 then cfg.defaultTtl else ttl } }
  | .approve approver => do
    let p ← Manager.approve cfg w.clock approver (← w.stored)
    some { w with calls := w.calls ++ [p] }
  | .deny approver => do
    let p ← Manager.deny w.clock approver (← w.stored)
    some { w with calls := w.calls ++ [p] }
  | .issue i outcome =>
    match w.calls[i]? with
    | some (.issuing r) =>
      let after := match outcome with
        | some credentialId => { r with state := .issued, credentialId }
        | none => r
      some { w with
        calls := w.calls.set i (.saving after)
        issues := w.issues ++ [⟨r, w.stored, outcome.isSome⟩] }
    | _ => none
  | .save i =>
    match w.calls[i]? with
    | some (.saving r) => some { w with stored := some r, calls := w.calls.eraseIdx i }
    | _ => none

variable (cfg : Config)

/-- Someone who may approve the request has not done so. -/
def Spare (r : Request) : Prop :=
  ∃ approver, approver ≠ r.requester ∧ cfg.permits approver ∧
    ∀ a ∈ r.approvals, a.approver ≠ approver

/-- No call begins while another is in flight, the id is not used again, nobody approves at the very
instant the request expires or denies it after that, and `Issue` fails only while someone is left
who may approve. -/
def World.Orderly (w : World) : Action → Prop
  | .request .. => w.calls = [] ∧ w.stored = none
  | .approve _ => w.calls = [] ∧ ∀ r ∈ w.stored, w.clock ≠ r.expiresAt
  | .deny _ => w.calls = [] ∧ ∀ r ∈ w.stored, r.state ≠ .expired
  | .issue i none => ∀ r, w.calls[i]? = some (.issuing r) → Spare cfg r
  | _ => True

/-! ## What a step keeps -/

/-- The states that are never left. -/
def final (state : RequestState) : Prop := state = .issued ∨ state = .denied ∨ state = .expired

/-- Everyone who decided approved, once, in time, and may do so. -/
structure Sound (r : Request) : Prop where
  each : ∀ a ∈ r.approvals, a.decision = "approve" ∧ a.approver ≠ r.requester ∧
    cfg.permits a.approver ∧ a.at_ < r.expiresAt
  distinct : (r.approvals.map Approval.approver).Nodup

/-- What `Issue` is called for. -/
structure Issue.Proper (i : Issue) : Prop where
  quorum : i.request.requiredApprovals ≤ i.request.approvals.length
  sound : Sound cfg i.request
  undenied : ∀ r ∈ i.stored, ∀ a ∈ r.approvals, a.decision ≠ "deny"

/-- A copy that is saved, when `Issue` succeeded `n` times. -/
structure Settled (n : Nat) (r : Request) : Prop where
  sound : r.state ≠ .denied → Sound cfg r
  quorum : r.state = .approved → r.requiredApprovals ≤ approveCount r ∧ Spare cfg r
  unissued : r.state ≠ .issued → n = 0

def Phase.Ready (n : Nat) : Phase → Prop
  | .issuing r =>
    Sound cfg r ∧ r.state = .approved ∧ r.requiredApprovals ≤ approveCount r ∧ n = 0
  | .saving r => Settled cfg n r

/-- What the store holds and the calls in flight, of which there is at most one. -/
inductive Standing (n : Nat) : Option Request → List Phase → Prop
  | vacant (unissued : n = 0) : Standing n none []
  | idle {r : Request} (settled : Settled cfg n r) : Standing n (some r) []
  | busy {r : Request} {p : Phase} (live : ¬ final r.state) (sound : Sound cfg r)
      (ready : p.Ready cfg n) : Standing n (some r) [p]

structure World.Kept (w : World) : Prop where
  standing : Standing cfg w.successes w.stored w.calls
  once : w.successes ≤ 1
  proper : ∀ i ∈ w.issues, i.Proper cfg

variable {cfg} {now : Time} {approver : String} {r : Request} {p : Phase} {n : Nat}
  {w w' : World} {a : Action}

theorem Settled.live (done : Settled cfg n r) (live : ¬ final r.state) : Sound cfg r ∧ n = 0 :=
  ⟨done.sound fun denied => live (.inr (.inl denied)),
    done.unissued fun issued => live (.inl issued)⟩

theorem approveCount_snoc : approveCount { r with
    approvals := r.approvals ++ [⟨approver, "approve", now⟩] } = approveCount r + 1 := by
  simp [approveCount]

theorem Settled.approve (done : Settled cfg n r) (instant : now ≠ r.expiresAt)
    (approved : Manager.approve cfg now approver r = some p) :
    ¬ final r.state ∧ p.Ready cfg n := by
  obtain ⟨unset, approved⟩ := Option.ite_none_left_eq_some.mp approved
  have live (unexpired : r.state ≠ .expired) : ¬ final r.state := by grind [final]
  split at approved
  next late =>
    obtain ⟨unexpired, ⟨⟩⟩ := Option.ite_none_left_eq_some.mp approved
    obtain ⟨sound, unissued⟩ := done.live (live unexpired)
    exact ⟨live unexpired, fun _ => ⟨sound.each, sound.distinct⟩, nofun, fun _ => unissued⟩
  next due =>
    obtain ⟨unexpired, early⟩ := not_or.mp due
    obtain ⟨other, approved⟩ := Option.ite_none_left_eq_some.mp approved
    obtain ⟨legal, approved⟩ := Option.ite_none_left_eq_some.mp approved
    obtain ⟨new, approved⟩ := Option.ite_none_left_eq_some.mp approved
    obtain ⟨⟨each, ne⟩, unissued⟩ := done.live (live unexpired)
    have sound : Sound cfg { r with approvals := r.approvals ++ [⟨approver, "approve", now⟩] } := by
      refine ⟨forall_mem_snoc each ⟨rfl, other, by simpa using legal, ?_⟩, ?_⟩
      · exact Nat.lt_of_le_of_ne (Nat.not_lt.mp early) instant
      · rw [map_append, nodup_append]
        grind
    refine ⟨live unexpired, ?_⟩
    dsimp only at approved
    split at approved
    next quorum =>
      cases approved
      exact ⟨⟨sound.each, sound.distinct⟩, rfl, quorum, unissued⟩
    next gone =>
      cases approved
      refine ⟨fun _ => sound, fun old => ?_, fun _ => unissued⟩
      -- a request that reached its quorum goes on to `Issue`
      have got := (done.quorum old).1
      rw [approveCount_snoc] at gone
      omega

/-- A step keeps the request sound, and does not take it out of a final state. -/
theorem World.Kept.step (kept : w.Kept cfg) (orderly : w.Orderly cfg a)
    (moved : w.step cfg a = some w') :
    w'.Kept cfg ∧ ∀ r, w.stored = some r → final r.state → w'.stored = some r := by
  obtain ⟨stored, calls, issues, clock⟩ := w
  obtain ⟨standing, once, proper⟩ := kept
  cases a with
  | tick =>
    cases moved
    exact ⟨⟨standing, once, proper⟩, fun _ hit _ => hit⟩
  | request requester resource requiredApprovals ttl =>
    obtain ⟨-, ⟨⟩⟩ := Option.ite_none_left_eq_some.mp moved
    obtain ⟨rfl, rfl⟩ := orderly
    cases standing with
    | vacant unissued =>
      exact ⟨⟨.idle ⟨fun _ => ⟨nofun, .nil⟩, nofun, fun _ => unissued⟩, once, proper⟩, nofun⟩
  | approve approver =>
    obtain ⟨r, rfl, called⟩ := Option.bind_eq_some_iff.mp moved
    obtain ⟨p, approved, ⟨⟩⟩ := Option.bind_eq_some_iff.mp called
    obtain ⟨rfl, instant⟩ := orderly
    cases standing with
    | idle done =>
      obtain ⟨live, ready⟩ := done.approve (instant r rfl) approved
      exact ⟨⟨.busy live (done.live live).1 ready, once, proper⟩, fun _ hit _ => hit⟩
  | deny approver =>
    obtain ⟨r, rfl, called⟩ := Option.bind_eq_some_iff.mp moved
    obtain ⟨p, denied, ⟨⟩⟩ := Option.bind_eq_some_iff.mp called
    obtain ⟨unset, ⟨⟩⟩ := Option.ite_none_left_eq_some.mp denied
    obtain ⟨rfl, unexpired⟩ := orderly
    have live : ¬ final r.state := by grind [final]
    cases standing with
    | idle done =>
      obtain ⟨sound, unissued⟩ := done.live live
      refine ⟨⟨.busy live sound ?_, once, proper⟩, fun _ hit _ => hit⟩
      exact ⟨fun other => absurd rfl other, nofun, fun _ => unissued⟩
  | issue i out =>
    dsimp only [World.step] at moved
    split at moved
    next r' run =>
      cases moved
      cases standing with
      | vacant | idle => contradiction
      | @busy r p live sound ready =>
        obtain ⟨rfl, rfl⟩ : i = 0 ∧ p = .issuing r' := by grind
        obtain ⟨sound', approved, quorum, unissued⟩ := ready
        refine ⟨⟨.busy live sound ?_, ?_, forall_mem_snoc proper ?_⟩, fun _ hit _ => hit⟩
        · cases out with
          | none =>
            refine ⟨fun _ => sound', fun _ => ⟨quorum, orderly r' run⟩, fun _ => ?_⟩
            simpa [World.successes] using unissued
          | some credentialId =>
            exact ⟨fun _ => ⟨sound'.each, sound'.distinct⟩, nofun, fun other => absurd rfl other⟩
        · cases out <;> simp_all [World.successes]
        · refine ⟨Nat.le_trans quorum countP_le_length, sound', ?_⟩
          rintro _ ⟨⟩ a member denied
          exact absurd ((sound.each a member).1.symm.trans denied) (by decide)
    next => contradiction
  | save i =>
    dsimp only [World.step] at moved
    split at moved
    next r' run =>
      cases moved
      cases standing with
      | vacant | idle => contradiction
      | @busy r p live sound done =>
        obtain ⟨rfl, rfl⟩ : i = 0 ∧ p = .saving r' := by grind
        refine ⟨⟨.idle done, once, proper⟩, ?_⟩
        rintro _ ⟨⟩ final
        exact absurd final live
    next => contradiction

/-- While calls do not overlap and the id is not used again, the request is issued at most once,
with the approvals it requires and no denial; it is never taken out of a final state; and where
`Issue` failed, the approval of one more completes it. -/
theorem issued_once_with_quorum {as : List Action}
    (run : Run (World.step cfg) (World.Orderly cfg) { clock := now } as w) :
    w.successes ≤ 1 ∧ (∀ i ∈ w.issues, i.Proper cfg) ∧
      (∀ a w', w.Orderly cfg a → w.step cfg a = some w' → ∀ r, w.stored = some r →
        final r.state → w'.stored = some r) ∧
      ∀ r, w.calls = [] → w.stored = some r → r.state = .approved → w.clock ≤ r.expiresAt →
        ∃ approver, ∀ credentialId, ∃ w' r', execute (World.step cfg) w
          [.approve approver, .issue 0 (some credentialId), .save 0] = some w' ∧
          w'.stored = some r' ∧ r'.state = .issued := by
  have kept : w.Kept cfg := run.invariant
    (fun _ _ _ orderly moved kept => (kept.step orderly moved).1)
    ⟨.vacant rfl, Nat.zero_le 1, nofun⟩
  refine ⟨kept.once, kept.proper, fun a w' orderly moved => (kept.step orderly moved).2, ?_⟩
  rintro r calls stored approved early
  have done : Settled cfg w.successes r := by
    have standing := kept.standing
    rw [calls, stored] at standing
    cases standing
    assumption
  obtain ⟨got, approver, other, legal, new⟩ := done.quorum approved
  refine ⟨approver, fun credentialId => ?_⟩
  have goesOn : approve cfg w.clock approver r = some (.issuing { r with
      approvals := r.approvals ++ [⟨approver, "approve", w.clock⟩], state := .approved }) := by
    have due := Nat.not_lt.mpr early
    have unset : ¬ ∃ a ∈ r.approvals, a.approver = approver ∧ a.decision = "approve" := by grind
    simp only [approve, approved, due, other, legal, any_eq_true, decide_eq_true_eq, unset]
    exact if_pos (Nat.le_trans (Nat.le_succ_of_le got) (Nat.le_of_eq approveCount_snoc.symm))
  simp [execute, World.step, stored, goesOn, calls]

/-- One approval is enough, and the certificate is issued once. -/
theorem approved_request_issued : ∃ w : World, w.successes ≤ 1 ∧
    w.issues.map Issue.succeeded = [true] := by
  let cfg : Config := { tenantId := "t", id := "1" }
  obtain ⟨w, run, issued⟩ : ∃ w, Run (World.step cfg) (World.Orderly cfg) { clock := 0 }
      [.request "ann" "web" 1 0, .approve "bob", .issue 0 (some "c"), .save 0] w ∧
      w.issues.map Issue.succeeded = [true] := by
    refine ⟨_, .cons ⟨rfl, rfl⟩ rfl (.cons ⟨rfl, ?_⟩ rfl (.cons trivial rfl (.cons trivial rfl
      (.nil _)))), rfl⟩
    decide
  exact ⟨w, (issued_once_with_quorum run).1, issued⟩

/-- Two approvals that overlap both issue the credential. -/
theorem overlapping_approvals_issue_twice : ∃ w,
    execute (World.step { tenantId := "t", id := "1" }) { clock := 0 }
      [.request "ann" "web" 1 0, .approve "bob", .approve "eve", .issue 0 (some "c"),
        .issue 1 (some "d")] = some w ∧ w.successes = 2 :=
  ⟨_, rfl, rfl⟩

end Trustctl.Approvals.Manager
