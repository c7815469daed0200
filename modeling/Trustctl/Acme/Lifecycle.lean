import Trustctl.Acme.Reachable
import Mathlib.Data.List.Pairwise

/-!
# The lifecycle of an order

The status of an order is recomputed whenever one of its challenges is accepted, also after the
order is valid, and `finalize` gives up the mutex between looking at the status and storing the
certificate.

* `orders_move_forward`: where no challenge of a valid order is accepted, the finalize requests
  of an order do not overlap and nothing fails once the issuer has signed, orders only move
  forward and get one certificate.
* `valid_order_becomes_ready`: a second challenge takes a valid order back to ready, and a
  second finalize then stores a second certificate under another id.
-/

namespace Trustctl.Acme

open Systems List

/-! ## Requests that finalize -/

/-- The order a request is issuing a certificate for. -/
def Stage.finalizes : Stage → Option Nat
  | .issuing orderId _ => some orderId
  | .issued orderId _ => some orderId
  | _ => none

/-- Two requests do not finalize the same order. -/
def Apart (t t' : Task) : Prop := ∀ id, t.stage.finalizes = some id → t'.stage.finalizes ≠ some id

theorem Apart.symm {t t' : Task} (apart : Apart t t') : Apart t' t :=
  fun id later prior => apart id prior later

/-- How many leaves were signed for an order. -/
def signedFor (signed : List (Nat × Certificate)) (id : Nat) : Nat :=
  signed.countP fun entry => entry.1 = id

def storesFor (id : Nat) : StateEvent → Bool
  | .certificateIssued _ orderId _ _ _ => orderId = id
  | _ => false

/-- How many certificates were stored for an order. -/
def storedFor (log : List StateEvent) (id : Nat) : Nat := log.countP (storesFor id)

/-! ## The condition -/

/-- If the issuer signs, the leaf is recorded and returned. -/
def Oracle.signsThrough (o : Oracle) : Bool :=
  match o.sign with
  | .error _ => true
  | .ok _ => o.record.isOk && o.deliver.isOk

/-- A section finalizes an order that no other request is finalizing, accepts no challenge of a
valid order, and what the issuer signs in it is recorded, returned and logged. -/
def Task.finalizesOnce (w : World) (o : Oracle) (task : Task) : Bool :=
  match task.stage with
  | .dispatched =>
    match task.msg.call with
    | .finalize id _ => w.inFlight.all fun other => other.stage.finalizes ≠ some id
    | _ => true
  | .validated id _ =>
    match findChallenge id w.view with
    | .ok (_, az) => (w.view.orders az.orderId).all fun ord => ord.status ≠ .valid
    | .error _ => true
  | .issuing _ csr => (w.minted.lookup csr).isSome || o.signsThrough
  | .issued _ _ => o.append.isOk
  | _ => true

/-- The finalize requests of an order do not overlap, no challenge of a valid order is
accepted, and what the issuer signed is recorded, returned and logged. -/
def finalizesOnce (w : World) (a : Action × Oracle) : Bool :=
  match a.1 with
  | .proceed i => (w.inFlight[i]?).all fun task => task.finalizesOnce w a.2
  | _ => true

section Condition

variable {w : World} {i : Nat} {o : Oracle} {task : Task}

theorem finalizesOnce_proceed (meets : finalizesOnce w (.proceed i, o))
    (run : w.inFlight[i]? = some task) : task.finalizesOnce w o := by
  simpa [finalizesOnce, run] using meets

variable {orderId : Nat}

theorem Task.finalizesOnce_issuing (meets : task.finalizesOnce w o)
    {csr : Csr} (stage : task.stage = .issuing orderId csr)
    (unserved : w.minted.lookup csr = none) {leaf : Leaf} (signed : o.sign = .ok leaf) :
    ¬ (o.record ≠ .ok () ∨ o.deliver ≠ .ok ()) := by
  unfold Task.finalizesOnce Oracle.signsThrough at meets
  rw [stage] at meets
  dsimp only at meets
  rw [unserved, signed] at meets
  rcases record : o.record with _ | _
  · rw [record] at meets
    contradiction
  rcases deliver : o.deliver with _ | _
  · rw [record, deliver] at meets
    contradiction
  rintro (failed | failed) <;> exact failed rfl

end Condition

section Orders

variable {cfg : Config} {o : Oracle} {task : Task} {w w₁ : World} {next : Next}

/-- What a section makes of an order, under the condition. -/
inductive OrderMove (w : World) (task : Task) (id : Nat) (ord' : Order) : Prop
  | kept (found : w.view.orders id = some ord')
  | created (fresh : w.view.seq < id)
  | readied {ord : Order} (found : w.view.orders id = some ord) (unfinished : ord.status ≠ .valid)
      (now : ord' = { ord with status := .ready })
  | issued {ord : Order} {certId : Nat} {cert : Certificate} (stage : task.stage = .issued id cert)
      (found : w.view.orders id = some ord)
      (now : ord' = { ord with certId := some certId, status := .valid })

theorem ViewTurn.orders {v' : View} {log' : List StateEvent}
    (turn : ViewTurn cfg o task w.view w.log v' log') (wf : w.view.Wf) (good : task.Good w.view)
    (meets : task.finalizesOnce w o) {id : Nat} {ord' : Order}
    (hit : v'.orders id = some ord') : OrderMove w task id ord' := by
  cases turn with
  | quiet | orphaned => exact .kept (View.without_orders.mp hit).2
  | @written drop seq change v' past lets live =>
    have sound := lets.sound (wf.without drop) (good.mono (.without drop))
    cases sound.orders live (wf.without drop) hit with
    | kept old => exact .kept (View.without_orders.mp old).2
    | created new =>
      cases sound with
      | order tree => exact .created (new ▸ tree.order_id.1)
    | readied its old now all =>
      cases lets with
      | validate stage ch =>
        have before := (View.without_orders.mp old).2
        refine .readied before ?_ now
        simpa [Task.finalizesOnce, stage, findChallenge_without ch, its ▸ before] using meets
    | issued old now =>
      cases lets with
      | issue stage acct => exact .issued stage (View.without_orders.mp old).2 now

end Orders

/-! ## One certificate for each order -/

/-- Nothing was signed or stored for an order, and it is as finished as it was. -/
structure Untouched (w w₁ : World) (id : Nat) : Prop where
  seq : w.view.seq ≤ w₁.view.seq
  signed : signedFor w₁.signed id = signedFor w.signed id
  stored : storedFor w₁.log id = storedFor w.log id
  order : id ≤ w.view.seq → ∀ {ord'}, w₁.view.orders id = some ord' →
    ∃ ord, w.view.orders id = some ord ∧ (ord'.status = .valid ↔ ord.status = .valid)

/-- A request is finalizing the order: nothing is stored for it, and at most the leaf of this
request is signed. -/
structure Busy (w : World) (id : Nat) (stage : Stage) : Prop where
  handedOut : id ≤ w.view.seq
  unfinished : ∀ {ord}, w.view.orders id = some ord → ord.status ≠ .valid
  unstored : storedFor w.log id = 0
  signed : signedFor w.signed id ≤ 1
  unsigned : stage.isIssued = false → signedFor w.signed id = 0

/-- No request is finalizing the order: if something was signed or stored for it, the order is
valid or gone. -/
structure Idle (w : World) (id : Nat) : Prop where
  signed : signedFor w.signed id ≤ 1
  stored : storedFor w.log id ≤ 1
  finished : 0 < signedFor w.signed id + storedFor w.log id →
    id ≤ w.view.seq ∧ ∀ {ord}, w.view.orders id = some ord → ord.status = .valid

section Once

variable {cfg : Config} {o : Oracle} {task : Task} {w w₁ : World} {next : Next} {id : Nat}

variable {stage : Stage}

theorem Busy.mono (busy : Busy w id stage) (untouched : Untouched w w₁ id) : Busy w₁ id stage where
  handedOut := Nat.le_trans busy.handedOut untouched.seq
  unfinished found := by
    obtain ⟨ord, old, same⟩ := untouched.order busy.handedOut found
    exact mt same.mp (busy.unfinished old)
  unstored := untouched.stored.trans busy.unstored
  signed := untouched.signed ▸ busy.signed
  unsigned early := untouched.signed.trans (busy.unsigned early)

theorem Idle.mono (idle : Idle w id) (untouched : Untouched w w₁ id) : Idle w₁ id where
  signed := untouched.signed ▸ idle.signed
  stored := untouched.stored ▸ idle.stored
  finished some_ := by
    rw [untouched.signed, untouched.stored] at some_
    obtain ⟨out, valid⟩ := idle.finished some_
    refine ⟨Nat.le_trans out untouched.seq, fun hit => ?_⟩
    obtain ⟨ord, old, same⟩ := untouched.order out hit
    exact same.mpr (valid old)

/-- A request that is at the end before the issuer signed leaves the order idle. -/
theorem Busy.idle (busy : Busy w id stage) (early : stage.isIssued = false) : Idle w id where
  signed := busy.signed
  stored := by rw [busy.unstored]; exact Nat.zero_le _
  finished some_ := by
    rw [busy.unsigned early, busy.unstored] at some_
    omega

/-- A ready order that no request is finalizing has nothing signed or stored. -/
theorem Idle.busy (idle : Idle w id) (wf : w.view.Wf) {ord : Order}
    (hit : w.view.orders id = some ord) (ready : ord.status = .ready) (stage : Stage) :
    Busy w id stage := by
  have none_ : signedFor w.signed id + storedFor w.log id = 0 := by
    by_contra some_
    have valid := (idle.finished (Nat.pos_of_ne_zero some_)).2 hit
    rw [ready] at valid
    contradiction
  refine ⟨(wf.linked.order_id hit).2, fun hit' => ?_, ?_, ?_, fun _ => ?_⟩
  · rw [hit] at hit'
    cases hit'
    rw [ready]
    exact Status.noConfusion
  all_goals omega

/-- The event of a section stores nothing for an order the request does not finalize. -/
theorem Admits.storesFor {v v' : View} {seq : Nat} {change : Write}
    (lets : Admits cfg o task v seq change) (other : task.stage.finalizes ≠ some id) :
    storesFor id (change.event v') = false := by
  cases lets with
  | issue stage acct =>
    rw [stage] at other
    exact decide_eq_false fun same => other (congrArg some same)
  | register | amend | rekey | order | validate | revoke => rfl

theorem storedFor_append {log : List StateEvent} {e : StateEvent} :
    storedFor (log ++ [e]) id = storedFor log id + if storesFor id e then 1 else 0 := by
  unfold storedFor
  rw [countP_append, countP_singleton]

theorem signedFor_append {orderId : Nat} {signed : List (Nat × Certificate)} {cert : Certificate} :
    signedFor (signed ++ [(orderId, cert)]) id =
      signedFor signed id + if orderId = id then 1 else 0 := by
  unfold signedFor
  simp

/-- A section signs and stores only for the order its request finalizes. -/
theorem Turn.issues_none (turn : Turn cfg o task w w₁ next)
    (other : task.stage.finalizes ≠ some id) :
    signedFor w₁.signed id = signedFor w.signed id ∧ storedFor w₁.log id = storedFor w.log id := by
  have signs : ∀ {orderId csr}, task.stage = .issuing orderId csr → orderId ≠ id := by
    rintro orderId csr stage rfl
    rw [stage] at other
    exact other rfl
  cases turn with
  | done moves =>
    cases moves with
    | answer early calm sane =>
      rw [calm.rest]
      exact ⟨rfl, rfl⟩
    | sign stage | lose stage =>
      rw [signedFor_append, if_neg (signs stage)]
      exact ⟨rfl, rfl⟩
    | crash | wedge | dispatch | challenge | validated | finalize | reissue | revoke =>
      exact ⟨rfl, rfl⟩
  | unlogged refused calm lets =>
    rw [calm.rest]
    exact ⟨rfl, rfl⟩
  | orphaned calm lets | written _ calm lets =>
    rw [storedFor_append, lets.storesFor other, calm.rest]
    exact ⟨rfl, rfl⟩

/-- A section leaves alone the orders its request does not finalize. -/
theorem Turn.untouched (turn : Turn cfg o task w w₁ next) (wf : w.view.Wf)
    (good : task.Good w.view) (meets : task.finalizesOnce w o)
    (other : task.stage.finalizes ≠ some id) : Untouched w w₁ id where
  seq := ((turn.view wf).keeps wf good).2.seq
  signed := (turn.issues_none other).1
  stored := (turn.issues_none other).2
  order handedOut ord' found := by
    cases (turn.view wf).orders wf good meets found with
    | kept old => exact ⟨ord', old, .rfl⟩
    | created fresh => omega
    | @readied ord old unfinished now =>
      refine ⟨ord, old, fun valid => ?_, fun valid => absurd valid unfinished⟩
      rw [now] at valid
      contradiction
    | issued stage old now =>
      rw [stage] at other
      exact absurd rfl other

theorem untouched_without {drop : Nat → Bool} (view : w₁.view = w.view.without drop)
    (signed : w₁.signed = w.signed) (log : w₁.log = w.log) : Untouched w w₁ id where
  seq := by rw [view]; exact .refl
  signed := by rw [signed]
  stored := by rw [log]
  order _ ord' found := by
    rw [view] at found
    exact ⟨ord', (View.without_orders.mp found).2, .rfl⟩

theorem Admits.of_finalizes {v : View} {seq : Nat} {change : Write}
    (lets : Admits cfg o task v seq change) (its : task.stage.finalizes = some id) :
    ∃ cert record, task.stage = .issued id cert ∧ change = .issue id seq cert record := by
  cases lets with
  | issue stage acct =>
    rw [stage] at its
    cases its
    exact ⟨_, _, stage, rfl⟩
  | register stage | amend stage | rekey stage | order stage | validate stage | revoke stage =>
    rw [stage] at its
    contradiction

/-- The certificate of a request that finalizes an order is logged, and the order is valid or
gone. -/
theorem Busy.stored {e : StateEvent} (busy : Busy w id stage) (seq : w.view.seq ≤ w₁.view.seq)
    (log : w₁.log = w.log ++ [e]) (stores : storesFor id e) (signed : w₁.signed = w.signed)
    (valid : ∀ {ord}, w₁.view.orders id = some ord → ord.status = .valid) : Idle w₁ id where
  signed := signed ▸ busy.signed
  stored := by
    rw [log, storedFor_append, stores, busy.unstored]
    exact .refl
  finished _ := ⟨Nat.le_trans busy.handedOut seq, valid⟩

/-- The section of a request that finalizes an order: it goes on, or the order is idle again. -/
theorem Turn.finalizing (turn : Turn cfg o task w w₁ next) (wf : w.view.Wf)
    (good : task.Good w.view) (meets : task.finalizesOnce w o)
    (its : task.stage.finalizes = some id)
    (busy : Busy w id task.stage) (awake : w₁.wedged = false) :
    (∀ reply, next = .reply reply → Idle w₁ id) ∧
      ∀ stage, next = .stage stage → stage.finalizes = some id ∧ Busy w₁ id stage := by
  have seq_le := ((turn.view wf).keeps wf good).2.seq
  cases turn with
  | done moves =>
    cases moves with
    | answer early calm sane =>
      obtain ⟨drop, -, view⟩ := wf.exists_without calm.view
      have untouched : Untouched w w₁ id :=
        untouched_without view (by rw [calm.rest]) (by rw [calm.rest])
      exact ⟨fun _ _ => (busy.mono untouched).idle early, nofun⟩
    | crash early gone got => exact ⟨fun _ _ => busy.idle early, nofun⟩
    | wedge => contradiction
    | reissue stage noted =>
      rw [stage] at its
      cases its
      refine ⟨nofun, ?_⟩
      intro _ same
      cases same
      exact ⟨rfl, ⟨busy.handedOut, busy.unfinished, busy.unstored, busy.signed, nofun⟩⟩
    | sign stage unserved signed =>
      rw [stage] at its
      cases its
      have unsigned := busy.unsigned (by rw [stage]; rfl)
      refine ⟨nofun, ?_⟩
      intro _ same
      cases same
      refine ⟨rfl, ⟨busy.handedOut, busy.unfinished, busy.unstored, Nat.le_of_eq ?_, nofun⟩⟩
      rw [signedFor_append, if_pos rfl, unsigned]
    | lose stage unserved signed noted failed sane =>
      exact absurd failed (Task.finalizesOnce_issuing meets stage unserved signed)
    | dispatch stage | challenge stage | validated stage | finalize stage | revoke stage =>
      rw [stage] at its
      contradiction
  | unlogged refused calm lets =>
    obtain ⟨cert, record, stage, -⟩ := lets.of_finalizes its
    simp [Task.finalizesOnce, stage, refused, Except.isOk, Except.toBool] at meets
  | @orphaned w₂ seq change detail calm lets failed =>
    obtain ⟨cert, record, stage, rfl⟩ := lets.of_finalizes its
    have gone := View.applyCertificateIssuedEvent_error failed
    have signed : w₂.signed = w.signed := by rw [calm.rest]
    refine ⟨fun _ _ => busy.stored seq_le rfl (decide_eq_true rfl) signed ?_, nofun⟩
    intro ord hit
    cases gone.symm.trans hit
  | @written w₂ seq status change v calm lets live =>
    obtain ⟨cert, record, stage, rfl⟩ := lets.of_finalizes its
    obtain ⟨ord, here, orders, -⟩ := View.applyCertificateIssuedEvent_ok live
    have signed : w₂.signed = w.signed := by rw [calm.rest]
    refine ⟨fun _ _ => busy.stored seq_le rfl (decide_eq_true rfl) signed ?_, nofun⟩
    intro ord' hit
    rw [show (w₂.setView v).view = v from rfl, orders, Function.update_self] at hit
    cases hit
    rfl

/-! ## The requests in flight -/

/-- Where a request is after its section. -/
def Next.tasks (task : Task) : Next → List Task
  | .reply _ => []
  | .stage reached => [{ task with stage := reached }]

/-- The requests in flight, cut at the one whose section runs. -/
theorem settle_cut (next : Next) {i : Nat} (run : w.inFlight[i]? = some task)
    (same : w₁.inFlight = w.inFlight) : ∃ prior later, w.inFlight = prior ++ task :: later ∧
      (w₁.settle i task next).inFlight = prior ++ (next.tasks task ++ later) := by
  obtain ⟨bound, here⟩ := List.getElem?_eq_some_iff.mp run
  refine ⟨w.inFlight.take i, w.inFlight.drop (i + 1), ?_, ?_⟩
  · rw [← here, ← drop_eq_getElem_cons bound, take_append_drop]
  · cases next with
    | reply reply =>
      dsimp only [World.settle, Next.tasks]
      rw [same, eraseIdx_eq_take_drop_succ, nil_append]
    | stage stage =>
      dsimp only [World.settle]
      rw [same, set_eq_take_append_cons_drop, if_pos bound]
      rfl

/-- No two requests in flight finalize one order; an order is busy while one does, and idle
otherwise. -/
structure Once (w : World) : Prop where
  apart : w.inFlight.Pairwise Apart
  busy : ∀ t ∈ w.inFlight, ∀ id, t.stage.finalizes = some id → Busy w id t.stage
  idle : ∀ id, (∀ t ∈ w.inFlight, t.stage.finalizes ≠ some id) → Idle w id

/-- A request begins to finalize an order only while the order is ready. -/
theorem Turn.starts (turn : Turn cfg o task w w₁ (.stage stage))
    (old : task.stage.finalizes = none) (after : stage.finalizes = some id) :
    ∃ csr ord, task.stage = .dispatched ∧ task.msg.call = .finalize id (.ok csr) ∧
      w.view.orders id = some ord ∧ ord.status = .ready ∧ w₁ = w := by
  cases turn with
  | done moves =>
    cases moves with
    | finalize at_ call hit ready =>
      cases after
      exact ⟨_, _, at_, call, hit, ready, rfl⟩
    | reissue at_ | sign at_ =>
      rw [at_] at old
      contradiction
    | dispatch | challenge | validated | revoke => contradiction

namespace Once

protected theorem empty : Once {} where
  apart := List.Pairwise.nil
  busy := forall_mem_nil _
  idle _ _ := ⟨Nat.zero_le _, Nat.zero_le _, fun some_ => absurd some_ (Nat.lt_irrefl 0)⟩

variable (once : Once w)

include once

/-- At most one certificate is signed and stored for each order. -/
theorem counts (id : Nat) : signedFor w.signed id ≤ 1 ∧ storedFor w.log id ≤ 1 := by
  by_cases run : ∃ t ∈ w.inFlight, t.stage.finalizes = some id
  · obtain ⟨t, mem, its⟩ := run
    have busy := once.busy t mem id its
    exact ⟨busy.signed, by rw [busy.unstored]; exact Nat.zero_le _⟩
  · have idle := once.idle id fun t mem its => run ⟨t, mem, its⟩
    exact ⟨idle.signed, idle.stored⟩

/-- The same requests finalize the same orders, which are left alone. -/
theorem mono (untouched : ∀ id, Untouched w w₁ id)
    (going : ∃ new, w₁.inFlight = w.inFlight ++ new ∧ ∀ t ∈ new, t.stage.finalizes = none) :
    Once w₁ := by
  obtain ⟨new, same, harmless⟩ := going
  refine ⟨?_, fun t mem id its => ?_, fun id none_ => ?_⟩
  · rw [same, pairwise_append]
    refine ⟨once.apart, pairwise_of_forall_mem_list ?_, ?_⟩
    · intro t mem t' _ id its
      rw [harmless t mem] at its
      contradiction
    · intro t _ t' mem' id _ its
      rw [harmless t' mem'] at its
      contradiction
  · rw [same] at mem
    rcases mem_append.mp mem with old | added
    · exact (once.busy t old id its).mono (untouched id)
    · rw [harmless t added] at its
      contradiction
  · refine (once.idle id fun t mem => none_ t ?_).mono (untouched id)
    rw [same]
    exact mem_append_left _ mem

theorem others {prior later : List Task} (cut : w.inFlight = prior ++ task :: later)
    (same : ∀ id, task.stage.finalizes ≠ some id → Untouched w w₁ id) :
    (∀ t ∈ prior ++ later, Apart task t) ∧ (prior ++ later).Pairwise Apart ∧
      (∀ t ∈ prior ++ later, ∀ id, t.stage.finalizes = some id → Busy w₁ id t.stage) ∧
      ∀ id, task.stage.finalizes ≠ some id →
        (∀ t ∈ prior ++ later, t.stage.finalizes ≠ some id) → Idle w₁ id := by
  obtain ⟨alone, apart⟩ : (∀ t ∈ prior ++ later, Apart task t) ∧
      (prior ++ later).Pairwise Apart := by
    have apart := once.apart
    rw [cut, pairwise_middle Apart.symm] at apart
    exact pairwise_cons.mp apart
  have going : ∀ t, t ∈ w.inFlight ↔ t = task ∨ t ∈ prior ++ later := by
    rw [cut]
    simp only [mem_append, mem_cons]
    tauto
  refine ⟨alone, apart, fun t lt id its => ?_, fun id other none_ => ?_⟩
  · have other : task.stage.finalizes ≠ some id := fun here => alone t lt id here its
    exact (once.busy t ((going t).mpr (.inr lt)) id its).mono (same id other)
  · refine (once.idle id fun t lt => ?_).mono (same id other)
    rcases (going t).mp lt with here | old
    · rw [here]
      exact other
    · exact none_ t old

/-- The request whose section ran goes on at a stage no other request is at. -/
theorem goesOn (good : w.Good) (meets : task.finalizesOnce w o) (mem : task ∈ w.inFlight)
    (turn : Turn cfg o task w w₁ (.stage stage)) (awake : w₁.wedged = false)
    (its : stage.finalizes = some id) :
    Busy w₁ id stage ∧ ∀ t ∈ w.inFlight, Apart task t → t.stage.finalizes ≠ some id := by
  have served := good.tasks task mem
  cases old : task.stage.finalizes with
  | some id' =>
    have after := (turn.finalizing good.wf served meets old (once.busy task mem id' old) awake).2
    obtain ⟨same, busy⟩ := after stage rfl
    rw [its] at same
    cases same
    exact ⟨busy, fun t _ apart => apart id old⟩
  | none =>
    obtain ⟨csr, ord, at_, call, hit, ready, rfl⟩ := turn.starts old its
    have none_ : ∀ other ∈ w₁.inFlight, other.stage.finalizes ≠ some id := by
      simpa [Task.finalizesOnce, at_, call] using meets
    exact ⟨(once.idle id none_).busy good.wf hit ready stage, fun t lt _ => none_ t lt⟩

/-- A section of a request keeps the invariant, under the condition. -/
theorem proceed {i : Nat} (good : w.Good) (meets : task.finalizesOnce w o)
    (run : w.inFlight[i]? = some task) (turn : Turn cfg o task w w₁ next)
    (awake : w₁.wedged = false) :
    Once (w₁.settle i task next) := by
  have mem : task ∈ w.inFlight := mem_of_getElem? run
  have served := good.tasks task mem
  obtain ⟨prior, later, cut, cut'⟩ := settle_cut next run turn.inFlight
  have done : ∀ id, Untouched w₁ (w₁.settle i task next) id := by
    intro id
    cases next <;> exact ⟨.refl, rfl, rfl, fun _ ord' hit => ⟨ord', hit, .rfl⟩⟩
  obtain ⟨alone, apart, busy, idle⟩ := once.others cut fun id other =>
    turn.untouched good.wf served meets other
  cases next with
  | reply reply =>
    refine ⟨cut' ▸ apart, fun t lt id its => ?_, fun id none_ => ?_⟩
    · exact (busy t (cut' ▸ lt) id its).mono (done id)
    · refine Idle.mono ?_ (done id)
      by_cases its : task.stage.finalizes = some id
      · have before := once.busy task mem id its
        exact (turn.finalizing good.wf served meets its before awake).1 reply rfl
      · exact idle id its (cut' ▸ none_)
  | stage stage =>
    dsimp only [Next.tasks] at cut'
    rw [singleton_append] at cut'
    have rest : ∀ t ∈ prior ++ later, t ∈ w.inFlight := fun t lt =>
      cut ▸ ((sublist_cons_self task later).append_left prior).subset lt
    refine ⟨?_, fun t lt id its => ?_, fun id none_ => ?_⟩
    · rw [cut', pairwise_middle Apart.symm, pairwise_cons]
      refine ⟨fun t lt id its => ?_, apart⟩
      exact (once.goesOn good meets mem turn awake its).2 t (rest t lt) (alone t lt)
    · refine Busy.mono ?_ (done id)
      rw [cut', mem_append, mem_cons] at lt
      rcases lt with old | here | old
      · exact busy t (mem_append_left _ old) id its
      · rw [here] at its ⊢
        exact (once.goesOn good meets mem turn awake its).1
      · exact busy t (mem_append_right _ old) id its
    · refine Idle.mono ?_ (done id)
      rw [cut'] at none_
      have here := none_ _ (mem_append_right _ mem_cons_self)
      refine idle id (fun its => here ?_) fun t lt => none_ t ?_
      · have before := once.busy task mem id its
        exact ((turn.finalizing good.wf served meets its before awake).2 stage rfl).1
      · exact ((sublist_cons_self _ later).append_left prior).subset lt

variable {a : Action}

/-- A step keeps the invariant, unless it leaves the mutex locked. -/
theorem step {w' : World} (good : w.Good) (meets : finalizesOnce w (a, o))
    (moved : Step cfg o w a w') (awake : w'.wedged = false) : Once w' := by
  cases moved.kind with
  | quiet quiet =>
    obtain ⟨drop, -, view⟩ := good.wf.exists_without quiet.view
    refine once.mono (fun _ => untouched_without view quiet.signed quiet.log) ?_
    rcases quiet.inFlight with same | ⟨msg, caller, -, -, more⟩
    · exact ⟨[], by rw [same, append_nil], forall_mem_nil _⟩
    · refine ⟨_, more, fun t mem => ?_⟩
      rw [mem_singleton.mp mem]
      rfl
  | @proceed i task w₂ next run turn =>
    refine once.proceed good (finalizesOnce_proceed meets run) run turn ?_
    cases next <;> exact awake
  | mark =>
    refine once.mono (fun _ => ⟨.refl, rfl, ?_, fun _ ord' hit => ?_⟩) ?_
    · exact storedFor_append
    · exact ⟨ord', hit, .rfl⟩
    · exact ⟨[], (append_nil _).symm, forall_mem_nil _⟩

/-- Setting the clock changes nothing else. -/
theorem setClock {now : Nat} : Once { w with clock := now } := by
  refine once.mono (fun _ => ⟨.refl, rfl, rfl, fun _ ord' hit => ?_⟩) ?_
  · exact ⟨ord', hit, .rfl⟩
  · exact ⟨[], (append_nil _).symm, forall_mem_nil _⟩

end Once

/-- The step that leaves the mutex locked signs and stores nothing. -/
theorem Step.wedges {a : Action} {w' : World} (moved : Step cfg o w a w')
    (old : w.wedged = false) (after : w'.wedged) :
    w'.signed = w.signed ∧ w'.log = w.log := by
  cases moved.kind with
  | quiet quiet => exact ⟨quiet.signed, quiet.log⟩
  | @proceed i task w₂ next run turn =>
    have wedged : w₂.wedged := by cases next <;> exact after
    have calmly : ∀ {w₃ : World}, Calm cfg o.now w w₃ → w₃.wedged = false := by
      intro w₃ calm
      rw [calm.rest]
      exact old
    cases turn with
    | done moves =>
      cases moves with
      | wedge => exact ⟨rfl, rfl⟩
      | answer early calm sane => exact absurd ((calmly calm).symm.trans wedged) Bool.false_ne_true
      | crash | dispatch | challenge | validated | finalize | reissue | sign | lose | revoke =>
        exact absurd (old.symm.trans wedged) Bool.false_ne_true
    | unlogged _ calm | orphaned calm | written _ calm =>
      exact absurd ((calmly calm).symm.trans wedged) Bool.false_ne_true
  | mark => exact absurd (old.symm.trans after) Bool.false_ne_true

end Once

/-! ## Orders only move forward -/

/-- The statuses of an order, in the order it passes them. -/
def Status.rank : Status → Nat
  | .pending => 0
  | .ready => 1
  | .valid => 2

/-- Orders go from pending to ready to valid, keep the certificate of their valid status, and
do not come back once they are gone. -/
structure OrdersForward (v v' : View) : Prop where
  status : ∀ {id ord ord'}, v.orders id = some ord → v'.orders id = some ord' →
    ord.status.rank ≤ ord'.status.rank ∧ ord'.status.rank ≤ ord.status.rank + 1
  certId : ∀ {id ord ord'}, v.orders id = some ord → v'.orders id = some ord' →
    ord.status = .valid → ord'.certId = ord.certId
  fresh : ∀ {id ord'}, v.orders id = none → v'.orders id = some ord' → v.seq < id

section Forward

variable {cfg : Config} {o : Oracle} {w w' : World}

theorem ordersForward_of_kept {v v' : View}
    (kept : ∀ {id ord'}, v'.orders id = some ord' → v.orders id = some ord') :
    OrdersForward v v' := by
  have same : ∀ {id ord ord'}, v.orders id = some ord → v'.orders id = some ord' → ord' = ord :=
    fun old after => Option.some.inj ((kept after).symm.trans old)
  refine ⟨fun old after => ?_, fun old after _ => ?_, fun old after => ?_⟩
  · rw [same old after]
    exact ⟨.refl, Nat.le_succ _⟩
  · rw [same old after]
  · rw [kept after] at old
    contradiction

theorem OrderMove.forward {task : Task} {id : Nat} {ord ord' : Order}
    (move : OrderMove w task id ord') (once : Once w) (good : w.Good) (mem : task ∈ w.inFlight)
    (old : w.view.orders id = some ord) :
    (ord.status.rank ≤ ord'.status.rank ∧ ord'.status.rank ≤ ord.status.rank + 1) ∧
      (ord.status = .valid → ord'.certId = ord.certId) := by
  cases move with
  | kept hit =>
    cases hit.symm.trans old
    exact ⟨⟨.refl, Nat.le_succ _⟩, fun _ => rfl⟩
  | created fresh =>
    have out := (good.wf.linked.order_id old).2
    omega
  | readied hit unfinished now =>
    cases hit.symm.trans old
    refine ⟨?_, fun valid => absurd valid unfinished⟩
    rw [now]
    dsimp only
    cases status : ord.status with
    | pending | ready => decide
    | valid => exact absurd status unfinished
  | issued stage hit now =>
    have unfinished := (once.busy task mem id (by rw [stage]; rfl)).unfinished old
    have led := (good.tasks task mem).led
    unfold Task.Led at led
    rw [stage] at led
    have done := led.2.2 ord old
    refine ⟨?_, fun valid => absurd valid unfinished⟩
    rw [now]
    dsimp only
    cases status : ord.status with
    | pending => exact absurd status done
    | ready => decide
    | valid => exact absurd status unfinished

theorem Step.forward {a : Action} (moved : Step cfg o w a w') (once : Once w) (good : w.Good)
    (meets : finalizesOnce w (a, o)) : OrdersForward w.view w'.view := by
  cases moved.kind with
  | quiet quiet =>
    obtain ⟨drop, -, view⟩ := good.wf.exists_without quiet.view
    rw [view]
    exact ordersForward_of_kept fun hit => (View.without_orders.mp hit).2
  | @proceed i task w₂ next run turn =>
    have mem := mem_of_getElem? run
    have view : (w₂.settle i task next).view = w₂.view := settle_view
    have move : ∀ {id ord'}, w₂.view.orders id = some ord' → OrderMove w task id ord' :=
      (turn.view good.wf).orders good.wf (good.tasks task mem) (finalizesOnce_proceed meets run)
    rw [view]
    refine ⟨fun old after => ?_, fun old after => ?_, fun old after => ?_⟩
    · exact ((move after).forward once good mem old).1
    · exact ((move after).forward once good mem old).2
    · cases move after with
      | created fresh => exact fresh
      | kept hit | readied hit | issued _ hit =>
        rw [hit] at old
        contradiction
  | mark => exact ordersForward_of_kept id

end Forward

/-- In every run in which the finalize requests of an order do not overlap, no challenge of a
valid order is accepted and what the issuer signed is recorded, returned and logged: at most
one certificate is signed and stored for each order, every order past pending has all its
authorizations valid, and every step moves the orders forward. -/
theorem orders_move_forward {cfg : Config} {actions : List (Action × Oracle)} {w : World}
    (run : Run (step cfg) (fun w a => finalizesOnce w a) {} actions w) :
    (∀ id, signedFor w.signed id ≤ 1 ∧ storedFor w.log id ≤ 1) ∧
      (∀ {id ord}, w.view.orders id = some ord → ord.status ≠ .pending →
        ∀ a ∈ ord.authzIds, ∃ az, w.view.authzs a = some az ∧ az.status = .valid) ∧
      ∀ {a w'}, finalizesOnce w a → step cfg w a = some w' → OrdersForward w.view w'.view := by
  have invariant : w.Good ∧ (∀ id, signedFor w.signed id ≤ 1 ∧ storedFor w.log id ≤ 1) ∧
      (w.wedged = false → Once w) := by
    refine run.invariant (I := fun w => w.Good ∧
      (∀ id, signedFor w.signed id ≤ 1 ∧ storedFor w.log id ≤ 1) ∧ (w.wedged = false → Once w)) ?_
      ⟨World.good_empty, Once.empty.counts, fun _ => .empty⟩
    rintro w ⟨a, o⟩ w' meets moved ⟨good, counts, once⟩
    obtain ⟨awake, -, -, was⟩ := step_cases moved
    have good' := good.setClock o.now
    have once' : w'.wedged = false → Once w' := (once awake).setClock.step good' meets was
    refine ⟨(was.keeps good').1, ?_, once'⟩
    cases after : w'.wedged with
    | false => exact (once' after).counts
    | true =>
      obtain ⟨signed, log⟩ := was.wedges awake after
      rw [signed, log]
      exact counts
  obtain ⟨good, counts, once⟩ := invariant
  refine ⟨counts, fun hit done a listed => ?_, fun {a w'} meets moved => ?_⟩
  · obtain ⟨az, here, -⟩ := good.wf.linked.authz_of_order hit listed
    exact ⟨az, here, good.wf.linked.valid_of_settled hit done listed here⟩
  · obtain ⟨a, o⟩ := a
    obtain ⟨awake, -, -, was⟩ := step_cases moved
    exact was.forward (once awake).setClock (good.setClock o.now) meets

/-- One order, from its request to its certificate. -/
theorem order_finalized_once :
    ∃ w, execute (step {}) {} (finalized ⟨"csr", ["a.example"]⟩) = some w ∧
      (w.view.orders 2).map Order.status = some .valid ∧ signedFor w.signed 2 = 1 ∧
      ∀ id, signedFor w.signed id ≤ 1 ∧ storedFor w.log id ≤ 1 := by
  have run : ∃ w, executeIf (step {}) finalizesOnce {} (finalized ⟨"csr", ["a.example"]⟩) =
      some w ∧ execute (step {}) {} (finalized ⟨"csr", ["a.example"]⟩) = some w ∧
      (w.view.orders 2).map Order.status = some .valid ∧ signedFor w.signed 2 = 1 :=
    ⟨_, rfl, rfl, rfl, rfl⟩
  obtain ⟨w, cond, ran, valid, signed⟩ := run
  exact ⟨w, ran, valid, signed, (orders_move_forward (run_of_executeIf cond)).1⟩

/-- The same order after its second challenge was accepted, and after it was finalized again. -/
theorem valid_order_becomes_ready :
    ∃ w₁ w₂ w₃, execute (step {}) {} (finalized ⟨"csr", ["a.example"]⟩) = some w₁ ∧
      execute (step {}) w₁ (accept 5 "n5" "n6") = some w₂ ∧
      execute (step {}) w₂
        (finalizing ⟨"csr2", ["a.example"]⟩ "n6" "n7" ++ [sign "02", go]) = some w₃ ∧
      (w₁.view.orders 2).map (fun ord => (ord.status, ord.certId)) = some (.valid, some 7) ∧
      (w₂.view.orders 2).map (fun ord => (ord.status, ord.certId)) = some (.ready, some 7) ∧
      (w₃.view.orders 2).map (fun ord => (ord.status, ord.certId)) = some (.valid, some 8) ∧
      signedFor w₃.signed 2 = 2 ∧ storedFor w₃.log 2 = 2 :=
  ⟨_, _, _, rfl, rfl, rfl, rfl, rfl, rfl, rfl, rfl⟩

end Trustctl.Acme
