import Trustctl.Acme.Steps

/-!
# Reachable states of the ACME server

`World.Good` is the invariant every run keeps: the view is well-formed and every request in
flight is at a stage its message leads to, for a caller the wrapper found.  `Evolves` is what
no step undoes: accounts stay, and an order that was ready is never pending again.
-/

namespace Trustctl.Acme

open Systems List

/-! ## What no step undoes -/

/-- An id that was handed out and is not the id of a pending order. -/
def Settled (v : View) (id : Nat) : Prop :=
  id ≤ v.seq ∧ ∀ o, v.orders id = some o → o.status ≠ .pending

/-- What no step undoes. -/
structure Evolves (v v' : View) : Prop where
  seq : v.seq ≤ v'.seq
  account : ∀ {url acct}, v.accounts url = some acct → ∃ acct', v'.accounts url = some acct'
  settled : ∀ {id}, Settled v id → Settled v' id

namespace Evolves

variable {v v' v'' : View}

protected theorem trans (first : Evolves v v') (second : Evolves v' v'') : Evolves v v'' where
  seq := Nat.le_trans first.seq second.seq
  account found := by
    obtain ⟨acct, found⟩ := first.account found
    exact second.account found
  settled before := second.settled (first.settled before)

protected theorem without (drop : Nat → Bool) : Evolves v (v.without drop) where
  seq := .refl
  account found := ⟨_, found⟩
  settled before := ⟨before.1, fun o found => before.2 o (View.without_orders.mp found).2⟩

protected theorem setSeq {seq : Nat} (grows : v.seq ≤ seq) : Evolves v { v with seq := seq } where
  seq := grows
  account found := ⟨_, found⟩
  settled before := ⟨Nat.le_trans before.1 grows, before.2⟩

protected theorem write {seq : Nat} {change : Write} (sound : change.Sound v seq) (wf : v.Wf)
    (wrote : change.live { v with seq := seq } = .ok v') : Evolves v v' where
  seq := (sound.counter wrote).symm ▸ sound.seq_le
  account found := sound.account_stays wrote found
  settled {id} before := by
    refine ⟨Nat.le_trans before.1 ((sound.counter wrote).symm ▸ sound.seq_le), ?_⟩
    intro o' found
    cases sound.orders wrote wf found with
    | kept old => exact before.2 o' old
    | created new =>
      -- a new order has a new id
      cases sound with
      | order tree =>
        have out := before.1
        have above := tree.order_id.1
        omega
    | readied _ _ now | issued _ now => rw [now]; exact Status.noConfusion

end Evolves

/-! ## Requests in flight -/

/-- The caller of a request is the one the wrapper found. -/
def Task.Called (v : View) (task : Task) : Prop :=
  match task.caller.account with
  | some url => task.msg.kid = some url ∧ ∃ acct, v.accounts url = some acct
  | none => task.msg.kid = none ∧ task.msg.jwk = some (.ok task.caller.key)

/-- The stage of a request is one its message leads to. -/
def Task.Led (v : View) (task : Task) : Prop :=
  match task.stage with
  | .authenticated => True
  | .dispatched => True
  | .validating ch _ => task.msg.call = .acceptChallenge ch.id
  | .validated id _ => task.msg.call = .acceptChallenge id
  | .issuing id csr => task.msg.call = .finalize id (.ok csr) ∧ Settled v id
  | .issued id _ => (∃ csr, task.msg.call = .finalize id (.ok csr)) ∧ Settled v id
  | .revoking fingerprint _ => fingerprint ≠ ""

/-- A request in flight is where its message leads, for the caller the wrapper found, and was
verified before its handler began. -/
structure Task.Good (v : View) (task : Task) : Prop where
  called : task.Called v
  verified : task.stage ≠ .authenticated → task.msg.verify task.caller.key
  led : task.Led v

theorem Task.Good.mono {v v' : View} {task : Task} (good : task.Good v) (moves : Evolves v v') :
    task.Good v' where
  called := by
    have called := good.called
    unfold Task.Called at called ⊢
    split at called
    case h_1 url account =>
      obtain ⟨kid, acct, hit⟩ := called
      exact ⟨kid, moves.account hit⟩
    case h_2 account => exact called
  verified := good.verified
  led := by
    have led := good.led
    unfold Task.Led at led ⊢
    split at led
    case h_5 | h_6 => exact ⟨led.1, moves.settled led.2⟩
    all_goals exact led

theorem Admits.sound {cfg : Config} {o : Oracle} {task : Task} {v : View} {seq : Nat}
    {change : Write} (lets : Admits cfg o task v seq change) (wf : v.Wf) (good : task.Good v) :
    change.Sound v seq := by
  have led := good.led
  unfold Task.Led at led
  cases lets with
  | register stage call jwk new =>
    exact .register rfl rfl rfl (wf.indexed.byKey_none new)
  | @amend req key acct stage call jwk known =>
    obtain ⟨hit, -⟩ := wf.indexed.of_byKey known
    obtain ⟨-, -, kept, -⟩ := wf.indexed.account hit
    have same : (acct.jwk <|> some key) = acct.jwk := by rw [kept]; rfl
    rw [same]
    exact .amend req.contact hit
  | rekey stage call account check hit free =>
    have here := (wf.indexed.account hit).1
    exact .rekey (here ▸ hit) (fun other index => here ▸ free other index)
  | order stage call account types =>
    refine .order (newTree_buildAuthzs rfl rfl ?_)
    intro done
    unfold nextOrder at done
    split at done
    case isTrue trusted => rw [if_pos trusted]
    case isFalse => exact absurd rfl done
  | @validate id keyAuth ch az stage hit =>
    obtain ⟨challenge, authz⟩ := findChallenge_ok hit
    have chId := (wf.linked.challenge_id challenge).1
    have azId := (wf.linked.authz_id authz).1
    exact .validate (chId.symm ▸ challenge) (azId.symm ▸ authz) azId.symm
  | issue stage account =>
    rw [stage] at led
    exact .issue _ _ led.2.2
  | revoke stage fresh =>
    rw [stage] at led
    exact .revoke _ led

/-! ## Every run keeps the invariant -/

/-- The view is well-formed and every request in flight is good. -/
structure World.Good (w : World) : Prop where
  wf : w.view.Wf
  tasks : ∀ task ∈ w.inFlight, task.Good w.view

theorem World.good_empty : World.Good {} :=
  ⟨View.wf_empty, forall_mem_nil _⟩

section Keeps

variable {cfg : Config} {o : Oracle} {w w₁ : World}

variable {v v' : View}

/-- Pruning or not, the view is the one before without some orders that were due. -/
theorem View.Wf.exists_without {q : Quota} {now : Nat} (wf : v.Wf)
    (view : v' = v ∨ v' = v.prune q now) :
    ∃ drop, (∀ id, drop id → v.due q now id) ∧ v' = v.without drop := by
  rcases view with same | pruned
  · refine ⟨fun _ => false, fun id cut => Bool.noConfusion cut, ?_⟩
    rw [same, View.without_absent wf.linked fun _ _ _ => rfl]
  · exact ⟨v.due q now, fun _ cut => cut, pruned.trans (View.prune_eq wf.linked q now)⟩

/-- What a section does to the view and to the log: ids are handed out, orders that are due
are dropped, and a write is logged and made. -/
inductive ViewTurn (cfg : Config) (o : Oracle) (task : Task) (v : View) (log : List StateEvent) :
    View → List StateEvent → Prop
  | quiet {drop : Nat → Bool} {seq : Nat}
      (expired : ∀ id, drop id → v.due cfg.quota o.now id) (grows : v.seq ≤ seq) :
      ViewTurn cfg o task v log { v.without drop with seq := seq } log
  | orphaned {drop : Nat → Bool} {seq : Nat} {change : Write} {detail : String}
      (expired : ∀ id, drop id → v.due cfg.quota o.now id)
      (admits : Admits cfg o task (v.without drop) seq change)
      (failed : change.live { v.without drop with seq := seq } = .error detail)
      (still : task.stage ≠ .dispatched → ∀ id, drop id = false) :
      ViewTurn cfg o task v log { v.without drop with seq := seq }
        (log ++ [change.event { v.without drop with seq := seq }])
  | written {drop : Nat → Bool} {seq : Nat} {change : Write} {v' : View}
      (expired : ∀ id, drop id → v.due cfg.quota o.now id)
      (admits : Admits cfg o task (v.without drop) seq change)
      (live : change.live { v.without drop with seq := seq } = .ok v')
      (still : task.stage ≠ .dispatched → ∀ id, drop id = false) :
      ViewTurn cfg o task v log v' (log ++ [change.event { v.without drop with seq := seq }])

variable {task : Task}

theorem Admits.seq_le {seq : Nat} {change : Write} (lets : Admits cfg o task v seq change) :
    v.seq ≤ seq := by
  cases lets with
  | register | issue => exact Nat.le_succ _
  | order => omega
  | amend | rekey | validate | revoke => exact .refl

variable {next : Next}

theorem Turn.view (turn : Turn cfg o task w w₁ next) (wf : w.view.Wf) :
    ViewTurn cfg o task w.view w.log w₁.view w₁.log := by
  have same : ∀ {seq : Nat}, w.view.seq ≤ seq →
      ViewTurn cfg o task w.view w.log { w.view with seq := seq } w.log := by
    intro seq grows
    have unpruned : w.view = w.view ∨ w.view = w.view.prune cfg.quota o.now := .inl rfl
    obtain ⟨drop, past, view⟩ := wf.exists_without unpruned
    have quiet : ViewTurn cfg o task w.view w.log { w.view.without drop with seq := seq } w.log :=
      .quiet past grows
    rwa [← view] at quiet
  have pruned : ∀ {w₂ : World}, Calm cfg o.now w w₂ → (task.stage ≠ .dispatched → w₂ = w) →
      ∃ drop, (∀ id, drop id → w.view.due cfg.quota o.now id) ∧
        (task.stage ≠ .dispatched → ∀ id, drop id = false) ∧ w₂.view = w.view.without drop := by
    intro w₂ calm still
    by_cases early : task.stage = .dispatched
    · obtain ⟨drop, past, view⟩ := wf.exists_without calm.view
      exact ⟨drop, past, fun late => absurd early late, view⟩
    · refine ⟨fun _ => false, fun id cut => Bool.noConfusion cut, fun _ _ => rfl, ?_⟩
      rw [still early, View.without_absent wf.linked fun _ _ _ => rfl]
  cases turn with
  | done moves =>
    cases moves with
    | answer early calm sane =>
      obtain ⟨drop, past, view⟩ := wf.exists_without calm.view
      rw [view, calm.rest]
      exact .quiet past .refl
    | wedge => exact same (Nat.le_succ _)
    | dispatch stage valid minted =>
      obtain ⟨drop, past, view⟩ := wf.exists_without (.inr (Server.mintNonce_view minted))
      dsimp only [World.view]
      rw [view]
      exact .quiet past .refl
    | crash | challenge | validated | finalize | reissue | sign | lose | revoke =>
      exact same .refl
  | @unlogged w₂ seq change detail refused calm lets =>
    obtain ⟨drop, past, view⟩ := wf.exists_without calm.view
    have log : (w₂.setSeq seq).log = w.log := by rw [calm.rest]; rfl
    rw [view] at lets
    rw [log, show (w₂.setSeq seq).view = { w₂.view with seq := seq } from rfl, view]
    exact .quiet past lets.seq_le
  | @orphaned w₂ seq change detail calm lets failed still =>
    obtain ⟨drop, past, idle, view⟩ := pruned calm still
    rw [view] at lets failed
    have orphan : ViewTurn cfg o task w.view w.log { w.view.without drop with seq := seq }
        (w.log ++ [change.event { w.view.without drop with seq := seq }]) :=
      .orphaned past lets failed idle
    rw [← view] at orphan
    exact orphan
  | written w₂ calm lets live still =>
    obtain ⟨drop, past, idle, view⟩ := pruned calm still
    rw [view] at lets live ⊢
    exact .written past lets live idle

/-- A section of a good request keeps the view well-formed and undoes nothing. -/
theorem ViewTurn.keeps {log log' : List StateEvent} (turn : ViewTurn cfg o task v log v' log')
    (wf : v.Wf) (good : task.Good v) :
    v'.Wf ∧ Evolves v v' := by
  cases turn with
  | @quiet drop seq past grows =>
    exact ⟨(wf.without drop).setSeq grows, (Evolves.without drop).trans (.setSeq grows)⟩
  | @orphaned drop seq change detail past lets failed =>
    exact ⟨(wf.without drop).setSeq lets.seq_le, (Evolves.without drop).trans (.setSeq lets.seq_le)⟩
  | @written drop seq change v' past lets live =>
    have sound := lets.sound (wf.without drop) (good.mono (.without drop))
    exact ⟨sound.wf (wf.without drop) live,
      (Evolves.without drop).trans (.write sound (wf.without drop) live)⟩

/-- A section logs at most one event. -/
theorem ViewTurn.log {log log' : List StateEvent} (turn : ViewTurn cfg o task v log v' log') :
    log' = log ∨ ∃ e, log' = log ++ [e] := by
  cases turn with
  | quiet => exact .inl rfl
  | orphaned | written => exact .inr ⟨_, rfl⟩

/-- A section leaves the requests in flight where they are. -/
theorem Turn.inFlight (turn : Turn cfg o task w w₁ next) : w₁.inFlight = w.inFlight := by
  cases turn with
  | done moves =>
    cases moves with
    | answer early calm sane => exact calm.inFlight
    | crash | wedge | dispatch | challenge | validated | finalize | reissue | sign | lose
        | revoke =>
      rfl
  | unlogged _ calm | orphaned calm | written _ calm => exact calm.inFlight

theorem Turn.log_stage {stage : Stage} (turn : Turn cfg o task w w₁ (.stage stage)) :
    w₁.log = w.log := by
  cases turn with
  | done moves => cases moves <;> rfl

theorem Turn.good_next {stage : Stage} (turn : Turn cfg o task w w₁ (.stage stage)) (wf : w.view.Wf)
    (good : task.Good w.view) : Task.Good w₁.view { task with stage } := by
  have evolves := ((turn.view wf).keeps wf good).2
  have called := (good.mono evolves).called
  have led := good.led
  unfold Task.Led at led
  have later {at_ : Stage} (stage : task.stage = at_) (late : at_ ≠ .authenticated) :=
    good.verified (stage ▸ late)
  cases turn with
  | done moves =>
    cases moves with
    | dispatch at_ valid minted => exact ⟨called, fun _ => valid, trivial⟩
    | @challenge id ch az at_ call hit =>
      have chId := (wf.linked.challenge_id (findChallenge_ok hit).1).1
      refine ⟨called, fun _ => later at_ nofun, ?_⟩
      exact call.trans (congrArg Call.acceptChallenge chId.symm)
    | validated at_ acct hit verdict =>
      rw [at_] at led
      exact ⟨called, fun _ => later at_ nofun, led⟩
    | @finalize id csr ord at_ call hit ready =>
      refine ⟨called, fun _ => later at_ nofun, call, ?_⟩
      refine ⟨(wf.linked.order_id hit).2, fun ord' hit' => ?_⟩
      rw [hit] at hit'
      cases hit'
      rw [ready]
      exact Status.noConfusion
    | reissue at_ | sign at_ =>
      rw [at_] at led
      exact ⟨called, fun _ => later at_ nofun, ⟨_, led.1⟩, led.2⟩
    | revoke at_ call known hit =>
      exact ⟨called, fun _ => later at_ nofun, known⟩

theorem good_findCaller {msg : Message} {caller : Caller} (hit : findCaller v msg = .ok caller) :
    Task.Good v { msg, caller, stage := .authenticated } := by
  refine ⟨?_, fun later => absurd rfl later, trivial⟩
  unfold findCaller at hit
  split at hit
  case h_1 url kid =>
    split at hit
    · contradiction
    case h_2 acct here =>
      cases hit
      exact ⟨kid, acct, here⟩
  case h_2 kid =>
    split at hit
    case h_1 key jwk =>
      cases hit
      exact ⟨kid, jwk⟩
    all_goals contradiction

theorem mem_settle {i : Nat} {other : Task} (mem : other ∈ (w₁.settle i task next).inFlight) :
    other ∈ w₁.inFlight ∨ ∃ stage, next = .stage stage ∧ other = { task with stage } := by
  cases next with
  | reply reply => exact .inl (mem_of_mem_eraseIdx mem)
  | stage stage =>
    rcases mem_or_eq_of_mem_set mem with old | rfl
    · exact .inl old
    · exact .inr ⟨stage, rfl, rfl⟩

theorem settle_view {i : Nat} : (w₁.settle i task next).view = w₁.view := by
  cases next <;> rfl

/-- Every step keeps the invariant and undoes nothing. -/
theorem Step.keeps {a : Action} {w' : World} (moved : Step cfg o w a w') (good : w.Good) :
    w'.Good ∧ Evolves w.view w'.view := by
  have stay : ∀ {v : View}, Evolves w.view v → ∀ task ∈ w.inFlight, task.Good v :=
    fun moves task mem => (good.tasks task mem).mono moves
  cases moved.kind with
  | quiet quiet =>
    obtain ⟨drop, -, view⟩ := good.wf.exists_without quiet.view
    have moves : Evolves w.view w'.view := by
      rw [view]
      exact .without drop
    have wf : w'.view.Wf := by
      rw [view]
      exact good.wf.without drop
    refine ⟨⟨wf, fun task mem => ?_⟩, moves⟩
    rcases quiet.inFlight with same | ⟨msg, caller, -, hit, more⟩
    · exact stay moves task (same ▸ mem)
    · rw [more] at mem
      rcases mem_snoc.mp mem with old | rfl
      · exact stay moves task old
      · exact good_findCaller hit
  | @proceed i task w₂ next run turn =>
    have served := good.tasks task (mem_of_getElem? run)
    obtain ⟨wf, moves⟩ := (turn.view good.wf).keeps good.wf served
    have view : (w₂.settle i task next).view = w₂.view := settle_view
    refine ⟨⟨view ▸ wf, fun other mem => ?_⟩, view ▸ moves⟩
    rw [view]
    rcases mem_settle mem with old | ⟨stage, rfl, rfl⟩
    · exact stay moves other (turn.inFlight ▸ old)
    · exact turn.good_next good.wf served
  | @mark certId =>
    have sound : (Write.mark certId).Sound w.view w.view.seq := .mark certId
    exact ⟨⟨sound.wf good.wf rfl, stay (.write sound good.wf rfl)⟩, .write sound good.wf rfl⟩

theorem World.Good.setClock (good : w.Good) (now : Nat) : World.Good { w with clock := now } :=
  ⟨good.wf, good.tasks⟩

end Keeps

end Trustctl.Acme
