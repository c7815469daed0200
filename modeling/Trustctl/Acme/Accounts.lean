import Trustctl.Acme.Reachable

/-!
# Accounts and their keys

An account is changed by registration and key rollover only (`Step.accounts`).  The wrapper
checks a request under the key of its `kid` when there is one, while registration takes the key
from the `jwk` of the header: a request that carries both is verified under one key and changes
the account of another.

* `accounts_change_under_own_key`: without such requests, accounts change only under their own
  keys, every nonce is accepted once and the key index is the inverse of the account table.
* `registration_changes_other_account`: a request with both changes the contact of an account
  whose key did not sign it.
-/

namespace Trustctl.Acme

open Systems List Option

/-- How a request changes an account. -/
inductive AccountStep (v : View) (task : Task) (url : AccountUrl) (acct' : Account) : Prop
  | registered {req : NewAccountRequest} (call : task.msg.call = .newAccount (.ok req))
      (jwk : task.msg.jwkKey = .ok acct'.key) (new : v.accounts url = none)
  | amended {req : NewAccountRequest} {old : Account}
      (call : task.msg.call = .newAccount (.ok req)) (jwk : task.msg.jwkKey = .ok acct'.key)
      (found : v.accounts url = some old) (key : acct'.key = old.key)
  | rekeyed {inner : Except String InnerJws} {old : Account}
      (call : task.msg.call = .keyChange inner) (account : task.caller.account = some url)
      (checked : checkInner url inner = .ok (acct'.key, old.key))
      (found : v.accounts url = some old) (contact : acct'.contact = old.contact)

section Steps

variable {cfg : Config} {o : Oracle} {w w' : World} {a : Action} {url : AccountUrl}

/-- A section of a request changes an account by registration or rollover, which is logged. -/
theorem ViewTurn.accounts {task : Task} {v v' : View} {log log' : List StateEvent}
    (turn : ViewTurn cfg o task v log v' log') (wf : v.Wf) (good : task.Good v)
    {acct' : Account} (hit : v'.accounts url = some acct') :
    v.accounts url = some acct' ∨
      log' ≠ log ∧ task.stage = .dispatched ∧ AccountStep v task url acct' := by
  cases turn with
  | quiet | orphaned => exact .inl hit
  | @written drop seq change v' past lets live =>
    have sound := lets.sound (wf.without drop) (good.mono (.without drop))
    have logged : log ++ [change.event { v.without drop with seq := seq }] ≠ log := by simp
    cases sound.accounts live (wf.without drop) hit with
    | kept old => exact .inl old
    | registered new its =>
      cases lets with
      | register stage call jwk unknown =>
        exact .inr ⟨logged, stage, .registered call jwk new⟩
    | amended old key =>
      cases lets with
      | @amend req key' acct stage call jwk known =>
        have its := ((wf.without drop).indexed.of_byKey known).2
        exact .inr ⟨logged, stage, .amended call (its ▸ jwk) old key⟩
    | rekeyed old its contact =>
      cases lets with
      | @rekey inner url' newKey acct stage call account check present free =>
        -- the account of the rollover is the one that changed
        have here : url = url' := its.trans (wf.indexed.account present).1
        subst here
        rw [present] at old
        cases old
        exact .inr ⟨logged, stage, .rekeyed call account check present contact⟩

/-- A step changes an account only for a request that registers or rolls its key over. -/
theorem Step.accounts (moved : Step cfg o w a w') (good : w.Good)
    {acct' : Account} (hit : w'.view.accounts url = some acct') :
    w.view.accounts url = some acct' ∨ ∃ task, Serves w (a, o) task ∧ task.stage = .dispatched ∧
        AccountStep w.view task url acct' := by
  cases moved.kind with
  | quiet quiet =>
    obtain ⟨drop, -, view⟩ := good.wf.exists_without quiet.view
    rw [view] at hit
    exact .inl hit
  | @proceed i task w₁ next run turn =>
    have view : (w₁.settle i task next).view = w₁.view := settle_view
    rw [view] at hit
    have served := good.tasks task (mem_of_getElem? run)
    rcases (turn.view good.wf).accounts good.wf served hit with old | ⟨-, stage, change⟩
    · exact .inl old
    · exact .inr ⟨task, ⟨i, rfl, run⟩, stage, change⟩
  | mark => exact .inl hit

end Steps

/-! ## Nonces -/

/-- The nonces that can still be used were drawn and not spent, and none was spent twice. -/
structure NoncesOnce (w : World) : Prop where
  live : ∀ n ∈ w.server.nonces, n.1 ∈ w.drawn ∧ n.1 ∉ w.spent
  known : ∀ nonce ∈ w.spent, nonce ∈ w.drawn
  once : w.spent.Nodup

theorem noncesOnce_empty : NoncesOnce {} :=
  ⟨forall_mem_nil _, forall_mem_nil _, nodup_nil⟩

namespace NoncesOnce

variable {cfg : Config} {o : Oracle} {w w₁ : World}

variable (once : NoncesOnce w)

include once

theorem sublist (nonces : w₁.server.nonces.Sublist w.server.nonces)
    (drawn : w₁.drawn = w.drawn) (spent : w₁.spent = w.spent) : NoncesOnce w₁ where
  live n member := by
    rw [drawn, spent]
    exact once.live n (nonces.subset member)
  known := by
    rw [drawn, spent]
    exact once.known
  once := by
    rw [spent]
    exact once.once

theorem calm {now : Nat} (calm : Calm cfg now w w₁) : NoncesOnce w₁ :=
  once.sublist calm.nonces (by rw [calm.rest]) (by rw [calm.rest])

theorem mint {q : Quota} {now : Nat} {nonce : Nonce} {s s' : Server}
    (minted : s.mintNonce q now nonce = some s') (nonces : s.nonces.Sublist w.server.nonces)
    (new : nonce ∉ w.drawn) {w₁ : World} (srv : w₁.server = s')
    (drawn : w₁.drawn = nonce :: w.drawn) (spent : w₁.spent = w.spent) : NoncesOnce w₁ where
  live n member := by
    obtain ⟨-, ⟨⟩⟩ := ite_none_left_eq_some.mp minted
    rw [srv] at member
    rw [drawn, spent]
    rcases mem_cons.mp member with rfl | old
    · exact ⟨mem_cons_self .., fun again => new (once.known _ again)⟩
    · obtain ⟨wasDrawn, unspent⟩ := once.live n (nonces.subset (mem_of_mem_filter old))
      exact ⟨mem_cons_of_mem _ wasDrawn, unspent⟩
  known other member := by
    rw [spent] at member
    rw [drawn]
    exact mem_cons_of_mem _ (once.known other member)
  once := by
    rw [spent]
    exact once.once

theorem turn {task : Task} {next : Next} (new : o.nonce ∉ w.drawn)
    (turn : Turn cfg o task w w₁ next) : NoncesOnce w₁ := by
  cases turn with
  | done moves =>
    cases moves with
    | answer early calm sane => exact once.calm calm
    | dispatch stage valid minted => exact once.mint minted filter_sublist new rfl rfl rfl
    | crash | wedge | challenge | validated | finalize | reissue | sign | lose | revoke =>
      exact once.sublist (.refl _) rfl rfl
  | unlogged _ calm | orphaned calm | written _ calm =>
    exact (once.calm calm).sublist (.refl _) rfl rfl

theorem step {a : Action} {w' : World} (new : o.nonce ∉ w.drawn) (moved : Step cfg o w a w') :
    NoncesOnce w' := by
  cases moved with
  | idle calm => exact once.calm calm
  | nonce w₂ calm minted =>
    exact once.mint minted calm.nonces new rfl rfl (by rw [calm.rest])
  | replayed calm sane => exact (once.calm calm).sublist (.refl _) rfl rfl
  | @accepted msg fresh entered spends =>
    -- the nonce leaves the live ones when it is spent
    have entersOnce : NoncesOnce entered := by
      obtain ⟨at_, mem⟩ := fresh
      obtain ⟨wasDrawn, unspent⟩ := once.live _ mem
      subst spends
      refine ⟨fun n live => ?_, fun nonce spent => ?_, nodup_cons.mpr ⟨unspent, once.once⟩⟩
      · obtain ⟨kept, other⟩ := mem_filter.mp live
        obtain ⟨nDrawn, nUnspent⟩ := once.live n (mem_of_mem_filter kept)
        refine ⟨nDrawn, fun spent => ?_⟩
        rcases mem_cons.mp spent with same | old
        · exact of_decide_eq_true other same
        · exact nUnspent old
      · rcases mem_cons.mp spent with rfl | old
        · exact wasDrawn
        · exact once.known nonce old
    unfold World.enter
    split <;> exact entersOnce.sublist (.refl _) rfl rfl
  | @proceed i task w₂ next run turn =>
    have after := once.turn new turn
    cases next <;> exact after.sublist (.refl _) rfl rfl
  | unmarked => exact once
  | mark => exact once.sublist (.refl _) rfl rfl

end NoncesOnce

/-! ## Requests one after the other -/

/-- A request is received when the one before is answered. -/
def sequential (w : World) (a : Action × Oracle) : Bool :=
  match a.1 with
  | .receive _ => w.inFlight.isEmpty
  | _ => true

/-- No registration carries both a `kid` and a `jwk`. -/
def oneKey (a : Action × Oracle) : Bool :=
  match a.1 with
  | .receive { call := .newAccount _, kid, jwk, .. } => kid.isNone || jwk.isNone
  | _ => true

/-- At most one request is in flight, its account still has the key it was checked under, and
it does not register with two keys. -/
structure Alone (w : World) : Prop where
  single : w.inFlight.length ≤ 1
  current : ∀ task ∈ w.inFlight, ∀ {url acct}, task.caller.account = some url →
    w.view.accounts url = some acct → task.caller.key = acct.key
  oneKey : ∀ task ∈ w.inFlight, ∀ {payload}, task.msg.call = .newAccount payload →
    task.msg.kid = none ∨ task.msg.jwk = none

theorem alone_empty : Alone {} :=
  ⟨Nat.zero_le _, forall_mem_nil _, forall_mem_nil _⟩

section Sequential

variable {cfg : Config} {o : Oracle} {w w' : World} {a : Action}

theorem Alone.congr (alone : Alone w) (going : w'.inFlight = w.inFlight)
    (accts : ∀ {url acct}, w'.view.accounts url = some acct →
      w.view.accounts url = some acct) : Alone w' where
  single := going ▸ alone.single
  current task member _ _ account found :=
    alone.current task (going ▸ member) account (accts found)
  oneKey task member := alone.oneKey task (going ▸ member)

theorem alone_of_nil (idle : w.inFlight = []) : Alone w := by
  refine ⟨by rw [idle]; exact Nat.zero_le _, ?_, ?_⟩ <;>
    · intro task mem
      rw [idle] at mem
      exact absurd mem not_mem_nil

theorem Alone.step (alone : Alone w) (good : w.Good) (serial : sequential w (a, o))
    (single : Acme.oneKey (a, o)) (moved : Step cfg o w a w') : Alone w' := by
  cases moved.kind with
  | quiet quiet =>
    obtain ⟨drop, -, view⟩ := good.wf.exists_without quiet.view
    have accts : w'.view.accounts = w.view.accounts := by rw [view]; rfl
    rcases quiet.inFlight with same | ⟨msg, caller, rfl, hit, more⟩
    · exact alone.congr same fun hit => accts ▸ hit
    · have only : w'.inFlight = [{ msg, caller, stage := .authenticated }] := by
        rw [more, List.isEmpty_iff.mp serial]
        rfl
      refine ⟨Nat.le_of_eq (congrArg length only), ?_, ?_⟩
      · intro task mem url acct account here
        rw [only, mem_singleton] at mem
        subst mem
        unfold findCaller at hit
        split at hit
        case h_1 kid =>
          split at hit
          · contradiction
          case h_2 stored holds =>
            cases hit
            cases account
            exact congrArg Account.key (some.inj (holds.symm.trans here))
        case h_2 =>
          split at hit
          · cases hit
            contradiction
          all_goals contradiction
      · intro task mem body call
        rw [only, mem_singleton] at mem
        subst mem
        obtain ⟨kid, jwk, nonce, signer, called⟩ := msg
        subst call
        simpa [Acme.oneKey] using single
  | @proceed i task w₁ next run turn =>
    have served := good.tasks task (mem_of_getElem? run)
    have going := turn.inFlight
    cases next with
    | reply reply =>
      refine alone_of_nil ?_
      unfold World.settle
      rw [going]
      obtain ⟨lt, -⟩ := List.getElem?_eq_some_iff.mp run
      have single := alone.single
      refine eq_nil_of_length_eq_zero ?_
      rw [length_eraseIdx, if_pos lt]
      omega
    | stage stage =>
      have accts : ∀ {url acct}, w₁.view.accounts url = some acct →
          w.view.accounts url = some acct := by
        intro url acct hit
        rcases (turn.view good.wf).accounts good.wf served hit with old | ⟨logged, -⟩
        · exact old
        · exact absurd turn.log_stage logged
      have mem := mem_of_getElem? run
      refine ⟨?_, ?_, ?_⟩
      · unfold World.settle
        rw [length_set, going]
        exact alone.single
      · intro other later url acct account hit
        rcases mem_settle later with old | ⟨_, -, rfl⟩
        · exact alone.current other (going ▸ old) account (accts hit)
        · exact alone.current task mem account (accts hit)
      · intro other later body call
        rcases mem_settle later with old | ⟨_, -, rfl⟩
        · exact alone.oneKey other (going ▸ old) call
        · exact alone.oneKey task mem call
  | mark => exact alone.congr rfl id

end Sequential

/-! ## Accounts change under their own keys -/

/-- What a step may do to accounts: they stay, contacts change in a request verified under the
account's current key, keys in a rollover signed by both keys, and a new account's key signed
the request that created it. -/
structure AccountsKept (w : World) (a : Action × Oracle) (w' : World) : Prop where
  stays : ∀ {url acct}, w.view.accounts url = some acct → ∃ acct', w'.view.accounts url = some acct'
  contact : ∀ {url acct acct'}, w.view.accounts url = some acct →
    w'.view.accounts url = some acct' → acct'.contact ≠ acct.contact →
    ∃ task, Serves w a task ∧ task.msg.verify acct.key
  key : ∀ {url acct acct'}, w.view.accounts url = some acct →
    w'.view.accounts url = some acct' → acct'.key ≠ acct.key →
    ∃ task jws, Serves w a task ∧ task.msg.call = .keyChange (.ok jws) ∧
      task.msg.verify acct.key ∧ jws.signer = some acct'.key.pub
  created : ∀ {url acct'}, w.view.accounts url = none → w'.view.accounts url = some acct' →
    ∃ task, Serves w a task ∧ task.msg.verify acct'.key

theorem checkInner_ok {url : AccountUrl} {inner : Except String InnerJws} {newKey oldKey : AcmeKey}
    (check : checkInner url inner = .ok (newKey, oldKey)) :
    ∃ jws, inner = .ok jws ∧ jws.signer = some newKey.pub := by
  unfold checkInner at check
  split at check
  · contradiction
  case h_2 jws =>
    split at check
    · contradiction
    case h_2 key jwk =>
      split at check
      · contradiction
      case isFalse signed =>
        split at check
        · contradiction
        · split at check
          · contradiction
          · split at check
            · contradiction
            · cases check
              exact ⟨jws, rfl, not_not.mp signed⟩

/-- A registration was verified under the key of its header, if it has only one. -/
theorem verify_jwkKey {v : View} {task : Task} {key : AcmeKey} (good : task.Good v)
    (stage : task.stage = .dispatched) (single : task.msg.kid = none ∨ task.msg.jwk = none)
    (jwk : task.msg.jwkKey = .ok key) : task.msg.verify key := by
  have valid := good.verified (by rw [stage]; exact Stage.noConfusion)
  have called := good.called
  unfold Task.Called at called
  unfold Message.jwkKey at jwk
  split at called
  case h_1 url account =>
    rcases single with noKid | noJwk
    · rw [noKid] at called
      exact absurd called.1 (some_ne_none url).symm
    · rw [noJwk] at jwk
      contradiction
  case h_2 account =>
    rw [called.2] at jwk
    cases jwk
    exact valid

/-- One step between requests that come one after the other. -/
theorem accountsKept_step {cfg : Config} {w w' : World} {a : Action × Oracle} (good : w.Good)
    (alone : Alone w) (moved : step cfg w a = some w') : AccountsKept w a w' := by
  obtain ⟨-, -, -, was⟩ := step_cases moved
  have good' := good.setClock a.2.now
  have moves := (was.keeps good').2
  -- what changed an account, with the verification behind it
  have diff : ∀ {url acct'}, w'.view.accounts url = some acct' →
      w.view.accounts url = some acct' ∨ ∃ task, Serves w a task ∧ task.stage = .dispatched ∧
        task.Good w.view ∧ task ∈ w.inFlight ∧ AccountStep w.view task url acct' := by
    intro url acct' hit
    rcases was.accounts good' hit with old | ⟨task, serves, stage, change⟩
    · exact .inl old
    · have mem : task ∈ w.inFlight := by
        obtain ⟨i, -, run⟩ := serves
        exact mem_of_getElem? run
      exact .inr ⟨task, serves, stage, good.tasks task mem, mem, change⟩
  refine ⟨fun hit => moves.account hit, ?_, ?_, ?_⟩
  · intro url acct acct' before after differs
    rcases diff after with same | ⟨task, serves, stage, served, mem, change⟩
    · cases same.symm.trans before
      exact absurd rfl differs
    · cases change with
      | registered call jwk new => cases new.symm.trans before
      | amended call jwk hit key =>
        cases hit.symm.trans before
        refine ⟨task, serves, ?_⟩
        rw [← key]
        exact verify_jwkKey served stage (alone.oneKey task mem call) jwk
      | rekeyed call account check hit contact =>
        cases hit.symm.trans before
        exact absurd contact differs
  · intro url acct acct' before after differs
    rcases diff after with same | ⟨task, serves, stage, served, mem, change⟩
    · cases same.symm.trans before
      exact absurd rfl differs
    · cases change with
      | registered call jwk new => cases new.symm.trans before
      | amended call jwk hit key =>
        cases hit.symm.trans before
        exact absurd key differs
      | rekeyed call account check hit contact =>
        obtain ⟨jws, rfl, signed⟩ := checkInner_ok check
        have valid := served.verified (by rw [stage]; exact Stage.noConfusion)
        rw [alone.current task mem account before] at valid
        exact ⟨task, jws, serves, call, valid, signed⟩
  · intro url acct' before after
    rcases diff after with same | ⟨task, serves, stage, served, mem, change⟩
    · cases before.symm.trans same
    · cases change with
      | registered call jwk new =>
        exact ⟨task, serves, verify_jwkKey served stage (alone.oneKey task mem call) jwk⟩
      | amended _ _ hit | rekeyed _ _ _ hit =>
        cases before.symm.trans hit

/-- In every sequence of requests none of which registers with both a `kid` and a `jwk`,
accounts change only under their own keys; every nonce is accepted at most once and the key
index is the inverse of the account table in every state. -/
theorem accounts_change_under_own_key {cfg : Config} {actions : List (Action × Oracle)} {w : World}
    (run : Run (step cfg) (fun w a => (sequential w a && oneKey a)) {} actions w) :
    w.spent.Nodup ∧ (∀ key url, w.view.byKey key = some url ↔
        ∃ acct, w.view.accounts url = some acct ∧ acct.key = key) ∧
      ∀ a w', step cfg w a = some w' → AccountsKept w a w' := by
  have invariant : w.Good ∧ NoncesOnce w ∧ Alone w := by
    refine run.invariant (I := fun w => w.Good ∧ NoncesOnce w ∧ Alone w) ?_
      ⟨World.good_empty, noncesOnce_empty, alone_empty⟩
    rintro w ⟨a, o⟩ w' meets moved ⟨good, once, alone⟩
    obtain ⟨-, -, new, was⟩ := step_cases moved
    obtain ⟨serial, single⟩ := Bool.and_eq_true_iff.mp meets
    have good' := good.setClock o.now
    have once' : NoncesOnce { w with clock := o.now } :=
      once.sublist (.refl _) rfl rfl
    have alone' : Alone { w with clock := o.now } := alone.congr rfl id
    exact ⟨(was.keeps good').1, once'.step new was, alone'.step good' serial single was⟩
  obtain ⟨good, once, alone⟩ := invariant
  exact ⟨once.once, fun _ _ => good.wf.indexed.byKey,
    fun a w' moved => accountsKept_step good alone moved⟩

/-- Two accounts register. -/
def twoAccounts : List (Action × Oracle) :=
  (.newNonce, { now := 1, nonce := "n1" }) ::
    request (registration { pub := 1 } ["mailto:alice"] "n1") "n2" ++ [go] ++
    request (registration { pub := 2 } ["mailto:mallory"] "n2") "n3" ++ [go]

def twoAccountsWorld : World := (executeIf (step {}) sequential {} twoAccounts).getD {}

/-- The second registration changes nothing but its own account, under the key that signed it; after
it the key leads to that account and two nonces are spent. -/
theorem two_accounts_kept : ∃ w,
    Run (step {}) (fun w a => (sequential w a && oneKey a)) {} twoAccounts.dropLast w ∧
      step {} w go = some twoAccountsWorld ∧ AccountsKept w go twoAccountsWorld ∧
      twoAccountsWorld.spent = ["n2", "n1"] ∧ twoAccountsWorld.spent.Nodup ∧
      ∃ acct, twoAccountsWorld.view.accounts { base := "", id := 2 } = some acct ∧
        acct.key = { pub := 2 } := by
  obtain ⟨w, ran, served⟩ : ∃ w, executeIf (step {}) (fun w a => sequential w a && oneKey a) {}
      twoAccounts.dropLast = some w ∧ step {} w go = some twoAccountsWorld := ⟨_, rfl, rfl⟩
  have before := run_of_executeIf ran
  have after : Run (step {}) (fun w a => (sequential w a && oneKey a)) {} twoAccounts
      twoAccountsWorld := run_of_executeIf rfl
  obtain ⟨-, -, kept⟩ := accounts_change_under_own_key before
  obtain ⟨once, index, -⟩ := accounts_change_under_own_key after
  exact ⟨w, before, served, kept go _ served, rfl, once, (index _ _).mp rfl⟩

/-- The second account sends a registration for the first one's key, under its own `kid`. -/
def hijack : List (Action × Oracle) :=
  twoAccounts ++ request
      { kid := some { base := "", id := 2 }, jwk := some (.ok { pub := 1 }), nonce := "n3",
        signer := some 2, call := .newAccount (.ok { contact := ["mailto:mallory"] }) } "n4"

/-- The state before the hijacking registration is served. -/
def hijackWorld : World := (executeIf (step {}) sequential {} hijack).getD {}

/-- A registration with both a `kid` and a `jwk` changes the contact of an account whose key
did not sign it. -/
theorem registration_changes_other_account :
    ∃ w', Run (step {}) (fun w a => sequential w a) {} hijack hijackWorld ∧
      sequential hijackWorld go ∧ step {} hijackWorld go = some w' ∧
      ¬ AccountsKept hijackWorld go w' := by
  refine ⟨_, run_of_executeIf rfl, rfl, rfl, fun kept => ?_⟩
  obtain ⟨task, ⟨i, here, run⟩, verified⟩ :=
    kept.contact (show hijackWorld.view.accounts { base := "", id := 1 } = some _ from rfl) rfl
      (by decide)
  cases here
  cases run
  contradiction

/-! ## Every interleaving -/

theorem evolves_of_run {cfg : Config} {ok : World → Action × Oracle → Prop}
    {as : List (Action × Oracle)} {w w' : World} (run : Run (step cfg) ok w as w')
    (good : w.Good) : w'.Good ∧ Evolves w.view w'.view := by
  refine run.invariant (I := fun x => x.Good ∧ Evolves w.view x.view) ?_
    ⟨good, .refl, fun hit => ⟨_, hit⟩, id⟩
  rintro x ⟨a, o⟩ x' - moved ⟨good, since⟩
  obtain ⟨-, -, -, was⟩ := step_cases moved
  exact (was.keeps (good.setClock o.now)).imp_right since.trans

/-- From any state a run reaches, no run removes an account or takes an id or an order back. -/
theorem nothing_undone {cfg : Config} {ok : World → Action × Oracle → Prop}
    {as as' : List (Action × Oracle)} {w w' : World} (run : Run (step cfg) ok {} as w)
    (later : Run (step cfg) ok w as' w') : Evolves w.view w'.view :=
  (evolves_of_run later (evolves_of_run run World.good_empty).1).2

/-- Both accounts outlive the hijacking request. -/
theorem accounts_outlive : Evolves twoAccountsWorld.view hijackWorld.view := by
  have run : Run (step {}) (fun w a => sequential w a) {} twoAccounts twoAccountsWorld :=
    run_of_executeIf rfl
  have later : Run (step {}) (fun w a => sequential w a) twoAccountsWorld
    (hijack.drop twoAccounts.length) hijackWorld := run_of_executeIf rfl
  exact nothing_undone run later

end Trustctl.Acme
