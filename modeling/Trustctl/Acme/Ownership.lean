import Trustctl.Acme.History

/-!
# The account of an order

The wrapper authenticates a request, and no handler compares the account it found with the
account of the order, authorization or challenge that the URL names.

* `orders_driven_by_own_account`: where every request for such an object comes from the account
  of its order, authorizations become valid and certificates are signed only for requests of
  that account, with a key authorization of its key that the validator accepted, other requests
  leave the order alone, and no handler crashes.
* `other_account_drives_order`: a second account validates and finalizes the order of the
  first, and a request without an account crashes the handler.
-/

namespace Trustctl.Acme

open Systems Option

/-! ## The account of an object -/

/-- What an authorization keeps: its order and its domain. -/
def Authorization.root (az : Authorization) : Nat × String := (az.orderId, az.domain)

/-- What a challenge keeps: its authorization, its type and its token. -/
def Challenge.root (ch : Challenge) : Nat × ChallengeType × String :=
  (ch.authzId, ch.type, ch.token)

namespace View

def orderAccount (v : View) (id : Nat) : Option AccountUrl := (v.orders id).map Order.accountUrl

def authzAccount (v : View) (a : Nat) : Option AccountUrl :=
  (v.authzs a).bind fun az => v.orderAccount az.orderId

def challengeAccount (v : View) (c : Nat) : Option AccountUrl :=
  (v.challenges c).bind fun ch => v.authzAccount ch.authzId

/-- Ids that were handed out keep their place: no order changes its account, no authorization
its order or domain, and no challenge its authorization, type or token. -/
structure Rooted (v v' : View) : Prop where
  seq : v.seq ≤ v'.seq
  order : ∀ {id ord'}, id ≤ v.seq → v'.orders id = some ord' →
    ∃ ord, v.orders id = some ord ∧ ord'.accountUrl = ord.accountUrl
  authz : ∀ {a az'}, a ≤ v.seq → v'.authzs a = some az' →
    ∃ az, v.authzs a = some az ∧ az'.root = az.root
  challenge : ∀ {c ch'}, c ≤ v.seq → v'.challenges c = some ch' →
    ∃ ch, v.challenges c = some ch ∧ ch'.root = ch.root

variable {v : View}

/-- A challenge that is still there belongs to the account it belonged to. -/
theorem Rooted.challengeAccount {v' : View} (rooted : v.Rooted v') (link : v.Linked) {c : Nat}
    (out : c ≤ v.seq) {url : AccountUrl} (acct : v'.challengeAccount c = some url) :
    v.challengeAccount c = some url := by
  obtain ⟨ch', challenge', inAuthz⟩ := bind_eq_some_iff.mp acct
  obtain ⟨az', authz', inOrder⟩ := bind_eq_some_iff.mp inAuthz
  obtain ⟨ord', order', rfl⟩ := map_eq_some_iff.mp inOrder
  obtain ⟨ch, challenge, root⟩ := rooted.challenge out challenge'
  have holder : ch'.authzId = ch.authzId := congrArg Prod.fst root
  -- the ids on the way up were handed out as well
  obtain ⟨az₀, here, -⟩ := link.authz_of_challenge challenge
  obtain ⟨az, authz, above⟩ := rooted.authz (link.authz_id here).2 (holder ▸ authz')
  have parent : az'.orderId = az.orderId := congrArg Prod.fst above
  obtain ⟨ord₀, kept, -⟩ := link.order_of_authz authz
  obtain ⟨ord, order, same⟩ := rooted.order (link.order_id kept).2 (parent ▸ order')
  unfold View.challengeAccount View.authzAccount View.orderAccount
  rw [challenge, bind_some, authz, bind_some, order, map_some, same]

theorem TreeKept.trans {v' v'' : View} {id : Nat} (first : v.TreeKept v' id)
    (second : v'.TreeKept v'' id) : v.TreeKept v'' id where
  order found := second.order (first.order found)
  authz found its := second.authz (first.authz found its) its
  challenge found present its := second.challenge (first.challenge found present its)
    (first.authz present its) its

variable {drop : Nat → Bool}

theorem treeKept_without {id : Nat} (kept : drop id = false) : v.TreeKept (v.without drop) id where
  order found := without_orders.mpr ⟨kept, found⟩
  authz found its := without_authzs.mpr ⟨found, its ▸ kept⟩
  challenge found present its := by
    refine without_challenges.mpr ⟨found, fun az' here' => ?_⟩
    rw [present] at here'
    cases here'
    exact its ▸ kept

/-- The tree of an order that is not due survives pruning. -/
theorem kept_or_due {q : Quota} {now : Nat} (past : ∀ id, drop id → v.due q now id) (id : Nat) :
    v.TreeKept (v.without drop) id ∨ v.due q now id := by
  cases gone : drop id with
  | true => exact .inr (past id gone)
  | false => exact .inl (treeKept_without gone)

end View

section Writes

variable {v v' : View} {seq : Nat} {change : Write}

theorem View.rooted_without {drop : Nat → Bool} (grows : v.seq ≤ seq) :
    v.Rooted { v.without drop with seq := seq } where
  seq := grows
  order {_ ord'} _ found := ⟨ord', (View.without_orders.mp found).2, rfl⟩
  authz {_ az'} _ found := ⟨az', (View.without_authzs.mp found).1, rfl⟩
  challenge {_ ch'} _ found := ⟨ch', (View.without_challenges.mp found).1, rfl⟩

theorem View.Rooted.trans {v'' : View} (first : v.Rooted v') (second : v'.Rooted v'') :
    v.Rooted v'' where
  seq := Nat.le_trans first.seq second.seq
  order handedOut found := by
    obtain ⟨ord', hit', same'⟩ := second.order (Nat.le_trans handedOut first.seq) found
    obtain ⟨ord, old, same⟩ := first.order handedOut hit'
    exact ⟨ord, old, same'.trans same⟩
  authz handedOut found := by
    obtain ⟨az', hit', same'⟩ := second.authz (Nat.le_trans handedOut first.seq) found
    obtain ⟨az, old, same⟩ := first.authz handedOut hit'
    exact ⟨az, old, same'.trans same⟩
  challenge handedOut found := by
    obtain ⟨ch', hit', same'⟩ := second.challenge (Nat.le_trans handedOut first.seq) found
    obtain ⟨ch, old, same⟩ := first.challenge handedOut hit'
    exact ⟨ch, old, same'.trans same⟩

theorem Write.Sound.rooted (sound : change.Sound v seq) (wf : v.Wf)
    (wrote : change.live { v with seq := seq } = .ok v') : v.Rooted v' where
  seq := (sound.counter wrote).symm ▸ sound.seq_le
  order {id ord'} handedOut found := by
    cases sound.orders wrote wf found with
    | kept old => exact ⟨ord', old, rfl⟩
    | created new =>
      cases sound with
      | order tree =>
        have fresh := tree.order_id.1
        omega
    | readied _ old now | issued old now => exact ⟨_, old, by rw [now]⟩
  authz {a az'} handedOut found := by
    cases sound.authzs wrote wf found with
    | kept old => exact ⟨az', old, rfl⟩
    | created mem new =>
      cases sound with
      | order tree =>
        have fresh := (tree.authz _ mem).1.1
        dsimp only at fresh
        omega
    | validated its old now => exact ⟨_, old, by rw [now]; rfl⟩
  challenge {c ch'} handedOut found := by
    cases sound.challenges wrote wf found with
    | kept old => exact ⟨ch', old, rfl⟩
    | created mem lt new =>
      cases sound with
      | order tree =>
        have fresh := (tree.challenge _ mem _ lt).1.1
        omega
    | validated its old now => exact ⟨_, old, by rw [now]; rfl⟩

end Writes

/-! ## The condition -/

/-- The account of the object a request names. -/
def Call.names (v : View) : Call → Option AccountUrl
  | .acceptChallenge id => v.challengeAccount id
  | .getAuthz id => v.authzAccount id
  | .getOrder id => v.orderAccount id
  | .finalize id _ => v.orderAccount id
  | _ => none

/-- A finalize request of a pending order, which every account is refused. -/
def Call.early (v : View) : Call → Bool
  | .finalize id _ => (v.orders id).all fun ord => ord.status = .pending
  | _ => false

/-- The handler of a request begins: the object it names belongs to its account, or it
finalizes a pending order. -/
def Task.ownsTarget (v : View) (task : Task) : Bool :=
  match task.stage with
  | .dispatched =>
    task.msg.call.early v || (task.msg.call.names v).all fun url => task.caller.account = some url
  | _ => true

/-- Every request for an order, an authorization or a challenge comes from the account of its
order, or finalizes a pending order. -/
def ownTargets (w : World) (a : Action × Oracle) : Bool :=
  match a.1 with
  | .proceed i => (w.inFlight[i]?).all fun task => task.ownsTarget w.view
  | _ => true

section Condition

variable {w : World} {o : Oracle} {v : View} {task : Task}

theorem ownTargets_proceed {i : Nat} (meets : ownTargets w (.proceed i, o))
    (run : w.inFlight[i]? = some task) : task.ownsTarget w.view := by
  unfold ownTargets at meets
  dsimp only at meets
  rw [run] at meets
  exact meets

theorem Task.ownsTarget_dispatched (meets : task.ownsTarget v) (stage : task.stage = .dispatched) :
    task.msg.call.early v ∨
      ∀ url, task.msg.call.names v = some url → task.caller.account = some url := by
  unfold Task.ownsTarget at meets
  rw [stage] at meets
  refine (Bool.or_eq_true_iff.mp meets).imp_right fun owns url named => ?_
  rw [named] at owns
  exact of_decide_eq_true owns

end Condition

/-! ## Requests of the own account -/

/-- A challenge that was handed out belongs to an account and is for a domain, as long as it is
there. -/
structure OwnsChallenge (v : View) (account : Option AccountUrl) (ch : Challenge)
    (domain : String) : Prop where
  some_ : account ≠ none
  handedOut : ch.id ≤ v.seq
  own : ∀ {url}, v.challengeAccount ch.id = some url → account = some url
  root : ∀ {ch'}, v.challenges ch.id = some ch' → ch'.root = ch.root
  domain : ∀ {ch' az}, v.challenges ch.id = some ch' → v.authzs ch'.authzId = some az →
    az.domain = domain

/-- A step of the run offered the validator the token of the challenge with the key that the
account had then, and the validator accepted it for the domain. -/
def Accepted (cfg : Config) (actions : List (Action × Oracle)) (account : Option AccountUrl)
    (ch : Challenge) (domain : String) (keyAuth : KeyAuthorization) : Prop :=
  ∃ past w a url acct, past ++ [a] <+: actions ∧
    Run (step cfg) (fun w a => ownTargets w a) {} past w ∧ account = some url ∧
    w.view.accounts url = some acct ∧
    keyAuth = { token := ch.token, thumbprint := acct.key } ∧
    a.2.validate ch.type domain keyAuth = .ok ()

def CreatedBy (log : List StateEvent) (id : Nat) (account : Option AccountUrl) : Prop :=
  ∃ o azs, created log id = some (o, azs) ∧ account = some o.accountUrl

/-- A request is at work on an object of its account. -/
def Task.Own (cfg : Config) (actions : List (Action × Oracle)) (log : List StateEvent) (v : View)
    (task : Task) : Prop :=
  match task.stage with
  | .validating ch domain => OwnsChallenge v task.caller.account ch domain
  | .validated id keyAuth => ∃ ch domain, ch.id = id ∧
      OwnsChallenge v task.caller.account ch domain ∧
      Accepted cfg actions task.caller.account ch domain keyAuth
  | .issuing id _ => CreatedBy log id task.caller.account
  | .issued id _ => CreatedBy log id task.caller.account
  | _ => True

theorem OwnsChallenge.mono {v v' : View} {account : Option AccountUrl} {ch : Challenge}
    {domain : String} (owns : OwnsChallenge v account ch domain) (link : v.Linked)
    (rooted : v.Rooted v') : OwnsChallenge v' account ch domain where
  some_ := owns.some_
  handedOut := Nat.le_trans owns.handedOut rooted.seq
  own account := owns.own (rooted.challengeAccount link owns.handedOut account)
  root found := by
    obtain ⟨ch₀, old, same⟩ := rooted.challenge owns.handedOut found
    exact same.trans (owns.root old)
  domain {ch' az} found inAuthz := by
    obtain ⟨ch₀, old, same⟩ := rooted.challenge owns.handedOut found
    have holder : ch'.authzId = ch₀.authzId := congrArg Prod.fst same
    obtain ⟨az₀, present, -⟩ := link.authz_of_challenge old
    obtain ⟨az₁, before, same'⟩ := rooted.authz (link.authz_id present).2 (holder ▸ inAuthz)
    exact (congrArg Prod.snd same').trans (owns.domain old before)

theorem Accepted.mono {cfg : Config} {actions actions' : List (Action × Oracle)}
    {account : Option AccountUrl} {ch : Challenge} {domain : String} {keyAuth : KeyAuthorization}
    (accepted : Accepted cfg actions account ch domain keyAuth) (longer : actions <+: actions') :
    Accepted cfg actions' account ch domain keyAuth := by
  obtain ⟨past, w, a, url, acct, before, rest⟩ := accepted
  exact ⟨past, w, a, url, acct, before.trans longer, rest⟩

section Longer

variable {cfg : Config} {actions actions' : List (Action × Oracle)}

theorem Task.Own.mono {log log' : List StateEvent} {v v' : View} {task : Task}
    (own : task.Own cfg actions log v) (link : v.Linked) (rooted : v.Rooted v')
    (longer : actions <+: actions') (grows : log' = log ∨ ∃ e, log' = log ++ [e]) :
    task.Own cfg actions' log' v' := by
  have keeps : ∀ {id}, CreatedBy log id task.caller.account →
      CreatedBy log' id task.caller.account := by
    rintro id ⟨o, azs, made, acct⟩
    rcases grows with same | ⟨e, more⟩
    · exact ⟨o, azs, same ▸ made, acct⟩
    · exact ⟨o, azs, more ▸ created_append_of_some made e, acct⟩
  unfold Task.Own at own ⊢
  split at own
  · exact OwnsChallenge.mono own link rooted
  · obtain ⟨ch, domain, its, owns, accepted⟩ := own
    exact ⟨ch, domain, its, owns.mono link rooted, accepted.mono longer⟩
  · exact keeps own
  · exact keeps own
  · trivial

end Longer

/-! ## What a section does -/

section Sections

variable {cfg : Config} {o : Oracle} {task : Task} {w w₁ : World}

variable {v v' : View} {log log' : List StateEvent} {actions actions' : List (Action × Oracle)}

theorem ViewTurn.rooted (turn : ViewTurn cfg o task v log v' log') (wf : v.Wf)
    (good : task.Good v) :
    v.Rooted v' := by
  cases turn with
  | quiet past grows => exact View.rooted_without grows
  | orphaned past lets failed => exact View.rooted_without lets.seq_le
  | @written drop seq change v' past lets live =>
    have sound := lets.sound (wf.without drop) (good.mono (.without drop))
    have cut : v.Rooted (v.without drop) := View.rooted_without .refl
    exact cut.trans (sound.rooted (wf.without drop) live)

variable {id : Nat} {ord : Order}

theorem challengeAccount_of_found {ch : Challenge} {az : Authorization}
    (hit : findChallenge id v = .ok (ch, az)) (here : v.orders az.orderId = some ord) :
    v.challengeAccount id = some ord.accountUrl := by
  obtain ⟨challenge, authz⟩ := findChallenge_ok hit
  unfold View.challengeAccount View.authzAccount View.orderAccount
  rw [challenge, bind_some, authz, bind_some, here, map_some]

theorem Turn.own_next {stage : Stage} (turn : Turn cfg o task w w₁ (.stage stage))
    (wf : w.view.Wf) (noted : Recorded cfg w.log w.view)
    (own : task.Own cfg actions w.log w.view) (meets : task.ownsTarget w.view)
    (accepts : ∀ {url acct ch domain}, task.caller.account = some url →
      w.view.accounts url = some acct →
      o.validate ch.type domain { token := ch.token, thumbprint := acct.key } = .ok () →
      Accepted cfg actions' task.caller.account ch domain
        { token := ch.token, thumbprint := acct.key }) :
    Task.Own cfg actions' w₁.log w₁.view { task with stage } := by
  unfold Task.Own at own
  cases turn with
  | done moves =>
    cases moves with
    | dispatch | revoke => trivial
    | @challenge id ch az at_ call hit =>
      obtain ⟨challenge, authz⟩ := findChallenge_ok hit
      obtain ⟨ord, present, -⟩ := wf.linked.order_of_authz authz
      have acct := challengeAccount_of_found hit present
      obtain ⟨here, out⟩ := wf.linked.challenge_id challenge
      rw [← here] at challenge acct out
      rcases Task.ownsTarget_dispatched meets at_ with early | owns
      · rw [call] at early
        contradiction
      · rw [call, ← here] at owns
        have caller := owns _ acct
        refine ⟨?_, out, fun account' => owns _ account', fun found => ?_, fun found inAuthz => ?_⟩
        · rw [caller]
          exact some_ne_none _
        · cases challenge.symm.trans found
          rfl
        · cases challenge.symm.trans found
          cases authz.symm.trans inAuthz
          rfl
    | @validated ch domain url acct at_ account found verdict =>
      rw [at_] at own
      exact ⟨ch, domain, rfl, own, accepts account found verdict⟩
    | reissue at_ | sign at_ =>
      rw [at_] at own
      exact own
    | @finalize id csr ord at_ call hit ready =>
      obtain ⟨made, azs, logged, same, -⟩ := noted.order hit
      refine ⟨made, azs, logged, ?_⟩
      rw [← same]
      rcases Task.ownsTarget_dispatched meets at_ with early | owns
      · rw [call] at early
        unfold Call.early at early
        dsimp only at early
        rw [hit] at early
        have pending := of_decide_eq_true early
        rw [ready] at pending
        contradiction
      · refine owns _ ?_
        rw [call]
        exact congrArg (Option.map Order.accountUrl) hit

/-- A request writes into the tree of an order of its account only. -/
theorem Admits.touches_own {drop : Nat → Bool} {seq : Nat} {change : Write}
    (lets : Admits cfg o task (v.without drop) seq change) (noted : Recorded cfg log v)
    (own : task.Own cfg actions log v) (touches : change.touches = some id)
    (here : v.orders id = some ord) : task.caller.account = some ord.accountUrl := by
  unfold Task.Own at own
  cases lets with
  | @validate c keyAuth ch az at_ hit =>
    rw [at_] at own
    cases touches
    obtain ⟨_, _, rfl, owns, -⟩ := own
    exact owns.own (challengeAccount_of_found (findChallenge_without hit) here)
  | issue at_ acct =>
    rw [at_] at own
    cases touches
    obtain ⟨made, azs, logged, caller⟩ := own
    obtain ⟨made', azs', logged', same, -⟩ := noted.order here
    cases logged.symm.trans logged'
    rw [same]
    exact caller
  | register | amend | rekey | order | revoke => contradiction

/-- A section of another account leaves the tree of an order alone, unless the order is due. -/
theorem ViewTurn.others (turn : ViewTurn cfg o task v log v' log') (wf : v.Wf) (good : task.Good v)
    (noted : Recorded cfg log v) (own : task.Own cfg actions log v) (here : v.orders id = some ord)
    (other : task.caller.account ≠ some ord.accountUrl) :
    v.TreeKept v' id ∨ v.due cfg.quota o.now id := by
  cases turn with
  | quiet past | orphaned past =>
    refine (View.kept_or_due past id).imp_left fun kept => ?_
    exact ⟨kept.order, kept.authz, kept.challenge⟩
  | @written drop seq change v' past lets live =>
    have sound := lets.sound (wf.without drop) (good.mono (.without drop))
    refine (View.kept_or_due past id).imp_left fun kept => kept.trans ?_
    refine sound.treeKept live (wf.without drop) fun touches => ?_
    exact other (lets.touches_own noted own touches here)

/-- How a request makes an authorization valid: it places the order, on a mount that trusts its
accounts, or it ends the validation of a challenge of the authorization, whose token the validator
accepted for its domain with the key of the account. -/
inductive Proves (cfg : Config) (actions : List (Action × Oracle)) (v : View) (task : Task)
    (a : Nat) : Prop
  | trusted {payload : Except String OrderPayload} (mode : cfg.authMode = .trustAuthenticated)
      (stage : task.stage = .dispatched) (call : task.msg.call = .newOrder payload)
  | validated {ch : Challenge} {az : Authorization} {keyAuth : KeyAuthorization}
      (stage : task.stage = .validated ch.id keyAuth) (challenge : v.challenges ch.id = some ch)
      (holder : ch.authzId = a) (authz : v.authzs a = some az)
      (accepted : Accepted cfg actions task.caller.account ch az.domain keyAuth)

/-- The end of a validation proves the authorization of its challenge. -/
theorem Admits.proves {drop : Nat → Bool} {seq : Nat} {ch : Challenge} {az : Authorization}
    (lets : Admits cfg o task (v.without drop) seq (.validate ch az)) (wf : v.Wf)
    (own : task.Own cfg actions log v) : Proves cfg actions v task az.id := by
  unfold Task.Own at own
  cases lets with
  | @validate id keyAuth _ _ at_ hit =>
    rw [at_] at own
    obtain ⟨ch₀, domain, rfl, owns, accepted⟩ := own
    obtain ⟨challenge, authz⟩ := findChallenge_ok (findChallenge_without hit)
    have here := (wf.linked.challenge_id challenge).1
    have holder := (wf.linked.authz_id authz).1
    have root := owns.root challenge
    have type : ch.type = ch₀.type := congrArg (·.2.1) root
    have token : ch.token = ch₀.token := congrArg (·.2.2) root
    rw [← owns.domain challenge authz] at accepted
    unfold Accepted at accepted
    rw [← type, ← token] at accepted
    rw [← here] at at_ challenge
    exact .validated at_ challenge holder.symm (holder ▸ authz) accepted

/-- A section makes an authorization valid only for the account of its order. -/
theorem ViewTurn.authorized (turn : ViewTurn cfg o task v log v' log') (wf : v.Wf)
    (good : task.Good v) (noted : Recorded cfg log v) (own : task.Own cfg actions log v) {a : Nat}
    {az' : Authorization} (hit : v'.authzs a = some az') (valid : az'.status = .valid) :
    (∃ az, v.authzs a = some az ∧ az.status = .valid) ∨
      ∃ url, v'.orderAccount az'.orderId = some url ∧ task.caller.account = some url ∧
        Proves cfg actions v task a := by
  cases turn with
  | quiet | orphaned => exact .inl ⟨az', (View.without_authzs.mp hit).1, valid⟩
  | @written drop seq change v' past lets live =>
    have sound := lets.sound (wf.without drop) (good.mono (.without drop))
    have wf' := sound.wf (wf.without drop) live
    obtain ⟨ord', here', -⟩ := wf'.linked.order_of_authz hit
    have acct : v'.orderAccount az'.orderId = some ord'.accountUrl :=
      congrArg (Option.map Order.accountUrl) here'
    cases sound.authzs live (wf.without drop) hit with
    | kept old => exact .inl ⟨az', (View.without_authzs.mp old).1, valid⟩
    | created mem new =>
      cases sound with
      | order tree =>
        have parent := (tree.authz _ mem).2.1
        cases lets with
        | @order body url req due stage call caller types =>
          -- a new authorization is valid only on a mount that trusts its accounts
          obtain ⟨⟨-, -, -, status, -⟩, -⟩ := mem_buildAuthzs mem
          have trusted : cfg.authMode = .trustAuthenticated := by
            by_contra other
            rw [status, if_neg other] at valid
            contradiction
          -- the order of the new authorization is the new order
          cases (Write.Sound.order tree).orders live (wf.without drop) here' with
          | created same => exact .inr ⟨url, acct, caller, .trusted trusted stage call⟩
          | kept old =>
            have out := ((wf.without drop).linked.order_id old).2
            have fresh := tree.order_id.1
            dsimp only at parent
            omega
    | @validated ch az its old now =>
      have parent : az'.orderId = az.orderId := by rw [now]
      obtain ⟨ord, here, -⟩ := (wf.without drop).linked.order_of_authz old
      have out := ((wf.without drop).linked.order_id here).2
      obtain ⟨ord₀, present₀, same⟩ :=
        (sound.rooted (wf.without drop) live).order out (parent ▸ here')
      have caller := lets.touches_own noted own rfl (View.without_orders.mp present₀).2
      exact .inr ⟨ord'.accountUrl, acct, same ▸ caller, its ▸ lets.proves wf own⟩

/-- A section signs only for the order of its request. -/
theorem Turn.signs {next : Next} (turn : Turn cfg o task w w₁ next) :
    w₁.signed = w.signed ∨ ∃ id csr cert, task.stage = .issuing id csr ∧
      w₁.signed = w.signed ++ [(id, cert)] := by
  cases turn with
  | done moves =>
    cases moves with
    | answer early calm sane => exact .inl (by rw [calm.rest])
    | sign stage | lose stage => exact .inr ⟨_, _, _, stage, rfl⟩
    | crash | wedge | dispatch | challenge | validated | finalize | reissue | revoke =>
      exact .inl rfl
  | unlogged _ calm | orphaned calm | written _ calm => exact .inl (by rw [calm.rest]; rfl)

/-- No section of a request at work on an object of its account crashes. -/
theorem Turn.sane {next : Next} (turn : Turn cfg o task w w₁ next) (good : task.Good w.view)
    (own : task.Own cfg actions w.log w.view) :
    w₁.wedged = w.wedged ∧ w₁.answers = w.answers ∧ next ≠ .reply .crash := by
  unfold Task.Own at own
  cases turn with
  | done moves =>
    cases moves with
    | answer early calm sane =>
      rw [calm.rest]
      refine ⟨rfl, rfl, fun crash => ?_⟩
      cases crash
      exact sane rfl
    | crash early gone got =>
      -- the account of a request is never gone, so this request has none
      have called := good.called
      unfold Task.Called at called
      split at called
      case h_1 url account =>
        obtain ⟨-, acct, hit⟩ := called
        rw [account, bind_some, hit] at gone
        contradiction
      case h_2 account =>
        rcases got with ⟨ch, dom, stage⟩ | named
        · rw [stage] at own
          exact absurd account own.some_
        · exact absurd account named
    | wedge stage account =>
      rw [stage] at own
      obtain ⟨made, azs, logged, caller⟩ := own
      rw [account] at caller
      contradiction
    | lose stage unserved signed noted failed sane =>
      refine ⟨rfl, rfl, fun crash => ?_⟩
      cases crash
      exact sane rfl
    | dispatch | challenge | validated | finalize | reissue | sign | revoke =>
      exact ⟨rfl, rfl, nofun⟩
  | unlogged _ calm | orphaned calm | written _ calm =>
    rw [calm.rest]
    exact ⟨rfl, rfl, nofun⟩

end Sections

/-! ## Orders are driven by their own account -/

/-- A request that the wrapper let in: its caller is the account of its `kid`, with the key the
account has now. -/
def Task.Entered (v : View) (task : Task) : Prop :=
  task.stage = .authenticated ∧ ∀ {url}, task.caller.account = some url →
    task.msg.kid = some url ∧ ∃ acct, v.accounts url = some acct ∧ task.caller.key = acct.key

/-- A step serves a request of an account that was verified under the key the wrapper found. -/
structure ServedFor (w : World) (a : Action × Oracle) (task : Task) (url : AccountUrl) : Prop where
  serves : Serves w a task
  account : task.caller.account = some url
  verified : task.msg.verify task.caller.key

/-- What a step may do to orders, after the actions that led to it. -/
structure Driven (cfg : Config) (actions : List (Action × Oracle)) (w : World)
    (a : Action × Oracle) (w' : World) : Prop where
  /-- A request gets its caller when it enters and keeps it. -/
  caller : ∀ task ∈ w'.inFlight, task ∈ w.inFlight ∨ task.Entered w'.view ∨
    ∃ served stage, Serves w a served ∧ task = { served with stage }
  /-- An authorization becomes valid for a request of the account of its order, which proves it. -/
  authorized : ∀ {n az'}, w'.view.authzs n = some az' → az'.status = .valid →
    (∃ az, w.view.authzs n = some az ∧ az.status = .valid) ∨
      ∃ task url, w'.view.orderAccount az'.orderId = some url ∧ ServedFor w a task url ∧
        Proves cfg actions w.view task n
  /-- A certificate is signed for a request of the account that created the order. -/
  signed : w'.signed = w.signed ∨ ∃ task id csr cert made azs,
    w'.signed = w.signed ++ [(id, cert)] ∧ created w.log id = some (made, azs) ∧
      ServedFor w a task made.accountUrl ∧ task.stage = .issuing id csr
  /-- The requests of other accounts leave an order alone, but for pruning. -/
  others : ∀ {task id ord}, Serves w a task → w.view.orders id = some ord →
    task.caller.account ≠ some ord.accountUrl →
    w.view.TreeKept w'.view id ∨ w.view.due cfg.quota a.2.now id
  /-- The requests of other accounts for an object are answered with a problem. -/
  refused : ∀ {task url}, Serves w a task → task.stage = .dispatched →
    task.msg.call.names w.view = some url → task.caller.account ≠ some url →
    ∃ status type detail, w'.answers = w.answers ++ [(task.msg, .problem status type detail)]
  /-- No handler crashes. -/
  sane : w'.wedged = false ∧
    ∃ more, w'.answers = w.answers ++ more ∧ ∀ answer ∈ more, answer.2 ≠ .crash

/-- Every request is at work on an object of its account. -/
def OwnTasks (cfg : Config) (actions : List (Action × Oracle)) (w : World) : Prop :=
  ∀ task ∈ w.inFlight, task.Own cfg actions w.log w.view

section Steps

variable {cfg : Config} {o : Oracle} {w w' : World} {a : Action} {actions : List (Action × Oracle)}

/-- The account the wrapper finds has the key it finds. -/
theorem entered_findCaller {v : View} {msg : Message} {caller : Caller}
    (hit : findCaller v msg = .ok caller) :
    Task.Entered v { msg, caller, stage := .authenticated } := by
  refine ⟨rfl, fun {url} account => ?_⟩
  unfold findCaller at hit
  split at hit
  case h_1 url' kid =>
    split at hit
    · contradiction
    case h_2 acct here =>
      cases hit
      cases account
      exact ⟨kid, acct, here, rfl⟩
  case h_2 =>
    split at hit
    case h_1 key jwk =>
      cases hit
      contradiction
    all_goals contradiction

/-- Every step under the condition keeps the requests at work on objects of their accounts. -/
theorem OwnTasks.step {w₀ : World} (own : OwnTasks cfg actions w) (good : w.Good)
    (noted : Recorded cfg w.log w.view) (meets : ownTargets w (a, o))
    (led : Run (step cfg) (fun w a => ownTargets w a) {} actions w₀) (here : w₀.view = w.view)
    (moved : Step cfg o w a w') : OwnTasks cfg (actions ++ [(a, o)]) w' := by
  have longer : actions <+: actions ++ [(a, o)] := List.prefix_append ..
  cases moved.kind with
  | quiet quiet =>
    obtain ⟨drop, -, view⟩ := good.wf.exists_without quiet.view
    have rooted : w.view.Rooted w'.view := view ▸ View.rooted_without .refl
    have stays : ∀ task ∈ w.inFlight, task.Own cfg (actions ++ [(a, o)]) w'.log w'.view :=
      fun task mem => (own task mem).mono good.wf.linked rooted longer (.inl quiet.log)
    intro task mem
    rcases quiet.inFlight with same | ⟨msg, caller, -, -, more⟩
    · exact stays task (same ▸ mem)
    · rw [more] at mem
      rcases mem_snoc.mp mem with old | rfl
      · exact stays task old
      · trivial
  | @proceed i task w₂ next run turn =>
    have mem := List.mem_of_getElem? run
    have viewTurn := turn.view good.wf
    have rooted := viewTurn.rooted good.wf (good.tasks task mem)
    have log : (w₂.settle i task next).log = w₂.log := by cases next <;> rfl
    have view : (w₂.settle i task next).view = w₂.view := settle_view
    intro other later
    rw [log, view]
    rcases mem_settle later with old | ⟨stage, rfl, rfl⟩
    · exact (own other (turn.inFlight ▸ old)).mono good.wf.linked rooted longer viewTurn.log
    · refine turn.own_next good.wf noted (own task mem) (ownTargets_proceed meets run) ?_
      intro url acct ch domain caller found verdict
      exact ⟨actions, w₀, _, url, acct, List.prefix_rfl, led, caller, here ▸ found, rfl, verdict⟩
  | @mark certId =>
    intro task mem
    have same : w.view.Rooted { w.view with
        earlyRenew := Function.update w.view.earlyRenew certId true } :=
      ⟨.refl, fun _ hit => ⟨_, hit, rfl⟩, fun _ hit => ⟨_, hit, rfl⟩, fun _ hit => ⟨_, hit, rfl⟩⟩
    exact (own task mem).mono good.wf.linked same longer (.inr ⟨_, rfl⟩)

/-- A request of another account for an object is refused, under the condition. -/
theorem refused_of_meets {i : Nat} {task : Task} {url : AccountUrl}
    (moved : step cfg w (.proceed i, o) = some w') (run : w.inFlight[i]? = some task)
    (meets : task.ownsTarget w.view) (stage : task.stage = .dispatched)
    (named : task.msg.call.names w.view = some url) (other : task.caller.account ≠ some url) :
    ∃ status type detail, w'.answers = w.answers ++ [(task.msg, .problem status type detail)] := by
  rcases Task.ownsTarget_dispatched meets stage with early | owns
  · cases call : task.msg.call with
    | finalize id csr =>
      rw [call] at early named
      obtain ⟨ord, hit, -⟩ := map_eq_some_iff.mp named
      unfold Call.early at early
      dsimp only at early
      rw [hit] at early
      have pending := of_decide_eq_true early
      have plan : resume cfg o task { w with clock := o.now } = .refuse { w with clock := o.now }
            (.problem 403 "orderNotReady" "order is not ready to finalize") := by
        unfold resume dispatch
        rw [stage, call]
        unfold finalize
        dsimp only
        rw [hit]
        dsimp only
        rw [pending]
        rfl
      unfold step at moved
      split at moved
      · contradiction
      · dsimp only at moved
        rw [run] at moved
        dsimp only at moved
        rw [plan] at moved
        cases moved
        exact ⟨_, _, _, rfl⟩
    | newAccount | newOrder | getAuthz | acceptChallenge | getOrder | getCert | keyChange
    | revokeCert =>
      rw [call] at early
      contradiction
  · exact absurd (owns url named) other

/-- Every step under the condition drives orders only for their own accounts. -/
theorem driven_of_meets (own : OwnTasks cfg actions w) (good : w.Good)
    (noted : Recorded cfg w.log w.view) (meets : ownTargets w (a, o))
    (moved : step cfg w (a, o) = some w') : Driven cfg actions w (a, o) w' := by
  obtain ⟨awake, -, -, was⟩ := step_cases moved
  have refused : ∀ {task url}, Serves w (a, o) task → task.stage = .dispatched →
      task.msg.call.names w.view = some url → task.caller.account ≠ some url →
      ∃ status type detail,
        w'.answers = w.answers ++ [(task.msg, .problem status type detail)] := by
    rintro task url ⟨i, rfl, run⟩
    exact refused_of_meets moved run (ownTargets_proceed meets run)
  cases was.kind with
  | quiet quiet =>
    obtain ⟨drop, past, view⟩ := good.wf.exists_without quiet.view
    have entered : ∀ task ∈ w'.inFlight, task ∈ w.inFlight ∨ task.Entered w'.view := by
      intro task mem
      rcases quiet.inFlight with same | ⟨msg, caller, -, hit, more⟩
      · exact .inl (same ▸ mem)
      · rw [more] at mem
        rcases mem_snoc.mp mem with old | rfl
        · exact .inl old
        · exact .inr (entered_findCaller hit)
    refine ⟨fun task mem => (entered task mem).imp_right .inl, fun {n az'} hit valid => ?_,
      .inl quiet.signed, fun {_ id _} _ _ _ => ?_, refused, quiet.wedged.trans awake,
      quiet.answers⟩
    · rw [view] at hit
      exact .inl ⟨az', (View.without_authzs.mp hit).1, valid⟩
    · rw [view]
      exact View.kept_or_due past id
  | @proceed i task w₂ next run turn =>
    have mem : task ∈ w.inFlight := List.mem_of_getElem? run
    have served := good.tasks task mem
    have its := own task mem
    have viewTurn := turn.view good.wf
    have view : (w₂.settle i task next).view = w₂.view := settle_view
    have serves : Serves w (.proceed i, o) task := ⟨i, rfl, run⟩
    have verified : task.stage ≠ .authenticated → task.msg.verify task.caller.key :=
      served.verified
    obtain ⟨wedged, ans, sane⟩ := turn.sane served its
    refine ⟨fun other later => ?_, fun {n az'} hit valid => ?_, ?_,
      fun {other id ord} serves' here foreign => ?_, refused, ?_⟩
    · rcases mem_settle later with old | ⟨stage, -, rfl⟩
      · exact .inl (turn.inFlight ▸ old)
      · exact .inr (.inr ⟨task, stage, serves, rfl⟩)
    · rw [view] at hit ⊢
      refine (viewTurn.authorized good.wf served noted its hit valid).imp_right ?_
      rintro ⟨url, acct, caller, proves⟩
      have late : task.stage ≠ .authenticated := by
        cases proves with
        | trusted _ stage | validated stage => rw [stage]; exact Stage.noConfusion
      exact ⟨task, url, acct, ⟨serves, caller, verified late⟩, proves⟩
    · have signed : (w₂.settle i task next).signed = w₂.signed := by cases next <;> rfl
      rw [signed]
      refine turn.signs.imp_right ?_
      rintro ⟨id, csr, cert, stage, more⟩
      unfold Task.Own at its
      rw [stage] at its
      obtain ⟨made, azs, logged, caller⟩ := its
      have late : task.stage ≠ .authenticated := by rw [stage]; exact Stage.noConfusion
      exact ⟨task, id, csr, cert, made, azs, more, logged, ⟨serves, caller, verified late⟩, stage⟩
    · obtain ⟨j, same, running'⟩ := serves'
      cases same
      cases running'.symm.trans run
      rw [view]
      exact viewTurn.others good.wf served noted its here foreign
    · cases next with
      | reply reply =>
        refine ⟨wedged.trans awake, [(task.msg, reply)], ?_, fun answer lt crash => ?_⟩
        · exact congrArg (· ++ [(task.msg, reply)]) ans
        · rw [List.mem_singleton.mp lt] at crash
          exact sane (congrArg Next.reply crash)
      | stage stage =>
        refine ⟨wedged.trans awake, [], ?_, List.forall_mem_nil _⟩
        rw [List.append_nil]
        exact ans
  | @mark certId =>
    refine ⟨fun _ old => .inl old, fun {_ az'} hit valid => .inl ⟨az', hit, valid⟩, .inl rfl,
      fun {_ id _} _ _ _ => .inl ?_, refused, awake, [], (List.append_nil _).symm,
      List.forall_mem_nil _⟩
    exact ⟨fun hit => hit, fun hit _ => hit, fun hit _ _ => hit⟩

end Steps

/-- In every run in which every request for an order, an authorization or a challenge comes
from the account of its order (or finalizes a pending order), every step drives orders only for
the accounts that created them. -/
theorem orders_driven_by_own_account {cfg : Config} {actions : List (Action × Oracle)}
    {w w' : World} {a : Action × Oracle}
    (run : Run (step cfg) (fun w a => ownTargets w a) {} actions w) (meets : ownTargets w a)
    (moved : step cfg w a = some w') : Driven cfg actions w a w' := by
  have invariant : (w.Good ∧ Recorded cfg w.log w.view) ∧ OwnTasks cfg actions w := by
    refine run.invariant_along
      (I := fun actions w => (w.Good ∧ Recorded cfg w.log w.view) ∧ OwnTasks cfg actions w) ?_
      ⟨⟨World.good_empty, .empty⟩, List.forall_mem_nil _⟩
    rintro past w ⟨a, o⟩ w' led meets moved ⟨⟨good, noted⟩, own⟩
    obtain ⟨-, -, -, was⟩ := step_cases moved
    have good' := good.setClock o.now
    have own' : OwnTasks cfg past { w with clock := o.now } := own
    exact ⟨⟨(was.keeps good').1, Recorded.step (w := { w with clock := o.now }) noted good' was⟩,
      own'.step good' noted meets led rfl was⟩
  obtain ⟨⟨good, noted⟩, own⟩ := invariant
  exact driven_of_meets own good noted meets moved

/-- Account 1 accepts a challenge of its order, up to the last section. -/
def ownAccept : List (Action × Oracle) :=
  orderPlaced ++ request (signedBy 1 "n3" (.acceptChallenge 4)) "n4" ++ [go, go]

/-- The account accepts its own challenge, and the step that makes the authorization valid is
driven. -/
theorem own_account_validates :
    ∃ w w', execute (step {}) {} ownAccept = some w ∧ step {} w go = some w' ∧
      (w'.view.authzs 3).map Authorization.status = some .valid ∧
      Driven {} ownAccept w go w' := by
  have run : ∃ w w', executeIf (step {}) ownTargets {} ownAccept = some w ∧
      execute (step {}) {} ownAccept = some w ∧ ownTargets w go ∧
      step {} w go = some w' ∧ (w'.view.authzs 3).map Authorization.status = some .valid :=
    ⟨_, _, rfl, rfl, rfl, rfl, rfl⟩
  obtain ⟨w, w', cond, ran, meets, moved, valid⟩ := run
  exact ⟨w, w', ran, moved, valid,
    orders_driven_by_own_account (run_of_executeIf cond) meets moved⟩

/-- Account 7 registers after account 1 ordered, and accepts a challenge of that order, up to
the last section. -/
def otherAccept : List (Action × Oracle) :=
  orderPlaced ++ request (registration { pub := 7 } [] "n3") "n4" ++ [go] ++
    request (signedBy 7 "n4" (.acceptChallenge 4)) "n5" ++ [go, go]

/-- A request for a challenge that is signed by the key in its header and names no account. -/
def withoutAccount (nonce : Nonce) : Message where
  jwk := some (.ok { pub := 9 })
  nonce := nonce
  signer := some 9
  call := .acceptChallenge 4

/-- Account 7 validates and finalizes the order of account 1, and a request without an account
crashes the handler of challenges. -/
theorem other_account_drives_order :
    ∃ w₁ w₂ w₃ w₄, execute (step {}) {} otherAccept = some w₁ ∧ step {} w₁ go = some w₂ ∧
      execute (step {}) w₂ (request (signedBy 7 "n5" (.finalize 2 (.ok ⟨"csr", ["a.example"]⟩)))
        "n6" ++ [go, sign "01", go]) = some w₃ ∧
      execute (step {}) {} (orderPlaced ++ request (withoutAccount "n3") "n4" ++ [go, go]) =
        some w₄ ∧
      w₁.inFlight.map (fun task => task.caller.account) = [some { base := "", id := 7 }] ∧
      w₁.view.orderAccount 2 = some { base := "", id := 1 } ∧
      (w₁.view.authzs 3).map Authorization.status = some .pending ∧
      (w₂.view.authzs 3).map Authorization.status = some .valid ∧
      ¬ Driven {} otherAccept w₁ go w₂ ∧
      (w₃.view.orders 2).map Order.status = some .valid ∧ w₃.signed.map Prod.fst = [2] ∧
      w₄.answers.getLast? = some (withoutAccount "n3", .crash) := by
  refine ⟨_, _, _, _, rfl, rfl, rfl, rfl, rfl, rfl, rfl, rfl, fun driven => ?_, rfl, rfl, rfl⟩
  rcases driven.authorized (n := 3) rfl rfl with ⟨az, hit, valid⟩ |
    ⟨task, url, acct, ⟨serves, caller, -⟩, -⟩
  · cases hit
    contradiction
  · cases acct
    obtain ⟨i, same, run⟩ := serves
    cases same
    cases run
    contradiction

end Trustctl.Acme
