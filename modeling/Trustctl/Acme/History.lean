import Trustctl.Acme.Reachable

/-!
# Orders and the state log

The state log is the history of the server: it keeps what pruning removes from the maps.
`created` reads an order off the log as `newOrder` made it, and `Recorded` ties the maps to it:
every order in the maps was created with its account, its identifiers and its authorizations,
and a valid authorization was validated (or its mount trusts authenticated accounts).
-/

namespace Trustctl.Acme

open Systems List Option

/-! ## Orders in the log -/

def createdBy (id : Nat) : StateEvent → Option (Order × List (Authorization × List Challenge))
  | .orderCreated _ o azs => if o.id = id then some (o, azs) else none
  | _ => none

def created (log : List StateEvent) (id : Nat) :
    Option (Order × List (Authorization × List Challenge)) :=
  log.findSome? (createdBy id)

theorem created_append (log : List StateEvent) (e : StateEvent) (id : Nat) :
    created (log ++ [e]) id = (created log id).or (createdBy id e) := by
  unfold created
  rw [findSome?_append, findSome?_singleton]

theorem created_append_of_some {log : List StateEvent} {id : Nat}
    {made : Order × List (Authorization × List Challenge)} (hit : created log id = some made)
    (e : StateEvent) : created (log ++ [e]) id = some made := by
  rw [created_append, hit]
  rfl

def Validated (log : List StateEvent) (orderId authzId : Nat) : Prop :=
  ∃ challengeId status, .challengeValidated challengeId authzId orderId status ∈ log

theorem Validated.append {log : List StateEvent} {oid authzId : Nat}
    (valid : Validated log oid authzId) (e : StateEvent) :
    Validated (log ++ [e]) oid authzId := by
  obtain ⟨challengeId, status, mem⟩ := valid
  exact ⟨challengeId, status, mem_append_left _ mem⟩

/-! ## The maps and the log -/

/-- An order has the account, the identifiers and the authorizations it was created with. -/
def MadeAs (log : List StateEvent) (id : Nat) (o' : Order) : Prop :=
  ∃ o azs, created log id = some (o, azs) ∧ o'.accountUrl = o.accountUrl ∧
    o'.domains = o.domains ∧ o'.authzIds = azs.map (·.1.id)

/-- The maps agree with the log. -/
structure Recorded (cfg : Config) (log : List StateEvent) (v : View) : Prop where
  id_le : ∀ {id made}, created log id = some made → id ≤ v.seq
  covers : ∀ {id o azs}, created log id = some (o, azs) → ∀ domain ∈ o.domains,
    ∃ az ∈ azs, az.1.domain = domain
  order : ∀ {id o'}, v.orders id = some o' → MadeAs log id o'
  authz : ∀ {a az}, v.authzs a = some az → az.status = .valid →
    Validated log az.orderId a ∨ cfg.authMode = .trustAuthenticated

namespace Recorded

variable {cfg : Config} {log : List StateEvent} {v v' : View}

protected theorem empty : Recorded cfg [] {} := by
  constructor <;> intros <;> contradiction

protected theorem without (noted : Recorded cfg log v) (drop : Nat → Bool) :
    Recorded cfg log (v.without drop) where
  id_le := noted.id_le
  covers := noted.covers
  order found := noted.order (View.without_orders.mp found).2
  authz found := noted.authz (View.without_authzs.mp found).1

protected theorem setSeq (noted : Recorded cfg log v) {seq : Nat} (grows : v.seq ≤ seq) :
    Recorded cfg log { v with seq := seq } where
  id_le found := Nat.le_trans (noted.id_le found) grows
  covers := noted.covers
  order := noted.order
  authz := noted.authz

protected theorem append (noted : Recorded cfg log v) {e : StateEvent}
    (other : ∀ id, createdBy id e = none) : Recorded cfg (log ++ [e]) v := by
  have same : ∀ id, created (log ++ [e]) id = created log id := by
    intro id
    rw [created_append, other, or_none]
  refine ⟨?_, ?_, ?_, ?_⟩
  · intro id made hit
    exact noted.id_le (same id ▸ hit)
  · intro id o azs hit
    exact noted.covers (same id ▸ hit)
  · intro id o' hit
    unfold MadeAs
    rw [same]
    exact noted.order hit
  · intro a az hit valid
    exact (noted.authz hit valid).imp_left fun validated => validated.append e

theorem createdBy_event {v : View} {change : Write} {id : Nat}
    {made : Order × List (Authorization × List Challenge)}
    (makes : createdBy id (change.event v) = some made) :
    change = .order made.1 made.2 ∧ made.1.id = id := by
  cases change with
  | order o azs =>
    unfold Write.event createdBy at makes
    obtain ⟨same, ⟨⟩⟩ := ite_none_right_eq_some.mp makes
    exact ⟨rfl, same⟩
  | register | amend | rekey | validate | issue | revoke | mark => contradiction

/-- Every identifier of a new order gets an authorization. -/
theorem exists_buildAuthzs {token : Nat → String} {status : Status} {oid now seq : Nat}
    {due : List (String × List ChallengeType)} {domain : String}
    (mem : domain ∈ due.map Prod.fst) :
    ∃ az ∈ buildAuthzs token status oid now seq due, az.1.domain = domain := by
  induction due generalizing seq with
  | nil => contradiction
  | cons entry due ih =>
    rcases mem_cons.mp mem with rfl | later
    · exact ⟨_, mem_cons_self .., rfl⟩
    · obtain ⟨az, lt, same⟩ := @ih (seq + 1 + entry.2.length) later
      exact ⟨az, mem_cons_of_mem _ lt, same⟩

protected theorem write {o : Oracle} {task : Task} {seq : Nat} {change : Write}
    (noted : Recorded cfg log v) (wf : v.Wf) (lets : Admits cfg o task v seq change)
    (sound : change.Sound v seq) (live : change.live { v with seq := seq } = .ok v') :
    Recorded cfg (log ++ [change.event { v with seq := seq }]) v' := by
  have counter := sound.counter live
  have grows := sound.seq_le
  -- an order is in the longer log because it was in the shorter one, or because it is new
  have split : ∀ {id made}, created (log ++ [change.event { v with seq := seq }]) id = some made →
      created log id = some made ∨ change = .order made.1 made.2 ∧ made.1.id = id := by
    intro id made hit
    rw [created_append] at hit
    rcases or_eq_some_iff.mp hit with old | ⟨-, new⟩
    · exact .inl old
    · exact .inr (createdBy_event new)
  have stays : ∀ {id made}, created log id = some made →
      created (log ++ [change.event { v with seq := seq }]) id = some made :=
    fun hit => created_append_of_some hit _
  refine ⟨?_, ?_, ?_, ?_⟩
  · intro id made hit
    rcases split hit with old | ⟨rfl, rfl⟩
    · have out := noted.id_le old
      omega
    · cases sound with
      | order tree =>
        have below := tree.order_id.2
        omega
  · intro id ord azs hit dom lt
    rcases split hit with old | ⟨new, -⟩
    · exact noted.covers old dom lt
    · cases lets with
      | order stage call acct types =>
        cases new
        exact exists_buildAuthzs lt
      | register | amend | rekey | validate | issue | revoke => contradiction
  · intro id ord' hit
    have before : ∀ {ord : Order}, v.orders id = some ord → ord'.accountUrl = ord.accountUrl →
        ord'.domains = ord.domains → ord'.authzIds = ord.authzIds →
        MadeAs (log ++ [change.event { v with seq := seq }]) id ord' := by
      intro ord old acct domains ids
      obtain ⟨made, azs, logged, account', domains', ids'⟩ := noted.order old
      exact ⟨made, azs, stays logged, acct.trans account', domains.trans domains', ids.trans ids'⟩
    cases sound.orders live wf hit with
    | kept old => exact before old rfl rfl rfl
    | @created azs new =>
      cases sound with
      | order tree =>
        refine ⟨ord', azs, ?_, rfl, rfl, tree.authzIds⟩
        have fresh : created log id = none := by
          cases logged : created log id with
          | none => rfl
          | some made =>
            have out := noted.id_le logged
            have above := tree.order_id.1
            omega
        rw [created_append, fresh, none_or]
        exact if_pos new.symm
    | readied _ old now | issued old now =>
      exact before old (by rw [now]) (by rw [now]) (by rw [now])
  · intro a az' hit valid
    cases sound.authzs live wf hit with
    | kept old => exact (noted.authz old valid).imp_left fun validated => validated.append _
    | created mem new =>
      cases lets with
      | order stage call acct types =>
        -- a new authorization is valid only on a mount that trusts its accounts
        obtain ⟨⟨-, -, -, status, -⟩, -⟩ := mem_buildAuthzs mem
        rw [status] at valid
        split at valid
        case isTrue trusted => exact .inr trusted
        case isFalse => contradiction
    | @validated ch az its old now =>
      rw [now, its]
      exact .inl ⟨ch.id, _, mem_append_right _ (mem_singleton_self _)⟩

section Steps

variable {o : Oracle} {w w' : World}

protected theorem turn {task : Task} {v v' : View} {log log' : List StateEvent}
    (noted : Recorded cfg log v) (turn : ViewTurn cfg o task v log v' log') (wf : v.Wf)
    (good : task.Good v) : Recorded cfg log' v' := by
  cases turn with
  | quiet past grows => exact (noted.without _).setSeq grows
  | @orphaned drop seq change detail past lets failed =>
    refine ((noted.without drop).setSeq lets.seq_le).append fun id => ?_
    -- storing a new order cannot fail
    cases makes : createdBy id (change.event { v.without drop with seq := seq }) with
    | none => rfl
    | some made =>
      rw [(createdBy_event makes).1] at failed
      contradiction
  | @written drop seq change v' past lets live =>
    have sound := lets.sound (wf.without drop) (good.mono (.without drop))
    exact (noted.without drop).write (wf.without drop) lets sound live

protected theorem step {a : Action} (noted : Recorded cfg w.log w.view) (good : w.Good)
    (moved : Step cfg o w a w') : Recorded cfg w'.log w'.view := by
  cases moved.kind with
  | quiet quiet =>
    obtain ⟨drop, -, view⟩ := good.wf.exists_without quiet.view
    rw [view, quiet.log]
    exact noted.without drop
  | @proceed i task w₂ next run turn =>
    have served := good.tasks task (mem_of_getElem? run)
    have after := noted.turn (turn.view good.wf) good.wf served
    cases next <;> exact after
  | @mark certId =>
    have same := noted.append (e := .earlyRenewalMarked certId) fun _ => rfl
    exact ⟨same.id_le, same.covers, same.order, same.authz⟩

end Steps

end Recorded

end Trustctl.Acme
