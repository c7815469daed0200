import Trustctl.Acme.Trees

/-!
# Writes to the serving view

`View.Indexed` ties the account table to the key index, `Write.Sound` says what a write relies
on, and a sound write keeps the view well-formed.  The change a handler makes by hand and the
replay of the event it appended are the same (`Write.Sound.replayed`).
-/

namespace Trustctl.Acme

open Systems Option

namespace View

/-! ## Accounts -/

/-- The key index is the inverse of the account table. -/
structure Indexed (v : View) : Prop where
  account : ∀ {url acct}, v.accounts url = some acct →
    acct.url = url ∧ acct.id = acct.key ∧ acct.jwk = some acct.key ∧ url.id ≤ v.seq
  byKey : ∀ {key url}, v.byKey key = some url ↔ ∃ acct, v.accounts url = some acct ∧ acct.key = key

theorem indexed_empty : Indexed {} where
  account found := by contradiction
  byKey := by simp

theorem Indexed.congr {v v' : View} (indexed : v.Indexed) (accts : v'.accounts = v.accounts)
    (byKey : v'.byKey = v.byKey) (seq : v.seq ≤ v'.seq) : v'.Indexed where
  account found := by
    obtain ⟨url, id, jwk, out⟩ := indexed.account (accts ▸ found)
    exact ⟨url, id, jwk, Nat.le_trans out seq⟩
  byKey := by
    rw [accts, byKey]
    exact indexed.byKey

variable {acct : Account} {key : AcmeKey}

variable {v : View} (indexed : v.Indexed)

include indexed

theorem Indexed.of_byKey (hit : (v.byKey key).bind v.accounts = some acct) :
    v.accounts acct.url = some acct ∧ acct.key = key := by
  obtain ⟨url, index, here⟩ := bind_eq_some_iff.mp hit
  obtain ⟨acct', here', same⟩ := indexed.byKey.mp index
  rw [here] at here'
  cases here'
  exact ⟨(indexed.account here).1 ▸ here, same⟩

theorem Indexed.byKey_none (gone : (v.byKey key).bind v.accounts = none) : v.byKey key = none := by
  cases index : v.byKey key with
  | none => rfl
  | some url =>
    obtain ⟨acct, here, -⟩ := indexed.byKey.mp index
    rw [index, bind_some, here] at gone
    contradiction

theorem Indexed.storeAccount (id : acct.id = acct.key) (jwk : acct.jwk = some acct.key)
    (fresh : v.seq < acct.url.id) (new : v.byKey acct.key = none) {high : Nat}
    (out : acct.url.id ≤ high) :
    Indexed { v.storeAccount acct with seq := high } where
  account {url acct'} found := by
    rcases update_eq_some.mp found with ⟨rfl, rfl⟩ | ⟨-, old⟩
    · exact ⟨rfl, id, jwk, out⟩
    · obtain ⟨here, id', jwk', older⟩ := indexed.account old
      exact ⟨here, id', jwk', by dsimp only; omega⟩
  byKey {key url} := by
    dsimp only [View.storeAccount]
    rw [id, update_eq_some]
    constructor
    · rintro (⟨rfl, rfl⟩ | ⟨other, old⟩)
      · exact ⟨acct, Function.update_self .., rfl⟩
      · obtain ⟨acct', found, same⟩ := indexed.byKey.mp old
        refine ⟨acct', update_eq_some.mpr (.inr ⟨?_, found⟩), same⟩
        rintro rfl
        have older := (indexed.account found).2.2.2
        omega
    · rintro ⟨acct', found, same⟩
      rcases update_eq_some.mp found with ⟨rfl, rfl⟩ | ⟨-, old⟩
      · exact .inl ⟨same.symm, rfl⟩
      · have index := indexed.byKey.mpr ⟨acct', old, same⟩
        refine .inr ⟨?_, index⟩
        -- an older account under the key would be in the index
        rintro rfl
        cases new.symm.trans index

theorem Indexed.amend {old : Account} (contact : List String)
    (hit : v.accounts old.url = some old) :
    Indexed { v with
      accounts := Function.update v.accounts old.url (some { old with contact }) } where
  account {url acct} present := by
    rcases update_eq_some.mp present with ⟨rfl, rfl⟩ | ⟨-, before⟩
    · exact ⟨rfl, (indexed.account hit).2⟩
    · exact indexed.account before
  byKey {key url} := by
    rw [indexed.byKey]
    dsimp only
    by_cases same : url = old.url
    · rw [same, Function.update_self, hit]
      simp
    · rw [Function.update_of_ne same]

theorem Indexed.rotateKey {old : Account} (hit : v.accounts old.url = some old)
    (free : ∀ other, v.byKey key = some other → other = old.url) :
    Indexed (v.rotateKey { old with id := key, key, jwk := some key }) where
  account {url acct} present := by
    rcases update_eq_some.mp present with ⟨rfl, rfl⟩ | ⟨-, before⟩
    · exact ⟨rfl, rfl, rfl, (indexed.account hit).2.2.2⟩
    · exact indexed.account before
  byKey {k url} := by
    dsimp only [View.rotateKey]
    rw [hit]
    dsimp only
    rw [update_eq_some]
    constructor
    · rintro (⟨rfl, rfl⟩ | ⟨isNew, index⟩)
      · exact ⟨_, Function.update_self .., rfl⟩
      · have isOld : k ≠ old.key := by
          rintro rfl
          rw [Function.update_self] at index
          cases index
        rw [Function.update_of_ne isOld] at index
        obtain ⟨acct, present, same⟩ := indexed.byKey.mp index
        refine ⟨acct, update_eq_some.mpr (.inr ⟨?_, present⟩), same⟩
        rintro rfl
        cases present.symm.trans hit
        exact isOld same.symm
    · rintro ⟨acct, present, same⟩
      rcases update_eq_some.mp present with ⟨rfl, rfl⟩ | ⟨here, before⟩
      · exact .inl ⟨same.symm, rfl⟩
      · have index := indexed.byKey.mpr ⟨acct, before, same⟩
        refine .inr ⟨fun isNew => here (free url (isNew ▸ index)), ?_⟩
        rw [Function.update_of_ne, index]
        -- the former key led to this account only
        rintro rfl
        cases index.symm.trans (indexed.byKey.mpr ⟨old, hit, rfl⟩)
        exact here rfl

end View

/-! ## Sound writes -/

structure View.Wf (v : View) : Prop where
  linked : v.Linked
  indexed : v.Indexed

theorem View.wf_empty : View.Wf {} := ⟨View.linked_empty, View.indexed_empty⟩

variable {seq : Nat}

theorem View.Wf.setSeq {v : View} (wf : v.Wf) (grows : v.seq ≤ seq) :
    View.Wf { v with seq := seq } :=
  ⟨wf.linked.congr rfl rfl rfl grows, wf.indexed.congr rfl rfl grows⟩

theorem View.Wf.without {v : View} (wf : v.Wf) (drop : Nat → Bool) : (v.without drop).Wf :=
  ⟨wf.linked.without, wf.indexed.congr rfl rfl .refl⟩

/-- What a write relies on, given the view before and the id counter after the section handed
out its ids. -/
inductive Write.Sound (v : View) : Nat → Write → Prop
  | register {acct : Account} (id : acct.id = acct.key) (jwk : acct.jwk = some acct.key)
      (url : acct.url.id = v.seq + 1) (unknown : v.byKey acct.key = none) :
      Sound v (v.seq + 1) (.register acct)
  | amend {old : Account} (contact : List String) (found : v.accounts old.url = some old) :
      Sound v v.seq (.amend { old with contact })
  | rekey {old : Account} {key : AcmeKey} (found : v.accounts old.url = some old)
      (free : ∀ other, v.byKey key = some other → other = old.url) :
      Sound v v.seq (.rekey { old with id := key, key, jwk := some key })
  | order {high : Nat} {o : Order} {azs : List (Authorization × List Challenge)}
      (tree : NewTree v.seq high o azs) : Sound v high (.order o azs)
  | validate {ch : Challenge} {az : Authorization} (challenge : v.challenges ch.id = some ch)
      (authz : v.authzs az.id = some az) (holder : ch.authzId = az.id) :
      Sound v v.seq (.validate ch az)
  | issue {orderId : Nat} (cert : Certificate) (issued : IssuedCert)
      (settled : ∀ o, v.orders orderId = some o → o.status ≠ .pending) :
      Sound v (v.seq + 1) (.issue orderId (v.seq + 1) cert issued)
  | revoke {fingerprint : String} (rev : Revocation) (known : fingerprint ≠ "") :
      Sound v v.seq (.revoke fingerprint rev)
  | mark (certId : String) : Sound v v.seq (.mark certId)

variable {change : Write}

theorem Write.Sound.seq_le {v : View} (sound : change.Sound v seq) : v.seq ≤ seq := by
  cases sound with
  | order tree =>
    have grows := tree.order_id
    omega
  | register | issue => exact Nat.le_succ _
  | amend | rekey | validate | revoke | mark => exact .refl

theorem Write.Sound.wf {v v' : View} (sound : change.Sound v seq)
    (wf : v.Wf) (written : change.live { v with seq := seq } = .ok v') : v'.Wf := by
  have moved := wf.setSeq sound.seq_le
  cases sound with
  | register id jwk url new =>
    cases written
    exact ⟨moved.linked.congr rfl rfl rfl .refl,
      wf.indexed.storeAccount id jwk (by omega) new (Nat.le_of_eq url)⟩
  | amend contact hit =>
    cases written
    have indexed := wf.indexed.amend contact hit
    exact ⟨moved.linked.congr rfl rfl rfl .refl, indexed⟩
  | rekey hit free =>
    cases written
    exact ⟨moved.linked.congr rfl rfl rfl .refl, wf.indexed.rotateKey hit free⟩
  | @order _ o azs tree =>
    cases written
    rw [View.storeOrder_setSeq]
    refine ⟨wf.linked.storeOrder tree, ?_⟩
    rw [View.storeOrder_eq]
    exact moved.indexed.congr rfl rfl .refl
  | validate ch authz holder =>
    cases written
    refine ⟨(moved.linked.markValid ch authz).readyOrder _, ?_⟩
    rw [View.storeValidation_eq, View.readyOrder_eq]
    exact moved.indexed.congr rfl rfl .refl
  | issue cert issued done =>
    refine ⟨moved.linked.issue done written, ?_⟩
    obtain ⟨o, -, -, -, -, accts, byKey, -, counter⟩ :=
      View.applyCertificateIssuedEvent_ok written
    exact moved.indexed.congr accts byKey (by omega)
  | revoke | mark =>
    cases written
    exact ⟨moved.linked.congr rfl rfl rfl .refl, moved.indexed.congr rfl rfl .refl⟩

/-! ## What a write changes -/

/-- A map that was updated at one key still has its other records. -/
theorem update_isSome {K A : Type} [DecidableEq K] {f : K → Option A} {k j : K} {x y : A}
    (hit : f j = some y) : ∃ y', Function.update f k (some x) j = some y' := by
  by_cases same : j = k
  · exact ⟨x, same ▸ Function.update_self ..⟩
  · exact ⟨y, (Function.update_of_ne same ..).trans hit⟩

section Changes

variable {v v' : View} {seq : Nat} {change : Write} (sound : change.Sound v seq)
  (written : change.live { v with seq := seq } = .ok v')

include sound written

inductive OrderChange (v v' : View) (id : Nat) (o' : Order) : Write → Prop
  | kept {change : Write} (found : v.orders id = some o') : OrderChange v v' id o' change
  | created {azs : List (Authorization × List Challenge)} (new : id = o'.id) :
      OrderChange v v' id o' (.order o' azs)
  | readied {ch : Challenge} {az : Authorization} {o : Order} (its : id = az.orderId)
      (found : v.orders id = some o) (now : o' = { o with status := .ready })
      (all : v'.allAuthzValid o') : OrderChange v v' id o' (.validate ch az)
  | issued {certId : Nat} {cert : Certificate} {record : IssuedCert} {o : Order}
      (found : v.orders id = some o)
      (now : o' = { o with certId := some certId, status := .valid }) :
      OrderChange v v' id o' (.issue id certId cert record)

theorem Write.Sound.orders (wf : v.Wf) {id : Nat} {o' : Order}
    (hit : v'.orders id = some o') : OrderChange v v' id o' change := by
  cases sound with
  | register | amend | rekey | revoke | mark =>
    cases written
    exact .kept hit
  | order tree =>
    cases written
    rw [View.storeOrder_eq] at hit
    rcases update_eq_some.mp hit with ⟨same, rfl⟩ | ⟨-, old⟩
    · exact .created same
    · exact .kept old
  | @validate ch az challenge authz holder =>
    cases written
    obtain ⟨o, here, -⟩ := wf.linked.order_of_authz authz
    rw [View.storeValidation_eq] at hit ⊢
    unfold View.readyOrder at hit ⊢
    rw [show ({ v with seq := v.seq } : View).markValid ch az = v.markValid ch az from rfl,
      show (v.markValid ch az).orders az.orderId = some o from here] at hit ⊢
    dsimp only at hit ⊢
    split at hit
    case isTrue all =>
      rw [if_pos all]
      rcases update_eq_some.mp hit with ⟨same, rfl⟩ | ⟨-, old⟩
      · exact .readied same (same ▸ here) rfl all
      · exact .kept old
    case isFalse => exact .kept hit
  | issue cert record done =>
    obtain ⟨o, here, orders, -⟩ := View.applyCertificateIssuedEvent_ok written
    rw [orders] at hit
    rcases update_eq_some.mp hit with ⟨rfl, rfl⟩ | ⟨-, old⟩
    · exact .issued here rfl
    · exact .kept old

inductive AuthzChange (v : View) (a : Nat) (az' : Authorization) : Write → Prop
  | kept {change : Write} (found : v.authzs a = some az') : AuthzChange v a az' change
  | created {o : Order} {azs : List (Authorization × List Challenge)} {chs : List Challenge}
      (member : (az', chs) ∈ azs) (new : az'.id = a) : AuthzChange v a az' (.order o azs)
  | validated {ch : Challenge} {az : Authorization} (its : a = az.id)
      (found : v.authzs a = some az) (now : az' = { az with status := .valid }) :
      AuthzChange v a az' (.validate ch az)

theorem Write.Sound.authzs (wf : v.Wf) {a : Nat} {az' : Authorization}
    (hit : v'.authzs a = some az') : AuthzChange v a az' change := by
  cases sound with
  | register | amend | rekey | revoke | mark =>
    cases written
    exact .kept hit
  | @order _ o azs tree =>
    cases written
    rw [View.storeOrder_setSeq] at hit
    rcases (View.storeOrder_authzs wf.linked tree).mp hit with ⟨chs, mem, new⟩ | old
    · exact .created mem new
    · exact .kept old
  | @validate ch az challenge authz holder =>
    cases written
    rw [View.storeValidation_eq, View.readyOrder_eq] at hit
    rcases update_eq_some.mp hit with ⟨rfl, rfl⟩ | ⟨-, old⟩
    · exact .validated rfl authz rfl
    · exact .kept old
  | issue cert record done =>
    obtain ⟨o, -, -, authzs, -⟩ := View.applyCertificateIssuedEvent_ok written
    exact .kept (authzs ▸ hit)

inductive ChallengeChange (v : View) (c : Nat) (ch' : Challenge) : Write → Prop
  | kept {change : Write} (found : v.challenges c = some ch') : ChallengeChange v c ch' change
  | created {o : Order} {azs : List (Authorization × List Challenge)}
      {az : Authorization × List Challenge} (member : az ∈ azs) (inside : ch' ∈ az.2)
      (new : ch'.id = c) : ChallengeChange v c ch' (.order o azs)
  | validated {ch : Challenge} {az : Authorization} (its : c = ch.id)
      (found : v.challenges c = some ch) (now : ch' = { ch with status := .valid }) :
      ChallengeChange v c ch' (.validate ch az)

theorem Write.Sound.challenges (wf : v.Wf) {c : Nat} {ch' : Challenge}
    (hit : v'.challenges c = some ch') : ChallengeChange v c ch' change := by
  cases sound with
  | register | amend | rekey | revoke | mark =>
    cases written
    exact .kept hit
  | @order _ o azs tree =>
    cases written
    rw [View.storeOrder_setSeq] at hit
    rcases (View.storeOrder_challenges wf.linked tree).mp hit with ⟨az, mem, lt, new⟩ | old
    · exact .created mem lt new
    · exact .kept old
  | @validate ch az challenge authz holder =>
    cases written
    rw [View.storeValidation_eq, View.readyOrder_eq] at hit
    rcases update_eq_some.mp hit with ⟨rfl, rfl⟩ | ⟨-, old⟩
    · exact .validated rfl challenge rfl
    · exact .kept old
  | issue cert record done =>
    obtain ⟨o, -, -, -, chs, -⟩ := View.applyCertificateIssuedEvent_ok written
    exact .kept (chs ▸ hit)

inductive AccountChange (v : View) (url : AccountUrl) (acct' : Account) : Write → Prop
  | kept {change : Write} (found : v.accounts url = some acct') : AccountChange v url acct' change
  | registered (new : v.accounts url = none) (its : url = acct'.url) :
      AccountChange v url acct' (.register acct')
  | amended {old : Account} (found : v.accounts url = some old) (key : acct'.key = old.key) :
      AccountChange v url acct' (.amend acct')
  | rekeyed {old : Account} (found : v.accounts url = some old) (its : url = acct'.url)
      (contact : acct'.contact = old.contact) : AccountChange v url acct' (.rekey acct')

theorem Write.Sound.accounts (wf : v.Wf) {url : AccountUrl} {acct' : Account}
    (hit : v'.accounts url = some acct') : AccountChange v url acct' change := by
  cases sound with
  | @register acct id jwk fresh new =>
    cases written
    rcases update_eq_some.mp hit with ⟨same, rfl⟩ | ⟨-, old⟩
    · refine .registered ?_ same
      cases known : v.accounts url with
      | none => rfl
      | some acct =>
        have out := (wf.indexed.account known).2.2.2
        rw [same] at out
        omega
    · exact .kept old
  | @amend old contact present =>
    cases written
    rcases update_eq_some.mp hit with ⟨same, rfl⟩ | ⟨-, before⟩
    · have here : v.accounts url = some old := (congrArg v.accounts same).trans present
      exact .amended here rfl
    · exact .kept before
  | @rekey old key present free =>
    cases written
    rcases update_eq_some.mp hit with ⟨same, rfl⟩ | ⟨-, before⟩
    · have here : v.accounts url = some old := (congrArg v.accounts same).trans present
      exact .rekeyed here same rfl
    · exact .kept before
  | order tree =>
    cases written
    rw [View.storeOrder_eq] at hit
    exact .kept hit
  | validate ch authz holder =>
    cases written
    rw [View.storeValidation_eq, View.readyOrder_eq] at hit
    exact .kept hit
  | issue cert record done =>
    obtain ⟨o, -, -, -, -, accts, -⟩ := View.applyCertificateIssuedEvent_ok written
    exact .kept (accts ▸ hit)
  | revoke | mark =>
    cases written
    exact .kept hit

theorem Write.Sound.account_stays {acct : Account} {url : AccountUrl}
    (hit : v.accounts url = some acct) :
    ∃ acct', v'.accounts url = some acct' := by
  cases sound with
  | register | amend | rekey =>
    cases written
    exact update_isSome hit
  | order tree =>
    cases written
    rw [View.storeOrder_eq]
    exact ⟨acct, hit⟩
  | validate ch authz holder =>
    cases written
    rw [View.storeValidation_eq, View.readyOrder_eq]
    exact ⟨acct, hit⟩
  | issue cert record done =>
    obtain ⟨o, -, -, -, -, accts, -⟩ := View.applyCertificateIssuedEvent_ok written
    exact ⟨acct, accts ▸ hit⟩
  | revoke | mark =>
    cases written
    exact ⟨acct, hit⟩

theorem Write.Sound.certs {certId : Nat} {cert : Certificate} (hit : v'.certs certId = some cert) :
    v.certs certId = some cert ∨ ∃ oid record, change = .issue oid certId cert record := by
  cases sound with
  | register | amend | rekey | revoke | mark =>
    cases written
    exact .inl hit
  | order tree =>
    cases written
    rw [View.storeOrder_eq] at hit
    exact .inl hit
  | validate ch authz holder =>
    cases written
    rw [View.storeValidation_eq, View.readyOrder_eq] at hit
    exact .inl hit
  | @issue oid cert' record done =>
    obtain ⟨o, -, -, -, -, -, -, certs, -⟩ := View.applyCertificateIssuedEvent_ok written
    rw [certs] at hit
    rcases update_eq_some.mp hit with ⟨rfl, rfl⟩ | ⟨-, old⟩
    · exact .inr ⟨oid, record, rfl⟩
    · exact .inl old

theorem Write.Sound.counter : v'.seq = seq := by
  cases sound with
  | register | amend | rekey | revoke | mark =>
    cases written
    rfl
  | order tree =>
    cases written
    rw [View.storeOrder_eq]
  | validate ch authz holder =>
    cases written
    rw [View.storeValidation_eq, View.readyOrder_eq]
    rfl
  | issue cert record done =>
    obtain ⟨o, -, -, -, -, -, -, -, counter⟩ := View.applyCertificateIssuedEvent_ok written
    exact counter.trans (Nat.max_self _)

structure View.TreeKept (v v' : View) (id : Nat) : Prop where
  order : ∀ {ord}, v.orders id = some ord → v'.orders id = some ord
  authz : ∀ {a az}, v.authzs a = some az → az.orderId = id → v'.authzs a = some az
  challenge : ∀ {c ch az}, v.challenges c = some ch → v.authzs ch.authzId = some az →
    az.orderId = id → v'.challenges c = some ch

/-- The order in whose tree a write changes something. -/
def Write.touches : Write → Option Nat
  | .validate _ az => some az.orderId
  | .issue orderId _ _ _ => some orderId
  | _ => none

/-- A write leaves the trees of the other orders alone. -/
theorem Write.Sound.treeKept (wf : v.Wf) {id : Nat} (other : change.touches ≠ some id) :
    v.TreeKept v' id := by
  cases sound with
  | register | amend | rekey | revoke | mark =>
    cases written
    exact ⟨fun hit => hit, fun hit _ => hit, fun hit _ _ => hit⟩
  | @order _ o azs tree =>
    cases written
    rw [View.storeOrder_setSeq]
    exact ⟨fun hit => (View.storeOrder_orders wf.linked tree).mpr (.inr hit),
      fun hit _ => (View.storeOrder_authzs wf.linked tree).mpr (.inr hit),
      fun hit _ _ => (View.storeOrder_challenges wf.linked tree).mpr (.inr hit)⟩
  | @validate ch az challenge authz holder =>
    cases written
    have apart : az.orderId ≠ id := fun same => other (congrArg some same)
    obtain ⟨ord, here, -⟩ := wf.linked.order_of_authz authz
    rw [View.storeValidation_eq, View.readyOrder_of_found (v := View.markValid ch az _) here]
    refine ⟨fun hit => ?_, fun {a az'} hit its => ?_, fun {c ch' az'} hit here its => ?_⟩
    · exact (Function.update_of_ne apart.symm ..).trans hit
    · refine (Function.update_of_ne ?_ ..).trans hit
      rintro rfl
      cases hit.symm.trans authz
      exact apart its
    · refine (Function.update_of_ne ?_ ..).trans hit
      rintro rfl
      cases hit.symm.trans challenge
      rw [holder] at here
      cases here.symm.trans authz
      exact apart its
  | @issue oid cert record done =>
    have apart : oid ≠ id := fun same => other (congrArg some same)
    obtain ⟨ord, -, orders, authzs, chs, -⟩ := View.applyCertificateIssuedEvent_ok written
    refine ⟨fun hit => ?_, fun hit _ => authzs ▸ hit, fun hit _ _ => chs ▸ hit⟩
    rw [orders]
    exact (Function.update_of_ne apart.symm ..).trans hit

end Changes

/-- The status that is logged is the one the order gets. -/
theorem View.statusAfter_eq (v : View) (ch : Challenge) (az : Authorization) (o : Order) :
    v.statusAfter az o = if (v.markValid ch az).allAuthzValid o then .ready else o.status := by
  unfold View.statusAfter View.allAuthzValid View.markValid
  congr 2
  refine congrArg (List.all o.authzIds) (funext fun id => ?_)
  by_cases same : id = az.id <;> simp [same]

/-- The replay of an event makes the change its handler made by hand. -/
theorem Write.Sound.replayed {v : View} (sound : change.Sound v seq)
    (wf : v.Wf) (marked : change ≠ .mark "") :
    View.applyStateEvent { v with seq := seq } (change.event { v with seq := seq }) =
      change.live { v with seq := seq } := by
  cases sound with
  | @register acct id jwk url new =>
    have fresh : v.accounts acct.url = none := by
      cases hit : v.accounts acct.url with
      | none => rfl
      | some old =>
        have out := (wf.indexed.account hit).2.2.2
        omega
    obtain ⟨acctId, acctUrl, acctKey, acctJwk, contact⟩ := acct
    dsimp only at id jwk fresh
    subst id jwk
    simp [View.applyStateEvent, Write.event, Write.live, View.applyAccountEvent, fresh,
      View.rememberSeq, View.storeAccount]
  | @amend old contact hit =>
    obtain ⟨-, id, jwk, -⟩ := wf.indexed.account hit
    have index := wf.indexed.byKey.mpr ⟨old, hit, rfl⟩
    rw [← id] at index
    simp [View.applyStateEvent, Write.event, Write.live, View.applyAccountEvent, hit, jwk,
      View.rememberSeq, ← index]
  | @rekey old key hit free =>
    obtain ⟨-, id, -, -⟩ := wf.indexed.account hit
    by_cases same : old.key = key
    · simp [View.applyStateEvent, Write.event, Write.live, View.applyAccountEvent, hit, id,
        View.rememberSeq, View.rotateKey, same]
    · simp [View.applyStateEvent, Write.event, Write.live, View.applyAccountEvent, hit, id,
        View.rememberSeq, View.rotateKey, same]
  | @order _ o azs tree =>
    have listed : ∀ az ∈ azs, az.1.challengeIds = az.2.map Challenge.id :=
      fun az mem => (tree.authz az mem).2.2
    simp only [View.applyStateEvent, Write.event, Write.live, View.applyOrderCreatedEvent,
      View.foldl_putAuthz listed, View.foldl_storeAuthz, View.storeOrder_eq, View.rememberSeq,
      Nat.max_self]
  | @validate ch az challenge authz holder =>
    obtain ⟨o, here, -⟩ := wf.linked.order_of_authz authz
    have ready := View.readyOrder_of_found (v := v.markValid ch az) here
    have kept : View.storeValidation ch az { v with seq := v.seq } =
        (v.markValid ch az).readyOrder az.orderId := rfl
    simp only [View.applyStateEvent, Write.event, Write.live, View.applyChallengeValidatedEvent,
      challenge, authz, here, map_some, View.statusAfter_eq v ch az o, kept, ready]
    rfl
  | issue cert issued done => rfl
  | revoke rev known => simp [View.applyStateEvent, Write.event, Write.live,
      View.applyCertificateRevokedEvent, known]
  | mark certId =>
    have named : certId ≠ "" := fun empty => marked (empty ▸ rfl)
    simp [View.applyStateEvent, Write.event, Write.live, View.applyEarlyRenewalEvent, named]

end Trustctl.Acme
