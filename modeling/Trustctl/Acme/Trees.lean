import Trustctl.Acme.Integrity
import Trustctl.Systems.Updates

/-!
# Changes to the order trees

`NewTree` is what `newOrder` builds: an order with its authorizations and challenges under ids
that were just handed out.  Storing it, validating a challenge and storing a certificate keep a
view linked; the last two only change statuses (`View.Linked.restatus`).
-/

namespace Trustctl.Acme

open Systems List

/-! ## New orders -/

namespace View

theorem foldl_putChallenge (chs : List Challenge) (v : View) :
    chs.foldl putChallenge v = { v with challenges := putAll Challenge.id chs v.challenges } := by
  induction chs generalizing v with
  | nil => rfl
  | cons ch chs ih => rw [foldl_cons, ih]; rfl

/-- The loop of `newOrder` that stores the authorizations. -/
theorem foldl_storeAuthz (azs : List (Authorization × List Challenge)) (v : View) :
    azs.foldl storeAuthz v = { v with
        authzs := putAll Authorization.id (azs.map Prod.fst) v.authzs
        challenges := putAll Challenge.id (azs.flatMap Prod.snd) v.challenges } := by
  induction azs generalizing v with
  | nil => rfl
  | cons az azs ih =>
    rw [foldl_cons, ih, storeAuthz, foldl_putChallenge, flatMap_cons, putAll_append]
    rfl

/-- The loop of the replay that stores the authorizations. -/
theorem foldl_putAuthz {azs : List (Authorization × List Challenge)}
    (listed : ∀ az ∈ azs, az.1.challengeIds = az.2.map Challenge.id) (v : View) :
    azs.foldl putAuthz v = azs.foldl storeAuthz v := by
  induction azs generalizing v with
  | nil => rfl
  | cons az azs ih =>
    have same : putAuthz v az = storeAuthz v az := by
      unfold putAuthz storeAuthz
      rw [foldl_putChallenge, foldl_putChallenge, ← listed az (mem_cons_self ..)]
    rw [foldl_cons, foldl_cons, same, ih fun other mem => listed other (mem_cons_of_mem _ mem)]

end View

/-- An order with its authorizations and challenges, under ids from `low + 1` to `high`. -/
structure NewTree (low high : Nat) (o : Order) (azs : List (Authorization × List Challenge)) :
    Prop where
  order_id : low < o.id ∧ o.id ≤ high
  authzIds : o.authzIds = azs.map (·.1.id)
  authz : ∀ az ∈ azs, (low < az.1.id ∧ az.1.id ≤ high) ∧ az.1.orderId = o.id ∧
    az.1.challengeIds = az.2.map Challenge.id
  challenge : ∀ az ∈ azs, ∀ ch ∈ az.2, (low < ch.id ∧ ch.id ≤ high) ∧ ch.authzId = az.1.id
  authz_nodup : (azs.map (·.1.id)).Nodup
  challenge_nodup : ((azs.flatMap Prod.snd).map Challenge.id).Nodup
  settled : o.status ≠ .pending → ∀ az ∈ azs, az.1.status = .valid

variable {token : Nat → String} {status : Status} {seq : Nat} {ch : Challenge}

theorem mem_buildChallenges {authzId : Nat} {types : List ChallengeType}
    (mem : ch ∈ buildChallenges token status authzId seq types) :
    (seq < ch.id ∧ ch.id ≤ seq + types.length) ∧ ch.authzId = authzId := by
  induction types generalizing seq with
  | nil => contradiction
  | cons type types ih =>
    rcases mem_cons.mp mem with rfl | later
    · exact ⟨⟨by simp, by simp⟩, rfl⟩
    · obtain ⟨⟨above, below⟩, holder⟩ := ih later
      exact ⟨⟨by omega, by rw [length_cons]; omega⟩, holder⟩

theorem nodup_buildChallenges (token : Nat → String) (status : Status) (authzId : Nat) (seq : Nat)
    (types : List ChallengeType) :
    ((buildChallenges token status authzId seq types).map Challenge.id).Nodup := by
  induction types generalizing seq with
  | nil => exact nodup_nil
  | cons type types ih =>
    refine nodup_cons.mpr ⟨fun repeated => ?_, ih (seq + 1)⟩
    obtain ⟨ch, mem, same⟩ := mem_map.mp repeated
    have above := (mem_buildChallenges mem).1.1
    dsimp only at same
    omega

theorem mem_buildAuthzs {orderId : Nat} {now : Nat} {planned : List (String × List ChallengeType)}
    {az : Authorization × List Challenge}
    (mem : az ∈ buildAuthzs token status orderId now seq planned) :
    ((seq < az.1.id ∧ az.1.id ≤ seq + idsTaken planned) ∧ az.1.orderId = orderId ∧
      az.1.challengeIds = az.2.map Challenge.id ∧ az.1.status = status ∧
      az.1.domain ∈ planned.map Prod.fst) ∧
    ∀ ch ∈ az.2, (seq < ch.id ∧ ch.id ≤ seq + idsTaken planned) ∧ ch.authzId = az.1.id := by
  induction planned generalizing seq with
  | nil => contradiction
  | cons entry planned ih =>
    obtain ⟨dom, types⟩ := entry
    have taken : idsTaken ((dom, types) :: planned) = 1 + types.length + idsTaken planned := by
      simp [idsTaken]
    rcases mem_cons.mp mem with rfl | later
    · refine ⟨⟨⟨by simp, by simp; omega⟩, rfl, rfl, rfl, by simp⟩, fun ch lt => ?_⟩
      obtain ⟨⟨above, below⟩, holder⟩ := mem_buildChallenges lt
      exact ⟨⟨by omega, by omega⟩, holder⟩
    · obtain ⟨⟨⟨above, below⟩, back, listed, same, domain_mem⟩, challenges⟩ := ih later
      refine ⟨⟨⟨by omega, by omega⟩, back, listed, same, mem_cons_of_mem _ domain_mem⟩,
        fun ch lt => ?_⟩
      obtain ⟨⟨above', below'⟩, holder⟩ := challenges ch lt
      exact ⟨⟨by omega, by omega⟩, holder⟩

theorem nodup_buildAuthzs (token : Nat → String) (status : Status) (orderId : Nat) (now : Nat)
    (seq : Nat) (due : List (String × List ChallengeType)) :
    ((buildAuthzs token status orderId now seq due).map (·.1.id)).Nodup ∧
      (((buildAuthzs token status orderId now seq due).flatMap Prod.snd).map
        Challenge.id).Nodup := by
  induction due generalizing seq with
  | nil => exact ⟨nodup_nil, nodup_nil⟩
  | cons entry due ih =>
    obtain ⟨dom, types⟩ := entry
    obtain ⟨authzs, chs⟩ := ih (seq + 1 + types.length)
    refine ⟨nodup_cons.mpr ⟨fun repeated => ?_, authzs⟩, ?_⟩
    · obtain ⟨az, mem, same⟩ := mem_map.mp repeated
      have above := (mem_buildAuthzs mem).1.1.1
      dsimp only at same
      omega
    · rw [buildAuthzs, flatMap_cons, map_append, nodup_append]
      refine ⟨nodup_buildChallenges .., chs, ?_⟩
      -- the challenges of this authorization come before those of the later ones
      intro c first c' second same
      obtain ⟨ch, lt, rfl⟩ := mem_map.mp first
      obtain ⟨ch', outside, rfl⟩ := mem_map.mp second
      obtain ⟨az, mem, inside'⟩ := mem_flatMap.mp outside
      have below := (mem_buildChallenges lt).1.2
      have above := ((mem_buildAuthzs mem).2 ch' inside').1.1
      omega

theorem newTree_buildAuthzs {now : Nat} {due : List (String × List ChallengeType)} {o : Order}
    (id : o.id = seq + 1)
    (ids : o.authzIds = (buildAuthzs token status (seq + 1) now (seq + 1) due).map (·.1.id))
    (settled : o.status ≠ .pending → status = .valid) :
    NewTree seq (seq + 1 + idsTaken due) o
      (buildAuthzs token status (seq + 1) now (seq + 1) due) where
  order_id := by omega
  authzIds := ids
  authz az member := by
    obtain ⟨⟨⟨above, below⟩, back, listed, -⟩, -⟩ := mem_buildAuthzs member
    exact ⟨⟨by omega, below⟩, back.trans id.symm, listed⟩
  challenge az member ch inside := by
    obtain ⟨⟨above, below⟩, holder⟩ := (mem_buildAuthzs member).2 ch inside
    exact ⟨⟨by omega, below⟩, holder⟩
  authz_nodup := (nodup_buildAuthzs ..).1
  challenge_nodup := (nodup_buildAuthzs ..).2
  settled done az member := by
    obtain ⟨⟨-, -, -, same, -⟩, -⟩ := mem_buildAuthzs member
    exact same.trans (settled done)

namespace View

section NewOrder

variable {v : View} {high : Nat} {o : Order} {azs : List (Authorization × List Challenge)}

theorem storeOrder_eq (v : View) (o : Order) (azs : List (Authorization × List Challenge)) :
    v.storeOrder o azs = { v with
        orders := Function.update v.orders o.id (some o)
        authzs := putAll Authorization.id (azs.map Prod.fst) v.authzs
        challenges := putAll Challenge.id (azs.flatMap Prod.snd) v.challenges } := by
  rw [storeOrder, foldl_storeAuthz]

theorem storeOrder_setSeq (v : View) (o : Order) (azs : List (Authorization × List Challenge))
    (seq : Nat) :
    View.storeOrder o azs { v with seq := seq } = { v.storeOrder o azs with seq := seq } := by
  rw [storeOrder_eq, storeOrder_eq]

variable (linked : v.Linked)

include linked

variable (tree : NewTree v.seq high o azs)

include tree

/-- The orders after a new one: the new one, and those from before. -/
theorem storeOrder_orders {id : Nat} {x : Order} :
    (v.storeOrder o azs).orders id = some x ↔ (id = o.id ∧ x = o) ∨ v.orders id = some x := by
  rw [storeOrder_eq]
  rw [update_eq_some]
  refine or_congr_right ⟨And.right, fun hit => ⟨fun same => ?_, hit⟩⟩
  have old := (linked.order_id hit).2
  have new := tree.order_id.1
  omega

theorem storeOrder_authzs {a : Nat} {az : Authorization} : (v.storeOrder o azs).authzs a = some az ↔
      (∃ chs, (az, chs) ∈ azs ∧ az.id = a) ∨ v.authzs a = some az := by
  have ne : ((azs.map Prod.fst).map Authorization.id).Nodup := by
    rw [map_map]
    exact tree.authz_nodup
  rw [storeOrder_eq]
  rw [putAll_eq_some ne]
  constructor
  · rintro (⟨mem, same⟩ | ⟨-, hit⟩)
    · obtain ⟨⟨az', chs⟩, lt, rfl⟩ := mem_map.mp mem
      exact .inl ⟨chs, lt, same⟩
    · exact .inr hit
  · rintro (⟨chs, mem, same⟩ | hit)
    · exact .inl ⟨mem_map_of_mem mem, same⟩
    · refine .inr ⟨fun kept => ?_, hit⟩
      obtain ⟨az', mem, rfl⟩ := mem_map.mp kept
      obtain ⟨entry, lt, rfl⟩ := mem_map.mp mem
      have old := (linked.authz_id hit).2
      have new := (tree.authz entry lt).1.1
      omega

theorem storeOrder_challenges {c : Nat} : (v.storeOrder o azs).challenges c = some ch ↔
      (∃ az ∈ azs, ch ∈ az.2 ∧ ch.id = c) ∨ v.challenges c = some ch := by
  rw [storeOrder_eq]
  rw [putAll_eq_some tree.challenge_nodup]
  constructor
  · rintro (⟨mem, same⟩ | ⟨-, hit⟩)
    · obtain ⟨az, lt, held⟩ := mem_flatMap.mp mem
      exact .inl ⟨az, lt, held, same⟩
    · exact .inr hit
  · rintro (⟨az, lt, held, same⟩ | hit)
    · exact .inl ⟨mem_flatMap.mpr ⟨az, lt, held⟩, same⟩
    · refine .inr ⟨fun kept => ?_, hit⟩
      obtain ⟨ch', mem, rfl⟩ := mem_map.mp kept
      obtain ⟨az, lt, held⟩ := mem_flatMap.mp mem
      have old := (linked.challenge_id hit).2
      have new := (tree.challenge az lt ch' held).1.1
      omega

theorem Linked.storeOrder : Linked { v.storeOrder o azs with seq := high } where
  order_id found := by
    rcases (storeOrder_orders linked tree).mp found with ⟨rfl, rfl⟩ | old
    · exact ⟨rfl, tree.order_id.2⟩
    · obtain ⟨same, out⟩ := linked.order_id old
      have grows := tree.order_id
      exact ⟨same, by dsimp only; omega⟩
  authz_id found := by
    rcases (storeOrder_authzs linked tree).mp found with ⟨chs, member, rfl⟩ | old
    · exact ⟨rfl, (tree.authz _ member).1.2⟩
    · obtain ⟨same, out⟩ := linked.authz_id old
      have grows := tree.order_id
      exact ⟨same, by dsimp only; omega⟩
  challenge_id found := by
    rcases (storeOrder_challenges linked tree).mp found with ⟨az, member, lt, rfl⟩ | old
    · exact ⟨rfl, (tree.challenge az member _ lt).1.2⟩
    · obtain ⟨same, out⟩ := linked.challenge_id old
      have grows := tree.order_id
      exact ⟨same, by dsimp only; omega⟩
  authz_of_order found member := by
    rcases (storeOrder_orders linked tree).mp found with ⟨rfl, rfl⟩ | old
    · rw [tree.authzIds] at member
      obtain ⟨⟨az, chs⟩, lt, rfl⟩ := mem_map.mp member
      exact ⟨az, (storeOrder_authzs linked tree).mpr (.inl ⟨chs, lt, rfl⟩), (tree.authz _ lt).2.1⟩
    · obtain ⟨az, present, back⟩ := linked.authz_of_order old member
      exact ⟨az, (storeOrder_authzs linked tree).mpr (.inr present), back⟩
  order_of_authz found := by
    rcases (storeOrder_authzs linked tree).mp found with ⟨chs, member, rfl⟩ | old
    · refine ⟨o, (storeOrder_orders linked tree).mpr (.inl ⟨(tree.authz _ member).2.1, rfl⟩), ?_⟩
      rw [tree.authzIds]
      exact mem_map_of_mem member
    · obtain ⟨o', present, member⟩ := linked.order_of_authz old
      exact ⟨o', (storeOrder_orders linked tree).mpr (.inr present), member⟩
  challenge_of_authz found member := by
    rcases (storeOrder_authzs linked tree).mp found with ⟨chs, lt, rfl⟩ | old
    · rw [(tree.authz _ lt).2.2] at member
      obtain ⟨ch, held, rfl⟩ := mem_map.mp member
      exact ⟨ch, (storeOrder_challenges linked tree).mpr (.inl ⟨_, lt, held, rfl⟩),
        (tree.challenge _ lt ch held).2⟩
    · obtain ⟨ch, present, back⟩ := linked.challenge_of_authz old member
      exact ⟨ch, (storeOrder_challenges linked tree).mpr (.inr present), back⟩
  authz_of_challenge found := by
    rcases (storeOrder_challenges linked tree).mp found with ⟨⟨az, chs⟩, lt, held, rfl⟩ | old
    · have holder := (tree.challenge _ lt _ held).2
      refine ⟨az, (storeOrder_authzs linked tree).mpr (.inl ⟨chs, lt, holder.symm⟩), ?_⟩
      rw [(tree.authz _ lt).2.2]
      exact mem_map_of_mem held
    · obtain ⟨az, present, member⟩ := linked.authz_of_challenge old
      exact ⟨az, (storeOrder_authzs linked tree).mpr (.inr present), member⟩
  valid_of_settled found settled member present := by
    rcases (storeOrder_orders linked tree).mp found with ⟨rfl, rfl⟩ | old
    · rcases (storeOrder_authzs linked tree).mp present with ⟨chs, lt, -⟩ | older
      · exact tree.settled settled _ lt
      · -- an authorization of the new order is not an old one
        rw [tree.authzIds] at member
        obtain ⟨entry, lt, rfl⟩ := mem_map.mp member
        have old := (linked.authz_id older).2
        have new := (tree.authz entry lt).1.1
        omega
    · rcases (storeOrder_authzs linked tree).mp present with ⟨chs, lt, rfl⟩ | older
      · obtain ⟨az', older, -⟩ := linked.authz_of_order old member
        have old := (linked.authz_id older).2
        have new := (tree.authz _ lt).1.1
        dsimp only at new
        omega
      · exact linked.valid_of_settled old settled member older

end NewOrder

/-! ## New statuses -/

/-- What of an order links it into its tree. -/
def orderLinks (o : Order) : Nat × List Nat := (o.id, o.authzIds)

/-- What of an authorization links it into its tree. -/
def authzLinks (az : Authorization) : Nat × Nat × List Nat := (az.id, az.orderId, az.challengeIds)

/-- What of a challenge links it into its tree. -/
def challengeLinks (ch : Challenge) : Nat × Nat := (ch.id, ch.authzId)

theorem map_update_of_links {A B : Type} {links : A → B} {f : Nat → Option A} {k : Nat} {x y : A}
    (hit : f k = some x) (same : links y = links x) (j : Nat) :
    (Function.update f k (some y) j).map links = (f j).map links := by
  by_cases at_k : j = k
  · rw [at_k, Function.update_self, hit, Option.map_some, Option.map_some, same]
  · rw [Function.update_of_ne at_k]

/-- A record of one view has a counterpart in another that agrees up to statuses. -/
theorem counterpart {A B : Type} {links : A → B} {f g : Nat → Option A} {k : Nat} {x : A}
    (agree : (g k).map links = (f k).map links) (hit : g k = some x) :
    ∃ y, f k = some y ∧ links y = links x := by
  rw [hit, Option.map_some] at agree
  exact Option.map_eq_some_iff.mp agree.symm

variable {v v' : View}

/-- Views with the same links are linked together, if their settled orders are. -/
theorem Linked.restatus (linked : v.Linked) (seq : v.seq ≤ v'.seq)
    (orders : ∀ id, (v'.orders id).map orderLinks = (v.orders id).map orderLinks)
    (authzs : ∀ id, (v'.authzs id).map authzLinks = (v.authzs id).map authzLinks)
    (chs : ∀ id, (v'.challenges id).map challengeLinks = (v.challenges id).map challengeLinks)
    (done : ∀ {id o a az}, v'.orders id = some o → o.status ≠ .pending → a ∈ o.authzIds →
      v'.authzs a = some az → az.status = .valid) : v'.Linked where
  order_id found := by
    obtain ⟨o, old, same⟩ := counterpart (orders _) found
    obtain ⟨here, out⟩ := linked.order_id old
    exact ⟨(congrArg Prod.fst same).symm.trans here, by omega⟩
  authz_id found := by
    obtain ⟨az, old, same⟩ := counterpart (authzs _) found
    obtain ⟨here, out⟩ := linked.authz_id old
    exact ⟨(congrArg Prod.fst same).symm.trans here, by omega⟩
  challenge_id found := by
    obtain ⟨ch, old, same⟩ := counterpart (chs _) found
    obtain ⟨here, out⟩ := linked.challenge_id old
    exact ⟨(congrArg Prod.fst same).symm.trans here, by omega⟩
  authz_of_order {_ o₁ _} found member := by
    obtain ⟨o, old, same⟩ := counterpart (orders _) found
    have listed : o.authzIds = o₁.authzIds := congrArg Prod.snd same
    obtain ⟨az, present, back⟩ := linked.authz_of_order old (listed ▸ member)
    obtain ⟨az', here', same'⟩ := counterpart (authzs _).symm present
    have orderId : az'.orderId = az.orderId := congrArg (·.2.1) same'
    exact ⟨az', here', orderId.trans back⟩
  order_of_authz {_ az₁} found := by
    obtain ⟨az, old, same⟩ := counterpart (authzs _) found
    have orderId : az.orderId = az₁.orderId := congrArg (·.2.1) same
    obtain ⟨o, present, member⟩ := linked.order_of_authz old
    obtain ⟨o', here', same'⟩ := counterpart (orders _).symm present
    have listed : o'.authzIds = o.authzIds := congrArg Prod.snd same'
    exact ⟨o', orderId ▸ here', listed ▸ member⟩
  challenge_of_authz {_ az₁ _} found member := by
    obtain ⟨az, old, same⟩ := counterpart (authzs _) found
    have listed : az.challengeIds = az₁.challengeIds := congrArg (·.2.2) same
    obtain ⟨ch, present, back⟩ := linked.challenge_of_authz old (listed ▸ member)
    obtain ⟨ch', here', same'⟩ := counterpart (chs _).symm present
    have holder : ch'.authzId = ch.authzId := congrArg Prod.snd same'
    exact ⟨ch', here', holder.trans back⟩
  authz_of_challenge {_ ch₁} found := by
    obtain ⟨ch, old, same⟩ := counterpart (chs _) found
    have holder : ch.authzId = ch₁.authzId := congrArg Prod.snd same
    obtain ⟨az, present, member⟩ := linked.authz_of_challenge old
    obtain ⟨az', here', same'⟩ := counterpart (authzs _).symm present
    have listed : az'.challengeIds = az.challengeIds := congrArg (·.2.2) same'
    exact ⟨az', holder ▸ here', listed ▸ member⟩
  valid_of_settled := done

/-- A validated challenge with its authorization, before the order is looked at. -/
def markValid (ch : Challenge) (az : Authorization) (v : View) : View :=
  { v with
    challenges := Function.update v.challenges ch.id (some { ch with status := .valid })
    authzs := Function.update v.authzs az.id (some { az with status := .valid }) }

theorem storeValidation_eq (ch : Challenge) (az : Authorization) (v : View) :
    v.storeValidation ch az = (v.markValid ch az).readyOrder az.orderId := rfl

theorem storeValidation_setSeq (ch : Challenge) (az : Authorization) (v : View) (seq : Nat) :
    View.storeValidation ch az { v with seq := seq } =
      { v.storeValidation ch az with seq := seq } := by
  rw [storeValidation_eq, storeValidation_eq]
  unfold readyOrder
  rw [show View.markValid ch az { v with seq := seq } =
    { v.markValid ch az with seq := seq } from rfl]
  dsimp only
  split
  case h_1 => rfl
  case h_2 o found =>
    rw [show View.allAuthzValid { v.markValid ch az with seq := seq } o =
      (v.markValid ch az).allAuthzValid o from rfl]
    split <;> rfl

theorem Linked.markValid (linked : v.Linked) {az : Authorization}
    (challenge : v.challenges ch.id = some ch) (authz : v.authzs az.id = some az) :
    (v.markValid ch az).Linked := by
  refine linked.restatus .refl (fun _ => rfl) (map_update_of_links authz rfl)
    (map_update_of_links challenge rfl) ?_
  intro id o a az' hit done mem here
  rcases update_eq_some.mp here with ⟨-, rfl⟩ | ⟨-, old⟩
  · rfl
  · exact linked.valid_of_settled hit done mem old

theorem readyOrder_eq (v : View) (orderId : Nat) :
    v.readyOrder orderId = { v with orders := (v.readyOrder orderId).orders } := by
  unfold readyOrder
  split
  · rfl
  · split <;> rfl

variable {orderId : Nat}

theorem readyOrder_of_found {o : Order} (hit : v.orders orderId = some o) :
    v.readyOrder orderId = { v with
        orders := Function.update v.orders orderId
          (some { o with status := if v.allAuthzValid o then .ready else o.status }) } := by
  unfold readyOrder
  rw [hit]
  dsimp only
  split
  · rfl
  · rw [Function.update_eq_self_iff.mpr hit.symm]

theorem Linked.readyOrder (linked : v.Linked) (orderId : Nat) : (v.readyOrder orderId).Linked := by
  unfold View.readyOrder
  split
  case h_1 => exact linked
  case h_2 o found =>
    split
    case isFalse => exact linked
    case isTrue all =>
      refine linked.restatus .refl (map_update_of_links found rfl) (fun _ => rfl) (fun _ => rfl) ?_
      intro id o' a az hit' done mem here
      rcases update_eq_some.mp hit' with ⟨-, rfl⟩ | ⟨-, old⟩
      · have valid := all_eq_true.mp all a mem
        rw [here] at valid
        exact of_decide_eq_true valid
      · exact linked.valid_of_settled old done mem here

variable {seq certId : Nat} {cert : Certificate} {issued : IssuedCert}

/-- A stored certificate makes its order valid and touches no other order. -/
theorem applyCertificateIssuedEvent_ok
    (done : v.applyCertificateIssuedEvent seq orderId certId cert issued = .ok v') :
    ∃ o, v.orders orderId = some o ∧ v'.orders = Function.update v.orders orderId
        (some { o with certId := some certId, status := .valid }) ∧
      v'.authzs = v.authzs ∧ v'.challenges = v.challenges ∧ v'.accounts = v.accounts ∧
      v'.byKey = v.byKey ∧ v'.certs = Function.update v.certs certId (some cert) ∧
      v'.seq = max v.seq seq := by
  unfold applyCertificateIssuedEvent at done
  split at done
  case h_1 => contradiction
  case h_2 o hit =>
    cases done
    exact ⟨o, hit, rfl, rfl, rfl, rfl, rfl, rfl, rfl⟩

theorem Linked.issue (linked : v.Linked)
    (settled : ∀ o, v.orders orderId = some o → o.status ≠ .pending)
    (done : v.applyCertificateIssuedEvent seq orderId certId cert issued = .ok v') :
    v'.Linked := by
  obtain ⟨o, hit, orders, authzs, chs, -, -, -, counter⟩ :=
    applyCertificateIssuedEvent_ok done
  refine linked.restatus (by omega) ?_ (fun _ => by rw [authzs]) (fun _ => by rw [chs]) ?_
  · rw [orders]
    exact map_update_of_links hit rfl
  · intro id o' a az hit' settled' mem here
    rw [authzs] at here
    rw [orders] at hit'
    rcases update_eq_some.mp hit' with ⟨-, rfl⟩ | ⟨-, old⟩
    · exact linked.valid_of_settled hit (settled o hit) mem here
    · exact linked.valid_of_settled old settled' mem here

theorem applyCertificateIssuedEvent_error {detail : String}
    (refused : v.applyCertificateIssuedEvent seq orderId certId cert issued = .error detail) :
    v.orders orderId = none := by
  unfold applyCertificateIssuedEvent at refused
  split at refused
  case h_1 missing => exact missing
  case h_2 => contradiction

theorem Linked.congr (linked : v.Linked) (orders : v'.orders = v.orders)
    (authzs : v'.authzs = v.authzs)
    (chs : v'.challenges = v.challenges) (seq : v.seq ≤ v'.seq) : v'.Linked := by
  refine linked.restatus seq (fun _ => by rw [orders]) (fun _ => by rw [authzs])
    (fun _ => by rw [chs]) ?_
  rw [orders, authzs]
  exact linked.valid_of_settled

end View

end Trustctl.Acme
