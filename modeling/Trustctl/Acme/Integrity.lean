import Trustctl.Acme.Server

/-!
# Integrity of the serving view

Orders, authorizations and challenges form trees: `View.Linked` says that every id in a record
leads to its object and back.  On a linked view the pruning loop deletes whole trees, so it is
`View.without` for the set of expired orders; that form composes, commutes with the changes to
other orders and forgets in which order the loop went.
-/

namespace Trustctl.Acme

open List

namespace View

/-- Ids lead to their objects and back, and were handed out; an order that is not pending has
only valid authorizations. -/
structure Linked (v : View) : Prop where
  order_id : ∀ {id o}, v.orders id = some o → o.id = id ∧ id ≤ v.seq
  authz_id : ∀ {id az}, v.authzs id = some az → az.id = id ∧ id ≤ v.seq
  challenge_id : ∀ {id ch}, v.challenges id = some ch → ch.id = id ∧ id ≤ v.seq
  authz_of_order : ∀ {id o a}, v.orders id = some o → a ∈ o.authzIds →
    ∃ az, v.authzs a = some az ∧ az.orderId = id
  order_of_authz : ∀ {a az}, v.authzs a = some az →
    ∃ o, v.orders az.orderId = some o ∧ a ∈ o.authzIds
  challenge_of_authz : ∀ {a az c}, v.authzs a = some az → c ∈ az.challengeIds →
    ∃ ch, v.challenges c = some ch ∧ ch.authzId = a
  authz_of_challenge : ∀ {c ch}, v.challenges c = some ch →
    ∃ az, v.authzs ch.authzId = some az ∧ c ∈ az.challengeIds
  valid_of_settled : ∀ {id o a az}, v.orders id = some o → o.status ≠ .pending →
    a ∈ o.authzIds → v.authzs a = some az → az.status = .valid

theorem linked_empty : Linked {} := by
  constructor <;> intros <;> contradiction

/-! ## Dropping orders -/

/-- The view without some orders, their authorizations and their challenges. -/
def without (drop : Nat → Bool) (v : View) : View :=
  { v with
    orders := fun id => if drop id then none else v.orders id
    authzs := fun id => (v.authzs id).filter fun az => !drop az.orderId
    challenges := fun id => (v.challenges id).filter fun ch =>
      !(v.authzs ch.authzId).any fun az => drop az.orderId }

variable {v : View} {drop : Nat → Bool} {id : Nat}

theorem without_orders {o : Order} :
    (v.without drop).orders id = some o ↔ drop id = false ∧ v.orders id = some o := by
  simp [without]

theorem without_authzs {az : Authorization} :
    (v.without drop).authzs id = some az ↔ v.authzs id = some az ∧ drop az.orderId = false := by
  simp [without]

theorem without_challenges {ch : Challenge} :
    (v.without drop).challenges id = some ch ↔ v.challenges id = some ch ∧
        ∀ az, v.authzs ch.authzId = some az → drop az.orderId = false := by
  cases holder : v.authzs ch.authzId <;> simp [without, holder]

theorem Linked.without (link : v.Linked) : (v.without drop).Linked where
  order_id found := link.order_id (without_orders.mp found).2
  authz_id found := link.authz_id (without_authzs.mp found).1
  challenge_id found := link.challenge_id (without_challenges.mp found).1
  authz_of_order found member := by
    obtain ⟨kept, found⟩ := without_orders.mp found
    obtain ⟨az, present, back⟩ := link.authz_of_order found member
    exact ⟨az, without_authzs.mpr ⟨present, back ▸ kept⟩, back⟩
  order_of_authz found := by
    obtain ⟨found, kept⟩ := without_authzs.mp found
    obtain ⟨o, present, member⟩ := link.order_of_authz found
    exact ⟨o, without_orders.mpr ⟨kept, present⟩, member⟩
  challenge_of_authz found member := by
    obtain ⟨found, kept⟩ := without_authzs.mp found
    obtain ⟨ch, present, back⟩ := link.challenge_of_authz found member
    refine ⟨ch, without_challenges.mpr ⟨present, ?_⟩, back⟩
    intro az holder
    rw [back, found] at holder
    cases holder
    exact kept
  authz_of_challenge found := by
    obtain ⟨found, kept⟩ := without_challenges.mp found
    obtain ⟨az, present, member⟩ := link.authz_of_challenge found
    exact ⟨az, without_authzs.mpr ⟨present, kept az present⟩, member⟩
  valid_of_settled found settled member present :=
    link.valid_of_settled (without_orders.mp found).2 settled member (without_authzs.mp present).1

/-- Views that differ at most in their trees are equal if the trees are. -/
theorem tree_ext {v' : View}
    (rest : v' = { v with orders := v'.orders, authzs := v'.authzs, challenges := v'.challenges })
    (orders : ∀ id o, v'.orders id = some o ↔ v.orders id = some o)
    (authzs : ∀ id az, v'.authzs id = some az ↔ v.authzs id = some az)
    (challenges : ∀ id ch, v'.challenges id = some ch ↔ v.challenges id = some ch) : v' = v := by
  have sameOrders : v'.orders = v.orders := funext fun id => Option.ext (orders id)
  have sameAuthzs : v'.authzs = v.authzs := funext fun id => Option.ext (authzs id)
  have sameChallenges : v'.challenges = v.challenges := funext fun id => Option.ext (challenges id)
  rw [rest, sameOrders, sameAuthzs, sameChallenges]

theorem without_absent (link : v.Linked) (kept : ∀ id o, v.orders id = some o → drop id = false) :
    v.without drop = v := by
  have keptAuthz : ∀ {a az}, v.authzs a = some az → drop az.orderId = false := by
    intro a az hit
    obtain ⟨o, here, -⟩ := link.order_of_authz hit
    exact kept _ o here
  refine tree_ext rfl (fun id o => ?_) (fun id az => ?_) (fun id ch => ?_)
  · rw [without_orders]
    exact ⟨And.right, fun hit => ⟨kept id o hit, hit⟩⟩
  · rw [without_authzs]
    exact ⟨And.left, fun hit => ⟨hit, keptAuthz hit⟩⟩
  · rw [without_challenges]
    exact ⟨And.left, fun hit => ⟨hit, fun _ holder => keptAuthz holder⟩⟩

theorem without_without {more : Nat → Bool} :
    (v.without drop).without more = v.without fun id => drop id || more id := by
  refine tree_ext rfl (fun id o => ?_) (fun id az => ?_) (fun id ch => ?_)
  · simp only [without_orders, Bool.or_eq_false_iff]
    tauto
  · simp only [without_authzs, Bool.or_eq_false_iff]
    tauto
  · simp only [without_challenges, without_authzs, Bool.or_eq_false_iff]
    constructor
    · rintro ⟨⟨hit, first⟩, second⟩
      exact ⟨hit, fun az holder => ⟨first az holder, second az ⟨holder, first az holder⟩⟩⟩
    · rintro ⟨hit, both⟩
      exact ⟨⟨hit, fun az holder => (both az holder).1⟩, fun az holder => (both az holder.1).2⟩

/-! ## The pruning loop -/

theorem foldl_deleteAuthz (ids : List Nat) (v : View) : ids.foldl deleteAuthz v = { v with
        challenges := fun c =>
          if ids.any fun a => (v.authzs a).any fun az => az.challengeIds.contains c then none
          else v.challenges c
        authzs := fun a => if ids.contains a then none else v.authzs a } := by
  induction ids generalizing v with
  | nil => simp
  | cons a ids ih =>
    rw [foldl_cons, ih]
    refine tree_ext rfl (fun _ _ => .rfl) (fun b az => ?_) (fun c ch => ?_)
    · by_cases same : b = a <;> simp [deleteAuthz, same]
    · -- a challenge of `a` is gone already; otherwise `a` holds it in neither view
      cases held : (v.authzs a).any fun az => az.challengeIds.contains c with
      | true => simp only [deleteAuthz, held, any_cons, Bool.true_or, if_true, ite_self]
      | false =>
        have rest : ∀ b, ((Function.update v.authzs a none) b).any
            (fun az => az.challengeIds.contains c) =
            (v.authzs b).any fun az => az.challengeIds.contains c := by
          intro b
          by_cases same : b = a
          · rw [same, held, Function.update_self, Option.any_none]
          · simp [same]
        simp only [deleteAuthz, held, rest, any_cons]
        simp

theorem deleteOrderState_eq (link : v.Linked) (id : Nat) :
    v.deleteOrderState id = v.without (· = id) := by
  unfold deleteOrderState
  split
  case h_1 missing =>
    refine (without_absent link fun other o hit => ?_).symm
    refine decide_eq_false fun same => ?_
    rw [same, missing] at hit
    contradiction
  case h_2 o hit =>
    have owned : ∀ a az, v.authzs a = some az → (a ∈ o.authzIds ↔ az.orderId = id) := by
      intro a az here
      constructor
      · intro mem
        obtain ⟨az', here', back⟩ := link.authz_of_order hit mem
        rw [here] at here'
        cases here'
        exact back
      · intro back
        obtain ⟨o', here', mem⟩ := link.order_of_authz here
        rw [back, hit] at here'
        cases here'
        exact mem
    rw [foldl_deleteAuthz]
    refine tree_ext rfl (fun other o' => ?_) (fun a az => ?_) (fun c ch => ?_)
    · by_cases same : other = id <;> simp [without_orders, same]
    · rw [without_authzs]
      by_cases mem : a ∈ o.authzIds
      · simp only [contains_iff_mem, mem, decide_eq_false_iff_not]
        exact ⟨fun gone => by contradiction, fun ⟨here, other⟩ =>
          absurd ((owned a az here).mp mem) other⟩
      · simp only [contains_iff_mem, mem, decide_eq_false_iff_not]
        exact ⟨fun here => ⟨here, fun back => mem ((owned a az here).mpr back)⟩, And.left⟩
    · -- the authorization that lists a challenge is the one the challenge names
      rw [without_challenges]
      have listed : v.challenges c = some ch →
          ((o.authzIds.any fun a => (v.authzs a).any fun az => az.challengeIds.contains c) ↔
            ∃ az, v.authzs ch.authzId = some az ∧ az.orderId = id) := by
        intro here
        obtain ⟨az, holder, mem⟩ := link.authz_of_challenge here
        simp only [any_eq_true, Option.any_eq_true, contains_iff_mem]
        constructor
        · rintro ⟨a, ord, az', here', lists⟩
          obtain ⟨ch', hit', back⟩ := link.challenge_of_authz here' lists
          rw [here] at hit'
          cases hit'
          exact ⟨az', back ▸ here', (owned a az' here').mp ord⟩
        · rintro ⟨az', holder', back⟩
          rw [holder] at holder'
          cases holder'
          exact ⟨ch.authzId, (owned _ az holder).mpr back, az, holder, mem⟩
      simp only [ite_eq_iff, decide_eq_false_iff_not]
      constructor
      · rintro (⟨-, gone⟩ | ⟨unlisted, here⟩)
        · contradiction
        · exact ⟨here, fun az holder back => unlisted ((listed here).mpr ⟨az, holder, back⟩)⟩
      · rintro ⟨here, other⟩
        refine .inr ⟨fun lists => ?_, here⟩
        obtain ⟨az, holder, back⟩ := (listed here).mp lists
        exact other az holder back

theorem pruneOrder_eq (link : v.Linked) (q : Quota) (now : Nat) (id : Nat) :
    pruneOrder q now v id = v.without fun other =>
      decide (other = id) && (v.orders other).any (expired q now) := by
  unfold pruneOrder
  split
  case h_1 missing =>
    refine (without_absent link fun other o hit => ?_).symm
    rw [Bool.and_eq_false_iff]
    refine .inl (decide_eq_false fun same => ?_)
    rw [same, missing] at hit
    contradiction
  case h_2 o hit =>
    split
    case isTrue old =>
      rw [deleteOrderState_eq link]
      congr 1
      funext other
      by_cases same : other = id <;> simp [same, hit, old]
    case isFalse young =>
      refine (without_absent link fun other o' hit' => ?_).symm
      by_cases same : other = id
      · subst same
        rw [hit] at hit'
        simpa [hit] using young
      · simp [same]

def due (q : Quota) (now : Nat) (v : View) (id : Nat) : Bool := (v.orders id).any (expired q now)

theorem foldl_pruneOrder (q : Quota) (now : Nat) (ids : List Nat) (link : v.Linked) :
    ids.foldl (pruneOrder q now) v = v.without fun id => ids.contains id && v.due q now id := by
  induction ids generalizing v with
  | nil =>
    exact (without_absent link fun _ _ _ => rfl).symm
  | cons id ids ih =>
    rw [foldl_cons, pruneOrder_eq link, ih link.without, without_without]
    congr 1
    funext other
    -- an order that was dropped in this round is not looked at again
    by_cases same : other = id <;> cases old : (v.orders other).any (expired q now) <;>
      simp [due, without] <;> simp_all

/-- `pruneExpiredLocked` drops the orders that are due. -/
theorem prune_eq (link : v.Linked) (q : Quota) (now : Nat) :
    v.prune q now = v.without (v.due q now) := by
  unfold prune
  rw [foldl_pruneOrder q now _ link]
  congr 1
  funext id
  cases found : v.orders id with
  | none => simp [due, found]
  | some o =>
    have out : id < v.seq + 1 := Nat.lt_succ_of_le (link.order_id found).2
    simp [out]

theorem due_mono {q : Quota} {now later : Nat} (passes : now ≤ later)
    (old : v.due q now id) : v.due q later id := by
  obtain ⟨o, hit, old⟩ := (Option.any_eq_true ..).mp old
  refine (Option.any_eq_true ..).mpr ⟨o, hit, ?_⟩
  simp only [expired, Bool.and_eq_true, decide_eq_true_eq] at old ⊢
  exact ⟨old.1, Nat.lt_of_lt_of_le old.2 (Nat.sub_le_sub_right passes _)⟩

end View

end Trustctl.Acme
