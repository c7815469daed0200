import Trustctl.Signing.Requests
import Mathlib.Data.List.Sort

/-!
# Usage constraints of a key

`keyConstraints`: the purposes and hashes a key may be used for and whether it is dual-control.
The source keeps the two sets as maps; here they are lists without repetitions, in the order
of insertion, and `KeyConstraints.Same` compares them as sets.

`authorizes_iff` says which requests the checks of `Sign` let through.
-/

namespace Trustctl.Signing

open List Systems

/-! ## Sets of enumeration values -/

def insertKey (keys : List Enum) (v : Enum) : List Enum := if v ∈ keys then keys else keys ++ [v]

variable {keys : List Enum} {u : Enum}

theorem mem_insertKey {v : Enum} : u ∈ insertKey keys v ↔ u ∈ keys ∨ u = v := by
  unfold insertKey
  split
  case isTrue known =>
    constructor
    · exact .inl
    · rintro (member | rfl)
      · exact member
      · exact known
  case isFalse => rw [mem_append, mem_singleton]

theorem nodup_insertKey (ne : keys.Nodup) (v : Enum) : (insertKey keys v).Nodup := by
  unfold insertKey
  split
  case isTrue => exact ne
  case isFalse fresh => simpa only [concat_eq_append] using ne.concat fresh

theorem mem_foldl_insertKey {vs : List Enum} : u ∈ vs.foldl insertKey keys ↔ u ∈ keys ∨ u ∈ vs := by
  induction vs generalizing keys with
  | nil => simp
  | cons v vs ih => rw [foldl_cons, ih, mem_insertKey, mem_cons, or_assoc]

theorem nodup_foldl_insertKey (vs : List Enum) (ne : keys.Nodup) :
    (vs.foldl insertKey keys).Nodup := by
  induction vs generalizing keys with
  | nil => exact ne
  | cons v vs ih => exact ih (nodup_insertKey ne v)

/-- The keys of a map used as a set, in the order they were put in. -/
structure KeySet where
  keys : List Enum
  distinct : keys.Nodup

def KeySet.of (vs : List Enum) : KeySet :=
  ⟨vs.foldl insertKey [], nodup_foldl_insertKey vs nodup_nil⟩

@[simp] theorem KeySet.mem_of {vs : List Enum} : u ∈ (KeySet.of vs).keys ↔ u ∈ vs := by
  rw [KeySet.of, mem_foldl_insertKey]
  simp

/-! ## The constraints and their checks -/

structure KeyConstraints where
  purposes : KeySet := .of []
  hashes : KeySet := .of []
  requireAuth : Bool := false

/-- The same constraints, whatever order the sets were filled in. -/
structure KeyConstraints.Same (a b : KeyConstraints) : Prop where
  purposes : ∀ v, v ∈ a.purposes.keys ↔ v ∈ b.purposes.keys
  hashes : ∀ v, v ∈ a.hashes.keys ↔ v ∈ b.hashes.keys
  requireAuth : a.requireAuth = b.requireAuth

theorem KeyConstraints.Same.symm {a b : KeyConstraints} (same : a.Same b) : b.Same a :=
  ⟨fun v => (same.purposes v).symm, fun v => (same.hashes v).symm, same.requireAuth.symm⟩

theorem KeyConstraints.Same.trans {a b c : KeyConstraints} (first : a.Same b)
    (second : b.Same c) : a.Same c :=
  ⟨fun v => (first.purposes v).trans (second.purposes v),
    fun v => (first.hashes v).trans (second.hashes v),
    first.requireAuth.trans second.requireAuth⟩

def constraintsFromGenerate (req : GenerateKeyRequest) : Except Status KeyConstraints := do
  demand (0 ∉ req.allowedPurposes)
    ⟨.invalidArgument, "allowed_purposes must not contain KEY_PURPOSE_UNSPECIFIED"⟩
  demand (0 ∉ req.allowedHashes)
    ⟨.invalidArgument, "allowed_hashes must not contain HASH_UNSPECIFIED"⟩
  return { purposes := .of req.allowedPurposes, hashes := .of req.allowedHashes }

def KeyConstraints.check (kc : KeyConstraints) (req : SignRequest) : Except Status Unit := do
  demand (kc.purposes.keys = [] ∨ req.purpose ≠ 0)
    ⟨.failedPrecondition, "key requires an explicit purpose; none was asserted"⟩
  demand (kc.purposes.keys = [] ∨ req.purpose ∈ kc.purposes.keys) ⟨.failedPrecondition,
    "purpose " ++ purposeString req.purpose ++ " is not permitted for this key"⟩
  demand (kc.hashes.keys = [] ∨ req.hash ∈ kc.hashes.keys) ⟨.failedPrecondition,
    "hash " ++ hashString req.hash ++ " is not permitted for this key"⟩

def enforceDualControl (authorizer : Option SignAuthorizer) (req : SignRequest) :
    Except Status Unit :=
  match authorizer with
  | none => .error ⟨.failedPrecondition,
      "key requires dual-control authorization but this signer has no authorizer configured"⟩
  | some a =>
    if req.token = .other [] then
      .error ⟨.permissionDenied,
        "key requires a dual-control authorization token; none was presented"⟩
    else if a.verify (intentFor req) req.token then .ok ()
    else .error ⟨.permissionDenied,
      "dual-control authorization token is invalid for this signing request"⟩

/-- The checks `Sign` makes of a key it found, before it signs. -/
def KeyConstraints.authorizes (kc : KeyConstraints) (authorizer : Option SignAuthorizer)
    (req : SignRequest) : Except Status Unit := do
  kc.check req
  if kc.requireAuth then
    enforceDualControl authorizer req

/-- What the checks let through. -/
structure KeyConstraints.Passes (kc : KeyConstraints) (authorizer : Option SignAuthorizer)
    (req : SignRequest) : Prop where
  declared : kc.purposes.keys = [] ∨ req.purpose ≠ 0
  purpose : kc.purposes.keys = [] ∨ req.purpose ∈ kc.purposes.keys
  hash : kc.hashes.keys = [] ∨ req.hash ∈ kc.hashes.keys
  token : kc.requireAuth → ∃ a, authorizer = some a ∧ req.token = a.authorize (intentFor req)

theorem verify_iff {a : SignAuthorizer} {intent : SignIntent} {token : Token} :
    a.verify intent token ↔ token = a.authorize intent := by
  unfold SignAuthorizer.verify SignAuthorizer.authorize
  constructor
  · intro valid
    simp only [Bool.and_eq_true, decide_eq_true_eq] at valid
    exact valid.2.symm
  · rintro rfl
    simp

variable {authorizer : Option SignAuthorizer} {req : SignRequest}

theorem enforceDualControl_iff : enforceDualControl authorizer req = .ok () ↔
      ∃ a, authorizer = some a ∧ req.token = a.authorize (intentFor req) := by
  unfold enforceDualControl
  cases authorizer with
  | none => simp
  | some a =>
    by_cases gone : req.token = .other []
    · simp [gone, SignAuthorizer.authorize]
    · simp [gone, verify_iff]

/-- A request passes the checks of a key exactly if it asserts a purpose and a hash the key
may be used for and, for a dual-control key, carries the token over its own intent. -/
theorem authorizes_iff {kc : KeyConstraints} :
    kc.authorizes authorizer req = .ok () ↔ kc.Passes authorizer req := by
  unfold KeyConstraints.authorizes KeyConstraints.check
  constructor
  · intro pass
    simp only [bind_ok, demand_eq_ok] at pass
    obtain ⟨-, ⟨-, declared, -, purpose, hash⟩, authorized⟩ := pass
    refine ⟨declared, purpose, hash, ?_⟩
    intro dual
    rw [if_pos dual] at authorized
    exact enforceDualControl_iff.mp authorized
  · intro passes
    simp only [bind_ok, demand_eq_ok]
    refine ⟨(), ⟨(), passes.declared, (), passes.purpose, passes.hash⟩, ?_⟩
    split
    case isTrue dual => exact enforceDualControl_iff.mpr (passes.token dual)
    case isFalse => rfl

theorem KeyConstraints.Same.passes {kc other : KeyConstraints} (same : kc.Same other)
    (passes : kc.Passes authorizer req) :
    other.Passes authorizer req := by
  have empty : ∀ {a b : List Enum}, (∀ v, v ∈ a ↔ v ∈ b) → a = [] → b = [] := by
    intro a b alike none
    rw [eq_nil_iff_forall_not_mem] at none ⊢
    exact fun v mem => none v ((alike v).mpr mem)
  constructor
  · exact passes.declared.imp_left (empty same.purposes)
  · exact passes.purpose.imp (empty same.purposes) (same.purposes _).mp
  · exact passes.hash.imp (empty same.hashes) (same.hashes _).mp
  · exact fun dual => passes.token (same.requireAuth.trans dual)

end Trustctl.Signing
