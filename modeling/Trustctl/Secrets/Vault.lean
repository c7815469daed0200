import Trustctl.Systems.Aead
import Trustctl.Systems.Run
import Trustctl.Systems.Table

/-!
# The credential vault

A credential is encrypted under a fresh data key, which a key wrapper wraps, and stored as one
blob in the row of its name.  Texts are byte strings, as the code has them.  The cipher is ideal
and data keys are never drawn twice; everything in the store may be overwritten at any time.

* `credential_bound_iff` : a stored credential is read back and opens under no other name
  exactly when no part of the name has a slash in it and the wrapped key is shorter than
  65536 bytes.
* `moved_credential_opens` : a blob that opens in another row.
-/

namespace Trustctl.Secrets

open List Systems

/-! ## Sealing -/

def dekSize : Nat := 32
def nonceSize : Nat := 12
def tagSize : Nat := 16
def version1 : Byte := 1
def magic : List Byte := utf8 "CSL1"

/-- `KeyWrapper`; `rand` is what wrapping draws. -/
structure KeyWrapper where
  wrapDEK : (rand dek : List Byte) → Except String (List Byte)
  unwrapDEK : List Byte → Except String (List Byte)
  unwrap_wrap : ∀ {rand dek wrapped}, wrapDEK rand dek = .ok wrapped → unwrapDEK wrapped = .ok dek

def errFormat : String := "seal: malformed sealed blob"
def errDecrypt : String := "seal: decrypt failed"

/-- `binary.BigEndian.AppendUint16` of a length. -/
def be16 (n : Nat) : List Byte := [BitVec.ofNat 8 (n / 256), BitVec.ofNat 8 n]

def uint16 (high low : Byte) : Nat := high.toNat * 256 + low.toNat

/-- `magic | version | wrappedLen | wrapped | nonce | ciphertext`. -/
def container (wrapped nonce cipher : List Byte) : List Byte :=
  magic ++ version1 :: (be16 wrapped.length ++ wrapped ++ nonce ++ cipher)

/-- What one `Put` draws, and the ciphertext its encryption comes to. -/
structure Draw where
  dek : Except String (List Byte)
  nonce : Except String (List Byte)
  cipher : List Byte
  rand : List Byte

structure Name where
  tenantID : List Byte
  scope : List Byte
  ref : List Byte
  name : List Byte
deriving DecidableEq

/-- The store, and everything that was ever encrypted. -/
structure Vault where
  rows : Table Name (List Byte) := []
  made : List Sealing := []

def slash : Byte := 0x2f

def aad (n : Name) : List Byte :=
  n.tenantID ++ slash :: (n.scope ++ slash :: (n.ref ++ slash :: n.name))

/-- `aes.NewCipher` takes the key. -/
def cipherKey (key : List Byte) : Bool := [16, 24, 32].contains key.length

/-- `Seal`: the blob, and the encryption that was made for it. -/
def sealSecret (w : KeyWrapper) (plaintext data : List Byte) (draw : Draw) :
    Option Sealing × Except String (List Byte) :=
  match draw.dek with
  | .error text => (none, .error text)
  | .ok dek =>
    match draw.nonce with
    | .error text => (none, .error text)
    | .ok nonce => (some ⟨dek, nonce, data, plaintext, draw.cipher⟩,
        (w.wrapDEK draw.rand dek).map fun wrapped => container wrapped nonce draw.cipher)

def openV1 (w : KeyWrapper) (made : List Sealing) (body data : List Byte) :
    Except String (List Byte) :=
  match body with
  | high :: low :: rest =>
    let wlen := uint16 high low
    if rest.length < wlen + nonceSize then .error errFormat
    else
      match w.unwrapDEK (rest.take wlen) with
      | .error _ => .error errDecrypt
      | .ok dek =>
        if cipherKey dek then
          match aeadOpen made dek ((rest.drop wlen).take nonceSize)
              (rest.drop (wlen + nonceSize)) data with
          | some plain => .ok plain
          | none => .error errDecrypt
        else .error errDecrypt
  | _ => .error errFormat

/-- `Open`. -/
def openSecret (w : KeyWrapper) (made : List Sealing) (sealed data : List Byte) :
    Except String (List Byte) :=
  if sealed.length < magic.length + 1 then .error errFormat
  else if sealed.take magic.length ≠ magic then .error errFormat
  else
    match sealed.drop magic.length with
    | version :: body => if version = version1 then openV1 w made body data else .error errFormat
    | [] => .error errFormat

/-! ## The vault -/

/-- `Vault.Put`; `stored` is what the store answers. -/
def put (w : KeyWrapper) (n : Name) (plaintext : List Byte) (draw : Draw)
    (stored : Except String Unit) (v : Vault) : Vault × Except String Unit :=
  match sealSecret w plaintext (aad n) draw with
  | (sealing, .error text) => ({ v with made := v.made ++ sealing.toList }, .error text)
  | (sealing, .ok blob) =>
    match stored with
    | .error text => ({ v with made := v.made ++ sealing.toList }, .error text)
    | .ok _ => ({ rows := v.rows.put n blob, made := v.made ++ sealing.toList }, .ok ())

def get (w : KeyWrapper) (n : Name) (v : Vault) : Except String (List Byte) :=
  match v.rows.get n with
  | none => .error "store: credential not found"
  | some blob => openSecret w v.made blob (aad n)

/-- Write bytes into a row. -/
def Vault.place (v : Vault) (n : Name) (blob : List Byte) : Vault :=
  { v with rows := v.rows.put n blob }

/-- Keys and nonces have their sizes, a ciphertext is longer than its plaintext by the tag, and
a data key is new. -/
def Draw.possible (draw : Draw) (plaintext : List Byte) (v : Vault) : Bool :=
  draw.cipher.length = plaintext.length + tagSize && (match draw.dek with
      | .ok dek => dek.length = dekSize && v.made.all fun s => s.key ≠ dek
      | .error _ => true) &&
    match draw.nonce with
    | .ok nonce => nonce.length = nonceSize
    | .error _ => true

inductive Action
  | put (n : Name) (plaintext : List Byte) (draw : Draw) (stored : Except String Unit)
  /-- Somebody writes into the store. -/
  | place (n : Name) (blob : List Byte)
  | delete (n : Name)

def step (w : KeyWrapper) (v : Vault) : Action → Option Vault
  | .put n plaintext draw stored =>
    if draw.possible plaintext v then some (put w n plaintext draw stored v).1 else none
  | .place n blob => some (v.place n blob)
  | .delete n => some { v with rows := v.rows.drop n }

/-! ## Names -/

def Name.SlashFree (n : Name) : Prop :=
  slash ∉ n.tenantID ∧ slash ∉ n.scope ∧ slash ∉ n.ref ∧ slash ∉ n.name

def Name.parts (n : Name) : List (List Byte) := [n.tenantID, n.scope, n.ref, n.name]

variable {n : Name}

theorem Name.slashFree_iff : n.SlashFree ↔ ∀ part ∈ n.parts, slash ∉ part := by
  simp [Name.SlashFree, Name.parts]

theorem aad_eq_intercalate (n : Name) : aad n = [slash].intercalate n.parts := by
  simp [aad, Name.parts, intercalate, intersperse]

theorem count_aad (n : Name) : (aad n).count slash = 3 + n.tenantID.count slash +
    n.scope.count slash + n.ref.count slash + n.name.count slash := by
  simp only [aad, count_append, count_cons_self]
  omega

/-- The associated data of such a name is that of no other. -/
theorem Name.SlashFree.eq_of_aad {n' : Name} (free : n.SlashFree) (same : aad n' = aad n) :
    n' = n := by
  obtain ⟨tenantID, scope, ref, name⟩ := free
  have count := congrArg (count slash) same
  rw [count_aad, count_aad, count_eq_zero.mpr tenantID, count_eq_zero.mpr scope,
    count_eq_zero.mpr ref, count_eq_zero.mpr name] at count
  have free' : n'.SlashFree := by
    refine ⟨?_, ?_, ?_, ?_⟩ <;> refine count_eq_zero.mp ?_ <;> omega
  rw [aad_eq_intercalate, aad_eq_intercalate] at same
  have parts := congrArg (splitOn slash) same
  rw [splitOn_intercalate slash (Name.slashFree_iff.mp free') (cons_ne_nil _ _),
    splitOn_intercalate slash (Name.slashFree_iff.mp ⟨tenantID, scope, ref, name⟩)
      (cons_ne_nil _ _)] at parts
  cases n
  cases n'
  simpa [Name.parts] using parts

/-- A slash can be read as the end of the part before it or after it. -/
theorem exists_other_of_not_slashFree (slashed : ¬ n.SlashFree) : ∃ n' ≠ n, aad n' = aad n := by
  obtain ⟨tenantID, scope, ref, name⟩ := n
  have ne : ∀ {x y : List Byte}, x ≠ x ++ slash :: y := by
    intro x y same
    simpa using congrArg length same
  have different' : ∀ {x y : List Byte}, y ≠ x ++ slash :: y := by
    intro x y same
    have length := congrArg length same
    rw [length_append, length_cons] at length
    omega
  by_cases first : slash ∈ tenantID
  · obtain ⟨x, y, rfl⟩ := mem_iff_append.mp first
    refine ⟨⟨x, y ++ slash :: scope, ref, name⟩, fun same => ne (Name.mk.inj same).1, ?_⟩
    simp [aad]
  · by_cases second : slash ∈ scope
    · obtain ⟨x, y, rfl⟩ := mem_iff_append.mp second
      refine ⟨⟨tenantID, x, y ++ slash :: ref, name⟩, fun same => ne (Name.mk.inj same).2.1, ?_⟩
      simp [aad]
    · by_cases third : slash ∈ ref
      · obtain ⟨x, y, rfl⟩ := mem_iff_append.mp third
        refine ⟨⟨tenantID, scope, x, y ++ slash :: name⟩,
          fun same => ne (Name.mk.inj same).2.2.1, ?_⟩
        simp [aad]
      · have last : slash ∈ name := by
          by_contra gone
          exact slashed ⟨first, second, third, gone⟩
        obtain ⟨x, y, rfl⟩ := mem_iff_append.mp last
        refine ⟨⟨tenantID, scope, ref ++ slash :: x, y⟩,
          fun same => different' (Name.mk.inj same).2.2.2, ?_⟩
        simp [aad]

/-! ## Blobs -/

section Blobs

variable {w : KeyWrapper} {made : List Sealing} {wrapped nonce cipher data : List Byte}

theorem uint16_be16 (n : Nat) :
    uint16 (BitVec.ofNat 8 (n / 256)) (BitVec.ofNat 8 n) = n % 65536 := by
  rw [uint16, BitVec.toNat_ofNat, BitVec.toNat_ofNat]
  omega

/-- A blob is read from behind its magic and its version. -/
theorem openSecret_container : openSecret w made (container wrapped nonce cipher) data =
    openV1 w made (be16 wrapped.length ++ wrapped ++ nonce ++ cipher) data := by
  rw [openSecret, container, if_neg, if_neg, drop_left]
  · exact if_pos rfl
  · simp
  · rw [length_append, length_cons]
    omega

theorem layout : be16 wrapped.length ++ wrapped ++ nonce ++ cipher =
    BitVec.ofNat 8 (wrapped.length / 256) :: BitVec.ofNat 8 wrapped.length ::
      (wrapped ++ (nonce ++ cipher)) := by
  simp [be16]

/-- A wrapped key that fits the length field is found again, and so is what follows it. -/
theorem openV1_short {dek : List Byte} (short : wrapped.length < 65536)
    (sized : nonce.length = nonceSize) (unwrapped : w.unwrapDEK wrapped = .ok dek)
    (key : cipherKey dek) :
    openV1 w made (be16 wrapped.length ++ wrapped ++ nonce ++ cipher) data =
      match aeadOpen made dek nonce cipher data with
      | some plain => .ok plain
      | none => .error errDecrypt := by
  have length : uint16 (BitVec.ofNat 8 (wrapped.length / 256)) (BitVec.ofNat 8 wrapped.length) =
      wrapped.length := by
    rw [uint16_be16]
    omega
  rw [layout, openV1, length, if_neg, take_left, unwrapped]
  · dsimp only
    rw [if_pos key, drop_left, ← drop_drop, drop_left, ← sized, take_left, drop_left]
  · rw [length_append, length_append, sized]
    omega

/-- Of a blob with a longer one, only a longer ciphertext can be opened. -/
theorem openV1_long {plain : List Byte} (long : 65536 ≤ wrapped.length)
    (opened : openV1 w made (be16 wrapped.length ++ wrapped ++ nonce ++ cipher) data = .ok plain) :
    ∃ s ∈ made, s.plain = plain ∧ cipher.length < s.cipher.length := by
  rw [layout, openV1, uint16_be16] at opened
  split at opened
  case isTrue => cases opened
  case isFalse =>
    split at opened
    case h_1 => cases opened
    case h_2 dek _ =>
      split at opened
      case isFalse => cases opened
      case isTrue =>
        split at opened
        case h_2 => cases opened
        case h_1 found =>
          cases opened
          obtain ⟨s, mem, -, -, same, -, rfl⟩ := Systems.aeadOpen_eq_some found
          refine ⟨s, mem, rfl, ?_⟩
          rw [same, length_drop, length_append, length_append, nonceSize]
          omega

end Blobs

/-! ## Runs -/

/-- What holds of the encryptions in every run. -/
structure Sound (made : List Sealing) : Prop where
  distinct : Distinct made
  sized : ∀ s ∈ made, s.cipher.length = s.plain.length + tagSize

variable {v : Vault} {plaintext : List Byte} {draw : Draw}

theorem Draw.possible_ok {dek : List Byte} (fits : draw.possible plaintext v)
    (drawn : draw.dek = .ok dek) :
    draw.cipher.length = plaintext.length + tagSize ∧ dek.length = dekSize ∧
      ∀ s ∈ v.made, s.key ≠ dek := by
  rw [Draw.possible, drawn] at fits
  simp only [Bool.and_eq_true, decide_eq_true_eq, all_eq_true] at fits
  exact ⟨fits.1.1, fits.1.2.1, fits.1.2.2⟩

/-- `Put` adds at most one encryption, under the drawn key. -/
theorem put_made (w : KeyWrapper) (n : Name) (plaintext : List Byte) (draw : Draw)
    (kept : Except String Unit) (v : Vault) :
    (put w n plaintext draw kept v).1.made = v.made ∨
      ∃ dek nonce, draw.dek = .ok dek ∧ (put w n plaintext draw kept v).1.made =
        v.made ++ [⟨dek, nonce, aad n, plaintext, draw.cipher⟩] := by
  have made : (put w n plaintext draw kept v).1.made =
      v.made ++ (sealSecret w plaintext (aad n) draw).1.toList := by
    unfold put
    split
    case h_1 sealing text sealed => rw [sealed]
    case h_2 sealing blob sealed =>
      rw [sealed]
      cases kept <;> rfl
  rw [made]
  unfold sealSecret
  cases dek : draw.dek with
  | error text => exact .inl (append_nil _)
  | ok key =>
    cases draw.nonce with
    | error text => exact .inl (append_nil _)
    | ok nonce => exact .inr ⟨key, nonce, rfl, rfl⟩

variable {w : KeyWrapper} {v' : Vault}

theorem Sound.step {a : Action} (sound : Sound v.made) (moved : step w v a = some v') :
    Sound v'.made := by
  cases a with
  | put n plaintext draw kept =>
    obtain ⟨fits, ⟨⟩⟩ := Option.ite_none_right_eq_some.mp moved
    rcases put_made w n plaintext draw kept v with same | ⟨dek, nonce, drawn, more⟩
    · exact ⟨same ▸ sound.distinct, same ▸ sound.sized⟩
    · obtain ⟨sized, -, fresh⟩ := Draw.possible_ok fits drawn
      constructor
      · rw [Distinct, more, map_append]
        refine nodup_append.mpr ⟨sound.distinct, nodup_singleton _, ?_⟩
        intro key old key' new same
        obtain ⟨s, mem, rfl⟩ := mem_map.mp old
        cases mem_singleton.mp new
        exact fresh s mem same
      · rw [more]
        refine forall_mem_snoc sound.sized ?_
        exact sized
  | place | delete =>
    cases moved
    exact sound

theorem made_subset {a : Action} (moved : step w v a = some v') : v.made ⊆ v'.made := by
  cases a with
  | put n plaintext draw kept =>
    obtain ⟨-, ⟨⟩⟩ := Option.ite_none_right_eq_some.mp moved
    rcases put_made w n plaintext draw kept v with same | ⟨dek, nonce, -, more⟩
    · exact same ▸ List.Subset.refl _
    · exact more ▸ subset_append_left _ _
  | place | delete =>
    cases moved
    exact .refl _

/-- The credential is read back, and the blob in its row opens under no other name, whatever
happens to the store. -/
structure Vault.Holds (w : KeyWrapper) (v : Vault) (n : Name) (plaintext : List Byte) : Prop where
  returns : get w n v = .ok plaintext
  bound : ∀ blob, v.rows.get n = some blob → ∀ more v', execute (step w) v more = some v' →
    ∀ n' ≠ n, ∀ text, get w n' (v'.place n' blob) ≠ .ok text

/-- What a successful `Put` leaves. -/
structure Stored (w : KeyWrapper) (n : Name) (plaintext wrapped : List Byte) (s : Sealing)
    (v : Vault) : Prop where
  made : s ∈ v.made
  unwraps : w.unwrapDEK wrapped = .ok s.key
  key : s.key.length = dekSize
  nonce : s.nonce.length = nonceSize
  aad : s.aad = Secrets.aad n
  plain : s.plain = plaintext
  row : v.rows.get n = some (container wrapped s.nonce s.cipher)

theorem put_ok {dek wrapped : List Byte} (fits : draw.possible plaintext v)
    (drawn : draw.dek = .ok dek) (wraps : w.wrapDEK draw.rand dek = .ok wrapped)
    (kept : put w n plaintext draw (.ok ()) v = (v', .ok ())) :
    ∃ s, Stored w n plaintext wrapped s v' := by
  rw [put, sealSecret, drawn] at kept
  cases nonce : draw.nonce with
  | error text =>
    rw [nonce] at kept
    cases kept
  | ok value =>
    rw [nonce] at kept
    dsimp only at kept
    rw [wraps] at kept
    cases kept
    refine ⟨⟨dek, value, aad n, plaintext, draw.cipher⟩, ?_, w.unwrap_wrap wraps, ?_, ?_, rfl,
      rfl, ?_⟩
    · exact mem_append_right _ (mem_singleton.mpr rfl)
    · exact (Draw.possible_ok fits drawn).2.1
    · rw [Draw.possible, nonce] at fits
      exact of_decide_eq_true (Bool.and_eq_true_iff.mp fits).2
    · exact Table.get_put_self ..

/-- A blob with a short wrapped key opens under its own associated data, as its plaintext. -/
theorem Stored.opens_iff {wrapped : List Byte} {s : Sealing}
    (kept : Stored w n plaintext wrapped s v)
    (short : wrapped.length < 65536) {made : List Sealing} (ne : Distinct made)
    (mem : s ∈ made) {data text : List Byte} :
    openSecret w made (container wrapped s.nonce s.cipher) data = .ok text ↔
      Secrets.aad n = data ∧ plaintext = text := by
  have key : cipherKey s.key := by
    rw [cipherKey, kept.key]
    rfl
  rw [openSecret_container, openV1_short short kept.nonce kept.unwraps key, ← kept.aad,
    ← kept.plain, ← ne.opens_iff mem]
  cases aeadOpen made s.key s.nonce s.cipher data <;> simp

/-- A stored credential is read back and opens under no other name exactly when no part of its
name has a slash in it and its wrapped key is shorter than 65536 bytes. -/
theorem credential_bound_iff (w : KeyWrapper) {as : List Action} {v v' : Vault}
    (run : Run (step w) (fun _ _ => True) {} as v) {n : Name} {plaintext dek wrapped : List Byte}
    {draw : Draw} (possible : draw.possible plaintext v) (drawn : draw.dek = .ok dek)
    (wraps : w.wrapDEK draw.rand dek = .ok wrapped)
    (stored : put w n plaintext draw (.ok ()) v = (v', .ok ())) :
    v'.Holds w n plaintext ↔ wrapped.length < 65536 ∧ n.SlashFree := by
  obtain ⟨s, kept⟩ := put_ok possible drawn wraps stored
  have init : Sound ({} : Vault).made := ⟨nodup_nil, nofun⟩
  have old : Sound v.made :=
    run.invariant (I := fun v => Sound v.made) (fun _ _ _ _ moved sound => sound.step moved) init
  have moved : step w v (.put n plaintext draw (.ok ())) = some v' := by
    rw [step, if_pos possible, stored]
  have sound : Sound v'.made := old.step moved
  have read : ∀ data, openSecret w v'.made (container wrapped s.nonce s.cipher) data =
      .ok plaintext → wrapped.length < 65536 := by
    intro data opened
    by_contra long
    rw [openSecret_container] at opened
    -- the length field names a part of the wrapped key only
    obtain ⟨t, mem, same, longer⟩ := openV1_long (Nat.le_of_not_lt long) opened
    have sized := sound.sized t mem
    have sized' := sound.sized s kept.made
    rw [same] at sized
    rw [kept.plain] at sized'
    omega
  constructor
  · rintro ⟨returns, bound⟩
    rw [get, kept.row] at returns
    have short := read _ returns
    refine ⟨short, ?_⟩
    by_contra slashed
    obtain ⟨n', other, same⟩ := exists_other_of_not_slashFree slashed
    refine bound _ kept.row [] v' rfl n' other plaintext ?_
    rw [get, Vault.place, Table.get_put_self]
    exact (kept.opens_iff short sound.distinct kept.made).mpr ⟨same.symm, rfl⟩
  · rintro ⟨short, free⟩
    constructor
    · rw [get, kept.row]
      exact (kept.opens_iff short sound.distinct kept.made).mpr ⟨rfl, rfl⟩
    · intro blob row more v'' ran n' other text opened
      cases kept.row.symm.trans row
      have later : Sound v''.made ∧ s ∈ v''.made :=
        (run_of_execute ran).invariant (I := fun v => Sound v.made ∧ s ∈ v.made)
          (fun _ _ _ _ moved held => ⟨held.1.step moved, made_subset moved held.2⟩)
          ⟨sound, kept.made⟩
      rw [get, Vault.place, Table.get_put_self] at opened
      obtain ⟨same, -⟩ := (kept.opens_iff short later.1.distinct later.2).mp opened
      exact other (free.eq_of_aad same.symm)

def plainWrapper : KeyWrapper := ⟨fun _ dek => .ok dek, .ok, fun same => same.symm⟩

def sampleDraw : Draw where
  dek := .ok (replicate 32 7)
  nonce := .ok (replicate 12 0)
  cipher := replicate 17 9
  rand := []

def nameOf (tenantID scope ref name : String) : Name :=
  ⟨utf8 tenantID, utf8 scope, utf8 ref, utf8 name⟩

/-- A credential without slashes in its name. -/
theorem plain_credential_bound :
    ∃ v, put plainWrapper (nameOf "t" "connector" "f5" "password") [42] sampleDraw (.ok ()) {} =
        (v, .ok ()) ∧
      v.Holds plainWrapper (nameOf "t" "connector" "f5" "password") [42] := by
  refine ⟨_, rfl, ?_⟩
  have fits : sampleDraw.possible [42] {} := rfl
  refine (credential_bound_iff plainWrapper (.nil _) fits rfl rfl rfl).mpr ⟨by decide, ?_⟩
  unfold Name.SlashFree
  decide

set_option maxRecDepth 4000 in
/-- A blob put for scope `a/b` and reference `c` opens for scope `a` and reference `b/c`. -/
theorem moved_credential_opens :
    ∃ v blob, put plainWrapper (nameOf "t" "a/b" "c" "d") [42] sampleDraw (.ok ()) {} =
        (v, .ok ()) ∧
      v.rows.get (nameOf "t" "a/b" "c" "d") = some blob ∧
      get plainWrapper (nameOf "t" "a" "b/c" "d") (v.place (nameOf "t" "a" "b/c" "d") blob) =
        .ok [42] ∧
      ¬ v.Holds plainWrapper (nameOf "t" "a/b" "c" "d") [42] := by
  refine ⟨_, _, rfl, rfl, rfl, ?_⟩
  intro holds
  refine holds.bound _ rfl [] _ rfl (nameOf "t" "a" "b/c" "d") ?_ [42] rfl
  intro same
  exact absurd (congrArg (fun n => n.scope.length) same) (by decide)

end Trustctl.Secrets
