import Trustctl.Signing.Constraints
import Trustctl.Systems.Table

/-!
# The sealed key store

A key is persisted in a file named by the sanitized handle.  The sealed plaintext is a header
with the usage constraints and the algorithm (`encodeConstraintMeta`) in front of the key
bytes.  The header spends one byte on each count and each value.

* `decode_encode` : a header whose values fit their bytes decodes to the same constraints,
  the same algorithm and exactly the key bytes behind it.
* `eq_of_loadFile` : a key saved with such constraints loads as the same key, bound to them.

Sealing is ideal: a sealed blob opens under the associated data it was sealed with and under
no other.
-/

namespace Trustctl.Signing

open List Systems

/-! ## The header -/

def metaMagic : List Byte := utf8 "CSKM"

def metaVersion : Byte := 3

/-- `purposeList` and `hashList`: the values in ascending order. -/
def KeySet.sorted (s : KeySet) : List Enum := s.keys.insertionSort fun a b => a.sle b

/-- A count and the values, a byte each. -/
def encodeList (vs : List Enum) : List Byte :=
  BitVec.ofNat 8 vs.length :: vs.map (BitVec.setWidth 8)

def encodeConstraintMeta (kc : KeyConstraints) (algorithm : Enum) : List Byte :=
  metaMagic ++ metaVersion :: (encodeList kc.purposes.sorted ++ (encodeList kc.hashes.sorted ++
    [if kc.requireAuth then 1 else 0, algorithm.setWidth 8]))

def readByte (field : String) : List Byte → Except String (Byte × List Byte)
  | [] => .error ("signing: truncated key metadata (" ++ field ++ ")")
  | b :: rest => .ok (b, rest)

def readList (bytes : List Byte) : Except String (List Byte × List Byte) := do
  let (n, rest) ← readByte "count" bytes
  demand (n.toNat ≤ rest.length) "signing: truncated key metadata (values)"
  return (rest.take n.toNat, rest.drop n.toNat)

def readFlags (ver : Byte) (bytes : List Byte) : Except String (Byte × List Byte) :=
  if 2 ≤ ver then readByte "flags" bytes else .ok (0, bytes)

def readAlgorithm (ver : Byte) (bytes : List Byte) : Except String (Byte × List Byte) :=
  if 3 ≤ ver then readByte "algorithm" bytes else .ok (0, bytes)

/-- A plaintext without the magic bytes is a bare key from before there were headers. -/
def decodeConstraintMeta (plaintext : List Byte) :
    Except String (KeyConstraints × Enum × List Byte) :=
  if plaintext.take metaMagic.length ≠ metaMagic then .ok ({}, 0, plaintext)
  else do
    let (ver, rest) ← readByte "version" (plaintext.drop metaMagic.length)
    demand (1 ≤ ver ∧ ver ≤ metaVersion) s!"signing: unsupported key metadata version {ver.toNat}"
    let (pvals, rest) ← readList rest
    let (hvals, rest) ← readList rest
    let (flags, rest) ← readFlags ver rest
    let (alg, rest) ← readAlgorithm ver rest
    return ({ purposes := .of (pvals.map (BitVec.setWidth 32)),
              hashes := .of (hvals.map (BitVec.setWidth 32)),
              requireAuth := flags &&& 1 != 0 }, alg.setWidth 32, rest)

/-! ## What is written is read back -/

/-- Every value fits its byte, and none is the unspecified one. -/
def KeySet.Storable (s : KeySet) : Prop := ∀ v ∈ s.keys, v ≠ 0 ∧ v.toNat < 256

variable {s : KeySet}

theorem KeySet.mem_sorted {v : Enum} : v ∈ s.sorted ↔ v ∈ s.keys :=
  (perm_insertionSort _ s.keys).mem_iff

theorem KeySet.nodup_sorted (s : KeySet) : s.sorted.Nodup :=
  (perm_insertionSort _ s.keys).nodup_iff.mpr s.distinct

/-- There are fewer storable values than a count byte can tell. -/
theorem KeySet.Storable.length_lt (storable : s.Storable) : s.sorted.length < 256 := by
  have among : s.sorted ⊆ (range 255).map fun n => BitVec.ofNat 32 (n + 1) := by
    intro v mem
    obtain ⟨nonzero, small⟩ := storable v (KeySet.mem_sorted.mp mem)
    have pos : v.toNat ≠ 0 := fun zero => nonzero (BitVec.toNat_inj.mp zero)
    refine mem_map.mpr ⟨v.toNat - 1, mem_range.mpr (by omega), ?_⟩
    rw [Nat.sub_add_cancel (Nat.pos_of_ne_zero pos), BitVec.ofNat_toNat, BitVec.setWidth_eq]
  have bound := (subperm_of_subset s.nodup_sorted among).length_le
  rw [length_map, length_range] at bound
  exact Nat.lt_succ_of_le bound

theorem readList_encodeList {vs : List Enum} (short : vs.length < 256) (rest : List Byte) :
    readList (encodeList vs ++ rest) = .ok (vs.map (BitVec.setWidth 8), rest) := by
  have count : (BitVec.ofNat 8 vs.length).toNat = vs.length := by
    rw [BitVec.toNat_ofNat]
    exact Nat.mod_eq_of_lt short
  rw [encodeList, cons_append, readList]
  simp [readByte, bind, Except.bind, demand, count, pure, Except.pure, take_left', drop_left']

theorem setWidth_setWidth {v : Enum} (small : v.toNat < 256) : (v.setWidth 8).setWidth 32 = v := by
  apply BitVec.eq_of_toNat_eq
  rw [BitVec.toNat_setWidth, BitVec.toNat_setWidth]
  omega

theorem KeySet.Storable.readBack (storable : s.Storable) (v : Enum) :
    v ∈ (KeySet.of ((s.sorted.map (BitVec.setWidth 8)).map (BitVec.setWidth 32))).keys ↔
      v ∈ s.keys := by
  have widened : (s.sorted.map (BitVec.setWidth 8)).map (BitVec.setWidth 32) = s.sorted := by
    rw [map_map]
    conv_rhs => rw [← map_id s.sorted]
    refine map_congr_left fun u mem => ?_
    exact setWidth_setWidth (storable u (KeySet.mem_sorted.mp mem)).2
  rw [widened, KeySet.mem_of, KeySet.mem_sorted]

variable {kc : KeyConstraints}

/-- A header of storable values is read back, whatever key bytes follow it. -/
theorem decode_encode (purposes : kc.purposes.Storable) (hashes : kc.hashes.Storable)
    (a : Algorithm)
    (key : List Byte) :
    ∃ kc', decodeConstraintMeta (encodeConstraintMeta kc (algorithmToProto a) ++ key) =
      .ok (kc', algorithmToProto a, key) ∧ kc'.Same kc := by
  refine ⟨⟨.of ((kc.purposes.sorted.map (BitVec.setWidth 8)).map (BitVec.setWidth 32)),
    .of ((kc.hashes.sorted.map (BitVec.setWidth 8)).map (BitVec.setWidth 32)),
    kc.requireAuth⟩, ?_, purposes.readBack, hashes.readBack, rfl⟩
  have ver : (1 : Byte) ≤ metaVersion ∧ metaVersion ≤ metaVersion := by decide
  have flagged : ∀ bytes, readFlags metaVersion bytes = readByte "flags" bytes := fun _ => rfl
  have named : ∀ bytes, readAlgorithm metaVersion bytes = readByte "algorithm" bytes :=
    fun _ => rfl
  have flags : ((if kc.requireAuth then 1 else 0 : Byte) &&& 1 != 0) = kc.requireAuth := by
    cases kc.requireAuth <;> rfl
  rw [encodeConstraintMeta, append_assoc, decodeConstraintMeta, take_left,
    if_neg (not_not_intro rfl), drop_left]
  simp only [cons_append, append_assoc, nil_append, readByte, bind, Except.bind,
    demand, if_pos ver, readList_encodeList purposes.length_lt,
    readList_encodeList hashes.length_lt, flagged, named, pure, Except.pure, flags,
    setWidth_setWidth (algorithmToProto_lt a)]

/-! ## Key files -/

structure SigningKey where
  algorithm : Algorithm
  bytes : List Byte
deriving DecidableEq

/-- What the key libraries make of exported key bytes: whether they are a private key of an
algorithm, and of which algorithm a bare PKCS #8 key is. -/
structure KeyFormats where
  parse : Algorithm → List Byte → Except String Unit
  infer : List Byte → Except String Algorithm

def signingKeyFromSealedBytes (f : KeyFormats) (protoAlg : Enum) (bytes : List Byte) :
    Except String SigningKey :=
  if protoAlg = 0 then do
    let algorithm ← f.infer bytes
    return ⟨algorithm, bytes⟩
  else
    match algorithmFromProto protoAlg with
    | .error status => .error ("rpc error: code = InvalidArgument desc = " ++ status.message)
    | .ok algorithm => do
      f.parse algorithm bytes
      return ⟨algorithm, bytes⟩

structure Sealed where
  aad : List Byte
  plaintext : List Byte

/-- `seal.Open`. -/
def Sealed.unseal (s : Sealed) (aad : List Byte) : Except String (List Byte) :=
  if s.aad = aad then .ok s.plaintext else .error "seal: decrypt failed"

/-- `sanitizeHandle`: the file stem of a handle. -/
def sanitizeHandle (handle : String) : String :=
  .ofList (handle.toList.map fun r =>
    if r.isAlphanum || r = '-' || r = '_' then r else '_')

/-- What `KeyStore.Save` writes for a key. -/
def sealKey (stem : String) (key : SigningKey) (kc : KeyConstraints) : Sealed where
  aad := utf8 stem
  plaintext := encodeConstraintMeta kc (algorithmToProto key.algorithm) ++ key.bytes

/-- The text of a failed step of a load. -/
def loadError {α : Type} (what stem : String) : Except String α → Except String α :=
  .mapError fun text => "signing: " ++ what ++ " \"" ++ stem ++ "\": " ++ text

def loadFile (f : KeyFormats) (stem : String) (sealed : Sealed) :
    Except String (SigningKey × KeyConstraints) := do
  let plaintext ← loadError "open sealed key" stem (sealed.unseal (utf8 stem))
  let (kc, alg, bytes) ← loadError "decode key metadata" stem (decodeConstraintMeta plaintext)
  let key ← loadError "load key" stem (signingKeyFromSealedBytes f alg bytes)
  return (key, kc)

def loadHandle (f : KeyFormats) (files : Table String Sealed) (handle : String) :
    Except String (Option (SigningKey × KeyConstraints)) :=
  match files.get (sanitizeHandle handle) with
  | none => .ok none
  | some sealed => some <$> loadFile f (sanitizeHandle handle) sealed

theorem loadHandle_eq_some {f : KeyFormats} {files : Table String Sealed} {hd : String}
    {key : SigningKey} (read : loadHandle f files hd = .ok (some (key, kc))) :
    ∃ sealed, files.get (sanitizeHandle hd) = some sealed ∧
      loadFile f (sanitizeHandle hd) sealed = .ok (key, kc) := by
  unfold loadHandle at read
  split at read
  case h_1 => cases read
  case h_2 sealed file =>
    refine ⟨sealed, file, ?_⟩
    cases loaded : loadFile f (sanitizeHandle hd) sealed with
    | error text =>
      rw [loaded] at read
      cases read
    | ok loaded' =>
      rw [loaded] at read
      cases read
      rfl

/-- What loading a saved key comes to: its bytes are parsed again. -/
theorem loadFile_seal (f : KeyFormats) (stem : String) (key : SigningKey)
    (purposes : kc.purposes.Storable) (hashes : kc.hashes.Storable) :
    ∃ kc', kc'.Same kc ∧ loadFile f stem (sealKey stem key kc) =
      (loadError "load key" stem (f.parse key.algorithm key.bytes)).map fun _ => (key, kc') := by
  obtain ⟨kc', read, same⟩ := decode_encode purposes hashes key.algorithm key.bytes
  refine ⟨kc', same, ?_⟩
  have opened : (sealKey stem key kc).unseal (utf8 stem) =
      .ok (encodeConstraintMeta kc (algorithmToProto key.algorithm) ++ key.bytes) := if_pos rfl
  have parsed : signingKeyFromSealedBytes f (algorithmToProto key.algorithm) key.bytes =
      (f.parse key.algorithm key.bytes).map fun _ => key := by
    rw [signingKeyFromSealedBytes, if_neg (algorithmToProto_ne_zero _), algorithmFromProto_toProto]
    dsimp only
    cases f.parse key.algorithm key.bytes <;> rfl
  rw [loadFile, opened]
  simp only [loadError, mapError_ok, bind, Except.bind, read, parsed]
  cases f.parse key.algorithm key.bytes <;> rfl

/-- A saved key that loads is the key that was saved, under its constraints. -/
theorem eq_of_loadFile {f : KeyFormats} {stem : String} {key key' : SigningKey}
    {kc' : KeyConstraints}
    (purposes : kc.purposes.Storable) (hashes : kc.hashes.Storable)
    (loaded : loadFile f stem (sealKey stem key kc) = .ok (key', kc')) :
    key' = key ∧ kc'.Same kc := by
  obtain ⟨kc'', same, parsed⟩ := loadFile_seal f stem key purposes hashes
  rw [parsed] at loaded
  cases parse : f.parse key.algorithm key.bytes with
  | error text => simp [parse, loadError, Except.map] at loaded
  | ok _ =>
    simp only [parse, loadError, mapError_ok, Except.map, Except.ok.injEq, Prod.mk.injEq] at loaded
    obtain ⟨rfl, rfl⟩ := loaded
    exact ⟨rfl, same⟩

end Trustctl.Signing
