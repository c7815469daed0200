import Trustctl.Systems.Checks
import Trustctl.Systems.Framing

/-!
# Requests of the signer

The messages of the signer's gRPC service as the wire carries them (an enumeration field holds
any 32-bit value), the conversions of `convert.go`, and the authorization of a dual-control
signature: the `SignIntent`, its canonical bytes and the token over them.

Authorization tokens are ideal: a token is either the MAC of some bytes under some secret or
other bytes, and tokens over different bytes differ.  `canonicalBytes_inj` is what makes a
token an authorization of one operation.
-/

namespace Trustctl.Signing

open List Systems

/-- The value of a protobuf enumeration field. -/
abbrev Enum := BitVec 32

/-- The gRPC status codes the signer answers with. -/
inductive Code
  | invalidArgument
  | failedPrecondition
  | permissionDenied
  | alreadyExists
  | notFound
  | internal
deriving DecidableEq

structure Status where
  code : Code
  message : String
deriving DecidableEq

/-- How an enumeration value prints: by name, or as a number if it has none. -/
def enumString (names : List String) (v : Enum) : String :=
  (names[v.toNat]?).getD (toString v.toInt)

def purposeString : Enum → String :=
  enumString ["KEY_PURPOSE_UNSPECIFIED", "KEY_PURPOSE_CA_SIGN", "KEY_PURPOSE_LEAF_TLS",
    "KEY_PURPOSE_SSH_CERT", "KEY_PURPOSE_CODE_SIGN", "KEY_PURPOSE_GENERIC"]

def hashString : Enum → String :=
  enumString ["HASH_UNSPECIFIED", "HASH_SHA256", "HASH_SHA384", "HASH_SHA512"]

def algorithmString : Enum → String :=
  enumString ["ALGORITHM_UNSPECIFIED", "ALGORITHM_RSA_2048", "ALGORITHM_RSA_3072",
    "ALGORITHM_RSA_4096", "ALGORITHM_ECDSA_P256", "ALGORITHM_ECDSA_P384", "ALGORITHM_ECDSA_P521",
    "ALGORITHM_ML_DSA_44", "ALGORITHM_ML_DSA_65", "ALGORITHM_ML_DSA_87",
    "ALGORITHM_SLH_DSA_SHA2_128S", "ALGORITHM_SLH_DSA_SHA2_128F", "ALGORITHM_SLH_DSA_SHA2_192S",
    "ALGORITHM_SLH_DSA_SHA2_256S"]

/-! ## Algorithms, hashes and paddings -/

/-- The algorithms the signer makes keys of. -/
inductive Algorithm
  | rsa2048
  | rsa3072
  | rsa4096
  | ecdsaP256
  | ecdsaP384
  | ecdsaP521
  | mldsa44
  | mldsa65
  | mldsa87
  | slhdsa128s
  | slhdsa128f
  | slhdsa192s
  | slhdsa256s
deriving DecidableEq

def algorithmFromProto (a : Enum) : Except Status Algorithm :=
  match a.toNat with
  | 1 => .ok .rsa2048
  | 2 => .ok .rsa3072
  | 3 => .ok .rsa4096
  | 4 => .ok .ecdsaP256
  | 5 => .ok .ecdsaP384
  | 6 => .ok .ecdsaP521
  | 7 => .ok .mldsa44
  | 8 => .ok .mldsa65
  | 9 => .ok .mldsa87
  | 10 => .ok .slhdsa128s
  | 11 => .ok .slhdsa128f
  | 12 => .ok .slhdsa192s
  | 13 => .ok .slhdsa256s
  | _ => .error ⟨.invalidArgument, "unsupported algorithm " ++ algorithmString a⟩

def algorithmToProto : Algorithm → Enum
  | .rsa2048 => 1
  | .rsa3072 => 2
  | .rsa4096 => 3
  | .ecdsaP256 => 4
  | .ecdsaP384 => 5
  | .ecdsaP521 => 6
  | .mldsa44 => 7
  | .mldsa65 => 8
  | .mldsa87 => 9
  | .slhdsa128s => 10
  | .slhdsa128f => 11
  | .slhdsa192s => 12
  | .slhdsa256s => 13

theorem algorithmFromProto_toProto (a : Algorithm) :
    algorithmFromProto (algorithmToProto a) = .ok a := by
  cases a <;> rfl

theorem algorithmToProto_ne_zero (a : Algorithm) : algorithmToProto a ≠ 0 := by
  cases a <;> decide

theorem algorithmToProto_lt (a : Algorithm) : (algorithmToProto a).toNat < 256 := by
  cases a <;> decide

/-- `crypto.Hash` and the length of its digests, in bytes. -/
def hashFromProto (h : Enum) : Except Status (String × Nat) :=
  match h.toNat with
  | 1 => .ok ("SHA-256", 32)
  | 2 => .ok ("SHA-384", 48)
  | 3 => .ok ("SHA-512", 64)
  | _ => .error ⟨.invalidArgument, "unsupported hash " ++ hashString h⟩

/-- `crypto.RSAPadding`: everything but PSS is PKCS #1 v1.5. -/
def paddingFromProto (p : Enum) : String := if p = 2 then "PSS" else "PKCS1v15"

/-! ## Authorizations -/

/-- `crypto.SignIntent`: what an authorization commits to. -/
structure SignIntent where
  keyHandle : String
  purpose : Enum
  hash : String
  padding : String
  digest : List Byte

def signIntentDomain : List Byte := utf8 "trstctl/sign-intent/v1" ++ [0]

def SignIntent.canonicalBytes (si : SignIntent) : List Byte :=
  signIntentDomain ++ (framed (utf8 si.keyHandle) ++ (be32 si.purpose ++
    (framed (utf8 si.hash) ++ (framed (utf8 si.padding) ++ framed si.digest))))

/-- No two intents have the same canonical bytes, the one of a message of ordinary size and
any other. -/
theorem canonicalBytes_inj {si other : SignIntent}
    (same : other.canonicalBytes = si.canonicalBytes) (short : si.canonicalBytes.length < 2 ^ 32) :
    other = si := by
  -- each field is peeled off the front; what is left only gets shorter
  obtain ⟨-, fields⟩ := append_inj same rfl
  rw [SignIntent.canonicalBytes, length_append] at short
  obtain ⟨hd, fields⟩ := framed_append_inj fields (by omega)
  rw [length_append] at short
  obtain ⟨purpose, fields⟩ := be32_append_inj fields
  rw [length_append] at short
  obtain ⟨hash, fields⟩ := framed_append_inj fields (by omega)
  rw [length_append] at short
  obtain ⟨padding, fields⟩ := framed_append_inj fields (by omega)
  rw [length_append] at short
  obtain ⟨digest, -⟩ := framed_append_inj (congrArg (· ++ []) fields) (by rw [append_nil]; omega)
  cases other
  cases si
  cases purpose
  cases digest
  cases utf8_inj hd
  cases utf8_inj hash
  cases utf8_inj padding
  rfl

/-- `crypto.SignAuthorizer`: a shared secret of at least sixteen bytes. -/
structure SignAuthorizer where
  key : List Byte
  long : 16 ≤ key.length

/-- A presented token: the MAC of some bytes under some secret, or other bytes. -/
inductive Token
  | mac (key data : List Byte)
  | other (bytes : List Byte)
deriving DecidableEq

def SignAuthorizer.authorize (a : SignAuthorizer) (intent : SignIntent) : Token :=
  .mac a.key intent.canonicalBytes

/-- `SignAuthorizer.Verify`; a MAC is never empty. -/
def SignAuthorizer.verify (a : SignAuthorizer) (intent : SignIntent) (token : Token) : Bool :=
  token ≠ .other [] && a.authorize intent = token

/-! ## Messages -/

/-- `GenerateKeyRequest`, with the values of the metadata field that asks for dual control. -/
structure GenerateKeyRequest where
  algorithm : Enum
  requestedId : String
  allowedPurposes : List Enum := []
  allowedHashes : List Enum := []
  requireAuth : List String := []

/-- `requireAuthFromGenerateMD`. -/
def GenerateKeyRequest.dualControl (req : GenerateKeyRequest) : Bool :=
  req.requireAuth.any fun v => v != ""

/-- `SignRequest`, with the tokens in its metadata; a missing handle has the id `""`. -/
structure SignRequest where
  handle : String
  digest : List Byte
  hash : Enum
  rsaPadding : Enum := 0
  purpose : Enum := 0
  tokens : List Token := []

/-- `signAuthTokenFromMD`: the first token, or no bytes. -/
def SignRequest.token (req : SignRequest) : Token := req.tokens.head?.getD (.other [])

def maxDigestLen : Nat := 64

def validateSignRequest (req : SignRequest) : Except Status Unit := do
  demand (req.handle ≠ "") ⟨.invalidArgument, "missing key handle"⟩
  demand (req.digest ≠ []) ⟨.invalidArgument, "missing digest"⟩
  demand (req.digest.length ≤ maxDigestLen)
    ⟨.invalidArgument, s!"digest too long: {req.digest.length} bytes"⟩
  let (_, wantLen) ← hashFromProto req.hash
  demand (req.digest.length = wantLen) ⟨.invalidArgument,
    s!"digest length {req.digest.length} does not match hash " ++ hashString req.hash⟩

def mustHashForIntent (h : Enum) : String :=
  match hashFromProto h with
  | .ok (hash, _) => hash
  | .error _ => "SHA-256"

/-- The intent an authorization of the request must match. -/
def intentFor (req : SignRequest) : SignIntent where
  keyHandle := req.handle
  purpose := req.purpose
  hash := mustHashForIntent req.hash
  padding := paddingFromProto req.rsaPadding
  digest := req.digest

/-- The largest message the transport accepts, in bytes. -/
def maxMessageBytes : Nat := 1048576

/-- The transport refuses a message longer than its limit; a message is at least as long as
the handle in it. -/
def fitsMessage (handle : String) : Bool := (utf8 handle).length ≤ maxMessageBytes

end Trustctl.Signing
