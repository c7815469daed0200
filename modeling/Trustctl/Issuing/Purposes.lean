import Trustctl.Issuing.Authority
import Trustctl.Systems.Framing
import Mathlib.Data.List.Sort

/-!
# What a ceremony is for

A key ceremony is opened for a purpose, a string that each operation on the hierarchy derives from
its own request; the ceremony is consumed only by an operation that derives the same string.  The
hash is a parameter.  What it is applied to, the JSON text of a specification and the bytes of
certificates and requests, is identified with what these hold.

* `purpose_eq_iff`: requests whose purpose says everything have the same purpose exactly if they are
  the same request, up to the order of their lists.
-/

namespace Trustctl.Issuing

open List Store Systems

/-! ## Specifications -/

def errCaHierarchyInvalid (msg : String) : String := "api: invalid CA hierarchy request: " ++ msg

/-- `time.Duration(n) * time.Second`, which wraps. -/
def durationOfSeconds (n : Int) : Duration := (n * second).bmod (2 ^ 64)

structure CaSpec where
  commonName : String
  permittedDnsDomains : List String := []
  maxPathLen : Int := -1
  extendedKeyUsages : List String := []
  ttlSeconds : Int := 0
  signatureAlgorithm : String := ""

def validateCaSpec (spec : CaSpec) : Except String Unit := do
  demand (spec.commonName ≠ "") (errCaHierarchyInvalid "common_name is required")
  demand (0 ≤ spec.ttlSeconds) (errCaHierarchyInvalid "ttl_seconds cannot be negative")
  demand (toLower spec.signatureAlgorithm = "" ∨ toLower spec.signatureAlgorithm = "ecdsa-p256")
    (errCaHierarchyInvalid "only ecdsa-p256 CA keys are supported by the served signer path")

def cryptoProfile (spec : CaSpec) : HierarchyCaProfile where
  commonName := spec.commonName
  permittedDnsDomains := spec.permittedDnsDomains
  maxPathLen := spec.maxPathLen
  ekus := spec.extendedKeyUsages
  ttl := durationOfSeconds spec.ttlSeconds

/-- What `purposeSpecDigest` renders as JSON. -/
structure SpecPayload where
  commonName : String
  permittedDnsDomains : List String
  maxPathLen : Int
  ekus : List String
  ttl : Duration
deriving DecidableEq

def CaSpec.payload (spec : CaSpec) : SpecPayload where
  commonName := spec.commonName
  permittedDnsDomains := spec.permittedDnsDomains.insertionSort (· ≤ ·)
  maxPathLen := spec.maxPathLen
  ekus := spec.extendedKeyUsages.insertionSort (· ≤ ·)
  ttl := durationOfSeconds spec.ttlSeconds

inductive Preimage
  | spec (payload : SpecPayload)
  | certificates (chain : List CaCert)
  | csr (der : CaCsrDer)
deriving DecidableEq

/-- `crypto.SHA256Hex`, of which only the size of its results is known. -/
structure Hash where
  sha256Hex : Preimage → String
  size : ∀ p, (sha256Hex p).length = 64

/-! ## Purposes -/

/-- A request for an operation that creates or imports a CA certificate, with all that it says
about the certificate. -/
inductive CaRequest
  | createRoot (spec : CaSpec)
  | importOfflineRoot (certificate : CaCert) (spec : CaSpec)
  | importExisting (certificate : CaCert) (above : List CaCert) (signerHandle : String)
      (spec : CaSpec)
  | createIntermediate (parentId : Uuid) (spec : CaSpec)
  | importOfflineIntermediate (parentId : Uuid) (certificate : CaCert) (spec : CaSpec)
  | issueIntermediateCsr (parentId : Uuid) (csr : CaCsrDer) (spec : CaSpec)
  | rekey (authorityId : Uuid) (ttlSeconds : Int)

section Purposes

variable (h : Hash)

def purposeSpecDigest (spec : CaSpec) : String := h.sha256Hex (.spec spec.payload)

def purposeRoot (spec : CaSpec) : String := "root:" ++ purposeSpecDigest h spec

def purposeIntermediate (parentCaId : Uuid) (spec : CaSpec) : String :=
  "intermediate:" ++ parentCaId ++ ":" ++ purposeSpecDigest h spec

def purposeRotate (caId : Uuid) : String := "rotation:" ++ caId

/-- `hierarchyPurpose`, of `create_root`. -/
def rootPurpose (spec : CaSpec) : Except String String := do
  validateCaSpec spec
  .ok (purposeRoot h spec)

/-- `hierarchyPurpose`, of `create_intermediate`. -/
def intermediatePurpose (parentId : Uuid) (spec : CaSpec) : Except String String := do
  validateCaSpec spec
  demand (parentId ≠ "") (errCaHierarchyInvalid "parent_id is required for create_intermediate")
  .ok (purposeIntermediate h parentId spec)

def offlineRootPurpose (certificate : CaCert) (spec : CaSpec) : Except String String := do
  let purpose ← rootPurpose h spec
  .ok ("offline-root:" ++ h.sha256Hex (.certificates [certificate]) ++ ":" ++ purpose)

def existingCaPurpose (chain : List CaCert) (signerHandle : String) (spec : CaSpec) :
    Except String String := do
  demand (signerHandle ≠ "")
    (errCaHierarchyInvalid "signer_handle is required for import_existing_ca")
  let purpose ← rootPurpose h spec
  .ok ("import-existing-ca:" ++ signerHandle ++ ":" ++ h.sha256Hex (.certificates chain) ++ ":" ++
    purpose)

def offlineIntermediatePurpose (parentId : Uuid) (spec : CaSpec) : Except String String := do
  demand (parentId ≠ "")
    (errCaHierarchyInvalid "parent_id is required for create_offline_intermediate")
  let purpose ← intermediatePurpose h parentId spec
  .ok ("offline-" ++ purpose)

/-- `externalIntermediateCSRPurpose`, on a request that is not empty. -/
def externalIntermediateCsrPurpose (parentId : Uuid) (csr : CaCsrDer) (spec : CaSpec) :
    Except String String := do
  demand (parentId ≠ "") (errCaHierarchyInvalid "parent_id is required for issue_intermediate_csr")
  let purpose ← intermediatePurpose h parentId spec
  .ok ("intermediate-csr:" ++ parentId ++ ":" ++ h.sha256Hex (.csr csr) ++ ":" ++ purpose)

def rekeyCaPurpose (authorityId : Uuid) : Except String String := do
  demand (trimSpace authorityId ≠ "")
    (errCaHierarchyInvalid "authority_id is required for rekey_ca")
  .ok (purposeRotate (trimSpace authorityId))

/-- The purpose an operation derives from its request; `hierarchyPurposeFromStartRequest` derives
the same when the ceremony is opened. -/
def CaRequest.purpose : CaRequest → Except String String
  | .createRoot spec => rootPurpose h spec
  | .importOfflineRoot certificate spec => offlineRootPurpose h certificate spec
  | .importExisting certificate above signerHandle spec =>
    existingCaPurpose h (certificate :: above) signerHandle spec
  | .createIntermediate parentId spec => intermediatePurpose h parentId spec
  | .importOfflineIntermediate parentId _ spec => offlineIntermediatePurpose h parentId spec
  | .issueIntermediateCsr parentId csr spec => externalIntermediateCsrPurpose h parentId csr spec
  | .rekey authorityId _ => rekeyCaPurpose authorityId

end Purposes

/-! ## Equal purposes -/

/-- The purpose says how long the certificate is valid: the lifetime does not wrap. -/
def CaSpec.InRange (spec : CaSpec) : Prop := spec.ttlSeconds * second < 2 ^ 63

/-- Equal up to the order of the lists. -/
structure CaSpec.Same (spec spec' : CaSpec) : Prop where
  commonName : spec.commonName = spec'.commonName
  dns : spec.permittedDnsDomains.Perm spec'.permittedDnsDomains
  maxPathLen : spec.maxPathLen = spec'.maxPathLen
  ekus : spec.extendedKeyUsages.Perm spec'.extendedKeyUsages
  ttl : spec.ttlSeconds = spec'.ttlSeconds

/-- The purpose says everything about the certificate.  That of a re-key does not say how long it
is valid, and that of an intermediate signed offline does not say which it is. -/
def CaRequest.Bound : CaRequest → Prop
  | .createRoot spec | .importOfflineRoot _ spec | .importExisting _ _ _ spec
  | .createIntermediate _ spec | .issueIntermediateCsr _ _ spec => spec.InRange
  | .importOfflineIntermediate .. => False
  | .rekey authorityId ttlSeconds => trimSpace authorityId = authorityId ∧ ttlSeconds = 0

/-- The same operation on the same parent or authority, with the same specification and the same
certificates or request. -/
def CaRequest.Same : CaRequest → CaRequest → Prop
  | .createRoot spec, .createRoot spec' => spec.Same spec'
  | .importOfflineRoot cert spec, .importOfflineRoot cert' spec' => cert = cert' ∧ spec.Same spec'
  | .importExisting cert above handle spec, .importExisting cert' above' handle' spec' =>
    cert = cert' ∧ above = above' ∧ handle = handle' ∧ spec.Same spec'
  | .createIntermediate parent spec, .createIntermediate parent' spec' =>
    parent = parent' ∧ spec.Same spec'
  | .importOfflineIntermediate parent cert spec, .importOfflineIntermediate parent' cert' spec' =>
    parent = parent' ∧ cert = cert' ∧ spec.Same spec'
  | .issueIntermediateCsr parent csr spec, .issueIntermediateCsr parent' csr' spec' =>
    parent = parent' ∧ csr = csr' ∧ spec.Same spec'
  | .rekey authority ttl, .rekey authority' ttl' => authority = authority' ∧ ttl = ttl'
  | _, _ => False

/-- What is hashed for the purpose. -/
def CaRequest.digested : CaRequest → List Preimage
  | .createRoot spec | .createIntermediate _ spec | .importOfflineIntermediate _ _ spec =>
    [.spec spec.payload]
  | .importOfflineRoot cert spec => [.certificates [cert], .spec spec.payload]
  | .importExisting cert above _ spec => [.certificates (cert :: above), .spec spec.payload]
  | .issueIntermediateCsr _ csr spec => [.csr csr, .spec spec.payload]
  | .rekey .. => []

/-- The hash takes no two of them to one string. -/
def Hash.Separates (h : Hash) (left right : List Preimage) : Prop :=
  ∀ p ∈ left, ∀ q ∈ right, h.sha256Hex p = h.sha256Hex q → p = q

/-- The word a purpose starts with. -/
def CaRequest.word : CaRequest → String
  | .createRoot _ => "root"
  | .importOfflineRoot .. => "offline-root"
  | .importExisting .. => "import-existing-ca"
  | .createIntermediate .. => "intermediate"
  | .importOfflineIntermediate .. => "offline-intermediate"
  | .issueIntermediateCsr .. => "intermediate-csr"
  | .rekey .. => "rotation"

/-- What follows the word and a colon. -/
def CaRequest.rest (h : Hash) : CaRequest → String
  | .createRoot spec => purposeSpecDigest h spec
  | .importOfflineRoot cert spec =>
    h.sha256Hex (.certificates [cert]) ++ ":" ++ purposeRoot h spec
  | .importExisting cert above handle spec =>
    handle ++ ":" ++ h.sha256Hex (.certificates (cert :: above)) ++ ":" ++ purposeRoot h spec
  | .createIntermediate parentId spec | .importOfflineIntermediate parentId _ spec =>
    parentId ++ ":" ++ purposeSpecDigest h spec
  | .issueIntermediateCsr parentId csr spec =>
    parentId ++ ":" ++ h.sha256Hex (.csr csr) ++ ":" ++ purposeIntermediate h parentId spec
  | .rekey authorityId _ => trimSpace authorityId

section Equal

variable {h : Hash} {r r' : CaRequest} {spec spec' : CaSpec} {purpose : String}

theorem word_colon : ∀ c ∈ r.word.toList, (c != ':') := by
  cases r <;> simp [CaRequest.word]

theorem rootPurpose_eq_ok (derived : rootPurpose h spec = .ok purpose) :
    validateCaSpec spec = .ok () ∧ purpose = purposeRoot h spec := by
  obtain ⟨_, valid, ⟨⟩⟩ := bind_ok.mp derived
  exact ⟨valid, rfl⟩

theorem intermediatePurpose_eq_ok {parentId : Uuid}
    (derived : intermediatePurpose h parentId spec = .ok purpose) :
    validateCaSpec spec = .ok () ∧ purpose = purposeIntermediate h parentId spec := by
  obtain ⟨_, valid, derived⟩ := bind_ok.mp derived
  obtain ⟨_, -, ⟨⟩⟩ := bind_ok.mp derived
  exact ⟨valid, rfl⟩

def CaRequest.spec? : CaRequest → Option CaSpec
  | .createRoot spec | .importOfflineRoot _ spec | .importExisting _ _ _ spec
  | .createIntermediate _ spec | .importOfflineIntermediate _ _ spec
  | .issueIntermediateCsr _ _ spec => some spec
  | .rekey .. => none

/-- A purpose is a word, a colon and the rest, and is derived from a valid specification only. -/
theorem purpose_eq (derived : r.purpose h = .ok purpose) :
    purpose.toList = r.word.toList ++ ':' :: (r.rest h).toList ∧
      ∀ spec ∈ r.spec?, validateCaSpec spec = .ok () := by
  cases r with
  | createRoot spec =>
    obtain ⟨valid, rfl⟩ := rootPurpose_eq_ok derived
    exact ⟨by simp [CaRequest.word, CaRequest.rest, purposeRoot], by simpa [CaRequest.spec?]⟩
  | importOfflineRoot cert spec =>
    obtain ⟨root, inner, ⟨⟩⟩ := bind_ok.mp derived
    obtain ⟨valid, rfl⟩ := rootPurpose_eq_ok inner
    exact ⟨by simp [CaRequest.word, CaRequest.rest], by simpa [CaRequest.spec?]⟩
  | importExisting cert above hd spec =>
    obtain ⟨-, -, derived⟩ := bind_ok.mp derived
    obtain ⟨root, inner, ⟨⟩⟩ := bind_ok.mp derived
    obtain ⟨valid, rfl⟩ := rootPurpose_eq_ok inner
    exact ⟨by simp [CaRequest.word, CaRequest.rest], by simpa [CaRequest.spec?]⟩
  | createIntermediate parentId spec =>
    obtain ⟨valid, rfl⟩ := intermediatePurpose_eq_ok derived
    exact ⟨by simp [CaRequest.word, CaRequest.rest, purposeIntermediate],
      by simpa [CaRequest.spec?]⟩
  | importOfflineIntermediate parentId cert spec =>
    obtain ⟨-, -, derived⟩ := bind_ok.mp derived
    obtain ⟨mid, inner, ⟨⟩⟩ := bind_ok.mp derived
    obtain ⟨valid, rfl⟩ := intermediatePurpose_eq_ok inner
    exact ⟨by simp [CaRequest.word, CaRequest.rest, purposeIntermediate],
      by simpa [CaRequest.spec?]⟩
  | issueIntermediateCsr parentId csr spec =>
    obtain ⟨-, -, derived⟩ := bind_ok.mp derived
    obtain ⟨mid, inner, ⟨⟩⟩ := bind_ok.mp derived
    obtain ⟨valid, rfl⟩ := intermediatePurpose_eq_ok inner
    exact ⟨by simp [CaRequest.word, CaRequest.rest], by simpa [CaRequest.spec?]⟩
  | rekey authorityId ttlSeconds =>
    obtain ⟨-, -, ⟨⟩⟩ := bind_ok.mp derived
    exact ⟨by simp [CaRequest.word, CaRequest.rest, purposeRotate], nofun⟩

/-- A lifetime that does not wrap is what the request says. -/
theorem durationOfSeconds_inj {n n' : Int} (range : 0 ≤ n ∧ n * second < 2 ^ 63)
    (range' : 0 ≤ n' ∧ n' * second < 2 ^ 63) (same : durationOfSeconds n = durationOfSeconds n') :
    n = n' := by
  have exact_ {n : Int} (range : 0 ≤ n ∧ n * second < 2 ^ 63) :
      (n * second).bmod (2 ^ 64) = n * 1000000000 := by
    unfold second at *
    exact Int.bmod_eq_of_le_mul_two (by omega) (by omega)
  have equal : n * 1000000000 = n' * 1000000000 :=
    (exact_ range).symm.trans (same.trans (exact_ range'))
  omega

theorem validateCaSpec_ttl (valid : validateCaSpec spec = .ok ()) : 0 ≤ spec.ttlSeconds := by
  simp only [validateCaSpec, bind_ok, demand_eq_ok] at valid
  obtain ⟨-, -, -, nonnegative, -⟩ := valid
  exact nonnegative

theorem insertionSort_eq_iff {names names' : List String} :
    names.insertionSort (· ≤ ·) = names'.insertionSort (· ≤ ·) ↔ names.Perm names' := by
  have sorts (names : List String) := perm_insertionSort (· ≤ ·) names
  refine ⟨fun same => (sorts names).symm.trans (same ▸ sorts names'), fun permuted => ?_⟩
  exact ((sorts names).trans (permuted.trans (sorts names').symm)).eq_of_pairwise'
    (pairwise_insertionSort _ _) (pairwise_insertionSort _ _)

theorem CaSpec.Same.payload (same : spec.Same spec') : spec.payload = spec'.payload := by
  unfold CaSpec.payload
  rw [same.commonName, insertionSort_eq_iff.mpr same.dns, same.maxPathLen,
    insertionSort_eq_iff.mpr same.ekus, same.ttl]

theorem specSame_of_digest (valid : validateCaSpec spec = .ok ()) (range : spec.InRange)
    (valid' : validateCaSpec spec' = .ok ()) (range' : spec'.InRange)
    (apart : h.sha256Hex (.spec spec.payload) = h.sha256Hex (.spec spec'.payload) →
      Preimage.spec spec.payload = .spec spec'.payload)
    (same : purposeSpecDigest h spec = purposeSpecDigest h spec') : spec.Same spec' := by
  have body := Preimage.spec.inj (apart same)
  simp only [CaSpec.payload, SpecPayload.mk.injEq] at body
  obtain ⟨cn, dns, maxPathLen, ekus, ttl⟩ := body
  refine ⟨cn, insertionSort_eq_iff.mp dns, maxPathLen, insertionSort_eq_iff.mp ekus, ?_⟩
  exact durationOfSeconds_inj ⟨validateCaSpec_ttl valid, range⟩
    ⟨validateCaSpec_ttl valid', range'⟩ ttl

theorem CaRequest.Bound.inRange (bound : r.Bound) (given : spec ∈ r.spec?) : spec.InRange := by
  cases r with
  | importOfflineIntermediate => cases bound
  | rekey => cases given
  | createRoot | importOfflineRoot | importExisting | createIntermediate | issueIntermediateCsr =>
    cases given
    exact bound

theorem spec_mem_digested (given : spec ∈ r.spec?) : Preimage.spec spec.payload ∈ r.digested := by
  cases r with
  | rekey => cases given
  | createRoot | importOfflineRoot | importExisting | createIntermediate |
    importOfflineIntermediate | issueIntermediateCsr =>
    cases given
    simp [CaRequest.digested]

/-- Two texts that end in parts of one length agree on these and on what is before. -/
theorem append_inj_right {a a' b b' : String} (length : b.length = b'.length)
    (same : a ++ b = a' ++ b') : a = a' ∧ b = b' := by
  have lists := congrArg String.toList same
  rw [String.toList_append, String.toList_append] at lists
  obtain ⟨left, right⟩ := append_inj' lists (by rwa [String.length_toList, String.length_toList])
  exact ⟨String.toList_inj.mp left, String.toList_inj.mp right⟩

theorem digest_length : (purposeSpecDigest h spec).length = (purposeSpecDigest h spec').length :=
  (h.size _).trans (h.size _).symm

theorem root_length (spec spec' : CaSpec) :
    (purposeRoot h spec).length = (purposeRoot h spec').length := by
  rw [purposeRoot, purposeRoot, String.length_append, String.length_append, digest_length]

/-- Requests whose purpose says everything have the same purpose only if they are the same. -/
theorem purpose_inj (bound : r.Bound) (bound' : r'.Bound)
    (apart : h.Separates r.digested r'.digested) (derived : r.purpose h = .ok purpose)
    (derived' : r'.purpose h = .ok purpose) : r.Same r' := by
  obtain ⟨shape, valid⟩ := purpose_eq derived
  obtain ⟨shape', valid'⟩ := purpose_eq derived'
  obtain ⟨words, -, rests⟩ := append_stop_inj word_colon word_colon rfl rfl
    (shape.symm.trans shape')
  replace words := String.toList_inj.mp words
  replace rests := String.toList_inj.mp rests
  have specs : ∀ spec ∈ r.spec?, ∀ spec' ∈ r'.spec?,
      purposeSpecDigest h spec = purposeSpecDigest h spec' → spec.Same spec' := by
    intro spec given spec' given'
    exact specSame_of_digest (valid spec given) (bound.inRange given) (valid' spec' given')
      (bound'.inRange given') (apart _ (spec_mem_digested given) _ (spec_mem_digested given'))
  cases r with
  | importOfflineIntermediate => cases bound
  | createRoot spec =>
    cases r' with
    | createRoot spec' =>
      exact specs _ rfl _ rfl rests
    | _ => simp [CaRequest.word] at words
  | importOfflineRoot cert spec =>
    cases r' with
    | importOfflineRoot cert' spec' =>
      obtain ⟨first, roots⟩ := append_inj_right (root_length spec spec') rests
      obtain ⟨hashes, -⟩ := append_inj_right rfl first
      obtain ⟨-, digests⟩ := append_inj_right digest_length roots
      have certs := apart _ mem_cons_self _ mem_cons_self hashes
      cases certs
      exact ⟨rfl, specs _ rfl _ rfl digests⟩
    | _ => simp [CaRequest.word] at words
  | importExisting cert above hd spec =>
    cases r' with
    | importExisting cert' above' handle' spec' =>
      obtain ⟨first, roots⟩ := append_inj_right (root_length spec spec') rests
      obtain ⟨first, -⟩ := append_inj_right rfl first
      obtain ⟨first, hashes⟩ := append_inj_right ((h.size _).trans (h.size _).symm) first
      obtain ⟨handles, -⟩ := append_inj_right rfl first
      obtain ⟨-, digests⟩ := append_inj_right digest_length roots
      have certs := apart _ mem_cons_self _ mem_cons_self hashes
      cases certs
      exact ⟨rfl, rfl, handles, specs _ rfl _ rfl digests⟩
    | _ => simp [CaRequest.word] at words
  | createIntermediate parentId spec =>
    cases r' with
    | createIntermediate parentId' spec' =>
      obtain ⟨first, digests⟩ := append_inj_right digest_length rests
      obtain ⟨parents, -⟩ := append_inj_right rfl first
      exact ⟨parents, specs _ rfl _ rfl digests⟩
    | _ => simp [CaRequest.word] at words
  | issueIntermediateCsr parentId csr spec =>
    cases r' with
    | issueIntermediateCsr parentId' csr' spec' =>
      -- The identifier of the parent stands in it twice, so its length is that of the text.
      have lens := congrArg String.length rests
      simp only [CaRequest.rest, purposeIntermediate, purposeSpecDigest, String.length_append,
        h.size] at lens
      have intermediates : (purposeIntermediate h parentId spec).length =
          (purposeIntermediate h parentId' spec').length := by
        simp only [purposeIntermediate, purposeSpecDigest, String.length_append, h.size]
        omega
      obtain ⟨first, inner⟩ := append_inj_right intermediates rests
      obtain ⟨first, -⟩ := append_inj_right rfl first
      obtain ⟨first, hashes⟩ := append_inj_right ((h.size _).trans (h.size _).symm) first
      obtain ⟨parents, -⟩ := append_inj_right rfl first
      obtain ⟨-, digests⟩ := append_inj_right digest_length inner
      have csrs := apart _ mem_cons_self _ mem_cons_self hashes
      cases csrs
      exact ⟨parents, rfl, specs _ rfl _ rfl digests⟩
    | _ => simp [CaRequest.word] at words
  | rekey authorityId ttlSeconds =>
    cases r' with
    | rekey authorityId' ttlSeconds' =>
      obtain ⟨trimmed, rfl⟩ := bound
      obtain ⟨trimmed', rfl⟩ := bound'
      exact ⟨trimmed.symm.trans (Eq.trans rests trimmed'), rfl⟩
    | _ => simp [CaRequest.word] at words

theorem CaRequest.Same.text (same : r.Same r') : r.word = r'.word ∧ r.rest h = r'.rest h := by
  have digests {spec spec' : CaSpec} (same : spec.Same spec') :
      purposeSpecDigest h spec = purposeSpecDigest h spec' := by
    rw [purposeSpecDigest, same.payload, purposeSpecDigest]
  unfold CaRequest.Same at same
  split at same
  next => exact ⟨rfl, digests same⟩
  next =>
    obtain ⟨rfl, same⟩ := same
    exact ⟨rfl, by simp only [CaRequest.rest, purposeRoot, digests same]⟩
  next =>
    obtain ⟨rfl, rfl, rfl, same⟩ := same
    exact ⟨rfl, by simp only [CaRequest.rest, purposeRoot, digests same]⟩
  next =>
    obtain ⟨rfl, same⟩ := same
    exact ⟨rfl, by simp only [CaRequest.rest, digests same]⟩
  next =>
    obtain ⟨rfl, rfl, same⟩ := same
    exact ⟨rfl, by simp only [CaRequest.rest, digests same]⟩
  next =>
    obtain ⟨rfl, rfl, same⟩ := same
    exact ⟨rfl, by simp only [CaRequest.rest, purposeIntermediate, digests same]⟩
  next =>
    obtain ⟨rfl, rfl⟩ := same
    exact ⟨rfl, rfl⟩
  next => cases same

/-- Requests whose purpose says everything have the same purpose exactly if they are the same. -/
theorem purpose_eq_iff {purpose' : String} (bound : r.Bound) (bound' : r'.Bound)
    (apart : h.Separates r.digested r'.digested) (derived : r.purpose h = .ok purpose)
    (derived' : r'.purpose h = .ok purpose') : purpose = purpose' ↔ r.Same r' := by
  refine ⟨fun same => purpose_inj bound bound' apart derived (same ▸ derived'), fun same => ?_⟩
  obtain ⟨words, rests⟩ := same.text (h := h)
  rw [← String.toList_inj, (purpose_eq derived).1, (purpose_eq derived').1, words, rests]

end Equal

end Trustctl.Issuing
