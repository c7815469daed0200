import Trustctl.Issuing.Profile

/-!
# Leaves

`InspectCSR` and `SignLeafFromCSRWithProfile`: what a certificate request asks for, the checks of
`enforceLeafProfile` and the certificate that is signed.  A request's bytes are identified with
what they parse to; the pointers, policies and key usage bits that a profile adds to the leaf are
left out.

* `enforceLeafProfile_permits`: the checks pass only if the profile permits the request;
* `signLeafFromCsrWithProfile_isLeafOf`: what is known of a signed leaf.
-/

namespace Trustctl.Issuing

open Systems Store

/-! ## Requests -/

inductive PublicKey
  | rsa (bits : Nat)
  | ecdsa (bits : Nat)
  | ed25519
  | other
deriving DecidableEq

/-- The extension by which a request asks for a hybrid leaf. -/
inductive HybridExtension
  | absent
  | malformed (err : String)
  /-- The components are supported; `proof` is what `verifiedHybridCSRExtension` says. -/
  | present (proof : Except String Unit)

/-- A certificate request that parses and whose signature verifies. -/
structure Csr where
  commonName : String := ""
  publicKey : PublicKey
  dnsNames : List String := []
  ipAddresses : List Ip := []
  emailAddresses : List String := []
  uris : List String := []
  /-- The usages its extensions ask for, if these decode. -/
  ekus : Except String (List Oid) := .ok []
  hybrid : HybridExtension := .absent

inductive CsrDer
  | unparseable (err : String)
  | unsigned (err : String)
  | valid (csr : Csr)

structure CsrInfo where
  keyAlgorithm : String
  keyBits : Int
  dnsNames : List String
  ipAddresses : List Ip
  emailAddresses : List String
  uris : List String
  commonName : String
  requestedEkus : List String

def hybridAlgorithm : String := "Hybrid-ML-DSA-44-ECDSA-P256"

def dedupeStrings (names : List String) : List String :=
  (names.foldl (fun out v => if v = "" ∨ v ∈ out then out else v :: out) []).reverse

/-- The name and the size of a key. -/
def PublicKey.describe : PublicKey → String × Int
  | .rsa bits => ("RSA", bits)
  | .ecdsa bits => ("ECDSA", bits)
  | .ed25519 => ("Ed25519", 256)
  | .other => ("unknown", 0)

/-- The `%T` verb. -/
def PublicKey.goType : PublicKey → String
  | .rsa _ => "*rsa.PublicKey"
  | .ecdsa _ => "*ecdsa.PublicKey"
  | .ed25519 => "ed25519.PublicKey"
  | .other => "<nil>"

/-- The algorithm of a request that carries the hybrid extension, or that of its key. -/
def Csr.keyAlgorithm (csr : Csr) : String :=
  match csr.hybrid with
  | .present _ => hybridAlgorithm
  | _ => csr.publicKey.describe.1

def inspectCsr : CsrDer → Except String CsrInfo
  | .unparseable err => .error err
  | .unsigned err => .error err
  | .valid csr => do
    let ekus ← csr.ekus
    match csr.hybrid with
    | .malformed err => .error err
    | _ => .ok {
        keyAlgorithm := csr.keyAlgorithm
        keyBits := csr.publicKey.describe.2
        dnsNames := csr.dnsNames
        ipAddresses := csr.ipAddresses
        emailAddresses := csr.emailAddresses
        uris := csr.uris
        commonName := csr.commonName
        requestedEkus := dedupeStrings (ekus.map extKeyUsageName) }

/-! ## The operator's profile -/

structure LeafProfile where
  /-- Zero is no ceiling. -/
  maxValidity : Duration := 0
  /-- Empty stands for the default pair. -/
  allowedExtKeyUsage : List String := []
  permittedDnsSuffixes : List String := []
  permittedIpCidrs : List String := []
  permittedEmailDomains : List String := []
  permittedUriPrefixes : List String := []

namespace LeafProfile

/-- `leafSANPolicyConfigured`. -/
def sanPolicyConfigured (p : LeafProfile) : Bool :=
  0 < p.permittedDnsSuffixes.length + p.permittedIpCidrs.length + p.permittedEmailDomains.length +
    p.permittedUriPrefixes.length

end LeafProfile

def leafProfileError (msg : String) : String := "crypto: leaf profile violation: " ++ msg

def leafUnlisted (kind name : String) : String :=
  leafProfileError (kind ++ " SAN " ++ name.quote ++ " is not permitted by this profile")

def leafOutside (kind what : String) (entries : List String) (name : String) : String :=
  leafProfileError (kind ++ " SAN " ++ name.quote ++ " is outside the permitted " ++ what ++ " " ++
    listString entries)

def enforceLeafProfile (lib : Library) (csr : Csr) (ttl : Duration) (prof : LeafProfile) :
    Except String Unit := do
  demand (¬ (0 < prof.maxValidity ∧ prof.maxValidity < ttl))
    (leafProfileError ("validity " ++ ttl.string ++ " exceeds the profile ceiling " ++
      prof.maxValidity.string))
  let cidrs ← (parseLeafCidrs lib prof.permittedIpCidrs).mapError fun err =>
    leafProfileError ("invalid permitted IP CIDR policy: " ++ err)
  checkSans prof.permittedDnsSuffixes prof.sanPolicyConfigured (leafUnlisted "DNS")
    (leafOutside "DNS" "DNS suffixes" prof.permittedDnsSuffixes)
    (fun name => .ok (dnsSuffixPermitted name prof.permittedDnsSuffixes)) csr.dnsNames
  checkSans prof.permittedIpCidrs prof.sanPolicyConfigured
    (fun ip => leafUnlisted "IP" (lib.ipString ip))
    (fun ip => leafOutside "IP" "CIDRs" prof.permittedIpCidrs (lib.ipString ip))
    (fun ip => .ok (ipInCidrs ip cidrs)) csr.ipAddresses
  checkSans prof.permittedEmailDomains prof.sanPolicyConfigured (leafUnlisted "email")
    (leafOutside "email" "email domains" prof.permittedEmailDomains)
    (fun email => .ok (emailDomainPermitted email prof.permittedEmailDomains)) csr.emailAddresses
  checkSans prof.permittedUriPrefixes prof.sanPolicyConfigured (leafUnlisted "URI")
    (leafOutside "URI" "URI prefixes" prof.permittedUriPrefixes)
    (fun uri => .ok (uriPrefixPermitted uri prof.permittedUriPrefixes)) csr.uris

/-! ## Signing -/

/-- The usages that the names stand for, those with a name of their own first. -/
def usagesOf (refusal : String → String) (names : List String) : Except String (List Oid) := do
  let custom ← (names.filter fun name => (knownExtKeyUsage name).isNone).mapM fun name =>
    match parseDottedOid name with
    | some oid => .ok oid
    | none => .error (refusal name)
  .ok (names.filterMap knownExtKeyUsage ++ custom)

def leafExtKeyUsage (names : List String) : Except String (List Oid) :=
  if names.isEmpty then .ok [[1, 3, 6, 1, 5, 5, 7, 3, 1], [1, 3, 6, 1, 5, 5, 7, 3, 2]]
  else usagesOf (fun name => "unsupported extended key usage " ++ name.quote) names

structure Leaf where
  commonName : String
  publicKey : PublicKey
  /-- The leaf carries the hybrid extension. -/
  hybrid : Bool := false
  dnsNames : List String
  ipAddresses : List Ip
  emailAddresses : List String
  uris : List String
  notBefore : Int
  notAfter : Int
  ekus : List Oid

/-- The issuing CA at one signature: whether its certificate parses, and whether the signer
signs and the signature verifies. -/
structure Issuer where
  caCert : Except String Unit := .ok ()
  sign : Except String Unit := .ok ()

/-- `SignLeafFromCSRWithProfile`; `now` is the clock. -/
def signLeafFromCsrWithProfile (lib : Library) (issuer : Issuer) (now : Int) (der : CsrDer)
    (ttl : Duration) (prof : LeafProfile) : Except String Leaf := do
  issuer.caCert.mapError fun err => "crypto: parse CA cert: " ++ err
  match der with
  | .unparseable err => .error ("crypto: parse CSR: " ++ err)
  | .unsigned err => .error ("crypto: CSR signature: " ++ err)
  | .valid csr =>
    enforceLeafProfile lib csr ttl prof
    let ekus ← (leafExtKeyUsage prof.allowedExtKeyUsage).mapError leafProfileError
    issuer.sign
    .ok {
      commonName := csr.commonName, publicKey := csr.publicKey, dnsNames := csr.dnsNames
      ipAddresses := csr.ipAddresses, emailAddresses := csr.emailAddresses, uris := csr.uris
      notBefore := now - 60 * second, notAfter := now + ttl, ekus }

def requireEcdsaP256 : PublicKey → Except String Unit
  | .ecdsa bits => demand (bits = 256) "pqc: hybrid leaf requires ECDSA-P256 public key"
  | key => .error ("pqc: hybrid leaf requires ECDSA-P256 CSR/public key, got " ++ key.goType)

/-- `verifiedHybridCSRExtension`, the check of it. -/
def requireHybridProof : HybridExtension → Except String Unit
  | .absent => .error "pqc: hybrid CSR extension absent"
  | .malformed err => .error err
  | .present proof => proof

def signHybridLeafFromCsrWithProfile (lib : Library) (issuer : Issuer) (now : Int) (der : CsrDer)
    (ttl : Duration) (prof : LeafProfile) : Except String Leaf :=
  match der with
  | .unparseable err => .error ("pqc: parse hybrid CSR: " ++ err)
  | .unsigned err => .error ("pqc: hybrid CSR signature: " ++ err)
  | .valid csr => do
    requireEcdsaP256 csr.publicKey
    requireHybridProof csr.hybrid
    let leaf ← signLeafFromCsrWithProfile lib issuer now der ttl prof
    .ok { leaf with hybrid := true }

/-! ## What a signed leaf satisfies -/

structure LeafProfile.Permits (lib : Library) (p : LeafProfile) (csr : Csr) (ttl : Duration) :
    Prop where
  ceiling : 0 < p.maxValidity → ttl ≤ p.maxValidity
  dns : ∀ dns ∈ csr.dnsNames, SanAllowed p.permittedDnsSuffixes p.sanPolicyConfigured
    (.ok (dnsSuffixPermitted dns p.permittedDnsSuffixes))
  ip : ∀ ip ∈ csr.ipAddresses, SanAllowed p.permittedIpCidrs p.sanPolicyConfigured
    ((parseLeafCidrs lib p.permittedIpCidrs).map fun cidrs => ipInCidrs ip cidrs)
  email : ∀ email ∈ csr.emailAddresses, SanAllowed p.permittedEmailDomains p.sanPolicyConfigured
    (.ok (emailDomainPermitted email p.permittedEmailDomains))
  uri : ∀ uri ∈ csr.uris, SanAllowed p.permittedUriPrefixes p.sanPolicyConfigured
    (.ok (uriPrefixPermitted uri p.permittedUriPrefixes))

variable {lib : Library} {csr : Csr} {ttl : Duration} {prof : LeafProfile} {issuer : Issuer}
  {now : Int} {der : CsrDer} {leaf : Leaf}

theorem enforceLeafProfile_permits {u : Unit} (pass : enforceLeafProfile lib csr ttl prof = .ok u) :
    prof.Permits lib csr ttl := by
  simp only [enforceLeafProfile, bind_ok, demand_eq_ok, mapError_eq_ok, checkSans_eq_ok] at pass
  obtain ⟨-, ceiling, cidrs, parsed, -, dns, -, ip, -, email, uri⟩ := pass
  refine ⟨fun cap => Int.not_lt.mp fun above => ceiling ⟨cap, above⟩, dns, ?_, email, uri⟩
  rw [parsed]
  exact ip

theorem mem_usagesOf {no : String → String} {names : List String} {ekus : List Oid} {oid : Oid}
    (named : usagesOf no names = .ok ekus) :
    oid ∈ ekus ↔ ∃ name ∈ names, extKeyUsageOid name = some oid := by
  obtain ⟨custom, parsed, ⟨⟩⟩ := bind_ok.mp named
  have dotted (name : String) : (match parseDottedOid name with
      | some oid => Except.ok oid
      | none => .error (no name)) = .ok oid ↔ parseDottedOid name = some oid := by
    cases parseDottedOid name <;> simp
  simp only [List.mem_append, List.mem_filterMap, mem_mapM parsed, List.mem_filter, dotted,
    extKeyUsageOid]
  constructor
  · rintro (⟨name, there, known⟩ | ⟨name, ⟨there, new⟩, hit⟩)
    · exact ⟨name, there, by rw [known]⟩
    · exact ⟨name, there, by rw [Option.isNone_iff_eq_none.mp new, hit]⟩
  · rintro ⟨name, there, hit⟩
    cases known : knownExtKeyUsage name with
    | some oid' =>
      rw [known] at hit
      exact .inl ⟨name, there, hit ▸ known⟩
    | none =>
      rw [known] at hit
      exact .inr ⟨name, ⟨there, by rw [known]; rfl⟩, hit⟩

theorem mem_leafExtKeyUsage {names : List String} {ekus : List Oid} {oid : Oid}
    (named : leafExtKeyUsage names = .ok ekus) (nonempty : names ≠ []) :
    oid ∈ ekus ↔ ∃ name ∈ names, extKeyUsageOid name = some oid := by
  unfold leafExtKeyUsage at named
  rw [if_neg (by rwa [List.isEmpty_iff])] at named
  exact mem_usagesOf named

/-- A request without the hybrid extension is named after its key. -/
theorem Csr.keyAlgorithm_of_ne (classical : csr.keyAlgorithm ≠ hybridAlgorithm) :
    csr.keyAlgorithm = csr.publicKey.describe.1 := by
  unfold Csr.keyAlgorithm at classical ⊢
  split
  next proof here => simp [here] at classical
  next => rfl

theorem inspectCsr_valid {info : CsrInfo} (seen : inspectCsr (.valid csr) = .ok info) :
    info.keyAlgorithm = csr.keyAlgorithm ∧ info.keyBits = csr.publicKey.describe.2 ∧
      info.dnsNames = csr.dnsNames ∧ info.ipAddresses = csr.ipAddresses ∧
      info.emailAddresses = csr.emailAddresses ∧ info.uris = csr.uris := by
  obtain ⟨ekus, -, seen⟩ := bind_ok.mp seen
  split at seen
  next => cases seen
  next =>
    cases seen
    exact ⟨rfl, rfl, rfl, rfl, rfl, rfl⟩

/-- The leaf that is signed for a request. -/
structure IsLeafOf (lib : Library) (prof : LeafProfile) (csr : Csr) (ttl : Duration) (now : Int)
    (leaf : Leaf) : Prop where
  permitted : prof.Permits lib csr ttl
  ekus : leafExtKeyUsage prof.allowedExtKeyUsage = .ok leaf.ekus
  publicKey : leaf.publicKey = csr.publicKey
  dns : leaf.dnsNames = csr.dnsNames
  ip : leaf.ipAddresses = csr.ipAddresses
  email : leaf.emailAddresses = csr.emailAddresses
  uri : leaf.uris = csr.uris
  notBefore : leaf.notBefore = now - 60 * second
  notAfter : leaf.notAfter = now + ttl

theorem signLeafFromCsrWithProfile_isLeafOf
    (signed : signLeafFromCsrWithProfile lib issuer now der ttl prof = .ok leaf) :
    ∃ csr, der = .valid csr ∧ leaf.hybrid = false ∧ IsLeafOf lib prof csr ttl now leaf := by
  unfold signLeafFromCsrWithProfile at signed
  obtain ⟨-, -, signed⟩ := bind_ok.mp signed
  cases der with
  | unparseable | unsigned => cases signed
  | valid csr =>
    simp only [bind_ok, mapError_eq_ok] at signed
    obtain ⟨_, pass, ekus, named, _, _, ⟨⟩⟩ := signed
    exact ⟨csr, rfl, rfl, enforceLeafProfile_permits pass, named, rfl, rfl, rfl, rfl, rfl, rfl, rfl⟩

theorem signHybridLeafFromCsrWithProfile_isLeafOf
    (signed : signHybridLeafFromCsrWithProfile lib issuer now der ttl prof = .ok leaf) :
    ∃ csr, der = .valid csr ∧ leaf.hybrid ∧ csr.publicKey = .ecdsa 256 ∧
      IsLeafOf lib prof csr ttl now leaf := by
  unfold signHybridLeafFromCsrWithProfile at signed
  cases der with
  | unparseable | unsigned => cases signed
  | valid csr =>
    simp only [bind_ok] at signed
    obtain ⟨_, key, _, _, leaf, made, ⟨⟩⟩ := signed
    obtain ⟨csr', same, -, isLeaf⟩ := signLeafFromCsrWithProfile_isLeafOf made
    cases same
    refine ⟨csr, rfl, rfl, ?_, { isLeaf with }⟩
    cases found : csr.publicKey with
    | ecdsa bits =>
      rw [found] at key
      rw [demand_eq_ok.mp key]
    | rsa | ed25519 | other =>
      rw [found] at key
      cases key

end Trustctl.Issuing
