import Trustctl.Issuing.Domains
import Trustctl.Issuing.Leaf

/-!
# CA certificates

`hierarchy_ca.go`: how CA certificates of a private hierarchy are signed, and what is verified of
those that are imported.  A certificate's bytes are identified with what they parse to; a key held
by the signer is named by its handle.

* `signIntermediateHierarchyCa_eq_ok`: what is known of an intermediate;
* `verifyImportedCaChain_eq_ok`: what is known of an imported chain.
-/

namespace Trustctl.Issuing

open Systems

/-! ## Certificates -/

/-- A key, held by the signer under a handle or by someone else. -/
inductive Key
  | held (handle : String)
  | outside (n : Nat)
deriving DecidableEq

structure CaCert where
  serial : String
  commonName : String
  key : Key
  signedBy : Key
  /-- In seconds, as certificates keep it. -/
  notBefore : Int
  notAfter : Int
  /-- `IsCA`, with valid basic constraints. -/
  isCa : Bool
  /-- `KeyUsageCertSign`. -/
  certSign : Bool
  maxPathLen : Option Nat
  permittedDnsDomains : List String
  ekus : List Oid
  wellFormed : permittedDnsDomains.all wellFormedDomain
deriving DecidableEq

/-- What a certificate keeps of an instant. -/
def inSeconds (t : Int) : Int := t / second

structure HierarchyCaProfile where
  commonName : String
  permittedDnsDomains : List String
  /-- Negative is no limit. -/
  maxPathLen : Int
  ekus : List String
  ttl : Duration

/-- `IssuedHierarchyCA`: the certificate, and what the caller records of it. -/
structure IssuedHierarchyCa where
  certificate : CaCert
  maxPathLen : Int
  permittedDnsDomains : List String
  ekus : List String

def hierarchyUsageName (oid : Oid) : Option String :=
  ((extKeyUsageDefs.take 5).find? fun d => d.2 = oid).map Prod.fst

/-- `extKeyUsageStrings`: a usage without one of the five names is dropped. -/
def extKeyUsageStrings (usages : List Oid) : List String := usages.filterMap hierarchyUsageName

def caExtKeyUsage : List String → Except String (List Oid) :=
  usagesOf fun name => "unsupported CA extended key usage " ++ name.quote

/-! ## Signing -/

def defaultHierarchyRootTtl : Duration := 10 * 365 * 24 * 3600 * second

def defaultHierarchyCaTtl : Duration := 5 * 365 * 24 * 3600 * second

/-- What a signature draws: the clock at its three readings, the serial number, and whether the
signer has the keys and signs and the certificate encodes. -/
structure Draw where
  /-- `time.Now` where the lifetime is compared with the parent's. -/
  compared : Int
  /-- `time.Until` where it is cut. -/
  cut : Int
  /-- `time.Now` of the template. -/
  now : Int
  serial : String
  outcome : Except String Unit := .ok ()

/-- `signHierarchyCA`: `signer` signs for `subject`, under `issuer` unless the certificate is its
own issuer. -/
def signHierarchyCa (signer subject : Key) (issuer : Option CaCert) (profile : HierarchyCaProfile)
    (draw : Draw) : Except String IssuedHierarchyCa := do
  demand (profile.commonName ≠ "") "crypto: CA common name is required"
  demand (0 < profile.ttl) "crypto: CA TTL must be positive"
  let ekus ← caExtKeyUsage profile.ekus
  draw.outcome
  demand (issuer.all fun parent => parent.key = signer)
    "crypto: sign CA certificate: x509: provided PrivateKey doesn't match parent's PublicKey"
  if wellFormed : profile.permittedDnsDomains.all wellFormedDomain = true then
    .ok {
      certificate := {
        serial := draw.serial, commonName := profile.commonName, key := subject, signedBy := signer
        notBefore := inSeconds (draw.now - 60 * second)
        notAfter := inSeconds (draw.now + profile.ttl)
        isCa := true, certSign := true
        maxPathLen := if 0 ≤ profile.maxPathLen then some profile.maxPathLen.toNat else none
        permittedDnsDomains := profile.permittedDnsDomains, ekus, wellFormed }
      maxPathLen := profile.maxPathLen
      permittedDnsDomains := profile.permittedDnsDomains
      ekus := profile.ekus }
  else .error "x509: failed to parse dnsName constraint"

def selfSignedHierarchyCa (signer : Key) (profile : HierarchyCaProfile) (draw : Draw) :
    Except String IssuedHierarchyCa :=
  let ttl := if profile.ttl ≤ 0 then defaultHierarchyRootTtl else profile.ttl
  signHierarchyCa signer signer none { profile with ttl } draw

/-- The lifetime of an intermediate: the default if none is asked for, and cut to end with the
parent. -/
def intermediateTtl (parent : CaCert) (ttl : Duration) (draw : Draw) : Duration :=
  let ttl := if ttl ≤ 0 then defaultHierarchyCaTtl else ttl
  if parent.notAfter * second < draw.compared + ttl then parent.notAfter * second - draw.cut
  else ttl

/-- The path length of an intermediate under a parent that has one to give. -/
def intermediatePathLen (parent : Option Nat) (maxPathLen : Int) : Int :=
  match parent with
  | none => maxPathLen
  | some p => if 0 ≤ maxPathLen ∧ maxPathLen < (p : Int) - 1 then maxPathLen else (p : Int) - 1

/-- The profile an intermediate is signed with: what it leaves open is the parent's. -/
def intermediateProfile (parent : CaCert) (profile : HierarchyCaProfile) (draw : Draw) :
    HierarchyCaProfile where
  commonName := profile.commonName
  permittedDnsDomains :=
    if profile.permittedDnsDomains = [] then parent.permittedDnsDomains
    else profile.permittedDnsDomains
  maxPathLen := intermediatePathLen parent.maxPathLen profile.maxPathLen
  ekus := if profile.ekus = [] then extKeyUsageStrings parent.ekus else profile.ekus
  ttl := intermediateTtl parent profile.ttl draw

def signIntermediateHierarchyCa (parent : CaCert) (parentSigner child : Key)
    (profile : HierarchyCaProfile) (draw : Draw) : Except String IssuedHierarchyCa := do
  demand (parent.maxPathLen ≠ some 0) "crypto: parent CA path-length constraint is exhausted"
  signHierarchyCa parentSigner child (some parent) (intermediateProfile parent profile draw) draw

structure CaCsr where
  commonName : String
  key : Key
deriving DecidableEq

inductive CaCsrDer
  | unparseable (err : String)
  | unsigned (err : String)
  | valid (csr : CaCsr)
deriving DecidableEq

def signIntermediateHierarchyCaFromCsr (parent : CaCert) (parentSigner : Key)
    (profile : HierarchyCaProfile) (draw : Draw) : CaCsrDer → Except String IssuedHierarchyCa
  | .unparseable err => .error ("crypto: parse intermediate CSR: " ++ err)
  | .unsigned err => .error ("crypto: verify intermediate CSR signature: " ++ err)
  | .valid csr =>
    let commonName := if profile.commonName = "" then csr.commonName else profile.commonName
    signIntermediateHierarchyCa parent parentSigner csr.key { profile with commonName } draw

/-! ## Verifying -/

def verifyCaUsable (now : Int) (label : String) (cert : CaCert) : Except String Unit := do
  demand (cert.isCa) ("crypto: " ++ label ++ " is not a valid CA certificate")
  demand (cert.notBefore * second ≤ now ∧ now ≤ cert.notAfter * second)
    ("crypto: " ++ label ++ " is not currently valid")
  demand (cert.certSign) ("crypto: " ++ label ++ " is missing keyCertSign usage")

/-- `CheckSignatureFrom`, of a parent that is a usable CA. -/
def CaCert.signedFrom (cert parent : CaCert) : Bool := cert.signedBy = parent.key

def verifyChildPathLen (parent child : CaCert) : Except String Unit :=
  match parent.maxPathLen, child.maxPathLen with
  | none, _ => .ok ()
  | some 0, _ => .error "crypto: offline root path-length constraint is exhausted"
  | some _, none => .error "crypto: offline-signed intermediate is missing path-length constraint"
  | some p, some c =>
    demand (c ≤ p - 1) "crypto: offline-signed intermediate path-length exceeds offline root"

def verifyImportedProfile (cert : CaCert) (profile : HierarchyCaProfile) : Except String Unit := do
  demand (profile.commonName = "" ∨ cert.commonName = profile.commonName)
    ("crypto: imported CA common name " ++ cert.commonName.quote ++
      " does not match ceremony profile " ++ profile.commonName.quote)
  demand (0 ≤ profile.maxPathLen → cert.maxPathLen ≠ none)
    "crypto: imported CA is missing path-length constraint"
  demand (0 ≤ profile.maxPathLen → cert.maxPathLen = some profile.maxPathLen.toNat)
    ("crypto: imported CA max_path_len " ++ toString (cert.maxPathLen.getD 0) ++
      " does not match ceremony profile " ++ toString profile.maxPathLen)
  demand (profile.permittedDnsDomains = [] ∨
      profile.permittedDnsDomains.isPerm cert.permittedDnsDomains)
    "crypto: imported CA permitted DNS domains do not match ceremony profile"
  demand (profile.ekus = [] ∨ profile.ekus.isPerm (extKeyUsageStrings cert.ekus))
    "crypto: imported CA extended key usages do not match ceremony profile"

def hierarchyResultFromCert (cert : CaCert) : IssuedHierarchyCa where
  certificate := cert
  maxPathLen := match cert.maxPathLen with | some n => n | none => -1
  permittedDnsDomains := cert.permittedDnsDomains
  ekus := extKeyUsageStrings cert.ekus

def verifyImportedOfflineRoot (now : Int) (cert : CaCert) (profile : HierarchyCaProfile) :
    Except String IssuedHierarchyCa := do
  verifyCaUsable now "offline root" cert
  demand (cert.signedFrom cert) "crypto: offline root is not self-signed"
  verifyImportedProfile cert profile
  .ok (hierarchyResultFromCert cert)

def verifyOfflineSignedIntermediate (now : Int) (parent cert : CaCert) (signer : Key)
    (profile : HierarchyCaProfile) : Except String IssuedHierarchyCa := do
  verifyCaUsable now "offline parent root" parent
  verifyCaUsable now "offline-signed intermediate" cert
  demand (cert.signedFrom parent) "crypto: intermediate is not signed by offline root"
  verifyChildPathLen parent cert
  demand (cert.notAfter ≤ parent.notAfter) "crypto: intermediate outlives offline root"
  demand (cert.key = signer) "crypto: intermediate public key does not match signer-held key"
  verifyImportedProfile cert profile
  .ok (hierarchyResultFromCert cert)

/-- The loop of `VerifyImportedCAChain` over a chain and its root: `i` is the position of the
first certificate. -/
def verifyChainLinks (i : Nat) : CaCert → List CaCert → Except String Unit
  | root, [] => demand (root.signedFrom root) "crypto: imported CA chain root is not self-signed"
  | child, parent :: rest => do
    demand (child.signedFrom parent) ("crypto: imported CA chain certificate " ++ toString i ++
      " is not signed by certificate " ++ toString (i + 1))
    verifyChildPathLen parent child
    demand (child.notAfter ≤ parent.notAfter)
      ("crypto: imported CA chain certificate " ++ toString i ++ " outlives issuer")
    verifyChainLinks (i + 1) parent rest

inductive AuthorityKind
  | root
  | intermediate
deriving DecidableEq

/-- `VerifyImportedCAChain`, on a chain that is not empty. -/
def verifyImportedCaChain (now : Int) (cert : CaCert) (above : List CaCert) (signer : Key)
    (profile : HierarchyCaProfile) : Except String (IssuedHierarchyCa × AuthorityKind) := do
  Systems.each (verifyCaUsable now "imported CA chain certificate") (cert :: above)
  demand (cert.key = signer) "crypto: imported CA public key does not match signer-held key"
  verifyImportedProfile cert profile
  if above = [] then
    demand (cert.signedFrom cert) "crypto: imported root is not self-signed"
    .ok (hierarchyResultFromCert cert, .root)
  else
    verifyChainLinks 0 cert above
    .ok (hierarchyResultFromCert cert, .intermediate)

/-! ## What is known of a certificate -/

/-- The certificate that is signed under a profile. -/
structure IsHierarchyCa (profile : HierarchyCaProfile) (now : Int) (issued : IssuedHierarchyCa) :
    Prop where
  dns : issued.certificate.permittedDnsDomains = profile.permittedDnsDomains
  ekus : caExtKeyUsage profile.ekus = .ok issued.certificate.ekus
  maxPathLen : issued.certificate.maxPathLen =
    if 0 ≤ profile.maxPathLen then some profile.maxPathLen.toNat else none
  notAfter : issued.certificate.notAfter = inSeconds (now + profile.ttl)
  rowDns : issued.permittedDnsDomains = profile.permittedDnsDomains
  rowEkus : issued.ekus = profile.ekus

/-- The CA below leaves the path length of the CA above it intact. -/
def PathBelow (child parent : CaCert) : Prop :=
  ∀ p, parent.maxPathLen = some p → ∃ c, child.maxPathLen = some c ∧ c + 1 ≤ p

/-- The readings of the clock during one signature are less than a second apart. -/
def Draw.Prompt (draw : Draw) : Prop :=
  draw.now < draw.compared + second ∧ draw.now < draw.cut + second

instance (draw : Draw) : Decidable draw.Prompt := inferInstanceAs (Decidable (_ ∧ _))

section Signed

variable {signer subject : Key} {issuer : Option CaCert} {profile : HierarchyCaProfile}
  {draw : Draw} {issued : IssuedHierarchyCa} {parent child : CaCert}

theorem signHierarchyCa_isHierarchyCa
    (signed : signHierarchyCa signer subject issuer profile draw = .ok issued) :
    IsHierarchyCa profile draw.now issued := by
  simp only [signHierarchyCa, bind_ok, demand_eq_ok] at signed
  obtain ⟨-, -, -, -, ekus, named, -, -, -, -, signed⟩ := signed
  split at signed
  next =>
    cases signed
    exact ⟨rfl, named, rfl, rfl, rfl, rfl⟩
  next => cases signed

theorem signIntermediateHierarchyCa_eq_ok
    (signed : signIntermediateHierarchyCa parent signer subject profile draw = .ok issued) :
    parent.maxPathLen ≠ some 0 ∧
      IsHierarchyCa (intermediateProfile parent profile draw) draw.now issued := by
  simp only [signIntermediateHierarchyCa, bind_ok, demand_eq_ok] at signed
  obtain ⟨-, left, signed⟩ := signed
  exact ⟨left, signHierarchyCa_isHierarchyCa signed⟩

/-- An intermediate leaves its parent's path length intact. -/
theorem intermediate_pathBelow
    (signed : signIntermediateHierarchyCa parent signer subject profile draw = .ok issued) :
    PathBelow issued.certificate parent := by
  intro p limit
  obtain ⟨left, isCa⟩ := signIntermediateHierarchyCa_eq_ok signed
  have pos : p ≠ 0 := by
    rintro rfl
    exact left limit
  have length : intermediatePathLen (some p) profile.maxPathLen ≤ (p : Int) - 1 ∧
      0 ≤ intermediatePathLen (some p) profile.maxPathLen := by
    unfold intermediatePathLen
    dsimp only
    split <;> omega
  refine ⟨(intermediatePathLen (some p) profile.maxPathLen).toNat, ?_, by omega⟩
  have granted : (intermediateProfile parent profile draw).maxPathLen =
      intermediatePathLen (some p) profile.maxPathLen := by
    show intermediatePathLen parent.maxPathLen profile.maxPathLen = _
    rw [limit]
  rw [isCa.maxPathLen, granted, if_pos length.2]

/-- What is less than a second past a whole second falls into it. -/
theorem inSeconds_le {t n : Int} (early : t < n * second + second) : inSeconds t ≤ n := by
  unfold inSeconds second at *
  omega

/-- An intermediate does not outlive its parent, if it is signed promptly. -/
theorem intermediate_notAfter
    (signed : signIntermediateHierarchyCa parent signer subject profile draw = .ok issued)
    (prompt : draw.Prompt) : issued.certificate.notAfter ≤ parent.notAfter := by
  obtain ⟨-, isCa⟩ := signIntermediateHierarchyCa_eq_ok signed
  rw [isCa.notAfter]
  refine inSeconds_le ?_
  show (draw.now + intermediateTtl parent profile.ttl draw : Int) < _
  unfold intermediateTtl
  obtain ⟨afterCompared, afterCut⟩ := prompt
  generalize (if profile.ttl ≤ 0 then defaultHierarchyCaTtl else profile.ttl) = ttl
  dsimp only
  split
  next => omega
  next => omega

end Signed

section Verified

variable {now : Int} {parent child cert : CaCert} {above : List CaCert} {signer : Key}
  {profile : HierarchyCaProfile} {issued : IssuedHierarchyCa} {u : Unit}

theorem verifyChildPathLen_pathBelow (pass : verifyChildPathLen parent child = .ok u) :
    PathBelow child parent := by
  intro p limit
  unfold verifyChildPathLen at pass
  rw [limit] at pass
  split at pass
  next => contradiction
  next => cases pass
  next => cases pass
  next p' c pos same has =>
    cases same
    have bound := demand_eq_ok.mp pass
    have : p ≠ 0 := pos
    exact ⟨c, has, by omega⟩

theorem verifyOfflineSignedIntermediate_eq_ok
    (pass : verifyOfflineSignedIntermediate now parent cert signer profile = .ok issued) :
    issued = hierarchyResultFromCert cert ∧ PathBelow cert parent ∧
      cert.notAfter ≤ parent.notAfter := by
  simp only [verifyOfflineSignedIntermediate, bind_ok, demand_eq_ok] at pass
  obtain ⟨-, -, -, -, -, -, _, path, -, lifetime, -, -, -, -, ⟨⟩⟩ := pass
  exact ⟨rfl, verifyChildPathLen_pathBelow path, lifetime⟩

/-- Every certificate of a chain keeps within the path length and the lifetime of the next. -/
def ChainKeeps : List CaCert → Prop :=
  List.IsChain fun child parent => PathBelow child parent ∧ child.notAfter ≤ parent.notAfter

theorem verifyChainLinks_chainKeeps {i : Nat} (pass : verifyChainLinks i cert above = .ok u) :
    ChainKeeps (cert :: above) := by
  induction above generalizing i cert with
  | nil => exact .singleton _
  | cons parent rest ih =>
    simp only [verifyChainLinks, bind_ok, demand_eq_ok] at pass
    obtain ⟨-, -, _, path, -, lifetime, others⟩ := pass
    exact List.isChain_cons_cons.mpr ⟨⟨verifyChildPathLen_pathBelow path, lifetime⟩, ih others⟩

theorem verifyImportedCaChain_eq_ok {kind : AuthorityKind}
    (pass : verifyImportedCaChain now cert above signer profile = .ok (issued, kind)) :
    issued = hierarchyResultFromCert cert ∧ ChainKeeps (cert :: above) := by
  simp only [verifyImportedCaChain, bind_ok, demand_eq_ok] at pass
  obtain ⟨-, -, -, -, -, -, pass⟩ := pass
  split at pass
  next alone =>
    obtain ⟨-, -, ⟨⟩⟩ := bind_ok.mp pass
    subst alone
    exact ⟨rfl, .singleton _⟩
  next =>
    obtain ⟨_, links, ⟨⟩⟩ := bind_ok.mp pass
    exact ⟨rfl, verifyChainLinks_chainKeeps links⟩

theorem verifyImportedOfflineRoot_eq_ok
    (pass : verifyImportedOfflineRoot now cert profile = .ok issued) :
    issued = hierarchyResultFromCert cert := by
  simp only [verifyImportedOfflineRoot, bind_ok] at pass
  obtain ⟨-, -, -, -, -, -, ⟨⟩⟩ := pass
  rfl

end Verified

end Trustctl.Issuing
