import Trustctl.Issuing.Leaf

/-!
# The served profile

A served leaf is signed under the operator's profile merged with the tenant's: the lower
ceiling, the tenant's usages in place of the operator's, and a tenant's list of names where the
operator has none.  `complies_iff` says when the leaf satisfies both policies.
-/

namespace Trustctl.Issuing

def intendedProfileEkus (requested allowed : List String) : List String :=
  if requested ≠ [] then requested else if allowed ≠ [] then allowed else []

def fill (operator tenant : List String) : List String :=
  if tenant ≠ [] ∧ operator = [] then tenant else operator

def leafProfileForCertificateProfile (base : LeafProfile) (prof : CertificateProfile)
    (intendedEkus : List String) : LeafProfile where
  maxValidity :=
    if 0 < prof.maxValidity ∧ (base.maxValidity = 0 ∨ prof.maxValidity < base.maxValidity) then
      prof.maxValidity
    else base.maxValidity
  allowedExtKeyUsage := if intendedEkus ≠ [] then intendedEkus else base.allowedExtKeyUsage
  permittedDnsSuffixes := fill base.permittedDnsSuffixes prof.allowedDnsSuffixes
  permittedIpCidrs := fill base.permittedIpCidrs prof.allowedIpCidrs
  permittedEmailDomains := fill base.permittedEmailDomains prof.allowedEmailDomains
  permittedUriPrefixes := fill base.permittedUriPrefixes prof.allowedUriPrefixes

def profileDnsNames (info : CsrInfo) (fallback : List String) : List String :=
  if info.dnsNames ≠ [] then info.dnsNames else fallback

/-- The request that is validated: the key and the other names are those of the CSR. -/
def CsrInfo.request (info : CsrInfo) (requestedEkus dnsNames : List String) (ttl : Duration)
    (protocol : String) : Request where
  keyAlgorithm := info.keyAlgorithm
  keyBits := info.keyBits
  requestedEkus
  ttl
  dnsNames
  ipAddresses := info.ipAddresses
  emailAddresses := info.emailAddresses
  uris := info.uris
  protocol

/-! ## Two policies over one leaf -/

/-- The usage is on the list; an empty list allows all. -/
def EkuAllowed (allowed : List String) (oid : Oid) : Prop :=
  allowed = [] ∨ ∃ name ∈ allowed, extKeyUsageOid name = some oid

/-- How the leaf's key is named. -/
def Leaf.keyAlgorithm (leaf : Leaf) : String :=
  if leaf.hybrid then hybridAlgorithm else leaf.publicKey.describe.1

def Leaf.validity (leaf : Leaf) : Duration := leaf.notAfter - leaf.notBefore

/-- The leaf is within the operator's profile. -/
structure LeafProfile.Covers (lib : Library) (p : LeafProfile) (leaf : Leaf) : Prop where
  ceiling : 0 < p.maxValidity → leaf.validity ≤ p.maxValidity
  ekus : ∀ oid ∈ leaf.ekus, EkuAllowed p.allowedExtKeyUsage oid
  dns : ∀ dns ∈ leaf.dnsNames, SanAllowed p.permittedDnsSuffixes p.sanPolicyConfigured
    (.ok (dnsSuffixPermitted dns p.permittedDnsSuffixes))
  ip : ∀ ip ∈ leaf.ipAddresses, SanAllowed p.permittedIpCidrs p.sanPolicyConfigured
    ((parseLeafCidrs lib p.permittedIpCidrs).map fun cidrs => ipInCidrs ip cidrs)
  email : ∀ email ∈ leaf.emailAddresses, SanAllowed p.permittedEmailDomains p.sanPolicyConfigured
    (.ok (emailDomainPermitted email p.permittedEmailDomains))
  uri : ∀ uri ∈ leaf.uris, SanAllowed p.permittedUriPrefixes p.sanPolicyConfigured
    (.ok (uriPrefixPermitted uri p.permittedUriPrefixes))

/-- The key of the leaf meets the tenant's list and floors. -/
structure CertificateProfile.AllowsKey (p : CertificateProfile) (leaf : Leaf) : Prop where
  algorithm : p.allowedKeyAlgorithms = [] ∨ leaf.keyAlgorithm ∈ p.allowedKeyAlgorithms
  rsa : ∀ bits, leaf.publicKey = .rsa bits → 0 < p.minRsaBits → p.minRsaBits ≤ bits
  ecdsa : ∀ bits, leaf.publicKey = .ecdsa bits → 0 < p.minEcdsaBits → p.minEcdsaBits ≤ bits

/-- The leaf is within the tenant's profile. -/
structure CertificateProfile.Covers (lib : Library) (p : CertificateProfile) (leaf : Leaf) :
    Prop where
  ceiling : 0 < p.maxValidity → leaf.validity ≤ p.maxValidity
  ekus : ∀ oid ∈ leaf.ekus, EkuAllowed p.allowedEkus oid
  dns : ∀ dns ∈ leaf.dnsNames, SanAllowed p.allowedDnsSuffixes p.hasSanPolicy
    (.ok (suffixAllowed dns p.allowedDnsSuffixes))
  ip : ∀ ip ∈ leaf.ipAddresses, SanAllowed p.allowedIpCidrs p.hasSanPolicy
    (ipAllowed lib ip p.allowedIpCidrs)
  email : ∀ email ∈ leaf.emailAddresses, SanAllowed p.allowedEmailDomains p.hasSanPolicy
    (.ok (emailAllowed email p.allowedEmailDomains))
  uri : ∀ uri ∈ leaf.uris, SanAllowed p.allowedUriPrefixes p.hasSanPolicy
    (.ok (uriPrefixAllowed uri p.allowedUriPrefixes))
  key : p.AllowsKey leaf

/-! ## When both hold -/

/-- The margin by which `notBefore` is set back. -/
def backdating : Duration := 60 * second

def LeavesMargin (ceiling ttl : Duration) : Prop := 0 < ceiling → ttl + backdating ≤ ceiling

/-- What the merge would have to keep apart: the operator has a list for every kind of name that
the request has, if it has any list; the intended usages are the operator's; a hybrid key meets
the floor for its curve; and the lifetime leaves the margin under both ceilings. -/
structure Compatible (base : LeafProfile) (prof : CertificateProfile) (csr : Csr)
    (intendedEkus : List String) (ttl : Duration) : Prop where
  operatorMargin : LeavesMargin base.maxValidity ttl
  tenantMargin : LeavesMargin prof.maxValidity ttl
  ekus : ∀ name ∈ intendedEkus, ∀ oid, extKeyUsageOid name = some oid →
    EkuAllowed base.allowedExtKeyUsage oid
  dns : csr.dnsNames ≠ [] → base.sanPolicyConfigured → base.permittedDnsSuffixes ≠ []
  ip : csr.ipAddresses ≠ [] → base.sanPolicyConfigured → base.permittedIpCidrs ≠ []
  email : csr.emailAddresses ≠ [] → base.sanPolicyConfigured → base.permittedEmailDomains ≠ []
  uri : csr.uris ≠ [] → base.sanPolicyConfigured → base.permittedUriPrefixes ≠ []
  floor : csr.keyAlgorithm = hybridAlgorithm → prof.minEcdsaBits ≤ 256

section Merging

variable {lib : Library} {base : LeafProfile} {prof : CertificateProfile} {csr : Csr}
  {requested : List String} {ttl : Duration} {now : Int} {leaf : Leaf}

theorem leaf_validity {p : LeafProfile} (isLeaf : IsLeafOf lib p csr ttl now leaf) :
    leaf.validity = ttl + backdating := by
  unfold Leaf.validity backdating
  rw [isLeaf.notAfter, isLeaf.notBefore]
  show (now + ttl - (now - 60 * second) : Int) = ttl + 60 * second
  omega

theorem fill_of_ne_nil {operator tenant : List String} (some : operator ≠ []) :
    fill operator tenant = operator := if_neg fun both => some both.2

/-- A name that the merged profile permits is within the operator's policy exactly if that has a
list for its kind or no list at all. -/
theorem operatorSan_iff {α : Type} {operator tenant : List String} {merged : Bool} {names : List α}
    (policy : Bool) (legal : List String → α → Except String Bool)
    (pass : ∀ name ∈ names, SanAllowed (fill operator tenant) merged
      (legal (fill operator tenant) name)) :
    (∀ name ∈ names, SanAllowed operator policy (legal operator name)) ↔
      (names ≠ [] → policy → operator ≠ []) := by
  by_cases none : operator = []
  · constructor
    · intro may nonempty configured
      obtain ⟨name, there⟩ := List.exists_mem_of_ne_nil _ nonempty
      have unconfigured := may name there
      rw [SanAllowed, if_pos none, configured] at unconfigured
      cases unconfigured
    · intro cover name there
      rw [SanAllowed, if_pos none]
      exact Bool.eq_false_iff.mpr fun configured =>
        cover (List.ne_nil_of_mem there) configured none
  · refine ⟨fun _ _ _ => none, fun _ name there => ?_⟩
    have may := pass name there
    rw [fill_of_ne_nil none, SanAllowed, if_neg none] at may
    rwa [SanAllowed, if_neg none]

theorem operatorEkus_iff {intended : List String}
    (named : leafExtKeyUsage (if intended ≠ [] then intended else base.allowedExtKeyUsage) =
      .ok leaf.ekus) :
    (∀ oid ∈ leaf.ekus, EkuAllowed base.allowedExtKeyUsage oid) ↔
      ∀ name ∈ intended, ∀ oid, extKeyUsageOid name = some oid →
        EkuAllowed base.allowedExtKeyUsage oid := by
  by_cases nonempty : intended ≠ []
  · rw [if_pos nonempty] at named
    simp only [mem_leafExtKeyUsage named nonempty]
    exact ⟨fun all name there oid hit => all oid ⟨name, there, hit⟩,
      fun all oid ⟨name, there, hit⟩ => all name there oid hit⟩
  · rw [if_neg nonempty] at named
    rw [Decidable.not_not.mp nonempty]
    refine ⟨nofun, fun _ oid listed => ?_⟩
    by_cases any : base.allowedExtKeyUsage = []
    · exact .inl any
    · exact .inr ((mem_leafExtKeyUsage named any).mp listed)

/-- The usages of the leaf are the tenant's, whoever named them. -/
theorem tenantEkus {operator : List String}
    (named : leafExtKeyUsage (if intendedProfileEkus requested prof.allowedEkus ≠ [] then
      intendedProfileEkus requested prof.allowedEkus else operator) = .ok leaf.ekus)
    (taken : ∀ eku ∈ intendedProfileEkus requested prof.allowedEkus,
      prof.allowedEkus = [] ∨ eku ∈ prof.allowedEkus) :
    ∀ oid ∈ leaf.ekus, EkuAllowed prof.allowedEkus oid := by
  intro oid listed
  by_cases any : prof.allowedEkus = []
  · exact .inl any
  · have nonempty : intendedProfileEkus requested prof.allowedEkus ≠ [] := by
      unfold intendedProfileEkus
      split
      next some => exact some
      next => exact any
    rw [if_pos nonempty] at named
    obtain ⟨name, there, hit⟩ := (mem_leafExtKeyUsage named nonempty).mp listed
    exact .inr ⟨name, (taken name there).resolve_left any, hit⟩

/-- A key that passed the tenant's checks meets the floors, unless its request is hybrid: then it
is named after neither algorithm, and no floor applied. -/
theorem tenantKey_iff {r : Request} (taken : prof.Accepts lib r)
    (alg : r.keyAlgorithm = csr.keyAlgorithm) (bits : r.keyBits = csr.publicKey.describe.2)
    (key : leaf.publicKey = csr.publicKey) (named : leaf.keyAlgorithm = csr.keyAlgorithm)
    (curve : csr.keyAlgorithm = hybridAlgorithm → csr.publicKey = .ecdsa 256) :
    prof.AllowsKey leaf ↔ (csr.keyAlgorithm = hybridAlgorithm → prof.minEcdsaBits ≤ 256) := by
  constructor
  · intro allows hybrid
    have floor := allows.ecdsa 256 (key.trans (curve hybrid))
    omega
  · intro floor
    refine ⟨named ▸ alg ▸ taken.algorithm, fun n rsa some => ?_, fun n ecdsa some => ?_⟩
    · rw [key] at rsa
      have other : csr.keyAlgorithm ≠ hybridAlgorithm := fun hybrid => by
        have := rsa.symm.trans (curve hybrid)
        cases this
      have label : r.keyAlgorithm = "RSA" := by rw [alg, Csr.keyAlgorithm_of_ne other, rsa]; rfl
      have size : r.keyBits = n := by rw [bits, rsa]; rfl
      exact size ▸ taken.floor.1 label some
    · rw [key] at ecdsa
      by_cases hybrid : csr.keyAlgorithm = hybridAlgorithm
      · have same := ecdsa.symm.trans (curve hybrid)
        cases same
        exact floor hybrid
      · have label : r.keyAlgorithm = "ECDSA" := by
          rw [alg, Csr.keyAlgorithm_of_ne hybrid, ecdsa]
          rfl
        have size : r.keyBits = n := by rw [bits, ecdsa]; rfl
        exact size ▸ taken.floor.2 label some

/-- A leaf signed under the merged profile, after the tenant's checks, satisfies both policies
exactly if these are compatible for the request. -/
theorem complies_iff {info : CsrInfo} {fallback : List String} {proto : String}
    (seen : inspectCsr (.valid csr) = .ok info)
    (taken : prof.Accepts lib (info.request
      (intendedProfileEkus info.requestedEkus prof.allowedEkus) (profileDnsNames info fallback)
      ttl proto))
    (isLeaf : IsLeafOf lib (leafProfileForCertificateProfile base prof
      (intendedProfileEkus info.requestedEkus prof.allowedEkus)) csr ttl now leaf)
    (named : leaf.keyAlgorithm = csr.keyAlgorithm)
    (curve : csr.keyAlgorithm = hybridAlgorithm → csr.publicKey = .ecdsa 256) :
    (base.Covers lib leaf ∧ prof.Covers lib leaf) ↔
      Compatible base prof csr (intendedProfileEkus info.requestedEkus prof.allowedEkus) ttl := by
  obtain ⟨alg, bits, dns, ip, email, uri⟩ := inspectCsr_valid seen
  have legal := isLeaf.permitted
  have validity := leaf_validity isLeaf
  have ekus := operatorEkus_iff isLeaf.ekus
  have key := tenantKey_iff taken alg bits isLeaf.publicKey named curve
  have dnsIff := operatorSan_iff base.sanPolicyConfigured
    (fun es name => .ok (dnsSuffixPermitted name es)) legal.dns
  have ipIff := operatorSan_iff base.sanPolicyConfigured
    (fun es ip => (parseLeafCidrs lib es).map fun cidrs => ipInCidrs ip cidrs) legal.ip
  have emailIff := operatorSan_iff base.sanPolicyConfigured
    (fun es email => .ok (emailDomainPermitted email es)) legal.email
  have uriIff := operatorSan_iff base.sanPolicyConfigured
    (fun es uri => .ok (uriPrefixPermitted uri es)) legal.uri
  constructor
  · rintro ⟨operator, tenant⟩
    refine ⟨?_, ?_, ekus.mp operator.ekus, dnsIff.mp ?_, ipIff.mp ?_, emailIff.mp ?_,
      uriIff.mp ?_, key.mp tenant.key⟩
    · exact fun cap => validity ▸ operator.ceiling cap
    · exact fun cap => validity ▸ tenant.ceiling cap
    · exact isLeaf.dns ▸ operator.dns
    · exact isLeaf.ip ▸ operator.ip
    · exact isLeaf.email ▸ operator.email
    · exact isLeaf.uri ▸ operator.uri
  · intro fits
    refine ⟨⟨fun cap => ?_, ekus.mpr fits.ekus, ?_, ?_, ?_, ?_⟩,
      ⟨fun cap => ?_, tenantEkus isLeaf.ekus taken.ekus, ?_, ?_, ?_, ?_, key.mpr fits.floor⟩⟩
    · exact validity ▸ fits.operatorMargin cap
    · exact isLeaf.dns ▸ dnsIff.mpr fits.dns
    · exact isLeaf.ip ▸ ipIff.mpr fits.ip
    · exact isLeaf.email ▸ emailIff.mpr fits.email
    · exact isLeaf.uri ▸ uriIff.mpr fits.uri
    · exact validity ▸ fits.tenantMargin cap
    · -- The names that were validated are those of the request, if it has any.
      intro name there
      rw [isLeaf.dns, ← dns] at there
      have validated : name ∈ profileDnsNames info fallback := by
        rw [profileDnsNames, if_pos (List.ne_nil_of_mem there)]
        exact there
      exact taken.dns name validated
    · exact isLeaf.ip ▸ ip ▸ taken.ip
    · exact isLeaf.email ▸ email ▸ taken.email
    · exact isLeaf.uri ▸ uri ▸ taken.uri

end Merging

end Trustctl.Issuing
