import Trustctl.Issuing.Names

/-!
# Certificate profiles

`CertificateProfile.Validate`, with the texts of its refusals.  `Accepts` says what a request
has to satisfy, one field for each check; `validate_eq_ok` is the equivalence.

The four loops over subject alternative names, here and in `enforceLeafProfile`, are one
definition: under a policy with any list set, a name of a kind without a list is refused.
-/

namespace Trustctl.Issuing

open Systems

section Sans

variable {α : Type}

/-- The loop over the names of one kind. -/
def checkSans (entries : List String) (sanPolicy : Bool) (unlisted outside : α → String)
    (permitted : α → Except String Bool) : List α → Except String Unit :=
  each fun name =>
    if entries.isEmpty then demand (sanPolicy = false) (unlisted name)
    else do
      let ok ← permitted name
      demand (ok) (outside name)

/-- The name is allowed by the list of its kind, or there is no policy at all. -/
def SanAllowed (entries : List String) (sanPolicy : Bool) (permitted : Except String Bool) : Prop :=
  if entries = [] then sanPolicy = false else permitted = .ok true

theorem checkSans_eq_ok {es : List String} {sanPolicy : Bool} {unlisted outside : α → String}
    {legal : α → Except String Bool} {names : List α} {u : Unit} :
    checkSans es sanPolicy unlisted outside legal names = .ok u ↔
      ∀ name ∈ names, SanAllowed es sanPolicy (legal name) := by
  unfold checkSans SanAllowed
  rw [each_eq_ok]
  cases es with
  | nil | cons => simp

end Sans

/-! ## Profiles -/

structure CertificateProfile where
  name : String := ""
  version : Int := 0
  /-- Empty allows any. -/
  allowedKeyAlgorithms : List String := []
  minRsaBits : Int := 0
  minEcdsaBits : Int := 0
  allowedEkus : List String := []
  /-- Zero is no ceiling. -/
  maxValidity : Duration := 0
  allowedProtocols : List String := []
  allowedDnsSuffixes : List String := []
  allowedIpCidrs : List String := []
  allowedEmailDomains : List String := []
  allowedUriPrefixes : List String := []

/-- `profile.Request`; an address is not told from its text. -/
structure Request where
  keyAlgorithm : String
  keyBits : Int
  requestedEkus : List String
  ttl : Duration
  dnsNames : List String
  ipAddresses : List Ip
  emailAddresses : List String
  uris : List String
  protocol : String

namespace CertificateProfile

def hasSanPolicy (p : CertificateProfile) : Bool :=
  0 < p.allowedDnsSuffixes.length + p.allowedIpCidrs.length + p.allowedEmailDomains.length +
    p.allowedUriPrefixes.length

/-- How refusals name the profile. -/
def id (p : CertificateProfile) : String := "profile " ++ p.name.quote ++ " v" ++ toString p.version

def checkFloor (p : CertificateProfile) (keys : String) (floor bits : Int) : Except String Unit :=
  demand (¬ (0 < floor ∧ bits < floor))
    (p.id ++ " requires " ++ keys ++ " of at least " ++ toString floor ++ " bits, got " ++
      toString bits)

def checkKey (p : CertificateProfile) (algorithm : String) (bits : Int) : Except String Unit :=
  if algorithm = "RSA" then p.checkFloor "RSA keys" p.minRsaBits bits
  else if algorithm = "ECDSA" then p.checkFloor "ECDSA curves" p.minEcdsaBits bits
  else .ok ()

def checkEkus (p : CertificateProfile) : List String → Except String Unit :=
  each fun eku =>
    demand (p.allowedEkus = [] ∨ eku ∈ p.allowedEkus)
      (p.id ++ " does not allow extended key usage " ++ eku.quote ++ " (allowed: " ++
        joined p.allowedEkus ++ ")")

def checkCidrs (lib : Library) (p : CertificateProfile) : Except String Unit :=
  if p.allowedIpCidrs.isEmpty then .ok ()
  else do
    let _ ← (parseCidrSet lib p.allowedIpCidrs).mapError fun err =>
      p.id ++ " has invalid allowed IP CIDR policy: " ++ err

/-- A refusal of a name of a kind without a list. -/
def unlisted (p : CertificateProfile) (kind lists : String) (name : String) : String :=
  p.id ++ " does not permit " ++ kind ++ " SAN " ++ name.quote ++ " (no allowed " ++ lists ++
    " configured)"

def outside (p : CertificateProfile) (kind what : String) (entries : List String)
    (name : String) : String :=
  p.id ++ " does not permit " ++ kind ++ " SAN " ++ name.quote ++ " (allowed " ++ what ++ ": " ++
    joined entries ++ ")"

/-- What the profile makes of an address. -/
def ipPermitted (lib : Library) (p : CertificateProfile) (ip : Ip) : Except String Bool :=
  (ipAllowed lib ip p.allowedIpCidrs).mapError fun err =>
    p.id ++ " cannot evaluate IP SAN " ++ (lib.ipString ip).quote ++ ": " ++ err

def validate (lib : Library) (p : CertificateProfile) (r : Request) : Except String Unit := do
  demand (p.allowedProtocols = [] ∨ r.protocol = "" ∨ r.protocol ∈ p.allowedProtocols)
    (p.id ++ " does not permit enrollment protocol " ++ r.protocol.quote)
  demand (p.allowedKeyAlgorithms = [] ∨ r.keyAlgorithm ∈ p.allowedKeyAlgorithms)
    (p.id ++ " does not allow key algorithm " ++ r.keyAlgorithm.quote ++ " (allowed: " ++
      joined p.allowedKeyAlgorithms ++ ")")
  p.checkKey r.keyAlgorithm r.keyBits
  p.checkEkus r.requestedEkus
  demand (¬ (0 < p.maxValidity ∧ p.maxValidity < r.ttl))
    (p.id ++ " caps validity at " ++ p.maxValidity.string ++ ", requested " ++ r.ttl.string)
  p.checkCidrs lib
  checkSans p.allowedDnsSuffixes p.hasSanPolicy (p.unlisted "DNS" "DNS suffixes")
    (p.outside "DNS" "suffixes" p.allowedDnsSuffixes)
    (fun dns => .ok (suffixAllowed dns p.allowedDnsSuffixes)) r.dnsNames
  checkSans p.allowedIpCidrs p.hasSanPolicy (fun ip => p.unlisted "IP" "IP CIDRs" (lib.ipString ip))
    (fun ip => p.outside "IP" "CIDRs" p.allowedIpCidrs (lib.ipString ip))
    (p.ipPermitted lib) r.ipAddresses
  checkSans p.allowedEmailDomains p.hasSanPolicy (p.unlisted "email" "email domains")
    (p.outside "email" "domains" p.allowedEmailDomains)
    (fun email => .ok (emailAllowed email p.allowedEmailDomains)) r.emailAddresses
  checkSans p.allowedUriPrefixes p.hasSanPolicy (p.unlisted "URI" "URI prefixes")
    (p.outside "URI" "prefixes" p.allowedUriPrefixes)
    (fun uri => .ok (uriPrefixAllowed uri p.allowedUriPrefixes)) r.uris

/-! ## What a valid request satisfies -/

/-- The tenant's floor of the key's size. -/
def MeetsFloor (p : CertificateProfile) (algorithm : String) (bits : Int) : Prop :=
  (algorithm = "RSA" → 0 < p.minRsaBits → p.minRsaBits ≤ bits) ∧
    (algorithm = "ECDSA" → 0 < p.minEcdsaBits → p.minEcdsaBits ≤ bits)

structure Accepts (lib : Library) (p : CertificateProfile) (r : Request) : Prop where
  protocol : p.allowedProtocols = [] ∨ r.protocol = "" ∨ r.protocol ∈ p.allowedProtocols
  algorithm : p.allowedKeyAlgorithms = [] ∨ r.keyAlgorithm ∈ p.allowedKeyAlgorithms
  floor : p.MeetsFloor r.keyAlgorithm r.keyBits
  ekus : ∀ eku ∈ r.requestedEkus, p.allowedEkus = [] ∨ eku ∈ p.allowedEkus
  ceiling : 0 < p.maxValidity → r.ttl ≤ p.maxValidity
  cidrs : ∃ prefixes, parseCidrSet lib p.allowedIpCidrs = .ok prefixes
  dns : ∀ dns ∈ r.dnsNames, SanAllowed p.allowedDnsSuffixes p.hasSanPolicy
    (.ok (suffixAllowed dns p.allowedDnsSuffixes))
  ip : ∀ ip ∈ r.ipAddresses, SanAllowed p.allowedIpCidrs p.hasSanPolicy
    (ipAllowed lib ip p.allowedIpCidrs)
  email : ∀ email ∈ r.emailAddresses, SanAllowed p.allowedEmailDomains p.hasSanPolicy
    (.ok (emailAllowed email p.allowedEmailDomains))
  uri : ∀ uri ∈ r.uris, SanAllowed p.allowedUriPrefixes p.hasSanPolicy
    (.ok (uriPrefixAllowed uri p.allowedUriPrefixes))

variable {lib : Library} {p : CertificateProfile} {r : Request} {u : Unit}

theorem checkKey_eq_ok {alg : String} {bits : Int} :
    p.checkKey alg bits = .ok u ↔ p.MeetsFloor alg bits := by
  unfold checkKey MeetsFloor checkFloor
  split
  next rsa =>
    rw [demand_eq_ok]
    constructor
    · intro floor
      refine ⟨fun _ some => by omega, fun ecdsa => ?_⟩
      exact absurd (rsa.symm.trans ecdsa) (by decide)
    · rintro ⟨floor, -⟩ ⟨some, low⟩
      have := floor rsa some
      omega
  next notRsa =>
    split
    next ecdsa =>
      rw [demand_eq_ok]
      constructor
      · intro floor
        exact ⟨fun rsa => absurd rsa notRsa, fun _ some => by omega⟩
      · rintro ⟨-, floor⟩ ⟨some, low⟩
        have := floor ecdsa some
        omega
    next notEcdsa =>
      exact ⟨fun _ => ⟨fun rsa => absurd rsa notRsa, fun ecdsa => absurd ecdsa notEcdsa⟩,
        fun _ => rfl⟩

theorem checkCidrs_eq_ok :
    p.checkCidrs lib = .ok u ↔ ∃ prefixes, parseCidrSet lib p.allowedIpCidrs = .ok prefixes := by
  unfold checkCidrs
  split
  next none =>
    rw [List.isEmpty_iff] at none
    rw [none]
    exact ⟨fun _ => ⟨[], rfl⟩, fun _ => rfl⟩
  next =>
    simp only [bind_ok, mapError_eq_ok]
    constructor
    · rintro ⟨prefixes, parsed, -⟩
      exact ⟨prefixes, parsed⟩
    · rintro ⟨prefixes, parsed⟩
      exact ⟨prefixes, parsed, rfl⟩

theorem validate_eq_ok : p.validate lib r = .ok u ↔ p.Accepts lib r := by
  simp only [validate, checkEkus, bind_ok, demand_eq_ok, each_eq_ok, checkKey_eq_ok,
    checkCidrs_eq_ok, checkSans_eq_ok, SanAllowed, ipPermitted, mapError_eq_ok]
  constructor
  · rintro ⟨-, proto, -, alg, -, floor, -, ekus, -, ceiling, -, cidrs, -, dns, -, ip, -, email, uri⟩
    exact ⟨proto, alg, floor, ekus, fun some => Int.not_lt.mp fun above => ceiling ⟨some, above⟩,
      cidrs, dns, ip, email, uri⟩
  · rintro ⟨proto, alg, floor, ekus, ceiling, cidrs, dns, ip, email, uri⟩
    exact ⟨(), proto, (), alg, (), floor, (), ekus, (),
      fun both => Int.not_lt.mpr (ceiling both.1) both.2, (), cidrs, (), dns, (), ip,
        (), email, uri⟩

end CertificateProfile

end Trustctl.Issuing
