import Trustctl.Issuing.Gates

/-!
# Enforcement of profiles

What the three gates guarantee.  A gate fails closed if a CA is asked to sign, or a row is
enqueued for one, only for a request that the bound profile accepts, and a request it does not
accept gets an error.

* `gates_fail_closed`: the served mints fail closed; `Issue` does exactly if no refusal of it
  rests on the audit record alone and no usage of the CSR is outside the profile;
* `missing_profile_signed`: `Issue` signs under a profile that does not exist;
* `leaf_complies_iff`: when a served leaf is within the operator's and the tenant's profile;
* `operator_usage_replaced`: a leaf with a usage the operator does not allow.
-/

namespace Trustctl.Issuing

open List Systems

/-- The bound profile exists, decodes and accepts what the CSR asks for. -/
def Accepted (p : Platform) (tenantId name protocol : String) (der : CsrDer) (ttl : Duration) :
    Prop :=
  ∃ version prof info, p.profiles tenantId name = .found version (.ok prof) ∧
    inspectCsr der = .ok info ∧
    prof.validate p.lib (info.request info.requestedEkus info.dnsNames ttl protocol) = .ok ()

/-- Only accepted requests go to a signature, and one that is not accepted gets an error. -/
def FailsClosed {α : Type} (accepted : CsrDer → Duration → Prop) (der : CsrDer) (ttl : Duration)
    (x : Act Effect String α) : Prop :=
  x.Ensures (fun e => ∀ request ∈ e.forSigning, accepted request.1 request.2)
    fun _ => accepted der ttl

section Passing

variable {lib : Library} {prof : CertificateProfile} {info : CsrInfo} {ttl : Duration}
  {protocol : String}

/-- A profile that accepts a request with other usages and further names accepts the CSR, if it
allows the CSR's usages. -/
theorem accepts_csr {ekus dflt : List String}
    (taken : prof.Accepts lib (info.request ekus (profileDnsNames info dflt) ttl protocol))
    (may : ∀ eku ∈ info.requestedEkus, prof.allowedEkus = [] ∨ eku ∈ prof.allowedEkus) :
    prof.Accepts lib (info.request info.requestedEkus info.dnsNames ttl protocol) := by
  refine { taken with ekus := may, dns := fun name there => taken.dns name ?_ }
  have nonempty : info.dnsNames ≠ [] := ne_nil_of_mem there
  rw [profileDnsNames, if_pos nonempty]
  exact there

end Passing

/-- What a served gate has established when it hands out a profile to sign under. -/
def Gated (p : Platform) (tenantId name protocol : String) (base : LeafProfile)
    (fallback : List String) (der : CsrDer) (ttl : Duration) (merged : LeafProfile) : Prop :=
  ∃ version prof info, p.profiles tenantId name = .found version (.ok prof) ∧
    inspectCsr der = .ok info ∧
    prof.Accepts p.lib (info.request (intendedProfileEkus info.requestedEkus prof.allowedEkus)
      (profileDnsNames info fallback) ttl protocol) ∧
    merged = leafProfileForCertificateProfile base prof
      (intendedProfileEkus info.requestedEkus prof.allowedEkus)

theorem Gated.accepted {p : Platform} {tenantId name protocol : String} {base merged : LeafProfile}
    {dflt : List String} {der : CsrDer} {ttl : Duration}
    (gated : Gated p tenantId name protocol base dflt der ttl merged) :
    Accepted p tenantId name protocol der ttl := by
  obtain ⟨ver, prof, info, hit, seen, takes, -⟩ := gated
  refine ⟨ver, prof, info, hit, seen, ?_⟩
  refine CertificateProfile.validate_eq_ok.mpr (accepts_csr takes fun eku there => ?_)
  -- the intended usages include those of the CSR
  have may := takes.ekus
  rw [intendedProfileEkus, if_pos (ne_nil_of_mem there)] at may
  exact may eku there

/-! ## The served gates -/

section Served

variable {P : Effect → Prop}

theorem audit_ensures (audits : ∀ t d, P (.audited t d)) (p : Platform) (tenantId : String)
    (d : Decision) : (p.audit tenantId d).Ensures P fun _ => True := by
  unfold Platform.audit
  split
  next => exact .pure trivial
  next append => exact .bindCheck fun _ _ => .emit (audits ..) trivial

theorem Dispatcher.enforceProfile_ensures (audits : ∀ t d, P (.audited t d)) (d : Dispatcher)
    (bound : d.defaultProfile ≠ "") (tenantId : String) (der : CsrDer) (names : List String)
    (ttl : Duration) :
    (d.enforceProfile tenantId der names ttl).Ensures P
      (Gated d.toPlatform tenantId d.defaultProfile "api" d.leafProfile names der ttl) := by
  have audit (ver : Int) (dec why : String) :
      (d.auditProfileDecision tenantId ver dec why).Ensures P fun _ => True :=
    audit_ensures audits ..
  unfold Dispatcher.enforceProfile
  rw [if_neg bound]
  split
  next => exact .bind (audit ..) fun _ _ => .fail
  next => exact .fail
  next ver spec hit =>
    refine .bindCheck fun prof read => ?_
    cases mapError_eq_ok.mp read
    split
    next => exact .bind (audit ..) fun _ _ => .fail
    next info seen =>
      dsimp only
      split
      next => exact .bind (audit ..) fun _ _ => .fail
      next valid =>
        refine .bind (audit ..) fun _ _ => .pure ⟨ver, prof, info, hit, seen, ?_, rfl⟩
        exact CertificateProfile.validate_eq_ok.mp valid

variable {der : CsrDer}

theorem ProtocolIssuer.enforceProfile_ensures (audits : ∀ t d, P (.audited t d))
    (p : ProtocolIssuer)
    (bound : p.defaultProfile ≠ "") (tenantId protocol : String) {info : CsrInfo}
    (seen : inspectCsr der = .ok info) (names : List String) (ttl : Duration) :
    (p.enforceProfile tenantId protocol info names ttl).Ensures P
      (Gated p.toPlatform tenantId p.defaultProfile protocol p.leafProfile names der ttl) := by
  have audit (ver : Int) (dec why : String) :
      (p.auditProfileDecision tenantId protocol ver dec why).Ensures P fun _ => True := by
    unfold ProtocolIssuer.auditProfileDecision
    dsimp only
    split
    next =>
      split
      next => exact .emit (audits ..) trivial
      next => exact .pure trivial
    next => exact .pure trivial
  unfold ProtocolIssuer.enforceProfile
  rw [if_neg bound]
  split
  next => exact .bind (audit ..) fun _ _ => .fail
  next => exact .fail
  next ver spec hit =>
    refine .bindCheck fun prof read => ?_
    cases mapError_eq_ok.mp read
    dsimp only
    split
    next => exact .bind (audit ..) fun _ _ => .fail
    next valid =>
      refine .bind (audit ..) fun _ _ => .pure ⟨ver, prof, info, hit, seen, ?_, rfl⟩
      exact CertificateProfile.validate_eq_ok.mp valid

/-- The caller may get less than what was signed, and nothing else. -/
theorem Server.await_ensures (s : Server) (failure : String) {signature : Except String Leaf}
    (signs : ∀ leaf, signature = .ok leaf → P (.signed leaf)) :
    (s.await failure signature).Ensures P fun _ => True := by
  unfold Server.await
  split
  next leaf =>
    exact .bindEmit (signs leaf rfl) (.bindCheck fun _ _ => .pure trivial)
  next => exact .bindCheck fun _ _ => .fail

variable {ttl : Duration} {lib : Library}

theorem Server.issueLeafWithProfile_ensures (s : Server) {prof : LeafProfile}
    (asks : P (.asked der ttl))
    (signs : ∀ leaf, signLeafFromCsrWithProfile lib s.issuer s.now der ttl prof = .ok leaf →
      P (.signed leaf)) :
    (s.issueLeafWithProfile lib der ttl prof).Ensures P fun _ => True := by
  exact .bindEmit asks (.bindCheck fun _ _ => s.await_ensures _ signs)

/-- What is known of a leaf that a served mint has signed. -/
def ServedLeaf (lib : Library) (merged : LeafProfile) (der : CsrDer) (ttl : Duration)
    (leaf : Leaf) : Prop :=
  ∃ csr now, der = .valid csr ∧ IsLeafOf lib merged csr ttl now leaf ∧
    leaf.keyAlgorithm = csr.keyAlgorithm ∧
    (csr.keyAlgorithm = hybridAlgorithm → csr.publicKey = .ecdsa 256)

variable {leaf : Leaf}

theorem servedLeaf_of_sign {issuer : Issuer} {now : Int} {csr : Csr} {merged : LeafProfile}
    (classical : csr.keyAlgorithm ≠ hybridAlgorithm)
    (signed : signLeafFromCsrWithProfile lib issuer now (.valid csr) ttl merged = .ok leaf) :
    ServedLeaf lib merged (.valid csr) ttl leaf := by
  obtain ⟨csr', same, hybrid, isLeaf⟩ := signLeafFromCsrWithProfile_isLeafOf signed
  cases same
  refine ⟨csr, now, rfl, isLeaf, ?_, fun is => absurd is classical⟩
  rw [Leaf.keyAlgorithm, hybrid, isLeaf.publicKey, Csr.keyAlgorithm_of_ne classical]
  rfl

variable {tenantId : String}

/-- The mint of the dispatcher: what holds once the gate is passed holds of its signature. -/
theorem Dispatcher.mint_ensures (audits : ∀ t d, P (.audited t d)) (d : Dispatcher)
    (bound : d.defaultProfile ≠ "") {cn : String} {names : List String}
    (gated : LeafProfile → Prop)
    (isGated : gated = Gated d.toPlatform tenantId d.defaultProfile "api" d.leafProfile
      (mintNames cn names) (mintRequest cn names) leafTtl)
    (asks : ∀ merged, gated merged → P (.asked (mintRequest cn names) leafTtl))
    (signs : ∀ merged leaf, gated merged →
      ServedLeaf d.lib merged (mintRequest cn names) leafTtl leaf → P (.signed leaf)) :
    (d.mintServedLeafMaterial tenantId cn names).Ensures P fun _ =>
      ∃ merged, gated merged := by
  subst isGated
  unfold Dispatcher.mintServedLeafMaterial
  split
  next => exact .fail
  next srv _ =>
    refine .bindCheck fun _ _ => ?_
    refine .bind (d.enforceProfile_ensures audits bound ..) fun merged gated => ?_
    have classical : "ECDSA" ≠ hybridAlgorithm := by decide
    have issued := srv.issueLeafWithProfile_ensures (asks merged gated) fun leaf signed =>
      signs merged leaf gated (servedLeaf_of_sign classical signed)
    exact issued.weaken fun _ _ => ⟨merged, gated⟩

theorem ProtocolIssuer.mint_ensures (audits : ∀ t d, P (.audited t d)) (p : ProtocolIssuer)
    (bound : p.defaultProfile ≠ "") (srv : Server) {protocol : String} (gated : LeafProfile → Prop)
    (isGated : gated = fun merged => ∃ dflt, Gated p.toPlatform tenantId p.defaultProfile
      protocol p.leafProfile dflt der ttl merged)
    (asks : ∀ merged, gated merged → P (.asked der ttl))
    (signs : ∀ merged leaf, gated merged → ServedLeaf p.lib merged der ttl leaf →
      P (.signed leaf)) :
    (p.mint srv tenantId protocol der ttl).Ensures P fun _ => ∃ merged, gated merged := by
  subst isGated
  refine .bindCheck fun info inspected => ?_
  replace inspected := mapError_eq_ok.mp inspected
  obtain ⟨csr, rfl⟩ : ∃ csr, der = .valid csr := by
    cases der with
    | unparseable | unsigned => cases inspected
    | valid csr => exact ⟨csr, rfl⟩
  have alg := (inspectCsr_valid inspected).1
  refine .bind (p.enforceProfile_ensures audits bound _ _ inspected _ _) fun merged gated => ?_
  have pass : ∃ dflt, Gated p.toPlatform tenantId p.defaultProfile protocol p.leafProfile
      dflt (.valid csr) ttl merged := ⟨_, gated⟩
  split
  next hybrid =>
    split
    next =>
      refine .bind (.bindEmit (asks merged pass) (.bindCheck fun _ _ => srv.await_ensures _ ?_))
        fun _ _ => .bindCheck fun _ _ => .pure ⟨merged, pass⟩
      intro leaf signed
      obtain ⟨csr', ⟨⟩, isHybrid, curve, isLeaf⟩ := signHybridLeafFromCsrWithProfile_isLeafOf signed
      refine signs merged leaf pass ⟨_, _, rfl, isLeaf, ?_, fun _ => curve⟩
      rw [Leaf.keyAlgorithm, isHybrid, ← alg, hybrid]
      rfl
    next => exact .bindCheck fun _ => nofun
  next classical =>
    have issued := srv.issueLeafWithProfile_ensures (asks merged pass) fun leaf signed =>
      signs merged leaf pass (servedLeaf_of_sign (alg ▸ classical) signed)
    exact issued.bind fun _ _ => .bindCheck fun _ _ => .pure ⟨merged, pass⟩

/-- No earlier certificate answers the request. -/
def ProtocolIssuer.Fresh (p : ProtocolIssuer) : Prop :=
  p.recorded = none ∧ ∀ leaf, p.recovered ≠ .ok [some leaf]

theorem ProtocolIssuer.issueProtocolLeaf_ensures (audits : ∀ t d, P (.audited t d))
    (p : ProtocolIssuer)
    (bound : p.defaultProfile ≠ "") {protocol key : String} (gated : LeafProfile → Prop)
    (isGated : gated = fun merged => ∃ dflt, Gated p.toPlatform tenantId p.defaultProfile
      protocol p.leafProfile dflt der (clampTtl ttl) merged)
    (asks : ∀ merged, gated merged → P (.asked der (clampTtl ttl)))
    (signs : ∀ merged leaf, gated merged → ServedLeaf p.lib merged der (clampTtl ttl) leaf →
      P (.signed leaf)) :
    (p.issueProtocolLeaf tenantId protocol key der ttl).Ensures P fun _ =>
      p.Fresh → ∃ merged, gated merged := by
  unfold ProtocolIssuer.issueProtocolLeaf
  split
  next => exact .fail
  next srv _ =>
    refine .bindCheck fun _ _ => ?_
    split
    next result noted =>
      exact .bindCheck fun _ _ => .bindCheck fun _ _ => .pure fun fresh => nomatch noted ▸ fresh.1
    next =>
      have recovered : (p.recover srv tenantId protocol key der (clampTtl ttl)).Ensures P
          fun _ => p.Fresh → ∃ merged, gated merged := by
        refine .bindCheck fun hit recovered => ?_
        split
        next =>
          exact (p.mint_ensures audits bound srv gated isGated asks signs).weaken
            fun _ minted _ => minted
        next leaf => exact .pure fun fresh => absurd recovered (fresh.2 leaf)
        next => exact .fail
        next => exact .fail
      exact recovered.bind fun _ holds => .bindCheck fun _ _ => .pure holds

end Served

/-! ## The issuance service -/

namespace IssuanceService

variable {s : IssuanceService} {req : IssueRequest}

def decision (req : IssueRequest) (version : Int) (decision reason : String) : Decision :=
  { profile := req.profileName, version, decision, reason, protocol := req.protocol }

theorem auditDecision_result {ver : Int} {verdict why : String} :
    (s.auditDecision req ver verdict why).result = s.append (decision req ver verdict why) := by
  unfold auditDecision Platform.audit Platform.append
  split
  next => rfl
  next append _ =>
    cases appended : append (decision req ver verdict why) with
    | ok u => exact congrArg Act.result (Act.bind_of_ok appended)
    | error err => exact congrArg Act.result (Act.bind_of_error appended)

/-- The gate lets a request pass whose profile is missing or whose CSR does not parse, once that
is on record. -/
theorem enforceProfile_result_ok (bound : req.profileName ≠ "") :
    (s.enforceProfile req).result = .ok () ↔ (s.profiles req.tenantId req.profileName = .notFound ∧
        s.append (decision req 0 "deny" ("profile " ++ req.profileName.quote ++ " not found")) =
          .ok ()) ∨
      ∃ ver prof, s.profiles req.tenantId req.profileName = .found ver (.ok prof) ∧
        ((∃ err, inspectCsr req.csr = .error err ∧
          s.append (decision req ver "deny" "unparseable CSR") = .ok ()) ∨
        ∃ info, inspectCsr req.csr = .ok info ∧
          prof.validate s.lib (profileRequest req info) = .ok () ∧
          s.append (decision req ver "allow" "") = .ok ()) := by
  unfold enforceProfile
  rw [if_neg bound]
  cases found : s.profiles req.tenantId req.profileName with
  | notFound => simp [auditDecision_result]
  | failed err => simp
  | found ver spec =>
    cases spec with
    | error err => simp [Except.mapError]
    | ok prof =>
      cases inspected : inspectCsr req.csr with
      | error err => simp [Except.mapError, auditDecision_result]
      | ok info =>
        cases valid : prof.validate s.lib (profileRequest req info) with
        | error verr => simp [Except.mapError, valid]
        | ok u => simp [Except.mapError, valid, auditDecision_result]

theorem enforceProfile_ensures {P : Effect → Prop} (audits : ∀ t d, P (.audited t d)) :
    (s.enforceProfile req).Ensures P fun _ => True := by
  have audit (ver : Int) (verdict why : String) :
      (s.auditDecision req ver verdict why).Ensures P fun _ => True :=
    audit_ensures audits ..
  unfold enforceProfile
  split
  next => exact .pure trivial
  next =>
    split
    next => exact audit ..
    next => exact .fail
    next =>
      refine .bindCheck fun prof _ => ?_
      split
      next => exact audit ..
      next =>
        split
        next => exact (audit ..).bind fun _ _ => .fail
        next => exact audit ..

/-- Whatever follows the gate concerns the request it has passed. -/
theorem issue_ensures {P : Effect → Prop} {accepted : Prop}
    (gate : (s.enforceProfile req).Ensures P fun _ => accepted)
    (enqueues : accepted → P (.enqueued req.csr req.ttl))
    (asks : accepted → P (.asked req.csr req.ttl)) :
    (s.issue req).Ensures P fun _ => accepted := by
  refine gate.bind fun _ holds => ?_
  have row : (s.enqueueIssue req).Ensures P fun _ => True :=
    .bindCheck fun _ _ => .emit (enqueues holds) trivial
  split
  next => exact row.bind fun _ _ => .bindCheck fun _ _ => .check fun _ _ => holds
  next =>
    refine row.bind fun _ _ => ?_
    split
    next => exact .check fun _ _ => holds
    next => exact .bindEmit (asks holds) (.bindCheck fun _ _ => .bindCheck fun _ _ => .pure holds)

end IssuanceService

/-- No refusal of the request rests on its audit record, and no usage of its CSR is outside the
profile. -/
structure Airtight (p : Platform) (req : IssueRequest) : Prop where
  missing : p.profiles req.tenantId req.profileName = .notFound →
    p.append (IssuanceService.decision req 0 "deny"
      ("profile " ++ req.profileName.quote ++ " not found")) ≠ .ok ()
  unparseable : ∀ version prof err,
    p.profiles req.tenantId req.profileName = .found version (.ok prof) →
    inspectCsr req.csr = .error err →
    p.append (IssuanceService.decision req version "deny" "unparseable CSR") ≠ .ok ()
  usages : ∀ version prof info,
    p.profiles req.tenantId req.profileName = .found version (.ok prof) →
    inspectCsr req.csr = .ok info →
    prof.validate p.lib (IssuanceService.profileRequest req info) = .ok () →
    p.append (IssuanceService.decision req version "allow" "") = .ok () →
      ∀ eku ∈ info.requestedEkus, prof.allowedEkus = [] ∨ eku ∈ prof.allowedEkus

section Issue

variable {p : Platform} {req : IssueRequest}

theorem Airtight.failsClosed (airtight : Airtight p req) (bound : req.profileName ≠ "")
    {s : IssuanceService} (platform : s.toPlatform = p) :
    FailsClosed (Accepted p req.tenantId req.profileName req.protocol) req.csr req.ttl
      (s.issue req) := by
  subst platform
  have audits : (s.enforceProfile req).Ensures (fun e => ∀ request ∈ e.forSigning,
      Accepted s.toPlatform req.tenantId req.profileName req.protocol request.1 request.2)
      fun _ => True :=
    IssuanceService.enforceProfile_ensures fun _ _ _ => nofun
  refine IssuanceService.issue_ensures ⟨audits.effects, fun _ pass => ?_⟩ ?_ ?_
  · rcases (IssuanceService.enforceProfile_result_ok bound).mp pass with
      ⟨gone, added⟩ | ⟨ver, prof, hit, ⟨err, unparseable, added⟩ |
        ⟨info, seen, valid, added⟩⟩
    · exact absurd added (airtight.missing gone)
    · exact absurd added (airtight.unparseable ver prof err hit unparseable)
    · have usages := airtight.usages ver prof info hit seen valid added
      refine ⟨ver, prof, info, hit, seen, ?_⟩
      exact CertificateProfile.validate_eq_ok.mpr
        (accepts_csr (CertificateProfile.validate_eq_ok.mp valid) usages)
  · rintro taken request ⟨⟩
    exact taken
  · rintro taken request ⟨⟩
    exact taken

/-- A service that does nothing wrong after the gate. -/
def working (p : Platform) : IssuanceService where
  toPlatform := p
  workerResult := .ok { serial := "01", issuer := "ca" }
  ca _ := .ok { serial := "01", issuer := "ca" }

theorem airtight_of_failsClosed (bound : req.profileName ≠ "")
    (closed : FailsClosed (Accepted p req.tenantId req.profileName req.protocol) req.csr req.ttl
      ((working p).issue req)) : Airtight p req := by
  have taken (pass : ((working p).enforceProfile req).result = .ok ()) :
      Accepted p req.tenantId req.profileName req.protocol req.csr req.ttl :=
    closed.effects _ (Act.mem_bind_effects.mpr (.inr ⟨(), pass, Act.mem_bind_effects.mpr
      (.inl (Act.mem_bind_effects.mpr (.inr ⟨(), rfl, mem_cons_self⟩)))⟩)) _ rfl
  have gate := IssuanceService.enforceProfile_result_ok (s := working p) bound
  refine ⟨fun gone added => ?_, fun ver prof err hit unparseable added => ?_,
    fun ver prof info hit seen valid added => ?_⟩
  · obtain ⟨ver, prof, info, hit, -⟩ := taken (gate.mpr (.inl ⟨gone, added⟩))
    cases gone.symm.trans hit
  · obtain ⟨-, -, info, -, seen, -⟩ :=
      taken (gate.mpr (.inr ⟨ver, prof, hit, .inl ⟨err, unparseable, added⟩⟩))
    cases unparseable.symm.trans seen
  · obtain ⟨_, prof', info', hit', inspected', valid'⟩ :=
      taken (gate.mpr (.inr ⟨ver, prof, hit, .inr ⟨info, seen, valid, added⟩⟩))
    cases hit.symm.trans hit'
    cases seen.symm.trans inspected'
    exact (CertificateProfile.validate_eq_ok.mp valid').ekus

end Issue

/-! ## Three gates -/

/-- Under a bound profile the mint of the dispatcher fails closed.  That of the protocols asks for
no other signature either, and refuses what is not accepted unless an earlier certificate answers
the request.  `Issue` fails closed, whatever the rest of the platform answers, exactly if the
request is airtight. -/
theorem gates_fail_closed (d : Dispatcher) (q : ProtocolIssuer) (p : Platform)
    (req : IssueRequest) :
    (∀ (tenantId commonName : String) (dnsNames : List String), d.defaultProfile ≠ "" →
        FailsClosed (Accepted d.toPlatform tenantId d.defaultProfile "api")
          (Dispatcher.mintRequest commonName dnsNames) leafTtl
          (d.mintServedLeafMaterial tenantId commonName dnsNames)) ∧
      (∀ (tenantId protocol key : String) (der : CsrDer) (ttl : Duration), q.defaultProfile ≠ "" →
          (q.issueProtocolLeaf tenantId protocol key der ttl).Ensures
            (fun e => ∀ request ∈ e.forSigning,
              Accepted q.toPlatform tenantId q.defaultProfile protocol request.1 request.2)
            fun _ => q.Fresh → Accepted q.toPlatform tenantId q.defaultProfile protocol der
              (ProtocolIssuer.clampTtl ttl)) ∧
      (req.profileName ≠ "" → ((∀ s : IssuanceService, s.toPlatform = p →
          FailsClosed (Accepted p req.tenantId req.profileName req.protocol) req.csr req.ttl
            (s.issue req)) ↔ Airtight p req)) := by
  refine ⟨fun tenantId commonName dnsNames bound => ?_,
    fun tenantId protocol key der ttl bound => ?_, fun bound => ⟨?_, ?_⟩⟩
  · refine (d.mint_ensures (fun _ _ _ => nofun) bound _ rfl ?_ fun _ _ _ _ _ => nofun).weaken ?_
    · rintro merged gated request ⟨⟩
      exact gated.accepted
    · rintro _ ⟨merged, gated⟩
      exact gated.accepted
  · refine (q.issueProtocolLeaf_ensures (fun _ _ _ => nofun) bound _ rfl ?_
      fun _ _ _ _ _ => nofun).weaken ?_
    · rintro merged ⟨dflt, gated⟩ request ⟨⟩
      exact gated.accepted
    · intro _ minted fresh
      obtain ⟨merged, dflt, gated⟩ := minted fresh
      exact gated.accepted
  · exact fun closed => airtight_of_failsClosed bound (closed (working p) rfl)
  · exact fun airtight s platform => airtight.failsClosed bound platform

/-! ### Fixed requests -/

def noAddresses : Library where
  parsePrefix _ := .error "no prefix"
  parseCidr _ := .error "no prefix"
  ipString _ := ""

/-- A tenant's store with the profiles of one name. -/
def storeOf (lookup : Lookup) : Platform where
  lib := noAddresses
  profiles _ _ := lookup
  log := some fun _ => .ok ()

def webProfile : CertificateProfile := { name := "web", allowedEkus := ["serverAuth"] }

def webRequest : IssueRequest where
  tenantId := "t"
  csr := .valid { commonName := "a.example", publicKey := .ecdsa 256 }
  ttl := leafTtl
  profileName := "web"

def webServer : Server := { now := 0 }

/-- A dispatcher that binds its mints to the profile. -/
def webDispatcher (lookup : Lookup) (operator : LeafProfile) : Dispatcher where
  toPlatform := storeOf lookup
  server := some webServer
  defaultProfile := "web"
  leafProfile := operator

def webIssuer (lookup : Lookup) (operator : LeafProfile) : ProtocolIssuer where
  toPlatform := storeOf lookup
  server := some webServer
  defaultProfile := "web"
  leafProfile := operator

/-- A profile that is found, and two paths for which it is missing. -/
theorem web_requests_fail_closed :
    FailsClosed (Accepted (storeOf (.found 1 (.ok webProfile))) "t" "web" "") webRequest.csr leafTtl
        ((working (storeOf (.found 1 (.ok webProfile)))).issue webRequest) ∧
      FailsClosed (Accepted (storeOf .notFound) "t" "web" "api")
        (Dispatcher.mintRequest "a.example" []) leafTtl
        ((webDispatcher .notFound {}).mintServedLeafMaterial "t" "a.example" []) ∧
      FailsClosed (Accepted (storeOf .notFound) "t" "web" "est") webRequest.csr
        (ProtocolIssuer.clampTtl leafTtl)
        ((webIssuer .notFound {}).issueProtocolLeaf "t" "est" "k" webRequest.csr leafTtl) := by
  have airtight : Airtight (storeOf (.found 1 (.ok webProfile))) webRequest := by
    refine ⟨nofun, fun _ _ _ _ => nofun, ?_⟩
    rintro _ _ info ⟨⟩ ⟨⟩ - - eku asked
    cases asked
  have named : "web" ≠ "" := by decide
  have fresh : (webIssuer .notFound {}).Fresh := ⟨rfl, fun leaf recovered => by cases recovered⟩
  obtain ⟨served, minted, issued⟩ := gates_fail_closed (webDispatcher .notFound {})
    (webIssuer .notFound {}) (storeOf (.found 1 (.ok webProfile))) webRequest
  have closed := minted "t" "est" "k" webRequest.csr leafTtl named
  exact ⟨(issued named).mpr airtight _ rfl, served "t" "a.example" [] named,
    closed.weaken fun _ taken => taken fresh⟩

/-- The profile the request is bound to does not exist.  The refusal is recorded, and the
request is enqueued, signed and answered. -/
theorem missing_profile_signed :
    (∃ refusal, ((working (storeOf .notFound)).issue webRequest).effects =
      [.audited "t" refusal, .enqueued webRequest.csr leafTtl, .asked webRequest.csr leafTtl]) ∧
      ((working (storeOf .notFound)).issue webRequest).result =
        .ok { serial := "01", issuer := "ca" } ∧
      ¬ Accepted (storeOf .notFound) "t" webRequest.profileName "" webRequest.csr leafTtl := by
  refine ⟨⟨_, rfl⟩, rfl, ?_⟩
  rintro ⟨ver, prof, info, ⟨⟩, -⟩

/-! ## Two profiles -/

inductive Mint
  | api (d : Dispatcher) (tenantId commonName : String) (dnsNames : List String)
  | protocol (p : ProtocolIssuer) (tenantId protocol key : String) (der : CsrDer) (ttl : Duration)

namespace Mint

def effects : Mint → List Effect
  | .api d tenantId commonName dnsNames =>
    (d.mintServedLeafMaterial tenantId commonName dnsNames).effects
  | .protocol p tenantId name key der ttl =>
    (p.issueProtocolLeaf tenantId name key der ttl).effects

def lib : Mint → Library
  | .api d .. => d.lib
  | .protocol p .. => p.lib

def operator : Mint → LeafProfile
  | .api d .. => d.leafProfile
  | .protocol p .. => p.leafProfile

def profileName : Mint → String
  | .api d .. => d.defaultProfile
  | .protocol p .. => p.defaultProfile

/-- What the store has for the tenant's profile. -/
def tenant : Mint → Lookup
  | .api d tenantId .. => d.profiles tenantId d.defaultProfile
  | .protocol p tenantId .. => p.profiles tenantId p.defaultProfile

def csr : Mint → CsrDer
  | .api _ _ commonName dnsNames => Dispatcher.mintRequest commonName dnsNames
  | .protocol _ _ _ _ der _ => der

def ttl : Mint → Duration
  | .api .. => leafTtl
  | .protocol _ _ _ _ _ ttl => ProtocolIssuer.clampTtl ttl

end Mint

/-- The leaf is within both profiles exactly if these are compatible for the request. -/
def ComplianceDecided (lib : Library) (operator : LeafProfile) (tenant : Lookup) (der : CsrDer)
    (ttl : Duration) (leaf : Leaf) : Prop :=
  ∃ version prof csr info, tenant = .found version (.ok prof) ∧ der = .valid csr ∧
    inspectCsr der = .ok info ∧
    ((operator.Covers lib leaf ∧ prof.Covers lib leaf) ↔
      Compatible operator prof csr (intendedProfileEkus info.requestedEkus prof.allowedEkus) ttl)

theorem Gated.complianceDecided {leaf : Leaf} {p : Platform} {tenantId name protocol : String}
    {base merged : LeafProfile} {dflt : List String} {der : CsrDer} {ttl : Duration}
    (gated : Gated p tenantId name protocol base dflt der ttl merged)
    (served : ServedLeaf p.lib merged der ttl leaf) :
    ComplianceDecided p.lib base (p.profiles tenantId name) der ttl leaf := by
  obtain ⟨ver, prof, info, hit, seen, takes, rfl⟩ := gated
  obtain ⟨csr, now, rfl, isLeaf, named, curve⟩ := served
  exact ⟨ver, prof, csr, info, hit, rfl, seen, complies_iff seen takes isLeaf named curve⟩

/-- A leaf that a served mint signs under a bound profile is within the operator's and the
tenant's profile exactly if the two are compatible for the request. -/
theorem leaf_complies_iff (m : Mint) (bound : m.profileName ≠ "") (leaf : Leaf)
    (signed : .signed leaf ∈ m.effects) :
    ComplianceDecided m.lib m.operator m.tenant m.csr m.ttl leaf := by
  let P (e : Effect) : Prop := ∀ leaf, e = .signed leaf →
    ComplianceDecided m.lib m.operator m.tenant m.csr m.ttl leaf
  suffices decided : ∀ e ∈ m.effects, P e from decided _ signed leaf rfl
  cases m with
  | api d tenantId cn names =>
    refine (d.mint_ensures (fun _ _ _ => nofun) bound _ rfl (fun _ _ _ => nofun) ?_).effects
    rintro merged leaf' gated served leaf ⟨⟩
    exact gated.complianceDecided served
  | protocol p tenantId protocol key der ttl =>
    refine (p.issueProtocolLeaf_ensures (fun _ _ _ => nofun) bound _ rfl (fun _ _ _ => nofun)
      ?_).effects
    rintro merged leaf' ⟨dflt, gated⟩ served leaf ⟨⟩
    exact gated.complianceDecided served

/-! ### Fixed leaves -/

def mintedLeaf (ekus : List Oid) : Leaf where
  commonName := "a.example"
  publicKey := .ecdsa 256
  dnsNames := ["a.example"]
  ipAddresses := []
  emailAddresses := []
  uris := []
  notBefore := -60000000000
  notAfter := leafTtl
  ekus

def serverAuth : Oid := [1, 3, 6, 1, 5, 5, 7, 3, 1]

def clientAuth : Oid := [1, 3, 6, 1, 5, 5, 7, 3, 2]

/-- A mint under the operator's usages and a tenant's profile. -/
def mintUnder (usages : List String) (prof : CertificateProfile) : Mint :=
  .api (webDispatcher (.found 1 (.ok prof)) { allowedExtKeyUsage := usages }) "t" "a.example" []

/-- The API mints a leaf for server authentication. -/
theorem minted_leaf_complies :
    .signed (mintedLeaf [serverAuth]) ∈ (mintUnder ["serverAuth"] webProfile).effects ∧
      ComplianceDecided noAddresses { allowedExtKeyUsage := ["serverAuth"] }
        (.found 1 (.ok webProfile)) (Dispatcher.mintRequest "a.example" []) leafTtl
        (mintedLeaf [serverAuth]) := by
  have signed : .signed (mintedLeaf [serverAuth]) ∈ (mintUnder ["serverAuth"] webProfile).effects :=
    mem_of_getElem? (i := 2) rfl
  exact ⟨signed, leaf_complies_iff (mintUnder ["serverAuth"] webProfile)
    (show "web" ≠ "" by decide) _ signed⟩

/-- The operator allows server authentication, the tenant client authentication: the leaf is for
client authentication. -/
theorem operator_usage_replaced : .signed (mintedLeaf [clientAuth]) ∈
        (mintUnder ["serverAuth"] { name := "web", allowedEkus := ["clientAuth"] }).effects ∧
      ¬ LeafProfile.Covers noAddresses { allowedExtKeyUsage := ["serverAuth"] }
        (mintedLeaf [clientAuth]) := by
  refine ⟨mem_of_getElem? (i := 2) rfl, fun covers => ?_⟩
  rcases covers.ekus clientAuth mem_cons_self with none | ⟨name, there, hit⟩
  · cases none
  · obtain rfl := mem_singleton.mp there
    exact absurd hit (by decide)

end Trustctl.Issuing
