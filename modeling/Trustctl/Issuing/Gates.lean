import Trustctl.Issuing.Binding
import Trustctl.Systems.Effects

/-!
# Profile gates

The three places where a certificate profile is enforced before a CA is asked to sign:
`IssuanceService.Issue`, the mint of the outbox dispatcher and the mint of the served protocols.
A gate looks the profile up, inspects the request, validates it and records its decision in the
audit log; each of these may fail.

Where a request can go on, what the rest of the platform answers is part of the caller's record
(`IssuanceService`, `Dispatcher`, `ProtocolIssuer`); what a gate reads is the `Platform`.
-/

namespace Trustctl.Issuing

open Systems

/-! ## What gates read and do -/

/-- What `GetActiveProfile` returns; the stored document may fail to decode. -/
inductive Lookup
  | notFound
  | failed (err : String)
  | found (version : Int) (spec : Except String CertificateProfile)

/-- The data of an `issuance.profile_evaluated` event. -/
structure Decision where
  profile : String
  version : Int
  decision : String
  reason : String
  protocol : String

inductive Effect
  /-- The decision is in the audit log. -/
  | audited (tenantId : String) (decision : Decision)
  /-- A row for an external CA is in the outbox. -/
  | enqueued (csr : CsrDer) (ttl : Duration)
  /-- A CA or the signer is asked to sign. -/
  | asked (csr : CsrDer) (ttl : Duration)
  | signed (leaf : Leaf)

/-- The request an effect has signed, or brings on its way to a signature. -/
def Effect.forSigning : Effect → Option (CsrDer × Duration)
  | .enqueued csr ttl => some (csr, ttl)
  | .asked csr ttl => some (csr, ttl)
  | .audited _ _ | .signed _ => none

/-- The tenants' profiles and the audit log, if one is wired. -/
structure Platform where
  lib : Library
  /-- `GetActiveProfile`, by tenant and name. -/
  profiles : String → String → Lookup
  log : Option (Decision → Except String Unit)

def Platform.append (p : Platform) (d : Decision) : Except String Unit :=
  match p.log with
  | none => .ok ()
  | some append => append d

def Platform.audit (p : Platform) (tenantId : String) (d : Decision) : Act Effect String Unit :=
  match p.log with
  | none => pure ()
  | some append => do
    Act.check (append d)
    Act.emit (.audited tenantId d)

/-! ## The issuance service -/

structure IssueRequest where
  tenantId : String
  csr : CsrDer
  dnsNames : List String := []
  ttl : Duration
  profileName : String := ""
  protocol : String := ""
  requestedEkus : List String := []

structure Certificate where
  serial : String
  issuer : String

/-- `IssuanceService`, and what its calls meet. -/
structure IssuanceService extends Platform where
  outboxAuthorityId : String := ""
  /-- The transaction that enqueues a row for the external CA. -/
  enqueue : Except String Unit := .ok ()
  /-- `drainOutbox`, if it is set. -/
  drain : Except String Unit := .ok ()
  /-- The worker's result. -/
  workerResult : Except String Certificate
  /-- The recorded result under the idempotency key. -/
  recorded : Option (Except String Certificate) := none
  ca : IssueRequest → Except String Certificate
  /-- The row that records an issuance. -/
  record : Except String Unit := .ok ()

namespace IssuanceService

variable (s : IssuanceService)

def auditDecision (req : IssueRequest) (version : Int) (decision reason : String) :
    Act Effect String Unit :=
  s.audit req.tenantId
    { profile := req.profileName, version, decision, reason, protocol := req.protocol }

/-- What `enforceProfile` validates: the usages are those of the request, not of the CSR. -/
def profileRequest (req : IssueRequest) (info : CsrInfo) : Request :=
  info.request req.requestedEkus (profileDnsNames info req.dnsNames) req.ttl req.protocol

def enforceProfile (req : IssueRequest) : Act Effect String Unit :=
  if req.profileName = "" then pure ()
  else match s.profiles req.tenantId req.profileName with
    | .notFound =>
        s.auditDecision req 0 "deny" ("profile " ++ req.profileName.quote ++ " not found")
    | .failed err => Act.fail err
    | .found version spec => do
      let prof ← Act.check (spec.mapError fun err =>
        "issuance: decode profile " ++ req.profileName.quote ++ ": " ++ err)
      match inspectCsr req.csr with
      | .error _ => s.auditDecision req version "deny" "unparseable CSR"
      | .ok info =>
        match prof.validate s.lib (profileRequest req info) with
        | .error verr => do
          s.auditDecision req version "deny" verr
          Act.fail verr
        | .ok () => s.auditDecision req version "allow" ""

/-- The row for the external CA. -/
def enqueueIssue (req : IssueRequest) : Act Effect String Unit := do
  Act.check s.enqueue
  Act.emit (.enqueued req.csr req.ttl)

def issueViaOutbox (req : IssueRequest) : Act Effect String Certificate := do
  s.enqueueIssue req
  Act.check s.drain
  Act.check (s.workerResult.mapError fun err =>
    "ca: external CA issue result is not complete: " ++ err)

def issue (req : IssueRequest) : Act Effect String Certificate := do
  s.enforceProfile req
  if s.outboxAuthorityId ≠ "" then s.issueViaOutbox req
  else
    s.enqueueIssue req
    match s.recorded with
    | some result => Act.check result
    | none => do
      Act.emit (.asked req.csr req.ttl)
      let cert ← Act.check (s.ca req)
      Act.check s.record
      pure cert

end IssuanceService

/-! ## The served signer -/

/-- The server's issuing CA at one request. -/
structure Server where
  provisioned : Bool := true
  healthy : Bool := true
  issuer : Issuer := {}
  /-- What ends the wait for the signer, if it does before the signature is there. -/
  wait : Except String Unit := .ok ()
  now : Int

/-- The signature is made on the side; the caller waits for it within bounds. -/
def Server.await (s : Server) (failure : String) (signature : Except String Leaf) :
    Act Effect String Leaf :=
  match signature with
  | .ok leaf => do
    Act.emit (.signed leaf)
    Act.check s.wait
    pure leaf
  | .error err => do
    Act.check s.wait
    Act.fail (failure ++ err)

def Server.ready (s : Server) (unavailable : String) : Except String Unit := do
  demand (s.provisioned) unavailable
  demand (s.healthy) "server: signer unavailable (fail closed)"

def Server.issueLeafWithProfile (s : Server) (lib : Library) (der : CsrDer) (ttl : Duration)
    (prof : LeafProfile) : Act Effect String Leaf := do
  Act.emit (.asked der ttl)
  Act.check (s.ready "server: issuance unavailable — no out-of-process signer (fail closed)")
  s.await "server: issuance failed: " (signLeafFromCsrWithProfile lib s.issuer s.now der ttl prof)

def Server.issueHybridLeafWithProfile (s : Server) (lib : Library) (der : CsrDer) (ttl : Duration)
    (prof : LeafProfile) : Act Effect String Leaf := do
  Act.emit (.asked der ttl)
  Act.check (s.ready "server: hybrid issuance unavailable — no out-of-process signer (fail closed)")
  s.await "server: hybrid issuance failed: "
    (signHybridLeafFromCsrWithProfile lib s.issuer s.now der ttl prof)

/-! ## The mint of the dispatcher -/

/-- `leafTTL` and `protocolLeafTTL`. -/
def leafTtl : Duration := 30 * 24 * 60 * 60 * second

/-- `issuanceDispatcher`, and what its mint meets. -/
structure Dispatcher extends Platform where
  server : Option Server
  defaultProfile : String
  leafProfile : LeafProfile := {}
  /-- The subject key and the request over it. -/
  generate : Except String Unit := .ok ()

namespace Dispatcher

variable (d : Dispatcher)

def auditProfileDecision (tenantId : String) (version : Int) (decision reason : String) :
    Act Effect String Unit :=
  d.audit tenantId { profile := d.defaultProfile, version, decision, reason, protocol := "api" }

def enforceProfile (tenantId : String) (der : CsrDer) (dnsNames : List String) (ttl : Duration) :
    Act Effect String LeafProfile :=
  if d.defaultProfile = "" then pure d.leafProfile
  else match d.profiles tenantId d.defaultProfile with
    | .notFound => do
      let msg := "served default profile " ++ d.defaultProfile.quote ++ " not found"
      d.auditProfileDecision tenantId 0 "deny" msg
      Act.fail ("server: " ++ msg ++ " (fail closed)")
    | .failed err => Act.fail err
    | .found version spec => do
      let prof ← Act.check (spec.mapError fun err =>
        "server: decode profile " ++ d.defaultProfile.quote ++ ": " ++ err)
      match inspectCsr der with
      | .error err => do
        d.auditProfileDecision tenantId version "deny" "unparseable CSR"
        Act.fail ("server: profile " ++ d.defaultProfile.quote ++ ": unparseable CSR: " ++ err)
      | .ok info =>
        let requestedEkus := intendedProfileEkus info.requestedEkus prof.allowedEkus
        match prof.validate d.lib
            (info.request requestedEkus (profileDnsNames info dnsNames) ttl "api") with
        | .error verr => do
          d.auditProfileDecision tenantId version "deny" verr
          Act.fail verr
        | .ok () => do
          d.auditProfileDecision tenantId version "allow" ""
          pure (leafProfileForCertificateProfile d.leafProfile prof requestedEkus)

def mintNames (commonName : String) (dnsNames : List String) : List String :=
  if dnsNames = [] then [commonName] else dnsNames

/-- The request that a mint makes over its fresh key. -/
def mintRequest (commonName : String) (dnsNames : List String) : CsrDer :=
  .valid { commonName, publicKey := .ecdsa 256, dnsNames := mintNames commonName dnsNames }

def mintServedLeafMaterial (tenantId commonName : String) (dnsNames : List String) :
    Act Effect String Leaf :=
  match d.server with
  | none => Act.fail "server: issuing CA is unavailable"
  | some server => do
    Act.check d.generate
    let der := mintRequest commonName dnsNames
    let prof ← d.enforceProfile tenantId der (mintNames commonName dnsNames) leafTtl
    server.issueLeafWithProfile d.lib der leafTtl prof

end Dispatcher

/-! ## The mint of the protocols -/

/-- `protocolIssuer`, and what its mint meets. -/
structure ProtocolIssuer extends Platform where
  server : Option Server
  hybrid : Bool := true
  defaultProfile : String
  leafProfile : LeafProfile := {}
  /-- The recorded result under the idempotency key. -/
  recorded : Option (Except String Leaf) := none
  /-- The certificates recorded under the issuance key, each with its DER if it is stored. -/
  recovered : Except String (List (Option Leaf)) := .ok []
  /-- `RecordCertificate`. -/
  record : Except String Unit := .ok ()
  ensureCrl : Except String Unit := .ok ()

namespace ProtocolIssuer

variable (p : ProtocolIssuer)

/-- `auditProfileDecision`: a lost event is counted, and nothing else. -/
def auditProfileDecision (tenantId protocol : String) (version : Int) (decision reason : String) :
    Act Effect String Unit :=
  let d : Decision := { profile := p.defaultProfile, version, decision, reason, protocol }
  match p.append d with
  | .ok () => if p.log.isSome then Act.emit (.audited tenantId d) else pure ()
  | .error _ => pure ()

def enforceProfile (tenantId protocol : String) (info : CsrInfo) (dnsNames : List String)
    (ttl : Duration) : Act Effect String LeafProfile :=
  if p.defaultProfile = "" then pure p.leafProfile
  else match p.profiles tenantId p.defaultProfile with
    | .notFound => do
      let msg := "served default profile " ++ p.defaultProfile.quote ++ " not found"
      p.auditProfileDecision tenantId protocol 0 "deny" msg
      Act.fail ("server: " ++ msg ++ " (fail closed)")
    | .failed err => Act.fail err
    | .found version spec => do
      let prof ← Act.check (spec.mapError fun err =>
        "server: decode profile " ++ p.defaultProfile.quote ++ ": " ++ err)
      let requestedEkus := intendedProfileEkus info.requestedEkus prof.allowedEkus
      match prof.validate p.lib
          (info.request requestedEkus (profileDnsNames info dnsNames) ttl protocol) with
      | .error verr => do
        p.auditProfileDecision tenantId protocol version "deny" verr
        Act.fail verr
      | .ok () => do
        p.auditProfileDecision tenantId protocol version "allow" ""
        pure (leafProfileForCertificateProfile p.leafProfile prof requestedEkus)

/-- A mint whose key has no certificate yet. -/
def mint (server : Server) (tenantId protocol : String) (der : CsrDer) (ttl : Duration) :
    Act Effect String Leaf := do
  let info ← Act.check ((inspectCsr der).mapError fun err =>
    "server: protocol CSR does not parse: " ++ err)
  let dnsNames :=
    if info.dnsNames = [] ∧ info.commonName ≠ "" then [info.commonName] else info.dnsNames
  let prof ← p.enforceProfile tenantId protocol info dnsNames ttl
  let leaf ←
    if info.keyAlgorithm = hybridAlgorithm then
      if p.hybrid then server.issueHybridLeafWithProfile p.lib der ttl prof
      else Act.fail "server: hybrid protocol issuance unavailable (fail closed)"
    else server.issueLeafWithProfile p.lib der ttl prof
  Act.check p.record
  pure leaf

def recover (server : Server) (tenantId protocol key : String) (der : CsrDer) (ttl : Duration) :
    Act Effect String Leaf := do
  let recovered ← Act.check p.recovered
  match recovered with
  | [] => p.mint server tenantId protocol der ttl
  | [some leaf] => pure leaf
  | [none] => Act.fail ("server: protocol issuance key " ++ key.quote ++
      " recovered certificate without DER")
  | several => Act.fail ("server: protocol issuance key " ++ key.quote ++ " recovered " ++
      toString several.length ++ " certificates, want 1")

/-- The lifetime of a protocol's leaf. -/
def clampTtl (ttl : Duration) : Duration := if ttl ≤ 0 ∨ leafTtl < ttl then leafTtl else ttl

/-- `IssueProtocolLeaf`, under the issuance key. -/
def issueProtocolLeaf (tenantId protocol key : String) (der : CsrDer) (ttl : Duration) :
    Act Effect String Leaf :=
  match p.server with
  | none => Act.fail
      "server: protocol issuance unavailable — no out-of-process signer (fail closed)"
  | some server => do
    Act.check (demand (tenantId ≠ "") "server: protocol issuance requires a tenant (AN-1)")
    let leaf ←
      match p.recorded with
      | some result => Act.check result
      | none => p.recover server tenantId protocol key der (clampTtl ttl)
    Act.check p.ensureCrl
    pure leaf

end ProtocolIssuer

end Trustctl.Issuing
