import Trustctl.Store.Values

/-!
# Rows of the inventory tables

Tenants, owners, issuers, identities and their transitions, certificates, profiles, crypto assets,
deployment targets, agents, and the certificate authority's tables. A row is named after its table,
and a nullable column is an `Option`.  Columns that only the database stamps (`created_at DEFAULT
now()`) appear where a statement of the model reads them.
-/

namespace Trustctl.Store

structure Tenant where
  tenantId : Uuid
  name : String
  eventSeq : Nat

structure Owner where
  id : Uuid
  tenantId : Uuid
  kind : String
  name : String
  email : String
  createdAt : Time

structure Issuer where
  id : Uuid
  tenantId : Uuid
  kind : String
  name : String
  chain : List String
  publicKey : String
  internal : Bool
  createdAt : Time

structure Identity where
  id : Uuid
  tenantId : Uuid
  kind : String
  name : String
  ownerId : Uuid
  issuerId : Option Uuid
  status : String
  notBefore : Option Time
  notAfter : Option Time
  attributes : Json
  createdAt : Time

structure IdentityTransition where
  tenantId : Uuid
  identityId : Uuid
  seq : Nat
  fromState : String
  toState : String
  eventType : String
  reason : String
  occurredAt : Time

structure Certificate where
  id : Uuid
  tenantId : Uuid
  ownerId : Option Uuid
  subject : String
  sans : List String
  issuer : String
  serial : String
  fingerprint : String
  keyAlgorithm : String
  notBefore : Option Time
  notAfter : Option Time
  deploymentLocation : String
  source : String
  certificateDer : String
  issuanceIdempotencyKey : String
  replacesId : Option Uuid
  createdAt : Time
  status : String := "active"
  revokedAt : Option Time := none
  revocationReason : String := ""
  renewedAt : Option Time := none

/-- `certificate_profiles`. -/
structure ProfileRecord where
  id : Uuid
  tenantId : Uuid
  name : String
  version : Int
  spec : Json
  active : Bool
  createdBy : String
  createdAt : Time

structure CryptoAsset where
  id : Uuid
  tenantId : Uuid
  signature : String
  kind : String
  location : String
  algorithm : String
  keyBits : Int
  protocol : String
  cipher : String
  library : String
  strength : String
  quantumVulnerable : Bool
  outOfPolicy : Bool
  reasons : List String
  createdAt : Time

structure DeploymentTarget where
  id : Uuid
  tenantId : Uuid
  name : String
  type : String
  config : Json
  createdAt : Time

/-- `agents`; `createdAt` is stamped by the database. -/
structure Agent where
  id : Uuid
  tenantId : Uuid
  name : String
  status : String
  version : String
  lastSeenAt : Option Time
  createdAt : Time
  offboardedAt : Option Time := none
  offboardedBy : Option String := none
  offboardReason : Option String := none

structure AgentCertRevocation where
  tenantId : Uuid
  agentId : Uuid
  agentName : String
  selectorType : String
  selector : String
  reason : String
  revokedAt : Time

/-- `ssh_keys`, the columns the privacy statements read or write. -/
structure SshKey where
  id : Uuid
  tenantId : Uuid
  comment : String
  location : String
  orphaned : Bool
  createdAt : Time

structure Attestation where
  id : Uuid
  tenantId : Uuid
  identityId : Option Uuid
  evidence : Json
  createdAt : Time

/-! ## Certificate authority -/

structure CaAuthority where
  id : Uuid
  tenantId : Uuid
  parentId : Option Uuid
  commonName : String
  kind : String
  status : String
  certificatePem : String
  signerHandle : Option String
  serial : String
  notAfter : Option Time
  maxPathLen : Int
  permittedDnsNames : List String
  ekus : List String
  replacesId : Option Uuid
  createdAt : Time

structure KeyCeremony where
  id : Uuid
  tenantId : Uuid
  purpose : String
  threshold : Int
  status : String
  opener : String
  createdAt : Time

structure CeremonyApproval where
  tenantId : Uuid
  ceremonyId : Uuid
  custodian : String
  approvedAt : Time
  approvalEventId : Option String
  approvalEventSequence : Option Nat

/-- `ca_issued_certs`. -/
structure IssuedCert where
  tenantId : Uuid
  caId : Uuid
  serial : String
  issuedAt : Time
  revokedAt : Option Time := none
  reasonCode : Int := 0

/-- `ca_crls`. -/
structure Crl where
  tenantId : Uuid
  caId : Uuid
  number : Int
  der : String
  thisUpdate : Time
  nextUpdate : Time
  createdAt : Time
  kind : String
  shardIndex : Int
  shardCount : Int
  deltaBaseNumber : Option Int
  parentNumber : Option Int
  revokedCount : Int

structure OcspResponder where
  tenantId : Uuid
  caId : Uuid
  serial : String
  certDer : String
  notBefore : Time
  notAfter : Time
  rotatedFromSerial : String
  createdAt : Time

end Trustctl.Store
