import Trustctl.Store.Values

/-!
# Rows of the discovery, protocol, notification and response tables
-/

namespace Trustctl.Store

structure DiscoverySource where
  id : Uuid
  tenantId : Uuid
  kind : String
  name : String
  config : Json
  createdAt : Time
  updatedAt : Time

structure DiscoverySchedule where
  id : Uuid
  tenantId : Uuid
  sourceId : Uuid
  name : String
  intervalSeconds : Int
  enabled : Bool
  createdAt : Time
  updatedAt : Time

structure DiscoveryRun where
  id : Uuid
  tenantId : Uuid
  sourceId : Uuid
  scheduleId : Option Uuid
  status : String
  dryRun : Bool
  requestedBy : String
  targets : Int := 0
  discovered : Int := 0
  failed : Int := 0
  rejected : Int := 0
  error : String := ""
  startedAt : Option Time := none
  completedAt : Option Time := none
  createdAt : Time

structure DiscoveryFinding where
  id : Uuid
  tenantId : Uuid
  runId : Uuid
  sourceId : Uuid
  kind : String
  ref : String
  provenance : String
  fingerprint : String
  riskScore : Int
  metadata : Json
  discoveredAt : Time
  triageStatus : String := "unmanaged"
  managedIdentityId : Option Uuid := none
  triageActor : String := ""
  triageReason : String := ""
  triagedAt : Option Time := none

structure AcmeDns01ProviderConfig where
  id : Uuid
  tenantId : Uuid
  name : String
  provider : String
  zone : String
  challengeDomain : String
  delegationTarget : String
  credentialRefs : Json
  config : Json
  caaIssuerDomain : String
  allowedMethods : List String
  allowWildcards : Bool
  createdAt : Time
  updatedAt : Time

structure MdmScepPolicy where
  id : Uuid
  tenantId : Uuid
  name : String
  provider : String
  scepProfile : String
  scepEndpoint : String
  expectedAudience : String
  challengeMode : String
  trustAnchorRefs : Json
  profileGuidance : Json
  enabled : Bool
  rotationVersion : Int
  lastRotatedAt : Option Time := none
  createdAt : Time
  updatedAt : Time

structure WorkloadAttesterTrustSource where
  id : Uuid
  tenantId : Uuid
  name : String
  method : String
  issuer : String
  audience : String
  jwks : Json
  rootCertsPem : List String
  expectedNonceBase64 : String
  enabled : Bool
  revokedAt : Option Time := none
  revokedReason : String := ""
  rotationVersion : Int
  lastRotatedAt : Option Time := none
  createdAt : Time
  updatedAt : Time

structure ComplianceReportSchedule where
  id : Uuid
  tenantId : Uuid
  framework : String
  name : String
  reportType : String
  intervalSeconds : Int
  enabled : Bool
  delivery : String
  recipientRef : String
  nextRunAt : Time
  createdAt : Time
  updatedAt : Time

structure SecretRotationSchedule where
  id : Uuid
  tenantId : Uuid
  name : String
  provider : String
  key : String
  oldRef : String
  intervalSeconds : Int
  enabled : Bool
  nextRunAt : Time
  lastRunId : Option Uuid := none
  lastRunAt : Option Time := none
  lastRunStatus : String := ""
  lastNewRef : String := ""
  lastError : String := ""
  createdAt : Time
  updatedAt : Time

structure NotificationChannel where
  tenantId : Uuid
  id : String
  channelType : String
  label : String
  endpointUrl : String
  credentialRef : String
  enabled : Bool
  createdAt : Time
  updatedAt : Time

/-- `notification_routing_policies`; a `none` matrix or default list is JSON `null`. -/
structure NotificationRoutingPolicy where
  id : Uuid
  tenantId : Uuid
  name : String
  channelsBySeverity : Option (List (String × List String))
  defaultChannels : Option (List String)
  ownerRef : String
  ownerEmail : String
  digestInterval : Int
  digestTimezone : String
  createdAt : Time
  updatedAt : Time

structure NotificationThresholdDelivery where
  tenantId : Uuid
  subject : String
  thresholdDays : Int
  channel : String
  firstSentAt : Time
  lastSentAt : Time

/-- `notification_reads`. -/
structure NotificationReadReceipt where
  tenantId : Uuid
  outboxId : Int
  readAt : Time

structure ConnectorDeliveryReceipt where
  id : Uuid
  tenantId : Uuid
  outboxId : Option Int
  identityId : Option Uuid
  destination : String
  connector : String
  target : String
  fingerprint : String
  status : String
  attempts : Int
  reason : String
  detail : String
  rollbackRef : String
  idempotencyKey : String
  createdAt : Time
  updatedAt : Time

/-- `lifecycle_rotation_runs`. -/
structure RotationRun where
  id : Uuid
  tenantId : Uuid
  identityId : Uuid
  outboxId : Option Int
  status : String
  trigger : String
  reason : String
  predecessorFingerprint : String
  successorFingerprint : String
  rollbackRef : String
  error : String
  idempotencyKey : String
  createdAt : Time
  updatedAt : Time
  completedAt : Option Time

structure IncidentExecution where
  id : Uuid
  tenantId : Uuid
  compromisedIdentityId : Uuid
  replacementIdentityId : Option Uuid
  connectorDeliveryId : Option Uuid
  status : String
  phase : String
  reason : String
  blastRadius : Json
  revocationStatus : String
  evidenceBundleFormat : String
  evidenceBundle : String
  failedTargets : List String
  rollbackRefs : List String
  idempotencyKey : String
  createdBy : String
  createdAt : Time
  updatedAt : Time

structure FleetReissuanceBatch where
  index : Int
  status : String
  identityIds : List String
  replacementIdentityIds : List String
  healthGate : String

structure FleetReissuanceHealthGate where
  name : String
  status : String

structure IncidentFleetReissuanceRun where
  id : Uuid
  tenantId : Uuid
  issuerId : Uuid
  status : String
  phase : String
  reason : String
  batchSize : Int
  connector : String
  target : String
  graphImpact : Json
  affectedIdentityIds : List String
  replacementIdentityIds : List String
  revokedIdentityIds : List String
  connectorDeliveryIds : List String
  batches : List FleetReissuanceBatch
  healthGates : List FleetReissuanceHealthGate
  failedTargets : List String
  rollbackRefs : List String
  evidenceBundleFormat : String
  evidenceBundle : String
  idempotencyKey : String
  createdBy : String
  createdAt : Time
  updatedAt : Time

structure RemediationPlaybookRun where
  id : Uuid
  tenantId : Uuid
  playbookId : String
  targetIdentityId : String
  inventoryId : String
  status : String
  phase : String
  action : String
  reason : String
  connector : String
  target : String
  outboxId : Option Int
  connectorDeliveryId : Option Uuid
  scopeDelta : Json
  evidenceRefs : List String
  rollbackRefs : List String
  idempotencyKey : String
  createdBy : String
  createdAt : Time
  updatedAt : Time

end Trustctl.Store
