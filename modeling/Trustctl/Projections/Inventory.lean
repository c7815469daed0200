import Trustctl.Projections.Envelope
import Trustctl.Relational.Keep
import Trustctl.Store.Sinks.Inventory
import Trustctl.Store.Sinks.Authority

/-!
# Inventory events

The events of owners, issuers, identities, certificates, profiles, crypto assets and
deployment targets: their payloads and the cases of `ApplyTx` that project them.
-/

namespace Trustctl.Projections

open Relational Store List Systems

/-! ## Payloads -/

structure CertificateRecorded where
  id : Uuid
  caId : String := ""
  ownerId : Option Uuid := none
  subject : String
  sans : List String := []
  issuer : String
  serial : String
  fingerprint : String
  keyAlgorithm : String
  notBefore : Option Time := none
  notAfter : Option Time := none
  deploymentLocation : String := ""
  source : String := ""
  replacesId : Option Uuid := none
  certificateDer : String := ""
  issuanceIdempotencyKey : String := ""

structure CertificateRevoked where
  fingerprint : String
  caId : String := ""
  serial : String
  reason : String
  reasonCode : Int := 0
  revokedAt : Time := 0

structure ProfileVersioned where
  id : Uuid
  name : String
  version : Int
  spec : Option Json
  active : Bool
  createdBy : String

/-- `CBOMAssetObserved`; a rollback restores the same facts. -/
structure CryptoFacts where
  kind : String
  location : String
  algorithm : String := ""
  keyBits : Int := 0
  protocol : String := ""
  cipher : String := ""
  library : String := ""
  strength : String
  quantumVulnerable : Bool
  outOfPolicy : Bool
  reasons : List String := []

/-- The fields of `PQCMigrationAssetCompleted` the projector reads. -/
structure PqcMigrationAssetCompleted where
  runId : String
  assetId : Uuid
  kind : String
  location : String
  originalLibrary : String := ""
  effectiveAlgorithm : String
  effectiveKeyBits : Int := 0
  protocol : String

/-- The payload of a lifecycle transition. -/
structure IdentityTransitioned where
  identityId : Uuid
  fromState : String
  toState : String
  reason : String := ""

/-- `lifecycleEventTypes`. -/
inductive Lifecycle
  | issued | deployed | revoked | renewing | renewed | retired
deriving DecidableEq

inductive InventoryEvent
  | ownerCreated (id : Uuid) (kind name email : String)
  | ownerUpdated (id : Uuid) (kind name email : String)
  | ownerDeleted (id : Uuid)
  | issuerCreated (id : Uuid) (kind name : String) (chain : List String) (publicKey : String)
      (internal : Bool)
  | identityCreated (id : Uuid) (kind name : String) (ownerId : Uuid) (issuerId : Option Uuid)
      (attributes : Option Json)
  | identityTransitioned (kind : Lifecycle) (pl : IdentityTransitioned)
  | identityConnectorTargetBound (identityId : Uuid) (targetId connector target route : String)
  | certificateRecorded (pl : CertificateRecorded)
  | certificateRevoked (pl : CertificateRevoked)
  | certificateSuperseded (fingerprint : String) (renewedAt : Time)
  | profileVersioned (created : Bool) (pl : ProfileVersioned)
  | cbomAssetObserved (id : Uuid) (facts : CryptoFacts)
  | pqcMigrationStarted (runId : String) (assetIds : List String)
      (targetAlgorithm protocol : String)
  | pqcMigrationAssetCompleted (pl : PqcMigrationAssetCompleted)
  | pqcMigrationRollbackCompleted (runId : String) (assetId : Uuid) (facts : CryptoFacts)
  | deploymentTargetUpserted (id : Uuid) (name connector : String) (config : Option Json)
  | deploymentTargetDeleted (id : Uuid)

/-! ## Projection -/

def Lifecycle.type : Lifecycle → String
  | .issued => "identity.issued"
  | .deployed => "identity.deployed"
  | .revoked => "identity.revoked"
  | .renewing => "identity.renewing"
  | .renewed => "identity.renewed"
  | .retired => "identity.retired"

def InventoryEvent.type : InventoryEvent → String
  | .ownerCreated .. => "owner.created"
  | .ownerUpdated .. => "owner.updated"
  | .ownerDeleted .. => "owner.deleted"
  | .issuerCreated .. => "issuer.created"
  | .identityCreated .. => "identity.created"
  | .identityTransitioned kind _ => kind.type
  | .identityConnectorTargetBound .. => "identity.connector_target_bound"
  | .certificateRecorded .. => "certificate.recorded"
  | .certificateRevoked .. => "certificate.revoked"
  | .certificateSuperseded .. => "certificate.superseded"
  | .profileVersioned created _ => if created then "profile.created" else "profile.updated"
  | .cbomAssetObserved .. => "cbom.asset.observed"
  | .pqcMigrationStarted .. => "pqc.migration.started"
  | .pqcMigrationAssetCompleted .. => "pqc.migration.asset_completed"
  | .pqcMigrationRollbackCompleted .. => "pqc.migration.rollback_completed"
  | .deploymentTargetUpserted .. => "deployment_target.upserted"
  | .deploymentTargetDeleted .. => "deployment_target.deleted"

def CryptoFacts.asset (f : CryptoFacts) (τ id : Uuid) (createdAt : Time) : CryptoAsset where
  id := id
  tenantId := τ
  signature := cryptoAssetSignature f.kind f.location f.algorithm f.keyBits f.protocol f.cipher
  kind := f.kind
  location := f.location
  algorithm := f.algorithm
  keyBits := f.keyBits
  protocol := f.protocol
  cipher := f.cipher
  library := f.library
  strength := f.strength
  quantumVulnerable := f.quantumVulnerable
  outOfPolicy := f.outOfPolicy
  reasons := f.reasons
  createdAt := createdAt

def PqcMigrationAssetCompleted.facts (pl : PqcMigrationAssetCompleted) : CryptoFacts where
  kind := pl.kind
  location := pl.location
  algorithm := pl.effectiveAlgorithm
  keyBits := pl.effectiveKeyBits
  library := pl.originalLibrary
  strength := "strong"
  quantumVulnerable := false
  outOfPolicy := false
  reasons := ["PQC migration run " ++ pl.runId ++ " re-issued through " ++ pl.protocol]

def CertificateRecorded.certificate (pl : CertificateRecorded) (e : Envelope) : Certificate where
  id := pl.id
  tenantId := e.tenantId
  ownerId := pl.ownerId
  subject := pl.subject
  sans := pl.sans
  issuer := pl.issuer
  serial := pl.serial
  fingerprint := pl.fingerprint
  keyAlgorithm := pl.keyAlgorithm
  notBefore := pl.notBefore
  notAfter := pl.notAfter
  deploymentLocation := pl.deploymentLocation
  source := pl.source
  certificateDer := pl.certificateDer
  issuanceIdempotencyKey := pl.issuanceIdempotencyKey
  replacesId := pl.replacesId
  createdAt := e.time

/-- The serial of a certificate that an authority of this installation issued. -/
def issuedSerial (caId serial : String) : Bool := caId ≠ "" && serial ≠ ""

/-- The cases of `ApplyTx`. -/
def InventoryEvent.sink (e : Envelope) (b : InventoryEvent) : Except ApplyError (Sink e.tenantId) :=
  let need := require (α := Sink e.tenantId) b.type
  match b with
  | .ownerCreated id kind name email =>
    .ok (applyOwnerCreatedTx { id, tenantId := e.tenantId, kind, name, email, createdAt := e.time })
  | .ownerUpdated id kind name email => .ok (applyOwnerUpdatedTx e.tenantId id kind name email)
  | .ownerDeleted id => .ok (deleteOwnerTx e.tenantId id)
  | .issuerCreated id kind name chain publicKey internal =>
    .ok (applyIssuerCreatedTx {
      id, tenantId := e.tenantId, kind, name, chain, publicKey, internal, createdAt := e.time })
  | .identityCreated id kind name ownerId issuerId attributes =>
    .ok (applyIdentityCreatedTx {
      id, tenantId := e.tenantId, kind, name, ownerId, issuerId, status := "requested",
      notBefore := none, notAfter := none, attributes := jsonbOrEmpty attributes,
      createdAt := e.time })
  | .identityTransitioned kind pl =>
    .ok (setIdentityStatusTx e.tenantId pl.identityId pl.toState ++ appendIdentityTransitionTx {
        tenantId := e.tenantId, identityId := pl.identityId, seq := e.sequence,
        fromState := pl.fromState, toState := pl.toState, eventType := kind.type,
        reason := pl.reason, occurredAt := e.time })
  | .identityConnectorTargetBound identityId targetId connector target route =>
    need (identityId ≠ "" ∧ targetId ≠ "" ∧ connector ≠ "" ∧ target ≠ "")
      "identity_id, target_id, connector, and target"
      (.ok (bindIdentityDeploymentTargetTx e.tenantId identityId targetId connector target route))
  | .certificateRecorded pl => do
    let record : Sink e.tenantId ← applyCertificateRecordedTx (pl.certificate e)
    if issuedSerial pl.caId pl.serial then
      return record ++ recordIssuedCertTx e.tenantId pl.caId pl.serial e.time
    else return record
  | .certificateRevoked pl =>
    let revokedAt := pl.revokedAt.orElse e.time
    let revoke := setCertificateRevokedTx e.tenantId pl.fingerprint pl.reason revokedAt
    if issuedSerial pl.caId pl.serial then do
      let issued ← revokeIssuedCertTx e.tenantId pl.caId pl.serial pl.reasonCode revokedAt
      return revoke ++ issued
    else .ok revoke
  | .certificateSuperseded fingerprint renewedAt =>
    .ok (setCertificateSupersededTx e.tenantId fingerprint renewedAt)
  | .profileVersioned _ pl =>
    -- The first payload shape carried no profile to project.
    if e.version = 1 then .ok []
    else .ok (applyProfileVersionTx {
      id := pl.id, tenantId := e.tenantId, name := pl.name, version := pl.version,
      spec := jsonbOrEmpty pl.spec, active := pl.active, createdBy := pl.createdBy,
      createdAt := e.time })
  | .cbomAssetObserved id facts =>
    need (id ≠ "" ∧ facts.kind ≠ "" ∧ facts.location ≠ "" ∧ facts.strength ≠ "")
      "id, kind, location, and strength"
      (.ok (applyCryptoAssetObservedTx (facts.asset e.tenantId id e.time)))
  | .pqcMigrationStarted runId assetIds targetAlgorithm protocol =>
    need (runId ≠ "" ∧ assetIds ≠ [] ∧ targetAlgorithm ≠ "" ∧ protocol ≠ "")
      "run_id, asset_ids, target_algorithm, and protocol" (.ok [])
  | .pqcMigrationAssetCompleted pl =>
    need (pl.runId ≠ "" ∧ pl.assetId ≠ "" ∧ pl.kind ≠ "" ∧ pl.location ≠ "" ∧
        pl.effectiveAlgorithm ≠ "")
      "run_id, asset_id, kind, location, and effective_algorithm"
      (.ok (replaceCryptoAssetTx (pl.facts.asset e.tenantId pl.assetId e.time)))
  | .pqcMigrationRollbackCompleted runId assetId facts =>
    need (runId ≠ "" ∧ assetId ≠ "" ∧ facts.kind ≠ "" ∧ facts.location ≠ "" ∧ facts.strength ≠ "")
      "run_id, asset_id, kind, location, and strength"
      (.ok (replaceCryptoAssetTx (facts.asset e.tenantId assetId e.time)))
  | .deploymentTargetUpserted id name connector config =>
    need (id ≠ "" ∧ name ≠ "" ∧ connector ≠ "") "id, name, and connector"
      (.ok (applyDeploymentTargetUpsertedTx {
        id, tenantId := e.tenantId, name, type := connector, config := jsonbOrEmpty config,
        createdAt := e.time }))
  | .deploymentTargetDeleted id =>
    need (id ≠ "") "id" (.ok (applyDeploymentTargetDeletedTx e.tenantId id))

/-! ## Replay -/

/-- A recorded certificate, its retired predecessor and the check of the predecessor. -/
theorem stable_certificateRecorded {c : Certificate} {p : Sink c.tenantId}
    (sunk : applyCertificateRecordedTx c = .ok p) : Stable [.certificates] p := by
  have record : Settles (recordCertificate c) :=
    settles_upsert (by simp) rfl (fun _ h => h) fun _ _ => rfl
  have reads : Reads [.certificates] (recordCertificate c) := reads_insert
  have footprint : (recordCertificate c).footprint ⊆ [.certificates] := .refl _
  unfold applyCertificateRecordedTx at sunk
  split at sunk
  · cases sunk
  · split at sunk
    · cases sunk
      exact .single record reads footprint
    · cases sunk
      exact .single record reads footprint
    · cases sunk
      refine .cons record ?_ reads footprint (.cons ?_ ?_ reads_rowUpdate
        (.refl _) (.single settles_guard (reads_guard ?_) (nil_subset _)))
      · simp only [mem_cons, not_mem_nil, or_false]
        rintro next (rfl | rfl)
        -- Retiring the predecessor writes columns the record does not.
        · exact keeps_upsert rewrites_rowUpdate (by simp) (fun _ _ => rfl) fun _ _ _ => rfl
        · exact keeps_guard
      · exact (settles_rowUpdate (fun _ _ _ => rfl) (by simp))
      · simp only [mem_singleton]
        rintro next rfl
        exact keeps_guard
      · intro view view' same
        simp only [same .certificates (by simp)]

/-- A profile version becomes the only active one of its name. -/
theorem stable_profileVersion (r : ProfileRecord) :
    Stable [.certificateProfiles] (applyProfileVersionTx r) := by
  unfold applyProfileVersionTx
  split
  · refine .cons (settles_rowUpdate (fun _ _ _ => rfl) (by simp)) ?_ reads_rowUpdate
      (.refl _) (.single ?_ reads_insert (.refl _))
    · simp only [mem_singleton]
      rintro next rfl
      -- The recorded version is the one the first statement excludes.
      refine keeps_rowUpdate rewrites_upsert ?_ ?_ (by simp)
      · simp
      · intro q clash
        simp_all
    · exact settles_upsert (by simp) rfl (fun _ h => h) fun _ _ => rfl
  · exact .single (settles_upsert (by simp) rfl (fun _ h => h) fun _ _ => rfl) reads_insert
      (.refl _)

/-- What must hold of the event and of the state it is applied to for a second application
to change nothing. -/
def InventoryEvent.Replayable (e : Envelope) (db : Tables Row) : InventoryEvent → Prop
  | .identityConnectorTargetBound id _ _ _ _ =>
    ∀ r : Identity, r ∈ db .identities → r.tenantId = e.tenantId → r.id = id → r.attributes.isObject
  | _ => True

theorem stable_revokeIssuedCert {τ caId : Uuid} {serial : String} {reasonCode : Int}
    {at_ : Time} {p : Sink τ} (sunk : revokeIssuedCertTx τ caId serial reasonCode at_ = .ok p) :
    Stable [.caIssuedCerts] p := by
  unfold revokeIssuedCertTx at sunk
  split at sunk
  · cases sunk
    refine stable_upsert (by simp) (by simp) (fun _ h => h) fun r _ => ?_
    cases r.revokedAt <;> simp
  · cases sunk

/-- Every event but a target binding is one whose transaction replays. -/
theorem InventoryEvent.replays {e : Envelope} {b : InventoryEvent} {p : Sink e.tenantId}
    (sunk : b.sink e = .ok p)
    (other : ∀ id targetId connector target route,
      b ≠ .identityConnectorTargetBound id targetId connector target route) : Replays p p := by
  cases b with
  | ownerCreated | issuerCreated | identityCreated =>
    cases sunk
    exact Stable.replays (stable_upsert (by simp) rfl (fun _ h => h) fun _ _ => rfl)
  | ownerUpdated | certificateSuperseded =>
    cases sunk
    exact Stable.replays (stable_rowUpdate (fun _ _ _ => rfl) (by simp))
  | ownerDeleted id =>
    cases sunk
    exact replays_delete (by decide)
  | identityTransitioned kind pl =>
    cases sunk
    exact Stable.replays (.append (stable_rowUpdate (fun _ _ _ => rfl) (by simp))
      (stable_upsert (by simp) rfl (fun _ h => h) fun _ _ => rfl) (by decide))
  | identityConnectorTargetBound id targetId connector target route =>
    exact absurd rfl (other id targetId connector target route)
  | certificateRecorded pl =>
    obtain ⟨record, noted, rest⟩ := bind_ok.mp sunk
    have stable := stable_certificateRecorded noted
    split at rest
    · cases rest
      exact Stable.replays (.append stable (stable_insertIgnore (by simp)) (by decide))
    · cases rest
      exact stable.replays
  | certificateRevoked pl =>
    simp only [InventoryEvent.sink] at sunk
    split at sunk
    · obtain ⟨issued, revoked, rest⟩ := bind_ok.mp sunk
      cases rest
      exact Stable.replays (.append (stable_rowUpdate (fun _ _ _ => rfl) (by simp))
        (stable_revokeIssuedCert revoked) (by decide))
    · cases sunk
      exact Stable.replays (stable_rowUpdate (fun _ _ _ => rfl) (by simp))
  | profileVersioned made pl =>
    simp only [InventoryEvent.sink] at sunk
    split at sunk
    · cases sunk
      exact replays_nil
    · cases sunk
      exact (stable_profileVersion _).replays
  | cbomAssetObserved | deploymentTargetUpserted =>
    exact require_stable sunk (stable_upsert (by simp) rfl (fun _ h => h) fun _ _ => rfl)
  | pqcMigrationStarted runId assetIds targetAlgorithm proto =>
    obtain ⟨-, ⟨⟩⟩ := require_ok.mp sunk
    exact replays_nil
  | pqcMigrationAssetCompleted | pqcMigrationRollbackCompleted =>
    exact require_stable sunk (stable_rowUpdate (fun _ _ _ => rfl) (by simp))
  | deploymentTargetDeleted id =>
    obtain ⟨-, ⟨⟩⟩ := require_ok.mp sunk
    exact replays_delete (by decide)

/-- A second application of an inventory event changes nothing exactly where it is
replayable. -/
theorem InventoryEvent.replay_iff {e : Envelope} {b : InventoryEvent} {p : Sink e.tenantId}
    {s : Session} {db db' : Database Row} (sunk : b.sink e = .ok p)
    (ran : run s p db = .ok db') :
    run s p db' = .ok db' ↔ b.Replayable e db.tables := by
  cases b with
  | identityConnectorTargetBound id targetId connector target route =>
    obtain ⟨-, ⟨⟩⟩ := require_ok.mp sunk
    unfold bindIdentityDeploymentTargetTx at ran ⊢
    rw [run_singleton] at ran ⊢
    refine (fixed_rowUpdate_after ?_ ran).trans (forall₂_congr fun r _ => ?_)
    · exact fun _ h => h
    · have own : owns e.tenantId r ↔ (r : Identity).tenantId = e.tenantId := decide_eq_true_iff
      simp only [own, decide_eq_true_eq, Identity.mk.injEq, true_and, and_true]
      exact imp_congr_right fun _ => imp_congr_right fun _ => bindAttributes_again_iff
  | _ => exact iff_of_true (InventoryEvent.replays sunk (by simp) ran) trivial

end Trustctl.Projections
