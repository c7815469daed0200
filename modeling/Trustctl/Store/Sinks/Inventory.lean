import Trustctl.Store.Statement

/-!
# Inventory sinks

The projection sinks of owners, issuers, identities, certificates, profiles,
crypto assets and deployment targets, statement by statement.
-/

namespace Trustctl.Store

open Relational

/-! ## Owners and issuers -/

def applyOwnerCreatedTx (o : Owner) : Sink o.tenantId := [
  upsert .owners o (fun (r : Owner) => r.tenantId = o.tenantId ∧ r.id = o.id)
    (fun (r : Owner) => { r with kind := o.kind, name := o.name, email := o.email })
    rfl fun _ => rfl]

def applyOwnerUpdatedTx (τ id : Uuid) (kind name email : String) : Sink τ := [
  rowUpdate .owners (fun (r : Owner) => r.id = id)
    (fun (r : Owner) => { r with kind, name, email }) none fun _ => rfl]

def deleteOwnerTx (τ id : Uuid) : Sink τ := [ .delete .owners fun (r : Owner) => r.id = id]

def applyIssuerCreatedTx (i : Issuer) : Sink i.tenantId := [
  upsert .issuers i (fun (r : Issuer) => r.tenantId = i.tenantId ∧ r.id = i.id)
    (fun (r : Issuer) => { r with
      kind := i.kind, name := i.name, chain := i.chain, publicKey := i.publicKey,
      internal := i.internal })
    rfl fun _ => rfl]

/-! ## Identities -/

/-- `ApplyIdentityCreatedTx`; the status of an existing identity is kept. -/
def applyIdentityCreatedTx (it : Identity) : Sink it.tenantId := [
  upsert .identities it (fun (r : Identity) => r.tenantId = it.tenantId ∧ r.id = it.id)
    (fun (r : Identity) => { r with
      kind := it.kind, name := it.name, ownerId := it.ownerId, issuerId := it.issuerId,
      notBefore := it.notBefore, notAfter := it.notAfter, attributes := it.attributes })
    rfl fun _ => rfl]

def setIdentityStatusTx (τ id : Uuid) (status : String) : Sink τ := [
  rowUpdate .identities (fun (r : Identity) => r.id = id)
    (fun (r : Identity) => { r with status }) none fun _ => rfl]

def appendIdentityTransitionTx (t : IdentityTransition) : Sink t.tenantId := [
  upsert .identityTransitions t (fun (r : IdentityTransition) =>
      r.tenantId = t.tenantId ∧ r.identityId = t.identityId ∧ r.seq = t.seq)
    (fun (r : IdentityTransition) => { r with
      fromState := t.fromState, toState := t.toState, eventType := t.eventType,
      reason := t.reason, occurredAt := t.occurredAt })
    rfl fun _ => rfl]

/-- The routing metadata `identity.connector_target_bound` merges into an identity. -/
def bindingAttributes (connector target targetId : String) : Json :=
  .obj [("connector", .str connector), ("deployment_connector", .str connector),
    ("target", .str target), ("deployment_target", .str target),
    ("deployment_target_id", .str targetId)]

/-- `jsonb_strip_nulls(jsonb_build_object('deployment_route', NULLIF(route, '')))`. -/
def routeAttribute (route : String) : Json :=
  if route = "" then .empty else .obj [("deployment_route", .str route)]

/-- The attributes `BindIdentityDeploymentTargetTx` writes. -/
def bindAttributes (targetId connector target route : String) (attributes : Json) : Json :=
  (attributes.concat (bindingAttributes connector target targetId)).concat (routeAttribute route)

/-- Binding a second time shows unless the attributes were an object. -/
theorem bindAttributes_again_iff {targetId connector target route : String} {attributes : Json} :
    bindAttributes targetId connector target route
        (bindAttributes targetId connector target route attributes) =
      bindAttributes targetId connector target route attributes ↔
      attributes.isObject := by
  obtain ⟨fields, isObj⟩ : ∃ fields, routeAttribute route = .obj fields := by
    unfold routeAttribute
    split
    · exact ⟨[], rfl⟩
    · exact ⟨_, rfl⟩
  unfold bindAttributes bindingAttributes
  rw [isObj]
  cases attributes with
  | obj own => simpa [Json.isObject] using Json.concat_twice own _ fields
  | null | bool | num | str | arr => simp [Json.concat, Json.isObject]

def bindIdentityDeploymentTargetTx (τ identityId : Uuid)
    (targetId connector target route : String) : Sink τ := [
  rowUpdate .identities (fun (r : Identity) => r.id = identityId) (fun (r : Identity) => { r with
      attributes := bindAttributes targetId connector target route r.attributes })
    none fun _ => rfl]

/-! ## Certificates -/

def recordCertificate (c : Certificate) : Stmt Row ApplyError c.tenantId :=
  upsert .certificates c
    (fun (r : Certificate) => r.tenantId = c.tenantId ∧ r.fingerprint = c.fingerprint)
    (fun (r : Certificate) => { r with
      ownerId := c.ownerId, subject := c.subject, sans := c.sans, issuer := c.issuer,
      serial := c.serial, keyAlgorithm := c.keyAlgorithm, notBefore := c.notBefore,
      notAfter := c.notAfter, deploymentLocation := c.deploymentLocation, source := c.source,
      certificateDer := c.certificateDer, issuanceIdempotencyKey := c.issuanceIdempotencyKey,
      replacesId := c.replacesId })
    rfl fun _ => rfl

/-- The `UPDATE` of `ApplyCertificateRecordedTx` that retires the predecessor. -/
def supersedePredecessor (τ predecessor : Uuid) (at_ : Time) : Stmt Row ApplyError τ :=
  rowUpdate .certificates (fun (r : Certificate) => r.id = predecessor ∧ r.status ≠ "revoked")
    (fun (r : Certificate) => { r with status := "superseded", renewedAt := some at_ })
    none fun _ => rfl

/-- The query after it: the predecessor exists and is superseded or already revoked. -/
def predecessorRetired (τ successor predecessor : Uuid) : Stmt Row ApplyError τ :=
  .guard fun view =>
    match (view .certificates).find? fun (r : Certificate) => r.id = predecessor with
    | none => some (.store ("certificate successor " ++ successor ++
        " replaces missing predecessor " ++ predecessor))
    | some (r : Certificate) =>
      if r.status = "superseded" ∨ r.status = "revoked" then none
      else some (.store ("certificate successor " ++ successor ++
        " did not supersede predecessor " ++ predecessor ++ " in status \"" ++ r.status ++ "\""))

def applyCertificateRecordedTx (c : Certificate) : Except ApplyError (Sink c.tenantId) :=
  if c.replacesId = some c.id then
    .error (.store ("certificate successor " ++ c.id ++ " cannot replace itself"))
  else
    match c.replacesId with
    | none | some "" => .ok [recordCertificate c]
    | some p => .ok [recordCertificate c, supersedePredecessor c.tenantId p c.createdAt,
        predecessorRetired c.tenantId c.id p]

def setCertificateRevokedTx (τ : Uuid) (fingerprint reason : String) (at_ : Time) : Sink τ := [
  rowUpdate .certificates (fun (r : Certificate) => r.fingerprint = fingerprint)
    (fun (r : Certificate) => { r with
      status := "revoked", revokedAt := some at_, revocationReason := reason })
    none fun _ => rfl]

def setCertificateSupersededTx (τ : Uuid) (fingerprint : String) (at_ : Time) : Sink τ := [
  rowUpdate .certificates
    (fun (r : Certificate) => r.fingerprint = fingerprint ∧ r.status ≠ "revoked")
    (fun (r : Certificate) => { r with status := "superseded", renewedAt := some at_ })
    none fun _ => rfl]

/-! ## Profiles, crypto assets and deployment targets -/

def applyProfileVersionTx (p : ProfileRecord) : Sink p.tenantId :=
  let deactivate : Stmt Row ApplyError p.tenantId :=
    rowUpdate .certificateProfiles
      (fun (r : ProfileRecord) => r.name = p.name ∧ r.active ∧ r.version ≠ p.version)
      (fun (r : ProfileRecord) => { r with active := false }) none fun _ => rfl
  let record : Stmt Row ApplyError p.tenantId :=
    upsert .certificateProfiles p (fun (r : ProfileRecord) =>
        r.tenantId = p.tenantId ∧ r.name = p.name ∧ r.version = p.version)
      (fun (r : ProfileRecord) => { r with
        id := p.id, spec := p.spec, active := p.active, createdBy := p.createdBy,
        createdAt := p.createdAt })
      rfl fun _ => rfl
  if p.active then [deactivate, record] else [record]

def cryptoAssetSignature (kind location algorithm : String) (keyBits : Int)
    (protocol cipher : String) : String :=
  "|".intercalate [kind, location, algorithm, toString keyBits, protocol, cipher]

def applyCryptoAssetObservedTx (a : CryptoAsset) : Sink a.tenantId := [ upsert .cryptoAssets a
    (fun (r : CryptoAsset) => r.tenantId = a.tenantId ∧ r.signature = a.signature)
    (fun (r : CryptoAsset) => { r with
      keyBits := a.keyBits, library := a.library, strength := a.strength,
      quantumVulnerable := a.quantumVulnerable, outOfPolicy := a.outOfPolicy,
      reasons := a.reasons })
    rfl fun _ => rfl]

/-- `replaceCryptoAssetTx`, the body of `ApplyCryptoAssetMigratedTx` and
`ApplyCryptoAssetRolledBackTx`. -/
def replaceCryptoAssetTx (a : CryptoAsset) : Sink a.tenantId := [
  rowUpdate .cryptoAssets (fun (r : CryptoAsset) => r.id = a.id) (fun (r : CryptoAsset) => { r with
      signature := a.signature, kind := a.kind, location := a.location,
      algorithm := a.algorithm, keyBits := a.keyBits, protocol := a.protocol,
      cipher := a.cipher, library := a.library, strength := a.strength,
      quantumVulnerable := a.quantumVulnerable, outOfPolicy := a.outOfPolicy,
      reasons := a.reasons })
    (some .noRows) fun _ => rfl]

/-- `ApplyDeploymentTargetUpsertedTx`; the conflict target is the global id. -/
def applyDeploymentTargetUpsertedTx (d : DeploymentTarget) : Sink d.tenantId := [
  upsert .deploymentTargets d (fun (r : DeploymentTarget) => r.id = d.id)
    (fun (r : DeploymentTarget) => { r with
      name := d.name, type := d.type, config := d.config })
    rfl fun _ => rfl]

def applyDeploymentTargetDeletedTx (τ id : Uuid) : Sink τ := [
  .delete .deploymentTargets fun (r : DeploymentTarget) => r.id = id]

end Trustctl.Store
