import Trustctl.Projections.Authority
import Trustctl.Projections.Operations
import Trustctl.Projections.Governance
import Trustctl.Projections.Privacy
import Trustctl.Store.Tenants

/-!
# Events and their projection

An event is an envelope and a decoded payload.  `applyTx` is the transaction the
projector runs for an event: the schema-version gate, then the payload's own sink.  A
payload that does not decode keeps its type only, which is all the projector reads of it.
-/

namespace Trustctl.Projections

open Store Relational Systems

inductive Body
  | tenantRegistered (name : String)
  | tenantOffboarded
  | inventory (b : InventoryEvent)
  | authority (b : AuthorityEvent)
  | operations (b : OperationsEvent)
  | governance (b : GovernanceEvent)
  | privacy (b : PrivacyEvent)
  /-- An event of a type the projector does not decode, or one whose data does not decode
  as its type's payload. -/
  | raw (type : String)

structure Event extends Envelope where
  body : Body

/-- The event under the number it has in a log. -/
def Event.numbered (e : Event) (seq : Nat) : Event := { e with sequence := seq }

def Event.type (e : Event) : String :=
  match e.body with
  | .tenantRegistered _ => "tenant.registered"
  | .tenantOffboarded => "tenant.offboarded"
  | .inventory b => b.type
  | .authority b => b.type
  | .operations b => b.type
  | .governance b => b.type
  | .privacy b => b.type
  | .raw type => type

/-- `knownSchemaVersions`: the payload versions the projector decodes, by event type. -/
def knownSchemaVersions : List (String × List Nat) := [
  ("tenant.registered", [1]), ("tenant.offboarded", [1]), ("owner.created", [1]),
  ("owner.updated", [1]), ("owner.deleted", [1]), ("issuer.created", [1]),
  ("identity.created", [1]), ("identity.issued", [1, 2]), ("identity.deployed", [1, 2]),
  ("identity.revoked", [1, 2]), ("identity.renewing", [1, 2]), ("identity.renewed", [1, 2]),
  ("identity.retired", [1, 2]), ("certificate.recorded", [1]), ("certificate.revoked", [1]),
  ("certificate.superseded", [1]), ("ca.certificate.issued", [1]),
  ("ca.certificate.revoked", [1]), ("ca.ceremony.started", [1]), ("ca.ceremony.approved", [1]),
  ("ca.endentity.issued", [1]), ("ca.authority.rotated", [1]), ("ca.authority.rekeyed", [1]),
  ("ca.crl.published", [1, 2, 3]), ("ca.ocsp_responder.rotated", [1]), ("agent.heartbeat", [1]),
  ("agent.cert.renewed", [1]), ("agent.cert.revoked", [1]), ("agent.offboarded", [1]),
  ("profile.created", [1, 2]), ("profile.updated", [1, 2]), ("discovery.source.upserted", [1]),
  ("discovery.schedule.upserted", [1]), ("discovery.run.queued", [1]),
  ("discovery.run.started", [1]), ("discovery.finding.recorded", [1]),
  ("discovery.finding.triage_changed", [1]), ("discovery.run.completed", [1]),
  ("acme.dns01.provider_config.upserted", [1]), ("acme.dns01.provider_config.deleted", [1]),
  ("acme.dns01.preflighted", [1]), ("acme.dns01.record.presented", [1]),
  ("acme.dns01.record.cleaned", [1]), ("mdm.scep_policy.upserted", [1]),
  ("mdm.scep_policy.deleted", [1]), ("mdm.scep_challenge.rotated", [1]),
  ("workload.attester_trust_source.upserted", [1]),
  ("workload.attester_trust_source.rotated", [1]),
  ("workload.attester_trust_source.revoked", [1]),
  ("workload.attester_trust_source.deleted", [1]), ("compliance.report_schedule.upserted", [1]),
  ("secret.rotation_schedule.upserted", [1]), ("secret.rotation_schedule.ran", [1]),
  ("notification.read", [1]), ("notification.channel.upserted", [1]),
  ("notification.channel.deleted", [1]), ("notification.routing_policy.upserted", [1]),
  ("notification.routing_policy.deleted", [1]), ("notification.threshold.delivered", [1]),
  ("cbom.asset.observed", [1]), ("deployment_target.upserted", [1]),
  ("deployment_target.deleted", [1]), ("identity.connector_target_bound", [1]),
  ("connector.delivery.recorded", [1]), ("lifecycle.rotation.recorded", [1]),
  ("incident.execution.recorded", [1]), ("incident.fleet_reissuance.recorded", [1]),
  ("remediation.playbook_run.recorded", [1]), ("response.integration.dispatched", [1]),
  ("privacy.subject.erased", [1]), ("privacy.retention.enforced", [1]),
  ("privacy.archive_erasure.attested", [1]), ("tenant.member.upserted", [1]),
  ("tenant.member.offboarded", [1]), ("api_token.created", [1]), ("api_token.revoked", [1]),
  ("pam.session.started", [1]), ("pam.session.expired", [1]),
  ("nhi.access_review.campaign.started", [1]), ("nhi.access_review.item.decided", [1]),
  ("access.change_request.created", [1]), ("access.change_request.decided", [1]),
  ("pqc.migration.started", [1]), ("pqc.migration.asset_completed", [1]),
  ("pqc.migration.rollback_completed", [1])]

def validateSchemaVersion (e : Event) : Except ApplyError Unit :=
  match knownSchemaVersions.lookup e.type with
  | some versions =>
    if versions.contains e.version then .ok ()
    else .error (.unknownSchemaVersion e.type e.version e.sequence)
  | none => .ok ()

/-! ## Projection -/

/-- Data that does not decode is an error for a type with a payload and ignored for any other
type; the first shape of a profile event is not decoded at all. -/
def rawSink (e : Event) (type : String) : Except ApplyError (Sink e.tenantId) :=
  if ["tenant.registered", "tenant.offboarded"].contains type then .ok []
  else if ["profile.created", "profile.updated"].contains type && e.version = 1 then .ok []
  else if (knownSchemaVersions.lookup type).isSome then .error (.decode type)
  else .ok []

/-- `ApplyTx`; `now` is the database clock and `h` the digest of the privacy references. -/
def applyTx (h : Digest) (now : Time) (e : Event) : Except ApplyError (Sink e.tenantId) := do
  validateSchemaVersion e
  match e.body with
  | .tenantRegistered _ | .tenantOffboarded => .ok []
  | .inventory b => b.sink e.toEnvelope
  | .authority b => b.sink now e.toEnvelope
  | .operations b => b.sink e.toEnvelope
  | .governance b => b.sink h e.toEnvelope
  | .privacy b => b.sink h e.toEnvelope
  | .raw type => rawSink e type

/-- What must hold of the event and of the state it is applied to for a second application
to change nothing. -/
def Event.Replayable (e : Event) (db : Tables Row) : Prop :=
  match e.body with
  | .inventory b => b.Replayable e.toEnvelope db
  | .operations b => b.Replayable e.toEnvelope db
  | .governance b => b.Replayable
  | _ => True

variable {h : Digest} {now now' : Time} {e : Event} {p q : Sink e.tenantId} {s : Session}
  {db db' : Database Row}

theorem rawSink_nil {type : String} (sunk : rawSink e type = .ok p) : p = [] := by
  unfold rawSink at sunk
  split at sunk
  · exact (Except.ok.inj sunk).symm
  · split at sunk
    · exact (Except.ok.inj sunk).symm
    · split at sunk
      · cases sunk
      · exact (Except.ok.inj sunk).symm

/-- Which event is refused does not depend on the database clock. -/
theorem AuthorityEvent.sink_clock {e : Envelope} {b : AuthorityEvent} {p : Sink e.tenantId}
    (sunk : b.sink now e = .ok p) : ∃ q, b.sink now' e = .ok q := by
  cases b with
  | agentHeartbeat | agentCertRenewed => exact ⟨_, rfl⟩
  | agentOffboarded id agent why offboardedBy =>
    obtain ⟨named, -⟩ := require_ok.mp sunk
    exact ⟨_, require_ok.mpr ⟨named, rfl⟩⟩
  | _ => exact ⟨p, sunk⟩

theorem applyTx_clock (sunk : applyTx h now e = .ok p) : ∃ q, applyTx h now' e = .ok q := by
  obtain ⟨versioned, gate, payload⟩ := bind_ok.mp sunk
  unfold applyTx
  rw [gate]
  cases body : e.body with
  | authority b =>
    rw [body] at payload
    exact AuthorityEvent.sink_clock payload
  | _ => exact ⟨p, by rwa [body] at payload⟩

/-- A second application of an event's transaction changes nothing exactly where the event is
replayable. -/
theorem applyTx_replay_iff (sunk : applyTx h now e = .ok p) (again : applyTx h now' e = .ok q)
    (ran : run s p db = .ok db') : run s q db' = .ok db' ↔ e.Replayable db.tables := by
  obtain ⟨-, -, first⟩ := bind_ok.mp sunk
  obtain ⟨-, -, second⟩ := bind_ok.mp again
  unfold Event.Replayable
  generalize e.body = b at first second
  cases b with
  | tenantRegistered | tenantOffboarded =>
    cases second
    exact iff_of_true rfl trivial
  | inventory b =>
    cases first.symm.trans second
    exact InventoryEvent.replay_iff first ran
  | authority b => exact iff_of_true (AuthorityEvent.replays first second ran) trivial
  | operations b =>
    cases first.symm.trans second
    exact OperationsEvent.replay_iff first ran
  | governance b =>
    cases first.symm.trans second
    exact GovernanceEvent.replay_iff first ran
  | privacy b =>
    cases first.symm.trans second
    exact iff_of_true (PrivacyEvent.replays first ran) trivial
  | raw type =>
    obtain rfl := rawSink_nil second
    exact iff_of_true rfl trivial

end Trustctl.Projections
