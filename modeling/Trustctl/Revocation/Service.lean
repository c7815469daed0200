import Trustctl.Projections.Plane
import Trustctl.Revocation.Lists

/-!
# The revocation service

Commands append issued and revoked serials to the log; whoever comes first projects them: the
command itself, the tail worker or a catch-up.  `generateCRL` runs in several replicas at once,
started by a revocation, an issuance or the scheduler.  Each call catches up, reads the revoked
serials, the latest list and the next number in transactions of their own, then appends and
projects a full list, its shards and a delta, one after the other.

* `World.step` is one transaction or one append of one party;
* `project_crls`, `project_listRevokedCerts`: what a projection does to the tables.
-/

namespace Trustctl.Revocation

open Option Store Projections

/-- An event the two tables are projected from. -/
inductive LogEvent
  | issued (serial : String) (issuedAt : Time)
  | revoked (serial : String) (reasonCode : Int) (revokedAt : Time)
  | published (crl : Crl)
deriving DecidableEq

/-- The projection of an event; `none` is the error of an unknown reason code. -/
def project (db : Tables) : LogEvent → Option Tables
  | .issued serial issuedAt => some (db.recordIssuedCert serial issuedAt)
  | .revoked serial reasonCode revokedAt =>
    if validCrlReasonCode reasonCode then
      some (db.revokeIssuedCert serial reasonCode revokedAt)
    else none
  | .published crl => some (db.insertCrl crl)

def LogEvent.crl : LogEvent → Option Crl
  | .published crl => some crl
  | _ => none

/-! ## Generating a list -/

/-- A catch-up: the positions it has still to replay and the events since it moved the
checkpoint. -/
structure CatchUp where
  pos : Nat
  stop : Nat
  since : Nat := 0

/-- What a call of `generateCRL` has read before it publishes. -/
structure Job where
  entries : List RevokedSerial
  previous : Option Crl
  /-- The number and the time of the full list. -/
  number : Nat
  now : Time

/-- A list the call publishes. -/
inductive Part
  | full
  | shard (i : Nat)
  | delta
deriving DecidableEq

def Job.deltaEntries (job : Job) : List RevokedSerial :=
  match job.previous with
  | none => []
  | some previous => crlDeltaEntries job.entries previous.thisUpdate

def Job.shardCount (job : Job) : Nat := crlShardCount job.entries.length

def Job.fullShardCount (job : Job) : Nat := if 0 < job.shardCount then job.shardCount else 1

/-- `crlValidity`, in seconds. -/
def crlValidity : Int := 7 * 24 * 60 * 60

def Job.nextUpdate (job : Job) : Time := job.now.addSeconds crlValidity

/-- The list of a part, under the number taken for it. -/
def Job.artifact (hash : String → Nat) (job : Job) (number : Nat) : Part → Crl
  | .full => {
      number, entries := job.entries, thisUpdate := job.now, nextUpdate := job.nextUpdate
      kind := .full, shardCount := job.fullShardCount, revokedCount := job.entries.length }
  | .shard i =>
    let entries := crlShardEntries hash job.entries i job.shardCount
    { number, entries, thisUpdate := job.now, nextUpdate := job.nextUpdate, kind := .shard
      shardIndex := i, shardCount := job.shardCount, parentNumber := some job.number
      revokedCount := entries.length }
  | .delta => {
      number, entries := job.deltaEntries, thisUpdate := job.now, nextUpdate := job.nextUpdate
      kind := .delta, shardCount := job.fullShardCount
      deltaBaseNumber := job.previous.map fun p => p.number
      parentNumber := some job.number, revokedCount := job.deltaEntries.length }

/-- The delta, unless it would be empty. -/
def Job.deltaPart (job : Job) : Option Part :=
  if job.deltaEntries.isEmpty then none else some .delta

/-- What the call publishes after a part. -/
def Job.after (job : Job) : Part → Option Part
  | .full => if 0 < job.shardCount then some (.shard 0) else job.deltaPart
  | .shard i => if i + 1 < job.shardCount then some (.shard (i + 1)) else job.deltaPart
  | .delta => none

theorem Job.after_ne_full {job : Job} {part : Part} : job.after part ≠ some .full := by
  cases part <;> simp only [Job.after, Job.deltaPart] <;> grind

/-- The serial is a number in hexadecimal, with an optional sign. -/
def parsesHex (serial : String) : Bool :=
  let digits := match serial.toList with
    | '+' :: rest | '-' :: rest => rest
    | rest => rest
  !digits.isEmpty && digits.all fun c =>
    c.isDigit || ('a' ≤ c && c ≤ 'f') || ('A' ≤ c && c ≤ 'F')

/-- The entries `CreateCRL` accepts. -/
def signable (entries : List RevokedSerial) : Bool :=
  entries.all fun e => validCrlReasonCode e.reason && parsesHex e.serial

/-- Where a call of `generateCRL` stands. -/
inductive Phase
  | catchUp (c : CatchUp)
  | surface
  | revoked
  | previous (entries : List RevokedSerial)
  | number (entries : List RevokedSerial) (previous : Option Crl)
  /-- The part is to be signed and appended under the number. -/
  | append (job : Job) (part : Part) (number : Nat)
  | apply (job : Job) (part : Part) (number : Nat)
  /-- The part is to be numbered. -/
  | next (job : Job) (part : Part)

/-- A call, and the serials its caller has revoked before it made the call. -/
structure Generator where
  acks : List String
  phase : Phase

/-! ## The system -/

structure World where
  log : List LogEvent := []
  db : Tables := {}
  checkpoint : Nat := 0
  /-- The acknowledged position of the tail consumer. -/
  cursor : Nat := 0
  /-- Catch-ups outside `generateCRL`. -/
  catchUps : List CatchUp := []
  generators : List Generator := []
  /-- The serials whose revocation was answered with success; a history variable. -/
  acknowledged : List String := []

inductive Action
  /-- A command records an issued serial. -/
  | issue (serial : String) (issuedAt : Time)
  /-- A command revokes a serial. -/
  | revoke (serial : String) (reasonCode : Int) (revokedAt : Time)
  /-- A command projects the event at the position. -/
  | project (i : Nat)
  | tail (reach : TailReach)
  /-- `ProjectCatchUp` begins outside `generateCRL`. -/
  | boot
  | catchUp (k : Nat)
  /-- `generateCRL` is called, by a handler that has revoked the serials. -/
  | begin (acks : List String)
  /-- The call makes its next step; `now` is the clock of its replica. -/
  | generate (g : Nat) (now : Time)
  /-- The call ends with an error, or its replica stops. -/
  | fail (g : Nat)

/-- What becomes of a catch-up or a call after a step. -/
inductive Outcome (α : Type)
  | next (state : α)
  | done
  | failed

namespace World

/-- The lists published so far, in log order. -/
def published (w : World) : List Crl := w.log.filterMap LogEvent.crl

def isRevoked (w : World) (serial : String) : Bool :=
  w.db.listRevokedCerts.any fun e => e.serial = serial

/-- `ProjectCatchUp` reads the checkpoint. -/
def beginCatchUp (w : World) : CatchUp where
  pos := w.checkpoint
  stop := w.log.length

/-- One event of a catch-up, or its end. -/
def catchUpStep (w : World) (c : CatchUp) : World × Outcome CatchUp :=
  if c.pos < c.stop then
    match w.log[c.pos]?.bind (project w.db) with
    | none => (w, .failed)
    | some db =>
      if checkpointEvery ≤ c.since + 1 then
        ({ w with db, checkpoint := max w.checkpoint (c.pos + 1) },
          .next { c with pos := c.pos + 1, since := 0 })
      else ({ w with db }, .next { c with pos := c.pos + 1, since := c.since + 1 })
  else ({ w with checkpoint := max w.checkpoint c.stop }, .done)

def generateStep (hash : String → Nat) (now : Time) (w : World) : Phase → World × Outcome Phase
  | .catchUp c =>
    match w.catchUpStep c with
    | (w, .next next) => (w, .next (.catchUp next))
    | (w, .done) => (w, .next .surface)
    | (w, .failed) => (w, .failed)
  | .surface => (w, if w.db.hasIssuedCerts then .next .revoked else .failed)
  | .revoked => (w, .next (.previous w.db.listRevokedCerts))
  | .previous entries => (w, .next (.number entries w.db.latestCrl))
  | .number entries previous =>
    let number := w.db.nextCrlNumber
    (w, .next (.append { entries, previous, number, now } .full number))
  | .append job part number =>
    let crl := job.artifact hash number part
    if signable crl.entries then
      ({ w with log := w.log ++ [.published crl] }, .next (.apply job part number))
    else (w, .failed)
  | .apply job part number =>
    ({ w with db := w.db.insertCrl (job.artifact hash number part) },
      match job.after part with
      | some next => .next (.next job next)
      | none => .done)
  | .next job part => (w, .next (.append job part w.db.nextCrlNumber))

/-- What the tail worker does after it projected the event at its cursor. -/
def afterTail (w : World) : TailReach → World
  | .applied => w
  | .checkpointed => { w with checkpoint := max w.checkpoint (w.cursor + 1) }
  | .acknowledged =>
    { w with checkpoint := max w.checkpoint (w.cursor + 1), cursor := w.cursor + 1 }

def step (hash : String → Nat) (w : World) : Action → Option World
  | .issue serial issuedAt => some { w with log := w.log ++ [.issued serial issuedAt] }
  | .revoke serial reasonCode revokedAt =>
    some { w with log := w.log ++ [.revoked serial reasonCode revokedAt] }
  | .project i => w.log[i]?.map fun e =>
    match project w.db e with
    | some db => { w with db }
    | none => w
  | .tail reach => w.log[w.cursor]?.map fun e =>
    match project w.db e with
    | some db => afterTail { w with db } reach
    | none => w
  | .boot => some { w with catchUps := w.catchUps ++ [w.beginCatchUp] }
  | .catchUp k => w.catchUps[k]?.map fun c =>
    match w.catchUpStep c with
    | (w, .next next) => { w with catchUps := w.catchUps.set k next }
    | (w, _) => { w with catchUps := w.catchUps.eraseIdx k }
  | .begin acks =>
    if acks.all w.isRevoked then
      some { w with
        generators := w.generators ++ [{ acks, phase := .catchUp w.beginCatchUp }] }
    else none
  | .generate g now => w.generators[g]?.map fun call =>
    match w.generateStep hash now call.phase with
    | (w, .next phase) => { w with generators := w.generators.set g { call with phase } }
    | (w, .done) =>
      { w with
        generators := w.generators.eraseIdx g
        acknowledged := w.acknowledged ++ call.acks }
    | (w, .failed) => { w with generators := w.generators.eraseIdx g }
  | .fail g =>
    if g < w.generators.length then some { w with generators := w.generators.eraseIdx g }
    else none

/-- The serials the served full list revokes. -/
def listed (w : World) : List String :=
  match w.db.servedCrl with
  | some crl => crl.serials
  | none => []

end World

/-! ## Projections -/

section Projections

variable {db db' : Tables} {e : LogEvent}

/-- What the projection of an event does to the published lists. -/
theorem project_crls (proj : project db e = some db') :
    (e.crl = none ∧ db'.crls = db.crls) ∨ ∃ c, e = .published c ∧ db' = db.insertCrl c := by
  cases e with
  | issued serial issuedAt =>
    cases proj
    refine .inl ⟨rfl, ?_⟩
    unfold Tables.recordIssuedCert
    split <;> rfl
  | revoked serial reasonCode revokedAt =>
    obtain ⟨-, ⟨⟩⟩ := ite_none_right_eq_some.mp proj
    refine .inl ⟨rfl, ?_⟩
    unfold Tables.revokeIssuedCert
    split <;> rfl
  | published c =>
    cases proj
    exact .inr ⟨c, rfl, rfl⟩

theorem insertCrl_issued (c : Crl) : (db.insertCrl c).issued = db.issued := by
  unfold Tables.insertCrl
  split <;> rfl

theorem project_listRevokedCerts (proj : project db e = some db') :
    db.listRevokedCerts ⊆ db'.listRevokedCerts := by
  intro entry listed
  obtain ⟨r, kept, revoked⟩ := mem_listRevokedCerts.mp listed
  refine mem_listRevokedCerts.mpr ?_
  cases e with
  | issued serial issuedAt =>
    cases proj
    unfold Tables.recordIssuedCert
    split
    next => exact ⟨r, kept, revoked⟩
    next => exact ⟨r, List.mem_append_left _ kept, revoked⟩
  | revoked serial reasonCode revokedAt =>
    obtain ⟨-, ⟨⟩⟩ := ite_none_right_eq_some.mp proj
    unfold Tables.revokeIssuedCert
    split
    next =>
      refine ⟨_, List.mem_map_of_mem kept, ?_⟩
      split
      next =>
        -- a revoked serial stays revoked, with its time and its reason
        obtain ⟨revokedAt, at_', rfl⟩ := map_eq_some_iff.mp revoked
        simp [IssuedCert.revoke, IssuedCert.entry, at_']
      next => exact revoked
    next => exact ⟨r, List.mem_append_left _ kept, revoked⟩
  | published c =>
    cases proj
    rw [insertCrl_issued]
    exact ⟨r, kept, revoked⟩

end Projections

/-- A part lists revoked serials that the call has read. -/
theorem artifact_entries_subset (hash : String → Nat) (job : Job) (n : Nat) (part : Part) :
    (job.artifact hash n part).entries ⊆ job.entries := by
  cases part with
  | full => exact List.Subset.refl _
  | shard i =>
    show crlShardEntries hash job.entries i job.shardCount ⊆ job.entries
    unfold crlShardEntries
    split
    next => exact List.nil_subset _
    next => exact List.filter_subset_self _
  | delta =>
    show job.deltaEntries ⊆ job.entries
    unfold Job.deltaEntries
    split
    next => exact List.nil_subset _
    next => exact List.filter_subset_self _

theorem World.catchUpStep_cases {w w' : World} {c : CatchUp} {out : Outcome CatchUp}
    (moved : w.catchUpStep c = (w', out)) :
    (∃ e db checkpoint next, c.pos < c.stop ∧ w.log[c.pos]? = some e ∧
        project w.db e = some db ∧ w' = { w with db, checkpoint } ∧
        (checkpoint = w.checkpoint ∨ checkpoint = max w.checkpoint (c.pos + 1)) ∧
        out = .next next ∧ next.pos = c.pos + 1 ∧ next.stop = c.stop) ∨
      (c.stop ≤ c.pos ∧ w' = { w with checkpoint := max w.checkpoint c.stop } ∧ out = .done) ∨
      (w' = w ∧ out = .failed) := by
  unfold World.catchUpStep at moved
  split at moved
  next more =>
    split at moved
    next =>
      cases moved
      exact .inr (.inr ⟨rfl, rfl⟩)
    next db proj =>
      obtain ⟨e, at_, proj⟩ := bind_eq_some_iff.mp proj
      split at moved
      next =>
        cases moved
        exact .inl ⟨e, db, _, _, more, at_, proj, rfl, .inr rfl, rfl, rfl, rfl⟩
      next =>
        cases moved
        exact .inl ⟨e, db, _, _, more, at_, proj, rfl, .inl rfl, rfl, rfl, rfl⟩
  next past =>
    cases moved
    exact .inr (.inl ⟨Nat.le_of_not_lt past, rfl, rfl⟩)

theorem World.published_append (w : World) (c : Crl) :
    World.published { w with log := w.log ++ [.published c] } = w.published ++ [c] := by
  simp [World.published, LogEvent.crl]

theorem World.mem_published {w : World} {c : Crl} : c ∈ w.published ↔ .published c ∈ w.log := by
  unfold World.published
  rw [List.mem_filterMap]
  constructor
  · rintro ⟨e, logged, listed⟩
    cases e with
    | published d =>
      cases listed
      exact logged
    | issued | revoked => cases listed
  · intro logged
    exact ⟨_, logged, rfl⟩

end Trustctl.Revocation
