import Trustctl.Revocation.Service

/-!
# Certificates leased as dynamic secrets

The provider names a leaf, for its lease, for the sink and so for the events and the tables of
issued serials, by the first 16 digits of the hash of its DER bytes.  The responder and the lists
know the leaf by its serial number, which is identified with its hexadecimal text.

* `Moves`: what a step of the revocation service may do to the log, the tables and the calls of
  `generateCRL`;
* `World.Traced`: what the service knows of a serial comes from the events that name it;
* `PkiWorld.Sound.step`: what every step of the provider and of the service keeps.
-/

namespace Trustctl.Revocation

/-- The text of a SHA-256 digest. -/
abbrev HexDigest := Vector Char 64

open Systems List Store

/-! ## The responder -/

inductive OcspStatus
  | good
  | revoked
  | unknown
deriving DecidableEq

namespace Tables

variable {db : Tables} {serial other : String} {t : Time}

def lookupIssuedCert (db : Tables) (serial : String) : Option IssuedCert :=
  db.issued.find? fun c => c.serial = serial

/-- The status `respondOCSP` signs. -/
def ocspStatus (db : Tables) (serial : String) : OcspStatus :=
  match db.lookupIssuedCert serial with
  | none => .unknown
  | some c => if c.revokedAt.isSome then .revoked else .good

/-- A full list has every serial the responder calls revoked. -/
theorem listed_of_revoked (revoked : db.ocspStatus serial = .revoked) :
    ∃ e ∈ db.listRevokedCerts, e.serial = serial := by
  unfold ocspStatus at revoked
  split at revoked
  · contradiction
  case h_2 c hit =>
    have dated : c.revokedAt.isSome := by grind
    obtain ⟨at_, dated⟩ := Option.isSome_iff_exists.mp dated
    refine ⟨⟨c.serial, at_, c.reasonCode⟩, ?_, by simpa using find?_some hit⟩
    refine mem_listRevokedCerts.mpr ⟨c, List.mem_of_find?_eq_some hit, ?_⟩
    rw [IssuedCert.entry, dated]
    rfl

/-- Recording a serial leaves a known one as it is. -/
theorem ocspStatus_recordIssuedCert :
    (db.recordIssuedCert serial t).ocspStatus other =
      if other = serial ∧ db.ocspStatus other = .unknown then .good else db.ocspStatus other := by
  unfold ocspStatus lookupIssuedCert
  rw [recordIssuedCert]
  by_cases here : (db.issued.any fun c => c.serial = serial)
  · rw [if_pos here]
    grind
  · rw [if_neg here]
    grind

theorem ocspStatus_revokeIssuedCert {why : Int} :
    (db.revokeIssuedCert serial why t).ocspStatus other =
      if other = serial then .revoked else db.ocspStatus other := by
  unfold ocspStatus lookupIssuedCert
  rw [revokeIssuedCert]
  by_cases here : (db.issued.any fun c => c.serial = serial)
  · rw [if_pos here]
    -- the row keeps its serial
    have keeps : ((decide <| IssuedCert.serial · = other) ∘ fun c =>
        if c.serial = serial then c.revoke why t else c) =
          (decide <| IssuedCert.serial · = other) := by
      unfold IssuedCert.revoke
      grind
    simp only [find?_map, keeps]
    cases found : db.issued.find? fun c => c.serial = other with
    | none => grind
    | some c =>
      unfold IssuedCert.revoke
      grind [Option.isSome_iff_ne_none]
  · rw [if_neg here]
    grind

end Tables

/-! ## What a step of the service does -/

/-- The serial an event names. -/
def LogEvent.serial : LogEvent → Option String
  | .issued serial _ | .revoked serial _ _ => some serial
  | .published _ => none

/-- The serial an event revokes. -/
def LogEvent.revokes : LogEvent → Option String
  | .revoked serial _ _ => some serial
  | _ => none

/-- The serials the events of the log name. -/
def World.named (w : World) : List String := w.log.filterMap LogEvent.serial

/-- The event a command appends. -/
def Action.records : Action → Option LogEvent
  | .issue serial issuedAt => some (.issued serial issuedAt)
  | .revoke serial reasonCode revokedAt => some (.revoked serial reasonCode revokedAt)
  | _ => none

/-- The revoked serials a call of `generateCRL` has read. -/
def Phase.read : Phase → Option (List RevokedSerial)
  | .catchUp _ | .surface | .revoked => none
  | .previous entries | .number entries _ => some entries
  | .append job _ _ | .apply job _ _ | .next job _ => some job.entries

/-- A call of `generateCRL` has read the entries. -/
def World.Reads (w : World) (entries : List RevokedSerial) : Prop :=
  ∃ call ∈ w.generators, call.phase.read = some entries

/-- What a step may do: the tables change by the projection of an event, the log grows by the event
of a command or by a list of entries that a call has read, and a call reads the tables. -/
structure Moves (w : World) (records : Option LogEvent) (w' : World) : Prop where
  tables : w'.db = w.db ∨
    ∃ e, (e ∈ w.log ∨ e.serial = none) ∧ project w.db e = some w'.db
  log : w'.log = w.log ∨ (∃ e, records = some e ∧ e.crl = none ∧ w'.log = w.log ++ [e]) ∨
    ∃ c entries, w'.log = w.log ++ [.published c] ∧ w.Reads entries ∧ c.entries ⊆ entries ∧
      (c.kind = .full → c.entries = entries)
  reads : ∀ entries, w'.Reads entries → w.Reads entries ∨ entries = w.db.listRevokedCerts

section Steps

variable {hash : String → Nat} {w w' : World} {records : Option LogEvent}

theorem Moves.refl : Moves w records w := ⟨.inl rfl, .inl rfl, fun _ => .inl⟩

theorem Moves.catchUpStep {c : CatchUp} {out : Outcome CatchUp}
    (moved : w.catchUpStep c = (w', out)) : Moves w records w' := by
  obtain ⟨e, db, checkpoint, next, -, at_, projected, rfl, -⟩ | ⟨-, rfl, -⟩ | ⟨rfl, -⟩ :=
    World.catchUpStep_cases moved
  · exact ⟨.inr ⟨e, .inl (mem_of_getElem? at_), projected⟩, .inl rfl, fun _ => .inl⟩
  · exact ⟨.inl rfl, .inl rfl, fun _ => .inl⟩
  · exact .refl

/-- The calls that go on have read what they had read before. -/
theorem Moves.calls (moves : Moves w records w') {generators : List Generator}
    {acknowledged : List String} {catchUps : List CatchUp}
    (still : ∀ call ∈ generators, call ∈ w'.generators ∨ ∀ entries,
      call.phase.read = some entries → w.Reads entries ∨ entries = w.db.listRevokedCerts) :
    Moves w records { w' with generators, acknowledged, catchUps } := by
  refine ⟨moves.tables, moves.log, ?_⟩
  rintro entries ⟨call, kept, read⟩
  obtain old | new := still call kept
  · exact moves.reads entries ⟨call, old, read⟩
  · exact new entries read

theorem Phase.read_generateStep {now : Time} {phase next : Phase}
    (moved : w.generateStep hash now phase = (w', .next next)) :
    next.read = phase.read ∨ next.read = some w.db.listRevokedCerts := by
  cases phase <;> rw [World.generateStep] at moved <;> grind [Phase.read]

theorem Moves.generateStep {now : Time} {call : Generator} {out : Outcome Phase}
    (running : call ∈ w.generators) (moved : w.generateStep hash now call.phase = (w', out)) :
    Moves w records w' := by
  cases at_ : call.phase with
  | catchUp c =>
    rw [at_, World.generateStep] at moved
    split at moved <;> cases moved <;> exact .catchUpStep ‹_›
  | append job part number =>
    rw [at_, World.generateStep] at moved
    split at moved <;> cases moved
    · refine ⟨.inl rfl, .inr (.inr ⟨_, job.entries, rfl, ⟨call, running, ?_⟩, ?_, ?_⟩),
        fun _ => .inl⟩
      · rw [at_]
        rfl
      · exact artifact_entries_subset ..
      · cases part with
        | full => exact fun _ => rfl
        | shard | delta => nofun
    · exact .refl
  | apply job part number =>
    rw [at_, World.generateStep] at moved
    cases moved
    exact ⟨.inr ⟨.published _, .inr rfl, rfl⟩, .inl rfl, fun _ => .inl⟩
  | surface | revoked | previous | number | next =>
    rw [at_, World.generateStep] at moved
    cases moved
    exact .refl

theorem Moves.of_step {a : Action} (moved : w.step hash a = some w') : Moves w a.records w' := by
  cases a with
  | issue | revoke =>
    cases moved
    exact ⟨.inl rfl, .inr (.inl ⟨_, rfl, rfl, rfl⟩), fun _ => .inl⟩
  | project i =>
    obtain ⟨e, at_, rfl⟩ := Option.map_eq_some_iff.mp moved
    split
    next db projected =>
      exact ⟨.inr ⟨e, .inl (mem_of_getElem? at_), projected⟩, .inl rfl, fun _ => .inl⟩
    next => exact .refl
  | tail reach =>
    obtain ⟨e, at_, rfl⟩ := Option.map_eq_some_iff.mp moved
    split
    next db projected =>
      cases reach <;>
        exact ⟨.inr ⟨e, .inl (mem_of_getElem? at_), projected⟩, .inl rfl, fun _ => .inl⟩
    next => exact .refl
  | boot =>
    cases moved
    exact Moves.refl.calls fun _ => .inl
  | catchUp k =>
    obtain ⟨c, -, rfl⟩ := Option.map_eq_some_iff.mp moved
    cases ran : w.catchUpStep c with
    | mk mid out => cases out <;> exact (Moves.catchUpStep ran).calls fun _ => .inl
  | begin acks =>
    obtain ⟨-, ⟨⟩⟩ := Option.ite_none_right_eq_some.mp moved
    exact Moves.refl.calls (forall_mem_snoc (fun _ => .inl) (.inr nofun))
  | generate g now =>
    obtain ⟨call, at_, rfl⟩ := Option.map_eq_some_iff.mp moved
    have running := mem_of_getElem? at_
    cases ran : w.generateStep hash now call.phase with
    | mk mid out =>
      have moves : Moves w none mid := .generateStep running ran
      cases out with
      | next phase =>
        refine moves.calls fun other mem => ?_
        obtain old | rfl := mem_or_eq_of_mem_set mem
        · exact .inl old
        · refine .inr fun entries read => ?_
          obtain same | fresh := Phase.read_generateStep ran
          · exact .inl ⟨call, running, same.symm.trans read⟩
          · exact .inr (Option.some.inj (read.symm.trans fresh))
      | done | failed => exact moves.calls fun _ mem => .inl (mem_of_mem_eraseIdx mem)
  | fail g =>
    obtain ⟨-, ⟨⟩⟩ := Option.ite_none_right_eq_some.mp moved
    exact Moves.refl.calls fun _ mem => .inl (mem_of_mem_eraseIdx mem)

end Steps

/-! ## What the service knows -/

section Traces

variable {hash : String → Nat} {w w' : World} {db db' : Tables} {e : LogEvent} {serial : String}

/-- What an event makes of the status of a serial. -/
def LogEvent.marks (e : LogEvent) (serial : String) (old : OcspStatus) : OcspStatus :=
  match e with
  | .issued s _ => if serial = s ∧ old = .unknown then .good else old
  | .revoked s _ _ => if serial = s then .revoked else old
  | .published _ => old

theorem ocspStatus_project (projected : project db e = some db') (serial : String) :
    db'.ocspStatus serial = e.marks serial (db.ocspStatus serial) := by
  cases e with
  | issued s t =>
    cases projected
    exact Tables.ocspStatus_recordIssuedCert
  | revoked s why t =>
    obtain ⟨-, ⟨⟩⟩ := Option.ite_none_right_eq_some.mp projected
    exact Tables.ocspStatus_revokeIssuedCert
  | published c =>
    cases projected
    unfold Tables.ocspStatus Tables.lookupIssuedCert
    rw [insertCrl_issued]
    rfl

theorem known_of_listed {entry : RevokedSerial} (listed : entry ∈ db.listRevokedCerts) :
    db.ocspStatus entry.serial ≠ .unknown := by
  obtain ⟨c, row, dated⟩ := mem_listRevokedCerts.mp listed
  obtain ⟨at_, -, rfl⟩ := Option.map_eq_some_iff.mp dated
  unfold Tables.ocspStatus Tables.lookupIssuedCert
  grind

/-- A known serial stays known and a revoked one revoked. -/
theorem Moves.status {records : Option LogEvent} (moves : Moves w records w') (serial : String) :
    (w.db.ocspStatus serial ≠ .unknown → w'.db.ocspStatus serial ≠ .unknown) ∧
      (w.db.ocspStatus serial = .revoked → w'.db.ocspStatus serial = .revoked) := by
  obtain same | ⟨e, -, projected⟩ := moves.tables
  · rw [same]
    exact ⟨id, id⟩
  · rw [ocspStatus_project projected]
    unfold LogEvent.marks
    grind

theorem Moves.log_prefix {records : Option LogEvent} (moves : Moves w records w') :
    w.log <+: w'.log := by
  obtain same | ⟨_, -, -, more⟩ | ⟨_, _, more, -⟩ := moves.log
  · exact same ▸ prefix_rfl
  · exact more ▸ prefix_append ..
  · exact more ▸ prefix_append ..

/-- A list that was not in the log is of entries a call has read. -/
theorem Moves.published {records : Option LogEvent} (moves : Moves w records w')
    {c : Crl} (logged : .published c ∈ w'.log) :
    .published c ∈ w.log ∨ ∃ entries, w.Reads entries ∧ c.entries ⊆ entries ∧
      (c.kind = .full → c.entries = entries) := by
  obtain same | ⟨e, -, command, more⟩ | ⟨d, entries, more, read⟩ := moves.log
  · exact .inl (same ▸ logged)
  · obtain old | new := mem_snoc.mp (more ▸ logged)
    · exact .inl old
    · cases new ▸ command
  · obtain old | new := mem_snoc.mp (more ▸ logged)
    · exact .inl old
    · cases new
      exact .inr ⟨entries, read⟩

/-- What the service knows of a serial comes from the events that name it. -/
structure World.Traced (w : World) : Prop where
  known : ∀ serial, w.db.ocspStatus serial ≠ .unknown → serial ∈ w.log.filterMap LogEvent.serial
  revoked : ∀ serial, w.db.ocspStatus serial = .revoked →
    serial ∈ w.log.filterMap LogEvent.revokes
  reads : ∀ entries, w.Reads entries → ∀ entry ∈ entries, entry.serial ∈ w.named
  lists : ∀ c ∈ w.published, ∀ entry ∈ c.entries, entry.serial ∈ w.named

theorem World.Traced.moves {records : Option LogEvent} (traced : w.Traced)
    (moves : Moves w records w') : w'.Traced := by
  have more {f : LogEvent → Option String} : w.log.filterMap f ⊆ w'.log.filterMap f :=
    filterMap_subset f moves.log_prefix.subset
  refine ⟨fun serial known => ?_, fun serial revoked => ?_, fun entries reads entry listed => ?_,
    fun c published entry listed => ?_⟩
  · obtain same | ⟨e, logged, projected⟩ := moves.tables
    · exact more (traced.known serial (same ▸ known))
    · rw [ocspStatus_project projected] at known
      by_cases old : w.db.ocspStatus serial = .unknown
      · have names : e.serial = some serial := by
          unfold LogEvent.marks at known
          grind [LogEvent.serial]
        obtain logged | none := logged
        · exact more (mem_filterMap.mpr ⟨e, logged, names⟩)
        · cases none.symm.trans names
      · exact more (traced.known serial old)
  · obtain same | ⟨e, logged, projected⟩ := moves.tables
    · exact more (traced.revoked serial (same ▸ revoked))
    · rw [ocspStatus_project projected] at revoked
      by_cases old : w.db.ocspStatus serial = .revoked
      · exact more (traced.revoked serial old)
      · have names : e.revokes = some serial ∧ e.serial ≠ none := by
          unfold LogEvent.marks at revoked
          grind [LogEvent.serial, LogEvent.revokes]
        exact more (mem_filterMap.mpr ⟨e, logged.resolve_right names.2, names.1⟩)
  · obtain old | rfl := moves.reads entries reads
    · exact more (traced.reads entries old entry listed)
    · exact more (traced.known _ (known_of_listed listed))
  · rw [World.mem_published] at published
    obtain old | ⟨entries, reads, sub⟩ := moves.published published
    · exact more (traced.lists c (World.mem_published.mpr old) entry listed)
    · exact more (traced.reads entries reads entry (sub.1 listed))

end Traces

/-! ## The provider -/

/-- `pkisecret.Profile`; an empty list allows every name. -/
structure PkiProfile where
  name : String
  allowedCommonNames : List String := []
  maxTtl : Int

structure PkiProvider where
  profile : PkiProfile
  gate : Option (String → Bool × String) := none

/-- The checks of `Generate`. -/
def PkiProvider.admit (p : PkiProvider) (cn : String) : Except String Unit := do
  if cn = "" then throw "pkisecret: common name required"
  if !p.profile.allowedCommonNames.isEmpty && !p.profile.allowedCommonNames.contains cn then
    throw s!"pkisecret: common name {cn.quote} not permitted by profile {p.profile.name.quote}"
  if let some gate := p.gate then
    if !(gate cn).1 then throw s!"pkisecret: policy denied {cn.quote}: {(gate cn).2}"

def PkiProvider.lifetime (p : PkiProvider) (ttl : Int) : Int :=
  if ttl ≤ 0 ∨ (0 < p.profile.maxTtl ∧ p.profile.maxTtl < ttl) then p.profile.maxTtl else ttl

structure PkiLeaf where
  commonName : String
  ttl : Int
  serial : String
  key : Nat
deriving DecidableEq

/-- A leaf that was handed out under a reference. -/
structure PkiLease where
  leaf : PkiLeaf
  /-- `BackendRef`, also returned as the serial. -/
  ref : String
  /-- The position of the event the sink appended for it. -/
  stored : Option Nat
  /-- A `Revoke` of the reference has succeeded. -/
  revoked : Bool := false
deriving DecidableEq

/-- A call of the provider between the append of its event, if the sink made it, and its return. -/
inductive PkiCall
  | issuing (leaf : PkiLeaf) (stored : Option Nat)
  | revoking (ref : String) (stored : Nat)
deriving DecidableEq

structure PkiWorld where
  service : World := {}
  calls : List PkiCall := []
  leases : List PkiLease := []

inductive PkiAction
  /-- `Generate` signs a leaf and appends that it was issued.  An error of the sink is ignored. -/
  | generate (cn : String) (ttl : Int) (serial : String) (key : Nat) (now : Time) (appends : Bool)
  /-- `Revoke` of a lease, on request or when it expires, appends that the reference is revoked. -/
  | revoke (ref : String) (now : Time)
  /-- The call projects its event, unless that fails, and returns.  A leaf whose key cannot be
  exported is not handed out. -/
  | finish (k : Nat) (projects exports : Bool)
  /-- A step of the revocation service, such as one of `generateCRL`, or a command of another
  party. -/
  | service (a : Action)

def reasonCessationOfOperation : Int := 5

section

variable (p : PkiProvider) (sha256Hex : PkiLeaf → HexDigest) (hash : String → Nat)

/-- `crypto.SHA256Hex(certDER)[:16]`. -/
def backendRef (leaf : PkiLeaf) : String := .ofList ((sha256Hex leaf).toList.take 16)

namespace PkiWorld

def step (w : PkiWorld) : PkiAction → Option PkiWorld
  | .generate cn ttl serial key now appends =>
    match p.admit cn with
    | .error _ => some w
    | .ok _ =>
      let leaf := ⟨cn, p.lifetime ttl, serial, key⟩
      if appends then
        (w.service.step hash (.issue (backendRef sha256Hex leaf) now)).map fun service =>
          { w with service, calls := w.calls ++ [.issuing leaf (some w.service.log.length)] }
      else some { w with calls := w.calls ++ [.issuing leaf none] }
  | .revoke ref now =>
    if w.leases.any fun l => l.ref = ref then
      (w.service.step hash (.revoke ref reasonCessationOfOperation now)).map fun service =>
        { w with service, calls := w.calls ++ [.revoking ref w.service.log.length] }
    else none
  | .finish k projects exports =>
    match w.calls[k]? with
    | none => none
    | some (.issuing leaf stored) =>
      let service := match stored with
        | some i => if projects then w.service.step hash (.project i) else some w.service
        | none => some w.service
      let handed := if exports then [⟨leaf, backendRef sha256Hex leaf, stored, false⟩] else []
      service.map fun service =>
        { service, calls := w.calls.eraseIdx k, leases := w.leases ++ handed }
    | some (.revoking ref i) =>
      if projects then
        (w.service.step hash (.project i)).map fun service =>
          { service, calls := w.calls.eraseIdx k
            leases := w.leases.map fun l => { l with revoked := l.revoked || l.ref = ref } }
      else some { w with calls := w.calls.eraseIdx k }
  | .service a => (w.service.step hash a).map fun service => { w with service }

/-- The serials of the leaves that were signed and, as far as their calls have returned, handed
out. -/
def drawn (w : PkiWorld) : List String :=
  w.leases.map (fun l => l.leaf.serial) ++ w.calls.filterMap fun
    | .issuing leaf _ => some leaf.serial
    | .revoking .. => none

/-- A drawn serial is new to the service and the sink records the leaf; the commands of other
parties name no drawn serial. -/
def ordinary (w : PkiWorld) : PkiAction → Bool
  | .generate _ _ serial _ _ appends => appends && !w.service.named.contains serial
  | .revoke .. => true
  | .finish k projects _ => match w.calls[k]? with
    | some (.issuing ..) => projects
    | _ => true
  | .service a => (a.records.bind LogEvent.serial).all fun serial => !w.drawn.contains serial

end PkiWorld

/-- The lease is named by the serial of its leaf; the responder calls the leaf good unless an event
later than its own revokes it, and revoked once a `Revoke` has succeeded; every full list that is
published then, by a call that had not read the revoked serials before, has it; and `Revoke` changes
the status of no other serial. -/
structure Right (w : PkiWorld) (l : PkiLease) : Prop where
  named : l.ref = l.leaf.serial
  good : (∀ i, l.stored = some i → ∀ e ∈ w.service.log.drop i,
    e.revokes ≠ some l.leaf.serial) → w.service.db.ocspStatus l.leaf.serial = .good
  revoked : l.revoked → w.service.db.ocspStatus l.leaf.serial = .revoked
  listed : l.revoked → ∀ later w',
    Run (PkiWorld.step p sha256Hex hash) (fun _ _ => True) w later w' →
      ∀ c ∈ w'.service.published, c.kind = .full → c ∉ w.service.published →
        ¬ w.service.Reads c.entries → l.leaf.serial ∈ c.serials
  alone : ∀ k i projects exports w', w.calls[k]? = some (.revoking l.ref i) →
    w.step p sha256Hex hash (.finish k projects exports) = some w' →
      ∀ serial, serial ≠ l.leaf.serial →
        w'.service.db.ocspStatus serial = w.service.db.ocspStatus serial

end

section Leases

variable {p : PkiProvider} {sha256Hex : PkiLeaf → HexDigest} {hash : String → Nat}
variable {w w' : PkiWorld} {l : PkiLease} {leaf : PkiLeaf} {serial : String} {i : Nat}

theorem length_backendRef : (backendRef sha256Hex leaf).length = 16 := by
  simp [backendRef]

/-- The reference is the serial exactly if the hash begins with the serial's 16 digits. -/
theorem backendRef_eq_iff : backendRef sha256Hex leaf = serial ↔
    serial.length = 16 ∧ serial.toList <+: (sha256Hex leaf).toList := by
  constructor
  · rintro rfl
    exact ⟨length_backendRef, by simp [backendRef, take_prefix]⟩
  · rintro ⟨digits, begins⟩
    have digits : serial.toList.length = 16 := digits
    rw [backendRef, ← digits, ← prefix_iff_eq_take.mp begins, String.ofList_toList]

/-- The leaf is recorded at the position. -/
structure World.Records (w : World) (sha256Hex : PkiLeaf → HexDigest) (leaf : PkiLeaf)
    (i : Nat) : Prop where
  logged : ∃ now, w.log[i]? = some (.issued (backendRef sha256Hex leaf) now)
  fresh : ∀ e ∈ w.log.take i, e.serial ≠ some leaf.serial
  /-- A serial that cannot be a reference is unknown to the service. -/
  strange : leaf.serial.length ≠ 16 → leaf.serial ∉ w.named

/-- What holds of a call that has not returned. -/
def PkiCall.Sound (sha256Hex : PkiLeaf → HexDigest) (w : World) : PkiCall → Prop
  | .issuing leaf stored => ∃ i, stored = some i ∧ w.Records sha256Hex leaf i
  | .revoking ref i => ∃ now, w.log[i]? = some (.revoked ref reasonCessationOfOperation now)

/-- What holds of a lease. -/
structure PkiLease.Sound (sha256Hex : PkiLeaf → HexDigest) (w : World) (l : PkiLease) :
    Prop where
  ref : l.ref = backendRef sha256Hex l.leaf
  recorded : ∃ i, l.stored = some i ∧ w.Records sha256Hex l.leaf i
  known : w.db.ocspStatus l.ref ≠ .unknown
  revoked : l.revoked → w.db.ocspStatus l.ref = .revoked

structure PkiWorld.Sound (sha256Hex : PkiLeaf → HexDigest) (w : PkiWorld) : Prop where
  traced : w.service.Traced
  calls : ∀ call ∈ w.calls, call.Sound sha256Hex w.service
  leases : ∀ l ∈ w.leases, l.Sound sha256Hex w.service

section Moves

variable {u u' : World} {records : Option LogEvent}

theorem World.Records.moves (recorded : u.Records sha256Hex leaf i) (moves : Moves u records u')
    (names : ∀ serial, records.bind LogEvent.serial = some serial →
      serial.length = 16 ∨ serial ≠ leaf.serial) : u'.Records sha256Hex leaf i := by
  obtain ⟨⟨now, logged⟩, fresh, strange⟩ := recorded
  obtain ⟨more, longer⟩ := moves.log_prefix
  obtain ⟨inside, -⟩ := List.getElem?_eq_some_iff.mp logged
  refine ⟨⟨now, ?_⟩, ?_, fun digits named => ?_⟩
  · rw [← longer, getElem?_append_left inside, logged]
  · rw [← longer, take_append_of_le_length inside.le]
    exact fresh
  · obtain ⟨e, logged, named⟩ := mem_filterMap.mp named
    have before (old : e ∈ u.log) : False := strange digits (mem_filterMap.mpr ⟨e, old, named⟩)
    obtain same | ⟨_, recorded, -, more⟩ | ⟨_, _, more, -⟩ := moves.log
    · exact before (same ▸ logged)
    · obtain old | rfl := mem_snoc.mp (more ▸ logged)
      · exact before old
      · obtain short | other := names leaf.serial (by rw [recorded]; exact named)
        · exact digits short
        · exact other rfl
    · obtain old | rfl := mem_snoc.mp (more ▸ logged)
      · exact before old
      · cases named

/-- The service moves on; a command names a serial of 16 digits or one that was not drawn. -/
theorem PkiWorld.Sound.moves (sound : w.Sound sha256Hex) (moves : Moves w.service records u')
    (names : ∀ serial, records.bind LogEvent.serial = some serial →
      serial.length = 16 ∨ serial ∉ w.drawn) :
    PkiWorld.Sound sha256Hex { w with service := u' } where
  traced := sound.traced.moves moves
  calls call made := by
    have old := sound.calls call made
    cases call with
    | issuing leaf stored =>
      obtain ⟨i, at_, recorded⟩ := old
      refine ⟨i, at_, recorded.moves moves fun serial named => (names serial named).imp_right ?_⟩
      rintro other rfl
      exact other (mem_append_right _ (mem_filterMap.mpr ⟨_, made, rfl⟩))
    | revoking ref i =>
      obtain ⟨now, logged⟩ := old
      obtain ⟨more, longer⟩ := moves.log_prefix
      obtain ⟨inside, -⟩ := List.getElem?_eq_some_iff.mp logged
      exact ⟨now, by rw [← longer, getElem?_append_left inside, logged]⟩
  leases l leased := by
    obtain ⟨ref, ⟨i, at_, recorded⟩, known, revoked⟩ := sound.leases l leased
    obtain ⟨stays, stays'⟩ := moves.status l.ref
    refine ⟨ref, ⟨i, at_, recorded.moves moves fun serial named => ?_⟩, stays known,
      fun marked => stays' (revoked marked)⟩
    refine (names serial named).imp_right ?_
    rintro other rfl
    exact other (mem_append_left _ (mem_map_of_mem leased))

/-- The projection of an event that can be projected. -/
theorem ocspStatus_step_project {e : LogEvent} (logged : u.log[i]? = some e)
    (moved : u.step hash (.project i) = some u') (valid : (project u.db e).isSome)
    (serial : String) : u'.db.ocspStatus serial = e.marks serial (u.db.ocspStatus serial) := by
  rw [World.step, logged] at moved
  cases moved
  obtain ⟨db, projected⟩ := Option.isSome_iff_exists.mp valid
  simp only [projected]
  exact ocspStatus_project projected serial

end Moves

theorem PkiWorld.Sound.init : PkiWorld.Sound sha256Hex {} where
  traced := ⟨fun _ known => absurd rfl known, nofun, nofun, nofun⟩
  calls := nofun
  leases := nofun

theorem PkiWorld.Sound.step {a : PkiAction} (sound : w.Sound sha256Hex) (ok : w.ordinary a)
    (moved : w.step p sha256Hex hash a = some w') : w'.Sound sha256Hex := by
  cases a with
  | generate cn ttl serial key now appends =>
    rw [PkiWorld.step] at moved
    split at moved
    · cases moved
      exact sound
    rw [PkiWorld.ordinary, Bool.and_eq_true] at ok
    obtain ⟨rfl, fresh⟩ := ok
    rw [if_pos rfl] at moved
    cases moved
    have fresh : serial ∉ w.service.named := by simpa using fresh
    set leaf : PkiLeaf := ⟨cn, p.lifetime ttl, serial, key⟩
    obtain ⟨traced, calls, leases⟩ := sound.moves
      (@Moves.of_step hash w.service _ (.issue (backendRef sha256Hex leaf) now) rfl)
      (by rintro _ ⟨⟩; exact .inl length_backendRef)
    refine ⟨traced, forall_mem_snoc calls ?_, leases⟩
    refine ⟨_, rfl, ⟨now, getElem?_concat_length⟩, fun e before named => ?_, fun digits named => ?_⟩
    · rw [take_left] at before
      exact fresh (mem_filterMap.mpr ⟨e, before, named⟩)
    · obtain ⟨e, logged, named⟩ := mem_filterMap.mp named
      obtain old | rfl := mem_snoc.mp logged
      · exact fresh (mem_filterMap.mpr ⟨e, old, named⟩)
      · exact digits (Option.some.inj named ▸ length_backendRef)
  | revoke ref now =>
    obtain ⟨some, ⟨⟩⟩ := Option.ite_none_right_eq_some.mp moved
    obtain ⟨l, leased, rfl⟩ : ∃ l ∈ w.leases, l.ref = ref := by simpa using some
    obtain ⟨traced, calls, leases⟩ := sound.moves
      (@Moves.of_step hash w.service _ (.revoke l.ref reasonCessationOfOperation now) rfl)
      (by rintro _ ⟨⟩; exact .inl ((sound.leases l leased).ref ▸ length_backendRef))
    exact ⟨traced, forall_mem_snoc calls ⟨now, getElem?_concat_length⟩, leases⟩
  | finish k projects exports =>
    rw [PkiWorld.step] at moved
    split at moved
    · cases moved
    case h_2 leaf stored at_ =>
      rw [PkiWorld.ordinary, at_] at ok
      cases ok
      obtain ⟨i, rfl, ⟨now, logged⟩, -⟩ := sound.calls _ (mem_of_getElem? at_)
      obtain ⟨service, stepped, rfl⟩ := Option.map_eq_some_iff.mp moved
      have stepped : w.service.step hash (.project i) = some service := stepped
      obtain ⟨traced, calls, leases⟩ := sound.moves (.of_step stepped) nofun
      refine ⟨traced, fun other mem => calls other (mem_of_mem_eraseIdx mem), ?_⟩
      refine forall_mem_append.mpr ⟨leases, ?_⟩
      split
      · refine forall_mem_singleton.mpr ⟨rfl, calls _ (mem_of_getElem? at_), ?_, nofun⟩
        rw [ocspStatus_step_project logged stepped rfl, LogEvent.marks]
        grind
      · nofun
    case h_3 ref i at_ =>
      obtain ⟨now, logged⟩ := sound.calls _ (mem_of_getElem? at_)
      split at moved
      · obtain ⟨service, stepped, rfl⟩ := Option.map_eq_some_iff.mp moved
        obtain ⟨traced, calls, leases⟩ := sound.moves (.of_step stepped) nofun
        refine ⟨traced, fun other mem => calls other (mem_of_mem_eraseIdx mem), ?_⟩
        refine forall_mem_map.mpr fun l leased => ?_
        obtain ⟨named, recorded, known, revoked⟩ := leases l leased
        refine ⟨named, recorded, known, fun marked => ?_⟩
        obtain old | rfl : l.revoked = true ∨ l.ref = ref := by simpa using marked
        · exact revoked old
        · exact (ocspStatus_step_project logged stepped rfl _).trans (if_pos rfl)
      · cases moved
        exact ⟨sound.traced, fun other mem => sound.calls other (mem_of_mem_eraseIdx mem),
          sound.leases⟩
  | service a =>
    obtain ⟨service, stepped, rfl⟩ := Option.map_eq_some_iff.mp moved
    refine sound.moves (.of_step stepped) fun serial named => .inr fun drawn => ?_
    rw [PkiWorld.ordinary, named] at ok
    simp [drawn] at ok

/-- Every step of the system is at most one of the service. -/
theorem PkiWorld.step_moves {a : PkiAction} (moved : w.step p sha256Hex hash a = some w') :
    ∃ records, Moves w.service records w'.service := by
  cases a with
  | generate cn ttl serial key now appends =>
    rw [PkiWorld.step] at moved
    split at moved
    · cases moved
      exact ⟨none, .refl⟩
    split at moved <;> cases moved
    · exact ⟨_, @Moves.of_step hash w.service _ (.issue ..) rfl⟩
    · exact ⟨none, .refl⟩
  | revoke ref now =>
    obtain ⟨-, ⟨⟩⟩ := Option.ite_none_right_eq_some.mp moved
    exact ⟨_, @Moves.of_step hash w.service _ (.revoke ..) rfl⟩
  | finish k projects exports =>
    rw [PkiWorld.step] at moved
    split at moved
    · cases moved
    · obtain ⟨service, stepped, rfl⟩ := Option.map_eq_some_iff.mp moved
      split at stepped
      · split at stepped
        · exact ⟨_, .of_step stepped⟩
        · cases stepped
          exact ⟨none, .refl⟩
      · cases stepped
        exact ⟨none, .refl⟩
    · split at moved
      · obtain ⟨service, stepped, rfl⟩ := Option.map_eq_some_iff.mp moved
        exact ⟨_, .of_step stepped⟩
      · cases moved
        exact ⟨none, .refl⟩
  | service a =>
    obtain ⟨service, stepped, rfl⟩ := Option.map_eq_some_iff.mp moved
    exact ⟨_, .of_step stepped⟩

/-- A full list of a call that reads after the serial was revoked has the serial. -/
theorem listed_later {later : List PkiAction}
    (run : Run (PkiWorld.step p sha256Hex hash) (fun _ _ => True) w later w')
    (revoked : w.service.db.ocspStatus serial = .revoked) {c : Crl}
    (published : c ∈ w'.service.published) (full : c.kind = .full)
    (new : c ∉ w.service.published) (unread : ¬ w.service.Reads c.entries) :
    serial ∈ c.serials := by
  -- what a call has read, and a full list, is as old as `w` or has the serial
  have inv := run.invariant
    (I := fun u => u.service.db.ocspStatus serial = .revoked ∧
      (∀ entries, u.service.Reads entries → w.service.Reads entries ∨
        ∃ e ∈ entries, e.serial = serial) ∧
      ∀ c, .published c ∈ u.service.log → c.kind = .full → .published c ∈ w.service.log ∨
        w.service.Reads c.entries ∨ ∃ e ∈ c.entries, e.serial = serial)
    (fun u a u' _ moved so => ?_)
    ⟨revoked, fun _ reads => .inl reads, fun _ old _ => .inl old⟩
  · obtain old | old | ⟨e, listed, named⟩ := inv.2.2 c (World.mem_published.mp published) full
    · exact absurd (World.mem_published.mpr old) new
    · exact absurd old unread
    · exact mem_map.mpr ⟨e, listed, named⟩
  · obtain ⟨records, moves⟩ := PkiWorld.step_moves moved
    obtain ⟨revoked, reads, lists⟩ := so
    refine ⟨(moves.status serial).2 revoked, fun entries now => ?_, fun c logged full => ?_⟩
    · obtain old | rfl := moves.reads entries now
      · exact reads entries old
      · exact .inr (Tables.listed_of_revoked revoked)
    · obtain old | ⟨entries, read, -, same⟩ := moves.published logged
      · exact lists c old full
      · exact .inr (same full ▸ reads entries read)

end Leases

/-- Any name, for a minute. -/
def anyName : PkiProvider where
  profile := { name := "any", maxTtl := 60 }

/-- A leaf is issued, handed out and revoked. -/
def leaseRevoked (serial ref : String) : List PkiAction :=
  [.generate "web" 0 serial 0 1 true, .finish 0 true true, .revoke ref 2, .finish 0 true true]

/-- A lease whose hash begins with the serial. -/
def luckyLease : PkiLease where
  leaf := ⟨"web", 60, "aaaaaaaaaaaaaaaa", 0⟩
  ref := "aaaaaaaaaaaaaaaa"
  stored := some 0
  revoked := true

end Trustctl.Revocation
