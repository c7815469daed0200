import Trustctl.Audit.Chain
import Trustctl.Systems.Table
import Mathlib.Data.List.Infix

/-!
# Audit queries and evidence bundles

`Search` numbers a tenant's events past its sealed boundary, filters them and seals them from the
boundary's hash; `Export` writes them as a bundle and `VerifyBundle` recomputes the chain from what
it reads.  A signature is taken to return what was signed, and a bundle is what it decodes to.

* `verifyFrom_sealFrom`: what `SealFrom` seals verifies, if every record can be written;
* `link_exported`: a record keeps its link when it is written and read;
* `export_verifies_iff`: when an export succeeds and verifies, together with the tenant's chain;
* `empty_export_fails`: past a sealed boundary a bundle without records does not verify.
-/

namespace Trustctl.Audit

open Systems List Option

/-! ## Queries -/

/-- An event of the log, whose texts and time were read from JSON. -/
structure LogEvent where
  sequence : Nat
  id : String
  type : String
  tenantId : String
  time : UtcTime
  actor : Option (String × List String) := none
  data : GoString := []
  writable : 0 ≤ time.year ∧ time.year ≤ 9999 := by decide

/-- `Query`; no bound stands for the zero time. -/
structure Query where
  tenantId : String
  types : List String := []
  featureId : String := ""
  action : String := ""
  since : Option UtcTime := none
  until_ : Option UtcTime := none
  asOfSequence : Nat := 0
  contains : String := ""
  limit : Int := 0

/-- `Checkpoint`, without its tenant and the archive. -/
structure SealedBoundary where
  boundarySeq : Nat
  boundaryHash : String
  recordCount : Nat

/-- The libraries of the service: also the ledger of event types, and the redaction of erased
subjects. -/
structure Service extends Library where
  eventTypes : String → String → Option (List String) := fun _ _ => none
  eventTypes_unset : eventTypes "" "" = none := by rfl
  redactActor : String → Option (String × List String) → Option (String × List String) :=
    fun _ a => a
  redactJson : String → GoString → GoString := fun _ d => d

/-- The log and the latest sealed boundary of each tenant. -/
structure AuditLog where
  log : List LogEvent := []
  checkpoints : Table String SealedBoundary := []

def UtcTime.key (t : UtcTime) : List Int :=
  [t.year, t.month, t.day, t.hour, t.minute, t.second, t.nanosecond]

def UtcTime.before (t u : UtcTime) : Bool := t.key < u.key

/-- `matches`, on an event with its data redacted. -/
def Service.matches_ (svc : Service) (q : Query) (e : LogEvent) (data : GoString) (n : Nat) :
    Bool :=
  !(q.asOfSequence ≠ 0 ∧ q.asOfSequence < n) && !(q.since.any fun t => e.time.before t) &&
    !(q.until_.any fun t => t.before e.time) && (q.types.isEmpty || q.types.contains e.type) &&
    ((svc.eventTypes q.featureId q.action).all fun types => types.contains e.type) &&
    (q.contains = "" || decide (text q.contains <:+: text e.type) ||
      decide (text q.contains <:+: data))

def Service.record (svc : Service) (e : LogEvent) (n : Nat) : Record where
  sequence := n
  streamSequence := e.sequence
  id := text e.id
  type := text e.type
  tenantId := text e.tenantId
  time := e.time
  actor := (svc.redactActor e.tenantId e.actor).map fun a => ⟨text a.1, a.2.map text⟩
  data := svc.redactJson e.tenantId e.data

/-- `SealFrom`; a record that cannot be written is passed over. -/
def Library.sealFrom (lib : Library) (prev : String) : List Record → List Record
  | [] => []
  | r :: rest =>
    match lib.link prev r with
    | none => { r with hash := "" } :: lib.sealFrom prev rest
    | some h => { r with hash := h } :: lib.sealFrom h rest

def chainHead (records : List Record) : String := (records.getLast?.map Record.hash).getD ""

namespace AuditLog

variable (svc : Service) (l : AuditLog)

/-- `searchSeed`: the seed and the number of records before it. -/
def searchSeed (τ : String) : String × Nat :=
  ((l.checkpoints.get τ).map fun c => (c.boundaryHash, c.recordCount)).getD ("", 0)

/-- The tenant's events past its boundary. -/
def live (τ : String) : List LogEvent :=
  l.log.filter fun e => (l.checkpoints.get τ).all (fun c => c.boundarySeq < e.sequence) &&
    e.tenantId = τ

/-- The records of the tenant past its boundary that match. -/
def selected (q : Query) : List Record :=
  (((l.live q.tenantId).zipIdx ((l.searchSeed q.tenantId).2 + 1)).filter fun (e, n) =>
    svc.matches_ q e (svc.redactJson e.tenantId e.data) n).map fun (e, n) => svc.record e n

def limited (q : Query) : List Record :=
  if 0 < q.limit then (l.selected svc q).take q.limit.toNat else l.selected svc q

def search (q : Query) : Option (List Record) :=
  if q.tenantId = "" then none
  else some (svc.sealFrom (l.searchSeed q.tenantId).1 (l.limited svc q))

def verifyChain (τ : String) : Option (Except ChainError String) :=
  (l.search svc { tenantId := τ }).map fun records => svc.verifyChainFrom (l.searchSeed τ).1 records

end AuditLog

/-! ## Bundles -/

/-- `Bundle`, without the time and the query, which nothing reads. -/
structure Bundle where
  tenantId : String
  records : List Record
  count : Nat
  prevHash : String
  chainHead : String

def UtcTime.isWritable (t : UtcTime) : Bool := 0 ≤ t.year ∧ t.year ≤ 9999

def Actor.reread (a : Actor) : Actor := ⟨text a.subject.reread, a.roles.map fun r => text r.reread⟩

/-- A record written as JSON and read again. -/
def Library.exported (lib : Library) (r : Record) : Option Record :=
  if r.time.isWritable then
    (lib.payload r.data).map fun value => { r with
      streamSequence := 0, id := text r.id.reread, type := text r.type.reread
      tenantId := text r.tenantId.reread, actor := r.actor.map Actor.reread, data := value }
  else none

/-- The query is part of the bundle. -/
def Query.isWritable (q : Query) : Bool :=
  q.since.all UtcTime.isWritable && q.until_.all UtcTime.isWritable

def AuditLog.export_ (svc : Service) (l : AuditLog) (q : Query) : Option Bundle := do
  let records ← l.search svc q
  let written ← records.mapM svc.exported
  if q.isWritable then
    some ⟨q.tenantId, written, records.length, (l.searchSeed q.tenantId).1, Audit.chainHead records⟩
  else none

inductive BundleError
  | chain (e : ChainError)
  | head

def Library.verifyBundle (lib : Library) (b : Bundle) : Except BundleError Bundle :=
  match lib.verifyChainFrom b.prevHash b.records with
  | .error e => .error (.chain e)
  | .ok head => if head ≠ b.chainHead then .error .head else .ok b

/-! ## Sealing and writing -/

namespace Library

variable {lib : Library} {records written : List Record} {r s : Record} {prev head : String}
  {i : Nat}

/-- The record can be written as part of a chain. -/
def writes (lib : Library) (r : Record) : Bool := (lib.payload r.data).isSome

theorem link_hash (h : String) : lib.link prev { r with hash := h } = lib.link prev r := rfl

theorem isSome_link (prev : String) : (lib.link prev r).isSome = lib.writes r := by
  simp [link, canonical, writes]

theorem length_sealFrom : (lib.sealFrom prev records).length = records.length := by
  induction records generalizing prev with
  | nil => rfl
  | cons r rest ih =>
    rw [sealFrom]
    split <;> rw [length_cons, length_cons, ih]

/-- What is sealed verifies, where every record can be written, and what verifies can be written. -/
theorem verifyFrom_sealFrom :
    (∃ head, lib.verifyFrom i prev (lib.sealFrom prev records) = .ok head) ↔
      ∀ r ∈ records, lib.writes r := by
  induction records generalizing i prev with
  | nil => simp [sealFrom, verifyFrom]
  | cons r rest ih =>
    rw [forall_mem_cons]
    cases writes : lib.writes r with
    | true =>
      obtain ⟨h, linked⟩ := isSome_iff_exists.mp ((isSome_link prev).trans writes)
      rw [sealFrom, linked]
      simp only [verifyFrom_cons, link_hash, linked, true_and]
      exact ih
    | false =>
      have unlinked : lib.link prev r = none := by
        rw [← not_isSome_iff_eq_none, isSome_link, writes]
        exact Bool.false_ne_true
      rw [sealFrom, unlinked]
      simp [verifyFrom, link_hash, unlinked]

theorem verifyFrom_head (valid : lib.verifyFrom i prev records = .ok head) :
    head = (records.getLast?.map Record.hash).getD prev := by
  induction records generalizing i prev with
  | nil =>
    cases valid
    rfl
  | cons r rest ih =>
    rw [ih (verifyFrom_cons.mp valid).2, getLast?_cons]
    cases rest.getLast? <;> rfl

theorem payload_payload {data value : GoString} (written : lib.payload data = some value) :
    lib.payload value = some value := by
  unfold payload at written
  split at written
  next =>
    cases written
    rfl
  next =>
    obtain ⟨nonempty, again⟩ := lib.compacted written
    rw [payload, if_neg nonempty, again]

/-- Only the stream's number is lost, and the data is compacted. -/
theorem exported_eq (whole : r.whole) (read : lib.exported r = some s) :
    ∃ value, lib.payload r.data = some value ∧
      s = { r with streamSequence := 0, data := value } := by
  obtain ⟨-, read⟩ := ite_none_right_eq_some.mp read
  obtain ⟨value, written, rfl⟩ := map_eq_some_iff.mp read
  simp only [Record.whole, Bool.and_eq_true] at whole
  obtain ⟨⟨⟨id, type⟩, tenantId⟩, actor⟩ := whole
  have same : r.actor.map Actor.reread = r.actor := by
    cases given : r.actor with
    | none => rfl
    | some a =>
      rw [given, all_some, Bool.and_eq_true] at actor
      have roles : a.roles.map (fun s => text s.reread) = a.roles := by
        conv_rhs => rw [← map_id a.roles]
        exact map_congr_left fun s mem =>
          GoString.ofText_reread (all_eq_true.mp actor.2 s mem)
      rw [map_some, Actor.reread, text, GoString.ofText_reread actor.1, roles]
  refine ⟨value, written, ?_⟩
  rw [same, text, text, text, GoString.ofText_reread id, GoString.ofText_reread type,
    GoString.ofText_reread tenantId]

theorem link_exported (prev : String) (whole : r.whole) (read : lib.exported r = some s) :
    lib.link prev s = lib.link prev r ∧ lib.Agree r s ∧ s.hash = r.hash := by
  obtain ⟨value, written, rfl⟩ := exported_eq whole read
  have same : lib.payload value = lib.payload r.data := (payload_payload written).trans written.symm
  refine ⟨?_, ⟨rfl, rfl, rfl, rfl, rfl, rfl, same.symm⟩, rfl⟩
  simp only [link, canonical, same]

theorem verifyFrom_exported (whole : ∀ r ∈ records, r.whole)
    (read : records.mapM lib.exported = some written)
    (valid : lib.verifyFrom i prev records = .ok head) :
    lib.verifyFrom i prev written = .ok head ∧
      Forall₂ (fun r s => lib.Agree r s ∧ s.hash = r.hash) records written := by
  induction records generalizing i prev written with
  | nil =>
    cases read
    exact ⟨valid, .nil⟩
  | cons r rest ih =>
    rw [mapM_cons] at read
    obtain ⟨s, first, readRest⟩ := bind_eq_some_iff.mp read
    obtain ⟨others, readOthers, same⟩ := bind_eq_some_iff.mp readRest
    cases same
    obtain ⟨whole, wholes⟩ := forall_mem_cons.mp whole
    obtain ⟨link, agree, hash⟩ := link_exported prev whole first
    obtain ⟨linked, valid⟩ := verifyFrom_cons.mp valid
    obtain ⟨valid, agrees⟩ := ih wholes readOthers valid
    refine ⟨verifyFrom_cons.mpr ⟨?_, ?_⟩, .cons ⟨agree, hash⟩ agrees⟩
    · rw [link, hash, linked]
    · rw [hash]
      exact valid

theorem mem_sealFrom (mem : s ∈ lib.sealFrom prev records) :
    ∃ r ∈ records, ∃ h, s = { r with hash := h } := by
  induction records generalizing prev with
  | nil => cases mem
  | cons r rest ih =>
    rw [sealFrom] at mem
    split at mem
    all_goals
      rcases mem_cons.mp mem with rfl | later
      · exact ⟨r, mem_cons_self .., _, rfl⟩
      · obtain ⟨r', mem', same⟩ := ih later
        exact ⟨r', mem_cons_of_mem _ mem', same⟩

end Library

/-! ## Exports -/

namespace AuditLog

variable {svc : Service} {l : AuditLog} {q : Query} {r : Record}

theorem whole_record (svc : Service) (e : LogEvent) (n : Nat) : (svc.record e n).whole := by
  simp only [Record.whole, Service.record, text, GoString.whole_ofText, Bool.true_and]
  cases svc.redactActor e.tenantId e.actor with
  | none => rfl
  | some a => simp [text, GoString.whole_ofText]

theorem mem_selected (mem : r ∈ l.selected svc q) :
    ∃ e ∈ l.live q.tenantId, ∃ n, r = svc.record e n := by
  obtain ⟨⟨e, n⟩, listed, rfl⟩ := mem_map.mp mem
  exact ⟨e, fst_mem_of_mem_zipIdx (mem_filter.mp listed).1, n, rfl⟩

theorem selected_all (τ : String) : l.selected svc { tenantId := τ } =
    ((l.live τ).zipIdx ((l.searchSeed τ).2 + 1)).map fun (e, n) => svc.record e n := by
  unfold selected
  rw [filter_eq_self.mpr]
  intro en _
  simp [Service.matches_, svc.eventTypes_unset]

theorem mapM_of_forall {α β : Type} {f : α → Option β} {as : List α}
    (done : ∀ a ∈ as, (f a).isSome) :
    ∃ bs, as.mapM f = some bs := by
  induction as with
  | nil => exact ⟨[], rfl⟩
  | cons a as ih =>
    obtain ⟨first, rest⟩ := forall_mem_cons.mp done
    obtain ⟨b, value⟩ := isSome_iff_exists.mp first
    obtain ⟨bs, values⟩ := ih rest
    exact ⟨b :: bs, by simp [mapM_cons, value, values]⟩

/-- The events of the tenant can be written. -/
def Sound (svc : Service) (l : AuditLog) (τ : String) : Prop :=
  ∀ e ∈ l.live τ, (svc.payload (svc.redactJson e.tenantId e.data)).isSome

/-- The tenant's chain verifies if its events can be written. -/
theorem verifyChain_iff (τ : String) :
    (∃ head, l.verifyChain svc τ = some (.ok head)) ↔ τ ≠ "" ∧ l.Sound svc τ := by
  unfold verifyChain search
  by_cases gone : τ = ""
  · simp [gone]
  rw [if_neg gone, limited, if_neg (by simp), selected_all]
  simp only [map_some, some.injEq, Library.verifyChainFrom,
    Library.verifyFrom_sealFrom, ne_eq, gone, not_false_iff, true_and]
  constructor
  · intro writes e mem
    rw [← zipIdx_map_fst ((l.searchSeed τ).2 + 1) (l.live τ)] at mem
    obtain ⟨nums, listed, rfl⟩ := mem_map.mp mem
    exact writes _ (mem_map.mpr ⟨nums, listed, rfl⟩)
  · intro sound r mem
    obtain ⟨⟨e, n⟩, listed, rfl⟩ := mem_map.mp mem
    exact sound e (fst_mem_of_mem_zipIdx listed)

/-- For every log and every query: the export succeeds, verifies and returns the exported records,
and the tenant's chain verifies, exactly if the query names a tenant and bounds that can be written,
every event of the tenant past its boundary has no data or JSON as its data, and some such event
matches or there is no hash before it. -/
theorem export_verifies_iff (svc : Service) (l : AuditLog) (q : Query) :
    ((∃ records b b', l.search svc q = some records ∧ l.export_ svc q = some b ∧
        svc.verifyBundle b = .ok b' ∧
        Forall₂ (fun r s => svc.Agree r s ∧ s.hash = r.hash) records b'.records) ∧
      ∃ head, l.verifyChain svc q.tenantId = some (.ok head)) ↔
    q.tenantId ≠ "" ∧ q.isWritable ∧ l.Sound svc q.tenantId ∧ ((l.searchSeed q.tenantId).1 = "" ∨
        ∃ e n, (e, n) ∈ (l.live q.tenantId).zipIdx ((l.searchSeed q.tenantId).2 + 1) ∧
          svc.matches_ q e (svc.redactJson e.tenantId e.data) n) := by
  rw [verifyChain_iff]
  have none_or_some : l.limited svc q = [] ↔ ¬ ∃ e n,
      (e, n) ∈ (l.live q.tenantId).zipIdx ((l.searchSeed q.tenantId).2 + 1) ∧
        svc.matches_ q e (svc.redactJson e.tenantId e.data) n := by
    have untaken : l.limited svc q = [] ↔ l.selected svc q = [] := by
      unfold limited
      split
      next pos =>
        rw [take_eq_nil_iff]
        exact or_iff_right (by omega)
      next => rfl
    rw [untaken, selected, map_eq_nil_iff, filter_eq_nil_iff]
    simp only [Prod.forall, not_exists, not_and]
  have listed : ∀ r ∈ l.limited svc q, ∃ e ∈ l.live q.tenantId, ∃ n, r = svc.record e n := by
    intro r mem
    unfold limited at mem
    split at mem
    · exact mem_selected (mem_of_mem_take mem)
    · exact mem_selected mem
  constructor
  · rintro ⟨⟨records, b, b', sought, exported, valid, -⟩, tenant, sound⟩
    simp only [export_, sought, bind_eq_bind, bind_some] at exported
    obtain ⟨written, read, rest⟩ := bind_eq_some_iff.mp exported
    obtain ⟨writable, ⟨⟩⟩ := ite_none_right_eq_some.mp rest
    refine ⟨tenant, writable, sound, or_iff_not_imp_right.mpr fun unmatched => ?_⟩
    rw [search, if_neg tenant, none_or_some.mpr unmatched] at sought
    cases sought
    cases read
    by_contra seeded
    simp [Library.verifyBundle, Library.verifyChainFrom, Library.verifyFrom, Library.sealFrom,
      chainHead, seeded] at valid
  · rintro ⟨tenant, writable, sound, anchored⟩
    have writes : ∀ r ∈ l.limited svc q, svc.writes r := by
      intro r mem
      obtain ⟨e, live, n, rfl⟩ := listed r mem
      exact sound e live
    obtain ⟨records, sealed⟩ : ∃ records,
        svc.sealFrom (l.searchSeed q.tenantId).1 (l.limited svc q) = records := ⟨_, rfl⟩
    have sought : l.search svc q = some records := by rw [search, if_neg tenant, sealed]
    obtain ⟨head, valid⟩ : ∃ head,
        svc.verifyFrom 0 (l.searchSeed q.tenantId).1 records = .ok head :=
      sealed ▸ Library.verifyFrom_sealFrom.mpr writes
    have kept : ∀ r ∈ records, r.whole ∧ (svc.exported r).isSome := by
      intro r mem
      obtain ⟨r', mem', h, rfl⟩ := Library.mem_sealFrom (sealed ▸ mem)
      obtain ⟨e, live, n, rfl⟩ := listed r' mem'
      refine ⟨whole_record svc e n, ?_⟩
      have time : ({ svc.record e n with hash := h } : Record).time.isWritable :=
        decide_eq_true e.writable
      rw [Library.exported, if_pos time, isSome_map]
      exact sound e live
    obtain ⟨written, read⟩ := mapM_of_forall fun r mem => (kept r mem).2
    obtain ⟨again, agree⟩ := Library.verifyFrom_exported (fun r mem => (kept r mem).1) read valid
    have last : head = chainHead records := by
      rw [Library.verifyFrom_head valid, chainHead]
      cases final : records.getLast? with
      | some r => rfl
      | none =>
        -- without a record there is no hash before it
        have empty : (l.limited svc q).length = 0 := by
          rw [← Library.length_sealFrom, sealed, getLast?_eq_none_iff.mp final]
          rfl
        exact anchored.resolve_right (none_or_some.mp (length_eq_zero_iff.mp empty))
    have exported : l.export_ svc q = some ⟨q.tenantId, written, records.length,
        (l.searchSeed q.tenantId).1, chainHead records⟩ := by
      simp only [export_, sought, bind_eq_bind, bind_some, read, writable, if_true]
    have taken : svc.verifyBundle ⟨q.tenantId, written, records.length,
        (l.searchSeed q.tenantId).1, chainHead records⟩ = .ok ⟨q.tenantId, written, records.length,
          (l.searchSeed q.tenantId).1, chainHead records⟩ := by
      simp [Library.verifyBundle, Library.verifyChainFrom, again, last]
    exact ⟨⟨records, _, _, sought, exported, taken, agree⟩, tenant, sound⟩

/-- A tenant's event past a boundary, and queries for it and for another type. -/
def pruned : AuditLog where
  log := [{ sequence := 7, id := "e7", type := "auth.login", tenantId := "t"
            time := Library.newYear }]
  checkpoints := [("t", ⟨6, "h", 3⟩)]

/-- Past a sealed boundary, the bundle of a query that matches no record has an empty head and
starts from the boundary's hash, which is its head. -/
theorem empty_export_fails : ∃ b, pruned.export_ ⟨Library.byLength, fun _ _ => none, rfl,
      fun _ a => a, fun _ d => d⟩ { tenantId := "t", types := ["owner.created"] } = some b ∧
    b.records = [] ∧ b.prevHash = "h" ∧ b.chainHead = "" ∧
    Library.byLength.verifyBundle b = .error .head :=
  ⟨_, rfl, rfl, rfl, rfl, rfl⟩

end AuditLog

end Trustctl.Audit
