import Trustctl.Revocation.Numbering

/-!
# Deltas and shards

A delta holds the entries whose revocation time is after the previous full list, a shard those
a hash assigns to it.  While calls of `generateCRL` run one after the other, shards partition
the full list they belong to.  A delta completes its base only as long as every revocation that
reaches the store carries a time after the latest full list.

* `lists_reconstructed`: in such runs base and delta give the parent, every full list that says
  more than the one before has a delta, and the served shards partition the served list;
* `late_entry_missing`: a serial revoked with a time before the latest full list is on the next
  full list and on no delta.
-/

namespace Trustctl.Revocation

open Systems List Option Store

/-! ## The property -/

structure IsDelta (d b n : Crl) : Prop where
  kind : d.kind = .delta
  base : d.deltaBaseNumber = some b.number
  parent : d.parentNumber = some n.number

structure Precedes (lists : List Crl) (b n : Crl) : Prop where
  first : b ∈ lists ∧ b.kind = .full
  second : n ∈ lists ∧ n.kind = .full
  before : b.number < n.number
  next : ∀ c ∈ lists, c.kind = .full → c.number ≤ b.number ∨ n.number ≤ c.number

/-- Every delta belongs to two full lists and adds to the first what the second has more. -/
def DeltasCompose (lists : List Crl) : Prop :=
  ∀ d ∈ lists, d.kind = .delta → ∃ b ∈ lists, ∃ n ∈ lists, b.kind = .full ∧ n.kind = .full ∧
    IsDelta d b n ∧ ∀ e, e ∈ n.entries ↔ e ∈ b.entries ∨ e ∈ d.entries

/-- Deltas and shards reconstruct the full lists. -/
structure Reconstructs (w : World) : Prop where
  numbers : ∀ c ∈ w.published, ∀ d ∈ w.published, c.number = d.number → c = d
  deltas : DeltasCompose w.published
  complete : w.generators = [] → ∀ b n, Precedes w.published b n →
    (∃ e ∈ n.entries, e ∉ b.entries) → ∃ d ∈ w.published, IsDelta d b n
  shards : ∀ (full : Crl) (shards : Nat → Crl), w.db.servedCrl = some full →
    (∀ i < full.shardCount, w.db.servedCrlShard i = some (shards i)) →
      (∀ e ∈ full.entries, ∃! i, i < full.shardCount ∧ e ∈ (shards i).entries) ∧
        ∀ i < full.shardCount, (shards i).entries ⊆ full.entries

/-! ## Conditions -/

/-- A revocation of the serial would change the store. -/
def Tables.revocable (db : Tables) (serial : String) : Bool :=
  (db.issued.all fun c => c.serial ≠ serial) ||
    db.issued.any fun c => c.serial = serial && c.revokedAt = none

/-- The call has read the revoked serials. -/
def Phase.hasRead : Phase → Bool
  | .catchUp _ | .surface | .revoked => false
  | _ => true

/-- The number of the full list, once the call has appended it. -/
def Phase.publishing : Phase → Option Nat
  | .append job part _ => if part = .full then none else some job.number
  | .apply job _ _ => some job.number
  | .next job _ => some job.number
  | _ => none

def World.replays (w : World) (c : CatchUp) : Option LogEvent :=
  if c.pos < c.stop then w.log[c.pos]? else none

def World.projects (w : World) : Action → Option LogEvent
  | .project i => w.log[i]?
  | .tail _ => w.log[w.cursor]?
  | .catchUp k => w.catchUps[k]?.bind w.replays
  | .generate g _ => w.generators[g]?.bind fun call =>
    match call.phase with
    | .catchUp c => w.replays c
    | _ => none
  | _ => none

/-- A revocation reaches the store while no call has read the revoked serials, and with a time
after the latest full list. -/
def World.timely (w : World) : LogEvent → Bool
  | .revoked serial _ revokedAt =>
    !w.db.revocable serial ||
      (w.generators.all fun call => !call.phase.hasRead) &&
        w.db.latestCrl.all fun c => c.thisUpdate < revokedAt
  | _ => true

/-- Calls run one after the other and do not stop once they have appended their full list, and
revocations are timely. -/
def World.orderly (w : World) (a : Action) : Bool :=
  w.alone a && (w.projects a).all w.timely &&
    match a with
    | .fail g => w.generators[g]?.all fun call => call.phase.publishing = none
    | _ => true

section Projections

variable {db db' : Tables} {e : LogEvent} {entry : RevokedSerial}

/-- A projection makes no entry but that of a revocation that changes the store. -/
theorem project_newEntry (proj : project db e = some db') (listed : entry ∈ db'.listRevokedCerts) :
    entry ∈ db.listRevokedCerts ∨ ∃ serial reason revokedAt,
      e = .revoked serial reason revokedAt ∧ db.revocable serial ∧
        entry = { serial, revokedAt, reason } := by
  obtain ⟨r, kept, revoked⟩ := mem_listRevokedCerts.mp listed
  have old (before : r ∈ db.issued) : entry ∈ db.listRevokedCerts :=
    mem_listRevokedCerts.mpr ⟨r, before, revoked⟩
  cases e with
  | issued serial issuedAt =>
    cases proj
    unfold Tables.recordIssuedCert at kept
    split at kept
    next => exact .inl (old kept)
    next =>
      rcases mem_snoc.mp kept with before | rfl
      · exact .inl (old before)
      · cases revoked
  | revoked serial reason revokedAt =>
    obtain ⟨-, ⟨⟩⟩ := ite_none_right_eq_some.mp proj
    unfold Tables.revokeIssuedCert at kept
    split at kept
    next =>
      obtain ⟨c, before, rfl⟩ := mem_map.mp kept
      split at revoked
      next same =>
        unfold IssuedCert.revoke at revoked
        split at revoked
        next unrevoked =>
          refine .inr ⟨serial, reason, revokedAt, rfl, ?_, ?_⟩
          · have hit : (c.serial = serial && c.revokedAt = none) := by
              simp [same, unrevoked]
            exact Bool.or_eq_true_iff.mpr (.inr (any_eq_true.mpr ⟨c, before, hit⟩))
          · rw [← some.inj revoked, same]
        next => exact .inl (mem_listRevokedCerts.mpr ⟨c, before, revoked⟩)
      next => exact .inl (mem_listRevokedCerts.mpr ⟨c, before, revoked⟩)
    next gone =>
      rcases mem_snoc.mp kept with before | rfl
      · exact .inl (old before)
      · refine .inr ⟨serial, reason, revokedAt, rfl, ?_, (some.inj revoked).symm⟩
        refine Bool.or_eq_true_iff.mpr (.inl (all_eq_true.mpr fun c before => ?_))
        refine decide_eq_true fun same => gone ?_
        exact any_eq_true.mpr ⟨c, before, decide_eq_true same⟩
  | published c =>
    cases proj
    rw [insertCrl_issued] at kept
    exact .inl (old kept)

end Projections

/-! ## Runs of calls -/

/-- Every revoked entry is on the latest full list, or later than it. -/
def Fresh (db : Tables) : Prop :=
  ∀ latest, db.latestCrl = some latest → ∀ e ∈ db.listRevokedCerts,
    e ∈ latest.entries ∨ latest.thisUpdate < e.revokedAt

/-- The full list holds part of the entries, and the others are later than it. -/
structure IsBase (w : World) (entries : List RevokedSerial) (p : Crl) : Prop where
  published : p ∈ w.published
  kind : p.kind = .full
  sub : p.entries ⊆ entries
  later : ∀ e ∈ entries, e ∈ p.entries ∨ p.thisUpdate < e.revokedAt

/-- The entries are all there are, and `previous` is the last full list before the job's own. -/
structure Job.Follows (w : World) (job : Job) : Prop where
  all : w.db.listRevokedCerts ⊆ job.entries
  base : ∀ p ∈ job.previous, IsBase w job.entries p ∧ p.number < job.number
  last : ∀ c ∈ w.published, c.kind = .full →
    c.number = job.number ∨ ∃ p ∈ job.previous, c.number ≤ p.number

/-- The call publishes the part. -/
def Part.Valid (job : Job) : Part → Prop
  | .full => True
  | .shard i => i < job.shardCount
  | .delta => job.deltaEntries ≠ []

/-- The call has appended its full list. -/
def Job.HasPublished (hash : String → Nat) (w : World) (job : Job) : Prop :=
  job.artifact hash job.number .full ∈ w.published ∧ signable job.entries

/-- What holds while a call is in a phase, beyond `Phase.Sound`. -/
def Phase.Chained (hash : String → Nat) (w : World) : Phase → Prop
  | .catchUp _ => Settled w
  | .surface | .revoked => True
  | .previous entries => w.db.listRevokedCerts ⊆ entries
  | .number entries base =>
    w.db.listRevokedCerts ⊆ entries ∧ (∀ p ∈ base, IsBase w entries p) ∧
      ∀ c ∈ w.published, c.kind = .full → ∃ p ∈ base, c.number ≤ p.number
  | .append job part n =>
    job.Follows w ∧ if part = .full then n = job.number else part.Valid job ∧
      job.HasPublished hash w
  | .apply job part n =>
    job.Follows w ∧ part.Valid job ∧ job.HasPublished hash w ∧ (part = .full → n = job.number)
  | .next job part => job.Follows w ∧ part.Valid job ∧ job.HasPublished hash w

/-- The list is a shard of the full list and holds what the hash assigns to it. -/
structure IsShard (hash : String → Nat) (s f : Crl) : Prop where
  kind : f.kind = .full
  parent : s.parentNumber = some f.number
  count : s.shardCount = f.shardCount
  entries : s.entries = crlShardEntries hash f.entries s.shardIndex s.shardCount

structure ShardsPartition (hash : String → Nat) (lists : List Crl) : Prop where
  counted : ∀ f ∈ lists, f.kind = .full → f.shardCount ≠ 0
  parents : ∀ s ∈ lists, s.kind = .shard → ∃ f ∈ lists, IsShard hash s f

/-- What every orderly step keeps. -/
structure Chained (hash : String → Nat) (w : World) : Prop where
  fresh : Fresh w.db
  deltas : DeltasCompose w.published
  shards : ShardsPartition hash w.published
  complete : ∀ b n, Precedes w.published b n →
    (∀ call ∈ w.generators, call.phase.publishing ≠ some n.number) →
      (∃ e ∈ n.entries, e ∉ b.entries) → ∃ d ∈ w.published, IsDelta d b n
  settled : w.generators = [] → Settled w
  calls : ∀ call ∈ w.generators, call.phase.Chained hash w

/-! ## Other parties -/

section Others

variable {hash : String → Nat} {w w' : World}

/-- Nothing is published in the step from `w` to `w'`. -/
structure Quiet (w w' : World) : Prop where
  published : w'.published = w.published
  crls : w.db.crls ⊆ w'.db.crls

theorem Quiet.calls (w : World) (generators : List Generator) (acknowledged : List String) :
    Quiet w { w with generators, acknowledged } := ⟨rfl, .refl _⟩

theorem Quiet.settled (quiet : Quiet w w') (done : Settled w) : Settled w' := by
  show w'.published ⊆ w'.db.crls
  rw [quiet.published]
  exact Subset.trans done quiet.crls

variable {entries : List RevokedSerial}

theorem IsBase.quiet (quiet : Quiet w w') {p : Crl}
    (base : IsBase w entries p) : IsBase w' entries p :=
  ⟨quiet.published ▸ base.published, base.kind, base.sub, base.later⟩

theorem Job.Follows.quiet (quiet : Quiet w w') {job : Job}
    (same : w'.db.listRevokedCerts ⊆ w.db.listRevokedCerts) (follows : job.Follows w) :
    job.Follows w' where
  all := Subset.trans same follows.all
  base p previous := (follows.base p previous).imp_left (.quiet quiet)
  last := quiet.published ▸ follows.last

/-- A call does not notice a quiet step, unless it has read the revoked serials and one more is
revoked. -/
theorem Phase.Chained.quiet (quiet : Quiet w w') {phase : Phase}
    (same : phase.hasRead → w'.db.listRevokedCerts ⊆ w.db.listRevokedCerts)
    (chain : phase.Chained hash w) : phase.Chained hash w' := by
  have sent {job : Job} (has : job.HasPublished hash w) : job.HasPublished hash w' :=
    ⟨quiet.published ▸ has.1, has.2⟩
  cases phase with
  | catchUp c => exact quiet.settled chain
  | surface | revoked => trivial
  | previous entries => exact Subset.trans (same rfl) chain
  | number entries base =>
    obtain ⟨all, bases, last⟩ := chain
    exact ⟨Subset.trans (same rfl) all, fun p mem => (bases p mem).quiet quiet,
      quiet.published ▸ last⟩
  | append job part n =>
    obtain ⟨follows, rest⟩ := chain
    refine ⟨follows.quiet quiet (same rfl), ?_⟩
    split
    next full => rwa [if_pos full] at rest
    next other =>
      rw [if_neg other] at rest
      exact ⟨rest.1, sent rest.2⟩
  | apply job part n =>
    obtain ⟨follows, valid, has, number⟩ := chain
    exact ⟨follows.quiet quiet (same rfl), valid, sent has, number⟩
  | next job part =>
    obtain ⟨follows, valid, has⟩ := chain
    exact ⟨follows.quiet quiet (same rfl), valid, sent has⟩

theorem Chained.quiet (chain : Chained hash w) (quiet : Quiet w w')
    (gens : w'.generators = w.generators) (fresh : Fresh w'.db)
    (same : ∀ call ∈ w.generators, call.phase.hasRead →
      w'.db.listRevokedCerts ⊆ w.db.listRevokedCerts) : Chained hash w' := by
  refine ⟨fresh, ?_, ?_, ?_, fun idle => ?_, ?_⟩
  · rw [quiet.published]
    exact chain.deltas
  · rw [quiet.published]
    exact chain.shards
  · rw [quiet.published, gens]
    exact chain.complete
  · exact quiet.settled (chain.settled (gens ▸ idle))
  · rw [gens]
    exact fun call run => (chain.calls call run).quiet quiet (same call run)

/-- A step that leaves the store and the published lists as they are. -/
theorem Chained.idle (chain : Chained hash w) (sent : w'.published = w.published)
    (db : w'.db = w.db) (gens : w'.generators = w.generators) : Chained hash w' := by
  refine chain.quiet ⟨sent, ?_⟩ gens ?_ fun _ _ _ => ?_
  · exact db ▸ Subset.refl _
  · exact db ▸ chain.fresh
  · exact db ▸ Subset.refl _

/-- The store holds all lists but one that a call has just appended. -/
theorem settled_or_applies {call : Generator} (kept : Kept hash w) (chain : Chained hash w)
    (run : call ∈ w.generators) : Settled w ∨ ∃ job part n, call.phase = .apply job part n := by
  have sound := kept.sound call run
  have link := chain.calls call run
  cases phase : call.phase with
  | catchUp =>
    rw [phase] at link
    exact .inl link
  | surface | revoked =>
    rw [phase] at sound
    exact .inl sound.2
  | previous | number | append | next =>
    rw [phase] at sound
    exact .inl sound.1
  | apply job part n => exact .inr ⟨job, part, n, rfl⟩

/-- That list holds all entries. -/
theorem unsettled_is_current (kept : Kept hash w) (chain : Chained hash w) {c : Crl}
    (listed : c ∈ w.published) (full : c.kind = .full) (gone : c ∉ w.db.crls) :
    w.db.listRevokedCerts ⊆ c.entries := by
  cases calls : w.generators with
  | nil => exact absurd (chain.settled calls listed) gone
  | cons call rest =>
    have run : call ∈ w.generators := calls ▸ mem_cons_self
    rcases settled_or_applies kept chain run with done | ⟨job, part, n, phase⟩
    · exact absurd (done listed) gone
    · have sound := kept.sound call run
      have link := chain.calls call run
      rw [phase] at sound link
      obtain ⟨-, others, -⟩ := sound
      have here := (others c listed).resolve_right gone
      cases part with
      | full => exact here ▸ link.1.all
      | shard | delta =>
        rw [here] at full
        cases full

theorem Chained.project (kept : Kept hash w) (chain : Chained hash w) {e : LogEvent}
    {db : Tables} (logged : e ∈ w.log) (proj : project w.db e = some db)
    (timely : w.timely e) : Chained hash { w with db } := by
  obtain ⟨grows, rows, -⟩ := kept.filed.project_grows logged proj
  have same (call : Generator) (run : call ∈ w.generators) (read : call.phase.hasRead) :
      db.listRevokedCerts ⊆ w.db.listRevokedCerts := by
    intro entry listed
    rcases project_newEntry proj listed with old | ⟨serial, why, at_, rfl, changes, rfl⟩
    · exact old
    · simp only [World.timely, changes, Bool.not_true, Bool.false_or, Bool.and_eq_true] at timely
      have unread := all_eq_true.mp timely.1 call run
      rw [read] at unread
      cases unread
  refine chain.quiet ⟨rfl, grows.crls⟩ rfl (fun latest hit entry listed => ?_) same
  obtain ⟨stored, full⟩ := latestCrl_mem hit
  by_cases before : latest ∈ w.db.crls
  · -- The latest list was the latest before.
    have was : w.db.latestCrl = some latest := by
      obtain ⟨old, oldFound⟩ := latestCrl_isSome before full
      obtain ⟨there, full'⟩ := latestCrl_mem oldFound
      have same := Nat.le_antisymm (latestCrl_max hit (grows.crls there) full')
        (latestCrl_max oldFound before full)
      rw [oldFound, kept.filed.unique (kept.filed.rows there) (kept.filed.rows before) same]
    rcases project_newEntry proj listed with old | ⟨serial, why, at_, rfl, changes, rfl⟩
    · exact chain.fresh latest was entry old
    · simp only [World.timely, changes, Bool.not_true, Bool.false_or, Bool.and_eq_true, was,
        all_some, decide_eq_true_eq] at timely
      exact .inr timely.2
  · -- The list has just arrived, so the event published it and revoked nothing.
    have current := unsettled_is_current kept chain (rows stored) full before
    rcases project_newEntry proj listed with old | ⟨serial, why, at_, rfl, changes, rfl⟩
    · exact .inl (current old)
    · rcases project_crls proj with ⟨-, same⟩ | ⟨c, ⟨⟩, -⟩
      exact absurd (same ▸ stored) before

end Others

/-! ## The steps of a call -/

section Calls

variable {hash : String → Nat} {w w' : World} {call : Generator}

variable {job : Job} {part : Part}

theorem Job.after_valid {next : Part} (after : job.after part = some next) : next.Valid job := by
  have delta (isDelta : job.deltaPart = some next) : next.Valid job := by
    obtain ⟨some, ⟨⟩⟩ := ite_none_left_eq_some.mp isDelta
    exact fun none => some (isEmpty_iff.mpr none)
  cases part with
  | full =>
    dsimp only [Job.after] at after
    split at after
    next some =>
      cases after
      exact some
    next => exact delta after
  | shard i =>
    dsimp only [Job.after] at after
    split at after
    next more =>
      cases after
      exact more
    next => exact delta after
  | delta => cases after

/-- A call ends after its delta, or has none to publish. -/
theorem Job.after_none (last : job.after part = none) : part = .delta ∨ job.deltaEntries = [] := by
  have none (noDelta : job.deltaPart = none) : job.deltaEntries = [] := by
    unfold Job.deltaPart at noDelta
    split at noDelta
    next empty => exact isEmpty_iff.mp empty
    next => cases noDelta
  cases part with
  | full | shard =>
    dsimp only [Job.after] at last
    split at last
    next => cases last
    next => exact .inr (none last)
  | delta => exact .inl rfl

/-- The running call moves to a phase that publishes under the same number, if any. -/
theorem Chained.advance (chained : Chained hash w) (only : w.generators = [call]) (phase : Phase)
    (linked : phase.Chained hash w)
    (publishing : call.phase.publishing = none ∨ call.phase.publishing = phase.publishing) :
    Chained hash { w with generators := [{ call with phase }] } where
  fresh := chained.fresh
  deltas := chained.deltas
  shards := chained.shards
  complete b n precedes idle := by
    refine chained.complete b n precedes fun call' running => ?_
    rw [only, mem_singleton] at running
    subst running
    rcases publishing with none | same
    · rw [none]
      exact nofun
    · rw [same]
      exact idle _ mem_cons_self
  settled idle := nomatch idle
  calls call' running := by
    obtain rfl := mem_singleton.mp running
    exact linked.quiet (.calls ..) fun _ => .refl _

/-- The running call ends without having appended a full list. -/
theorem Chained.abort (kept : Kept hash w) (chain : Chained hash w) (only : w.generators = [call])
    (reading : call.phase.publishing = none) :
    Chained hash { w with generators := [] } where
  fresh := chain.fresh
  deltas := chain.deltas
  shards := chain.shards
  complete b n precedes _ := by
    refine chain.complete b n precedes fun call' run => ?_
    rw [only, mem_singleton] at run
    subst run
    rw [reading]
    exact nofun
  settled _ := by
    refine (settled_or_applies kept chain (only ▸ mem_cons_self)).resolve_right ?_
    rintro ⟨job, part, n, phase⟩
    rw [phase] at reading
    cases reading
  calls := nofun

theorem previous_linked {entries : List RevokedSerial} (kept : Kept hash w) (chain : Chained hash w)
    {acks : List String}
    (done : Settled w) (read : HasRead w acks entries) (all : w.db.listRevokedCerts ⊆ entries) :
    (Phase.number entries w.db.latestCrl).Chained hash w := by
  refine ⟨all, fun p last => ?_, fun c listed full => ?_⟩
  · obtain ⟨stored, full⟩ := latestCrl_mem last
    have listed := kept.filed.rows stored
    refine ⟨listed, full, Subset.trans (kept.filed.entries p listed) all, fun e mem => ?_⟩
    exact chain.fresh p last e (read.revoked mem)
  · obtain ⟨last, hit⟩ := latestCrl_isSome (done listed) full
    exact ⟨last, hit, latestCrl_max hit (done listed) full⟩

/-! ### A list is appended -/

variable {c : Crl} {lists : List Crl}

theorem DeltasCompose.append (deltas : DeltasCompose lists)
    (new : c.kind = .delta → ∃ b ∈ lists, ∃ n ∈ lists, b.kind = .full ∧ n.kind = .full ∧
      IsDelta c b n ∧ ∀ e, e ∈ n.entries ↔ e ∈ b.entries ∨ e ∈ c.entries) :
    DeltasCompose (lists ++ [c]) := by
  have there {d : Crl} (listed : d ∈ lists) : d ∈ lists ++ [c] := mem_append_left _ listed
  intro d listed isDelta
  obtain ⟨b, base, n, parent, rest⟩ := forall_mem_snoc deltas new d listed isDelta
  exact ⟨b, there base, n, there parent, rest⟩

theorem ShardsPartition.append (shards : ShardsPartition hash lists)
    (counted : c.kind = .full → c.shardCount ≠ 0)
    (parent : c.kind = .shard → ∃ f ∈ lists, IsShard hash c f) :
    ShardsPartition hash (lists ++ [c]) := by
  refine ⟨forall_mem_snoc shards.counted counted, fun d listed isShard => ?_⟩
  obtain ⟨f, there, rest⟩ := forall_mem_snoc shards.parents parent d listed isShard
  exact ⟨f, mem_append_left _ there, rest⟩

theorem Precedes.of_append {b n : Crl} (lt : Precedes (lists ++ [c]) b n)
    (above : ∀ d ∈ lists, d.number < c.number) (older : n ≠ c) : Precedes lists b n := by
  obtain ⟨⟨first, full⟩, ⟨second, full'⟩, before, next⟩ := lt
  have old : n ∈ lists := by
    rcases mem_append.mp second with old | here
    · exact old
    · exact absurd (mem_singleton.mp here) older
  refine ⟨⟨?_, full⟩, ⟨old, full'⟩, before, fun d listed => next d (mem_append_left _ listed)⟩
  rcases mem_append.mp first with old' | here
  · exact old'
  · have lower := above n old
    rw [← mem_singleton.mp here] at lower
    exact absurd before (Nat.lt_asymm lower)

/-- Base and delta give the full list. -/
theorem Job.delta_composes (follows : job.Follows w) (sent : job.HasPublished hash w)
    (valid : job.deltaEntries ≠ []) (n : Nat) :
    ∃ b ∈ w.published, ∃ m ∈ w.published, b.kind = .full ∧ m.kind = .full ∧
      IsDelta (job.artifact hash n .delta) b m ∧
      ∀ e, e ∈ m.entries ↔ e ∈ b.entries ∨ e ∈ (job.artifact hash n .delta).entries := by
  cases base : job.previous with
  | none =>
    unfold Job.deltaEntries at valid
    rw [base] at valid
    exact absurd rfl valid
  | some p =>
    obtain ⟨isBase, -⟩ := follows.base p base
    refine ⟨p, isBase.published, _, sent.1, isBase.kind, rfl, ⟨rfl, ?_, rfl⟩, fun e => ?_⟩
    · show job.previous.map _ = _
      rw [base]
      rfl
    · have entries : job.deltaEntries = crlDeltaEntries job.entries p.thisUpdate := by
        unfold Job.deltaEntries
        rw [base]
      show e ∈ job.entries ↔ e ∈ p.entries ∨ e ∈ job.deltaEntries
      rw [entries]
      simp only [crlDeltaEntries, mem_filter, decide_eq_true_eq]
      constructor
      · exact fun listed => (isBase.later e listed).imp_right fun later => ⟨listed, later⟩
      · exact fun listed => listed.elim (fun old => isBase.sub old) And.left

theorem Job.fullShardCount_ne_zero (job : Job) : job.fullShardCount ≠ 0 := by
  unfold Job.fullShardCount
  split <;> omega

theorem Job.Follows.append (follows : job.Follows w)
    (number : c.kind = .full → c.number = job.number) :
    job.Follows { w with log := w.log ++ [.published c] } := by
  have listed := w.published_append c
  refine ⟨follows.all, fun p previous => ?_, fun d there full => ?_⟩
  · obtain ⟨base, below⟩ := follows.base p previous
    refine ⟨⟨?_, base.kind, base.sub, base.later⟩, below⟩
    rw [listed]
    exact mem_append_left _ base.published
  · rw [listed] at there
    exact forall_mem_snoc follows.last (fun full => .inl (number full)) d there full

/-- The number under which a part is appended is the highest. -/
theorem artifact_number (hash : String → Nat) (job : Job) (n : Nat) (part : Part) :
    (job.artifact hash n part).number = n := by
  cases part <;> rfl

variable {n : Nat}

theorem artifact_full (full : (job.artifact hash n part).kind = .full) : part = .full := by
  cases part with
  | full => rfl
  | shard | delta => cases full

theorem Chained.append (chained : Chained hash w) (only : w.generators = [call])
    (phase : call.phase = .append job part n) (above : ∀ c ∈ w.published, c.number < n)
    (signed : signable (job.artifact hash n part).entries) :
    Chained hash { w with
      log := w.log ++ [.published (job.artifact hash n part)]
      generators := [{ call with phase := .apply job part n }] } := by
  have linked := chained.calls call (only ▸ mem_cons_self)
  rw [phase] at linked
  obtain ⟨follows, rest⟩ := linked
  have number (full : part = .full) : n = job.number := by rwa [if_pos full] at rest
  have others (other : part ≠ .full) : part.Valid job ∧ job.HasPublished hash w := by
    rwa [if_neg other] at rest
  have listed : World.published { w with
      log := w.log ++ [.published (job.artifact hash n part)]
      generators := [{ call with phase := .apply job part n }] } = _ :=
    w.published_append (job.artifact hash n part)
  have above' : ∀ c ∈ w.published, c.number < (job.artifact hash n part).number := by
    rwa [artifact_number]
  refine ⟨chained.fresh, ?_, ?_, fun b m lt idle new => ?_, nofun, fun call' run => ?_⟩
  · rw [listed]
    refine chained.deltas.append fun isDelta => ?_
    cases part with
    | full | shard => cases isDelta
    | delta =>
      obtain ⟨valid, published⟩ := others nofun
      exact Job.delta_composes follows published valid n
  · rw [listed]
    refine chained.shards.append (fun full => ?_) fun isShard => ?_
    · obtain rfl := artifact_full full
      exact job.fullShardCount_ne_zero
    · cases part with
      | full | delta => cases isShard
      | shard i =>
        obtain ⟨valid, published⟩ := others nofun
        refine ⟨_, published.1, rfl, rfl, ?_, rfl⟩
        show job.shardCount = job.fullShardCount
        rw [Job.fullShardCount, if_pos (Nat.zero_lt_of_lt valid)]
  · -- The full list of this call is still pending, and the others are as they were.
    rw [listed] at lt ⊢
    have pending : job.number ≠ m.number := fun same =>
      idle _ mem_cons_self (congrArg some same)
    have older : m ≠ job.artifact hash n part := by
      rintro rfl
      have full := artifact_full lt.second.2
      exact pending ((artifact_number hash job n part).trans (number full)).symm
    have was := lt.of_append above' older
    have idle' (call' : Generator) (run : call' ∈ w.generators) :
        call'.phase.publishing ≠ some m.number := by
      rw [only, mem_singleton] at run
      subst run
      rw [phase]
      dsimp only [Phase.publishing]
      split
      next => exact nofun
      next => exact fun same => pending (some.inj same)
    obtain ⟨d, there, isDelta⟩ := chained.complete b m was idle' new
    exact ⟨d, mem_append_left _ there, isDelta⟩
  · obtain rfl := mem_singleton.mp run
    suffices linked : (Phase.apply job part n).Chained hash
        { w with log := w.log ++ [.published (job.artifact hash n part)] } from
      linked.quiet (.calls ..) fun _ => .refl _
    have there : job.artifact hash n part ∈ World.published
        { w with log := w.log ++ [.published (job.artifact hash n part)] } := by
      rw [w.published_append]
      exact mem_append_right _ mem_cons_self
    have follows' := follows.append fun full =>
      (artifact_number hash job n part).trans (number (artifact_full full))
    by_cases full : part = .full
    · subst full
      obtain rfl := number rfl
      exact ⟨follows', trivial, ⟨there, signed⟩, fun _ => rfl⟩
    · obtain ⟨valid, published, signed'⟩ := others full
      refine ⟨follows', valid, ⟨?_, signed'⟩, fun is => absurd is full⟩
      rw [w.published_append]
      exact mem_append_left _ published

/-- A call that has published its last part has published the delta to its full list. -/
theorem Job.delta_published (filed : Filed w) (follows : job.Follows w)
    (sent : job.HasPublished hash w) {number : Nat}
    (there : job.artifact hash number part ∈ w.published) (last : job.after part = none) {b n : Crl}
    (lt : Precedes w.published b n) (current : n.number = job.number)
    (new : ∃ e ∈ n.entries, e ∉ b.entries) : ∃ d ∈ w.published, IsDelta d b n := by
  obtain ⟨⟨first, full⟩, ⟨second, -⟩, before, next⟩ := lt
  obtain rfl := filed.unique second sent.1 current
  -- The base is the list the call has read as the latest.
  obtain ⟨p, previous, le⟩ : ∃ p ∈ job.previous, b.number ≤ p.number :=
    (follows.last b first full).resolve_left (Nat.ne_of_lt before)
  obtain ⟨base, below⟩ := follows.base p previous
  have same : p.number = b.number := by
    rcases next p base.published base.kind with lower | higher
    · exact Nat.le_antisymm lower le
    · exact absurd below (Nat.not_lt.mpr higher)
  obtain rfl := filed.unique base.published first same
  obtain ⟨e, listed, gone⟩ := new
  have later := (base.later e listed).resolve_left gone
  have read : job.previous = some p := previous
  have nonempty : job.deltaEntries ≠ [] := by
    refine ne_nil_of_mem (a := e) ?_
    unfold Job.deltaEntries
    rw [read]
    exact mem_filter.mpr ⟨listed, decide_eq_true later⟩
  obtain rfl := (Job.after_none last).resolve_right nonempty
  refine ⟨_, there, rfl, ?_, rfl⟩
  show job.previous.map _ = _
  rw [read]
  rfl

theorem Chained.finish (filed : Filed w) (chain : Chained hash w) (only : w.generators = [call])
    (phase : call.phase = .apply job part n) (settled : Settled w)
    (there : job.artifact hash n part ∈ w.published) (last : job.after part = none)
    (acknowledged : List String) :
    Chained hash { w with generators := [], acknowledged } where
  fresh := chain.fresh
  deltas := chain.deltas
  shards := chain.shards
  complete b m precedes _ new := by
    have linked := chain.calls call (only ▸ mem_cons_self)
    rw [phase] at linked
    obtain ⟨follows, -, published, -⟩ := linked
    by_cases current : m.number = job.number
    · exact Job.delta_published filed follows published there last precedes current new
    · refine chain.complete b m precedes (fun call' run => ?_) new
      rw [only, mem_singleton] at run
      subst run
      rw [phase]
      exact fun same => current (some.inj same).symm
  settled _ := settled
  calls := nofun

/-- The only call goes on or ends. -/
def World.resume (w : World) (call : Generator) : Outcome Phase → World
  | .next phase => { w with generators := [{ call with phase }] }
  | .done => { w with generators := [], acknowledged := w.acknowledged ++ call.acks }
  | .failed => { w with generators := [] }

theorem Chained.generate (kept : Kept hash w) (chain : Chained hash w) {now : Time} {mid : World}
    {out : Outcome Phase} (only : w.generators = [call])
    (stepped : w.generateStep hash now call.phase = (mid, out))
    (timely : (w.projects (.generate 0 now)).all w.timely) :
    Chained hash (mid.resume call out) := by
  have run : call ∈ w.generators := only ▸ mem_cons_self
  have sound := kept.sound call run
  have linked := chain.calls call run
  cases phase : call.phase with
  | catchUp c =>
    rw [phase] at linked stepped
    dsimp only [World.generateStep] at stepped
    cases caught : w.catchUpStep c with
    | mk mid' out' =>
    rw [caught] at stepped
    rcases World.catchUpStep_cases caught with
      ⟨e, db, checkpoint, next, more, at_, projected, rfl, -, rfl, -, -⟩ | ⟨-, rfl, rfl⟩ |
      ⟨rfl, rfl⟩
    · cases stepped
      have again : w.projects (.generate 0 now) = some e := by
        simp [World.projects, World.replays, only, phase, more, at_]
      rw [again] at timely
      have projected' := chain.project kept (mem_of_getElem? at_) projected timely
      have moved : Chained hash { w with db, checkpoint } := projected'.idle rfl rfl rfl
      refine moved.advance only (.catchUp next) ?_ (.inl (by rw [phase]; rfl))
      have here := moved.calls call run
      rwa [phase] at here
    · cases stepped
      have moved : Chained hash { w with checkpoint := max w.checkpoint c.stop } :=
        chain.idle rfl rfl rfl
      exact moved.advance only .surface trivial (.inl (by rw [phase]; rfl))
    · cases stepped
      exact chain.abort kept only (by rw [phase]; rfl)
  | surface =>
    rw [phase] at sound stepped
    obtain ⟨rfl, rfl⟩ := Prod.mk.inj stepped
    split
    next => exact chain.advance only .revoked trivial (.inl (by rw [phase]; rfl))
    next => exact chain.abort kept only (by rw [phase]; rfl)
  | revoked =>
    rw [phase] at stepped
    cases stepped
    exact chain.advance only (.previous _) (Subset.refl _) (.inl (by rw [phase]; rfl))
  | previous entries =>
    rw [phase] at sound linked stepped
    cases stepped
    exact chain.advance only (.number _ _)
      (previous_linked kept chain sound.1 sound.2 linked) (.inl (by rw [phase]; rfl))
  | number entries base =>
    rw [phase] at sound linked stepped
    cases stepped
    obtain ⟨all, bases, last⟩ := linked
    refine chain.advance only (.append _ _ _) ⟨⟨all, fun p mem => ?_, ?_⟩, rfl⟩
      (.inl (by rw [phase]; rfl))
    · have isBase := bases p mem
      exact ⟨isBase, number_lt_nextCrlNumber (sound.1 isBase.published)⟩
    · exact fun c listed full => .inr (last c listed full)
  | append job part n =>
    rw [phase] at sound linked stepped
    dsimp only [World.generateStep] at stepped
    split at stepped
    next signed =>
      cases stepped
      exact chain.append only phase sound.2.2 signed
    next unsigned =>
      cases stepped
      refine chain.abort kept only ?_
      -- The parts after a full list hold its entries.
      by_cases full : part = .full
      · rw [phase, full]
        rfl
      · obtain ⟨-, rest⟩ := linked
        rw [if_neg full] at rest
        refine absurd (all_eq_true.mpr fun e listed => ?_) unsigned
        exact all_eq_true.mp rest.2.2 e (artifact_entries_subset _ _ _ _ listed)
  | apply job part n =>
    rw [phase] at sound stepped
    obtain ⟨rfl, rfl⟩ := Prod.mk.inj stepped
    have settled := settled_apply kept.filed sound
    have logged := World.mem_published.mp sound.1
    have applied := chain.project kept logged rfl rfl
    have linked := applied.calls call run
    rw [phase] at linked
    obtain ⟨follows, -, published, -⟩ := linked
    cases after : job.after part with
    | some next =>
      exact applied.advance only (.next job next)
        ⟨follows, Job.after_valid after, published⟩ (.inr (by rw [phase]; rfl))
    | none =>
      exact applied.finish (kept.filed.project logged rfl) only phase settled sound.1 after _
  | next job part =>
    rw [phase] at sound linked stepped
    cases stepped
    obtain ⟨follows, valid, published⟩ := linked
    refine chain.advance only (.append job part w.db.nextCrlNumber) ⟨follows, ?_⟩ (.inr ?_)
    · rw [if_neg sound.2.1]
      exact ⟨valid, published⟩
    · rw [phase]
      exact (if_neg sound.2.1).symm

end Calls

/-! ## Orderly runs -/

variable {hash : String → Nat} {w w' : World}

theorem Chained.init : Chained hash {} where
  fresh _ latest := nomatch latest
  deltas := nofun
  shards := ⟨nofun, nofun⟩
  complete _ _ precedes := absurd precedes.first.1 not_mem_nil
  settled _ := nil_subset _
  calls := nofun

theorem step_chained {a : Action} (orderly : w.orderly a)
    (moved : w.step hash a = some w') (kept : Kept hash w) (chain : Chained hash w) :
    Chained hash w' := by
  simp only [World.orderly, Bool.and_eq_true] at orderly
  obtain ⟨⟨alone, timely⟩, unfinished⟩ := orderly
  cases a with
  | issue | revoke =>
    cases moved
    exact chain.idle (by simp [World.published, LogEvent.crl]) rfl rfl
  | project i =>
    obtain ⟨e, at_, rfl⟩ := map_eq_some_iff.mp moved
    split
    next db proj =>
      rw [World.projects, at_] at timely
      exact chain.project kept (mem_of_getElem? at_) proj timely
    next => exact chain
  | tail reach =>
    obtain ⟨e, at_, rfl⟩ := map_eq_some_iff.mp moved
    split
    next db proj =>
      rw [World.projects, at_] at timely
      have projected' := chain.project kept (mem_of_getElem? at_) proj timely
      cases reach <;> exact projected'.idle rfl rfl rfl
    next => exact chain
  | boot =>
    cases moved
    exact chain.idle rfl rfl rfl
  | catchUp k =>
    obtain ⟨c, run, rfl⟩ := map_eq_some_iff.mp moved
    cases ran : w.catchUpStep c with
    | mk mid out =>
    rcases World.catchUpStep_cases ran with
      ⟨e, db, cp, next, more, at_, proj, rfl, -, rfl, -, -⟩ | ⟨-, rfl, rfl⟩ |
      ⟨rfl, rfl⟩
    · have again : w.projects (.catchUp k) = some e := by
        simp [World.projects, World.replays, run, more, at_]
      rw [again] at timely
      have projected' := chain.project kept (mem_of_getElem? at_) proj timely
      exact projected'.idle rfl rfl rfl
    · exact chain.idle rfl rfl rfl
    · exact chain.idle rfl rfl rfl
  | begin acks =>
    obtain ⟨-, ⟨⟩⟩ := ite_none_right_eq_some.mp moved
    have idle := isEmpty_iff.mp alone
    rw [idle]
    refine ⟨chain.fresh, chain.deltas, chain.shards, fun b n lt _ => ?_, fun none => ?_, ?_⟩
    · refine chain.complete b n lt fun call run => ?_
      rw [idle] at run
      cases run
    · cases none
    · exact forall_mem_singleton.mpr (chain.settled idle)
  | generate g now =>
    obtain ⟨call, run, rfl⟩ := map_eq_some_iff.mp moved
    obtain ⟨only, rfl⟩ := kept.only run
    cases ran : w.generateStep hash now call.phase with
    | mk mid out =>
      have stepped := chain.generate kept only ran timely
      have sound := kept.sound call (mem_of_getElem? run)
      obtain ⟨same, -⟩ := (generated kept.filed sound ran).same
      rw [only] at same
      cases out with
      | next | done | failed =>
        dsimp only
        rw [same]
        exact stepped
  | fail g =>
    obtain ⟨bound, ⟨⟩⟩ := ite_none_right_eq_some.mp moved
    have run : w.generators[g]? = some w.generators[g] := getElem?_eq_getElem bound
    dsimp only at unfinished
    rw [run] at unfinished
    obtain ⟨only, rfl⟩ := kept.only run
    have aborted := chain.abort kept only (of_decide_eq_true unfinished)
    rwa [show w.generators.eraseIdx 0 = [] by rw [only]; rfl]

/-- A served shard holds what the hash assigns to it from the served full list. -/
theorem servedCrlShard_entries (filed : Filed w) (chain : Chained hash w) {full shard : Crl}
    {i : Nat} (served : w.db.latestCrl = some full) (hit : w.db.servedCrlShard i = some shard) :
    shard.entries = crlShardEntries hash full.entries i full.shardCount := by
  obtain ⟨-, hit⟩ := ite_none_right_eq_some.mp hit
  rw [served, bind_some] at hit
  obtain ⟨-, hit⟩ := ite_none_left_eq_some.mp hit
  obtain ⟨s, last, current⟩ := bind_eq_some_iff.mp hit
  obtain ⟨parent, ⟨⟩⟩ := ite_none_right_eq_some.mp current
  obtain ⟨kept, isShard⟩ := mem_filter.mp (newest_mem last)
  rw [decide_eq_true_eq] at isShard
  obtain ⟨f, there, isShardOf⟩ := chain.shards.parents shard (filed.rows kept) isShard.1
  have same : f.number = full.number :=
    some.inj (isShardOf.parent.symm.trans parent)
  obtain rfl := filed.unique there (filed.rows (latestCrl_mem served).1) same
  rw [isShardOf.entries, isShardOf.count, isShard.2]

/-- The run is orderly: calls of `generateCRL` follow one another and do not stop between their
full list and their last part, and a revocation reaches the store while no call has read the
revoked serials and carries a time after the latest full list.  Then base and delta give the
parent, each full list with a new entry has a delta, and the served shards partition the served
list. -/
theorem lists_reconstructed {as : List Action}
    (run : Run (World.step hash) (fun w a => w.orderly a) {} as w) : Reconstructs w := by
  obtain ⟨kept, chain⟩ : Kept hash w ∧ Chained hash w := by
    refine run.invariant (I := fun w => Kept hash w ∧ Chained hash w)
      (fun u a u' orderly moved so => ?_) ⟨.init, .init⟩
    have alone : u.alone a := by
      simp only [World.orderly, Bool.and_eq_true] at orderly
      exact orderly.1.1
    exact ⟨(step_kept alone moved so.1).2, step_chained orderly moved so.1 so.2⟩
  refine ⟨fun c first d second same => kept.filed.unique first second same, chain.deltas,
    fun idle b n lt => ?_, fun full shards served all => ?_⟩
  · refine chain.complete b n lt fun call running => ?_
    rw [idle] at running
    cases running
  · have last : w.db.latestCrl = some full := by
      unfold Tables.servedCrl at served
      split at served
      next => exact served
      next => cases served
    obtain ⟨stored, isFull⟩ := latestCrl_mem last
    have counted := chain.shards.counted full (kept.filed.rows stored) isFull
    have entries (i : Nat) (bound : i < full.shardCount) (e : RevokedSerial) :
        e ∈ (shards i).entries ↔
          e ∈ full.entries ∧ crlShardIndex hash e.serial full.shardCount = i := by
      rw [servedCrlShard_entries kept.filed chain last (all i bound)]
      simp [crlShardEntries, counted]
    refine ⟨fun e listed => ?_, fun i bound e listed => ((entries i bound e).mp listed).1⟩
    have bound : crlShardIndex hash e.serial full.shardCount < full.shardCount :=
      crlShardIndex_lt counted
    refine ⟨_, ⟨bound, (entries _ bound e).mpr ⟨listed, rfl⟩⟩, fun i there => ?_⟩
    exact ((entries i there.1 e).mp there.2).2.symm

/-! ## Fixed runs -/

/-- Two serials are revoked one after the other, each before a call. -/
def orderlyRun : List Action :=
  [.issue "0a" 1, .project 0, .issue "0b" 1, .project 1, .revoke "0a" 0 7, .project 2] ++
    .begin ["0a"] :: replicate 22 (.generate 0 8) ++
    [.revoke "0b" 0 9, .project 8] ++ .begin ["0b"] :: replicate 28 (.generate 0 10)

/-- Two full lists and the delta between them. -/
theorem orderlyRun_reconstructed : ∃ w,
    executeIf (World.step firstShard) World.orderly {} orderlyRun = some w ∧ Reconstructs w ∧
      w.generators = [] ∧ ∃ d ∈ w.published, d.kind = .delta ∧ d.serials = ["0b"] := by
  have executed : ∃ w, executeIf (World.step firstShard) World.orderly {} orderlyRun = some w ∧
      w.generators = [] ∧
      (w.published.any fun d => d.kind = .delta && d.serials = ["0b"]) :=
    ⟨_, rfl, rfl, rfl⟩
  obtain ⟨w, ran, idle, delta⟩ := executed
  obtain ⟨d, listed, is⟩ := any_eq_true.mp delta
  simp only [Bool.and_eq_true, decide_eq_true_eq] at is
  exact ⟨w, ran, lists_reconstructed (run_of_executeIf ran), idle, d, listed, is⟩

/-- The serial is revoked after the first call, with a time before it. -/
def lateEntryRun : List Action :=
  [.issue "0a" 1, .project 0, .begin []] ++ replicate 8 (.generate 0 5) ++
    [.revoke "0a" 0 3, .project 2, .begin ["0a"]] ++ replicate 21 (.generate 0 8)

def emptyList : Crl :=
  Job.artifact firstShard { entries := [], previous := none, number := 1, now := 5 } 1 .full

/-- The full list of the second call. -/
def laterList : Crl :=
  Job.artifact firstShard
    { entries := [{ serial := "0a", revokedAt := 3, reason := 0 }], previous := some emptyList,
      number := 2, now := 8 } 2 .full

/-- The second full list has an entry that the first has not, and no delta was published. -/
theorem late_entry_missing : ∃ w, execute (World.step firstShard) {} lateEntryRun = some w ∧
    w.generators = [] ∧ ∃ b n, Precedes w.published b n ∧ (∃ e ∈ n.entries, e ∉ b.entries) ∧
      ∀ d ∈ w.published, ¬ IsDelta d b n := by
  have executed : ∃ w, execute (World.step firstShard) {} lateEntryRun = some w ∧
      w.generators = [] ∧ emptyList ∈ w.published ∧ laterList ∈ w.published ∧
      (∀ c ∈ w.published, c.kind = .full → c.number ≤ 1 ∨ 2 ≤ c.number) ∧
      ∀ c ∈ w.published, c.kind ≠ .delta := by
    refine ⟨_, rfl, rfl, ?_, ?_, ?_, ?_⟩ <;> decide
  obtain ⟨w, ran, idle, first, second, next, none⟩ := executed
  refine ⟨w, ran, idle, emptyList, laterList, ⟨⟨first, rfl⟩, ⟨second, rfl⟩, by decide, next⟩,
    ⟨_, mem_cons_self, not_mem_nil⟩, fun d listed isDelta => ?_⟩
  exact none d listed isDelta.kind

end Trustctl.Revocation
