import Mathlib.Data.List.Pairwise
import Trustctl.Revocation.Service

/-!
# One call of `generateCRL` at a time

As long as no call of `generateCRL` begins while another is running, the lists of an authority
are numbered in the order they are published, a full list revokes what every earlier one did,
and the store keeps every list that was projected.

* `revocations_never_lost`: a serial whose revocation was answered with success is on every full
  list served from then on, the served full list never loses a serial, and no two lists share a
  number;
* `overlapping_call_loses_revocation`: a call that read the revoked serials before a revocation
  publishes after it, under a higher number and without the serial.
-/

namespace Trustctl.Revocation

open Systems List Option Store

/-! ## Positions the store covers -/

/-- The lists published before the position are in the store. -/
structure Covered (log : List LogEvent) (crls : List Crl) (n : Nat) : Prop where
  bound : n ≤ log.length
  applied : ∀ i < n, ∀ c, log[i]? = some (.published c) → c ∈ crls

namespace Covered

variable {log log' : List LogEvent} {crls crls' : List Crl} {n m : Nat}

theorem zero :
    Covered log crls 0 := ⟨Nat.zero_le _, fun _ below => absurd below (Nat.not_lt_zero _)⟩

theorem grow (cover : Covered log crls n) (more : log <+: log') (sub : crls ⊆ crls') :
    Covered log' crls' n := by
  obtain ⟨extra, rfl⟩ := more
  refine ⟨?_, fun i below c at_ => sub (cover.applied i below c ?_)⟩
  · rw [length_append]
    exact Nat.le_add_right_of_le cover.bound
  · rwa [List.getElem?_append_left (Nat.lt_of_lt_of_le below cover.bound)] at at_

variable {e : LogEvent}

theorem next (cover : Covered log crls n) (at_ : log[n]? = some e)
    (done : ∀ c, e = .published c → c ∈ crls) : Covered log crls (n + 1) := by
  obtain ⟨below, -⟩ := List.getElem?_eq_some_iff.mp at_
  refine ⟨below, fun i le c hit => ?_⟩
  rcases Nat.lt_succ_iff_lt_or_eq.mp le with prior | rfl
  · exact cover.applied i prior c hit
  · exact done c (some.inj (at_.symm.trans hit))

theorem max (left : Covered log crls n) (right : Covered log crls m) :
    Covered log crls (Nat.max n m) := by
  rcases Nat.le_total n m with le | le
  · rwa [show Nat.max n m = m from Nat.max_eq_right le]
  · rwa [show Nat.max n m = n from Nat.max_eq_left le]

theorem mono (cover : Covered log crls n) (le : m ≤ n) : Covered log crls m :=
  ⟨Nat.le_trans le cover.bound, fun i below => cover.applied i (Nat.lt_of_lt_of_le below le)⟩

end Covered

/-! ## Lists in order -/

/-- The list may be published after the other. -/
def Follows (a b : Crl) : Prop :=
  a.number < b.number ∧ (a.kind = .full → b.kind = .full → a.serials ⊆ b.serials)

/-- The published lists are in order, and the store holds those the replicas have covered. -/
structure Filed (w : World) : Prop where
  ordered : w.published.Pairwise Follows
  rows : w.db.crls ⊆ w.published
  entries : ∀ c ∈ w.published, c.entries ⊆ w.db.listRevokedCerts
  checkpoint : Covered w.log w.db.crls w.checkpoint
  cursor : Covered w.log w.db.crls w.cursor
  catchUps : ∀ c ∈ w.catchUps, Covered w.log w.db.crls c.pos ∧ c.stop ≤ w.log.length

/-- What a step of another party looks like to a call: the log grows by events that publish
nothing, and the tables keep what they have. -/
structure Grows (w w' : World) : Prop where
  published : w'.published = w.published
  log : w.log <+: w'.log
  crls : w.db.crls ⊆ w'.db.crls
  revoked : w.db.listRevokedCerts ⊆ w'.db.listRevokedCerts

namespace Filed

variable {w w' : World} {c d : Crl}

/-- Of two lists one follows the other. -/
theorem follows (filed : Filed w) (first : c ∈ w.published) (second : d ∈ w.published)
    (ne : c ≠ d) : Follows c d ∨ Follows d c := by
  have either : w.published.Pairwise fun a b => Follows a b ∨ Follows b a :=
    filed.ordered.imp .inl
  have : Std.Symm fun a b => Follows a b ∨ Follows b a := ⟨fun _ _ => Or.symm⟩
  exact either.forall first second ne

/-- Numbers are not reused. -/
theorem unique (filed : Filed w) (first : c ∈ w.published) (second : d ∈ w.published)
    (same : c.number = d.number) : c = d := by
  by_contra ne
  rcases filed.follows first second ne with old | old
  · exact absurd old.1 (same ▸ Nat.lt_irrefl _)
  · exact absurd old.1 (same ▸ Nat.lt_irrefl _)

/-- A full list revokes what every full list with a lower number does. -/
theorem serials_subset (filed : Filed w) (first : c ∈ w.published) (second : d ∈ w.published)
    (full : c.kind = .full) (full' : d.kind = .full) (le : c.number ≤ d.number) :
    c.serials ⊆ d.serials := by
  by_cases same : c = d
  · exact same ▸ List.Subset.refl _
  · rcases filed.follows first second same with old | after
    · exact old.2 full full'
    · exact absurd after.1 (Nat.not_lt.mpr le)

theorem init : Filed {} where
  ordered := .nil
  rows := nil_subset _
  entries := nofun
  checkpoint := .zero
  cursor := .zero
  catchUps := nofun

variable (filed : Filed w)

include filed

/-- The bookkeeping survives as the log and the store grow. -/
theorem grow (grows : Grows w w') (rows : w'.db.crls ⊆ w'.published)
    (cp : Covered w'.log w'.db.crls w'.checkpoint)
    (cursor : Covered w'.log w'.db.crls w'.cursor)
    (catchUps : ∀ c ∈ w'.catchUps, Covered w'.log w'.db.crls c.pos ∧ c.stop ≤ w'.log.length) :
    Filed w' := by
  refine ⟨grows.published ▸ filed.ordered, rows, ?_, cp, cursor, catchUps⟩
  rw [grows.published]
  exact fun c listed => List.Subset.trans (filed.entries c listed) grows.revoked

theorem catchUps_grow (grows : Grows w w') :
    ∀ c ∈ w.catchUps, Covered w'.log w'.db.crls c.pos ∧ c.stop ≤ w'.log.length := by
  intro c run
  obtain ⟨cover, bound⟩ := filed.catchUps c run
  exact ⟨cover.grow grows.log grows.crls, Nat.le_trans bound grows.log.length_le⟩

variable {e : LogEvent} {db : Tables}

theorem project_grows (logged : e ∈ w.log) (proj : project w.db e = some db) :
    Grows w { w with db } ∧ db.crls ⊆ w.published ∧ ∀ c, e = .published c → c ∈ db.crls := by
  rcases project_crls proj with ⟨quiet, same⟩ | ⟨c, rfl, rfl⟩
  · refine ⟨⟨rfl, prefix_rfl, same ▸ List.Subset.refl _, ?_⟩, same ▸ filed.rows, ?_⟩
    · exact project_listRevokedCerts proj
    · rintro c rfl
      cases quiet
  · have listed : c ∈ w.published := World.mem_published.mpr logged
    have uniq : ∀ d ∈ w.db.crls, d.number = c.number → d = c :=
      fun d kept same => filed.unique (filed.rows kept) listed same
    refine ⟨⟨rfl, prefix_rfl, fun d kept => ?_, ?_⟩, fun d kept => ?_, ?_⟩
    · exact (mem_insertCrl uniq).mpr (.inl kept)
    · exact project_listRevokedCerts proj
    · rcases (mem_insertCrl uniq).mp kept with old | rfl
      · exact filed.rows old
      · exact listed
    · rintro d ⟨⟩
      exact (mem_insertCrl uniq).mpr (.inr rfl)

/-- A logged event is projected and the checkpoint stays, or covers the event. -/
theorem project (logged : e ∈ w.log) (proj : Revocation.project w.db e = some db) :
    Filed { w with db } := by
  obtain ⟨grows, rows, -⟩ := filed.project_grows logged proj
  exact filed.grow grows rows (filed.checkpoint.grow grows.log grows.crls)
    (filed.cursor.grow grows.log grows.crls) (filed.catchUps_grow grows)

theorem append (quiet : e.crl = none) :
    Grows w { w with log := w.log ++ [e] } ∧ Filed { w with log := w.log ++ [e] } := by
  have grows : Grows w { w with log := w.log ++ [e] } :=
    ⟨by simp [World.published, quiet], prefix_append .., .refl _, .refl _⟩
  refine ⟨grows, filed.grow grows ?_ ?_ ?_ (filed.catchUps_grow grows)⟩
  · rw [grows.published]
    exact filed.rows
  · exact filed.checkpoint.grow grows.log grows.crls
  · exact filed.cursor.grow grows.log grows.crls

variable {c : CatchUp}

theorem catchUpStep {out : Outcome CatchUp} (cover : Covered w.log w.db.crls c.pos)
    (stepped : w.catchUpStep c = (w', out)) :
    Grows w w' ∧ Filed w' ∧ w'.catchUps = w.catchUps ∧ w'.generators = w.generators ∧
      w'.acknowledged = w.acknowledged ∧ w'.log = w.log ∧
      (∀ next, out = .next next → Covered w'.log w'.db.crls next.pos ∧ next.stop = c.stop) ∧
      (out = .done → c.stop ≤ c.pos ∧ w'.db = w.db) := by
  rcases World.catchUpStep_cases stepped with
    ⟨e, db, checkpoint, next, -, at_, proj, rfl, moved, rfl, pos, stop⟩ | ⟨past, rfl, rfl⟩ |
    ⟨rfl, rfl⟩
  · obtain ⟨grows, rows, applied⟩ := filed.project_grows (mem_of_getElem? at_) proj
    have grows' : Grows w { w with db, checkpoint } :=
      ⟨grows.published, grows.log, grows.crls, grows.revoked⟩
    have got : Covered w.log db.crls (c.pos + 1) :=
      (cover.grow grows.log grows.crls).next at_ applied
    have old : Covered w.log db.crls w.checkpoint :=
      filed.checkpoint.grow grows.log grows.crls
    refine ⟨grows', filed.grow grows' rows ?_ (filed.cursor.grow grows.log grows.crls)
      (filed.catchUps_grow grows'), rfl, rfl, rfl, rfl, ?_, nofun⟩
    · rcases moved with rfl | rfl
      · exact old
      · exact old.max got
    · rintro _ ⟨⟩
      exact ⟨pos ▸ got, stop⟩
  · have grows : Grows w { w with checkpoint := Nat.max w.checkpoint c.stop } :=
      ⟨rfl, prefix_rfl, .refl _, .refl _⟩
    refine ⟨grows, filed.grow grows filed.rows ?_ filed.cursor filed.catchUps, rfl, rfl, rfl, rfl,
      nofun, fun _ => ⟨past, rfl⟩⟩
    exact filed.checkpoint.max (cover.mono past)
  · exact ⟨⟨rfl, prefix_rfl, .refl _, .refl _⟩, filed, rfl, rfl, rfl,
      rfl, nofun, nofun⟩

end Filed

/-! ## A call and what it has read -/

/-- Every list that was published is in the store. -/
def Settled (w : World) : Prop := w.published ⊆ w.db.crls

def Revokes (w : World) (acks : List String) : Prop :=
  ∀ serial ∈ acks, ∃ e ∈ w.db.listRevokedCerts, e.serial = serial

/-- A full list in the store revokes the serials. -/
def Lists (w : World) (acks : List String) : Prop :=
  ∃ c ∈ w.db.crls, c.kind = .full ∧ acks ⊆ c.serials

/-- What the entries a call has read include. -/
structure HasRead (w : World) (acks : List String) (entries : List RevokedSerial) : Prop where
  acks : acks ⊆ entries.map RevokedSerial.serial
  fulls : ∀ c ∈ w.published, c.kind = .full → c.serials ⊆ entries.map RevokedSerial.serial
  revoked : entries ⊆ w.db.listRevokedCerts

/-- What a part has to be published for: the full list lists the serials, the others come after
it did. -/
def Part.Owes (w : World) (acks : List String) (job : Job) : Part → Prop
  | .full => HasRead w acks job.entries
  | .shard _ | .delta => Lists w acks ∧ job.entries ⊆ w.db.listRevokedCerts

/-- What holds while a call that runs alone is in a phase. -/
def Phase.Sound (hash : String → Nat) (w : World) (acks : List String) : Phase → Prop
  | .catchUp c =>
    Revokes w acks ∧ Covered w.log w.db.crls c.pos ∧
      ∀ d ∈ w.published, ∃ i < c.stop, w.log[i]? = some (.published d)
  | .surface | .revoked => Revokes w acks ∧ Settled w
  | .previous entries => Settled w ∧ HasRead w acks entries
  | .number entries _ => Settled w ∧ HasRead w acks entries
  | .append job part n =>
    Settled w ∧ part.Owes w acks job ∧ ∀ c ∈ w.published, c.number < n
  | .apply job part n =>
    job.artifact hash n part ∈ w.published ∧
      (∀ c ∈ w.published, c = job.artifact hash n part ∨ c ∈ w.db.crls) ∧
      match part with
      | .full => acks ⊆ job.entries.map RevokedSerial.serial ∧ job.entries ⊆ w.db.listRevokedCerts
      | _ => Lists w acks ∧ job.entries ⊆ w.db.listRevokedCerts
  | .next job part => Settled w ∧ part ≠ .full ∧ Lists w acks ∧ job.entries ⊆ w.db.listRevokedCerts

section Growing

variable {hash : String → Nat} {w w' : World} {acks : List String} (grows : Grows w w')

include grows

theorem Settled.grow (done : Settled w) : Settled w' := by
  unfold Settled at *
  rw [grows.published]
  exact List.Subset.trans done grows.crls

theorem Revokes.grow (revokes : Revokes w acks) : Revokes w' acks := by
  intro serial acked
  obtain ⟨e, listed, same⟩ := revokes serial acked
  exact ⟨e, grows.revoked listed, same⟩

theorem Lists.grow (lists : Lists w acks) : Lists w' acks := by
  obtain ⟨c, kept, full, listed⟩ := lists
  exact ⟨c, grows.crls kept, full, listed⟩

theorem HasRead.grow {es : List RevokedSerial} (read : HasRead w acks es) : HasRead w' acks es where
  acks := read.acks
  fulls := grows.published ▸ read.fulls
  revoked := List.Subset.trans read.revoked grows.revoked

theorem Part.Owes.grow {job : Job} {part : Part} (owes : part.Owes w acks job) :
    part.Owes w' acks job := by
  cases part with
  | full => exact HasRead.grow grows owes
  | shard | delta => exact ⟨owes.1.grow grows, List.Subset.trans owes.2 grows.revoked⟩

variable {phase : Phase}

theorem Phase.Sound.grow (sound : phase.Sound hash w acks) : phase.Sound hash w' acks := by
  cases phase with
  | catchUp c =>
    obtain ⟨revokes, cover, behind⟩ := sound
    refine ⟨revokes.grow grows, cover.grow grows.log grows.crls, fun d listed => ?_⟩
    rw [grows.published] at listed
    obtain ⟨i, below, at_⟩ := behind d listed
    obtain ⟨extra, more⟩ := grows.log
    obtain ⟨lt, -⟩ := List.getElem?_eq_some_iff.mp at_
    exact ⟨i, below, by rw [← more, List.getElem?_append_left lt, at_]⟩
  | surface | revoked | previous | number => exact ⟨sound.1.grow grows, sound.2.grow grows⟩
  | append job part number =>
    obtain ⟨done, owes, above⟩ := sound
    exact ⟨done.grow grows, owes.grow grows, grows.published ▸ above⟩
  | apply job part number =>
    obtain ⟨listed, others, rest⟩ := sound
    refine ⟨grows.published ▸ listed, fun c sent => ?_, ?_⟩
    · exact (others c (grows.published ▸ sent)).imp_right fun kept => grows.crls kept
    · cases part with
      | full => exact ⟨rest.1, List.Subset.trans rest.2 grows.revoked⟩
      | shard | delta => exact ⟨rest.1.grow grows, List.Subset.trans rest.2 grows.revoked⟩
  | next job part =>
    obtain ⟨done, other, lists, revoked⟩ := sound
    exact ⟨done.grow grows, other, lists.grow grows, List.Subset.trans revoked grows.revoked⟩

end Growing

/-! ## The steps of a call -/

section Calls

variable {hash : String → Nat} {now : Time} {w w' : World} {acks : List String}

variable {job : Job} {part : Part}

theorem Part.Owes.revoked (owes : part.Owes w acks job) : job.entries ⊆ w.db.listRevokedCerts := by
  cases part with
  | full => exact HasRead.revoked owes
  | shard | delta => exact owes.2

variable {n : Nat}

/-- A part is appended under a number above all others. -/
theorem Filed.publish (filed : Filed w) (owes : part.Owes w acks job)
    (above : ∀ c ∈ w.published, c.number < n) :
    Filed { w with log := w.log ++ [.published (job.artifact hash n part)] } := by
  have listed := w.published_append (job.artifact hash n part)
  have more : w.log <+: w.log ++ [.published (job.artifact hash n part)] :=
    prefix_append ..
  refine ⟨?_, ?_, ?_, ?_, ?_, fun c run => ?_⟩
  · rw [listed, pairwise_append]
    refine ⟨filed.ordered, pairwise_singleton .., fun c sent crl here => ?_⟩
    obtain rfl := mem_singleton.mp here
    cases part with
    | full => exact ⟨above c sent, fun full _ => HasRead.fulls owes c sent full⟩
    | shard | delta => exact ⟨above c sent, nofun⟩
  · rw [listed]
    exact List.Subset.trans filed.rows (subset_append_left ..)
  · rw [listed]
    refine forall_mem_snoc filed.entries ?_
    exact List.Subset.trans (artifact_entries_subset ..) owes.revoked
  · exact filed.checkpoint.grow more (.refl _)
  · exact filed.cursor.grow more (.refl _)
  · obtain ⟨cover, bound⟩ := filed.catchUps c run
    exact ⟨cover.grow more (.refl _), Nat.le_trans bound more.length_le⟩

/-- What a step of a call that runs alone leaves. -/
structure Generated (hash : String → Nat) (w w' : World) (acks : List String)
    (out : Outcome Phase) : Prop where
  filed : Filed w'
  crls : w.db.crls ⊆ w'.db.crls
  same : w'.generators = w.generators ∧ w'.acknowledged = w.acknowledged
  next : ∀ phase, out = .next phase → phase.Sound hash w' acks
  done : out = .done → Lists w' acks

variable (filed : Filed w)

include filed

theorem Generated.read {phase : Phase} (sound : phase.Sound hash w acks) :
    Generated hash w w acks (.next phase) where
  filed := filed
  crls := .refl _
  same := ⟨rfl, rfl⟩
  next _ := by
    rintro ⟨⟩
    exact sound
  done := nofun

theorem Generated.failed : Generated hash w w acks .failed :=
  ⟨filed, .refl _, ⟨rfl, rfl⟩, nofun, nofun⟩

variable {out : Outcome Phase}

theorem generated_catchUp {c : CatchUp} (sound : (Phase.catchUp c).Sound hash w acks)
    (moved : w.generateStep hash now (.catchUp c) = (w', out)) :
    Generated hash w w' acks out := by
  obtain ⟨revokes, cover, behind⟩ := sound
  dsimp only [World.generateStep] at moved
  cases ran : w.catchUpStep c with
  | mk mid progress =>
    rw [ran] at moved
    obtain ⟨grows, filed', -, gens, acked, log, next, done⟩ :=
      filed.catchUpStep cover ran
    cases progress with
    | next c' =>
      cases moved
      obtain ⟨covered', stop⟩ := next c' rfl
      refine ⟨filed', grows.crls, ⟨gens, acked⟩, ?_, nofun⟩
      rintro _ ⟨⟩
      refine ⟨revokes.grow grows, covered', fun d listed => ?_⟩
      rw [grows.published] at listed
      rw [stop, log]
      exact behind d listed
    | done =>
      cases moved
      obtain ⟨past, -⟩ := done rfl
      refine ⟨filed', grows.crls, ⟨gens, acked⟩, ?_, nofun⟩
      rintro _ ⟨⟩
      refine ⟨revokes.grow grows, Settled.grow grows fun d listed => ?_⟩
      obtain ⟨i, below, at_⟩ := behind d listed
      exact cover.applied i (Nat.lt_of_lt_of_le below past) d at_
    | failed =>
      cases moved
      exact ⟨filed', grows.crls, ⟨gens, acked⟩, nofun, nofun⟩

theorem settled_apply (sound : (Phase.apply job part n).Sound hash w acks) :
    Settled { w with db := w.db.insertCrl (job.artifact hash n part) } := by
  obtain ⟨listed, rest, -⟩ := sound
  obtain ⟨grows, -, done⟩ := filed.project_grows (World.mem_published.mp listed) rfl
  intro c sent
  rcases rest c sent with rfl | old
  · exact done _ rfl
  · exact grows.crls old

theorem generated_apply (sound : (Phase.apply job part n).Sound hash w acks)
    (moved : w.generateStep hash now (.apply job part n) = (w', out)) :
    Generated hash w w' acks out := by
  have settled := settled_apply filed sound
  obtain ⟨listed, -, rest⟩ := sound
  obtain ⟨rfl, rfl⟩ := Prod.mk.inj moved
  have logged := World.mem_published.mp listed
  obtain ⟨grows, -, done⟩ := filed.project_grows logged rfl
  have lists : Lists { w with db := w.db.insertCrl (job.artifact hash n part) } acks ∧
      job.entries ⊆ (w.db.insertCrl (job.artifact hash n part)).listRevokedCerts := by
    cases part with
    | full => exact ⟨⟨_, done _ rfl, rfl, rest.1⟩, List.Subset.trans rest.2 grows.revoked⟩
    | shard | delta =>
      exact ⟨rest.1.grow grows, List.Subset.trans rest.2 grows.revoked⟩
  refine ⟨filed.project logged rfl, grows.crls, ⟨rfl, rfl⟩, fun phase next => ?_, fun _ => lists.1⟩
  split at next
  next part' after =>
    cases next
    refine ⟨settled, ?_, lists.1, lists.2⟩
    rintro rfl
    exact Job.after_ne_full after
  next => cases next

theorem generated {phase : Phase} (sound : phase.Sound hash w acks)
    (moved : w.generateStep hash now phase = (w', out)) :
    Generated hash w w' acks out := by
  cases phase with
  | catchUp c => exact generated_catchUp filed sound moved
  | surface =>
    cases moved
    split
    next => exact .read filed sound
    next => exact .failed filed
  | revoked =>
    cases moved
    refine .read filed ⟨sound.2, fun serial acked => ?_, fun c sent _ =>
      map_subset _ (filed.entries c sent), .refl _⟩
    obtain ⟨e, listed, same⟩ := sound.1 serial acked
    exact mem_map.mpr ⟨e, listed, same⟩
  | previous es =>
    cases moved
    exact .read filed sound
  | number es previous =>
    cases moved
    refine .read filed ⟨sound.1, sound.2, fun c sent => ?_⟩
    exact number_lt_nextCrlNumber (sound.1 sent)
  | append job part n =>
    obtain ⟨done, owes, above⟩ := sound
    dsimp only [World.generateStep] at moved
    split at moved
    next =>
      cases moved
      refine ⟨filed.publish owes above, .refl _, ⟨rfl, rfl⟩, ?_, nofun⟩
      rintro _ ⟨⟩
      refine ⟨World.mem_published.mpr (by simp), fun c sent => ?_, ?_⟩
      · rcases mem_append.mp (World.mem_published.mp sent) with old | new
        · exact .inr (done (World.mem_published.mpr old))
        · cases mem_singleton.mp new
          exact .inl rfl
      · cases part with
        | full =>
          have read : HasRead w acks job.entries := owes
          exact ⟨read.acks, read.revoked⟩
        | shard | delta => exact owes
    next =>
      cases moved
      exact .failed filed
  | apply job part n => exact generated_apply filed sound moved
  | next job part =>
    cases moved
    obtain ⟨done, other, lists, revoked⟩ := sound
    refine .read filed ⟨done, ?_, fun c sent => number_lt_nextCrlNumber (done sent)⟩
    cases part with
    | full => exact absurd rfl other
    | shard | delta => exact ⟨lists, revoked⟩

end Calls

/-! ## Runs -/

/-- A call begins only while none is running. -/
def World.alone (w : World) : Action → Bool
  | .begin _ => w.generators.isEmpty
  | _ => true

/-- What every step keeps that begins no call beside another. -/
structure Kept (hash : String → Nat) (w : World) : Prop where
  filed : Filed w
  single : w.generators.length ≤ 1
  sound : ∀ call ∈ w.generators, call.phase.Sound hash w call.acks
  acknowledged : ∀ serial ∈ w.acknowledged, Lists w [serial]

variable {hash : String → Nat} {w w' : World}

theorem Kept.init : Kept hash {} where
  filed := .init
  single := Nat.zero_le _
  sound := nofun
  acknowledged := nofun

variable (kept : Kept hash w)

include kept

theorem Kept.grow (grows : Grows w w') (filed : Filed w')
    (gens : w'.generators = w.generators) (acked : w'.acknowledged = w.acknowledged) :
    Kept hash w' := by
  refine ⟨filed, ?_, ?_, ?_⟩
  · rw [gens]
    exact kept.single
  · rw [gens]
    exact fun call run => (kept.sound call run).grow grows
  · rw [acked]
    exact fun serial answered => (kept.acknowledged serial answered).grow grows

theorem Kept.only {g : Nat} {call : Generator} (run : w.generators[g]? = some call) :
    w.generators = [call] ∧ g = 0 := by
  have single := kept.single
  match calls : w.generators, g with
  | [only], 0 =>
    rw [calls] at run
    exact ⟨by rw [some.inj run], rfl⟩
  | [only], g + 1 =>
    rw [calls] at run
    cases run
  | [], g =>
    rw [calls] at run
    cases run
  | _ :: _ :: _, g =>
    rw [calls] at single
    simp at single

/-- Checkpoints, cursors and catch-ups may move as far as the store covers the log. -/
theorem Kept.move {checkpoint cursor : Nat} {catchUps : List CatchUp}
    (covered : Covered w.log w.db.crls checkpoint) (read : Covered w.log w.db.crls cursor)
    (run : ∀ c ∈ catchUps, Covered w.log w.db.crls c.pos ∧ c.stop ≤ w.log.length) :
    Kept hash { w with checkpoint, cursor, catchUps } := by
  have grows : Grows w { w with checkpoint, cursor, catchUps } :=
    ⟨rfl, prefix_rfl, .refl _, .refl _⟩
  exact kept.grow grows (kept.filed.grow grows kept.filed.rows covered read run) rfl rfl

theorem Kept.project {e : LogEvent} {db : Tables} (logged : e ∈ w.log)
    (proj : Revocation.project w.db e = some db) :
    Kept hash { w with db } :=
  kept.grow (kept.filed.project_grows logged proj).1 (kept.filed.project logged proj)
    rfl rfl

theorem Kept.tail {e : LogEvent} {db : Tables} (at_ : w.log[w.cursor]? = some e)
    (proj : Revocation.project w.db e = some db) (reach : Projections.TailReach) :
    Kept hash (World.afterTail { w with db } reach) := by
  have logged := mem_of_getElem? at_
  have kept' := kept.project logged proj
  have applied := (kept.filed.project_grows logged proj).2.2
  have got : Covered w.log db.crls (w.cursor + 1) := kept'.filed.cursor.next at_ applied
  have covered : Covered w.log db.crls (Nat.max w.checkpoint (w.cursor + 1)) :=
    kept'.filed.checkpoint.max got
  cases reach with
  | applied => exact kept'
  | checkpointed => exact kept'.move covered kept'.filed.cursor kept'.filed.catchUps
  | acknowledged => exact kept'.move covered got kept'.filed.catchUps

theorem Kept.catchUp {c : CatchUp} {k : Nat} {mid : World} {out : Outcome CatchUp}
    (run : w.catchUps[k]? = some c) (moved : w.catchUpStep c = (mid, out)) :
    Kept hash { mid with catchUps := match out with
      | .next state => mid.catchUps.set k state
      | _ => mid.catchUps.eraseIdx k } := by
  obtain ⟨cover, bound⟩ := kept.filed.catchUps c (mem_of_getElem? run)
  obtain ⟨grows, filed, -, gens, acked, log, next, -⟩ :=
    kept.filed.catchUpStep cover moved
  refine (kept.grow grows filed gens acked).move filed.checkpoint filed.cursor ?_
  intro c' mem
  split at mem
  next state =>
    rcases mem_or_eq_of_mem_set mem with old | rfl
    · exact filed.catchUps c' old
    · obtain ⟨covered', stop⟩ := next _ rfl
      exact ⟨covered', by rw [stop, log]; exact bound⟩
  next => exact filed.catchUps c' (mem_of_mem_eraseIdx mem)

omit kept

/-- Calls and answers are not part of the bookkeeping. -/
theorem Filed.calls (filed : Filed w) (generators : List Generator) (acknowledged : List String) :
    Filed { w with generators, acknowledged } :=
  ⟨filed.ordered, filed.rows, filed.entries, filed.checkpoint, filed.cursor, filed.catchUps⟩

theorem Grows.calls (w : World) (generators : List Generator) (acknowledged : List String) :
    Grows w { w with generators, acknowledged } :=
  ⟨rfl, prefix_rfl, .refl _, .refl _⟩

theorem Kept.begin (kept : Kept hash w) (idle : w.generators = []) {acks : List String}
    (revoked : acks.all w.isRevoked) :
    Kept hash { w with
      generators := w.generators ++ [{ acks, phase := .catchUp w.beginCatchUp }] } := by
  refine ⟨kept.filed.calls _ _, ?_, ?_, kept.acknowledged⟩
  · simp [idle]
  · intro call member
    rw [idle, nil_append, mem_singleton] at member
    subst member
    refine ⟨fun serial acked => ?_, kept.filed.checkpoint, fun d listed => ?_⟩
    · obtain ⟨e, listed, is⟩ := any_eq_true.mp (all_eq_true.mp revoked serial acked)
      exact ⟨e, listed, of_decide_eq_true is⟩
    · obtain ⟨i, below, at_⟩ := getElem_of_mem (World.mem_published.mp listed)
      exact ⟨i, below, List.getElem?_eq_some_iff.mpr ⟨below, at_⟩⟩

theorem Kept.generate (kept : Kept hash w) {g : Nat} {call : Generator} {now : Time} {mid : World}
    {out : Outcome Phase} (run : w.generators[g]? = some call)
    (moved : w.generateStep hash now call.phase = (mid, out)) :
    w.db.crls ⊆ mid.db.crls ∧ Kept hash (match out with
      | .next phase => { mid with generators := mid.generators.set g { call with phase } }
      | .done => { mid with
          generators := mid.generators.eraseIdx g
          acknowledged := mid.acknowledged ++ call.acks }
      | .failed => { mid with generators := mid.generators.eraseIdx g }) := by
  obtain ⟨only, rfl⟩ := kept.only run
  have sound := kept.sound call (mem_of_getElem? run)
  obtain ⟨filed, crls, ⟨generators, acknowledged⟩, next, done⟩ := generated kept.filed sound moved
  rw [only] at generators
  have answered : ∀ serial ∈ mid.acknowledged, Lists mid [serial] := by
    rw [acknowledged]
    intro serial answered
    obtain ⟨c, stored, full, listed⟩ := kept.acknowledged serial answered
    exact ⟨c, crls stored, full, listed⟩
  refine ⟨crls, ?_⟩
  cases out with
  | next phase =>
    refine ⟨filed.calls _ _, by simp [generators], fun call' member => ?_, answered⟩
    have here : call' = { call with phase } := by simpa [generators] using member
    subst here
    exact (next phase rfl).grow (.calls ..)
  | done =>
    refine ⟨filed.calls _ _, by simp [generators], fun call' member => ?_, ?_⟩
    · simp [generators] at member
    · refine forall_mem_append.mpr ⟨answered, fun serial acked => ?_⟩
      obtain ⟨c, stored, full, listed⟩ := done rfl
      exact ⟨c, stored, full, fun s here => mem_singleton.mp here ▸ listed acked⟩
  | failed =>
    refine ⟨filed.calls _ _, by simp [generators], fun call' member => ?_, answered⟩
    simp [generators] at member

theorem step_kept {a : Action} (alone : w.alone a) (moved : w.step hash a = some w')
    (kept : Kept hash w) : w.db.crls ⊆ w'.db.crls ∧ Kept hash w' := by
  cases a with
  | issue serial issuedAt =>
    cases moved
    have appended := kept.filed.append (e := .issued serial issuedAt) rfl
    exact ⟨.refl _, kept.grow appended.1 appended.2 rfl rfl⟩
  | revoke serial reasonCode revokedAt =>
    cases moved
    have appended := kept.filed.append (e := .revoked serial reasonCode revokedAt) rfl
    exact ⟨.refl _, kept.grow appended.1 appended.2 rfl rfl⟩
  | project i =>
    obtain ⟨e, at_, rfl⟩ := map_eq_some_iff.mp moved
    have logged := mem_of_getElem? at_
    split
    next db projected =>
      exact ⟨(kept.filed.project_grows logged projected).1.crls, kept.project logged projected⟩
    next => exact ⟨.refl _, kept⟩
  | tail reach =>
    obtain ⟨e, at_, rfl⟩ := map_eq_some_iff.mp moved
    split
    next db projected =>
      refine ⟨?_, kept.tail at_ projected reach⟩
      have grows := (kept.filed.project_grows (mem_of_getElem? at_) projected).1
      cases reach <;> exact grows.crls
    next => exact ⟨.refl _, kept⟩
  | boot =>
    cases moved
    refine ⟨.refl _, kept.move kept.filed.checkpoint kept.filed.cursor ?_⟩
    refine forall_mem_snoc kept.filed.catchUps ?_
    exact ⟨kept.filed.checkpoint, .refl⟩
  | catchUp k =>
    obtain ⟨c, run, rfl⟩ := map_eq_some_iff.mp moved
    cases ran : w.catchUpStep c with
    | mk mid out =>
      have covered := (kept.filed.catchUps c (mem_of_getElem? run)).1
      have grows := (kept.filed.catchUpStep covered ran).1
      have kept' := kept.catchUp run ran
      cases out <;> exact ⟨grows.crls, kept'⟩
  | begin acks =>
    obtain ⟨revoked, ⟨⟩⟩ := ite_none_right_eq_some.mp moved
    exact ⟨.refl _, kept.begin (List.isEmpty_iff.mp alone) revoked⟩
  | generate g now =>
    obtain ⟨call, run, rfl⟩ := map_eq_some_iff.mp moved
    cases ran : w.generateStep hash now call.phase with
    | mk mid out =>
      have generated := kept.generate run ran
      cases out <;> exact generated
  | fail g =>
    obtain ⟨-, ⟨⟩⟩ := ite_none_right_eq_some.mp moved
    refine ⟨.refl _, kept.filed.calls _ _, ?_, fun call member => ?_, kept.acknowledged⟩
    · exact Nat.le_trans (length_eraseIdx_le ..) kept.single
    · exact (kept.sound call (mem_of_mem_eraseIdx member)).grow (.calls ..)

/-- The served list revokes what every full list in the store does. -/
theorem Filed.listed (filed : Filed w) {c : Crl} (kept : c ∈ w.db.crls) (full : c.kind = .full) :
    c.serials ⊆ w.listed := by
  intro serial revoked
  obtain ⟨last, hit⟩ := latestCrl_isSome kept full
  obtain ⟨kept', full'⟩ := latestCrl_mem hit
  have sub := filed.serials_subset (filed.rows kept) (filed.rows kept') full full'
    (latestCrl_max hit kept full)
  -- A list with an entry proves that the tenant has issued serials.
  obtain ⟨e, entry, -⟩ := mem_map.mp revoked
  obtain ⟨row, issued, -⟩ := mem_listRevokedCerts.mp (filed.entries c (filed.rows kept) entry)
  have surface : w.db.hasIssuedCerts := by
    cases rows : w.db.issued with
    | nil =>
      rw [rows] at issued
      cases issued
    | cons first rest => simp [Tables.hasIssuedCerts, rows]
  simp only [World.listed, Tables.servedCrl, surface, if_true, hit]
  exact sub revoked

/-- In a run that begins no call of `generateCRL` while another is running: a serial whose
revocation was answered with success is on every full list served from then on, the served full
list never loses a serial, and no two published lists share a number. -/
theorem revocations_never_lost {as later : List Action}
    (run : Run (World.step hash) (fun w a => w.alone a) {} as w)
    (after : Run (World.step hash) (fun w a => w.alone a) w later w') :
    (∀ serial ∈ w.acknowledged, serial ∈ w'.listed) ∧ w.listed ⊆ w'.listed ∧
      ∀ c ∈ w'.published, ∀ d ∈ w'.published, c.number = d.number → c = d := by
  have kept : Kept hash w :=
    run.invariant (I := Kept hash) (fun _ _ _ alone moved kept => (step_kept alone moved kept).2)
      Kept.init
  obtain ⟨crls, kept'⟩ : w.db.crls ⊆ w'.db.crls ∧ Kept hash w' := by
    refine after.invariant (I := fun w' => w.db.crls ⊆ w'.db.crls ∧ Kept hash w')
      (fun u a u' alone moved so => ?_) ⟨.refl _, kept⟩
    obtain ⟨more, still⟩ := step_kept alone moved so.2
    exact ⟨List.Subset.trans so.1 more, still⟩
  refine ⟨fun serial answered => ?_, fun serial listed => ?_, ?_⟩
  · obtain ⟨c, stored, full, lists⟩ := kept.acknowledged serial answered
    exact kept'.filed.listed (crls stored) full (lists mem_cons_self)
  · unfold World.listed Tables.servedCrl at listed
    split at listed
    next crl served =>
      split at served
      next =>
        obtain ⟨stored, full⟩ := latestCrl_mem served
        exact kept'.filed.listed (crls stored) full listed
      next => cases served
    next => cases listed
  · exact fun c first d second same => kept'.filed.unique first second same

/-! ## Fixed runs -/

/-- Every serial goes to the first shard. -/
def firstShard : String → Nat := fun _ => 0

def revokedSerial : List Action := [.issue "0a" 1, .project 0, .revoke "0a" 0 7, .project 1]

/-- The call of its handler: two events, the full list and four shards. -/
def handlerCall : List Action := .begin ["0a"] :: replicate 21 (.generate 0 8)

/-- The scheduler's call that follows. -/
def schedulerCall : List Action := .begin [] :: replicate 12 (.generate 0 9)

/-- The handler answers a revocation, and the list of a later call has the serial. -/
theorem answered_revocation_listed : ∃ w w',
    executeIf (World.step firstShard) World.alone {} (revokedSerial ++ handlerCall) = some w ∧
      executeIf (World.step firstShard) World.alone w schedulerCall = some w' ∧
      w.acknowledged = ["0a"] ∧ "0a" ∈ w'.listed := by
  have ran : ∃ w, executeIf (World.step firstShard) World.alone {}
      (revokedSerial ++ handlerCall) = some w ∧ w.acknowledged = ["0a"] ∧
      (executeIf (World.step firstShard) World.alone w schedulerCall).isSome :=
    ⟨_, rfl, rfl, rfl⟩
  obtain ⟨w, first, answered, goesOn⟩ := ran
  obtain ⟨w', second⟩ := isSome_iff_exists.mp goesOn
  refine ⟨w, w', first, second, answered, ?_⟩
  have kept := revocations_never_lost (run_of_executeIf first) (run_of_executeIf second)
  exact kept.1 "0a" (answered ▸ mem_cons_self)

/-- The scheduler has read the revoked serials when the serial is revoked. -/
def overlappingRun : List Action :=
  [.issue "0a" 1, .project 0, .begin []] ++ replicate 4 (.generate 0 5) ++
    [.revoke "0a" 0 7, .project 1, .begin ["0a"]] ++ replicate 20 (.generate 1 8)

/-- The scheduler takes the next number, higher than that of the handler's list, and publishes
what it read: the serial is gone from the served list. -/
theorem overlapping_call_loses_revocation : ∃ w w',
    execute (World.step firstShard) {} overlappingRun = some w ∧
      execute (World.step firstShard) w (replicate 4 (.generate 0 9)) = some w' ∧
      "0a" ∈ w.acknowledged ∧ "0a" ∈ w.listed ∧ "0a" ∉ w'.listed := by
  refine ⟨_, _, rfl, rfl, ?_, ?_, ?_⟩ <;> decide

end Trustctl.Revocation
