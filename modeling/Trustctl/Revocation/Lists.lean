import Mathlib.Data.List.Sort
import Trustctl.Store.Sinks.Authority

/-!
# Certificate revocation lists

The serials one authority issued for one tenant, the revocation lists published for them, and
the queries of the responder.  A published list is identified with what it lists: its entries,
its number and its times.

* a full list is partitioned into shards by a hash of the serial (`mem_crlShardEntries`);
* `newest` picks the row an `ORDER BY … DESC LIMIT 1` returns.
-/

namespace Trustctl.Revocation

open List Store

/-! ## Rows -/

/-- A row of `ca_issued_certs` of the tenant and the authority. -/
structure IssuedCert where
  serial : String
  issuedAt : Time
  revokedAt : Option Time := none
  reasonCode : Int := 0
deriving DecidableEq

/-- `crypto.RevokedSerial`, an entry of a list. -/
structure RevokedSerial where
  serial : String
  revokedAt : Time
  reason : Int
deriving DecidableEq

/-- `crl_kind`. -/
inductive Kind
  | full
  | shard
  | delta
deriving DecidableEq

/-- A row of `ca_crls` of the tenant and the authority. -/
structure Crl where
  number : Nat
  /-- What the signed list says. -/
  entries : List RevokedSerial
  thisUpdate : Time
  nextUpdate : Time
  kind : Kind
  shardIndex : Nat := 0
  shardCount : Nat
  deltaBaseNumber : Option Nat := none
  parentNumber : Option Nat := none
  revokedCount : Nat
deriving DecidableEq

def Crl.serials (c : Crl) : List String := c.entries.map fun e => e.serial

structure Tables where
  issued : List IssuedCert := []
  crls : List Crl := []
deriving DecidableEq

/-! ## Issued serials -/

def Tables.hasIssuedCerts (db : Tables) : Bool := !db.issued.isEmpty

def IssuedCert.entry (c : IssuedCert) : Option RevokedSerial :=
  c.revokedAt.map fun revokedAt => { serial := c.serial, revokedAt, reason := c.reasonCode }

def Tables.listRevokedCerts (db : Tables) : List RevokedSerial :=
  (db.issued.filterMap IssuedCert.entry).insertionSort fun a b => a.revokedAt ≤ b.revokedAt

def Tables.recordIssuedCert (db : Tables) (serial : String) (issuedAt : Time) : Tables :=
  if db.issued.any fun c => c.serial = serial then db
  else { db with issued := db.issued ++ [{ serial, issuedAt }] }

def IssuedCert.revoke (reasonCode : Int) (at_ : Time) (c : IssuedCert) : IssuedCert :=
  if c.revokedAt = none then { c with revokedAt := some at_, reasonCode } else c

/-- `RevokeIssuedCertTx`, for a reason code that RFC 5280 knows. -/
def Tables.revokeIssuedCert (db : Tables) (serial : String) (reasonCode : Int) (at_ : Time) :
    Tables :=
  if db.issued.any fun c => c.serial = serial then
    { db with issued := db.issued.map fun c =>
        if c.serial = serial then c.revoke reasonCode at_ else c }
  else
    { db with issued := db.issued ++
        [{ serial, issuedAt := at_, revokedAt := some at_, reasonCode }] }

/-! ## Published lists -/

/-- The row that comes first in an order. -/
def newest (le : Crl → Crl → Bool) : List Crl → Option Crl
  | [] => none
  | c :: rest =>
    match newest le rest with
    | none => some c
    | some d => if le d c then some c else some d

def byNumber (a b : Crl) : Bool := a.number ≤ b.number

/-- Parents first, a row without one last. -/
def byParent (a b : Crl) : Bool :=
  let rank := fun c : Crl => (c.parentNumber.map (· + 1)).getD 0
  rank a < rank b || (rank a = rank b && a.number ≤ b.number)

def Tables.nextCrlNumber (db : Tables) : Nat :=
  (db.crls.map fun c => c.number).foldr max 0 + 1

def Tables.insertCrl (db : Tables) (c : Crl) : Tables :=
  if db.crls.any fun d => d.number = c.number then
    { db with crls := db.crls.map fun d => if d.number = c.number then c else d }
  else { db with crls := db.crls ++ [c] }

def Tables.latestCrl (db : Tables) : Option Crl :=
  newest byNumber (db.crls.filter fun c => c.kind = .full)

def Tables.latestCrlShard (db : Tables) (i : Nat) : Option Crl :=
  newest byParent (db.crls.filter fun c => c.kind = .shard ∧ c.shardIndex = i)

/-! ## Partitions and deltas -/

def crlShardTargetRevocations : Nat := 100000

def crlMinShardCount : Nat := 4

def crlMaxShardCount : Nat := 1024

/-- The loop of `crlShardCount`, for at most `fuel` doublings. -/
def doubleShards (revokedCount : Nat) : (fuel shards : Nat) → Nat
  | 0, shards => shards
  | fuel + 1, shards =>
    if shards < crlMaxShardCount ∧ shards * crlShardTargetRevocations < revokedCount then
      doubleShards revokedCount fuel (shards * 2)
    else shards

/-- `crlShardCount`; from four shards eight doublings reach the maximum. -/
def crlShardCount (revokedCount : Nat) : Nat :=
  if revokedCount = 0 then 0
  else min (doubleShards revokedCount 8 crlMinShardCount) crlMaxShardCount

/-- `crlShardIndex`.  `hash` is the number the first sixteen digits of the SHA-256 of the
trimmed, lower-cased serial write. -/
def crlShardIndex (hash : String → Nat) (serial : String) (shardCount : Nat) : Nat :=
  if shardCount ≤ 1 then 0 else hash serial % shardCount

def crlShardEntries (hash : String → Nat) (entries : List RevokedSerial)
    (shardIndex shardCount : Nat) : List RevokedSerial :=
  if shardCount = 0 then []
  else entries.filter fun e => crlShardIndex hash e.serial shardCount = shardIndex

def crlDeltaEntries (entries : List RevokedSerial) (since : Time) : List RevokedSerial :=
  entries.filter fun e => since < e.revokedAt

/-- `servedCRL`; `none` answers that nothing is published. -/
def Tables.servedCrl (db : Tables) : Option Crl :=
  if db.hasIssuedCerts then db.latestCrl else none

def Tables.servedCrlShard (db : Tables) (i : Nat) : Option Crl :=
  if db.hasIssuedCerts then
    db.latestCrl.bind fun full =>
      if full.shardCount ≤ 1 ∨ full.shardCount ≤ i then none
      else (db.latestCrlShard i).bind fun shard =>
        if shard.parentNumber = some full.number then some shard else none
  else none

/-! ## What the queries return -/

variable {le : Crl → Crl → Bool} {rows : List Crl} {c d : Crl} {db : Tables}

theorem newest_mem (hit : newest le rows = some c) : c ∈ rows := by
  induction rows generalizing c with
  | nil => cases hit
  | cons first rest ih =>
    unfold newest at hit
    split at hit
    next =>
      cases hit
      exact mem_cons_self
    next d later =>
      split at hit
      next =>
        cases hit
        exact mem_cons_self
      next =>
        cases hit
        exact mem_cons_of_mem _ (ih later)

theorem newest_isSome (kept : c ∈ rows) : ∃ d, newest le rows = some d := by
  cases rows with
  | nil => cases kept
  | cons first rest =>
    unfold newest
    split
    next => exact ⟨first, rfl⟩
    next d later =>
      split
      next => exact ⟨first, rfl⟩
      next => exact ⟨d, rfl⟩

theorem newest_byNumber_max (hit : newest byNumber rows = some c) (kept : d ∈ rows) :
    d.number ≤ c.number := by
  induction rows generalizing c with
  | nil => cases kept
  | cons first rest ih =>
    unfold newest at hit
    split at hit
    next none =>
      cases hit
      rcases mem_cons.mp kept with rfl | others
      · exact .refl
      · obtain ⟨other, some⟩ := newest_isSome others
        exact nomatch none.symm.trans some
    next other later =>
      split at hit
      next older =>
        cases hit
        rcases mem_cons.mp kept with rfl | others
        · exact .refl
        · exact Nat.le_trans (ih later others) (of_decide_eq_true older)
      next newer =>
        cases hit
        rcases mem_cons.mp kept with rfl | others
        · have above : ¬ c.number ≤ d.number := fun le => newer (decide_eq_true le)
          omega
        · exact ih later others

theorem latestCrl_mem (hit : db.latestCrl = some c) : c ∈ db.crls ∧ c.kind = .full := by
  obtain ⟨kept, full⟩ := mem_filter.mp (newest_mem hit)
  exact ⟨kept, of_decide_eq_true full⟩

theorem latestCrl_max (hit : db.latestCrl = some c) (kept : d ∈ db.crls)
    (full : d.kind = .full) : d.number ≤ c.number :=
  newest_byNumber_max hit (mem_filter.mpr ⟨kept, decide_eq_true full⟩)

theorem latestCrl_isSome (kept : c ∈ db.crls) (full : c.kind = .full) :
    ∃ d, db.latestCrl = some d :=
  newest_isSome (mem_filter.mpr ⟨kept, decide_eq_true full⟩)

theorem number_lt_nextCrlNumber (kept : c ∈ db.crls) : c.number < db.nextCrlNumber := by
  unfold Tables.nextCrlNumber
  generalize db.crls = rows at kept
  induction rows with
  | nil => cases kept
  | cons first rest ih =>
    simp only [map_cons, foldr_cons]
    rcases mem_cons.mp kept with rfl | others
    · omega
    · have below := ih others
      omega

/-- A list that shares its number with no other takes its place once. -/
theorem mem_insertCrl (uniq : ∀ d ∈ db.crls, d.number = c.number → d = c) :
    d ∈ (db.insertCrl c).crls ↔ d ∈ db.crls ∨ d = c := by
  unfold Tables.insertCrl
  split
  next taken =>
    obtain ⟨other, kept, same⟩ := any_eq_true.mp taken
    obtain rfl := uniq other kept (of_decide_eq_true same)
    have unchanged : (db.crls.map fun d => if d.number = other.number then other else d) =
        db.crls := by
      conv_rhs => rw [← map_id db.crls]
      refine map_congr_left fun d mem => ?_
      split
      next same => exact (uniq d mem same).symm
      next => rfl
    simp only [unchanged]
    constructor
    · exact .inl
    · rintro (old | rfl)
      · exact old
      · exact kept
  next => simp

theorem mem_listRevokedCerts {e : RevokedSerial} :
    e ∈ db.listRevokedCerts ↔ ∃ r ∈ db.issued, r.entry = some e := by
  simp [Tables.listRevokedCerts, mem_insertionSort]

theorem crlShardIndex_lt {hash : String → Nat} {serial : String} {k : Nat} (some : k ≠ 0) :
    crlShardIndex hash serial k < k := by
  unfold crlShardIndex
  split
  next => omega
  next => exact Nat.mod_lt _ (Nat.pos_of_ne_zero some)

end Trustctl.Revocation
