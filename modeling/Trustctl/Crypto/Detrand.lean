import Trustctl.Systems.Framing
import Mathlib.Data.Set.Function

/-!
# The deterministic stream

`internal/crypto/detrand`: a reader that hands out the digests of its seed and a counter, one after
the other.

* `ahead`: the bytes that a reader has yet to hand out, which a refill keeps;
* `read_ahead`: a call hands out the next of them and leaves the others;
* `reads_of_seed`: however the calls are cut, the output is the stream of the seed, and the seed
  determines its parts.
-/

namespace Trustctl.Crypto

open Systems

abbrev Digest := Vector Byte 32

open List

/-- A byte slice, whose length is an `int`. -/
abbrev Slice := { p : List Byte // p.length < 2 ^ 63 }

/-- `binary.BigEndian.PutUint64`. -/
def be64 (n : BitVec 64) : List Byte := be32 (n.extractLsb' 32 32) ++ be32 (n.extractLsb' 0 32)

theorem be64_append_inj {a b : BitVec 64} {xs ys : List Byte}
    (same : be64 a ++ xs = be64 b ++ ys) : a = b ∧ xs = ys := by
  rw [be64, be64, append_assoc, append_assoc] at same
  obtain ⟨high, same⟩ := be32_append_inj same
  obtain ⟨low, tails⟩ := be32_append_inj same
  refine ⟨?_, tails⟩
  simp only [← BitVec.toNat_inj, BitVec.extractLsb'_toNat, Nat.shiftRight_eq_div_pow] at high low ⊢
  omega

/-- What `New` writes to the hash: each part behind its length. -/
def seedInput (parts : List Slice) : List Byte :=
  parts.flatMap fun p => be64 (.ofNat 64 p.1.length) ++ p.1

theorem seedInput_injective : Function.Injective seedInput := by
  intro ps
  induction ps with
  | nil =>
    intro qs same
    cases qs with
    | nil => rfl
    | cons q qs => cases same
  | cons p ps ih =>
    intro qs same
    cases qs with
    | nil => cases same
    | cons q qs =>
      simp only [seedInput, flatMap_cons, append_assoc] at same
      obtain ⟨lens, same⟩ := be64_append_inj same
      have length : p.1.length = q.1.length := by
        have equal := congrArg BitVec.toNat lens
        rw [BitVec.toNat_ofNat, BitVec.toNat_ofNat] at equal
        have := p.2
        have := q.2
        omega
      obtain ⟨first, rest⟩ := append_inj same length
      rw [Subtype.ext first, ih rest]

structure Reader where
  seed : Digest
  ctr : BitVec 64
  buf : List Byte

section Reading

variable (sha256 : List Byte → Digest) (r : Reader)

def new (parts : List Slice) : Reader := ⟨sha256 (seedInput parts), 0, []⟩

def block (seed : Digest) (i : BitVec 64) : Digest := sha256 (seed.toList ++ be64 i)

/-- The head of the loop in `Read`. -/
def refill : Reader :=
  if r.buf.isEmpty then { r with ctr := r.ctr + 1, buf := (block sha256 r.seed r.ctr).toList }
  else r

theorem refill_pos : 0 < (refill sha256 r).buf.length := by
  unfold refill
  split
  next => rw [Vector.length_toList]; decide
  next full => exact length_pos_iff.mpr (mt isEmpty_iff.mpr full)

/-- `Read`, with `n` bytes of the slice left to fill. -/
def read (r : Reader) (n : Nat) : List Byte × Reader :=
  if 0 < n then
    let full := refill sha256 r
    let m := min n full.buf.length
    let rest := read { full with buf := full.buf.drop m } (n - m)
    (full.buf.take m ++ rest.1, rest.2)
  else ([], r)
termination_by n
decreasing_by
  have := refill_pos sha256 r
  omega

/-- Calls one after the other, with slices of the given lengths. -/
def reads (r : Reader) : List Nat → List Byte × Reader
  | [] => ([], r)
  | n :: ns =>
    let out := read sha256 r n
    let rest := reads out.2 ns
    (out.1 ++ rest.1, rest.2)

/-- Byte `i` of `SHA256(seed || 0)`, `SHA256(seed || 1)`, and so on, each counter in eight bytes. -/
def stream (seed : Digest) (i : Nat) : Byte :=
  (sha256 (seed.toList ++ be64 (.ofNat 64 (i / 32))))[i % 32]

/-- Byte `i` of what the reader has yet to hand out. -/
def ahead (i : Nat) : Byte :=
  let j := i - r.buf.length
  r.buf[i]?.getD (block sha256 r.seed (r.ctr + .ofNat 64 (j / 32)))[j % 32]

theorem ahead_refill : ahead sha256 (refill sha256 r) = ahead sha256 r := by
  unfold refill
  split
  next empty =>
    funext i
    have none : r.buf = [] := isEmpty_iff.mp empty
    simp only [ahead, none, Vector.length_toList, length_nil, Nat.sub_zero]
    by_cases first : i < 32
    · simp [Nat.div_eq_of_lt first, Nat.mod_eq_of_lt first, first]
    · -- the rest of the stream starts one block later
      have next : i / 32 = 1 + (i - 32) / 32 := by omega
      have index : i % 32 = (i - 32) % 32 := by omega
      simp [first, next, index, BitVec.ofNat_add, BitVec.add_assoc]
  next => rfl

theorem ahead_drop {m : Nat} (le : m ≤ r.buf.length) (i : Nat) :
    ahead sha256 { r with buf := r.buf.drop m } i = ahead sha256 r (m + i) := by
  have left : i - (r.buf.length - m) = m + i - r.buf.length := by omega
  simp only [ahead, getElem?_drop, length_drop, left]

theorem take_ahead {m : Nat} (le : m ≤ r.buf.length) :
    r.buf.take m = (range m).map (ahead sha256 r) := by
  refine ext_getElem (by simpa using le) fun i short _ => ?_
  have lt : i < r.buf.length := (lt_min_iff.mp (length_take ▸ short)).2
  simp [ahead, lt]

/-- A call hands out the next bytes, and leaves those after them. -/
theorem read_ahead (r : Reader) (n : Nat) : (read sha256 r n).1 = (range n).map (ahead sha256 r) ∧
      ahead sha256 (read sha256 r n).2 = fun i => ahead sha256 r (n + i) := by
  -- along the loop: each turn takes at least one byte from the block at hand
  induction r, n using read.induct sha256 with
  | case1 r n more full m ih =>
    have le : m ≤ full.buf.length := min_le_right ..
    have total : m + (n - m) = n := Nat.add_sub_of_le (min_le_left ..)
    have rest := funext (ahead_drop sha256 full le)
    obtain ⟨out, left⟩ := ih
    rw [read, if_pos more, ← ahead_refill]
    refine ⟨?_, ?_⟩
    · calc full.buf.take m ++ _
        _ = (range m).map (ahead sha256 full) ++
              (range (n - m)).map fun i => ahead sha256 full (m + i) := by
          rw [out, rest, take_ahead sha256 full le]
        _ = (range n).map (ahead sha256 full) := by
          rw [← total, range_add, map_append, map_map, total]
          rfl
    · rw [left, rest]
      funext i
      dsimp only
      rw [← Nat.add_assoc, total]
  | case2 r n done =>
    obtain rfl : n = 0 := by omega
    rw [read, if_neg done]
    simp

theorem reads_ahead (r : Reader) (ns : List Nat) :
    (reads sha256 r ns).1 = (range ns.sum).map (ahead sha256 r) := by
  induction ns generalizing r with
  | nil => rfl
  | cons n ns ih =>
    obtain ⟨out, left⟩ := read_ahead sha256 r n
    rw [reads, ih, out, left, sum_cons, range_add, map_append, map_map]
    rfl

end Reading

/-- However the calls are cut, the output is the stream of the seed; and where the hash is
injective, two lists of parts with one seed are the same list. -/
theorem reads_of_seed (sha256 : List Byte → Digest) {inputs : Set (List Byte)}
    (inj : Set.InjOn sha256 inputs) :
    (∀ parts ns, (reads sha256 (new sha256 parts) ns).1 =
      (range ns.sum).map (stream sha256 (new sha256 parts).seed)) ∧
    ∀ parts parts', seedInput parts ∈ inputs → seedInput parts' ∈ inputs →
      (new sha256 parts).seed = (new sha256 parts').seed → parts = parts' := by
  refine ⟨fun parts ns => ?_, fun parts parts' mem mem' same => ?_⟩
  · rw [reads_ahead]
    refine map_congr_left fun i _ => ?_
    simp [ahead, stream, new, block]
  · exact seedInput_injective (inj mem mem' same)

/-- Three reads of a stream; a part counts even if it is empty. -/
theorem empty_part_counts :
    let sha256 (input : List Byte) : Digest := .replicate 32 (.ofNat 8 input.length)
    (reads sha256 (new sha256 []) [1, 0, 2]).1 = (range 3).map
      (stream sha256 (new sha256 []).seed) ∧
      (new sha256 []).seed ≠ (new sha256 [⟨[], by decide⟩]).seed := by
  intro sha256
  have inj : Set.InjOn sha256 {[], be64 0} := by
    rintro a (rfl | rfl) b (rfl | rfl) same
    · rfl
    · cases same
    · cases same
    · rfl
  obtain ⟨output, seeds⟩ := reads_of_seed sha256 inj
  refine ⟨output [] [1, 0, 2], fun same => ?_⟩
  cases seeds [] [⟨[], by decide⟩] (.inl rfl) (.inr rfl) same

end Trustctl.Crypto
