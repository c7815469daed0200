import Trustctl.Systems.Run
import Mathlib.Data.List.Basic

/-!
# Append-only streams

A stream keeps messages under sequence numbers that it hands out in order and never again.
Messages may be deleted one by one or all at once; the last number stays.

* `Stream.read_eq_messages` : asking for every number in turn finds the messages in the order
  in which they were published.
-/

namespace Trustctl.Systems

open List

/-- Messages under ascending numbers, and the last number that was handed out. -/
structure Stream (M : Type) where
  messages : List (Nat × M)
  lastSeq : Nat
  ascending : (messages.map Prod.fst).Pairwise (· < ·)
  bounded : ∀ m ∈ messages, 0 < m.1 ∧ m.1 ≤ lastSeq

namespace Stream

variable {M : Type} (s : Stream M)

def empty : Stream M := ⟨[], 0, .nil, nofun⟩

/-- The message under a number. -/
def get (seq : Nat) : Option M := s.messages.lookup seq

def sequences : List Nat := range' 1 s.lastSeq

def publish (m : M) : Stream M where
  messages := s.messages ++ [(s.lastSeq + 1, m)]
  lastSeq := s.lastSeq + 1
  ascending := by
    rw [map_append]
    refine pairwise_append.mpr ⟨s.ascending, pairwise_singleton .., ?_⟩
    intro seq old new last
    obtain ⟨m', member, rfl⟩ := mem_map.mp old
    cases mem_singleton.mp last
    exact Nat.lt_succ_of_le (s.bounded m' member).2
  bounded := by
    intro m' member
    rcases mem_snoc.mp member with old | rfl
    · exact ⟨(s.bounded m' old).1, Nat.le_succ_of_le (s.bounded m' old).2⟩
    · exact ⟨Nat.succ_pos _, .refl⟩

def delete (seq : Nat) : Stream M where
  messages := s.messages.filter fun m => m.1 ≠ seq
  lastSeq := s.lastSeq
  ascending := s.ascending.sublist (filter_sublist.map _)
  bounded := fun m member => s.bounded m (mem_of_mem_filter member)

def purge : Stream M := ⟨[], s.lastSeq, .nil, nofun⟩

variable {s}

theorem lookup_eq_none {msgs : List (Nat × M)} {seq : Nat} (above : ∀ m ∈ msgs, seq < m.1) :
    msgs.lookup seq = none := by
  rw [lookup_eq_none_iff]
  intro m mem
  exact bne_iff_ne.mpr (Nat.ne_of_lt (above m mem))

/-- Messages with ascending numbers from an interval, looked up one number after the other. -/
theorem filterMap_lookup {msgs : List (Nat × M)} {low n : Nat}
    (asc : (msgs.map Prod.fst).Pairwise (· < ·))
    (lt : ∀ m ∈ msgs, low ≤ m.1 ∧ m.1 < low + n) :
    (range' low n).filterMap (fun seq => (msgs.lookup seq).map (seq, ·)) = msgs := by
  induction n generalizing low msgs with
  | zero =>
    cases msgs with
    | nil => rfl
    | cons m rest =>
      have := lt m mem_cons_self
      omega
  | succ n ih =>
    rw [range'_succ, filterMap_cons]
    cases msgs with
    | nil => exact ih asc nofun
    | cons m rest =>
      obtain ⟨above, ascending'⟩ := pairwise_cons.mp asc
      have above : ∀ m' ∈ rest, m.1 < m'.1 := fun m' mem =>
        above m'.1 (mem_map_of_mem mem)
      have first := lt m mem_cons_self
      by_cases here : m.1 = low
      · -- the first message has the first number
        have later : ∀ m' ∈ rest, low + 1 ≤ m'.1 ∧ m'.1 < low + 1 + n := by
          intro m' mem
          have := above m' mem
          have := lt m' (mem_cons_of_mem _ mem)
          omega
        have skip : ∀ seq ∈ range' (low + 1) n, ((m :: rest).lookup seq).map (seq, ·) =
            (rest.lookup seq).map (seq, ·) := by
          intro seq mem
          have := (mem_range'_1.mp mem).1
          rw [lookup_cons, beq_eq_false_iff_ne.mpr (by omega : seq ≠ m.1)]
        rw [lookup_cons, here, beq_self_eq_true]
        dsimp only [Option.map_some]
        rw [filterMap_congr skip, ih ascending' later, ← here]
      · have gone : (m :: rest).lookup low = none := by
          refine lookup_eq_none ?_
          intro m' mem
          rcases mem_cons.mp mem with rfl | later
          · omega
          · have := above m' later
            omega
        rw [gone]
        refine ih asc ?_
        intro m' mem
        have := lt m' mem
        rcases mem_cons.mp mem with rfl | later
        · omega
        · have := above m' later
          omega

/-- Asking for every number in turn finds all messages, in their order. -/
theorem read_eq_messages (s : Stream M) :
    s.sequences.filterMap (fun seq => (s.get seq).map (seq, ·)) = s.messages := by
  refine filterMap_lookup s.ascending ?_
  intro m mem
  have := s.bounded m mem
  omega

end Stream

end Trustctl.Systems
