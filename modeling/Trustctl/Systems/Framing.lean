import Mathlib.Algebra.Order.Ring.Int
import Mathlib.Data.List.Basic

/-!
# Length-prefixed byte fields

A field is framed by its length in four big-endian bytes, so that fields of different sizes
written one after the other can be told apart.  The length wraps at `2 ^ 32`;
`framed_append_inj` says that inside a message shorter than that a framed field determines
both its content and where the rest of the message starts.  A field may also end at the first
letter that is not of its kind; `append_stop_inj` says the same of it.
-/

namespace Trustctl.Systems

open List

abbrev Byte := BitVec 8

def utf8 (s : String) : List Byte := s.toUTF8.data.toList.map UInt8.toBitVec

theorem utf8_inj {s t : String} (same : utf8 s = utf8 t) : s = t := by
  have bytes : s.toUTF8.data.toList = t.toUTF8.data.toList := by
    refine map_injective_iff.mpr ?_ same
    intro a b equal
    exact UInt8.toBitVec_inj.mp equal
  exact String.toByteArray_inj.mp (ByteArray.ext (Array.toList_inj.mp bytes))

/-- A word, its most significant byte first. -/
def be32 (n : BitVec 32) : List Byte :=
  [n.extractLsb' 24 8, n.extractLsb' 16 8, n.extractLsb' 8 8, n.extractLsb' 0 8]

@[simp] theorem length_be32 (n : BitVec 32) : (be32 n).length = 4 := rfl

theorem be32_inj {a b : BitVec 32} (same : be32 a = be32 b) : a = b := by
  simp only [be32, cons.injEq, ← BitVec.toNat_inj, BitVec.extractLsb'_toNat,
    Nat.shiftRight_eq_div_pow] at same ⊢
  omega

theorem be32_append_inj {a b : BitVec 32} {xs ys : List Byte}
    (same : be32 a ++ xs = be32 b ++ ys) : a = b ∧ xs = ys := by
  obtain ⟨heads, tails⟩ := append_inj same rfl
  exact ⟨be32_inj heads, tails⟩

/-- A field behind its length. -/
def framed (bs : List Byte) : List Byte := be32 (BitVec.ofNat 32 bs.length) ++ bs

@[simp] theorem length_framed (bs : List Byte) : (framed bs).length = bs.length + 4 := by
  rw [framed, length_append, length_be32, Nat.add_comm]

/-- Two messages that start with a framed field and are equal agree on the field and on the
rest, if they are short enough for the length not to wrap. -/
theorem framed_append_inj {a b xs ys : List Byte} (same : framed a ++ xs = framed b ++ ys)
    (short : (framed b ++ ys).length < 2 ^ 32) : a = b ∧ xs = ys := by
  have short' : (framed a ++ xs).length < 2 ^ 32 := same ▸ short
  rw [length_append, length_framed] at short short'
  rw [framed, framed, append_assoc, append_assoc] at same
  obtain ⟨lens, contents⟩ := be32_append_inj same
  have length : a.length = b.length := by
    have equal := congrArg BitVec.toNat lens
    rw [BitVec.toNat_ofNat, BitVec.toNat_ofNat] at equal
    omega
  exact append_inj contents length

/-- A run of letters ends at the first that is not one of its kind. -/
theorem append_stop_inj {α : Type} {kind : α → Bool} {ds es x y : List α} {c d : α}
    (hds : ∀ a ∈ ds, kind a) (hes : ∀ a ∈ es, kind a) (hc : kind c = false)
    (hd : kind d = false) (same : ds ++ c :: x = es ++ d :: y) : ds = es ∧ c = d ∧ x = y := by
  have taken := congrArg (takeWhile kind) same
  rw [takeWhile_append_of_pos hds, takeWhile_append_of_pos hes,
    takeWhile_cons_of_neg (by simp [hc]), takeWhile_cons_of_neg (by simp [hd]),
    append_nil, append_nil] at taken
  subst taken
  exact ⟨rfl, cons.inj (append_cancel_left same)⟩

end Trustctl.Systems
