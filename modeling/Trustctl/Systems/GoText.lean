import Mathlib.Data.List.Basic

/-!
# Byte strings that need not be text

A string of the code is a sequence of bytes; read rune by rune, it is a sequence of runes and of
bytes that begin none.  A slice at a byte bound can cut a rune, and encoding such a string as JSON
replaces each byte that is left of it.

* `Piece`: a rune or a stray byte, `GoString`: a string of the code;
* `reread`: the text after a string was encoded as JSON and decoded again;
* `ofText_reread`: encoding keeps a string without stray bytes, and every text is one
  (`whole_ofText`).
-/

namespace Trustctl.Systems

/-- What one step of a walk over the runes of a string meets. -/
inductive Piece
  | rune (c : Char)
  | stray (b : UInt8)
deriving DecidableEq

abbrev GoString := List Piece

namespace Piece

def bytes : Piece → List UInt8
  | rune c => String.utf8EncodeChar c
  | stray b => [b]

/-- The rune that `encoding/json` writes for the piece. -/
def shown : Piece → Char
  | rune c => c
  | stray _ => '�'

def isRune : Piece → Bool
  | rune _ => true
  | stray _ => false

end Piece

namespace GoString

/-- A text, as a string of the code. -/
def ofText (s : String) : GoString := s.toList.map .rune

/-- The string has no stray byte. -/
def whole (s : GoString) : Bool := s.all Piece.isRune

/-- `len(s)`. -/
def size : GoString → Nat
  | [] => 0
  | p :: rest => p.bytes.length + size rest

/-- The slice `s[:max]`, which leaves the first bytes of a rune that it cuts. -/
def upTo (max : Nat) : GoString → GoString
  | [] => []
  | p :: rest =>
    if p.bytes.length ≤ max then p :: upTo (max - p.bytes.length) rest
    else (p.bytes.take max).map .stray

/-- What `json.Unmarshal` reads from what `json.Marshal` wrote. -/
def reread (s : GoString) : String := String.ofList (s.map Piece.shown)

theorem whole_ofText (s : String) : (ofText s).whole := by
  simp [whole, ofText, Piece.isRune]

theorem ofText_reread {s : GoString} (whole : s.whole) : ofText (reread s) = s := by
  have same : s.map (Piece.rune ∘ Piece.shown) = s.map id := by
    refine List.map_congr_left fun p mem => ?_
    cases p with
    | rune c => rfl
    | stray b => cases List.all_eq_true.mp whole _ mem
  rw [ofText, reread, String.toList_ofList, List.map_map, same, List.map_id]

end GoString

end Trustctl.Systems
