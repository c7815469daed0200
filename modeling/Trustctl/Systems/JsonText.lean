import Trustctl.Systems.Framing
import Trustctl.Systems.GoText
import Mathlib.Data.List.DropRight
import Mathlib.Data.Nat.Digits.Defs

/-!
# Texts that can be told apart

What `encoding/json` writes for strings and `time.Format` for numbers, and that a reader can tell it
from what follows.

* `Splits`: words that end where they end, whatever follows them;
* `splits_quote`: quoted strings do, as long as they have no stray byte; all stray bytes are written
  alike (`quote_put`);
* `pad_injective`, `fraction_injective`: numbers and fractions are determined by their digits.
-/

namespace Trustctl.Systems

open List

/-! ## Words -/

/-- A word with `p` is the only one that can stand in front of a text that it begins. -/
def Splits {α β : Type} (p : α → Prop) (f : α → List β) : Prop :=
  ∀ ⦃a b⦄, p a → ∀ ⦃x y⦄, f a ++ x = f b ++ y → a = b ∧ x = y

section Words

variable {α β : Type} {p : α → Prop} {f : α → List β}

/-- Words one after the other, up to a stop with which no word begins. -/
theorem Splits.flatMap {stop : β} (splits : Splits p f)
    (starts : ∀ a x y, f a ++ x ≠ stop :: y) :
    Splits (fun as : List α => ∀ a ∈ as, p a) (fun as => as.flatMap f ++ [stop]) := by
  intro as
  induction as with
  | nil =>
    intro bs _ x y same
    simp only [flatMap_nil, nil_append, append_assoc] at same
    cases bs with
    | nil => exact ⟨rfl, (cons.inj same).2⟩
    | cons b bs =>
      rw [flatMap_cons, append_assoc] at same
      exact absurd same.symm (starts b _ _)
  | cons a as ih =>
    intro bs has x y same
    obtain ⟨ha, has⟩ := forall_mem_cons.mp has
    simp only [flatMap_cons, append_assoc] at same
    cases bs with
    | nil => exact absurd same (starts a _ _)
    | cons b bs =>
      rw [flatMap_cons, append_assoc] at same
      obtain ⟨first, rest⟩ := splits ha same
      obtain ⟨last, after⟩ := ih has (by simpa only [append_assoc] using rest)
      exact ⟨by rw [first, last], after⟩

end Words

/-! ## Strings -/

/-- Characters, as pieces. -/
def chars (cs : List Char) : GoString := cs.map .rune

theorem chars_injective : Function.Injective chars :=
  map_injective_iff.mpr fun _ _ same => Piece.rune.inj same

/-- The characters that are written as a backslash and a letter. -/
def shorts : List (Char × Char) :=
  [('"', '"'), ('\\', '\\'), ('\x08', 'b'), ('\x0c', 'f'), ('\n', 'n'), ('\r', 'r'), ('\t', 't')]

/-- The other characters that are written by their number. -/
def isNumbered (c : Char) : Bool :=
  c.toNat < 0x20 || ['<', '>', '&', '\u2028', '\u2029'].contains c

def hex4 (n : Nat) : List Char :=
  [n / 4096 % 16, n / 256 % 16, n / 16 % 16, n % 16].map Nat.digitChar

def escape : Piece → GoString
  | .rune c =>
    match shorts.find? fun e => e.1 = c with
    | some e => chars ['\\', e.2]
    | none => if isNumbered c then chars ('\\' :: 'u' :: hex4 c.toNat) else [.rune c]
  | .stray _ => chars ['\\', 'u', 'f', 'f', 'f', 'd']

/-- A string, as `json.Marshal` writes it. -/
def quote (s : GoString) : GoString := .rune '"' :: (s.flatMap escape ++ [.rune '"'])

def hexValue (c : Char) : Nat := if c.isDigit then c.toNat - 48 else c.toNat - 87

/-- The character at the front of an escaped string. -/
def unescape : GoString → Option (Piece × GoString)
  | .rune c :: x =>
    if c = '\\' then
      match x with
      | .rune l :: x =>
        match l, x with
        | 'u', .rune a :: .rune b :: .rune c :: .rune d :: x =>
          some (.rune (Char.ofNat
            (((hexValue a * 16 + hexValue b) * 16 + hexValue c) * 16 + hexValue d)), x)
        | _, x => (shorts.find? fun e => e.2 = l).map fun e => (.rune e.1, x)
      | _ => none
    else some (.rune c, x)
  | _ => none

theorem hexValue_digitChar {n : Nat} (digit : n < 16) : hexValue (Nat.digitChar n) = n := by
  have all : ∀ n : Fin 16, hexValue (Nat.digitChar n) = n := by decide
  exact all ⟨n, digit⟩

theorem unescape_escape {p : Piece} (rune : p.isRune) (x : GoString) :
    unescape (escape p ++ x) = some (p, x) := by
  cases p with
  | stray b => cases rune
  | rune c =>
    unfold escape
    dsimp only
    split
    next e short =>
      have listed := List.mem_of_find?_eq_some short
      have same : e.1 = c := by simpa using find?_some short
      subst same
      revert listed x
      have all : ∀ e ∈ shorts, ∀ x, unescape (chars ['\\', e.2] ++ x) = some (.rune e.1, x) := by
        simp only [shorts, forall_mem_cons]
        exact ⟨fun _ => rfl, fun _ => rfl, fun _ => rfl, fun _ => rfl, fun _ => rfl, fun _ => rfl,
          fun _ => rfl, by simp⟩
      exact fun x listed => all e listed x
    next other =>
      have letter : c ≠ '\\' := by
        rintro rfl
        cases other
      split
      next nums =>
        have small : c.toNat < 65536 := by
          rw [isNumbered, Bool.or_eq_true, decide_eq_true_eq] at nums
          rcases nums with low | listed
          · omega
          · have all : ∀ c ∈ ['<', '>', '&', '\u2028', '\u2029'], c.toNat < 65536 := by simp
            exact all c (contains_iff_mem.mp listed)
        have read : ((c.toNat / 4096 % 16 * 16 + c.toNat / 256 % 16) * 16 + c.toNat / 16 % 16) *
          16 +
            c.toNat % 16 = c.toNat := by omega
        have digit : ∀ n : Nat, hexValue (Nat.digitChar (n % 16)) = n % 16 :=
          fun n => hexValue_digitChar (Nat.mod_lt _ (by decide))
        simp only [chars, hex4, map_cons, map_nil, cons_append, nil_append,
          unescape, if_true, digit, read, Char.ofNat_toNat]
      next => simp [unescape, letter]

/-- A rune is not taken for a stray byte: the rune that stands for one is written as it is. -/
theorem splits_escape : Splits (fun p : Piece => p.isRune) escape := by
  intro p q rune x y same
  have read := unescape_escape rune x
  rw [same] at read
  cases q with
  | rune d =>
    rw [unescape_escape rfl] at read
    cases read
    exact ⟨rfl, rfl⟩
  | stray b =>
    cases read
    cases same

/-- Quoted strings without stray bytes can be told from what follows them. -/
theorem splits_quote : Splits (fun s : GoString => s.whole) quote := by
  have starts : ∀ (p : Piece) (x y : GoString), escape p ++ x ≠ .rune '"' :: y := by
    intro p x y same
    cases p with
    | stray b => cases same
    | rune c =>
      -- a reader of a quote takes a quote, and that one is escaped
      have read := unescape_escape (p := .rune c) rfl x
      rw [same] at read
      cases read
      cases same
  intro s t hs x y same
  exact splits_escape.flatMap starts (all_eq_true.mp hs) (cons.inj same).2

/-- The piece, with one of two bytes that no rune has in place of a stray byte. -/
def Piece.put (b : Bool) : Piece → Piece
  | .rune c => .rune c
  | .stray _ => .stray (if b then 0xff else 0xfe)

theorem quote_put (b : Bool) (s : GoString) : quote (s.map (.put b)) = quote s := by
  have same : ∀ p, escape (Piece.put b p) = escape p := by
    rintro (c | d) <;> rfl
  simp only [quote, flatMap_map, same]

theorem Piece.isRune_iff (p : Piece) : p.isRune ↔ ∀ b, p.put b = p := by
  cases p with
  | rune c => exact ⟨fun _ _ => rfl, fun _ => rfl⟩
  | stray d =>
    refine ⟨nofun, fun fixed => ?_⟩
    cases (fixed true).trans (fixed false).symm

/-! ## Numbers -/

/-- The decimal digits, with zeros in front up to a width. -/
def pad (width n : Nat) : List Char :=
  replicate (width - (Nat.toDigits 10 n).length) '0' ++ Nat.toDigits 10 n

theorem isDigit_of_mem_pad {width n : Nat} {c : Char} (mem : c ∈ pad width n) : c.isDigit := by
  rcases mem_append.mp mem with zero | digit
  · rw [eq_of_mem_replicate zero]
    rfl
  · exact Nat.isDigit_of_mem_toDigits (by decide) (by decide) digit

theorem pad_injective (width : Nat) : Function.Injective (pad width) := by
  have value : ∀ n, Nat.ofDigitChars 10 (pad width n) 0 = n := by
    intro n
    rw [pad, Nat.ofDigitChars_append, Nat.ofDigitChars_replicate_zero, Nat.mul_zero]
    exact Nat.ofDigitChars_toDigits (by decide) (by decide)
  intro m n same
  rw [← value m, same, value]

theorem pad_ne_nil (width n : Nat) : pad width n ≠ [] :=
  append_ne_nil_of_right_ne_nil _ Nat.toDigits_ne_nil

theorem pad_stop {width m n : Nat} {x y : List Char} {c d : Char} (hc : c.isDigit = false)
    (hd : d.isDigit = false) (same : pad width m ++ c :: x = pad width n ++ d :: y) :
    m = n ∧ c = d ∧ x = y := by
  obtain ⟨digits, rest⟩ := append_stop_inj (fun _ => isDigit_of_mem_pad)
    (fun _ => isDigit_of_mem_pad) hc hd same
  exact ⟨pad_injective _ digits, rest⟩

/-- Nine digits without the zeros at their end, behind a point; nothing for zero. -/
def fraction (n : Nat) : List Char :=
  if n = 0 then [] else '.' :: (pad 9 n).rdropWhile (· = '0')

theorem fraction_injective {m n : Nat} (hm : m < 10 ^ 9) (hn : n < 10 ^ 9)
    (same : fraction m = fraction n) : m = n := by
  -- what was dropped is zeros, as many as are missing
  have back : ∀ n < 10 ^ 9, pad 9 n = (pad 9 n).rdropWhile (· = '0') ++
      replicate (9 - ((pad 9 n).rdropWhile (· = '0')).length) '0' := by
    intro n bound
    have digits : (Nat.toDigits 10 n).length ≤ 9 :=
      (Nat.length_toDigits_le_iff (by decide) (by decide)).mpr bound
    have full : (pad 9 n).length = 9 := by
      rw [pad, length_append, length_replicate]
      omega
    have parts := rdropWhile_append_rtakeWhile (p := fun c => decide (c = '0')) (l := pad 9 n)
    have zeros : ∀ c ∈ (pad 9 n).rtakeWhile (· = '0'), c = '0' := fun c mem => by
      simpa using mem_rtakeWhile_imp mem
    have count := congrArg length parts
    rw [length_append, full] at count
    conv_lhs => rw [← parts]
    rw [eq_replicate_of_mem zeros]
    congr 2
    omega
  unfold fraction at same
  split at same <;> split at same
  next zero zero' => rw [zero, zero']
  next => cases same
  next => cases same
  next =>
    apply pad_injective 9
    rw [back m hm, back n hn, (cons.inj same).2]

end Trustctl.Systems
