import Mathlib.Data.List.Forall2

/-!
# White space and case

The classes of runes that Go's `unicode` and `strings` packages read from the Unicode 15 tables:
white space, the simple lower-case mapping, and the simple case folding.

* `toLower_toLower`: a lower-case rune is its own;
* `isSpace_toLower`: the mapping leaves white space, and makes none;
* `toLower_eq_iff`: it makes no punctuation either.
-/

namespace Trustctl.Systems.Unicode

open List

/-! ## White space -/

/-- The ranges of `White_Space`. -/
def spaces : List (Nat × Nat) := [
  (9, 13), (32, 32), (133, 133), (160, 160), (5760, 5760), (8192, 8202), (8232, 8233),
  (8239, 8239), (8287, 8287), (12288, 12288)]

/-- `unicode.IsSpace`. -/
def isSpace (c : Char) : Bool := spaces.any fun s => s.1 ≤ c.toNat && c.toNat ≤ s.2

/-! ## Lower case -/

/-- Every `stride`-th code point from `first` to `last`, and the lower-case letter of the first. -/
structure CaseRun where
  first : Nat
  last : Nat
  stride : Nat
  lower : Nat

namespace CaseRun

variable (r r' : CaseRun) (n : Nat)

def covers : Bool := r.first.ble n && n.ble r.last && ((n - r.first) % r.stride).beq 0

def image : Nat := r.lower + (n - r.first)

end CaseRun

/-- Letters above ASCII, each with its lower-case letter. -/
def lowerSingles : List (Nat × Nat) := [
  (304, 105), (376, 255), (385, 595), (390, 596), (391, 392), (395, 396), (398, 477), (399, 601),
  (400, 603), (401, 402), (403, 608), (404, 611), (406, 617), (407, 616), (408, 409), (412, 623),
  (413, 626), (415, 629), (422, 640), (423, 424), (425, 643), (428, 429), (430, 648), (431, 432),
  (439, 658), (440, 441), (444, 445), (452, 454), (453, 454), (455, 457), (456, 457), (458, 460),
  (497, 499), (502, 405), (503, 447), (544, 414), (570, 11365), (571, 572), (573, 410),
  (574, 11366), (577, 578), (579, 384), (580, 649), (581, 652), (886, 887), (895, 1011), (902, 940),
  (908, 972), (975, 983), (1012, 952), (1015, 1016), (1017, 1010), (1018, 1019), (1216, 1231),
  (4295, 11559), (4301, 11565), (7838, 223), (8025, 8017), (8027, 8019), (8029, 8021), (8031, 8023),
  (8124, 8115), (8140, 8131), (8172, 8165), (8188, 8179), (8486, 969), (8490, 107), (8491, 229),
  (8498, 8526), (8579, 8580), (11360, 11361), (11362, 619), (11363, 7549), (11364, 637),
  (11373, 593), (11374, 625), (11375, 592), (11376, 594), (11378, 11379), (11381, 11382),
  (11506, 11507), (42877, 7545), (42891, 42892), (42893, 613), (42922, 614), (42923, 604),
  (42924, 609), (42925, 620), (42926, 618), (42928, 670), (42929, 647), (42930, 669),
  (42931, 43859), (42948, 42900), (42949, 642), (42950, 7566), (42960, 42961), (42997, 42998)]

/-- Blocks of such letters, from one to another, and the lower-case letter of the first. -/
def lowerBlocks : List (Nat × Nat × Nat) := [
  (192, 214, 224), (216, 222, 248), (393, 394, 598), (433, 434, 650), (904, 906, 941),
  (910, 911, 973), (913, 929, 945), (931, 939, 963), (1021, 1023, 891), (1024, 1039, 1104),
  (1040, 1071, 1072), (1329, 1366, 1377), (4256, 4293, 11520), (5024, 5103, 43888),
  (5104, 5109, 5112), (7312, 7354, 4304), (7357, 7359, 4349), (7944, 7951, 7936),
  (7960, 7965, 7952), (7976, 7983, 7968), (7992, 7999, 7984), (8008, 8013, 8000),
  (8040, 8047, 8032), (8072, 8079, 8064), (8088, 8095, 8080), (8104, 8111, 8096),
  (8120, 8121, 8112), (8122, 8123, 8048), (8136, 8139, 8050), (8152, 8153, 8144),
  (8154, 8155, 8054), (8168, 8169, 8160), (8170, 8171, 8058), (8184, 8185, 8056),
  (8186, 8187, 8060), (8544, 8559, 8560), (9398, 9423, 9424), (11264, 11311, 11312),
  (11390, 11391, 575), (65313, 65338, 65345), (66560, 66599, 66600), (66736, 66771, 66776),
  (66928, 66938, 66967), (66940, 66954, 66979), (66956, 66962, 66995), (66964, 66965, 67003),
  (68736, 68786, 68800), (71840, 71871, 71872), (93760, 93791, 93792), (125184, 125217, 125218)]

/-- Ranges of such letters in which the letter after each is its lower case. -/
def lowerPairs : List (Nat × Nat) := [
  (256, 302), (306, 310), (313, 327), (330, 374), (377, 381), (386, 388), (416, 420), (435, 437),
  (459, 475), (478, 494), (498, 500), (504, 542), (546, 562), (582, 590), (880, 882), (984, 1006),
  (1120, 1152), (1162, 1214), (1217, 1229), (1232, 1326), (7680, 7828), (7840, 7934),
  (11367, 11371), (11392, 11490), (11499, 11501), (42560, 42604), (42624, 42650), (42786, 42798),
  (42802, 42862), (42873, 42875), (42878, 42886), (42896, 42898), (42902, 42920), (42932, 42946),
  (42951, 42953), (42966, 42968)]

/-- The letters above ASCII that have a lower-case letter. -/
def lowerRuns : List CaseRun :=
  lowerSingles.map (fun p => ⟨p.1, p.1, 2, p.2⟩) ++
    (lowerBlocks.map (fun b => ⟨b.1, b.2.1, 1, b.2.2⟩) ++
      lowerPairs.map fun p => ⟨p.1, p.2, 2, p.1 + 1⟩)

/-- `unicode.ToLower`; `Char.toLower` knows the ASCII letters only. -/
def toLower (c : Char) : Char :=
  if c.toNat < 128 then c.toLower
  else
    match lowerRuns.find? fun r => r.covers c.toNat with
    | some r => .ofNat (r.image c.toNat)
    | none => c

/-! ## Folding -/

/-- The letters whose fold is not their lower case, with a letter of the same fold. -/
def otherFolds : List (Nat × Nat) := [
  (181, 956), (383, 115), (837, 953), (962, 963), (976, 946), (977, 952), (981, 966), (982, 960),
  (1008, 954), (1009, 961), (1013, 949), (7296, 1074), (7297, 1076), (7298, 1086), (7299, 1089),
  (7300, 1090), (7301, 1090), (7302, 1098), (7303, 1123), (7304, 42571), (7835, 7777),
  (8126, 953)]

/-- One rune for each orbit of `unicode.SimpleFold`; the dotted capital I is an orbit of its own. -/
def fold (c : Char) : Char :=
  if c.toNat = 304 then c
  else toLower (((otherFolds.lookup c.toNat).map Char.ofNat).getD c)

/-- `strings.EqualFold`. -/
def equalFold : List Char → List Char → Bool
  | [], [] => true
  | c :: s, d :: t => fold c = fold d && equalFold s t
  | _, _ => false

/-- The runes are one letter, in whatever case. -/
def SameLetter (c d : Char) : Prop := fold c = fold d

theorem equalFold_iff {s t : List Char} : equalFold s t ↔ Forall₂ SameLetter s t := by
  induction s generalizing t with
  | nil => cases t <;> simp [equalFold]
  | cons c s ih => cases t <;> simp [equalFold, SameLetter, ih]

/-! ## What the mapping keeps -/

/-- No code point of the second run is the lower-case letter of one of the first. -/
def CaseRun.apart (r r' : CaseRun) : Bool :=
  (r.image r.last).blt r'.first || r'.last.blt r.lower ||
    (r.stride.beq 2 && r'.stride.beq 2 && ((r.lower + r'.first) % 2).beq 1)

/-- The run leads from code points that are no white space to letters that are none. -/
def CaseRun.sound (r : CaseRun) : Bool :=
  Nat.ble 105 r.lower && ((r.image r.last).blt 0xd800 ||
      (Nat.blt 0xdfff r.lower && (r.image r.last).blt 0x110000)) &&
    spaces.all fun s => (s.2.blt r.lower || (r.image r.last).blt s.1) &&
      (s.2.blt r.first || r.last.blt s.1)

theorem runs_apart : lowerRuns.all (fun r => lowerRuns.all r.apart) = true := by decide +kernel

theorem runs_sound : lowerRuns.all CaseRun.sound = true := by decide +kernel

theorem toNat_ofNat {n : Nat} (valid : n.isValidChar) : (Char.ofNat n).toNat = n := by
  unfold Char.ofNat
  rw [dif_pos valid]
  rfl

section Runs

variable {r r' : CaseRun} {n : Nat}

theorem CaseRun.covers_iff : r.covers n ↔
    (r.first ≤ n ∧ n ≤ r.last) ∧ (n - r.first) % r.stride = 0 := by
  simp [covers]

theorem CaseRun.not_covers_of_apart (apart : r.apart r') (covers : r.covers n) :
    r'.covers (r.image n) = false := by
  rw [Bool.eq_false_iff]
  intro covers'
  rw [CaseRun.covers_iff] at covers covers'
  simp only [CaseRun.apart, CaseRun.image, Bool.or_eq_true, Nat.blt_eq, Bool.and_eq_true,
    Nat.beq_eq] at apart covers'
  rcases apart with (below | above) | ⟨⟨two, two'⟩, odd⟩
  · omega
  · omega
  · rw [two] at covers
    rw [two'] at covers'
    omega

theorem CaseRun.image_of_sound (sound : r.sound) (covers : r.covers n) :
    105 ≤ r.image n ∧ (r.image n).isValidChar := by
  rw [CaseRun.covers_iff] at covers
  simp only [CaseRun.sound, CaseRun.image, Bool.and_eq_true, Bool.or_eq_true, Nat.ble_eq,
    Nat.blt_eq] at sound
  obtain ⟨⟨letter, valid⟩, -⟩ := sound
  unfold CaseRun.image Nat.isValidChar
  omega

theorem CaseRun.not_space_of_sound (sound : r.sound) (covers : r.covers n) {c : Char}
    (here : c.toNat = n ∨ c.toNat = r.image n) : isSpace c = false := by
  rw [CaseRun.covers_iff] at covers
  simp only [CaseRun.sound, Bool.and_eq_true, all_eq_true, Bool.or_eq_true, Nat.blt_eq] at sound
  refine any_eq_false.mpr fun s mem => ?_
  obtain ⟨image, source⟩ := sound.2 s mem
  unfold CaseRun.image at image here
  simp only [Bool.and_eq_true, decide_eq_true_eq]
  omega

end Runs

/-- How a rune gets its lower case. -/
inductive Lowered (c : Char) : Prop
  | ascii (small : c.toNat < 128) (lower : toLower c = c.toLower)
  | same (lower : toLower c = c)
  | mapped {r : CaseRun} (listed : r ∈ lowerRuns) (large : 128 ≤ c.toNat)
      (covers : r.covers c.toNat) (lower : (toLower c).toNat = r.image c.toNat)

variable (c : Char)

theorem lowered : Lowered c := by
  by_cases small : c.toNat < 128
  · exact .ascii small (if_pos small)
  · cases found : lowerRuns.find? fun r => r.covers c.toNat with
    | none => exact .same (by rw [toLower, if_neg small, found])
    | some r =>
      have listed := mem_of_find?_eq_some found
      have covers : r.covers c.toNat := by simpa using find?_some found
      have sound := all_eq_true.mp runs_sound r listed
      refine .mapped listed (Nat.le_of_not_lt small) covers ?_
      rw [toLower, if_neg small, found]
      exact toNat_ofNat (CaseRun.image_of_sound sound covers).2

theorem ascii_toLower : c.toLower = c ∨
    (65 ≤ c.toNat ∧ c.toNat ≤ 90 ∧ c.toLower.toNat = c.toNat + 32) := by
  unfold Char.toLower
  split
  next upper =>
    obtain ⟨first, last⟩ := upper
    rw [ge_iff_le, UInt32.le_iff_toNat_le] at first
    rw [UInt32.le_iff_toNat_le] at last
    have first : 65 ≤ c.toNat := first
    have last : c.toNat ≤ 90 := last
    refine .inr ⟨first, last, ?_⟩
    show (c.val + ('a'.val - 'A'.val)).toNat = c.toNat + 32
    rw [UInt32.toNat_add]
    exact Nat.mod_eq_of_lt (by simp only [Char.toNat_val]; show c.toNat + 32 < _; omega)
  next => exact .inl rfl

theorem toLower_toLower : toLower (toLower c) = toLower c := by
  cases lowered c with
  | ascii small lower =>
    rw [lower]
    rcases ascii_toLower c with same | ⟨first, last, letter⟩
    · rw [same, lower, same]
    · rw [toLower, if_pos (by omega)]
      rcases ascii_toLower c.toLower with same | ⟨_, _, _⟩
      · exact same
      · omega
  | same lower => rw [lower, lower]
  | @mapped r listed large covers lower =>
    have sound := all_eq_true.mp runs_sound r listed
    have letter := (CaseRun.image_of_sound sound covers).1
    cases lowered (toLower c) with
    | ascii small again =>
      rw [again]
      rcases ascii_toLower (toLower c) with same | ⟨_, _, _⟩
      · exact same
      · omega
    | same again => exact again
    | @mapped r' listed' large' covers' again =>
      -- no run goes on from a letter of another
      have apart := all_eq_true.mp (all_eq_true.mp runs_apart r listed) r' listed'
      rw [lower, CaseRun.not_covers_of_apart apart covers] at covers'
      cases covers'

theorem isSpace_toLower : isSpace (toLower c) = isSpace c := by
  cases lowered c with
  | ascii small lower =>
    rw [lower]
    rcases ascii_toLower c with same | ⟨first, last, letter⟩
    · rw [same]
    · have outside : ∀ d : Char, 65 ≤ d.toNat → d.toNat < 128 → isSpace d = false := by
        intro d first last
        simp [isSpace, spaces]
        omega
      rw [outside _ first small, outside _ (by omega) (by omega)]
  | same lower => rw [lower]
  | @mapped r listed large covers lower =>
    have sound := all_eq_true.mp runs_sound r listed
    rw [CaseRun.not_space_of_sound sound covers (.inr lower),
      CaseRun.not_space_of_sound sound covers (.inl rfl)]

theorem toLower_eq_iff {d : Char} (small : d.toNat < 65) : toLower c = d ↔ c = d := by
  cases lowered c with
  | ascii _ lower =>
    rw [lower]
    rcases ascii_toLower c with same | ⟨first, last, letter⟩
    · rw [same]
    · rw [← Char.toNat_inj, ← Char.toNat_inj]
      omega
  | same lower => rw [lower]
  | @mapped r listed large covers lower =>
    have letter := (CaseRun.image_of_sound (all_eq_true.mp runs_sound r listed) covers).1
    rw [← Char.toNat_inj, ← Char.toNat_inj]
    omega

theorem utf8Size_of_ascii {c : Char} (small : c.toNat < 128) : c.utf8Size = 1 := by
  have le : c.val ≤ 127 := UInt32.le_iff_toNat_le.mpr (show c.toNat ≤ 127 by omega)
  exact if_pos le

/-- Lowering an ASCII letter leaves the number of its bytes; that of the Kelvin sign does not. -/
theorem utf8Size_toLower {c : Char} (small : c.toNat < 128) :
    (toLower c).utf8Size = c.utf8Size := by
  rw [toLower, if_pos small, utf8Size_of_ascii small]
  refine utf8Size_of_ascii ?_
  rcases ascii_toLower c with same | ⟨first, last, letter⟩
  · rw [same]
    exact small
  · omega

end Trustctl.Systems.Unicode
