import Trustctl.Issuing.Names

/-!
# Domains and what lies under them

The name constraints of a CA certificate and the suffixes of a leaf profile are compared by
`dnsSuffixWithin`, and a name is matched against them by `dnsSuffixPermitted`; the two normalise
their arguments differently.  A constraint comes out of a parsed certificate, so it is well formed,
which is what makes the two agree on it.

* `domainPermits_of_within`: a name that a suffix permits is permitted by every constraint that
  the suffix is within;
* `permitted_of_intersection`: a name that the intersection permits is permitted by the constraints.
-/

namespace Trustctl.Issuing

open List Store Systems
open Systems.Unicode (isSpace isSpace_toLower toLower_eq_iff utf8Size_toLower)

/-! ## Constraints -/

/-- The constraints on DNS names that a certificate parses with: `domainToReverseLabels` reads
them, after a leading period. -/
def wellFormedDomain (domain : String) : Bool :=
  let name := (trimPrefix "." domain).toList
  name.isEmpty || (name.splitOn '.').all (fun label => !label.isEmpty) &&
    name.all fun c => 33 ≤ c.toNat && c.toNat ≤ 126

/-- The constraint permits the name; one without labels permits every name. -/
def domainPermits (domain name : String) : Bool :=
  trimPrefix "." domain = "" || dnsSuffixPermitted name [domain]

def dnsSuffixWithin (name suffix : String) : Bool :=
  let name := trimPrefix "." (toLower name)
  let suffix := trimPrefix "." (toLower suffix)
  name = suffix || hasSuffix ("." ++ suffix) name

/-- The bytes of the runes. -/
def bytes (name : List Char) : Nat := (name.map Char.utf8Size).sum

/-- `len(s)`. -/
def byteLen (s : String) : Nat := bytes s.toList

def intersectDnsSuffixes (a b : List String) : List String :=
  a.flatMap fun x => b.filterMap fun y =>
    if dnsSuffixWithin x y || dnsSuffixWithin y x then
      some (if byteLen y ≤ byteLen x then x else y)
    else none

/-! ## Names as lists -/

/-- The name is the domain or ends in a period and the domain. -/
def Under (domain name : List Char) : Prop := name = domain ∨ '.' :: domain <:+ name

theorem Under.trans {a b c : List Char} (first : Under a b) (second : Under b c) : Under a c := by
  rcases second with rfl | more
  · exact first
  · refine .inr ?_
    rcases first with rfl | le
    · exact more
    · exact le.trans ((suffix_cons '.' b).trans more)

theorem Under.length {a b : List Char} (under : Under a b) : a.length ≤ b.length := by
  rcases under with rfl | more
  · exact .refl
  · exact Nat.le_of_succ_le more.length_le

def dropDot : List Char → List Char
  | '.' :: rest => rest
  | name => name

def dropSpaces (name : List Char) : List Char :=
  ((name.dropWhile isSpace).reverse.dropWhile isSpace).reverse

def dropFinalDot (name : List Char) : List Char := if ['.'] <:+ name then name.dropLast else name

theorem trimPrefix_dot (s : String) : (trimPrefix "." s).toList = dropDot s.toList := by
  unfold trimPrefix Store.hasPrefix dropDot
  split
  next starts =>
    obtain ⟨rest, same⟩ := isPrefixOf_iff_prefix.mp starts
    rw [← same]
    simp
  next other =>
    split
    next rest same => exact absurd (by rw [same]; simp) other
    next => rfl

theorem toLower_eq_dot {c : Char} : Unicode.toLower c = '.' ↔ c = '.' :=
  toLower_eq_iff c (by decide)

theorem dropDot_map (name : List Char) :
    dropDot (name.map Unicode.toLower) = (dropDot name).map Unicode.toLower := by
  cases name with
  | nil => rfl
  | cons c rest =>
    by_cases dot : c = '.'
    · subst dot
      rfl
    · have other : Unicode.toLower c ≠ '.' := mt toLower_eq_dot.mp dot
      rw [map_cons]
      unfold dropDot
      split
      next same => exact absurd (head_eq_of_cons_eq same) other
      next =>
        split
        next same => exact absurd (head_eq_of_cons_eq same) dot
        next => rfl

theorem dropSpaces_map (name : List Char) :
    dropSpaces (name.map Unicode.toLower) = (dropSpaces name).map Unicode.toLower := by
  have spaces : isSpace ∘ Unicode.toLower = isSpace := funext isSpace_toLower
  simp only [dropSpaces, dropWhile_map, ← map_reverse, spaces]

/-- A suffix as `dnsSuffixWithin` compares it. -/
def lowered (domain : String) : List Char := dropDot (domain.toList.map Unicode.toLower)

/-- A suffix as `dnsSuffixPermitted` compares it. -/
def normal (domain : String) : List Char := dropFinalDot (dropSpaces (lowered domain))

theorem dnsSuffixWithin_iff {x y : String} :
    dnsSuffixWithin x y ↔ Under (lowered y) (lowered x) := by
  have list (d : String) : (trimPrefix "." (toLower d)).toList = lowered d := by
    rw [trimPrefix_dot, toLower, String.toList_ofList, lowered]
  unfold dnsSuffixWithin Under hasSuffix
  simp only [Bool.or_eq_true, decide_eq_true_eq, isSuffixOf_iff_suffix, String.toList_append,
    ← String.toList_inj, list]
  rfl

theorem trimSuffix_dot (s : String) : (trimSuffix "." s).toList = dropFinalDot s.toList := by
  have ends : hasSuffix "." s ↔ ['.'] <:+ s.toList := isSuffixOf_iff_suffix
  unfold trimSuffix dropFinalDot
  by_cases final : ['.'] <:+ s.toList
  · rw [if_pos (ends.mpr final), if_pos final, String.toList_ofList, dropLast_eq_take]
    rfl
  · rw [if_neg (mt ends.mp final), if_neg final]

theorem canonicalName_suffix (domain : String) :
    (canonicalName (trimPrefix "." domain)).toList = normal domain := by
  unfold canonicalName normal
  rw [trimSuffix_dot, toLower, trimSpace, String.toList_ofList, String.toList_ofList,
    trimPrefix_dot,
    lowered, dropDot_map, dropSpaces_map]
  rfl

variable {domain name : String}

theorem dnsSuffixPermitted_singleton : dnsSuffixPermitted name [domain] ↔
      normal domain ≠ [] ∧ Under (normal domain) (canonicalName name).toList := by
  unfold dnsSuffixPermitted suffixAllowed Under hasSuffix
  simp only [any_cons, any_nil, Bool.or_false, Bool.and_eq_true, Bool.or_eq_true,
    decide_eq_true_eq, isSuffixOf_iff_suffix, String.toList_append, ne_eq,
    ← String.toList_inj, canonicalName_suffix]
  rfl

variable {suffixes : List String}

theorem exists_dnsSuffixPermitted (legal : dnsSuffixPermitted name suffixes) :
    ∃ suffix ∈ suffixes, dnsSuffixPermitted name [suffix] := by
  obtain ⟨suffix, there, hit⟩ := any_eq_true.mp legal
  refine ⟨suffix, there, ?_⟩
  rw [dnsSuffixPermitted, suffixAllowed, any_cons, any_nil, Bool.or_false]
  exact hit

/-! ## Well-formed constraints -/

/-- No space in the name, and no period at its end. -/
structure Clean (name : List Char) : Prop where
  spaceless : ∀ c ∈ name, isSpace c = false
  final : ¬ ['.'] <:+ name

theorem isSpace_of_printable {c : Char} (low : 33 ≤ c.toNat) (high : c.toNat ≤ 126) :
    isSpace c = false := by
  simp [isSpace, Unicode.spaces]
  omega

theorem clean_lowered (wf : wellFormedDomain domain) : Clean (lowered domain) := by
  unfold wellFormedDomain at wf
  rw [trimPrefix_dot, Bool.or_eq_true] at wf
  rw [lowered, dropDot_map]
  rcases wf with empty | wf
  · rw [isEmpty_iff.mp empty]
    exact ⟨nofun, by simp⟩
  · obtain ⟨labels, printable⟩ := Bool.and_eq_true_iff.mp wf
    constructor
    · intro c there
      obtain ⟨d, original, rfl⟩ := mem_map.mp there
      rw [isSpace_toLower]
      have range := all_eq_true.mp printable d original
      simp only [Bool.and_eq_true, decide_eq_true_eq] at range
      exact isSpace_of_printable range.1 range.2
    · rintro ⟨front, same⟩
      obtain ⟨old, last, split, rfl, lowers⟩ := map_eq_append_iff.mp same.symm
      obtain ⟨c, rfl, dot⟩ := map_eq_singleton_iff.mp lowers
      obtain rfl := toLower_eq_dot.mp dot
      -- The last label would be empty.
      rw [split, splitOn, splitOnP_append_cons _ _ (by simp)] at labels
      simp at labels

variable {u v n : List Char}

/-- Space is trimmed at the front only, where the end has none. -/
theorem dropSpaces_append (spaceless : ∀ c ∈ v, isSpace c = false) (nonempty : v ≠ []) :
    dropSpaces (u ++ v) = u.dropWhile isSpace ++ v := by
  have front : (u ++ v).dropWhile isSpace = u.dropWhile isSpace ++ v := by
    obtain ⟨c, rest, rfl⟩ := exists_cons_of_ne_nil nonempty
    rw [dropWhile_append, dropWhile_cons_of_neg (by simp [spaceless])]
    split
    next all => rw [isEmpty_iff.mp all, nil_append]
    next => rfl
  have back (w : List Char) : ((w ++ v).reverse.dropWhile isSpace).reverse = w ++ v := by
    obtain ⟨rest, c, rfl⟩ := eq_nil_or_concat v |>.resolve_left nonempty
    have last : isSpace c = false := spaceless c (by simp)
    simp [last]
  rw [dropSpaces, front, back]

/-- Trimming leaves a name under a clean domain under it. -/
theorem under_trimmed (clean : Clean v) (nonempty : v ≠ []) (under : Under v u) :
    Under v (dropFinalDot (dropSpaces u)) := by
  rcases under with rfl | ⟨front, rfl⟩
  · have same : dropSpaces u = u := dropSpaces_append (u := []) clean.spaceless nonempty
    rw [same, dropFinalDot, if_neg clean.final]
    exact .inl rfl
  · have spaceless : ∀ c ∈ '.' :: v, isSpace c = false :=
      forall_mem_cons.mpr ⟨rfl, clean.spaceless⟩
    have ends : v <:+ front.dropWhile isSpace ++ '.' :: v :=
      (suffix_cons '.' v).trans (suffix_append _ _)
    rw [dropSpaces_append spaceless (cons_ne_nil _ _), dropFinalDot, if_neg]
    · exact .inr (suffix_append _ _)
    · exact fun final => clean.final
        (suffix_of_suffix_length_le final ends (length_pos_of_ne_nil nonempty))

theorem normal_of_clean (clean : Clean (lowered domain)) : normal domain = lowered domain := by
  by_cases empty : lowered domain = []
  · rw [normal, empty]
    rfl
  · have same : dropSpaces (lowered domain) = lowered domain :=
      dropSpaces_append (u := []) clean.spaceless empty
    rw [normal, same, dropFinalDot, if_neg clean.final]

theorem lowered_eq_nil : lowered domain = [] ↔ trimPrefix "." domain = "" := by
  rw [lowered, dropDot_map, map_eq_nil_iff, ← trimPrefix_dot, String.toList_eq_nil_iff]

theorem domainPermits_of_within {suffix : String} (wf : wellFormedDomain domain)
    (le : dnsSuffixWithin suffix domain) (legal : domainPermits suffix name) :
    domainPermits domain name := by
  have clean := clean_lowered wf
  rw [dnsSuffixWithin_iff] at le
  unfold domainPermits at legal ⊢
  simp only [Bool.or_eq_true, decide_eq_true_eq, ← lowered_eq_nil,
    dnsSuffixPermitted_singleton] at legal ⊢
  by_cases empty : lowered domain = []
  · exact .inl empty
  · rw [normal_of_clean clean]
    refine .inr ⟨empty, ?_⟩
    rcases legal with all | ⟨-, under⟩
    · have short := le.length
      rw [all] at short
      exact absurd (eq_nil_of_length_eq_zero (Nat.le_zero.mp short)) empty
    · exact (under_trimmed clean empty le).trans under

/-- A period is dropped, or there is none to drop. -/
theorem dropDot_cases (name : List Char) :
    name = '.' :: dropDot name ∨ (dropDot name = name ∧ ∀ rest, name ≠ '.' :: rest) := by
  unfold dropDot
  split
  next rest => exact .inl rfl
  next other => exact .inr ⟨rfl, fun rest same => other rest same⟩

/-! ## Lengths -/

theorem bytes_cons (c : Char) (name : List Char) : bytes (c :: name) = c.utf8Size + bytes name := by
  rw [bytes, map_cons, sum_cons, bytes]

theorem bytes_append (u v : List Char) : bytes (u ++ v) = bytes u + bytes v := by
  rw [bytes, map_append, sum_append, bytes, bytes]

theorem eq_nil_of_bytes {name : List Char} (none : bytes name = 0) : name = [] := by
  cases name with
  | nil => rfl
  | cons c rest =>
    have := c.utf8Size_pos
    rw [bytes_cons] at none
    omega

/-- Lowering the suffix leaves the number of its bytes. -/
def steady (suffix : String) : Bool := byteLen (toLower suffix) = byteLen suffix

theorem steady_iff {suffix : String} :
    steady suffix ↔ bytes (suffix.toList.map Unicode.toLower) = byteLen suffix := by
  rw [steady, decide_eq_true_eq, byteLen, toLower, String.toList_ofList]

theorem steady_of_wellFormed (wf : wellFormedDomain domain) : steady domain := by
  have ascii : ∀ c ∈ domain.toList, c.toNat < 128 := by
    unfold wellFormedDomain at wf
    rw [trimPrefix_dot] at wf
    have rest : ∀ c ∈ dropDot domain.toList, c.toNat < 128 := by
      intro c mem
      rcases Bool.or_eq_true_iff.mp wf with empty | wf
      · rw [isEmpty_iff.mp empty] at mem
        cases mem
      · have range := all_eq_true.mp (Bool.and_eq_true_iff.mp wf).2 c mem
        simp only [Bool.and_eq_true, decide_eq_true_eq] at range
        omega
    rcases dropDot_cases domain.toList with cut | ⟨whole, -⟩
    · rw [cut]
      exact forall_mem_cons.mpr ⟨by decide, rest⟩
    · rw [← whole]
      exact rest
  rw [steady_iff, byteLen, bytes, bytes, map_map]
  congr 1
  exact map_congr_left fun c mem => utf8Size_toLower (ascii c mem)

/-- The longer of two suffixes, one within the other, is within the other. -/
theorem within_of_byteLen {x y : String} (steadyX : steady x) (steadyY : steady y)
    (le : dnsSuffixWithin y x) (more : byteLen y ≤ byteLen x) : dnsSuffixWithin x y := by
  rw [dnsSuffixWithin_iff] at le ⊢
  rcases le with same | ⟨front, deeper⟩
  · exact .inl same.symm
  · -- The shorter text cannot have a label more, unless one of them has a period to drop.
    rw [← steady_iff.mp steadyX, ← steady_iff.mp steadyY] at more
    have label : bytes (lowered y) = bytes front + (1 + bytes (lowered x)) := by
      rw [← deeper, bytes_append, bytes_cons]
      rfl
    have shortX : bytes (x.toList.map Unicode.toLower) ≤ 1 + bytes (lowered x) := by
      rcases dropDot_cases (x.toList.map Unicode.toLower) with cut | ⟨whole, -⟩
      · rw [cut, bytes_cons]
        exact .refl
      · rw [lowered, whole]
        omega
    rcases dropDot_cases (y.toList.map Unicode.toLower) with cut | ⟨whole, undotted⟩
    · rw [cut, bytes_cons] at more
      have dot : '.'.utf8Size = 1 := rfl
      change '.'.utf8Size + bytes (lowered y) ≤ _ at more
      omega
    · have lengthY : bytes (lowered y) = bytes (y.toList.map Unicode.toLower) := by
        rw [lowered, whole]
      obtain rfl : front = [] := eq_nil_of_bytes (by omega)
      exact absurd (whole.symm.trans deeper.symm) (undotted _)

theorem intersectDnsSuffixes_ne_nil {domains : List String}
    (rel : suffixes.any (fun x => domains.any fun y =>
      dnsSuffixWithin x y || dnsSuffixWithin y x)) :
    intersectDnsSuffixes suffixes domains ≠ [] := by
  obtain ⟨x, given, rel⟩ := any_eq_true.mp rel
  obtain ⟨y, given', rel⟩ := any_eq_true.mp rel
  exact ne_nil_of_mem (mem_flatMap.mpr ⟨x, given, mem_filterMap.mpr ⟨y, given', if_pos rel⟩⟩)

theorem permitted_of_intersection {domains : List String}
    (wf : ∀ domain ∈ domains, wellFormedDomain domain) (same : ∀ suffix ∈ suffixes, steady suffix)
    (legal : dnsSuffixPermitted name (intersectDnsSuffixes suffixes domains)) :
    ∃ domain ∈ domains, domainPermits domain name := by
  obtain ⟨out, there, lets⟩ := exists_dnsSuffixPermitted legal
  obtain ⟨x, asked, there⟩ := mem_flatMap.mp there
  obtain ⟨y, given, chosen⟩ := mem_filterMap.mp there
  refine ⟨y, given, ?_⟩
  obtain ⟨rel, ⟨⟩⟩ := Option.ite_none_right_eq_some.mp chosen
  split at lets
  next more =>
    have le : dnsSuffixWithin x y := by
      rcases Bool.or_eq_true_iff.mp rel with le | le
      · exact le
      · exact within_of_byteLen (same x asked) (steady_of_wellFormed (wf y given)) le more
    refine domainPermits_of_within (wf y given) le ?_
    exact Bool.or_eq_true_iff.mpr (.inr lets)
  next => exact Bool.or_eq_true_iff.mpr (.inr lets)

end Trustctl.Issuing
