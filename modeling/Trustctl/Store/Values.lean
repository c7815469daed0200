import Trustctl.Systems.Unicode
import Mathlib.Data.List.DropRight

/-!
# Column values

The value types of the relational store and the string and JSON functions its SQL
and the code around it use.  Identifiers are their canonical text; an instant is a
count of nanoseconds since Go's zero time, so `0` is the instant `IsZero` accepts.
Digests are parameters: nothing depends on what they compute.
-/

namespace Trustctl.Store

open List Systems
open Systems.Unicode (isSpace isSpace_toLower toLower_toLower)

/-- A `uuid` column, as its canonical text. -/
abbrev Uuid := String

/-- An instant; `0` is the zero `time.Time`. -/
abbrev Time := Nat

def Time.addSeconds (t : Time) (n : Int) : Time := t + n.toNat * 1000000000

def Time.orElse (t fallback : Time) : Time := if t = 0 then fallback else t

/-- The hash functions of the code and of the database. -/
structure Digest where
  /-- `crypto.SHA256Hex`. -/
  sha256Hex : String → String
  /-- PostgreSQL `md5`. -/
  md5 : String → String
  /-- `uuid.NewSHA1` over the URL name space. -/
  sha1Uuid : String → Uuid

/-! ## Text -/

/-- `strings.TrimSpace`. -/
def trimSpace (s : String) : String :=
  String.ofList ((s.toList.dropWhile isSpace).reverse.dropWhile isSpace).reverse

/-- `strings.ToLower`, and SQL `lower` in a Unicode locale. -/
def toLower (s : String) : String := String.ofList (s.toList.map Unicode.toLower)

/-- `strings.HasPrefix(s, p)`, and SQL `s LIKE p || '%'` for a `p` without wildcards. -/
def hasPrefix (p s : String) : Bool := p.toList.isPrefixOf s.toList

/-- SQL `left(s, n)`, and the slice `s[:n]` of an ASCII string. -/
def left (n : Nat) (s : String) : String := String.ofList (s.toList.take n)

def trimPrefix (p s : String) : String :=
  if hasPrefix p s then String.ofList (s.toList.drop p.toList.length) else s

/-- `strings.ReplaceAll(s, ":", "")`. -/
def dropColons (s : String) : String := String.ofList (s.toList.filter (· ≠ ':'))

@[simp] theorem hasPrefix_append (p s : String) : hasPrefix p (p ++ s) = true := by
  simp [hasPrefix]

/-- What is left has no white space at its ends, and only white space was around it. -/
theorem trimSpace_eq_iff {s t : String} : trimSpace s = t ↔ ∃ front back,
    s.toList = front ++ (t.toList ++ back) ∧ (∀ c ∈ front, isSpace c) ∧ (∀ c ∈ back, isSpace c) ∧
      (∀ c ∈ t.toList.head?, isSpace c = false) ∧ ∀ c ∈ t.toList.getLast?, isSpace c = false := by
  have list : (trimSpace s).toList = rdropWhile isSpace (dropWhile isSpace s.toList) :=
    String.toList_ofList
  rw [← String.toList_inj, list]
  constructor
  · intro left
    rw [← left]
    refine ⟨takeWhile isSpace s.toList, rtakeWhile isSpace (dropWhile isSpace s.toList), ?_,
      fun c mem => mem_takeWhile_imp mem, fun c mem => mem_rtakeWhile_imp mem, ?_, ?_⟩
    · rw [rdropWhile_append_rtakeWhile, takeWhile_append_dropWhile]
    · intro c first
      have head := head?_dropWhile_not isSpace s.toList
      rw [← rdropWhile_append_rtakeWhile (p := isSpace) (l := dropWhile isSpace s.toList),
        head?_append, Option.mem_def.mp first] at head
      exact head
    · intro c last
      obtain ⟨rest, ends⟩ := getLast?_eq_some_iff.mp last
      have final := rdropWhile_last_not isSpace (dropWhile isSpace s.toList) (by simp [ends])
      simpa [ends] using final
  · rintro ⟨front, back, split, blank, blank', first, last⟩
    rw [split, dropWhile_append_of_pos blank]
    cases body : t.toList with
    | nil => rw [nil_append, dropWhile_eq_nil_iff.mpr blank', rdropWhile_nil]
    | cons c rest =>
      rw [body] at first last
      have ends : dropWhile isSpace (c :: rest).reverse = (c :: rest).reverse := by
        obtain ⟨init, final, split⟩ := eq_nil_or_concat (c :: rest) |>.resolve_left
          (cons_ne_nil _ _)
        rw [concat_eq_append] at split
        rw [split, reverse_append, reverse_singleton, singleton_append, dropWhile_cons_of_neg]
        simp [last final (by simp [split])]
      rw [cons_append, dropWhile_cons_of_neg (by simp [first c rfl]), ← cons_append, rdropWhile,
        reverse_append, dropWhile_append_of_pos (by simpa using blank'), ends, reverse_reverse]

/-- Lower-case text without space around it. -/
theorem toLower_trimSpace_idem (s : String) :
    toLower (trimSpace (toLower (trimSpace s))) = toLower (trimSpace s) := by
  have spaces : isSpace ∘ Unicode.toLower = isSpace := funext isSpace_toLower
  have lower : Unicode.toLower ∘ Unicode.toLower = Unicode.toLower := funext toLower_toLower
  have front : dropWhile isSpace (rdropWhile isSpace (dropWhile isSpace s.toList)) =
      rdropWhile isSpace (dropWhile isSpace s.toList) := by
    rw [dropWhile_eq_self_iff]
    intro lt
    rw [IsPrefix.getElem ( rdropWhile_prefix _ _) lt]
    exact dropWhile_eq_self_iff.mp (dropWhile_idempotent _ _) _
  simp only [toLower, trimSpace, String.toList_ofList, dropWhile_map, ← map_reverse, spaces,
    map_map, lower]
  change String.ofList (map _ (rdropWhile isSpace (dropWhile isSpace (rdropWhile _ _)))) = _
  rw [front, rdropWhile_idempotent]
  rfl

/-! ## JSON -/

/-- A `jsonb` value; a number is kept as its text. -/
inductive Json
  | null
  | bool (b : Bool)
  | num (text : String)
  | str (s : String)
  | arr (items : List Json)
  | obj (fields : List (String × Json))

namespace Json

def empty : Json := .obj []

def isEmpty : Json → Bool
  | .obj [] => true
  | _ => false

def isObject : Json → Bool
  | .obj _ => true
  | _ => false

def isEmptyArray : Json → Bool
  | .arr [] => true
  | _ => false

/-- The fields of `a` whose key is not one of `b`. -/
def without (b a : List (String × Json)) : List (String × Json) :=
  a.filter fun f => !b.any fun g => f.1 = g.1

/-- The `||` operator: the right operand's keys win between objects, and any other
pair is concatenated as arrays. -/
def concat : Json → Json → Json
  | .obj a, .obj b => .obj (without b a ++ b)
  | .arr a, .arr b => .arr (a ++ b)
  | .arr a, b => .arr (a ++ [b])
  | a, .arr b => .arr (a :: b)
  | a, b => .arr [a, b]

section Merging

variable (a b c : List (String × Json))

theorem without_append : without c (a ++ b) = without c a ++ without c b :=
  filter_append ..

@[simp] theorem without_without : without b (without b a) = without b a := by
  simp [without, filter_filter]

theorem without_comm : without b (without c a) = without c (without b a) := by
  simp only [without, filter_filter, Bool.and_comm]

@[simp] theorem without_nil : without b [] = [] := rfl

@[simp] theorem without_self : without b b = [] := by
  rw [without, filter_eq_nil_iff]
  intro f mem
  simpa using ⟨f.2, mem⟩

/-- Merging two objects in a second time changes nothing. -/
theorem concat_twice :
    ((((obj a).concat (.obj b)).concat (.obj c)).concat (.obj b)).concat (.obj c) =
      ((obj a).concat (.obj b)).concat (.obj c) := by
  have gone : ∀ x y, without x (without y x) = [] := fun x y => by
    rw [without_comm, without_self, without_nil]
  simp only [concat, without_append, without_without, without_comm _ b c, gone, without_self,
    without_nil, nil_append, append_assoc]

end Merging

@[simp] theorem isEmptyArray_arr (items : List Json) : (arr items).isEmptyArray ↔ items = [] := by
  cases items <;> simp [isEmptyArray]

/-- Concatenating the same value twice shows unless both are objects or it is empty. -/
theorem concat_again_iff {j patch : Json} : (j.concat patch).concat patch = j.concat patch ↔
      (j.isObject ∧ patch.isObject) ∨ patch.isEmptyArray := by
  cases patch with
  | arr items => cases j <;> simp [concat, isObject]
  | obj fields => cases j <;> simp [concat, isObject, isEmptyArray, without_append]
  | null | bool | num | str => cases j <;> simp [concat, isObject, isEmptyArray]

end Json

/-- `jsonbOrEmpty`: an absent or `null` document is stored as `{}`. -/
def jsonbOrEmpty : Option Json → Json
  | none => .empty
  | some .null => .empty
  | some j => j

/-- `normalizeJSON`: only an absent document is stored as `{}`. -/
def normalizeJSON : Option Json → Json
  | none => .empty
  | some j => j

/-! ## Privacy references -/

def subjectRef (h : Digest) (tenantId subject : String) : String :=
  h.sha256Hex (tenantId ++ "\x00" ++ subject)

def placeholder (ref : String) : String := "erased:" ++ left 12 ref

def isPlaceholder (s : String) : Bool := hasPrefix "erased:" s

@[simp] theorem isPlaceholder_placeholder (ref : String) :
    isPlaceholder (placeholder ref) := hasPrefix_append ..

end Trustctl.Store
