import Trustctl.Issuing.Names

/-!
# CAA checks

`Check` climbs from a name towards the root and decides at the first name that publishes CAA
records.  `Permits` is what RFC 8659 says, which the source cites: a critical property that is not
understood forbids, and without a property that governs the request nothing is restricted.

* `authorizes_iff`: `authorizes` accepts the values that name the issuer;
* `climb_eq_ok`: what the loop of `Check` accepts;
* `check_agrees_iff`: when `Check` decides as the standard does;
* `contact_only_refused`: a name with nothing but a contact record is refused.
-/

namespace Trustctl.Acme.Caa

open Store Systems List
open Unicode (isSpace equalFold equalFold_iff SameLetter)

structure CaaRecord where
  flag : UInt8 := 0
  tag : String
  value : String

/-- `LookupCAA`: the record set of one name, unless the lookup fails. -/
abbrev CaaResolver := String → Option (List CaaRecord)

/-- The errors of `Check`, with what their texts name. -/
inductive CaaError
  | noResolver
  | lookup (name : String)
  | noIssuer (name : String)
  | unauthorized (name issuer : String)

structure CaaChecker where
  resolver : Option CaaResolver
  issuerDomain : String

def join (labels : List (List Char)) : String := String.ofList (['.'].intercalate labels)

def labelsOf (domain : String) : List (List Char) :=
  (Issuing.trimSuffix "." (trimPrefix "*." domain)).toList.splitOn '.'

/-- The records with a tag, in any case. -/
def withTag (tag : String) (records : List CaaRecord) : List CaaRecord :=
  records.filter fun r => toLower r.tag = tag

namespace CaaChecker

variable (c : CaaChecker)

/-- What `authorizes` reads of a value: the text in front of the parameters. -/
def issuerField (value : String) : String :=
  let field := trimSpace value
  if ';' ∈ field.toList then trimSpace (.ofList (field.toList.takeWhile (· ≠ ';'))) else field

def authorizes (value : String) : Bool :=
  let field := issuerField value
  field ≠ "" && equalFold field.toList c.issuerDomain.toList

def evaluate (name : String) (records : List CaaRecord) (wildcard : Bool) : Except CaaError Unit :=
  let issue := withTag "issue" records
  let issuewild := withTag "issuewild" records
  let relevant := if wildcard && !issuewild.isEmpty then issuewild else issue
  if relevant.isEmpty then .error (.noIssuer name)
  else if relevant.any fun r => c.authorizes r.value then .ok ()
  else .error (.unauthorized name c.issuerDomain)

/-- The loop of `Check`, over the labels that are left. -/
def climb (lookup : CaaResolver) (wildcard : Bool) : List (List Char) → Except CaaError Unit
  | [] => .ok ()
  | label :: above =>
    let name := join (label :: above)
    match lookup name with
    | none => .error (.lookup name)
    | some [] => climb lookup wildcard above
    | some (r :: records) => c.evaluate name (r :: records) wildcard

def check (domain : String) (wildcard : Bool) : Except CaaError Unit :=
  match c.resolver with
  | none => .error .noResolver
  | some lookup => c.climb lookup wildcard (labelsOf domain)

end CaaChecker

/-! ## What the standard permits -/

/-- The name and its ancestors, the closest first. -/
def ancestors : List (List Char) → List String
  | [] => []
  | label :: above => join (label :: above) :: ancestors above

/-- The closest name whose lookup fails or returns records. -/
def closest (lookup : CaaResolver) (labels : List (List Char)) : Option String :=
  (ancestors labels).find? fun name => (lookup name).all fun records => !records.isEmpty

/-- The record has the critical flag, and a tag that is not understood. -/
def CaaRecord.forbids (r : CaaRecord) : Bool :=
  128 ≤ r.flag && !(["issue", "issuewild", "iodef"].contains (toLower r.tag))

/-- The property that governs a request. -/
def governing (records : List CaaRecord) (wildcard : Bool) : String :=
  if wildcard && !(withTag "issuewild" records).isEmpty then "issuewild" else "issue"

/-- Some record restricts the request. -/
def Restricts (records : List CaaRecord) (wildcard : Bool) : Prop :=
  withTag (governing records wildcard) records ≠ []

/-- The value names the issuer: its domain stands between white space, in front of a semicolon if
there is one, whatever the case of its letters. -/
def ValueNames (issuer value : String) : Prop :=
  ∃ front domain back parameters : List Char,
    value.toList = front ++ (domain ++ back) ++ parameters ∧
    (∀ c ∈ front, isSpace c) ∧ (∀ c ∈ back, isSpace c) ∧
    (∀ c ∈ domain.head?, isSpace c = false) ∧ (∀ c ∈ domain.getLast?, isSpace c = false) ∧
    domain ≠ [] ∧ ';' ∉ domain ∧ (∀ c ∈ parameters.head?, c = ';') ∧
    Forall₂ SameLetter domain issuer.toList

/-- Some record that governs the request names the issuer. -/
def Names (c : CaaChecker) (records : List CaaRecord) (wildcard : Bool) : Prop :=
  ∃ r ∈ withTag (governing records wildcard) records, ValueNames c.issuerDomain r.value

def SetPermits (c : CaaChecker) (records : List CaaRecord) (wildcard : Bool) : Prop :=
  (∀ r ∈ records, r.forbids = false) ∧ (¬ Restricts records wildcard ∨ Names c records wildcard)

/-- The closest record set permits the request, and every lookup up to it succeeds. -/
def Permits (c : CaaChecker) (domain : String) (wildcard : Bool) : Prop :=
  ∃ lookup ∈ c.resolver, ∀ name ∈ closest lookup (labelsOf domain),
    ∃ records ∈ lookup name, SetPermits c records wildcard

/-! ## The check -/

section

variable {c : CaaChecker} {lookup : CaaResolver} {wildcard : Bool}

theorem ne_semicolon_of_isSpace {x : Char} (blank : isSpace x) : x ≠ ';' := by
  rintro rfl
  cases blank

/-- White space before and after the cut at the semicolon is trimmed alike. -/
theorem issuerField_eq (value : String) : CaaChecker.issuerField value =
    trimSpace (.ofList (value.toList.takeWhile (· ≠ ';'))) := by
  obtain ⟨front, back, split, blank, blank', -⟩ := trimSpace_eq_iff.mp (rfl : trimSpace value = _)
  have trimmed : ∀ rest, trimSpace (.ofList (front ++ rest)) = trimSpace (.ofList rest) := by
    intro rest
    simp only [trimSpace, String.toList_ofList, dropWhile_append_of_pos blank]
  have cut : value.toList.takeWhile (· ≠ ';') =
      front ++ ((trimSpace value).toList ++ back).takeWhile (· ≠ ';') := by
    rw [split, takeWhile_append_of_pos]
    exact fun x mem => decide_eq_true (ne_semicolon_of_isSpace (blank x mem))
  rw [cut, trimmed, CaaChecker.issuerField]
  split
  next semicolon =>
    rw [takeWhile_append, if_neg]
    intro whole
    have all := takeWhile_eq_self_iff.mp (( takeWhile_prefix _).eq_of_length whole)
    exact of_decide_eq_true (all _ semicolon) rfl
  next none =>
    have whole : ((trimSpace value).toList ++ back).takeWhile (· ≠ ';') =
        (trimSpace value).toList ++ back := by
      refine takeWhile_eq_self_iff.mpr fun x mem => decide_eq_true ?_
      rcases mem_append.mp mem with mem | mem
      · exact fun same => none (same ▸ mem)
      · exact ne_semicolon_of_isSpace (blank' x mem)
    rw [whole, ← trimmed, ← split, String.ofList_toList]

/-- The code accepts the values that name the issuer. -/
theorem authorizes_iff {value : String} :
    c.authorizes value ↔ ValueNames c.issuerDomain value := by
  rw [CaaChecker.authorizes, issuerField_eq, Bool.and_eq_true, decide_eq_true_eq, equalFold_iff]
  constructor
  · rintro ⟨named, same⟩
    obtain ⟨front, back, split, blank, blank', first, last⟩ := trimSpace_eq_iff.mp
      (rfl : trimSpace (.ofList (value.toList.takeWhile (· ≠ ';'))) = _)
    rw [String.toList_ofList] at split
    refine ⟨front, _, back, value.toList.dropWhile (· ≠ ';'), ?_, blank, blank', first, last,
      fun none => named (String.toList_eq_nil_iff.mp none), fun mem => ?_, fun x there => ?_, same⟩
    · rw [← split, takeWhile_append_dropWhile]
    · have inside : ';' ∈ value.toList.takeWhile (· ≠ ';') := by
        rw [split]
        exact mem_append_right _ (mem_append_left _ mem)
      have other := mem_takeWhile_imp inside
      exact of_decide_eq_true other rfl
    · have stop := head?_dropWhile_not (· ≠ ';') value.toList
      rw [Option.mem_def.mp there] at stop
      exact not_not.mp (of_decide_eq_false stop)
  · rintro ⟨front, domain, back, parameters, split, blank, blank', first, last, named, none, stop,
      same⟩
    have before : ∀ x ∈ front ++ (domain ++ back), decide (x ≠ ';') := by
      intro x mem
      refine decide_eq_true ?_
      rcases mem_append.mp mem with mem | mem
      · exact ne_semicolon_of_isSpace (blank x mem)
      · rcases mem_append.mp mem with mem | mem
        · exact fun same => none (same ▸ mem)
        · exact ne_semicolon_of_isSpace (blank' x mem)
    have after : parameters.takeWhile (· ≠ ';') = [] := by
      cases parameters with
      | nil => rfl
      | cons x rest => simp [stop x rfl]
    have field : trimSpace (.ofList (value.toList.takeWhile (· ≠ ';'))) = .ofList domain := by
      rw [split, takeWhile_append_of_pos before, after, append_nil]
      refine trimSpace_eq_iff.mpr ⟨front, back, ?_, blank, blank', ?_⟩
      · simp only [String.toList_ofList]
      · simpa only [String.toList_ofList] using ⟨first, last⟩
    rw [field, String.toList_ofList]
    exact ⟨fun empty => named (by simpa using congrArg String.toList empty), same⟩

theorem evaluate_eq_ok {name : String} {records : List CaaRecord} :
    c.evaluate name records wildcard = .ok () ↔ Names c records wildcard := by
  have relevant : (if wildcard && !(withTag "issuewild" records).isEmpty
      then withTag "issuewild" records else withTag "issue" records) =
      withTag (governing records wildcard) records := by
    unfold governing
    split <;> rfl
  unfold CaaChecker.evaluate Names
  simp only [relevant]
  split
  next none => simp [List.isEmpty_iff.mp none]
  next => simp [authorizes_iff]

/-- The loop accepts where the closest records name the issuer, or no name has any. -/
theorem climb_eq_ok (labels : List (List Char)) :
    c.climb lookup wildcard labels = .ok () ↔ ∀ name ∈ closest lookup labels,
      ∃ recs ∈ lookup name, Names c recs wildcard := by
  induction labels with
  | nil => simp [CaaChecker.climb, closest, ancestors]
  | cons label above ih =>
    rw [CaaChecker.climb, closest, ancestors, List.find?_cons]
    cases found : lookup (join (label :: above)) with
    | none => simp [found]
    | some recs =>
      cases recs with
      | nil => exact ih
      | cons r recs => simp [found, evaluate_eq_ok]

/-- For every resolver, domain, issuer and kind of request: `Check` accepts exactly what the
standard permits, failed lookups included, if and only if at the closest name with records a request
without a governing property meets a critical property that is not understood, and one whose issuer
is named meets none. -/
theorem check_agrees_iff (c : CaaChecker) (domain : String) (wildcard : Bool) :
    (c.check domain wildcard = .ok () ↔ Permits c domain wildcard) ↔
    ∀ lookup ∈ c.resolver, ∀ name ∈ closest lookup (labelsOf domain), ∀ records ∈ lookup name,
      (¬ Restricts records wildcard → ∃ r ∈ records, r.forbids) ∧
        (Names c records wildcard → ∀ r ∈ records, r.forbids = false) := by
  unfold CaaChecker.check Permits
  cases c.resolver with
  | none => simp
  | some lookup =>
    simp only [climb_eq_ok, Option.mem_some_iff, exists_eq_left', forall_eq']
    cases closest lookup (labelsOf domain) with
    | none => simp
    | some name =>
      cases looked : lookup name with
      | none => simp [looked]
      | some records =>
        have named : Names c records wildcard → Restricts records wildcard :=
          fun ⟨_, mem, _⟩ => List.ne_nil_of_mem mem
        simp only [Option.mem_some_iff, forall_eq', looked, exists_eq_left', SetPermits]
        grind

/-- A domain with nothing but a contact record. -/
def contactOnly : CaaChecker where
  resolver := some fun _ => some [{ tag := "iodef", value := "mailto:ca@example.org" }]
  issuerDomain := "ca.example"

/-- A contact record restricts nothing, but the request is refused. -/
theorem contact_only_refused : ¬ (contactOnly.check "example.org" false = .ok () ↔
    Permits contactOnly "example.org" false) := by
  intro agrees
  have refused : ¬ contactOnly.check "example.org" false = .ok () := by rintro ⟨⟩
  refine refused (agrees.mpr ⟨_, rfl, fun name _ => ⟨_, rfl, by decide, ?_⟩⟩)
  exact .inl fun restricts => restricts rfl

end

end Trustctl.Acme.Caa
