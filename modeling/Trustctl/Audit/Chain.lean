import Trustctl.Systems.JsonText
import Mathlib.Data.List.Forall2
import Mathlib.Data.Set.Function

/-!
# The audit hash chain

Each audit record is linked to the hash of the one before it, over a canonical JSON text.

* `canonical_inj`: the text of a record whose strings have no stray byte is that of no other record,
  up to the compaction of the payload;
* `head_determines_records`: nor is the head of a chain of such records, and only of such;
* `stray_ids_share_head`: the ids `"\xff"` and `"\xfe"` are written alike.
-/

namespace Trustctl.Audit

open Systems List Option

/-! ## Records -/

/-- `events.Actor`; no roles and an empty list of roles are written alike. -/
structure Actor where
  subject : GoString
  roles : List GoString := []

/-- An instant, as a calendar reads it in UTC. -/
structure UtcTime where
  year : Int
  month : Nat
  day : Nat
  hour : Nat
  minute : Nat
  second : Nat
  nanosecond : Nat := 0
  valid : 1 ≤ month ∧ month ≤ 12 ∧ 1 ≤ day ∧ day ≤ 31 ∧ hour < 24 ∧ minute < 60 ∧ second < 60 ∧
    nanosecond < 10 ^ 9 := by decide

structure Record where
  sequence : Nat
  streamSequence : Nat := 0
  id : GoString
  type : GoString
  tenantId : GoString
  time : UtcTime
  actor : Option Actor := none
  data : GoString := []
  hash : String := ""

/-- No string of the record has a stray byte. -/
def Record.whole (r : Record) : Bool :=
  r.id.whole && r.type.whole && r.tenantId.whole &&
    r.actor.all fun a => a.subject.whole && a.roles.all GoString.whole

/-- The record, with one byte in place of every stray one. -/
def Record.put (b : Bool) (r : Record) : Record :=
  { r with
    id := r.id.map (.put b)
    type := r.type.map (.put b)
    tenantId := r.tenantId.map (.put b)
    actor := r.actor.map fun a =>
      { subject := a.subject.map (.put b), roles := a.roles.map (map (.put b)) } }

/-- The libraries of the chain: the digest, in hexadecimal, and the compaction of raw JSON, which
fails on other bytes. -/
structure Library where
  sha256Hex : GoString → String
  compact : GoString → Option GoString
  length_hex : ∀ t, (sha256Hex t).toList.length = 64
  hex : ∀ t, ∀ c ∈ (sha256Hex t).toList, c.isAlphanum
  compacted : ∀ {d c}, compact d = some c → c ≠ [] ∧ compact c = some c

/-! ## The canonical text -/

/-- `Format("2006-01-02T15:04:05.999999999Z07:00")`. -/
def UtcTime.format (t : UtcTime) : List Char :=
  (if t.year < 0 then ['-'] else []) ++ (pad 4 t.year.natAbs ++ '-' :: (pad 2 t.month ++ '-' ::
    (pad 2 t.day ++ 'T' :: (pad 2 t.hour ++ ':' :: (pad 2 t.minute ++ ':' ::
      (pad 2 t.second ++ (fraction t.nanosecond ++ ['Z'])))))))

def text (s : String) : GoString := .ofText s

/-- `Roles`, with `omitempty`. -/
def rolesJson : List GoString → GoString
  | [] => []
  | r :: rs => text ",\"roles\":[" ++
      (quote r ++ (rs.flatMap (fun s => .rune ',' :: quote s) ++ text "]"))

/-- `Actor`, with `omitempty`. -/
def actorJson : Option Actor → GoString
  | none => []
  | some a => text ",\"actor\":\x7b\"subject\":" ++
      (quote a.subject ++ (rolesJson a.roles ++ text "\x7d"))

/-- `Data`, with `omitempty`. -/
def dataJson (value : GoString) : GoString := if value = [] then [] else text ",\"data\":" ++ value

namespace Library

variable (lib : Library)

/-- The value that is written for raw data, none of which is left out. -/
def payload (data : GoString) : Option GoString := if data = [] then some [] else lib.compact data

/-- `json.Marshal` of a `recordCore`. -/
def canonical (r : Record) : Option GoString :=
  (lib.payload r.data).map fun value =>
    text "\x7b\"sequence\":" ++ (chars (pad 0 r.sequence) ++ (text ",\"id\":" ++ (quote r.id ++
      (text ",\"type\":" ++ (quote r.type ++ (text ",\"tenant_id\":" ++ (quote r.tenantId ++
        (text ",\"time\":" ++ (quote (chars r.time.format) ++ (actorJson r.actor ++
          (dataJson value ++ text "\x7d")))))))))))

def link (prevHash : String) (r : Record) : Option String :=
  (lib.canonical r).map fun canonical => lib.sha256Hex (text prevHash ++ canonical)

end Library

/-- How a verification fails: a record cannot be written, or its hash is not its link. -/
inductive ChainError
  | marshal
  | broken (record sequence : Nat) (type : GoString)

namespace Library

variable (lib : Library)

def verifyFrom (i : Nat) (prev : String) : List Record → Except ChainError String
  | [] => .ok prev
  | r :: rest =>
    match lib.link prev r with
    | none => .error .marshal
    | some want =>
      if r.hash ≠ want then .error (.broken i r.sequence r.type) else verifyFrom (i + 1) want rest

def verifyChainFrom (seed : String) (records : List Record) : Except ChainError String :=
  lib.verifyFrom 0 seed records

def verifyChain (records : List Record) : Except ChainError String := lib.verifyChainFrom "" records

/-- The records have the same content, up to the compaction of their data. -/
structure Agree (r s : Record) : Prop where
  sequence : r.sequence = s.sequence
  id : r.id = s.id
  type : r.type = s.type
  tenantId : r.tenantId = s.tenantId
  time : r.time = s.time
  actor : r.actor = s.actor
  data : lib.payload r.data = lib.payload s.data

def Hashes (records : List Record) (t : GoString) : Prop :=
  ∃ before r after prev canonical, records = before ++ r :: after ∧
    lib.verifyChain before = .ok prev ∧
    lib.canonical r = some canonical ∧ t = text prev ++ canonical

end Library

/-! ## Texts tell records apart -/

/-- A year up to the dash behind it; only a sign stands in front of its digits. -/
theorem year_stop {a b : Int} {x y : List Char}
    (same : (if a < 0 then ['-'] else []) ++ (pad 4 a.natAbs ++ '-' :: x) =
      (if b < 0 then ['-'] else []) ++ (pad 4 b.natAbs ++ '-' :: y)) : a = b ∧ x = y := by
  have unsigned : ∀ (n : Nat) (x y : List Char), '-' :: x ≠ pad 4 n ++ '-' :: y := by
    intro n x y same
    have none : ∀ c ∈ ([] : List Char), c.isDigit := nofun
    have front := (append_stop_inj none (fun _ => isDigit_of_mem_pad) rfl rfl same).1
    exact pad_ne_nil _ _ front.symm
  split at same <;> split at same
  next negative negative' =>
    obtain ⟨digits, -, rest⟩ := pad_stop rfl rfl (cons.inj same).2
    exact ⟨by omega, rest⟩
  next => exact absurd same (unsigned _ _ _)
  next => exact absurd same.symm (unsigned _ _ _)
  next =>
    obtain ⟨digits, -, rest⟩ := pad_stop rfl rfl same
    exact ⟨by omega, rest⟩

theorem UtcTime.format_injective : Function.Injective UtcTime.format := by
  intro t u same
  obtain ⟨year, same⟩ := year_stop same
  obtain ⟨month, -, same⟩ := pad_stop rfl rfl same
  obtain ⟨day, -, same⟩ := pad_stop rfl rfl same
  obtain ⟨hour, -, same⟩ := pad_stop rfl rfl same
  obtain ⟨minute, -, same⟩ := pad_stop rfl rfl same
  -- the seconds end at the point of a fraction or at the zone
  have stop : ∀ n, ∃ c x, fraction n ++ ['Z'] = c :: x ∧ c.isDigit = false := by
    intro n
    unfold fraction
    split
    · exact ⟨_, _, rfl, rfl⟩
    · exact ⟨_, _, rfl, rfl⟩
  obtain ⟨c, x, eqt, hc⟩ := stop t.nanosecond
  obtain ⟨d, y, equ, hd⟩ := stop u.nanosecond
  rw [eqt, equ] at same
  obtain ⟨second, rfl, rfl⟩ := pad_stop hc hd same
  have nanosecond := fraction_injective t.valid.2.2.2.2.2.2.2 u.valid.2.2.2.2.2.2.2
    (append_cancel_right (eqt.trans equ.symm))
  cases t
  cases u
  simp_all

theorem whole_chars (cs : List Char) : (chars cs).whole := by
  simp [chars, GoString.whole, Piece.isRune]

theorem text_injective : Function.Injective text :=
  fun _ _ same => String.toList_injective (chars_injective same)

theorem rolesJson_stop {rs ss : List GoString} (hrs : rs.all GoString.whole) {x y : GoString}
    (same : rolesJson rs ++ (text "\x7d" ++ x) = rolesJson ss ++ (text "\x7d" ++ y)) :
    rs = ss ∧ x = y := by
  have words : Splits (fun s : GoString => s.whole) fun s => .rune ',' :: quote s :=
    fun _ _ hs _ _ same => splits_quote hs (cons.inj same).2
  have starts : ∀ s x y : GoString, .rune ',' :: quote s ++ x ≠ .rune ']' :: y := by
    intro s x y same
    cases same
  have list := words.flatMap starts
  cases rs with
  | nil =>
    cases ss with
    | nil => exact ⟨rfl, append_cancel_left same⟩
    | cons s ss => simp [rolesJson, text, GoString.ofText] at same
  | cons r rs =>
    cases ss with
    | nil => simp [rolesJson, text, GoString.ofText] at same
    | cons s ss =>
      rw [all_cons, Bool.and_eq_true] at hrs
      simp only [rolesJson, append_assoc] at same
      obtain ⟨first, same⟩ := splits_quote hrs.1 (append_cancel_left same)
      have close : ∀ l z : GoString, l ++ (text "]" ++ z) = (l ++ [.rune ']']) ++ z := by
        simp [text, GoString.ofText]
      rw [close, close] at same
      obtain ⟨rest, same⟩ := list (all_eq_true.mp hrs.2) same
      exact ⟨by rw [first, rest], append_cancel_left same⟩

theorem actorJson_stop {a b : Option Actor}
    (ha : a.all (fun a => a.subject.whole && a.roles.all GoString.whole)) {v w : GoString}
    (same : actorJson a ++ (dataJson v ++ text "\x7d") =
      actorJson b ++ (dataJson w ++ text "\x7d")) :
    a = b ∧ dataJson v ++ text "\x7d" = dataJson w ++ text "\x7d" := by
  have apart : ∀ (a : Actor) (x v : GoString),
      actorJson (some a) ++ x ≠ dataJson v ++ text "\x7d" := by
    intro a x v same
    unfold dataJson at same
    split at same <;> simp [actorJson, text, GoString.ofText] at same
  cases a with
  | none =>
    cases b with
    | none => exact ⟨rfl, same⟩
    | some b => exact absurd same.symm (apart b _ v)
  | some a =>
    cases b with
    | none => exact absurd same (apart a _ w)
    | some b =>
      rw [all_some, Bool.and_eq_true] at ha
      simp only [actorJson, append_assoc] at same
      obtain ⟨subj, same⟩ := splits_quote ha.1 (append_cancel_left same)
      obtain ⟨roles, same⟩ := rolesJson_stop ha.2 same
      cases a
      cases b
      simp_all

theorem dataJson_injective {v w : GoString}
    (same : dataJson v ++ text "\x7d" = dataJson w ++ text "\x7d") : v = w := by
  have same := append_cancel_right same
  unfold dataJson at same
  split at same <;> split at same
  next empty empty' => rw [empty, empty']
  next => simp [text, GoString.ofText] at same
  next => simp [text, GoString.ofText] at same
  next => exact append_cancel_left same

namespace Library

variable {lib : Library} {r s : Record}

theorem canonical_inj (hr : r.whole) (same : lib.canonical r = lib.canonical s)
    (wrote : (lib.canonical r).isSome) : lib.Agree r s := by
  obtain ⟨v, value⟩ : ∃ v, lib.payload r.data = some v :=
    isSome_iff_exists.mp (by simpa [canonical] using wrote)
  rw [same] at wrote
  obtain ⟨w, value'⟩ : ∃ w, lib.payload s.data = some w :=
    isSome_iff_exists.mp (by simpa [canonical] using wrote)
  simp only [Record.whole, Bool.and_eq_true] at hr
  obtain ⟨⟨⟨rid, rtype⟩, rtenant⟩, ractor⟩ := hr
  simp only [canonical, value, value', map_some, some.injEq] at same
  have same := append_cancel_left same
  have comma : text ",\"id\":" = .rune ',' :: text "\"id\":" := by simp [text, GoString.ofText]
  rw [comma] at same
  have digits : ∀ n, ∀ p ∈ chars (pad 0 n), (fun p => p != .rune ',') p := by
    intro n p mem
    obtain ⟨c, digit, rfl⟩ := mem_map.mp mem
    have := isDigit_of_mem_pad digit
    simp only [bne_iff_ne, ne_eq, Piece.rune.injEq]
    rintro rfl
    cases this
  obtain ⟨sequence, -, same⟩ := append_stop_inj (digits _) (digits _) (by simp) (by simp) same
  obtain ⟨id, same⟩ := splits_quote rid (append_cancel_left same)
  obtain ⟨type, same⟩ := splits_quote rtype (append_cancel_left same)
  obtain ⟨tid, same⟩ := splits_quote rtenant (append_cancel_left same)
  obtain ⟨time, same⟩ := splits_quote (whole_chars _) (append_cancel_left same)
  obtain ⟨actor, same⟩ := actorJson_stop ractor same
  exact ⟨pad_injective 0 (chars_injective sequence), id, type, tid,
    UtcTime.format_injective (chars_injective time), actor,
    by rw [value, value', dataJson_injective same]⟩

/-! ## Chains -/

variable {records rs ss : List Record} {prev head : String} {i : Nat}

theorem verifyFrom_cons : lib.verifyFrom i prev (r :: records) = .ok head ↔
      lib.link prev r = some r.hash ∧ lib.verifyFrom (i + 1) r.hash records = .ok head := by
  rw [verifyFrom]
  cases linked : lib.link prev r with
  | none => simp
  | some want =>
    simp only [some.injEq]
    split
    next other =>
      constructor
      · intro failed
        cases failed
      · exact fun ⟨same, _⟩ => absurd same.symm other
    next same =>
      rw [Decidable.not_not] at same
      rw [same]
      exact ⟨fun rest => ⟨rfl, rest⟩, fun both => both.2⟩

theorem verifyFrom_append : lib.verifyFrom i prev (rs ++ ss) = .ok head ↔
      ∃ mid, lib.verifyFrom i prev rs = .ok mid ∧
        lib.verifyFrom (i + rs.length) mid ss = .ok head := by
  induction rs generalizing i prev with
  | nil => simp [verifyFrom]
  | cons r rs ih =>
    rw [cons_append, verifyFrom_cons, ih, length_cons, Nat.add_right_comm, Nat.add_assoc]
    simp only [verifyFrom_cons, and_assoc, exists_and_left]

theorem verifyChain_snoc : lib.verifyChain (records ++ [r]) = .ok head ↔
      ∃ mid, lib.verifyChain records = .ok mid ∧ lib.link mid r = some head ∧ r.hash = head := by
  unfold verifyChain verifyChainFrom
  rw [verifyFrom_append]
  refine exists_congr fun mid => and_congr_right fun _ => ?_
  rw [verifyFrom_cons, verifyFrom]
  constructor
  · rintro ⟨linked, ⟨⟩⟩
    exact ⟨linked, rfl⟩
  · rintro ⟨linked, rfl⟩
    exact ⟨linked, rfl⟩

theorem link_ne_empty : lib.link prev r ≠ some "" := by
  intro linked
  obtain ⟨c, -, digest⟩ := map_eq_some_iff.mp linked
  have length := lib.length_hex (text prev ++ c)
  rw [digest] at length
  cases length

theorem canonical_brace {c : GoString} (wrote : lib.canonical r = some c) :
    ∃ x, c = .rune '\x7b' :: x := by
  obtain ⟨v, -, rfl⟩ := map_eq_some_iff.mp wrote
  have brace : text "\x7b\"sequence\":" = .rune '\x7b' :: text "\"sequence\":" := by
    simp [text, GoString.ofText]
  exact ⟨_, by rw [brace]; rfl⟩

/-- A head is empty or a digest, neither of which has a brace. -/
theorem brace_notMem_head (valid : lib.verifyChain records = .ok head) :
    ∀ p ∈ text head, (p != .rune '\x7b') := by
  intro p mem
  obtain ⟨c, listed, rfl⟩ := mem_map.mp mem
  rcases eq_nil_or_concat records with rfl | ⟨old, r, rfl⟩
  · cases valid
    simp at listed
  · rw [concat_eq_append] at valid
    obtain ⟨mid, -, link, -⟩ := verifyChain_snoc.mp valid
    obtain ⟨c', -, rfl⟩ := map_eq_some_iff.mp link
    have digit := lib.hex _ c listed
    simp only [bne_iff_ne, ne_eq, Piece.rune.injEq]
    rintro rfl
    exact absurd digit (by decide)

theorem agree_of_head {rs ss : List Record} {head : String} (whole : ∀ r ∈ rs, r.whole)
    (injective : Set.InjOn lib.sha256Hex (Set.union (lib.Hashes rs) (lib.Hashes ss)))
    (verified : lib.verifyChain rs = .ok head) (verified' : lib.verifyChain ss = .ok head) :
    Forall₂ lib.Agree rs ss := by
  induction rs using reverseRecOn generalizing ss head with
  | nil =>
    cases verified
    rcases eq_nil_or_concat ss with rfl | ⟨old, s, rfl⟩
    · exact .nil
    · rw [concat_eq_append] at verified'
      obtain ⟨mid, -, link, -⟩ := verifyChain_snoc.mp verified'
      exact absurd link link_ne_empty
  | append_singleton rs r ih =>
    obtain ⟨mid, chain, link, -⟩ := verifyChain_snoc.mp verified
    rcases eq_nil_or_concat ss with rfl | ⟨ss, s, rfl⟩
    · cases verified'
      exact absurd link link_ne_empty
    rw [concat_eq_append] at *
    obtain ⟨mid', chained', link', -⟩ := verifyChain_snoc.mp verified'
    obtain ⟨c, wrote, digest⟩ := map_eq_some_iff.mp link
    obtain ⟨c', written', digest'⟩ := map_eq_some_iff.mp link'
    have texts : text mid ++ c = text mid' ++ c' :=
      injective (.inl ⟨rs, r, [], mid, c, rfl, chain, wrote, rfl⟩)
        (.inr ⟨ss, s, [], mid', c', rfl, chained', written', rfl⟩) (digest.trans digest'.symm)
    -- the last brace-free run in front is the hash before
    obtain ⟨x, rfl⟩ := canonical_brace wrote
    obtain ⟨y, rfl⟩ := canonical_brace written'
    obtain ⟨heads, -, rest⟩ := append_stop_inj (brace_notMem_head chain)
      (brace_notMem_head chained') (by simp) (by simp) texts
    have agree : lib.Agree r s :=
      canonical_inj (whole r (by simp)) (by rw [wrote, written', rest]) (by rw [wrote]; rfl)
    have hashes : ∀ {rs : List Record} {r t}, lib.Hashes rs t → lib.Hashes (rs ++ [r]) t := by
      rintro rs r t ⟨old, r', after, prev, c, rfl, hashed⟩
      exact ⟨old, r', after ++ [r], prev, c, by simp, hashed⟩
    refine rel_append (ih (fun r mem => whole r (by simp [mem])) (injective.mono ?_) chain ?_)
      (.cons agree .nil)
    · exact Set.union_subset_union (fun _ => hashes) (fun _ => hashes)
    · rw [text_injective heads]
      exact chained'

/-! ## Stray bytes -/

theorem canonical_put (b : Bool) (r : Record) : lib.canonical (r.put b) = lib.canonical r := by
  have roles : ∀ rs : List GoString, rolesJson (rs.map (map (.put b))) = rolesJson rs := by
    rintro (- | ⟨r, rs⟩)
    · rfl
    · simp only [rolesJson, map_cons, flatMap_map, quote_put]
  have actor : actorJson (r.put b).actor = actorJson r.actor := by
    unfold Record.put
    cases r.actor with
    | none => rfl
    | some a => simp only [actorJson, map_some, quote_put, roles]
  rw [canonical, canonical, actor]
  simp only [Record.put, quote_put]

theorem verifyFrom_put (b : Bool) : lib.verifyFrom i prev (rs.map (.put b)) = .ok head ↔
    lib.verifyFrom i prev rs = .ok head := by
  induction rs generalizing i prev with
  | nil => rfl
  | cons r rs ih =>
    rw [map_cons, verifyFrom_cons, verifyFrom_cons, link, canonical_put]
    exact and_congr_right fun _ => ih

theorem hashes_put {b : Bool} {t : GoString} (hashed : lib.Hashes (rs.map (.put b)) t) :
    lib.Hashes rs t := by
  obtain ⟨before, r', after, prev, c, list, valid, wrote, rfl⟩ := hashed
  obtain ⟨old, rest, rfl, rfl, tail⟩ := map_eq_append_iff.mp list
  obtain ⟨r, new, rfl, rfl, rfl⟩ := map_eq_cons_iff.mp tail
  rw [canonical_put] at wrote
  exact ⟨old, r, new, prev, c, rfl, (verifyFrom_put b).mp valid, wrote, rfl⟩

/-- A list without a marked member is one that no map moves, if that is so for its members. -/
theorem all_iff_map {α β : Type} {q : α → Bool} {f : β → α → α}
    (one : ∀ a, q a ↔ ∀ b, f b a = a) (l : List α) : l.all q ↔ ∀ b, l.map (f b) = l := by
  induction l with
  | nil => simp
  | cons a l ih => simp only [all_cons, Bool.and_eq_true, one, ih, map_cons, cons.injEq, forall_and]

theorem whole_of_agree (agree : ∀ b, lib.Agree r (r.put b)) : r.whole := by
  have whole : ∀ s : GoString, s.whole ↔ ∀ b, s.map (.put b) = s := all_iff_map Piece.isRune_iff
  have actor : ∀ b, (r.put b).actor = r.actor := fun b => (agree b).actor.symm
  simp only [Record.whole, Bool.and_eq_true, whole]
  refine ⟨⟨⟨fun b => (agree b).id.symm, fun b => (agree b).type.symm⟩,
    fun b => (agree b).tenantId.symm⟩, ?_⟩
  unfold Record.put at actor
  revert actor
  rcases r.actor with - | ⟨subject, roles⟩
  · exact fun _ => rfl
  · simp only [map_some, some.injEq, Actor.mk.injEq, forall_and, Option.all_some, Bool.and_eq_true,
      whole, all_iff_map whole]
    exact ⟨And.left, And.right⟩

/-- Let a list of records verify, and let the digest be injective on the texts that are hashed for
it.  Every list, of any length, that verifies with the same head has the same records, up to the
compaction of their data, exactly if no string of the first list has a stray byte.  (The digest is
taken to be injective on the texts of both lists.) -/
theorem head_determines_records (lib : Library) (rs : List Record) (head : String)
    (injective : Set.InjOn lib.sha256Hex (lib.Hashes rs))
    (verified : lib.verifyChain rs = .ok head) :
    (∀ ss, Set.InjOn lib.sha256Hex (Set.union (lib.Hashes rs) (lib.Hashes ss)) →
      lib.verifyChain ss = .ok head → Forall₂ lib.Agree rs ss) ↔ ∀ r ∈ rs, r.whole := by
  constructor
  · intro determined r mem
    refine whole_of_agree fun b => (?_ : lib.Agree r (r.put b))
    have agree := determined (rs.map (.put b))
      (injective.mono (Set.union_subset subset_rfl fun _ => hashes_put))
      ((verifyFrom_put b).mpr verified)
    rw [forall₂_map_right_iff, forall₂_same] at agree
    exact agree r mem
  · intro whole ss injective verified'
    exact agree_of_head whole injective verified verified'

/-! ## Examples -/

def newYear : UtcTime where
  year := 2026
  month := 1
  day := 1
  hour := 0
  minute := 0
  second := 0

def first (lib : Library) (id : GoString) : Record :=
  let r : Record :=
    { sequence := 1, id, type := text "auth.login", tenantId := text "t"
      time := newYear }
  { r with hash := (lib.link "" r).getD "" }

theorem verifyChain_first (lib : Library) (id : GoString) :
    lib.verifyChain [first lib id] = .ok (first lib id).hash := by
  unfold verifyChain verifyChainFrom
  exact verifyFrom_cons.mpr ⟨rfl, rfl⟩

/-- The verification of one record hashes one text. -/
theorem hashes_first {lib : Library} {id t : GoString} (hashed : lib.Hashes [first lib id] t) :
    lib.canonical (first lib id) = some t := by
  obtain ⟨old, r, after, prev, c, list, valid, wrote, rfl⟩ := hashed
  cases old with
  | nil =>
    cases list
    cases valid
    exact wrote
  | cons b old => simp at list

/-- A digest that tells texts of different lengths apart, up to multiples of 65, and a compaction
that takes the blanks out. -/
def byLength : Library where
  sha256Hex t :=
    .ofList (replicate (t.length % 65) '1' ++ replicate (64 - t.length % 65) '0')
  compact d :=
    let c := d.filter (· ≠ .rune ' ')
    if c = [] then none else some c
  length_hex t := by
    simp only [String.toList_ofList, length_append, length_replicate]
    omega
  hex t c mem := by
    rw [String.toList_ofList] at mem
    rcases mem_append.mp mem with ones | zeros
    · rw [eq_of_mem_replicate ones]
      rfl
    · rw [eq_of_mem_replicate zeros]
      rfl
  compacted := by
    intro d c compacted
    simp only at compacted
    split at compacted
    · cases compacted
    · cases compacted
      refine ⟨‹_›, ?_⟩
      simp only [List.filter_filter, Bool.and_self]
      exact if_neg ‹_›

/-- The verification of two records hashes the text of the first, and that of the second after the
hash of the first. -/
theorem hashes_pair {t : GoString} (hashed : lib.Hashes [r, s] t) :
    lib.canonical r = some t ∨ (lib.canonical s).map (text r.hash ++ ·) = some t := by
  obtain ⟨old, r', after, prev, c, list, valid, wrote, rfl⟩ := hashed
  match old with
  | [] =>
    cases list
    cases valid
    exact .inl wrote
  | [_] =>
    cases list
    obtain ⟨-, last⟩ := verifyFrom_cons.mp valid
    cases last
    exact .inr (by rw [wrote]; rfl)
  | _ :: _ :: _ => simp at list

/-- A login, and the token after it. -/
def login : Record := first byLength (text "e1")

def token (streamSequence : Nat) (data : String) : Record :=
  let r : Record :=
    { sequence := 2, streamSequence, id := text "e2", type := text "auth.token"
      tenantId := text "t", time := newYear, actor := some { subject := text "alice" }
      data := text data }
  { r with hash := (byLength.link login.hash r).getD "" }

def dense : Record := token 2 "\x7b\"ttl\":60\x7d"

def spaced : Record := token 5 "\x7b \"ttl\": 60 \x7d"

theorem verifyChain_token {n : Nat} {data : String}
    (wrote : (byLength.canonical (token n data)).isSome) :
    byLength.verifyChain [login, token n data] = .ok (token n data).hash := by
  unfold verifyChain verifyChainFrom
  refine verifyFrom_cons.mpr ⟨rfl, ?_⟩
  refine verifyFrom_cons.mpr ⟨?_, rfl⟩
  obtain ⟨c, wrote⟩ := isSome_iff_exists.mp wrote
  have linked : byLength.link login.hash (token n data) =
      some (byLength.sha256Hex (text login.hash ++ c)) := by
    rw [link, wrote]
    rfl
  exact linked.trans (congrArg some (congrArg (·.getD "") linked).symm)

/-- Two chains whose payloads are spaced differently have one head, and so the same records. -/
theorem spacing_determined : ∃ head, byLength.verifyChain [login, dense] = .ok head ∧
    byLength.verifyChain [login, spaced] = .ok head ∧
      Forall₂ byLength.Agree [login, dense] [login, spaced] := by
  have same : byLength.canonical spaced = byLength.canonical dense := by decide +kernel
  have verified : byLength.verifyChain [login, dense] = .ok dense.hash :=
    verifyChain_token (by decide +kernel)
  have verified' : byLength.verifyChain [login, spaced] = .ok dense.hash :=
    verifyChain_token (by decide +kernel)
  have whole : login.whole ∧ dense.whole := by decide +kernel
  refine ⟨_, verified, verified', ?_⟩
  -- two texts are hashed, and their lengths tell them apart
  have apart : (byLength.canonical login).map byLength.sha256Hex ≠
      ((byLength.canonical dense).map (text login.hash ++ ·)).map byLength.sha256Hex := by
    decide +kernel
  have texts : ∀ t, Set.union (byLength.Hashes [login, dense]) (byLength.Hashes [login, spaced]) t →
      byLength.canonical login = some t ∨
        (byLength.canonical dense).map (text login.hash ++ ·) = some t := by
    rintro t (ht | ht)
    · exact hashes_pair ht
    · rw [← same]
      exact hashes_pair ht
  have injective : Set.InjOn byLength.sha256Hex
      (Set.union (byLength.Hashes [login, dense]) (byLength.Hashes [login, spaced])) := by
    intro t ht u hu digest
    rcases texts t ht with ht | ht <;> rcases texts u hu with hu | hu
    · exact some.inj (ht.symm.trans hu)
    · rw [ht, hu, Option.map_some, Option.map_some, digest] at apart
      exact absurd rfl apart
    · rw [ht, hu, Option.map_some, Option.map_some, digest] at apart
      exact absurd rfl apart
    · exact some.inj (ht.symm.trans hu)
  refine (head_determines_records byLength [login, dense] _
    (injective.mono fun _ => .inl) verified).mpr ?_ _ injective verified'
  simpa using whole

/-- Whatever the digest, two records under the ids `"\xff"` and `"\xfe"` verify with one head, over
one text. -/
theorem stray_ids_share_head : ∃ i j : GoString, i ≠ j ∧
    ∀ lib : Library, ∃ (rs ss : List Record) (head : String),
      Set.InjOn lib.sha256Hex (Set.union (lib.Hashes rs) (lib.Hashes ss)) ∧
        lib.verifyChain rs = .ok head ∧ lib.verifyChain ss = .ok head ∧
        rs.map Record.id = [i] ∧ ss.map Record.id = [j] := by
  refine ⟨[.stray 0xff], [.stray 0xfe], by decide, fun lib => ?_⟩
  refine ⟨[first lib [.stray 0xff]], [first lib [.stray 0xfe]], _, ?_, verifyChain_first lib _,
    verifyChain_first lib _, rfl, rfl⟩
  have same : lib.canonical (first lib [.stray 0xff]) = lib.canonical
    (first lib [.stray 0xfe]) := rfl
  have one : ∀ t, Set.union (lib.Hashes [first lib [.stray 0xff]])
      (lib.Hashes [first lib [.stray 0xfe]]) t →
        lib.canonical (first lib [.stray 0xff]) = some t := by
    rintro t (ht | ht)
    · exact hashes_first ht
    · exact same.trans (hashes_first ht)
  intro t ht u hu _
  exact some.inj ((one t ht).symm.trans (one u hu))

end Library

end Trustctl.Audit
