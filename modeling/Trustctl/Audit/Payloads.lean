import Trustctl.Systems.JsonText

/-!
# Payloads written with quoted verbs

Emitters build payloads with `fmt.Sprintf` and `%q`, which quotes a string for Go; the readers of
the log embed the payload as raw JSON, which `encoding/json` checks.

* `readString_quote`: what a reader of JSON makes of a string that was quoted for Go;
* `payloads_readable_iff`: payloads can be read back, and searches, exports and backups succeed,
  exactly if every rune of the strings is one on which the two notations agree.
-/

namespace Trustctl.Audit.Payloads

open Systems List

/-! ## Quoting -/

/-- `strconv.IsPrint`, with the tables of the library for what is not ASCII. -/
def isPrint (table : Char → Bool) (c : Char) : Bool :=
  if c.toNat < 0x80 then 0x20 ≤ c.toNat && c.toNat < 0x7f else table c

/-- The runes that Go escapes with a letter of their own. -/
def letters : List (Char × Char) :=
  [('\x07', 'a'), ('\x08', 'b'), ('\x0c', 'f'), ('\n', 'n'), ('\r', 'r'), ('\t', 't'),
    ('\x0b', 'v')]

/-- `strconv.appendEscapedRune`. -/
def escapeRune (table : Char → Bool) (c : Char) : List Char :=
  if c = '"' ∨ c = '\\' then ['\\', c]
  else if isPrint table c then [c]
  else
    match letters.find? fun e => e.1 = c with
    | some e => ['\\', e.2]
    | none =>
      if c.toNat < 0x20 ∨ c.toNat = 0x7f then '\\' :: 'x' :: (hex4 c.toNat).drop 2
      else if c.toNat < 0x10000 then '\\' :: 'u' :: hex4 c.toNat
      else '\\' :: 'U' :: (hex4 (c.toNat / 0x10000) ++ hex4 c.toNat)

/-- The verb `%q`. -/
def quoted (table : Char → Bool) (s : String) : List Char :=
  '"' :: (s.toList.flatMap (escapeRune table) ++ ['"'])

/-! ## Reading -/

def hexDigit (c : Char) : Option Nat := "0123456789abcdef".toList.idxOf? c.toLower

/-- A rune in front of what is read. -/
def push (c : Char) (read : Option (List Char × List Char)) : Option (List Char × List Char) :=
  read.map fun p => (c :: p.1, p.2)

/-- A JSON string behind its opening quote, and what follows it. -/
def readString : List Char → Option (List Char × List Char)
  | '"' :: x => some ([], x)
  | '\\' :: 'u' :: a :: b :: c :: d :: x => do
    let n := (((← hexDigit a) * 16 + (← hexDigit b)) * 16 + (← hexDigit c)) * 16 + (← hexDigit d)
    push (Char.ofNat n) (readString x)
  | '\\' :: l :: x => do
    let e ← (('/', '/') :: shorts).find? fun e => e.2 = l
    push e.1 (readString x)
  | c :: x => if c = '\\' ∨ c.toNat < 0x20 then none else push c (readString x)
  | [] => none

/-- The two notations agree on the rune. -/
def agrees (table : Char → Bool) (c : Char) : Bool :=
  isPrint table c || ['\x08', '\x0c', '\n', '\r', '\t'].contains c ||
    0x80 ≤ c.toNat && c.toNat < 0x10000

variable {table : Char → Bool}

theorem hexDigit_digitChar (n : Nat) : hexDigit (Nat.digitChar (n % 16)) = some (n % 16) := by
  have all : ∀ n : Fin 16, hexDigit (Nat.digitChar n) = some n.1 := by decide
  exact all ⟨n % 16, Nat.mod_lt _ (by decide)⟩

theorem readString_escapeRune (c : Char) (x : List Char) : readString (escapeRune table c ++ x) =
      if agrees table c then push c (readString x) else none := by
  unfold escapeRune
  split
  next quote => rcases quote with rfl | rfl <;> rfl
  next other =>
    obtain ⟨mark, back⟩ := not_or.mp other
    split
    next print =>
      have shown : ¬ c.toNat < 0x20 := by grind [isPrint]
      simp [readString, back, agrees, print, shown]
    next unprintable =>
      split
      next e letter =>
        have all : ∀ e ∈ letters, readString (['\\', e.2] ++ x) =
            if agrees table e.1 then push e.1 (readString x) else none := by
          simp only [letters, forall_mem_cons]
          exact ⟨rfl, rfl, rfl, rfl, rfl, rfl, rfl, forall_mem_nil _⟩
        have same : e.1 = c := by simpa using find?_some letter
        exact same ▸ all e (List.mem_of_find?_eq_some letter)
      next nums =>
        have unlettered : ['\x08', '\x0c', '\n', '\r', '\t'].contains c = false := by
          simp only [letters, find?_eq_none, forall_mem_cons] at nums
          grind
        split
        next control =>
          have refused : agrees table c = false := by grind [agrees]
          rw [refused]
          rfl
        next visible =>
          have high : 0x80 ≤ c.toNat := by grind [isPrint]
          split
          next small =>
            have agreed : agrees table c := by simp [agrees, high, small]
            have value : ((c.toNat / 4096 % 16 * 16 + c.toNat / 256 % 16) * 16 +
                c.toNat / 16 % 16) * 16 + c.toNat % 16 = c.toNat := by omega
            simp [readString, hex4, hexDigit_digitChar, value, agreed]
          next large =>
            have refused : agrees table c = false := by grind [agrees]
            rw [refused]
            rfl

/-- What a reader of JSON makes of a string that was quoted for Go. -/
theorem readString_quote (s x : List Char) : readString (s.flatMap (escapeRune table) ++ '"' :: x) =
      if s.all (agrees table) then some (s, x) else none := by
  induction s with
  | nil => rfl
  | cons c s ih =>
    rw [List.flatMap_cons, List.append_assoc, readString_escapeRune, ih, List.all_cons]
    cases agrees table c <;> cases s.all (agrees table) <;> rfl

/-! ## Events -/

/-- What the emitters log: a lease, a delivery to a target, an SSH certificate, an emergency bundle.
-/
inductive Operation
  | lease (id provider role backendRef state : String)
  | sync (key target : String)
  | sshIssued (kind keyId : String) (serial principals : Nat) (profile : String)
  | breakglass (requestId subject reason issuedAt : String) (approvals : Nat)

/-- The strings under the quoted verbs, each with the text of the format in front of it. -/
def Operation.parts : Operation → List (String × String)
  | .lease id provider role backendRef state =>
    [("\x7b\"lease\":", id), (",\"provider\":", provider), (",\"role\":", role),
      (",\"backend_ref\":", backendRef), (",\"state\":", state)]
  | .sync key target => [("\x7b\"key\":", key), (",\"target\":", target)]
  | .sshIssued kind keyId serial principals profile =>
    [("\x7b\"type\":", kind), (",\"key_id\":", keyId),
      (s!",\"serial\":{serial},\"principals\":{principals},\"profile\":", profile)]
  | .breakglass requestId subject reason issuedAt _ =>
    [("\x7b\"request_id\":", requestId), (",\"subject\":", subject), (",\"reason\":", reason),
      (",\"issued_at\":", issuedAt)]

/-- The text behind the last of them. -/
def Operation.last : Operation → String
  | .breakglass _ _ _ _ approvals => s!",\"approvals\":{approvals}\x7d"
  | _ => "\x7d"

def sprintf (table : Char → Bool) (last : String) (parts : List (String × String)) : List Char :=
  parts.flatMap (fun p => p.1.toList ++ quoted table p.2) ++ last.toList

/-- The strings, read as JSON in the order of the format. -/
def readParts (last : String) : List (String × String) → List Char → Option (List String)
  | [], x => if x = last.toList then some [] else none
  | p :: rest, x => do
    let (s, x) ← readString (← x.dropPrefix? (p.1.toList ++ ['"']))
    let ss ← readParts last rest x
    some (.ofList s :: ss)

/-- The strings of the payload of an event, if it is JSON. -/
def Operation.reread (table : Char → Bool) (op : Operation) : Option (List String) :=
  readParts op.last op.parts (sprintf table op.last op.parts)

/-- `encoding/json` on values that embed payloads as `json.RawMessage`: it fails on one that is not
JSON. -/
def marshals (table : Char → Bool) (ops : List Operation) : Bool :=
  ops.all fun op => (op.reread table).isSome

/-- The payloads that `Search` finds for a tenant, with what its query matches, ordinals included,
and its limit. -/
def search (log : List (String × Operation)) (tenantId : String) (matching : Operation × Nat → Bool)
    (limit : Nat) : List Operation :=
  let out := ((log.filter (·.1 = tenantId)).map Prod.snd).zipIdx 1 |>.filter matching
  (if limit = 0 then out else out.take limit).map Prod.fst

section Readers

variable (table : Char → Bool) (log : List (String × Operation))

/-- The records that `Search` found can be written as the answer to a request. -/
def searchAudit (tenantId : String) (matching : Operation × Nat → Bool) (limit : Nat) : Bool :=
  marshals table (search log tenantId matching limit)

/-- `Export` gets a bundle to sign. -/
def exportAudit (tenantId : String) (matching : Operation × Nat → Bool) (limit : Nat) : Bool :=
  marshals table (search log tenantId matching limit)

/-- The events up to the cut are written, each with an encoding of its own. -/
def writeLogWithKeyThrough (cut : Nat) : Bool :=
  (log.take cut).all fun e => marshals table [e.2]

end Readers

theorem readParts_sprintf (last : String) (parts : List (String × String)) :
    readParts last parts (sprintf table last parts) =
      if parts.all (fun p => p.2.toList.all (agrees table)) then some (parts.map Prod.snd)
      else none := by
  induction parts with
  | nil => simp [readParts, sprintf]
  | cons p rest ih =>
    have text : sprintf table last (p :: rest) = (p.1.toList ++ ['"']) ++
        (p.2.toList.flatMap (escapeRune table) ++ '"' :: sprintf table last rest) := by
      simp [sprintf, quoted]
    rw [text, readParts, List.dropPrefix?_append_of_beq _ (beq_self_eq_true _)]
    simp only [Option.bind_eq_bind, Option.bind_some, readString_quote, List.all_cons]
    by_cases agreed : p.2.toList.all (agrees table) = true
    · simp only [agreed, if_true, Option.bind_some, ih, Bool.true_and]
      split <;> simp
    · simp [agreed]

theorem mem_search {log : List (String × Operation)} {tenantId : String} {limit : Nat}
    {matching : Operation × Nat → Bool} {op : Operation}
    (found : op ∈ search log tenantId matching limit) : ∃ e ∈ log, e.2 = op := by
  obtain ⟨p, mem, rfl⟩ := List.mem_map.mp found
  have kept : p ∈ (((log.filter (·.1 = tenantId)).map Prod.snd).zipIdx 1).filter matching := by
    split at mem
    · exact mem
    · exact List.mem_of_mem_take mem
  have owned := List.fst_mem_of_mem_zipIdx (List.mem_of_mem_filter kept)
  obtain ⟨e, mem, same⟩ := List.mem_map.mp owned
  exact ⟨e, List.mem_of_mem_filter mem, same⟩

/-- Payloads are read back as they were given, and the answers for every tenant and query and every
backup succeed, exactly if the two notations agree on every rune of the strings. -/
theorem payloads_readable_iff (table : Char → Bool) (log : List (String × Operation)) :
    ((∀ e ∈ log, e.2.reread table = some (e.2.parts.map Prod.snd)) ∧
        (∀ τ matching limit, searchAudit table log τ matching limit = true ∧
          exportAudit table log τ matching limit = true) ∧
        ∀ cut, writeLogWithKeyThrough table log cut = true) ↔
      ∀ e ∈ log, ∀ p ∈ e.2.parts, ∀ c ∈ p.2.toList, agrees table c = true := by
  have each (e : String × Operation) : e.2.reread table = some (e.2.parts.map Prod.snd) ↔
      ∀ p ∈ e.2.parts, ∀ c ∈ p.2.toList, agrees table c = true := by
    simp [Operation.reread, readParts_sprintf]
  simp only [← each]
  refine ⟨fun read => read.1, fun read => ?_⟩
  have sought (τ : String) (matching : Operation × Nat → Bool) (limit : Nat) :
      marshals table (search log τ matching limit) = true := by
    refine List.all_eq_true.mpr fun op found => ?_
    obtain ⟨e, mem, rfl⟩ := mem_search found
    rw [read e mem]
    rfl
  refine ⟨read, fun τ matching limit => ⟨sought .., sought ..⟩, fun cut => ?_⟩
  refine List.all_eq_true.mpr fun e mem => ?_
  rw [marshals, List.all_cons, read e (List.mem_of_mem_take mem)]
  rfl

/-- A role with the bell, which JSON has no escape `\a` for. -/
theorem bell_unreadable : ∃ role : String, ∀ table,
    let log := [("t", .lease "1" "db" role "r" "active")]
    searchAudit table log "t" (fun _ => true) 0 = false ∧
      exportAudit table log "t" (fun _ => true) 0 = false ∧
      writeLogWithKeyThrough table log 1 = false :=
  ⟨"\x07", fun _ => ⟨rfl, rfl, rfl⟩⟩

end Trustctl.Audit.Payloads
