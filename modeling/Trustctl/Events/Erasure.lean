import Trustctl.Events.Log
import Trustctl.Systems.Checks
import Mathlib.Data.List.Forall2

/-!
# Erasure of a subject from the log

`PseudonymizeSubject` reads the whole stream, deletes and purges it, and publishes every
envelope again.  Each call to the stream takes effect or fails without one; which of them fail
is a parameter.

* `erasure_keeps_events_iff` : no event is lost, doubled or moved exactly when, once the first
  deletion of a rewrite has taken effect, none of its later calls fails.
-/

namespace Trustctl.Events

open List Systems Store

/-! ## Replacing the subject -/

section Replace

variable {α : Type} [DecidableEq α]

/-- `ReplaceAll` of a pattern that is not empty; `skip` counts the rest of a match. -/
def replaceFrom (old new : List α) : Nat → List α → List α
  | _, [] => []
  | skip + 1, _ :: rest => replaceFrom old new skip rest
  | 0, c :: rest =>
    if old.isPrefixOf (c :: rest) then new ++ replaceFrom old new (old.length - 1) rest
    else c :: replaceFrom old new 0 rest

def replaceAll (s old new : List α) : List α := replaceFrom old new 0 s

end Replace

def replaceText (s old new : String) : String :=
  .ofList (replaceAll s.toList old.toList new.toList)

/-- A value that `json.Unmarshal` makes of some bytes. -/
inductive Json
  | text (s : String)
  | array (items : List Json)
  | object (fields : List (String × Json))
  /-- A number, a truth value or null. -/
  | other (raw : String)

mutual

/-- `pseudonymizeValue`: the value after the call, and whether it changed. -/
def pseudonymizeValue (subject mark : String) : Json → Json × Bool
  | .text s => (.text (replaceText s subject mark), replaceText s subject mark ≠ s)
  | .array items =>
    (.array (pseudonymizeItems subject mark items).1, (pseudonymizeItems subject mark items).2)
  | .object fields =>
    (.object (pseudonymizeFields subject mark fields).1, (pseudonymizeFields subject mark fields).2)
  | .other raw => (.other raw, false)

def pseudonymizeItems (subject mark : String) : List Json → List Json × Bool
  | [] => ([], false)
  | v :: rest =>
    ((pseudonymizeValue subject mark v).1 :: (pseudonymizeItems subject mark rest).1,
      (pseudonymizeValue subject mark v).2 || (pseudonymizeItems subject mark rest).2)

def pseudonymizeFields (subject mark : String) : List (String × Json) → List (String × Json) × Bool
  | [] => ([], false)
  | (k, v) :: rest =>
    ((k, (pseudonymizeValue subject mark v).1) :: (pseudonymizeFields subject mark rest).1,
      (pseudonymizeValue subject mark v).2 || (pseudonymizeFields subject mark rest).2)

end

/-- What the code around the log supplies. -/
structure Platform where
  digest : Digest
  /-- `json.Unmarshal` and `json.Marshal` of a payload. -/
  unmarshal : List Byte → Option Json
  marshal : Json → Option (List Byte)
  /-- The subject lane the router gives a tenant. -/
  lane : String → Except String String

variable (env : Platform)

def pseudonymizeDataBytes (data : List Byte) (subject mark : String) : List Byte × Bool :=
  let plain := replaceAll data (utf8 subject) (utf8 mark)
  match env.unmarshal data with
  | none => (plain, plain ≠ data)
  | some v =>
    match pseudonymizeValue subject mark v with
    | (_, false) => (plain, plain ≠ data)
    | (v', true) =>
      match env.marshal v' with
      | some out => (out, true)
      | none => (plain, plain ≠ data)

/-- The payload of an envelope: its data and its actor. -/
abbrev Payload := List Byte × Option Actor

def pseudonymizeActor (actor : Option Actor) (subject mark : String) : Option Actor × Bool :=
  match actor with
  | none => (none, false)
  | some a =>
    let next := replaceText a.subject subject mark
    if next = a.subject then (some a, false) else (some { a with subject := next }, true)

/-- The payload of a tenant's event after `pseudonymizeStoredSubject`, and whether it changed. -/
def pseudonymizePayload (tenantId subject : String) (payload : Payload) : Payload × Bool :=
  let mark := placeholder (subjectRef env.digest tenantId subject)
  let actor := pseudonymizeActor payload.2 subject mark
  let data := if payload.1.isEmpty then (payload.1, false)
    else match pseudonymizeDataBytes env payload.1 subject mark with
      | (next, true) => (next, true)
      | (_, false) => (payload.1, false)
  ((data.1, actor.1), actor.2 || data.2)

def pseudonymizeStoredSubject (e : StoredEvent) (subject : String) : StoredEvent × Bool :=
  let next := pseudonymizePayload env e.tenantId subject (e.data, e.actor)
  ({ e with data := next.1.1, actor := next.1.2 }, next.2)

/-! ## The call -/

/-- The calls `PseudonymizeSubject` makes to the stream. -/
inductive Call
  | info
  | get (seq : Nat)
  | delete (seq : Nat)
  | purge
  | publish (i : Nat)
deriving DecidableEq

variable (outcome : Call → Except String Unit)

/-- An envelope of another tenant stays as it is. -/
def updated (tenantId subject : String) (e : StoredEvent) : StoredEvent × Bool :=
  if e.tenantId = tenantId then pseudonymizeStoredSubject env e subject else (e, false)

/-- The loop that reads the stream: the envelopes to publish again, with their old numbers, and
whether one of them changed. -/
def readStream (tenantId subject : String) (s : Stream Message) :
    List Nat → Except String (List (Nat × StoredEvent) × Bool)
  | [] => .ok ([], false)
  | seq :: rest =>
    match outcome (.get seq) with
    | .error text => .error (s!"events: pseudonymize get seq {seq}: " ++ text)
    | .ok _ =>
      match s.get seq with
      | none => readStream tenantId subject s rest
      | some m =>
        match m.data with
        | .error text => .error (s!"events: pseudonymize decode seq {seq}: " ++ text)
        | .ok e => (readStream tenantId subject s rest).map fun read =>
            ((seq, (updated env tenantId subject e).1) :: read.1,
              (updated env tenantId subject e).2 || read.2)

def trimDots (s : String) : String :=
  .ofList ((s.toList.dropWhile (· = '.')).reverse.dropWhile (· = '.')).reverse

def laneToken (token : List Char) : Bool :=
  !token.isEmpty && token.all fun c => c.isAlphanum || c = '_' || c = '-'

/-- `tenancy.EventSubject` with the prefix of the log. -/
def eventSubject (tenantId type : String) : Except String String :=
  match env.lane tenantId with
  | .error text => .error ("tenancy: resolve JetStream route for " ++ tenantId ++ ": " ++ text)
  | .ok lane =>
    if trimDots type = "" then .error "tenancy: event subject requires prefix and event type"
    else if lane = "" then .ok ("events." ++ trimDots type)
    else if (lane.toList.splitOn '.').all laneToken then
      .ok ("events." ++ lane ++ "." ++ trimDots type)
    else .error ("tenancy: refusing malformed JetStream subject lane \"" ++ lane ++ "\"")

def envelopes : List (Nat × StoredEvent) → Except String (List Message)
  | [] => .ok []
  | (_, e) :: rest =>
    match eventSubject env e.tenantId e.type with
    | .error text => .error text
    | .ok subject => (envelopes rest).map (⟨subject, .ok e⟩ :: ·)

def deleteAll : List Nat → Stream Message → Stream Message × Except String Unit
  | [], s => (s, .ok ())
  | seq :: rest, s =>
    match outcome (.delete seq) with
    | .error text => (s, .error (s!"events: pseudonymize secure-delete seq {seq}: " ++ text))
    | .ok _ => deleteAll rest (s.delete seq)

/-- Publish some messages; `i` counts them. -/
def publishAll (i : Nat) : List Message → Stream Message → Stream Message × Except String Unit
  | [], s => (s, .ok ())
  | m :: rest, s =>
    match outcome (.publish i) with
    | .error text => (s, .error (s!"events: pseudonymize republish event {i}: " ++ text))
    | .ok _ => publishAll (i + 1) rest (s.publish m)

/-- What the call does to the stream once it has read it. -/
def rewriteStream (seqs : List Nat) (messages : List Message) (s : Stream Message) :
    Stream Message × Except String Unit :=
  match deleteAll outcome seqs s with
  | (s, .error text) => (s, .error text)
  | (s, .ok _) =>
    match outcome .purge with
    | .error text => (s, .error ("events: pseudonymize purge stream: " ++ text))
    | .ok _ => publishAll outcome 1 messages s.purge

def pseudonymizeSubject (tenantId subject : String) (s : Stream Message) :
    Stream Message × Except String Unit :=
  if tenantId = "" then
    (s, .error "events: subject pseudonymization requires tenant_id (AN-1)")
  else if trimSpace subject = "" then
    (s, .error "events: subject pseudonymization requires subject")
  else
    match outcome .info with
    | .error text => (s, .error ("events: pseudonymize stream info: " ++ text))
    | .ok _ =>
      if s.lastSeq = 0 then (s, .ok ())
      else
        match readStream env outcome tenantId (trimSpace subject) s s.sequences with
        | .error text => (s, .error text)
        | .ok (_, false) => (s, .ok ())
        | .ok (stored, true) =>
          match envelopes env stored with
          | .error text => (s, .error text)
          | .ok messages => rewriteStream outcome (stored.map Prod.fst) messages s

/-! ## The property and the condition -/

/-- The event is still the same, with its payload as it was or pseudonymised. -/
structure SameEvent (subject : String) (e e' : Event) : Prop where
  id : e'.id = e.id
  type : e'.type = e.type
  tenantId : e'.tenantId = e.tenantId
  time : e'.time = e.time
  payload : (e'.data, e'.actor) = (e.data, e.actor) ∨
    (e'.data, e'.actor) = (pseudonymizePayload env e.tenantId subject (e.data, e.actor)).1

/-- The second stream replays as the first one, event by event. -/
structure KeepsEvents (subject : String) (s s' : Stream Message) : Prop where
  events : Forall₂ (SameEvent env subject) (replay s).1 (replay s').1
  error : (replay s').2 = (replay s).2

/-- The messages are the envelopes of these events. -/
def Decodes (ms : List (Nat × Message)) (es : List (Nat × StoredEvent)) : Prop :=
  ms.map (fun m => (m.1, m.2.data)) = es.map fun e => (e.1, .ok e.2)

/-- The call finds something to replace and nothing in its way before it starts to rewrite the
stream. -/
structure Rewrites (tenantId subject : String) (s : Stream Message)
    (es : List (Nat × StoredEvent)) : Prop where
  tenant : tenantId ≠ ""
  named : trimSpace subject ≠ ""
  info : outcome .info = .ok ()
  read : ∀ seq ∈ s.sequences, outcome (.get seq) = .ok ()
  decodes : Decodes s.messages es
  mentions : ∃ e ∈ es, e.2.tenantId = tenantId ∧
    (pseudonymizeStoredSubject env e.2 (trimSpace subject)).2
  routed : ∀ e ∈ es, ∃ lane, eventSubject env e.2.tenantId e.2.type = .ok lane

/-- The calls that rewrite a stream with some messages, in their order. -/
def rewriteCalls (seqs : List Nat) : List Call :=
  seqs.map .delete ++ .purge :: (range' 1 seqs.length).map .publish

/-- Once the first deletion has taken effect, no later call fails. -/
def Uninterrupted (seqs : List Nat) : Prop :=
  (∀ first ∈ (rewriteCalls seqs).head?, outcome first = .ok ()) →
    ∀ call ∈ rewriteCalls seqs, outcome call = .ok ()

/-! ## Reading -/

variable {env outcome} {tenantId subject : String} {s : Stream Message}

theorem updated_of_mentions {e : StoredEvent} : (updated env tenantId subject e).2 ↔
      e.tenantId = tenantId ∧ (pseudonymizeStoredSubject env e subject).2 := by
  unfold updated
  split
  case isTrue own => simp [own]
  case isFalse other => simp [other]

theorem readStream_ok {seqs : List Nat} {kept : List (Nat × StoredEvent)} {diff : Bool} :
    readStream env outcome tenantId subject s seqs = .ok (kept, diff) ↔
      (∀ seq ∈ seqs, outcome (.get seq) = .ok ()) ∧
        ∃ es, Decodes (seqs.filterMap fun seq => (s.get seq).map (seq, ·)) es ∧
          kept = es.map (fun e => (e.1, (updated env tenantId subject e.2).1)) ∧
          diff = es.any fun e => (updated env tenantId subject e.2).2 := by
  induction seqs generalizing kept diff with
  | nil =>
    constructor
    · intro read
      cases read
      exact ⟨nofun, [], rfl, rfl, rfl⟩
    · rintro ⟨-, es, dec, rfl, rfl⟩
      cases es with
      | nil => rfl
      | cons e more => cases dec
  | cons seq rest ih =>
    rw [readStream, forall_mem_cons]
    cases asked : outcome (.get seq) with
    | error text => simp
    | ok _ =>
      rw [filterMap_cons]
      cases found : s.get seq with
      | none => simpa using ih
      | some m =>
        dsimp only [Option.map_some]
        cases data : m.data with
        | error text =>
          refine iff_of_false nofun ?_
          rintro ⟨-, es, dec, -⟩
          cases es with
          | nil => cases dec
          | cons e more =>
            obtain ⟨first, -⟩ := cons.inj dec
            obtain ⟨-, same⟩ := Prod.mk.inj first
            cases data.symm.trans same
        | ok e =>
          constructor
          · intro read
            obtain ⟨⟨later, any⟩, read', result⟩ := map_eq_ok.mp read
            obtain ⟨asked', es, dec, rfl, rfl⟩ := ih.mp read'
            cases result
            refine ⟨⟨rfl, asked'⟩, (seq, e) :: es, ?_, rfl, rfl⟩
            exact congrArg₂ cons (congrArg (Prod.mk seq) data) dec
          · rintro ⟨⟨-, asked'⟩, es, dec, rfl, rfl⟩
            cases es with
            | nil => cases dec
            | cons e' more =>
              obtain ⟨first, decodes'⟩ := cons.inj dec
              obtain ⟨number, same⟩ := Prod.mk.inj first
              rw [data] at same
              cases same
              cases number
              rw [ih.mpr ⟨asked', more, decodes', rfl, rfl⟩]
              rfl

variable {es : List (Nat × StoredEvent)}

theorem envelopes_ok {messages : List Message} (made : envelopes env es = .ok messages) :
    messages.map (fun m => m.data) = es.map fun e => .ok e.2 := by
  induction es generalizing messages with
  | nil =>
    cases made
    rfl
  | cons e rest ih =>
    rw [envelopes] at made
    cases routed : eventSubject env e.2.tenantId e.2.type with
    | error text =>
      rw [routed] at made
      cases made
    | ok lane =>
      rw [routed] at made
      obtain ⟨later, made', rfl⟩ := map_eq_ok.mp made
      exact congrArg₂ cons rfl (ih made')

theorem envelopes_routed : (∃ messages, envelopes env es = .ok messages) ↔
      ∀ e ∈ es, ∃ lane, eventSubject env e.2.tenantId e.2.type = .ok lane := by
  induction es with
  | nil => simp [envelopes]
  | cons e rest ih =>
    rw [forall_mem_cons, ← ih, envelopes]
    cases eventSubject env e.2.tenantId e.2.type with
    | error text => simp
    | ok lane =>
      cases envelopes env rest with
      | error | ok => simp [Except.map]

/-! ## Rewriting -/

section Rewriting

variable {seqs : List Nat} {messages : List Message}

theorem deleteAll_ok (seqs : List Nat) (s : Stream Message) :
    (deleteAll outcome seqs s).2 = .ok () ↔ ∀ seq ∈ seqs, outcome (.delete seq) = .ok () := by
  induction seqs generalizing s with
  | nil => exact iff_of_true rfl nofun
  | cons seq rest ih =>
    rw [deleteAll, forall_mem_cons]
    cases outcome (.delete seq) with
    | error text => exact iff_of_false nofun (fun all => nomatch all.1)
    | ok _ =>
      rw [ih (s.delete seq)]
      exact (and_iff_right rfl).symm

theorem deleteAll_length_le (seqs : List Nat) (s : Stream Message) :
    (deleteAll outcome seqs s).1.messages.length ≤ s.messages.length := by
  induction seqs generalizing s with
  | nil => exact .refl
  | cons seq rest ih =>
    rw [deleteAll]
    cases outcome (.delete seq) with
    | error text => exact .refl
    | ok _ => exact Nat.le_trans (ih (s.delete seq)) (length_filter_le ..)

variable {seq : Nat} {rest : List Nat}

variable {i : Nat}

theorem publishAll_ok (all : ∀ j ∈ range' i messages.length,
    outcome (.publish j) = .ok ()) (s : Stream Message) :
    (publishAll outcome i messages s).1.messages.map Prod.snd =
      s.messages.map Prod.snd ++ messages := by
  induction messages generalizing i s with
  | nil => exact (append_nil _).symm
  | cons m rest ih =>
    obtain ⟨first, later⟩ := forall_mem_cons.mp all
    rw [publishAll, first]
    rw [ih later (s.publish m)]
    simp [Stream.publish]

theorem publishAll_length_lt {j : Nat} (lt : j ∈ range' i messages.length)
    (failed : outcome (.publish j) ≠ .ok ()) (s : Stream Message) :
    (publishAll outcome i messages s).1.messages.length < s.messages.length + messages.length := by
  induction messages generalizing i s with
  | nil => cases lt
  | cons m rest ih =>
    rw [publishAll]
    cases called : outcome (.publish i) with
    | error text =>
      simp
    | ok _ =>
      have more : (s.publish m).messages.length = s.messages.length + 1 := length_append
      have later := ih ((mem_cons.mp lt).resolve_left ?_) (s.publish m)
      · rw [more] at later
        dsimp only
        rw [length_cons]
        omega
      · rintro rfl
        exact failed called

variable {m : Nat × Message}

theorem mem_rewriteCalls {call : Call} : call ∈ rewriteCalls seqs ↔
    (∃ seq ∈ seqs, call = .delete seq) ∨ call = .purge ∨
      ∃ i ∈ range' 1 seqs.length, call = .publish i := by
  simp only [rewriteCalls, mem_append, mem_cons, mem_map, eq_comm]

theorem rewriteStream_ok (length : messages.length = seqs.length)
    (all : ∀ call ∈ rewriteCalls seqs, outcome call = .ok ()) (s : Stream Message) :
    (rewriteStream outcome seqs messages s).1.messages.map Prod.snd = messages := by
  have deleted := (deleteAll_ok seqs s).mpr fun seq mem =>
    all _ (mem_rewriteCalls.mpr (.inl ⟨seq, mem, rfl⟩))
  have purged := all .purge (mem_rewriteCalls.mpr (.inr (.inl rfl)))
  unfold rewriteStream
  split
  case h_1 text failed =>
    rw [failed] at deleted
    cases deleted
  case h_2 s' _ _ =>
    rw [purged]
    refine publishAll_ok ?_ s'.purge
    rw [length]
    exact fun i mem => all _ (mem_rewriteCalls.mpr (.inr (.inr ⟨i, mem, rfl⟩)))

theorem rewriteStream_length_lt (length : messages.length = (seq :: rest).length)
    (all : s.messages.length = (seq :: rest).length) (first : outcome (.delete seq) = .ok ())
    (kept : seq ∈ s.messages.map Prod.fst)
    (failed : ∃ call ∈ rewriteCalls (seq :: rest), outcome call ≠ .ok ()) :
    (rewriteStream outcome (seq :: rest) messages s).1.messages.length < s.messages.length := by
  -- the first deletion takes a message away for good
  have shorter : (deleteAll outcome (seq :: rest) s).1.messages.length < s.messages.length := by
    rw [deleteAll, first]
    refine Nat.lt_of_le_of_lt (deleteAll_length_le rest (s.delete seq)) ?_
    obtain ⟨m, mem, rfl⟩ := mem_map.mp kept
    exact length_filter_lt_length_iff_exists.mpr ⟨m, mem, by simp⟩
  unfold rewriteStream
  split
  case h_1 s' text stopped =>
    rw [stopped] at shorter
    exact shorter
  case h_2 s' _ deleted =>
    rw [deleted] at shorter
    cases purged : outcome .purge with
    | error text => exact shorter
    | ok _ =>
      obtain ⟨call, mem, failed⟩ := failed
      rcases mem_rewriteCalls.mp mem with ⟨seq', lt, rfl⟩ | rfl | ⟨i, lt, rfl⟩
      · have finished : (deleteAll outcome (seq :: rest) s).2 = .ok () := by rw [deleted]
        exact absurd ((deleteAll_ok _ s).mp finished seq' lt) failed
      · exact absurd purged failed
      · rw [← length] at lt
        have lost := publishAll_length_lt lt failed s'.purge
        rw [all, ← length]
        simpa [Stream.purge] using lost

/-- If the first deletion fails nothing has happened. -/
theorem rewriteStream_of_first_failed (failed : outcome (.delete seq) ≠ .ok ()) :
    (rewriteStream outcome (seq :: rest) messages s).1 = s := by
  cases called : outcome (.delete seq) with
  | ok _ => exact absurd called failed
  | error text =>
    rw [rewriteStream, deleteAll, called]

end Rewriting

/-! ## The whole call -/

theorem updated_tenantId (e : StoredEvent) :
    (updated env tenantId subject e).1.tenantId = e.tenantId := by
  unfold updated
  split <;> rfl

theorem updated_type (e : StoredEvent) : (updated env tenantId subject e).1.type = e.type := by
  unfold updated
  split <;> rfl

/-- Rewriting does not change where an envelope is published. -/
theorem envelopes_updated :
    (∃ messages, envelopes env (es.map fun e => (e.1, (updated env tenantId subject e.2).1)) =
      .ok messages) ↔ ∀ e ∈ es, ∃ lane, eventSubject env e.2.tenantId e.2.type = .ok lane := by
  rw [envelopes_routed, forall_mem_map]
  simp only [updated_tenantId, updated_type]

/-- A call that rewrites publishes every envelope again, updated. -/
theorem pseudonymizeSubject_of_rewrites (maps : Rewrites env outcome tenantId subject s es) :
    ∃ messages : List Message, messages.map (fun m => m.data) =
        es.map (fun e => .ok (updated env tenantId (trimSpace subject) e.2).1) ∧
      pseudonymizeSubject env outcome tenantId subject s =
        rewriteStream outcome (es.map Prod.fst) messages s := by
  obtain ⟨tenant, named, info, asked, dec, ⟨e, mem, mentions⟩, routed⟩ := maps
  obtain ⟨messages, made⟩ := envelopes_updated.mpr routed
  have data := envelopes_ok made
  rw [map_map] at data
  refine ⟨messages, data, ?_⟩
  have started : s.lastSeq ≠ 0 := by
    intro zero
    have none : s.messages = [] := by
      refine eq_nil_iff_forall_not_mem.mpr fun m kept => ?_
      have := s.bounded m kept
      omega
    rw [Decodes, none] at dec
    rw [map_eq_nil_iff.mp dec.symm] at mem
    cases mem
  have diff : true = es.any fun e => (updated env tenantId (trimSpace subject) e.2).2 :=
    (any_eq_true.mpr ⟨e, mem, updated_of_mentions.mpr mentions⟩).symm
  rw [← Stream.read_eq_messages] at dec
  have read := readStream_ok.mpr ⟨asked, es, dec, rfl, diff⟩
  rw [pseudonymizeSubject, if_neg tenant, if_neg named, info]
  rw [if_neg started, read]
  dsimp only
  rw [made, map_map]
  rfl

/-- Where there is nothing to rewrite the stream stays as it is. -/
theorem pseudonymizeSubject_of_not_rewrites
    (idle : ∀ es, ¬ Rewrites env outcome tenantId subject s es) :
    (pseudonymizeSubject env outcome tenantId subject s).1 = s := by
  unfold pseudonymizeSubject
  split
  case isTrue => rfl
  case isFalse tenant =>
    split
    case isTrue => rfl
    case isFalse named =>
      split
      case h_1 => rfl
      case h_2 info =>
        split
        case isTrue => rfl
        case isFalse =>
          split
          case h_1 => rfl
          case h_2 => rfl
          case h_3 stored read =>
            split
            case h_1 => rfl
            case h_2 messages made =>
              obtain ⟨asked, es, dec, rfl, diff⟩ := readStream_ok.mp read
              rw [Stream.read_eq_messages] at dec
              obtain ⟨e, mem, mentions⟩ := any_eq_true.mp diff.symm
              refine absurd ?_ (idle es)
              exact ⟨tenant, named, info, asked, dec,
                ⟨e, mem, updated_of_mentions.mp mentions⟩, envelopes_updated.mp ⟨messages, made⟩⟩

theorem SameEvent.refl (subject : String) (e : Event) : SameEvent env subject e e :=
  ⟨rfl, rfl, rfl, rfl, .inl rfl⟩

theorem KeepsEvents.refl (subject : String) (s : Stream Message) : KeepsEvents env subject s s :=
  ⟨forall₂_same.mpr fun e _ => SameEvent.refl subject e, rfl⟩

theorem SameEvent.updated (e : StoredEvent) (seq seq' : Nat) :
    SameEvent env subject (e.toEvent seq) ((updated env tenantId subject e).1.toEvent seq') := by
  unfold Events.updated
  split
  case isTrue => exact ⟨rfl, rfl, rfl, rfl, .inr rfl⟩
  case isFalse => exact ⟨rfl, rfl, rfl, rfl, .inl rfl⟩

/-- Messages with the updated envelopes replay as the events did. -/
theorem collect_updated {ms : List (Nat × Message)}
    (data : ms.map (fun m => m.2.data) = es.map fun e => .ok (updated env tenantId subject e.2).1) :
    Forall₂ (SameEvent env subject) (es.map fun e => e.2.toEvent e.1) (collect ms).1 ∧
      (collect ms).2 = none := by
  induction ms generalizing es with
  | nil =>
    cases es with
    | nil => exact ⟨.nil, rfl⟩
    | cons e more => cases data
  | cons m rest ih =>
    cases es with
    | nil => cases data
    | cons e more =>
      obtain ⟨first, later⟩ := cons.inj data
      have first : m.2.data = .ok (updated env tenantId subject e.2).1 := first
      obtain ⟨evs, full⟩ := ih later
      rw [collect, first]
      exact ⟨.cons (SameEvent.updated e.2 _ _) evs, full⟩

/-- No event is lost, doubled or moved by `PseudonymizeSubject` exactly when every rewrite it
starts is uninterrupted. -/
theorem erasure_keeps_events_iff (env : Platform) (outcome : Call → Except String Unit)
    (tenantId subject : String) (s : Stream Message) :
    KeepsEvents env (trimSpace subject) s (pseudonymizeSubject env outcome tenantId subject s).1 ↔
      ∀ es, Rewrites env outcome tenantId subject s es →
        Uninterrupted outcome (es.map Prod.fst) := by
  constructor
  · intro keeps es maps first
    by_contra failed
    obtain ⟨messages, data, result⟩ := pseudonymizeSubject_of_rewrites maps
    have dec := maps.decodes
    have kept : s.messages.map Prod.fst = es.map Prod.fst := by
      have numbers := congrArg (map Prod.fst) dec
      rwa [map_map, map_map] at numbers
    have same : s.messages.length = es.length := by
      simpa using congrArg length kept
    have length : messages.length = es.length := by
      simpa using congrArg length data
    cases es with
    | nil =>
      obtain ⟨e, mem, -⟩ := maps.mentions
      cases mem
    | cons e more =>
      have shorter :
        (rewriteStream outcome ((e :: more).map Prod.fst) messages s).1.messages.length <
          s.messages.length := by
        refine rewriteStream_length_lt ?_ ?_ (first _ rfl) ?_ ?_
        · simpa using length
        · simpa using same
        · rw [kept]
          exact mem_cons_self
        · push Not at failed
          exact failed
      have count := keeps.events.length_eq
      rw [result, replay_eq, replay_eq, collect_eq dec] at count
      have fewer := collect_length_le
        (rewriteStream outcome ((e :: more).map Prod.fst) messages s).1.messages
      simp only [length_map] at count
      omega
  · intro full
    by_cases idle : ∀ es, ¬ Rewrites env outcome tenantId subject s es
    · rw [pseudonymizeSubject_of_not_rewrites idle]
      exact .refl ..
    · push Not at idle
      obtain ⟨es, maps⟩ := idle
      obtain ⟨messages, data, result⟩ := pseudonymizeSubject_of_rewrites maps
      rw [result]
      cases es with
      | nil =>
        obtain ⟨e, mem, -⟩ := maps.mentions
        cases mem
      | cons e more =>
        by_cases first : outcome (.delete e.1) = .ok ()
        · have length : messages.length = ((e :: more).map Prod.fst).length := by
            simpa using congrArg length data
          have rewritten := rewriteStream_ok length
            (full _ maps (fun call head => Option.some.inj head ▸ first)) s
          rw [← rewritten, map_map] at data
          obtain ⟨evs, full⟩ := collect_updated data
          constructor
          · rw [replay_eq, replay_eq, collect_eq maps.decodes]
            exact evs
          · rw [replay_eq, replay_eq, collect_eq maps.decodes]
            exact full
        · rw [map_cons, rewriteStream_of_first_failed first]
          exact .refl ..

/-- A platform without JSON payloads and subject lanes. -/
def plainPlatform : Platform where
  digest := ⟨id, id, id⟩
  unmarshal := fun _ => none
  marshal := fun _ => none
  lane := fun _ => .ok ""

def ownerCreated : StoredEvent where
  id := "e1"
  type := "owner.created"
  tenantId := "t"
  time := 1
  actor := some { subject := "alice" }

def ownerUpdated : StoredEvent where
  id := "e2"
  type := "owner.updated"
  tenantId := "t"
  time := 2

/-- Two events of one tenant, the first by the subject. -/
def twoEvents : Stream Message :=
  (Stream.empty.publish ⟨"events.owner.created", .ok ownerCreated⟩).publish
    ⟨"events.owner.updated", .ok ownerUpdated⟩

/-- Every call succeeds but the publication of the second event. -/
def secondPublishFails : Call → Except String Unit
  | .publish 2 => .error "nats: timeout"
  | _ => .ok ()

/-- The second event is deleted, and its new version is not published. -/
theorem failed_republish_loses_event : (replay twoEvents).1.map (fun e => e.id) = ["e1", "e2"] ∧
      (replay (pseudonymizeSubject plainPlatform secondPublishFails "t" "alice"
        twoEvents).1).1.map (fun e => e.id) = ["e1"] ∧
      ¬ KeepsEvents plainPlatform "alice" twoEvents
        (pseudonymizeSubject plainPlatform secondPublishFails "t" "alice" twoEvents).1 := by
  refine ⟨rfl, rfl, ?_⟩
  intro keeps
  have count := keeps.events.length_eq
  revert count
  decide

end Trustctl.Events
