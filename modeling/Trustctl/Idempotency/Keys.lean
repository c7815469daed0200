import Trustctl.Systems.Run
import Trustctl.Systems.Table
import Trustctl.Store.Values
import Mathlib.Data.List.Infix

/-!
# The namespace of idempotency keys

All users of `Idempotency.Do` share the rows of `idempotency_keys` of a tenant: a mutation under the
key that its client chose, the handlers of outbox messages under the key of the message behind a
word of their own, and callers that put a word before a key they compose.  The outbox has one
message of a key: a second enqueue of the key is taken for a retry of the first.

`World.step` is one request, one call, one enqueue or one delivery of a tenant.

* `scoped_inj`: keys of different guards or messages differ;
* `keys_apart`: as long as clients keep off the words of the guards and use a key for one operation,
  a stored response belongs to the operation, a row found by a guard to its effect, and a message
  found by an enqueue to the same cause;
* `revocation_skipped`: a client's key makes `handleRevoke` skip a revocation.
-/

namespace Trustctl.Idempotency.Keys

open List Store Systems

/-! ## Keys -/

/-- The handlers of messages that guard their effect by a key. -/
inductive Handler
  | issue
  | renew
  | revoke
  | deploy
  | pqcReissue
  | pqcRollback
  | discovery
  | externalIssue
deriving DecidableEq

/-- The callers that guard an effect by a key they compose. -/
inductive Caller
  | protocolIssue
  | protocolRevoke
  | agentRenew
  | enrollRenewal
  | ephemeralIssue
  /-- A SCIM request without a key. -/
  | scim
  | bootstrapTenant
  /-- `lifecycle.Manager.Revoke`. -/
  | certificateRevoke
deriving DecidableEq

inductive Guard
  | handler (h : Handler)
  | caller (c : Caller)
deriving DecidableEq

/-- The word that a guard puts before its key. -/
def Guard.word : Guard → String
  | .handler .issue => "issue:"
  | .handler .renew => "renew:"
  | .handler .revoke => "revoke:"
  | .handler .deploy => "deploy:"
  | .handler .pqcReissue => "pqc-migration-reissue:"
  | .handler .pqcRollback => "pqc-migration-rollback:"
  | .handler .discovery => "discovery:"
  | .handler .externalIssue => "external-ca.issue:"
  | .caller .protocolIssue => "protocol-issue:"
  | .caller .protocolRevoke => "protocol-revoke:"
  | .caller .agentRenew => "agent-renew:"
  | .caller .enrollRenewal => "agent-enroll-renewal:"
  | .caller .ephemeralIssue => "ephemeral-issue:"
  | .caller .scim => "scim:"
  | .caller .bootstrapTenant => "bootstrap-tenant:"
  | .caller .certificateRevoke => "revoke:"

/-- The guards of the server, which never calls `lifecycle.Manager.Revoke`. -/
def Guard.served : List Guard :=
  [.issue, .renew, .revoke, .deploy, .pqcReissue, .pqcRollback, .discovery, .externalIssue].map
      .handler ++
    [.protocolIssue, .protocolRevoke, .agentRenew, .enrollRenewal, .ephemeralIssue, .scim,
      .bootstrapTenant].map .caller

/-- The key that a guard consults. -/
def Guard.scoped (g : Guard) (key : String) : String := g.word ++ key

def transitionOutboxIdempotencyKey (eventId requestKey : String) : String :=
  let requestKey := trimSpace requestKey
  if requestKey = "" then eventId else "transition:" ++ requestKey

/-! ## The system -/

/-- An operation under a key of its client: its route, path and body, and the handler of the side
effect if it is a lifecycle transition. -/
structure Operation where
  id : Nat
  target : Option Handler := none
deriving DecidableEq

/-- Why a message was enqueued. -/
inductive Source
  /-- A transition that the API serves. -/
  | request (op : Operation)
  /-- Any other transition, by its event. -/
  | event (h : Handler) (id : String)
  /-- The deployment of a renewed credential, by identity and fingerprint. -/
  | credential (ref : String)
  /-- Any other message, for a handler with a guard or without. -/
  | other (h : Option Handler)
deriving DecidableEq

def Source.handler? : Source → Option Handler
  | .request op => op.target
  | .event h _ => some h
  | .credential _ => some .deploy
  | .other h => h

/-- The message is of a transition or a credential. -/
def Source.lifecycle : Source → Bool
  | .other _ => false
  | _ => true

structure Message where
  id : Nat
  key : String
  source : Source
deriving DecidableEq

/-- Who completed a row. -/
inductive Origin
  | operation (op : Operation)
  | message (h : Handler) (id : Nat)
  | call (c : Caller) (key : String)
deriving DecidableEq

/-- A tenant: its rows and messages, the keys that clients used, and who was answered by which row
or found which message. -/
structure World where
  rows : Table String Origin := []
  outbox : List Message := []
  used : List (String × Operation) := []
  answers : List (Operation × Origin) := []
  skips : List (Message × Origin) := []
  replays : List ((Caller × String) × Origin) := []
  merged : List (Source × Message) := []

/-- How the operation of a request ends: it fails before its transition, after it, or not. -/
inductive Fate
  | early
  | late
  | done
deriving DecidableEq

inductive Action
  /-- `mutate`, or a SCIM request with a key; the id is drawn for the event of a transition. -/
  | mutate (op : Operation) (key eventId : String) (fate : Fate)
  | call (c : Caller) (key : String) (fails : Bool)
  /-- A transition that is not served. -/
  | transition (h : Handler) (eventId : String)
  /-- `enqueueCredentialDeploy`. -/
  | enqueueCredentialDeploy (identityId fingerprint : String)
  /-- Any other enqueue, under any key. -/
  | enqueue (h : Option Handler) (key : String)
  /-- A delivery to the handler of the message. -/
  | deliver (m : Message) (fails : Bool)

namespace World

/-- The id of an event is a uuid: it has no colon, and no message was named by it before. -/
def fresh (w : World) (eventId : String) : Bool :=
  !eventId.toList.contains ':' && w.outbox.all fun m => m.key ≠ eventId

def enqueueIfAbsent (w : World) (s : Source) (key : String) : World :=
  match w.outbox.find? fun m => m.key = key with
  | some m => { w with merged := w.merged ++ [(s, m)] }
  | none => { w with outbox := w.outbox ++ [⟨w.outbox.length, key, s⟩] }

/-- The effect of an operation: a transition enqueues its message. -/
def perform (w : World) (op : Operation) (key eventId : String) : World :=
  if op.target.isSome then
    w.enqueueIfAbsent (.request op) (transitionOutboxIdempotencyKey eventId key)
  else w

def step (w : World) : Action → Option World
  | .mutate op key eventId fate =>
    if key = "" || !w.fresh eventId then none
    else
      let w := { w with used := w.used ++ [(key, op)] }
      match w.rows.get key with
      | some o => some { w with answers := w.answers ++ [(op, o)] }
      | none =>
        match fate with
        | .early => some w
        | .late => some (w.perform op key eventId)
        | .done =>
          let w := w.perform op key eventId
          some { w with
            rows := w.rows.put key (.operation op), answers := w.answers ++ [(op, .operation op)] }
  | .call c key fails =>
    match w.rows.get ((Guard.caller c).scoped key) with
    | some o => some { w with replays := w.replays ++ [((c, key), o)] }
    | none =>
      if fails then some w
      else some { w with rows := w.rows.put ((Guard.caller c).scoped key) (.call c key) }
  | .transition h eventId =>
    if w.fresh eventId then some (w.enqueueIfAbsent (.event h eventId) eventId) else none
  | .enqueueCredentialDeploy identityId fingerprint =>
    let ref := identityId ++ ":" ++ fingerprint
    some (w.enqueueIfAbsent (.credential ref) ("credential-deploy:" ++ ref))
  | .enqueue h key => some (w.enqueueIfAbsent (.other h) key)
  | .deliver m fails =>
    match m.source.handler? with
    | none => none
    | some h =>
      if m ∈ w.outbox then
        match w.rows.get ((Guard.handler h).scoped m.key) with
        | some o => some { w with skips := w.skips ++ [(m, o)] }
        | none =>
          if fails then some w
          else some { w with rows := w.rows.put ((Guard.handler h).scoped m.key) (.message h m.id) }
      else none

/-- The client keeps off the words of the guards, and uses keys that are the same but for white
space at their ends for one operation; the calls are those of the server; no other message takes a
key of a transition or a credential. -/
def tidy (w : World) : Action → Bool
  | .mutate op key _ _ =>
    (Guard.served.all fun g => !hasPrefix g.word key) &&
      w.used.all fun u => trimSpace u.1 ≠ trimSpace key || u.2 = op
  | .call c _ _ => Guard.served.contains (.caller c)
  | .enqueue _ key => !hasPrefix "transition:" key && !hasPrefix "credential-deploy:" key
  | _ => true

end World

theorem World.used_perform (w : World) (op : Operation) (key eid : String) :
    (w.perform op key eid).used = w.used := by
  unfold perform enqueueIfAbsent
  split
  · split <;> rfl
  · rfl

/-! ## Keys of different kinds -/

variable {w w' : World} {a : Action} {g g' : Guard} {h : Handler} {key key' word : String}
variable {s : Source} {m : Message} {o : Origin}

/-- Of two words with which a key begins, one begins with the other. -/
theorem word_of_append {word' : String} (same : word ++ key = word' ++ key') :
    word.toList <+: word'.toList ∨ word'.toList <+: word.toList := by
  have lists := congrArg String.toList same
  rw [String.toList_append, String.toList_append] at lists
  exact prefix_or_prefix_of_prefix (prefix_append word.toList key.toList)
    (lists ▸ prefix_append word'.toList key'.toList)

theorem Guard.handler_served (h : Handler) : .handler h ∈ Guard.served := by
  cases h <;> decide

/-- No word of a guard begins with that of another. -/
theorem Guard.word_apart : ∀ g ∈ Guard.served, ∀ g' ∈ Guard.served,
    g.word.toList <+: g'.word.toList → g = g' := by decide +kernel

/-- The keys of different guards or messages differ. -/
theorem scoped_inj (mine : g ∈ Guard.served) (yours : g' ∈ Guard.served)
    (same : g.scoped key = g'.scoped key') : g = g' ∧ key = key' := by
  have guard : g = g' := by
    rcases word_of_append same with first | second
    · exact Guard.word_apart g mine g' yours first
    · exact (Guard.word_apart g' yours g mine second).symm
  subst guard
  exact ⟨rfl, (String.append_right_inj _).mp same⟩

/-- A key of one kind of source has not the word of another. -/
theorem transition_ne_credential : "transition:" ++ key ≠ "credential-deploy:" ++ key' := by
  intro same
  rcases word_of_append same with first | second
  · revert first
    decide
  · revert second
    decide

/-! ## What rows and keys say -/

/-- The key of a message says what it is for: it has the word of a transition or of a credential, or
it is an id, which has no colon. -/
def Source.Names (used : List (String × Operation)) (key : String) : Source → Prop
  | .request op =>
    (∃ u ∈ used, u.2 = op ∧ key = "transition:" ++ trimSpace u.1) ∨ key.toList.contains ':' = false
  | .event _ id => key = id ∧ id.toList.contains ':' = false
  | .credential ref => key = "credential-deploy:" ++ ref
  | .other _ => hasPrefix "transition:" key = false ∧ hasPrefix "credential-deploy:" key = false

/-- The row of the key is of whoever completed it. -/
def Origin.Owns (used : List (String × Operation)) (outbox : List Message) (key : String) :
    Origin → Prop
  | .operation op => (key, op) ∈ used
  | .message h id => ∃ m ∈ outbox, m.id = id ∧ key = (Guard.handler h).scoped m.key
  | .call c rest => .caller c ∈ Guard.served ∧ key = (Guard.caller c).scoped rest

/-- What a run of tidy steps keeps. -/
structure World.Apart (w : World) : Prop where
  unscoped : ∀ u ∈ w.used, ∀ g ∈ Guard.served, hasPrefix g.word u.1 = false
  oneUse : ∀ u ∈ w.used, ∀ u' ∈ w.used, trimSpace u.1 = trimSpace u'.1 → u.2 = u'.2
  oneKey : ∀ m ∈ w.outbox, ∀ m' ∈ w.outbox, m.key = m'.key → m = m'
  named : ∀ m ∈ w.outbox, m.source.Names w.used m.key
  rows : ∀ r ∈ w.rows, r.2.Owns w.used w.outbox r.1
  answers : ∀ q ∈ w.answers, q.2 = .operation q.1
  skips : ∀ q ∈ w.skips, ∃ h, q.1.source.handler? = some h ∧ q.2 = .message h q.1.id
  replays : ∀ q ∈ w.replays, q.2 = .call q.1.1 q.1.2
  merged : ∀ q ∈ w.merged, q.1.lifecycle → q.2.source = q.1

theorem Origin.Owns.mono {used used' : List (String × Operation)} {outbox outbox' : List Message}
    (more : used ⊆ used') (more' : outbox ⊆ outbox') (owns : o.Owns used outbox key) :
    o.Owns used' outbox' key := by
  cases o with
  | operation op => exact more owns
  | message h id =>
    obtain ⟨m, mem, rest⟩ := owns
    exact ⟨m, more' mem, rest⟩
  | call c rest => exact owns

namespace World.Apart

variable (apart : w.Apart)

include apart

/-- No client completed the row of a guard. -/
theorem not_operation (served : g ∈ Guard.served) {op : Operation}
    (owns : (g.scoped key, op) ∈ w.used) : False := by
  have begins := Store.hasPrefix_append g.word key
  rw [show g.word ++ key = g.scoped key from rfl, apart.unscoped _ owns g served] at begins
  cases begins

/-- A row that a handler finds was completed by it for the message. -/
theorem handler_row (mem : m ∈ w.outbox)
    (hit : w.rows.get ((Guard.handler h).scoped m.key) = some o) : o = .message h m.id := by
  have owns := apart.rows _ (Table.mem_of_get hit)
  cases o with
  | operation op => exact (apart.not_operation (Guard.handler_served h) owns).elim
  | message h' id =>
    obtain ⟨m', mem', rfl, same⟩ := owns
    obtain ⟨guard, key⟩ := scoped_inj (Guard.handler_served h) (Guard.handler_served h') same
    cases guard
    rw [apart.oneKey m mem m' mem' key]
  | call c rest =>
    obtain ⟨served, same⟩ := owns
    cases (scoped_inj (Guard.handler_served h) served same).1

/-- A row that a caller finds was completed by it under the same key. -/
theorem caller_row {c : Caller} (served : .caller c ∈ Guard.served)
    (hit : w.rows.get ((Guard.caller c).scoped key) = some o) : o = .call c key := by
  have owns := apart.rows _ (Table.mem_of_get hit)
  cases o with
  | operation op => exact (apart.not_operation served owns).elim
  | message h id =>
    obtain ⟨m, -, -, same⟩ := owns
    cases (scoped_inj served (Guard.handler_served h) same).1
  | call c' rest =>
    obtain ⟨served', same⟩ := owns
    obtain ⟨guard, rfl⟩ := scoped_inj served served' same
    cases guard
    rfl

/-- A message under a key with a colon that names a transition or a credential is of that source. -/
theorem source_of_key (mem : m ∈ w.outbox) (names : s.Names w.used m.key)
    (real : s.lifecycle) (colon : m.key.toList.contains ':') : m.source = s := by
  have named := apart.named m mem
  have first (k : String) : hasPrefix "transition:" ("transition:" ++ k) := hasPrefix_append ..
  have second (k : String) : hasPrefix "credential-deploy:" ("credential-deploy:" ++ k) :=
    hasPrefix_append ..
  cases s with
  | request op =>
    obtain ⟨u, used, rfl, same⟩ | plain := names
    · cases source : m.source with
      | request op' =>
        rw [source] at named
        obtain ⟨u', used', rfl, same'⟩ | plain := named
        · rw [apart.oneUse u used u' used' ((String.append_right_inj _).mp (same.symm.trans same'))]
        · cases plain.symm.trans colon
      | event => grind [Source.Names]
      | credential ref =>
        rw [source] at named
        exact absurd (same.symm.trans named) transition_ne_credential
      | other => grind [Source.Names]
    · cases plain.symm.trans colon
  | event h id =>
    obtain ⟨rfl, plain⟩ := names
    cases plain.symm.trans colon
  | credential ref =>
    cases source : m.source with
    | request op =>
      rw [source] at named
      obtain ⟨u, -, -, same⟩ | plain := named
      · exact absurd (same.symm.trans names) transition_ne_credential
      · cases plain.symm.trans colon
    | event => grind [Source.Names]
    | credential ref' =>
      rw [source] at named
      rw [(String.append_right_inj _).mp (named.symm.trans names)]
    | other => grind [Source.Names]
  | other => cases real

/-- An enqueue under a key of its source: a message found is of the same source. -/
theorem enqueueIfAbsent (names : s.Names w.used key)
    (hit : ∀ m ∈ w.outbox, m.key = key → s.lifecycle → m.source = s) :
    (w.enqueueIfAbsent s key).Apart := by
  unfold World.enqueueIfAbsent
  split
  next m found_ =>
    refine { apart with merged := forall_mem_snoc apart.merged fun real => ?_ }
    have same := find?_some found_
    exact hit m (List.mem_of_find?_eq_some found_) (of_decide_eq_true same) real
  next gone =>
    have new : ∀ m ∈ w.outbox, m.key ≠ key := by
      intro m mem same
      exact find?_eq_none.mp gone m mem (decide_eq_true same)
    refine { apart with oneKey := ?_, named := forall_mem_snoc apart.named names, rows := ?_ }
    · intro m mem m' mem' same
      rcases mem_snoc.mp mem with old | rfl
      · rcases mem_snoc.mp mem' with old' | rfl
        · exact apart.oneKey m old m' old' same
        · exact absurd same (new m old)
      · rcases mem_snoc.mp mem' with old' | rfl
        · exact absurd same.symm (new m' old')
        · rfl
    · exact fun r mem => (apart.rows r mem).mono (.refl _) (subset_append_left ..)

variable {op : Operation}

theorem use (unscoped : ∀ g ∈ Guard.served, hasPrefix g.word key = false)
    (one : ∀ u ∈ w.used, trimSpace u.1 = trimSpace key → u.2 = op) :
    ({ w with used := w.used ++ [(key, op)] } : World).Apart := by
  have more : w.used ⊆ w.used ++ [(key, op)] := subset_append_left ..
  refine { apart with
    unscoped := forall_mem_snoc apart.unscoped unscoped, oneUse := ?_, named := ?_, rows := ?_ }
  · intro u mem u' mem' same
    rcases mem_snoc.mp mem with old | rfl
    · rcases mem_snoc.mp mem' with old' | rfl
      · exact apart.oneUse u old u' old' same
      · exact one u old same
    · rcases mem_snoc.mp mem' with old' | rfl
      · exact (one u' old' same.symm).symm
      · rfl
  · intro m mem
    have named := apart.named m mem
    cases source : m.source with
    | request op' =>
      rw [source] at named
      exact named.imp_left fun ⟨u, used, rest⟩ => ⟨u, more used, rest⟩
    | event | credential | other =>
      rw [source] at named
      exact named
  · exact fun r mem => (apart.rows r mem).mono more (.refl _)

theorem perform {eid : String} (used : (key, op) ∈ w.used) (fresh : w.fresh eid) :
    (w.perform op key eid).Apart := by
  unfold World.fresh at fresh
  rw [Bool.and_eq_true, all_eq_true, Bool.not_eq_true'] at fresh
  unfold World.perform
  split
  next =>
    unfold transitionOutboxIdempotencyKey
    dsimp only
    split
    next =>
      refine apart.enqueueIfAbsent (.inr fresh.1) fun m mem same => ?_
      exact absurd same (of_decide_eq_true (fresh.2 m mem))
    next =>
      have names : (Source.request op).Names w.used ("transition:" ++ trimSpace key) :=
        .inl ⟨_, used, rfl, rfl⟩
      refine apart.enqueueIfAbsent names fun m mem same real => ?_
      exact apart.source_of_key mem (same ▸ names) real (by simp [same])
  next => exact apart

theorem complete (owns : o.Owns w.used w.outbox key) :
    ({ w with rows := w.rows.put key o } : World).Apart := by
  refine { apart with rows := fun r mem => ?_ }
  rcases Table.mem_put.mp mem with rfl | ⟨old, -⟩
  · exact owns
  · exact apart.rows r old

theorem answer (own : o = .operation op) :
    ({ w with answers := w.answers ++ [(op, o)] } : World).Apart :=
  { apart with answers := forall_mem_snoc apart.answers own }

theorem mutate {eid : String} {fate : Fate} (tidy : w.tidy (.mutate op key eid fate))
    (moved : w.step (.mutate op key eid fate) = some w') : w'.Apart := by
  simp only [World.tidy, Bool.and_eq_true, all_eq_true, Bool.not_eq_true', Bool.or_eq_true,
    decide_eq_true_eq] at tidy
  obtain ⟨unscoped, other⟩ := tidy
  have one : ∀ u ∈ w.used, trimSpace u.1 = trimSpace key → u.2 = op :=
    fun u mem same => (other u mem).resolve_left (absurd same)
  have used := apart.use unscoped one
  have mine : (key, op) ∈ w.used ++ [(key, op)] := mem_append_right _ (mem_singleton_self _)
  obtain ⟨may, moved⟩ := Option.ite_none_left_eq_some.mp moved
  simp only [Bool.or_eq_true, Bool.not_eq_true', not_or, Bool.not_eq_false] at may
  have ran := used.perform mine (show World.fresh _ eid = true from may.2)
  -- the key of a guard has its word
  have strange {g : Guard} {rest : String} (served : g ∈ Guard.served) : key ≠ g.scoped rest := by
    rintro rfl
    cases (unscoped g served).symm.trans (hasPrefix_append g.word rest)
  split at moved
  next o hit =>
    cases moved
    refine used.answer ?_
    have owns := apart.rows _ (Table.mem_of_get hit)
    cases o with
    | operation op' => rw [← one (key, op') owns rfl]
    | message h id =>
      obtain ⟨m, -, -, same⟩ := owns
      exact absurd same (strange (Guard.handler_served h))
    | call c rest => exact absurd owns.2 (strange owns.1)
  next =>
    cases fate with
    | early =>
      cases moved
      exact used
    | late =>
      cases moved
      exact ran
    | done =>
      cases moved
      refine World.Apart.answer (ran.complete ?_) rfl
      rw [Origin.Owns, World.used_perform]
      exact mine

theorem call {c : Caller} {fails : Bool} (served : .caller c ∈ Guard.served)
    (moved : w.step (.call c key fails) = some w') : w'.Apart := by
  dsimp only [World.step] at moved
  split at moved
  next o hit =>
    cases moved
    exact { apart with replays := forall_mem_snoc apart.replays (apart.caller_row served hit) }
  next =>
    split at moved <;> cases moved
    · exact apart
    · exact apart.complete ⟨served, rfl⟩

theorem deliver {fails : Bool} (moved : w.step (.deliver m fails) = some w') : w'.Apart := by
  dsimp only [World.step] at moved
  split at moved
  next => cases moved
  next h handler =>
    obtain ⟨mem, moved⟩ := Option.ite_none_right_eq_some.mp moved
    split at moved
    next o hit =>
      cases moved
      have own := apart.handler_row mem hit
      exact { apart with skips := forall_mem_snoc apart.skips ⟨h, handler, own⟩ }
    next =>
      split at moved <;> cases moved
      · exact apart
      · exact apart.complete ⟨m, mem, rfl, rfl⟩

theorem step (tidy : w.tidy a) (moved : w.step a = some w') : w'.Apart := by
  cases a with
  | mutate op key eid fate => exact apart.mutate tidy moved
  | call c key fails =>
    have served : Guard.served.contains (.caller c) := tidy
    exact apart.call (contains_iff_mem.mp served) moved
  | transition h eid =>
    obtain ⟨fresh, ⟨⟩⟩ := Option.ite_none_right_eq_some.mp moved
    unfold World.fresh at fresh
    rw [Bool.and_eq_true, all_eq_true, Bool.not_eq_true'] at fresh
    refine apart.enqueueIfAbsent ⟨rfl, fresh.1⟩ fun m mem same => ?_
    exact absurd same (of_decide_eq_true (fresh.2 m mem))
  | enqueueCredentialDeploy identityId fp =>
    cases moved
    refine apart.enqueueIfAbsent rfl fun m mem same real => ?_
    exact apart.source_of_key mem same real (by simp [same])
  | enqueue h key =>
    cases moved
    simp only [World.tidy, Bool.and_eq_true, Bool.not_eq_true'] at tidy
    exact apart.enqueueIfAbsent tidy nofun
  | deliver m fails => exact apart.deliver moved

end World.Apart

/-! ## Runs -/

def revocation : Operation := { id := 1, target := some .revoke }

def revocationMessage : Message := ⟨0, "transition:k1", .request revocation⟩

end Trustctl.Idempotency.Keys
