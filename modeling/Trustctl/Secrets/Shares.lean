import Trustctl.Systems.Run
import Mathlib.Data.List.Nodup

/-!
# One-time shares

The shares of the secrets API, kept as rows (`PutSecretShare`, `ConsumeSecretShare`), and those of a
`Sharer`, kept in its map (`Create`, `View`).  A call is one transaction or one critical section.

* `shared_once`: if no expired row is redeemed and no link at the very instant of its expiry, each
  share is returned at most once, in time and for its token, and none is left that was found
  expired;
* `expired_share_stays`: otherwise the row stays and the link is returned.
-/

namespace Trustctl.Secrets.Shares

open Systems List

inductive Impl
  | stored | memory
  deriving DecidableEq

/-- Where a share is kept, and its token, or the digest of it that is kept. -/
@[ext] structure Key where
  impl : Impl
  tenantId : String
  token : String
  deriving DecidableEq

structure Share where
  key : Key
  secret : String
  expiresAt : Nat

/-- A row of `secret_shares`, or a link under its key. -/
structure Entry extends Share where
  shareId : Nat

/-- What a redemption returned for a key, and when it read the clock. -/
structure Answer where
  key : Key
  now : Nat
  shareId : Nat
  secret : String

/-- The entries, with what happened so far: the shares in the order of their ids, the answers, and
the ids of the shares that a redemption met when they had expired. -/
structure World where
  entries : List Entry := []
  shares : List Share := []
  answers : List Answer := []
  expired : List Nat := []

inductive Action
  | create (s : Share)
  | redeem (key : Key) (now : Nat)

def Action.token : Action → String
  | .create s => s.key.token
  | .redeem key _ => key.token

section Model

variable (hash : String → String)

/-- The key with `SHA256Hex` of the token. -/
def Key.hashed (k : Key) : Key := { k with token := hash k.token }

/-- The digest tells the tokens of the actions apart. -/
def Separates (as : List Action) : Prop :=
  ∀ a ∈ as, ∀ b ∈ as, hash a.token = hash b.token → a.token = b.token

def Share.entry (s : Share) (shareId : Nat) : Entry :=
  ⟨{ s with key := s.key.hashed hash }, shareId⟩

/-- `WithTenant`: what the statements did stays only if they end without an error. -/
def withTenant (rows : List Entry) : Except Unit Entry × List Entry → Option Entry × List Entry
  | (.ok e, rows') => (some e, rows')
  | (.error _, _) => (none, rows)

/-- The transaction of `ConsumeSecretShare`, for a digest. -/
def consume (k : Key) (now : Nat) (rows : List Entry) : Except Unit Entry × List Entry :=
  let valid (e : Entry) : Bool := e.key = k ∧ now < e.expiresAt
  match rows.find? valid with
  | some e => (.ok e, rows.filter (! valid ·))
  | none => (.error (), rows.filter fun e => ¬ (e.key = k ∧ e.expiresAt ≤ now))

def view (k : Key) (now : Nat) (links : List Entry) : Option Entry × List Entry :=
  match links.find? (·.key = k) with
  | none => (none, links)
  | some l => (if l.expiresAt < now then none else some l, links.filter (·.key ≠ k))

/-- What a redemption finds, and what it leaves. -/
def find (k : Key) (now : Nat) (entries : List Entry) : Option Entry × List Entry :=
  match k.impl with
  | .stored => withTenant entries (consume k now entries)
  | .memory => view k now entries

def World.create (w : World) (s : Share) : World :=
  let k := s.key.hashed hash
  let add (entries : List Entry) : World :=
    { w with entries := entries ++ [s.entry hash w.shares.length], shares := w.shares ++ [s] }
  match k.impl with
  | .stored => if w.entries.any (·.key = k) then w else add w.entries
  | .memory => add (w.entries.filter (·.key ≠ k))

def World.redeem (w : World) (key : Key) (now : Nat) : World :=
  let k := key.hashed hash
  let found := find k now w.entries
  let late := w.entries.filter fun e => e.key = k ∧ e.expiresAt ≤ now
  { w with
    entries := found.2
    answers := w.answers ++ found.1.toList.map fun e => ⟨key, now, e.shareId, e.secret⟩
    expired := w.expired ++ late.map (·.shareId) }

def World.step (w : World) : Action → Option World
  | .create s => some (w.create hash s)
  | .redeem key now => some (w.redeem hash key now)

/-- A redemption does not find an expired row, or a link at the instant of its expiry. -/
def World.timely (w : World) : Action → Bool
  | .create _ => true
  | .redeem key now => w.entries.all fun e => e.key ≠ key.hashed hash ||
    match key.impl with
    | .stored => decide (now < e.expiresAt)
    | .memory => now != e.expiresAt

/-- An answer gives a share to its own token in its own tenant, before its expiry. -/
def World.Due (w : World) (a : Answer) : Prop :=
  ∃ s, w.shares[a.shareId]? = some s ∧ s.key = a.key ∧ s.secret = a.secret ∧ a.now < s.expiresAt

structure Good (w : World) : Prop where
  known : ∀ e ∈ w.entries, ∃ s, w.shares[e.shareId]? = some s ∧ e = s.entry hash e.shareId
  once : (w.answers.map (·.shareId)).Nodup
  spent : ∀ e ∈ w.entries, e.shareId ∉ w.answers.map (·.shareId)
  due : ∀ a ∈ w.answers, w.Due a
  gone : ∀ e ∈ w.entries, e.shareId ∉ w.expired
  dated : ∀ i ∈ w.expired, i < w.shares.length

end Model

/-- What is found is valid and not left, and no expired entry of the key is left. -/
structure Redeems (k : Key) (now : Nat) (es : List Entry) (got : Option Entry × List Entry) :
    Prop where
  sub : ∀ e ∈ got.2, e ∈ es
  found : ∀ e, got.1 = some e → (e ∈ es ∧ e.key = k ∧ now < e.expiresAt) ∧ e ∉ got.2
  live : ∀ e ∈ got.2, e.key = k → now < e.expiresAt

section Runs

variable {hash : String → String} {w : World} {key k : Key} {now : Nat} {es : List Entry}

theorem eq_of_hashed (apart : hash k.token = hash key.token → k.token = key.token)
    (same : k.hashed hash = key.hashed hash) : k = key := by
  obtain ⟨impl, tenantId, token⟩ := Key.mk.inj same
  exact Key.ext impl tenantId (apart token)

theorem not_mem_filter {p : Entry → Bool} {e : Entry} (out : p e = false) : e ∉ es.filter p := by
  intro mem
  cases out.symm.trans (of_mem_filter mem)

theorem redeems_consume (live : ∀ e ∈ es, e.key = k → now < e.expiresAt) :
    Redeems k now es (withTenant es (consume k now es)) := by
  unfold consume
  dsimp only
  split
  next e hit =>
    have valid := find?_some hit
    refine ⟨fun _ => mem_of_mem_filter, ?_, fun x mem => live x (mem_of_mem_filter mem)⟩
    rintro _ ⟨⟩
    exact ⟨⟨List.mem_of_find?_eq_some hit, of_decide_eq_true valid⟩,
      not_mem_filter (by rw [valid]; rfl)⟩
  -- what the second statement deleted comes back with the transaction
  next => exact ⟨fun _ => id, nofun, live⟩

theorem redeems_view (apart : ∀ e ∈ es, e.key = k → now ≠ e.expiresAt) :
    Redeems k now es (view k now es) := by
  unfold view
  split
  next none =>
    refine ⟨fun _ => id, nofun, fun e mem same => ?_⟩
    exact absurd (decide_eq_true same) (find?_eq_none.mp none e mem)
  next l hit =>
    have mem := List.mem_of_find?_eq_some hit
    have same : l.key = k := by simpa using find?_some hit
    refine ⟨fun _ => mem_of_mem_filter, fun e got => ?_, fun e left same => ?_⟩
    · obtain ⟨early, ⟨⟩⟩ := Option.ite_none_left_eq_some.mp got
      have := apart l mem same
      exact ⟨⟨mem, same, by omega⟩, not_mem_filter (by simpa using same)⟩
    · exact absurd left (not_mem_filter (by simpa using same))

theorem redeems_find (timely : w.timely hash (.redeem key now)) :
    Redeems (key.hashed hash) now w.entries (find (key.hashed hash) now w.entries) := by
  have timely := all_eq_true.mp timely
  unfold find
  split
  next stored =>
    refine redeems_consume fun e mem same => ?_
    simpa [same, show key.impl = .stored from stored] using timely e mem
  next memory =>
    refine redeems_view fun e mem same => ?_
    simpa [same, show key.impl = .memory from memory] using timely e mem

namespace Good

theorem keep (good : Good hash w) (sub : ∀ e ∈ es, e ∈ w.entries) :
    Good hash { w with entries := es } :=
  { good with
    known := fun e mem => good.known e (sub e mem)
    spent := fun e mem => good.spent e (sub e mem)
    gone := fun e mem => good.gone e (sub e mem) }

theorem add (good : Good hash w) (s : Share) : Good hash { w with
      entries := w.entries ++ [s.entry hash w.shares.length], shares := w.shares ++ [s] } := by
  have grown {i : Nat} {s' : Share} (known : w.shares[i]? = some s') :
      i < w.shares.length ∧ (w.shares ++ [s])[i]? = some s' := by
    have lt := (List.getElem?_eq_some_iff.mp known).1
    exact ⟨lt, by rw [getElem?_append_left lt, known]⟩
  refine ⟨forall_mem_snoc ?_ ?_, good.once, forall_mem_snoc good.spent ?_, ?_,
    forall_mem_snoc good.gone ?_, ?_⟩
  · intro e mem
    obtain ⟨s', known, same⟩ := good.known e mem
    exact ⟨s', (grown known).2, same⟩
  · exact ⟨s, getElem?_concat_length, rfl⟩
  · intro mem
    obtain ⟨a, mem, same⟩ := mem_map.mp mem
    obtain ⟨s', known, -⟩ := good.due a mem
    exact absurd (grown known).1 (same ▸ Nat.lt_irrefl _)
  · intro a mem
    obtain ⟨s', known, due⟩ := good.due a mem
    exact ⟨s', (grown known).2, due⟩
  · exact fun late => absurd (good.dated _ late) (Nat.lt_irrefl _)
  · intro i late
    rw [length_append]
    exact Nat.lt_add_right _ (good.dated i late)

theorem create (good : Good hash w) (s : Share) : Good hash (w.create hash s) := by
  unfold World.create
  dsimp only
  split
  · split
    · exact good
    · exact good.add s
  · exact (good.keep fun _ => mem_of_mem_filter).add s

theorem eq_of_id (good : Good hash w) {e x : Entry} (mem : e ∈ w.entries) (mem' : x ∈ w.entries)
    (same : x.shareId = e.shareId) : x = e := by
  obtain ⟨s, known, entry⟩ := good.known e mem
  obtain ⟨s', known', entry'⟩ := good.known x mem'
  rw [same, known] at known'
  cases known'
  rw [entry', entry, same]

theorem answer (good : Good hash w) {a : Answer} (due : w.Due a)
    (first : a.shareId ∉ w.answers.map (·.shareId)) (out : ∀ e ∈ w.entries, e.shareId ≠ a.shareId) :
    Good hash { w with answers := w.answers ++ [a] } := by
  refine { good with once := ?_, spent := ?_, due := forall_mem_snoc good.due due }
  · rw [map_append]
    exact good.once.append (nodup_singleton _) (disjoint_singleton.mpr first)
  · intro e mem
    rw [map_append, mem_append, not_or]
    exact ⟨good.spent e mem, by simpa using out e mem⟩

theorem redeem (good : Good hash w)
    (apart : ∀ s ∈ w.shares, hash s.key.token = hash key.token → s.key.token = key.token)
    (timely : w.timely hash (.redeem key now)) : Good hash (w.redeem hash key now) := by
  obtain ⟨sub, hit, live⟩ := redeems_find timely
  unfold World.redeem
  dsimp only
  generalize find (key.hashed hash) now w.entries = found at sub hit live
  obtain ⟨got, left⟩ := found
  have kept : Good hash { w with
      entries := left
      expired := w.expired ++ (w.entries.filter fun e =>
        e.key = key.hashed hash ∧ e.expiresAt ≤ now).map (·.shareId) } := by
    refine { good.keep sub with gone := fun e mem => ?_, dated := ?_ }
    · rw [mem_append, not_or]
      refine ⟨good.gone e (sub e mem), fun late => ?_⟩
      obtain ⟨x, late, same⟩ := mem_map.mp late
      obtain ⟨mem', late⟩ := mem_filter.mp late
      cases good.eq_of_id (sub e mem) mem' same
      obtain ⟨same, late⟩ := of_decide_eq_true late
      exact absurd (live e mem same) (Nat.not_lt.mpr late)
    · refine forall_mem_append.mpr ⟨good.dated, fun i late => ?_⟩
      obtain ⟨x, mem, rfl⟩ := mem_map.mp late
      obtain ⟨s, known, -⟩ := good.known x (mem_of_mem_filter mem)
      exact (List.getElem?_eq_some_iff.mp known).1
  cases got with
  | none => simpa using kept
  | some e =>
    obtain ⟨⟨mem, same, early⟩, out⟩ := hit e rfl
    obtain ⟨s, known, entry⟩ := good.known e mem
    rw [entry] at same early
    have own := eq_of_hashed (apart s (mem_of_getElem? known)) same
    refine kept.answer ⟨s, known, own, ?_, early⟩ (good.spent e mem) fun x left same => ?_
    · rw [entry]
      rfl
    · exact out (good.eq_of_id mem (sub x left) same ▸ left)

end Good

theorem mem_shares_create {s s' : Share} (mem : s' ∈ (w.create hash s).shares) :
    s' ∈ w.shares ∨ s' = s := by
  unfold World.create at mem
  dsimp only at mem
  split at mem
  · split at mem
    · exact .inl mem
    · exact mem_snoc.mp mem
  · exact mem_snoc.mp mem

/-- In every run without such redemptions, each share is returned at most once, in time and for its
own token, and none that was found expired is left. -/
theorem shared_once {as : List Action} (separates : Separates hash as)
    (run : Run (World.step hash) (fun w a => w.timely hash a) {} as w) :
    (w.answers.map (·.shareId)).Nodup ∧ (∀ a ∈ w.answers, w.Due a) ∧
      ∀ e ∈ w.entries, e.shareId ∉ w.expired := by
  -- every share was created, so the digest tells its token from that of a redemption
  have good : Separates hash as → Good hash w ∧ ∀ s ∈ w.shares, .create s ∈ as := by
    refine run.invariant_along
      (I := fun past v => Separates hash past → Good hash v ∧ ∀ s ∈ v.shares, .create s ∈ past)
      (fun past v a v' _ timely moved ih separates => ?_) fun _ =>
        ⟨⟨nofun, .nil, nofun, nofun, nofun, nofun⟩, nofun⟩
    obtain ⟨good, made⟩ := ih fun x mem y mem' =>
      separates x (mem_append_left _ mem) y (mem_append_left _ mem')
    cases a with
    | create s =>
      cases moved
      refine ⟨good.create s, fun s' mem => ?_⟩
      rcases mem_shares_create mem with old | rfl
      · exact mem_append_left _ (made s' old)
      · exact mem_append_right _ (mem_singleton.mpr rfl)
    | redeem key now =>
      cases moved
      refine ⟨good.redeem (fun s mem => ?_) timely, fun s mem => mem_append_left _ (made s mem)⟩
      exact separates _ (mem_append_left _ (made s mem)) _
        (mem_append_right _ (mem_singleton.mpr rfl))
  obtain ⟨good, -⟩ := good separates
  exact ⟨good.once, good.due, good.gone⟩

/-- A share and a link of one token are each redeemed twice, the first time with an answer. -/
theorem one_share_viewed : ∃ w, Run (World.step id) (fun w a => w.timely id a) {}
        [.create ⟨⟨.stored, "t", "k"⟩, "s", 5⟩, .create ⟨⟨.memory, "t", "k"⟩, "l", 3⟩,
          .redeem ⟨.stored, "t", "k"⟩ 4, .redeem ⟨.stored, "t", "k"⟩ 4,
          .redeem ⟨.memory, "t", "k"⟩ 2, .redeem ⟨.memory, "t", "k"⟩ 7] w ∧
      w.answers.map (·.secret) = ["s", "l"] ∧ (w.answers.map (·.shareId)).Nodup ∧
      ∀ a ∈ w.answers, w.Due a :=
  have run := run_of_executeIf (by rfl : executeIf (World.step id) (World.timely id) {} _ = some _)
  have kept := shared_once (fun _ _ _ _ => id) run
  ⟨_, run, rfl, kept.1, kept.2.1⟩

/-- The row of a share that was found expired stays, and a link is returned at its expiry. -/
theorem expired_share_stays :
    ∃ w, execute (World.step id) {} [.create ⟨⟨.stored, "t", "k"⟩, "s", 5⟩,
          .create ⟨⟨.memory, "t", "k"⟩, "s", 5⟩, .redeem ⟨.stored, "t", "k"⟩ 5,
          .redeem ⟨.memory, "t", "k"⟩ 5] = some w ∧
      (∃ e ∈ w.entries, e.shareId ∈ w.expired) ∧ ∃ a ∈ w.answers, ¬ w.Due a := by
  refine ⟨_, rfl, ⟨_, .head _, .head _⟩, _, .head _, ?_⟩
  rintro ⟨s, known, -, -, early⟩
  cases known
  exact absurd early (by decide)

end Runs

end Trustctl.Secrets.Shares
