import Trustctl.Signing.Exclusion

/-!
# Custody of the keys

`Custody` says what becomes of a key under its handle: once `DestroyKey` was answered, neither
that process nor one started later signs with the key; different handles do not come to the
same key; a generated key can be loaded under its handle until a `DestroyKey` of that handle,
and no second key is generated under it before.

* `custody_kept` : it holds in every run whose steps are `orderly`.
* `destroyed_key_signs` : without that a destroyed key signs again.
-/

namespace Trustctl.Signing

open List Systems

/-! ## The property -/

def Answer.Signs (a : Answer) (key : SigningKey) : Prop :=
  ∃ req reply, a.request = .sign req ∧ a.result = .ok reply ∧ a.key = some key

def Answer.Destroys (a : Answer) (key : SigningKey) : Prop :=
  ∃ handle reply, a.request = .destroyKey handle ∧ a.result = .ok reply ∧ a.key = some key

/-- The answer says that a key was generated under a handle. -/
def Answer.Generates (a : Answer) (handle : String) (key : SigningKey) : Prop :=
  ∃ req algorithm, a.request = .generateKey req ∧ a.result = .ok (.generated handle algorithm) ∧
    a.key = some key

/-- The answers after which a key generated before them is still to be there: none of them is
that of a `DestroyKey` of the handle that destroyed a key. -/
def Undisturbed (handle : String) (later : List Answer) : Prop :=
  ∀ a ∈ later, a.request = .destroyKey handle → ∀ key, ¬ a.Destroys key

structure Custody (f : KeyFormats) (w : World) : Prop where
  /-- A destroyed key is not used again by the process that destroyed it or by a later one. -/
  destroyed : w.answers.Pairwise fun d s => ∀ key, d.Destroys key → s.Signs key →
    s.process ≠ d.process ∧ s.process < d.fleet
  /-- Different handles were never answered with the same key. -/
  distinct : ∀ a ∈ w.answers, ∀ b ∈ w.answers, ∀ h h' key, a.handle = some h →
    b.handle = some h' → a.key = some key → b.key = some key → h = h'
  /-- A generated key can be loaded until its handle is destroyed. -/
  persisted : ∀ before a later handle key, w.answers = before ++ a :: later →
    a.Generates handle key → Undisturbed handle later →
      ∃ kc, loadHandle f w.files handle = .ok (some (key, kc))
  /-- No second key is generated under its handle before. -/
  exclusive : ∀ before a later b rest handle key key',
    w.answers = before ++ a :: (later ++ b :: rest) → a.Generates handle key →
      b.Generates handle key' → ¬ Undisturbed handle later

/-! ## A destroyed key stays away -/

def World.Spares (w : World) (call : Call) (key : SigningKey) : Prop :=
  ∀ id i held, call.generates = some (id, i) → w.heap[i]? = some held → held.key ≠ key

/-- What is left of a key after process `p` destroyed it when `n` processes had been started:
no file, no call that could write one, and objects in other processes that were there. -/
structure World.Retired (f : KeyFormats) (w : World) (p n : Nat) (key : SigningKey) : Prop where
  made : ∃ c ∈ w.created, c.key = key
  files : ∀ stem file kc, w.files.get stem = some file → loadFile f stem file ≠ .ok (key, kc)
  held : ∀ held ∈ w.heap, held.destroyed = false → held.key = key → held.owner ≠ p ∧ held.owner < n
  inFlight : ∀ t ∈ w.inFlight, w.Spares t.call key

/-- The objects of the second world are those of the first, and others with other keys. -/
def World.Extends (w w' : World) (key : SigningKey) : Prop :=
  ∀ (i : Nat) held, w'.heap[i]? = some held → (∃ before, w.heap[i]? = some before) ∨ held.key ≠ key

section Retirement

variable {f : KeyFormats} {w w' : World} {p n : Nat} {key : SigningKey}

theorem World.Extends.refl (heap : w'.heap = w.heap) : w.Extends w' key := by
  intro i held here
  exact .inl ⟨held, heap ▸ here⟩

theorem World.Extends.destroy (place : Nat → Bool) : w.Extends (w.destroy place) key := by
  intro i held here
  rw [World.destroy, getElem?_mapIdx] at here
  obtain ⟨old, hit, -⟩ := Option.map_eq_some_iff.mp here
  exact .inl ⟨old, hit⟩

theorem World.Extends.hold {handle : String} {new : HeldKey} (other : new.key ≠ key) :
    w.Extends (w.hold handle new) key := by
  intro i held here
  have here : (w.heap ++ [new])[i]? = some held := here
  rw [getElem?_append] at here
  split at here
  case isTrue => exact .inl ⟨held, here⟩
  case isFalse =>
    cases mem_singleton.mp (mem_of_getElem? here)
    exact .inr other

variable {call : Call} {i : Nat}

theorem Call.held_of_generates {id : String} (makes : call.generates = some (id, i)) :
    call.held = i := by
  cases call <;> cases makes <;> rfl

theorem Call.handle_of_generates {id : String} (makes : call.generates = some (id, i)) :
    call.handle = id := by
  cases call <;> cases makes <;> rfl

section Left

variable (retired : w.Retired f p n key)

include retired

theorem World.Retired.grow (traced : Traced f w) (grows : Grows w w')
    (files : ∀ stem file, w'.files.get stem = some file → w.files.get stem = some file ∨
      ∀ kc, loadFile f stem file ≠ .ok (key, kc))
    (heap : w.Extends w' key)
    (going : ∀ t ∈ w'.inFlight, t ∈ w.inFlight ∨ w'.Spares t.call key) :
    w'.Retired f p n key := by
  refine ⟨?_, ?_, ?_, ?_⟩
  · obtain ⟨c, created, same⟩ := retired.made
    exact ⟨c, grows.created created, same⟩
  · intro stem file kc hit
    exact (files stem file hit).elim (fun old => retired.files stem file kc old) fun new => new kc
  · intro held' mem alive' same'
    obtain ⟨i, here'⟩ := mem_iff_getElem?.mp mem
    rcases heap i held' here' with ⟨held, here⟩ | other
    · obtain ⟨held'', here'', kept⟩ := grows.heap i held here
      cases here'.symm.trans here''
      have alive : held.destroyed = false := by
        cases zeroized : held.destroyed with
        | false => rfl
        | true => exact (kept.destroyed zeroized).symm.trans alive'
      rw [kept.owner]
      exact retired.held held (mem_of_getElem? here) alive (kept.key.symm.trans same')
    · exact absurd same' other
  · intro t mem
    rcases going t mem with old | new
    · intro id i held' makes here' same'
      obtain ⟨held, here, -⟩ := (traced.inFlight t old).names
      rw [Call.held_of_generates makes] at here
      obtain ⟨held'', here'', kept⟩ := grows.heap i held here
      cases here'.symm.trans here''
      exact retired.inFlight t old id i held makes here (kept.key.symm.trans same')
    · exact new

variable {q : Nat}

theorem World.Retired.goOn (spares : w.Spares call key) : (w.goOn q call).Retired f p n key := by
  refine { retired with inFlight := ?_ }
  refine forall_mem_snoc retired.inFlight ?_
  exact spares

theorem World.Retired.withInFlight {inFlight : List InFlight} (fewer : inFlight ⊆ w.inFlight) :
    ({ w with inFlight := inFlight } : World).Retired f p n key :=
  { retired with inFlight := fun t mem => retired.inFlight t (fewer mem) }

theorem World.Retired.answer (q : Nat) (req : Request) (named : Option SigningKey)
    (result : Except Status Reply) :
    (w.answer q req named result).Retired f p n key :=
  ⟨retired.made, retired.files, retired.held, retired.inFlight⟩

theorem World.Retired.destroy (traced : Traced f w) (place : Nat → Bool) :
    (w.destroy place).Retired f p n key :=
  retired.grow traced (.destroy ..) (fun _ _ => .inl) (.destroy place) fun _ => .inl

theorem World.Retired.setServer (q : Nat) (g : Server → Server) :
    (w.setServer q g).Retired f p n key :=
  ⟨retired.made, retired.files, retired.held, retired.inFlight⟩

theorem World.Retired.hold (traced : Traced f w) (handle : String) {held : HeldKey}
    (other : held.key ≠ key) : (w.hold handle held).Retired f p n key :=
  retired.grow traced (.hold ..) (fun _ _ => .inl) (.hold other) fun _ => .inl

end Left

theorem Found.retired {q : Nat} {srv : Server} {handle : String} (hit : Found f q srv handle w i w')
    (traced : Traced f w) (retired : w.Retired f p n key) : w'.Retired f p n key := by
  cases hit with
  | cached => exact retired
  | loaded offMap read =>
    obtain ⟨sealed, file, loaded⟩ := loadHandle_eq_some read
    refine retired.hold traced handle ?_
    rintro rfl
    exact retired.files _ sealed _ file loaded

theorem Resumed.retired {q : Nat} (woke : Resumed q w call w') (bound : Bound w)
    (traced : Traced f w)
    (follows : w.Follows ⟨q, call⟩) (spares : w.Spares call key) (retired : w.Retired f p n key) :
    w'.Retired f p n key := by
  cases woke with
  | sealed | sealFailed | writeFailed =>
    refine retired.goOn ?_
    rintro id' i' held' ⟨⟩
    exact spares _ _ held' rfl
  | @written req id i file held here =>
    have grows : Grows w { w with files := w.files.put (sanitizeHandle id) file } :=
      .of_eq rfl
    refine World.Retired.answer ?_ q _ _ _
    refine retired.grow traced grows ?_ (.refl rfl) fun _ => .inl
    intro stem file' hit
    rcases Table.get_put_eq_some.mp hit with ⟨rfl, rfl⟩ | ⟨-, old⟩
    · -- the file is of the key that is being generated
      obtain ⟨c, created, rfl, made, kept⟩ := follows.writes req id i file held rfl here
      rw [(traced.created c created).stem]
      refine .inr fun kc loaded => ?_
      refine spares c.handle i held rfl here ?_
      exact made.symm.trans (kept.key_eq bound created loaded).symm
    · exact .inl old
  | rolledBack =>
    exact ((retired.setServer q _).destroy (traced.dropKey q _) _).answer q _ _ _
  | signed | signFailed | removeFailed => exact retired.answer q _ _ _
  | destroyed =>
    exact (retired.destroy traced _).goOn nofun
  | @removed handle i held here =>
    have grows : Grows w { w with files := w.files.drop (sanitizeHandle handle) } :=
      .of_eq rfl
    refine World.Retired.answer ?_ q _ _ _
    refine retired.grow traced grows ?_ (.refl rfl) fun _ => .inl
    exact fun stem file hit => .inl (Table.get_drop_eq_some.mp hit).2

end Retirement

variable {f : KeyFormats} {w w' : World} {p : Nat} {a : Action}

theorem Step.retired {n : Nat} {key : SigningKey} (moved : Step f w a w') (bound : Bound w)
    (traced : Traced f w) (retired : w.Retired f p n key) : w'.Retired f p n key := by
  cases moved with
  | start | authorize =>
    exact ⟨retired.made, retired.files, retired.held, retired.inFlight⟩
  | booted => exact retired.setServer _ _
  | loaded server boot file read =>
    refine (retired.hold traced _ ?_).setServer _ _
    rintro rfl
    exact retired.files _ _ _ file read
  | exit q =>
    exact (retired.setServer q _).withInFlight fun _ mem => mem_of_mem_filter mem
  | shutdown => exact (retired.destroy traced _).setServer _ _
  | refused | destroyAbsent => exact retired.answer _ _ _ _
  | @created q srv req draw id key' kc live fits ready offMap =>
    have other : key' ≠ key := by
      obtain ⟨c, created, rfl⟩ := retired.made
      rintro rfl
      exact ready.fresh fits c created rfl
    have held : ((w.create ⟨id, key', req⟩).hold id ⟨q, key', kc, false⟩).Retired f p n key := by
      have more : w.Extends (w.hold id ⟨q, key', kc, false⟩) key := .hold other
      exact retired.grow traced ((Grows.create w _).trans (.hold ..)) (fun _ _ => .inl) more
        fun _ => .inl
    refine held.goOn ?_
    rintro id' i held' ⟨⟩
    intro here
    cases getElem?_concat_length.symm.trans here
    exact other
  | published live hit | signRefused live hit =>
    exact (hit.retired traced retired).answer _ _ _ _
  | signing live valid short known hit =>
    exact (hit.retired traced retired).goOn nofun
  | destroying =>
    exact (retired.setServer _ _).goOn nofun
  | @proceed i out t w' going woke =>
    exact woke.retired (bound.withInFlight eraseIdx_subset)
      (traced.withInFlight eraseIdx_subset) (traced.follows going)
      (retired.inFlight t (mem_of_getElem? going))
      (retired.withInFlight eraseIdx_subset)

variable {handle : String}

/-- A key is retired when its `DestroyKey` is answered. -/
theorem Ordered.retired {i : Nat} {held : HeldKey} (ordered : Ordered (fun _ => False) w)
    (turn : Turn w p (.removing handle i)) (bound : Bound w) (traced : Traced f w)
    (here : w.heap[i]? = some held) :
    ({ w with files := w.files.drop (sanitizeHandle handle) } : World).Retired f p
      w.servers.length held.key := by
  obtain ⟨c, made, named, key⟩ := turn.names.key here
  have named : c.handle = handle := named
  -- every trace of the key leads to the handle
  have only : ∀ {h : String}, (∃ c' ∈ w.created, c'.handle = h ∧ c'.key = held.key) →
      h = handle := by
    rintro h ⟨c', made', rfl, key'⟩
    cases bound.created_unique made made' (key'.trans key.symm)
    exact named
  have stem : sanitizeHandle handle = handle := traced.stem ⟨c, made, named, key⟩
  refine ⟨⟨c, made, key⟩, ?_, ?_, ?_⟩
  · intro stem' file kc hit loaded
    rw [stem] at hit
    obtain ⟨other, old⟩ := Table.get_drop_eq_some.mp hit
    exact other (only (traced.loaded bound old loaded))
  · intro o mem alive same
    refine ⟨?_, ordered.owners o mem⟩
    rintro rfl
    obtain ⟨j, here'⟩ := mem_iff_getElem?.mp mem
    have run : w.phase o.owner ≠ some .gone := by
      rw [turn.serving]
      nofun
    rcases ordered.owned j o here' alive run with ⟨h, put⟩ | ⟨t, flying, -, h, call⟩ | ⟨⟨⟩⟩
    · have handle' := only (same ▸ (traced.maps _ h j put).key here')
      rw [handle', turn.offMap handle i rfl] at put
      cases put
    · have names := (traced.inFlight t flying).names
      rw [call] at names
      have handle' : h = handle := only (same ▸ names.key here')
      refine turn.alone handle rfl t flying ?_
      rw [call, handle']
      rfl
  · intro t flying id j o makes here' same
    have names := (traced.inFlight t flying).names
    rw [Call.held_of_generates makes, Call.handle_of_generates makes] at names
    have handle' : id = handle := only (same ▸ names.key here')
    exact turn.alone handle rfl t flying (handle' ▸ Call.changes_of_generates makes)

/-! ## The answers of a step -/

/-- The answer neither gives a signature nor creates or destroys a key. -/
structure Answer.Idle (a : Answer) : Prop where
  signs : ∀ key, ¬ a.Signs key
  destroys : ∀ key, ¬ a.Destroys key
  generates : ∀ handle key, ¬ a.Generates handle key

theorem Answer.Idle.of_unanswered {a : Answer}
    (unanswered : ∀ reply key, a.result = .ok reply → a.key ≠ some key) : a.Idle := by
  refine ⟨?_, ?_, ?_⟩
  · rintro key ⟨_, reply, -, ok, named⟩
    exact unanswered reply key ok named
  · rintro key ⟨_, reply, -, ok, named⟩
    exact unanswered reply key ok named
  · rintro handle key ⟨_, _, -, ok, named⟩
    exact unanswered _ key ok named

theorem Answer.Idle.of_none {a : Answer} (none : a.key = none) : a.Idle :=
  .of_unanswered fun _ key _ named => Option.some_ne_none key (named.symm.trans none)

theorem Answer.Idle.of_error {a : Answer} {status : Status} (error : a.result = .error status) :
    a.Idle :=
  .of_unanswered fun _ _ ok => nomatch error.symm.trans ok

/-- What a step adds to the answers, and does to the store. -/
inductive Effect (f : KeyFormats) (w w' : World) : Prop
  | silent (answers : w'.answers = w.answers) (files : w'.files = w.files)
  | idle {a : Answer} (answers : w'.answers = w.answers ++ [a]) (files : w'.files = w.files)
      (idle : a.Idle)
  | signed {held : HeldKey} {req : SignRequest} {n : Nat} {result : Except Status Reply}
      (answers : w'.answers = w.answers ++ [⟨held.owner, .sign req, some held.key, n, result⟩])
      (files : w'.files = w.files) (member : held ∈ w.heap) (alive : held.destroyed = false)
  | generated {p n : Nat} {req : GenerateKeyRequest} {id : String} {key : SigningKey}
      {kc : KeyConstraints} {algorithm : Algorithm} {file : Sealed}
      (answers : w'.answers = w.answers ++
        [⟨p, .generateKey req, some key, n, .ok (.generated id algorithm)⟩])
      (files : w'.files = w.files.put id file) (stem : sanitizeHandle id = id)
      (absent : w.files.get id = none) (loads : loadFile f id file = .ok (key, kc))
  | removed {p n : Nat} {handle : String} {key : SigningKey}
      (answers : w'.answers = w.answers ++ [⟨p, .destroyKey handle, some key, n, .ok .destroyed⟩])
      (files : w'.files = w.files.drop handle) (retired : w'.Retired f p n key)

theorem Found.keeps {srv : Server} {w₁ : World} {i : Nat} (hit : Found f p srv handle w i w₁) :
    w₁.answers = w.answers ∧ w₁.files = w.files := by
  cases hit with
  | cached | loaded => exact ⟨rfl, rfl⟩

theorem Created.StoredAs.loads {c : Created} {stem : String} {sealed : Sealed}
    (stored : c.StoredAs stem sealed) (bound : Bound w) (traced : Traced f w)
    (made : c ∈ w.created) :
    ∃ kc, loadFile f stem sealed = .ok (c.key, kc) := by
  obtain ⟨kept, rfl, same⟩ := stored
  have sound := bound.created c made
  obtain ⟨kc, -, loaded⟩ := loadFile_seal f stem c.key
    (fun v mem => sound.purposes v ((same.purposes v).mp mem))
    (fun v mem => sound.hashes v ((same.hashes v).mp mem))
  rw [(traced.created c made).parses] at loaded
  exact ⟨kc, loaded⟩

theorem Resumed.effect {call : Call} (woke : Resumed p w call w') (turn : Turn w p call)
    (bound : Bound w) (traced : Traced f w) (follows : w.Follows ⟨p, call⟩)
    (ordered : Ordered (fun j => False ∨ ∃ handle, call = .destroying handle j) w) :
    Effect f w w' := by
  have stem : sanitizeHandle call.handle = call.handle := by
    obtain ⟨_, _, _, made⟩ := turn.names
    exact traced.stem made
  cases woke with
  | sealed | sealFailed | writeFailed | destroyed => exact .silent rfl rfl
  | @written req id i file held here =>
    have stem : sanitizeHandle id = id := stem
    obtain ⟨c, created, named, key, kept⟩ := follows.writes req id i file held rfl here
    obtain ⟨kc, loads⟩ := kept.loads bound traced created
    rw [key] at loads
    rw [stem]
    exact .generated rfl rfl stem (turn.unwritten id i rfl).1 loads
  | rolledBack => exact .idle rfl rfl (.of_none rfl)
  | @signed req i held here alive =>
    obtain ⟨held', here', owner, -⟩ := turn.names
    cases here.symm.trans here'
    subst owner
    exact .signed rfl rfl (mem_of_getElem? here) alive
  | signFailed | removeFailed => exact .idle rfl rfl (.of_error rfl)
  | @removed handle i held here =>
    have done : Ordered (fun _ => False) w := ordered.settle nofun
    refine .removed rfl ?_ ((done.retired turn bound traced here).answer p _ _ _)
    have stem : sanitizeHandle handle = handle := stem
    rw [stem]
    rfl

theorem Step.effect (moved : Step f w a w') (meets : orderly w a) (bound : Bound w)
    (traced : Traced f w) (ordered : Ordered (fun _ => False) w) : Effect f w w' := by
  cases moved with
  | refused => exact .idle rfl rfl (.of_none rfl)
  | published live hit here =>
    obtain ⟨ans, files⟩ := hit.keeps
    refine .idle (congrArg (· ++ _) ans) files ⟨?_, ?_, ?_⟩
    · rintro key ⟨_, _, ⟨⟩, -⟩
    · rintro key ⟨_, _, ⟨⟩, -⟩
    · rintro handle key ⟨_, _, ⟨⟩, -⟩
  | signRefused live hit here =>
    obtain ⟨ans, files⟩ := hit.keeps
    exact .idle (congrArg (· ++ _) ans) files (.of_error rfl)
  | signing live valid short known hit =>
    obtain ⟨ans, files⟩ := hit.keeps
    exact .silent ans files
  | destroyAbsent live offMap =>
    obtain ⟨quiet, abreast⟩ := Bool.and_eq_true_iff.mp meets
    have stem := (World.quiet_iff.mp quiet).1
    have srv := World.servers_of_serving live
    exact .idle rfl rfl (.of_none (World.named_of_abreast srv stem abreast offMap))
  | @proceed i out t w' going woke =>
    have effect := woke.effect (ordered.turn traced going)
      (bound.withInFlight eraseIdx_subset) (traced.withInFlight eraseIdx_subset)
      (traced.follows going) (ordered.erase going)
    cases effect with
    | silent ans files => exact .silent ans files
    | idle ans files idle => exact .idle ans files idle
    | signed ans files mem alive => exact .signed ans files mem alive
    | generated ans files stem gone loads => exact .generated ans files stem gone loads
    | removed ans files retired => exact .removed ans files retired
  | _ => exact .silent rfl rfl

/-! ## Whole runs -/

/-- What holds in every state of an orderly run. -/
structure Kept (f : KeyFormats) (w : World) : Prop where
  bound : Bound w
  traced : Traced f w
  ordered : Ordered (fun _ => False) w
  retired : ∀ d ∈ w.answers, ∀ key, d.Destroys key → w.Retired f d.process d.fleet key
  custody : Custody f w

/-- The cuts of a list that got one more element. -/
theorem snoc_eq_append_cons {α : Type} {xs old later : List α} {x a : α}
    (cut : xs ++ [x] = old ++ a :: later) :
    (old = xs ∧ a = x ∧ later = []) ∨ ∃ rest, later = rest ++ [x] ∧ xs = old ++ a :: rest := by
  rcases eq_nil_or_concat later with rfl | ⟨rest, last, rfl⟩
  · obtain ⟨same, one⟩ := append_inj' cut rfl
    cases one
    exact .inl ⟨same.symm, rfl, rfl⟩
  · have more : xs ++ [x] = (old ++ a :: rest) ++ [last] := by
      rw [cut, concat_eq_append, append_assoc, cons_append]
    obtain ⟨same, one⟩ := append_inj' more rfl
    cases one
    exact .inr ⟨rest, concat_eq_append, same⟩

section History

variable {f : KeyFormats} {w w' : World} (effect : Effect f w w') (kept : Kept f w)

include effect

/-- Only an object that was not destroyed gives a signature, and a key that can be loaded is in
the way of a new one. -/
theorem Effect.answered : w'.answers = w.answers ∨ ∃ x, w'.answers = w.answers ++ [x] ∧
    (∀ key, x.Signs key → ∃ held ∈ w.heap, held.destroyed = false ∧ held.key = key ∧
      held.owner = x.process) ∧
    (∀ key, x.Destroys key → w'.Retired f x.process x.fleet key) ∧
    ∀ handle key, x.Generates handle key → w.files.get (sanitizeHandle handle) = none := by
  cases effect with
  | silent ans => exact .inl ans
  | idle ans files idle =>
    exact .inr ⟨_, ans, fun key signs => absurd signs (idle.signs key),
      fun key destroys => absurd destroys (idle.destroys key),
      fun handle key makes => absurd makes (idle.generates handle key)⟩
  | @signed held req n result ans files mem alive =>
    refine .inr ⟨_, ans, ?_, ?_, ?_⟩
    · rintro key ⟨_, _, -, -, ⟨⟩⟩
      exact ⟨held, mem, alive, rfl, rfl⟩
    · rintro key ⟨_, _, ⟨⟩, -⟩
    · rintro handle key ⟨_, _, ⟨⟩, -⟩
  | generated ans files stem gone =>
    refine .inr ⟨_, ans, ?_, ?_, ?_⟩
    · rintro key ⟨_, _, ⟨⟩, -⟩
    · rintro key ⟨_, _, ⟨⟩, -⟩
    · rintro handle key ⟨_, _, ⟨⟩, ⟨⟩, -⟩
      rw [stem]
      exact gone
  | removed ans files retired =>
    refine .inr ⟨_, ans, ?_, ?_, ?_⟩
    · rintro key ⟨_, _, ⟨⟩, -⟩
    · rintro key ⟨_, _, ⟨⟩, ⟨⟩, ⟨⟩⟩
      exact retired
    · rintro handle key ⟨_, _, ⟨⟩, -⟩

include kept

theorem Effect.destroyed : w'.answers.Pairwise fun d s => ∀ key, d.Destroys key → s.Signs key →
    s.process ≠ d.process ∧ s.process < d.fleet := by
  rcases effect.answered with same | ⟨s, ans, signer, -⟩
  · exact same ▸ kept.custody.destroyed
  rw [ans]
  refine pairwise_append.mpr ⟨kept.custody.destroyed, pairwise_singleton _ s, ?_⟩
  intro d mem s' new key destroys signs
  cases mem_singleton.mp new
  obtain ⟨held, here, alive, same, owner⟩ := signer key signs
  rw [← owner]
  exact (kept.retired d mem key destroys).held held here alive same

theorem Effect.persisted : ∀ old a later handle key, w'.answers = old ++ a :: later →
    a.Generates handle key → Undisturbed handle later →
      ∃ kc, loadHandle f w'.files handle = .ok (some (key, kc)) := by
  intro old a later handle key cut makes undisturbed
  -- the last answer generates the key, or its handle could be loaded before
  have prior : ∀ {x}, w'.answers = w.answers ++ [x] → a = x ∨
      (x.request = .destroyKey handle → ∀ key, ¬ x.Destroys key) ∧ a ∈ w.answers ∧
        ∃ kc, loadHandle f w.files handle = .ok (some (key, kc)) := by
    intro x ans
    rcases snoc_eq_append_cons (ans ▸ cut) with ⟨-, same, -⟩ | ⟨rest, rfl, old'⟩
    · exact .inl same
    · obtain ⟨calm, last⟩ := forall_mem_append.mp undisturbed
      refine .inr ⟨last _ (mem_singleton.mpr rfl), ?_,
        kept.custody.persisted old a rest handle key old' makes calm⟩
      rw [old']
      exact mem_append_right _ mem_cons_self
  cases effect with
  | silent ans files =>
    rw [files]
    exact kept.custody.persisted old a later handle key (ans ▸ cut) makes undisturbed
  | idle ans files idle =>
    rw [files]
    rcases prior ans with rfl | ⟨-, -, loaded⟩
    · exact absurd makes (idle.generates handle key)
    · exact loaded
  | signed ans files =>
    rw [files]
    rcases prior ans with rfl | ⟨-, -, loaded⟩
    · obtain ⟨_, _, ⟨⟩, -⟩ := makes
    · exact loaded
  | @generated p n req id key' kc alg file ans files stem gone loads =>
    rw [files]
    rcases prior ans with rfl | ⟨-, -, kc', loaded⟩
    · obtain ⟨_, _, ⟨⟩, ⟨⟩, ⟨⟩⟩ := makes
      refine ⟨kc, ?_⟩
      rw [loadHandle, stem, Table.get_put_self]
      dsimp only
      rw [loads]
      rfl
    · obtain ⟨sealed, hit, -⟩ := loadHandle_eq_some loaded
      -- the handle has a file, so it is not the one that is generated
      have other : sanitizeHandle handle ≠ id := by
        intro same
        rw [same, gone] at hit
        cases hit
      refine ⟨kc', ?_⟩
      rw [loadHandle, Table.get_put_of_ne other]
      exact loaded
  | @removed p n handle' key' ans files =>
    rw [files]
    rcases prior ans with rfl | ⟨kept', mem, kc, loaded⟩
    · obtain ⟨_, _, ⟨⟩, -⟩ := makes
    · have stem : sanitizeHandle handle = handle := by
        obtain ⟨req, alg, request, result, named⟩ := makes
        have about : a.handle = some handle := by
          rw [Answer.handle, request, result]
        exact kept.traced.stem (kept.traced.answers a mem handle key about named)
      have other : sanitizeHandle handle ≠ handle' := by
        rw [stem]
        rintro rfl
        exact kept' rfl key' ⟨_, _, rfl, rfl, rfl⟩
      refine ⟨kc, ?_⟩
      rw [loadHandle, Table.get_drop_of_ne other]
      exact loaded

theorem Effect.exclusive : ∀ before a later b rest handle key key',
    w'.answers = before ++ a :: (later ++ b :: rest) → a.Generates handle key →
      b.Generates handle key' → ¬ Undisturbed handle later := by
  have old := kept.custody.exclusive
  rcases effect.answered with same | ⟨x, ans, -, -, gone⟩
  · exact same ▸ old
  intro before a later b rest handle key key' cut first second undisturbed
  have cut : w.answers ++ [x] = (before ++ a :: later) ++ b :: rest := by
    rw [← ans, cut, append_assoc, cons_append]
  rcases snoc_eq_append_cons cut with ⟨all, rfl, -⟩ | ⟨rest', rfl, prior⟩
  · obtain ⟨kc, loaded⟩ :=
      kept.custody.persisted before a later handle key all.symm first undisturbed
    obtain ⟨sealed, hit, -⟩ := loadHandle_eq_some loaded
    rw [gone handle key' second] at hit
    cases hit
  · refine old before a later b rest' handle key key' ?_ first second undisturbed
    rw [prior, append_assoc, cons_append]

theorem Effect.retired (keeps : ∀ p n key, w.Retired f p n key → w'.Retired f p n key) :
    ∀ d ∈ w'.answers, ∀ key, d.Destroys key → w'.Retired f d.process d.fleet key := by
  have old : ∀ d ∈ w.answers, ∀ key, d.Destroys key → w'.Retired f d.process d.fleet key :=
    fun d mem key destroys => keeps _ _ _ (kept.retired d mem key destroys)
  rcases effect.answered with same | ⟨x, ans, -, retires, -⟩
  · exact same ▸ old
  · rw [ans]
    exact forall_mem_snoc old retires

end History

theorem Kept.init (f : KeyFormats) : Kept f {} where
  bound := bound_init
  traced := {
    created := forall_mem_nil _
    files := fun _ file hit => nomatch (hit : none = some file)
    maps := fun _ _ i here => nomatch (here : none = some i)
    inFlight := forall_mem_nil _
    answers := forall_mem_nil _ }
  ordered := {
    owners := forall_mem_nil _
    stems := nodup_nil
    boots := fun _ stems boot => nomatch (boot : none = some (Phase.booting stems))
    serving := forall_mem_nil _
    once := nodup_nil
    unwritten := forall_mem_nil _
    offMap := forall_mem_nil _
    owned := fun _ held here => nomatch (here : none = some held) }
  retired := forall_mem_nil _
  custody := {
    destroyed := Pairwise.nil
    distinct := forall_mem_nil _
    persisted := by
      intro old a later handle key cut
      cases old <;> cases cut
    exclusive := by
      intro old a later b rest handle key key' cut
      cases old <;> cases cut }

theorem Step.kept (moved : Step f w a w') (meets : orderly w a) (kept : Kept f w) : Kept f w' := by
  have effect := moved.effect meets kept.bound kept.traced kept.ordered
  have bound := moved.bound (fitsHeader_of_orderly meets) kept.bound
  have traced := moved.traced meets kept.bound kept.traced
  refine ⟨bound, traced, moved.ordered meets kept.traced kept.ordered, ?_, ?_⟩
  · exact effect.retired kept fun _ _ _ retired => moved.retired kept.bound kept.traced retired
  · refine ⟨effect.destroyed kept, ?_, effect.persisted kept, effect.exclusive kept⟩
    -- different handles never come to the same key
    intro a mem b mem' h h' key about about' named named'
    obtain ⟨c, made, rfl, same⟩ := traced.answers a mem h key about named
    obtain ⟨c', made', rfl, same'⟩ := traced.answers b mem' h' key about' named'
    cases bound.created_unique made made' (same'.trans same.symm)
    rfl

/-- A destroyed key never signs again, and a handle names one key, in every run in which
handles are their own file stems, no call is begun on a handle while a `GenerateKey` or
`DestroyKey` of it is in flight, and these two are only called by a process that has the handle
on its map if the store has a file for it. -/
theorem custody_kept (f : KeyFormats) {as : List Action} {w : World}
    (run : Run (step f) (fun w a => orderly w a) {} as w) : Custody f w := by
  refine Kept.custody (run.invariant ?_ (Kept.init f))
  intro w a w' meets moved kept
  exact (step_cases moved).kept meets kept

/-- A key is generated, used, destroyed, and asked for again after a restart. -/
def destroyedAndRestarted : List Action :=
  [.start none, .load 0 (.ok ()), .generateKey 0 (keyFor 4 []) { key := .ok [7] },
    .proceed 0 (.ok ()), .proceed 0 (.ok ()), .sign 0 (signFor 4 []), .proceed 0 (.ok ()),
    .destroyKey 0 "code-signer", .proceed 0 (.ok ()), .proceed 0 (.ok ()), .exit 0, .start none,
    .load 1 (.ok ()), .sign 1 (signFor 4 [])]

/-- A key is generated, used and destroyed; after a restart its handle is refused. -/
theorem destroyed_key_refused_after_restart :
    ∃ w, execute (step anyBytes) {} destroyedAndRestarted = some w ∧
      (w.answers.map fun a => a.result.isOk) = [true, true, true, false] ∧ Custody anyBytes w := by
  have run : ∃ w, executeIf (step anyBytes) orderly {} destroyedAndRestarted = some w ∧
      execute (step anyBytes) {} destroyedAndRestarted = some w ∧
      (w.answers.map fun a => a.result.isOk) = [true, true, true, false] :=
    ⟨_, rfl, rfl, rfl⟩
  obtain ⟨w, cond, ran, answered⟩ := run
  exact ⟨w, ran, answered, custody_kept anyBytes (run_of_executeIf cond)⟩

/-- The second of two replicas answers that the key is destroyed, and signs with it. -/
theorem destroyed_key_signs :
    ∃ w, execute (step anyBytes) {} [.start none, .load 0 (.ok ()), .start none, .load 1 (.ok ()),
        .generateKey 0 (keyFor 4 []) { key := .ok [7] }, .proceed 0 (.ok ()), .proceed 0 (.ok ()),
        .destroyKey 1 "code-signer", .sign 1 (signFor 4 []), .proceed 0 (.ok ())] = some w ∧
      (w.answers.map fun a => a.result.isOk) = [true, true, true] ∧ ¬ Custody anyBytes w := by
  refine ⟨_, rfl, rfl, ?_⟩
  intro custody
  have apart := (pairwise_cons.mp (pairwise_cons.mp custody.destroyed).2).1 _
    mem_cons_self _ ⟨_, _, rfl, rfl, rfl⟩ ⟨_, _, rfl, rfl, rfl⟩
  exact apart.1 rfl

end Trustctl.Signing
