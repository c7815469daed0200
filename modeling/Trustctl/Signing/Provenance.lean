import Trustctl.Signing.Usage

/-!
# Every key goes back to its handle

A key is known by its raw handle on the maps and by the stem of the handle in the store, and
the store is only asked for what a map does not have.  `orderly` is the condition under which
the two never differ: handles are their own stems, no call is begun on a handle while a
`GenerateKey` or `DestroyKey` of it is in flight, and these two are only called by a process
that has the handle on its map if the store has a file for it.

* `Step.traced` : under the condition whatever is stored, on a map, in flight or answered under
  a handle was created under it.
-/

namespace Trustctl.Signing

open List Option Systems

/-! ## The condition -/

/-- The handle that a `GenerateKey` or a `DestroyKey` in flight is about. -/
def Call.changes : Call → Option String
  | .sealing _ id _ | .writing _ id _ _ | .rollingBack _ id _ _ => some id
  | .destroying handle _ | .removing handle _ => some handle
  | .signing _ _ => none

/-- The place a handle has on the map of a process. -/
def World.place (w : World) (p : Nat) (handle : String) : Option Nat :=
  (w.servers[p]?).bind fun srv => srv.keys.get handle

/-- The handle is its own file stem, and no change of it is in flight. -/
def World.quiet (w : World) (handle : String) : Bool :=
  sanitizeHandle handle = handle && w.inFlight.all fun t => t.call.changes ≠ some handle

/-- The process has the handle on its map, or the store has no file for it. -/
def World.abreast (w : World) (p : Nat) (handle : String) : Bool :=
  (w.place p handle).isSome || (w.files.get handle).isNone

def orderly (w : World) : Action → Bool
  | .generateKey p req draw => req.fitsHeader &&
      match handleFor req draw with
      | .ok id => w.quiet id && w.abreast p id
      | .error _ => true
  | .getPublicKey _ handle => w.quiet handle
  | .sign _ req => w.quiet req.handle
  | .destroyKey p handle => w.quiet handle && w.abreast p handle
  | _ => true

variable {w : World}

theorem fitsHeader_of_orderly {a : Action} (meets : orderly w a) : a.fitsHeader := by
  cases a with
  | generateKey => exact (Bool.and_eq_true_iff.mp meets).1
  | _ => rfl

/-! ## The maps and phases of the processes -/

def World.phase (w : World) (p : Nat) : Option Phase := (w.servers[p]?).map Server.phase

section Places

variable {w : World} {p q : Nat} {srv : Server} {handle h : String}

theorem World.place_eq (server : w.servers[p]? = some srv) (handle : String) :
    w.place p handle = srv.keys.get handle := by
  rw [World.place, server]
  rfl

theorem World.phase_eq (server : w.servers[p]? = some srv) : w.phase p = some srv.phase := by
  rw [World.phase, server]
  rfl

theorem World.phase_of_serving (live : w.serving p = some srv) : w.phase p = some .serving := by
  unfold World.serving at live
  split at live
  case h_1 server =>
    split at live
    case h_1 phase => rw [World.phase_eq server, phase]
    case h_2 => cases live
  case h_2 => cases live

/-- What changing the server of one process does to the places. -/
theorem World.place_setServer (w : World) (p q : Nat) (g : Server → Server) (h : String) :
    (w.setServer p g).place q h = (w.servers[q]?).bind fun srv =>
      (if p = q then g srv else srv).keys.get h := by
  rw [World.place, World.setServer, getElem?_modify]
  cases w.servers[q]? <;> rfl

variable {g : Server → Server}

theorem World.place_setPhase (w : World) (p : Nat) (phase : Phase) (q : Nat) (h : String) :
    (w.setPhase p phase).place q h = w.place q h := by
  unfold World.setPhase
  rw [World.place_setServer, World.place]
  congr 1
  funext srv
  split <;> rfl

theorem World.place_drop (w : World) (p : Nat) (handle : String) (q : Nat) (h : String) :
    (w.setServer p fun srv => { srv with keys := srv.keys.drop handle }).place q h =
      if p = q ∧ h = handle then none else w.place q h := by
  rw [World.place_setServer, World.place]
  by_cases same : p = q
  · by_cases cut : h = handle
    · cases w.servers[q]? <;> simp [same, cut]
    · cases w.servers[q]? <;> simp [same, cut, Table.get_drop_of_ne cut]
  · simp [same]

variable {held : HeldKey}

theorem World.place_hold (server : w.servers[held.owner]? = some srv)
    (handle : String) (q : Nat) (h : String) :
    (w.hold handle held).place q h =
      if held.owner = q ∧ h = handle then some w.heap.length else w.place q h := by
  rw [World.hold, World.place_setServer, World.place]
  by_cases same : held.owner = q
  · subst same
    by_cases put : h = handle
    · simp [server, put]
    · simp [put, Table.get_put_of_ne put]
  · simp [same]

theorem World.place_clear (w : World) (p q : Nat) (h : String) :
    (w.setServer p fun srv => { srv with keys := [] }).place q h =
      if p = q then none else w.place q h := by
  rw [World.place_setServer, World.place]
  by_cases same : p = q
  · cases w.servers[q]? <;> simp [same, Table.get]
  · simp [same]

theorem World.place_start (w : World) (authorizer : Option SignAuthorizer) (phase : Phase)
    (q : Nat) (h : String) :
    ({ w with servers := w.servers ++ [{ authorizer := authorizer, phase := phase }] } :
      World).place q h = w.place q h := by
  rw [World.place, World.place, getElem?_append]
  split
  case isTrue => rfl
  case isFalse new =>
    rw [getElem?_eq_none (Nat.le_of_not_lt new)]
    cases q - w.servers.length <;> rfl

theorem World.phase_start (w : World) (authorizer : Option SignAuthorizer) (phase : Phase)
    (q : Nat) :
    ({ w with servers := w.servers ++ [{ authorizer := authorizer, phase := phase }] } :
      World).phase q = if q = w.servers.length then some phase else w.phase q := by
  rw [World.phase, World.phase, getElem?_append]
  by_cases last : q = w.servers.length
  · subst last
    simp
  · rw [if_neg last]
    split
    case isTrue => rfl
    case isFalse outside =>
      rw [getElem?_eq_none (Nat.le_of_not_lt outside), getElem?_eq_none]
      simp only [length_singleton]
      omega

theorem World.phase_setServer (w : World) (p : Nat)
    (keeps : ∀ srv, (g srv).phase = srv.phase) (q : Nat) :
    (w.setServer p g).phase q = w.phase q := by
  rw [World.phase, World.setServer, getElem?_modify, World.phase]
  cases w.servers[q]? with
  | none => rfl
  | some srv =>
    by_cases same : p = q
    · simp [same, keeps]
    · simp [same]

theorem World.phase_hold (w : World) (handle : String) (held : HeldKey) (q : Nat) :
    (w.hold handle held).phase q = w.phase q := by
  refine World.phase_setServer _ _ ?_ q
  exact fun _ => rfl

/-- A process that loads a key may as well move on first. -/
theorem World.hold_setPhase (w : World) (handle : String) (held : HeldKey) (phase : Phase) :
    (w.hold handle held).setPhase held.owner phase =
      (w.setPhase held.owner phase).hold handle held := by
  unfold World.hold World.setPhase World.setServer
  congr 1
  ext q srv
  simp only [getElem?_modify]
  cases w.servers[q]? with
  | none => rfl
  | some _ => by_cases same : held.owner = q <;> simp [same]

/-- An object that is usable after a destruction was not meant. -/
theorem World.destroy_alive {place : Nat → Bool} {j : Nat}
    (here : (w.destroy place).heap[j]? = some held) (alive : held.destroyed = false) :
    place j = false := by
  rw [World.destroy, getElem?_mapIdx] at here
  obtain ⟨old, -, rfl⟩ := map_eq_some_iff.mp here
  cases marked : place j with
  | false => rfl
  | true =>
    rw [marked] at alive
    cases alive

theorem World.phase_setPhase (w : World) (p : Nat) (phase : Phase) (q : Nat) :
    (w.setPhase p phase).phase q = if p = q then (w.phase q).map fun _ => phase else w.phase q := by
  rw [World.phase, World.setPhase, World.setServer, getElem?_modify, World.phase]
  cases w.servers[q]? with
  | none => simp
  | some srv =>
    by_cases same : p = q
    · simp [same]
    · simp [same]

end Places

/-! ## Provenance -/

def Answer.handle (a : Answer) : Option String :=
  match a.request, a.result with
  | .generateKey _, .ok (.generated id _) => some id
  | .generateKey _, _ => none
  | .getPublicKey handle, _ => some handle
  | .sign req, _ => some req.handle
  | .destroyKey handle, _ => some handle

def Call.handle : Call → String
  | .sealing _ id _ | .writing _ id _ _ | .rollingBack _ id _ _ => id
  | .signing req _ => req.handle
  | .destroying handle _ | .removing handle _ => handle

/-- The place of the key a call works on. -/
def Call.held : Call → Nat
  | .sealing _ _ i | .writing _ _ i _ | .rollingBack _ _ i _ => i
  | .signing _ i => i
  | .destroying _ i | .removing _ i => i

/-- The object at a place is one of the process, of a key created under the handle. -/
def World.Names (w : World) (p : Nat) (handle : String) (i : Nat) : Prop :=
  ∃ held, w.heap[i]? = some held ∧ held.owner = p ∧
    ∃ c ∈ w.created, c.handle = handle ∧ c.key = held.key

/-- The file holds a key created under the handle that names it. -/
def World.Stores (w : World) (stem : String) (file : Sealed) : Prop :=
  ∃ c ∈ w.created, c.handle = stem ∧ c.StoredAs stem file

structure Created.Regular (f : KeyFormats) (c : Created) : Prop where
  stem : sanitizeHandle c.handle = c.handle
  parses : f.parse c.key.algorithm c.key.bytes = .ok ()

structure World.Follows (w : World) (t : InFlight) : Prop where
  names : w.Names t.process t.call.handle t.call.held
  writes : ∀ req id i file held, t.call = .writing req id i file → w.heap[i]? = some held →
    ∃ c ∈ w.created, c.handle = id ∧ c.key = held.key ∧ c.StoredAs id file

/-- So is the answer. -/
def World.Reports (w : World) (a : Answer) : Prop :=
  ∀ handle key, a.handle = some handle → a.key = some key →
    ∃ c ∈ w.created, c.handle = handle ∧ c.key = key

/-- Whatever is stored, on a map, in flight or answered under a handle was created under it. -/
structure Traced (f : KeyFormats) (w : World) : Prop where
  created : ∀ c ∈ w.created, c.Regular f
  files : ∀ stem file, w.files.get stem = some file → w.Stores stem file
  maps : ∀ p handle i, w.place p handle = some i → w.Names p handle i
  inFlight : ∀ t ∈ w.inFlight, w.Follows t
  answers : ∀ a ∈ w.answers, w.Reports a

section Growth

variable {f : KeyFormats} {w w' : World} (grows : Grows w w')

include grows

variable {handle : String} {p : Nat} {i : Nat}

theorem World.Names.grow (names : w.Names p handle i) : w'.Names p handle i := by
  obtain ⟨held, here, owner, c, made, same, key⟩ := names
  obtain ⟨held', here', kept⟩ := grows.heap i held here
  exact ⟨held', here', kept.owner.trans owner, c, grows.created made, same, key.trans kept.key.symm⟩

variable {stem : String}

theorem World.Stores.grow {file : Sealed} (stores : w.Stores stem file) : w'.Stores stem file := by
  obtain ⟨c, made, kept⟩ := stores
  exact ⟨c, grows.created made, kept⟩

theorem World.Follows.grow {t : InFlight} (follows : w.Follows t) : w'.Follows t := by
  refine ⟨follows.names.grow grows, ?_⟩
  intro req id i file held' call here'
  obtain ⟨held, here, -⟩ := follows.names
  rw [call] at here
  obtain ⟨held'', here'', kept⟩ := grows.heap i held here
  cases here'.symm.trans here''
  obtain ⟨c, made, named, key, stored⟩ := follows.writes req id i file held call here
  exact ⟨c, grows.created made, named, key.trans kept.key.symm, stored⟩

variable {a : Answer}

theorem World.Reports.grow (reports : w.Reports a) : w'.Reports a := by
  intro handle key about named
  obtain ⟨c, made, same⟩ := reports handle key about named
  exact ⟨c, grows.created made, same⟩

theorem Traced.grow (traced : Traced f w) (made : ∀ c ∈ w'.created, c ∈ w.created ∨ c.Regular f)
    (files : ∀ stem file, w'.files.get stem = some file →
      w.files.get stem = some file ∨ w.Stores stem file)
    (maps : ∀ p handle i, w'.place p handle = some i →
      w.place p handle = some i ∨ w'.Names p handle i)
    (going : ∀ t ∈ w'.inFlight, t ∈ w.inFlight ∨ w'.Follows t)
    (ans : ∀ a ∈ w'.answers, a ∈ w.answers ∨ w.Reports a) : Traced f w' := by
  constructor
  · exact fun c mem => (made c mem).elim (traced.created c) id
  · exact fun stem file hit => ((files stem file hit).elim (traced.files stem file) id).grow grows
  · exact fun p handle i here =>
      (maps p handle i here).elim (fun old => (traced.maps p handle i old).grow grows) id
  · exact fun t mem =>
      (going t mem).elim (fun old => (traced.inFlight t old).grow grows) id
  · exact fun a mem => ((ans a mem).elim (traced.answers a) id).grow grows

end Growth

section Updates

variable {f : KeyFormats} {w : World} (traced : Traced f w)

include traced

theorem Traced.answer {p : Nat} {req : Request} {key : Option SigningKey}
    {result : Except Status Reply}
    (reports : w.Reports ⟨p, req, key, w.servers.length, result⟩) :
    Traced f (w.answer p req key result) := by
  refine traced.grow (.answer ..) (fun _ => .inl) (fun _ _ => .inl) (fun _ _ _ => .inl)
    (fun _ => .inl) ?_
  refine forall_mem_snoc (fun _ => .inl) ?_
  exact .inr reports

theorem Traced.goOn {p : Nat} {call : Call} (follows : w.Follows ⟨p, call⟩) :
    Traced f (w.goOn p call) := by
  have grows : Grows w (w.goOn p call) := .goOn ..
  refine traced.grow grows (fun _ => .inl) (fun _ _ => .inl) (fun _ _ _ => .inl) ?_ (fun _ => .inl)
  refine forall_mem_snoc (fun _ => .inl) ?_
  exact .inr (follows.grow grows)

theorem Traced.setServer {g : Server → Server} (p : Nat)
    (keeps : ∀ srv, (g srv).authorizer = srv.authorizer)
    (maps : ∀ q handle i, (w.setServer p g).place q handle = some i →
      w.place q handle = some i) : Traced f (w.setServer p g) :=
  traced.grow (.setServer w p keeps) (fun _ => .inl) (fun _ _ => .inl)
    (fun q handle i here => .inl (maps q handle i here)) (fun _ => .inl) (fun _ => .inl)

theorem Traced.setPhase (p : Nat) (phase : Phase) : Traced f (w.setPhase p phase) := by
  refine traced.setServer p (fun _ => rfl) ?_
  intro q handle i here
  exact (World.place_setPhase w p phase q handle).symm.trans here

theorem Traced.dropKey (p : Nat) (handle : String) :
    Traced f (w.setServer p fun srv => { srv with keys := srv.keys.drop handle }) := by
  refine traced.setServer p (fun _ => rfl) ?_
  intro q h i here
  rw [World.place_drop] at here
  split at here
  case isTrue => cases here
  case isFalse => exact here

theorem Traced.destroy (place : Nat → Bool) : Traced f (w.destroy place) :=
  traced.grow (.destroy ..) (fun _ => .inl) (fun _ _ => .inl) (fun _ _ _ => .inl)
    (fun _ => .inl) (fun _ => .inl)

theorem Traced.create {c : Created} (regular : c.Regular f) : Traced f (w.create c) := by
  refine traced.grow (.create ..) ?_ (fun _ _ => .inl) (fun _ _ _ => .inl) (fun _ => .inl)
    (fun _ => .inl)
  refine forall_mem_snoc (fun _ => .inl) ?_
  exact .inr regular

variable {srv : Server}

theorem Traced.hold {handle : String} {held : HeldKey} (server : w.servers[held.owner]? = some srv)
    (made : ∃ c ∈ w.created, c.handle = handle ∧ c.key = held.key) :
    Traced f (w.hold handle held) := by
  refine traced.grow (.hold ..) (fun _ => .inl) (fun _ _ => .inl) ?_ (fun _ => .inl) (fun _ => .inl)
  intro q h i here
  rw [World.place_hold server] at here
  split at here
  case isTrue new =>
    obtain ⟨rfl, rfl⟩ := new
    cases here
    exact .inr ⟨held, getElem?_concat_length, rfl, made⟩
  case isFalse => exact .inl here

theorem Traced.withFiles {files : Table String Sealed}
    (back : ∀ stem file, files.get stem = some file →
      w.files.get stem = some file ∨ w.Stores stem file) :
    Traced f { w with files := files } := by
  have grows : Grows w { w with files := files } := .of_eq rfl
  exact traced.grow grows (fun _ => .inl) back (fun _ _ _ => .inl) (fun _ => .inl) (fun _ => .inl)

theorem Traced.withInFlight {inFlight : List InFlight} (fewer : inFlight ⊆ w.inFlight) :
    Traced f { w with inFlight := inFlight } := by
  have grows : Grows w { w with inFlight := inFlight } := .of_eq rfl
  exact traced.grow grows (fun _ => .inl) (fun _ _ => .inl) (fun _ _ _ => .inl)
    (fun _ mem => .inl (fewer mem)) (fun _ => .inl)

theorem Traced.follows {i : Nat} {t : InFlight} (inFlight : w.inFlight[i]? = some t) :
    ({ w with inFlight := w.inFlight.eraseIdx i } : World).Follows t := by
  refine (traced.inFlight t (mem_of_getElem? inFlight)).grow ?_
  exact .of_eq rfl

end Updates

variable {f : KeyFormats} {kc : KeyConstraints}

theorem Created.StoredAs.key_eq {stem : String} {c : Created}
    {sealed : Sealed} {key : SigningKey} (stored : c.StoredAs stem sealed)
    (bound : Bound w) (made : c ∈ w.created) (read : loadFile f stem sealed = .ok (key, kc)) :
    key = c.key := by
  obtain ⟨kept, rfl, same⟩ := stored
  have sound := bound.created c made
  exact (eq_of_loadFile (fun v mem => sound.purposes v ((same.purposes v).mp mem))
    (fun v mem => sound.hashes v ((same.hashes v).mp mem)) read).1

theorem Traced.loaded {stem : String} (traced : Traced f w) (bound : Bound w) {sealed : Sealed}
    {key : SigningKey}
    (file : w.files.get stem = some sealed) (read : loadFile f stem sealed = .ok (key, kc)) :
    ∃ c ∈ w.created, c.handle = stem ∧ c.key = key := by
  obtain ⟨c, made, named, kept⟩ := traced.files stem sealed file
  exact ⟨c, made, named, (kept.key_eq bound made read).symm⟩

/-- What `lookup` comes to for a handle that is its own stem. -/
theorem Found.traced {p : Nat} {srv : Server} {handle : String} {i : Nat} {w w₁ : World}
    (hit : Found f p srv handle w i w₁) (server : w.servers[p]? = some srv)
    (stem : sanitizeHandle handle = handle) (bound : Bound w) (traced : Traced f w) :
    Traced f w₁ ∧ w₁.Names p handle i := by
  cases hit with
  | cached onMap =>
    exact ⟨traced, traced.maps p handle i ((World.place_eq server handle).trans onMap)⟩
  | loaded offMap read =>
    obtain ⟨sealed, file, loaded⟩ := loadHandle_eq_some read
    rw [stem] at file loaded
    have made := traced.loaded bound file loaded
    refine ⟨traced.hold server made, _, getElem?_concat_length, rfl, ?_⟩
    exact made

theorem World.Names.key {p : Nat} {handle : String} {i : Nat} {held : HeldKey}
    (names : w.Names p handle i) (here : w.heap[i]? = some held) :
    ∃ c ∈ w.created, c.handle = handle ∧ c.key = held.key := by
  obtain ⟨held', here', owner, made⟩ := names
  cases here.symm.trans here'
  exact made

theorem World.Reports.of_none {a : Answer} (none : a.key = none) : w.Reports a := by
  intro handle key _ named
  rw [none] at named
  cases named

/-- A handle that a key was created under is its own stem. -/
theorem Traced.stem {handle : String} (traced : Traced f w) {key : SigningKey}
    (made : ∃ c ∈ w.created, c.handle = handle ∧ c.key = key) : sanitizeHandle handle = handle := by
  obtain ⟨c, created, rfl, -⟩ := made
  exact (traced.created c created).stem

theorem World.Reports.of_made {handle : String} {a : Answer} {key : SigningKey}
    (made : ∃ c ∈ w.created, c.handle = handle ∧ c.key = key) (about : a.handle = some handle)
    (named : a.key = some key) : w.Reports a := by
  intro h k about' named'
  cases about.symm.trans about'
  cases named.symm.trans named'
  exact made

theorem Resumed.traced {p : Nat} {w w' : World} {call : Call} (woke : Resumed p w call w')
    (bound : Bound w) (traced : Traced f w) (follows : w.Follows ⟨p, call⟩) : Traced f w' := by
  cases woke with
  | @sealed req id i held here alive =>
    refine traced.goOn ⟨follows.names, ?_⟩
    intro req' id' i' file held' call here'
    cases call
    cases here'.symm.trans here
    obtain ⟨c, created, named, key⟩ := follows.names.key here
    have named : c.handle = id := named
    refine ⟨c, created, named, key, held.constraints, ?_, ?_⟩
    · rw [← named, (traced.created c created).stem, key]
    · obtain ⟨c', made', same⟩ := bound.held held (mem_of_getElem? here)
      cases bound.created_unique made' created (key.trans same.key)
      exact same.same
  | sealFailed | writeFailed => exact traced.goOn ⟨follows.names, nofun⟩
  | @written req id i file held here =>
    have made := follows.names.key here
    have own : sanitizeHandle id = id := traced.stem made
    refine (traced.withFiles ?_).answer (.of_made made rfl rfl)
    intro stem file' hit
    rw [own] at hit
    rcases Table.get_put_eq_some.mp hit with ⟨rfl, rfl⟩ | ⟨-, old⟩
    · obtain ⟨c, created, named, -, kept⟩ := follows.writes req _ i file held rfl here
      exact .inr ⟨c, created, named, kept⟩
    · exact .inl old
  | rolledBack => exact ((traced.dropKey p _).destroy _).answer (.of_none rfl)
  | signed here | signFailed here | removeFailed here =>
    exact traced.answer (.of_made (follows.names.key here) rfl rfl)
  | destroyed =>
    refine (traced.destroy _).goOn ⟨?_, nofun⟩
    exact follows.names.grow (.destroy ..)
  | @removed handle i held here =>
    refine (traced.withFiles ?_).answer (.of_made (follows.names.key here) rfl rfl)
    exact fun stem file hit => .inl (Table.get_drop_eq_some.mp hit).2

theorem World.quiet_iff {handle : String} : w.quiet handle ↔
    sanitizeHandle handle = handle ∧ ∀ t ∈ w.inFlight, t.call.changes ≠ some handle := by
  simp [World.quiet]

/-- What the condition says of a key about to be created. -/
theorem orderly_created {p : Nat} {srv : Server} {req : GenerateKeyRequest} {draw : Draw}
    {id : String} {key : SigningKey}
    (meets : orderly w (.generateKey p req draw))
    (ready : Prepared srv req draw id key kc) (server : w.servers[p]? = some srv)
    (offMap : srv.keys.get id = none) : w.quiet id ∧ w.files.get id = none := by
  obtain ⟨-, meets⟩ := Bool.and_eq_true_iff.mp meets
  rw [ready.id] at meets
  obtain ⟨quiet, abreast⟩ := Bool.and_eq_true_iff.mp meets
  refine ⟨quiet, ?_⟩
  rw [World.abreast, World.place_eq server, offMap] at abreast
  exact isNone_iff_eq_none.mp abreast

/-- A handle that is neither on the map nor in the store names no key. -/
theorem World.named_of_abreast {p : Nat} {srv : Server} {handle : String}
    (server : w.servers[p]? = some srv) (stem : sanitizeHandle handle = handle)
    (abreast : w.abreast p handle) (offMap : srv.keys.get handle = none) :
    w.named f srv handle = none := by
  rw [World.abreast, World.place_eq server, offMap] at abreast
  have gone : w.files.get handle = none := isNone_iff_eq_none.mp abreast
  rw [World.named, offMap, loadHandle, stem, gone]
  rfl

theorem Prepared.parses {srv : Server} {req : GenerateKeyRequest} {draw : Draw} {id : String}
    {key : SigningKey}
    (ready : Prepared srv req draw id key kc) (fits : draw.possible f req w) :
    f.parse key.algorithm key.bytes = .ok () := by
  unfold Draw.possible at fits
  rw [ready.bytes, ready.algorithm] at fits
  obtain ⟨parses, -⟩ := Bool.and_eq_true_iff.mp fits
  cases parsed : f.parse key.algorithm key.bytes with
  | error text =>
    rw [parsed] at parses
    cases parses
  | ok _ => rfl

theorem Step.traced {w w' : World} {a : Action} (moved : Step f w a w')
    (meets : orderly w a) (bound : Bound w) (traced : Traced f w) : Traced f w' := by
  have grows := moved.grows
  cases moved with
  | start =>
    refine traced.grow grows (fun _ => .inl) (fun _ _ => .inl) ?_ (fun _ => .inl) (fun _ => .inl)
    intro p handle i here
    refine .inl ?_
    exact (World.place_start w _ _ p handle).symm.trans here
  | booted => exact traced.setPhase _ _
  | loaded server boot file read =>
    exact (traced.hold server (traced.loaded bound file read)).setPhase _ _
  | exit p =>
    exact (traced.setPhase p .gone).withInFlight fun _ mem => mem_of_mem_filter mem
  | shutdown =>
    refine (traced.destroy _).setServer _ (fun _ => rfl) ?_
    intro q handle i here
    rw [World.place_clear] at here
    split at here
    case isTrue => cases here
    case isFalse => exact here
  | authorize =>
    exact traced.grow grows (fun _ => .inl) (fun _ _ => .inl) (fun _ _ _ => .inl)
      (fun _ => .inl) (fun _ => .inl)
  | refused => exact traced.answer (.of_none rfl)
  | @created p srv req draw id key kc live fits ready offMap =>
    have server := World.servers_of_serving live
    obtain ⟨quiet, -⟩ := orderly_created meets ready server offMap
    have regular : Created.Regular f ⟨id, key, req⟩ :=
      ⟨(World.quiet_iff.mp quiet).1, ready.parses fits⟩
    have made : ∃ c ∈ (w.create ⟨id, key, req⟩).created, c.handle = id ∧ c.key = key :=
      ⟨⟨id, key, req⟩, mem_append_right _ (mem_singleton.mpr rfl), rfl, rfl⟩
    have held : Traced f ((w.create ⟨id, key, req⟩).hold id
        { owner := p, key := key, constraints := kc }) := (traced.create regular).hold server made
    exact held.goOn ⟨⟨_, getElem?_concat_length, rfl, made⟩, nofun⟩
  | published live hit here | signRefused live hit here =>
    have stem := (World.quiet_iff.mp meets).1
    obtain ⟨traced₁, names⟩ :=
      hit.traced (World.servers_of_serving live) stem bound traced
    exact traced₁.answer (.of_made (names.key here) rfl rfl)
  | signing live valid short known hit here =>
    have stem := (World.quiet_iff.mp meets).1
    obtain ⟨traced₁, names⟩ :=
      hit.traced (World.servers_of_serving live) stem bound traced
    exact traced₁.goOn ⟨names, nofun⟩
  | destroyAbsent live offMap =>
    obtain ⟨quiet, abreast⟩ := Bool.and_eq_true_iff.mp meets
    have stem := (World.quiet_iff.mp quiet).1
    have server := World.servers_of_serving live
    exact traced.answer (.of_none (World.named_of_abreast server stem abreast offMap))
  | destroying live onMap =>
    have names := traced.maps _ _ _ ((World.place_eq (World.servers_of_serving live) _).trans onMap)
    exact (traced.dropKey _ _).goOn ⟨names, nofun⟩
  | @proceed i out t w' going woke =>
    exact woke.traced (bound.withInFlight eraseIdx_subset)
      (traced.withInFlight eraseIdx_subset) (traced.follows going)

end Trustctl.Signing
