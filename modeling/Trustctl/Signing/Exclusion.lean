import Trustctl.Signing.Provenance
import Mathlib.Data.List.Perm.Basic

/-!
# Calls on one handle do not overlap

* `Ordered` : the invariant that the condition keeps up.  At most one call in flight changes a
  handle, a key that is being generated has no file yet, one that is being destroyed is off the
  map, and a process holds no usable object that is neither on its map nor about to be
  destroyed.
* `Step.ordered` : every step that meets the condition keeps it.
-/

namespace Trustctl.Signing

open List Systems

/-- The handle and the place of the key that a `GenerateKey` in flight is about. -/
def Call.generates : Call → Option (String × Nat)
  | .sealing _ id i | .writing _ id i _ | .rollingBack _ id i _ => some (id, i)
  | _ => none

/-- Those of a `DestroyKey` in flight. -/
def Call.destroys : Call → Option (String × Nat)
  | .destroying handle i | .removing handle i => some (handle, i)
  | _ => none

variable {i : Nat} {call : Call}

theorem Call.changes_of_generates {id : String} (makes : call.generates = some (id, i)) :
    call.changes = some id := by
  cases call <;> cases makes <;> rfl

variable {handle : String}

theorem Call.changes_of_destroys (destroys : call.destroys = some (handle, i)) :
    call.changes = some handle := by
  cases call <;> cases destroys <;> rfl

/-- What the condition keeps up.  Objects at spare places are about to be destroyed. -/
structure Ordered (spare : Nat → Prop) (w : World) : Prop where
  owners : ∀ held ∈ w.heap, held.owner < w.servers.length
  stems : (w.files.map Prod.fst).Nodup
  /-- A file is read once by a starting process. -/
  boots : ∀ p stems, w.phase p = some (.booting stems) →
    stems.Nodup ∧ ∀ stem ∈ stems, w.place p stem = none
  serving : ∀ t ∈ w.inFlight, w.phase t.process = some .serving
  /-- At most one call in flight changes a handle. -/
  once : (w.inFlight.filterMap fun t => t.call.changes).Nodup
  unwritten : ∀ t ∈ w.inFlight, ∀ id i, t.call.generates = some (id, i) →
    w.files.get id = none ∧ (w.place t.process id = some i ∨ w.place t.process id = none)
  offMap : ∀ t ∈ w.inFlight, ∀ handle i, t.call.destroys = some (handle, i) →
    w.place t.process handle = none
  /-- A usable object of a process is on its map or about to be destroyed. -/
  owned : ∀ (i : Nat) held, w.heap[i]? = some held → held.destroyed = false →
    w.phase held.owner ≠ some .gone → (∃ handle, w.place held.owner handle = some i) ∨
      (∃ t ∈ w.inFlight, t.process = held.owner ∧ ∃ handle, t.call = .destroying handle i) ∨ spare i

namespace Ordered

variable {spare : Nat → Prop} {w : World} {w' : World}

variable (ordered : Ordered spare w)

include ordered

/-- Nothing but the answers, the authorizations and the list of created keys changes. -/
theorem congr (same : (w'.heap, w'.servers, w'.files, w'.inFlight) =
    (w.heap, w.servers, w.files, w.inFlight)) : Ordered spare w' := by
  simp only [Prod.mk.injEq] at same
  obtain ⟨heap, servers, files, going⟩ := same
  have place : w'.place = w.place := by
    funext p h
    rw [World.place, World.place, servers]
  have phase : w'.phase = w.phase := by
    funext p
    rw [World.phase, World.phase, servers]
  obtain ⟨owners, stems, boots, live, once, blank, offMap, owned⟩ := ordered
  constructor <;> simp only [heap, servers, files, going, place, phase] <;> assumption

variable {spare' : Nat → Prop}

theorem settle (cover : ∀ (i : Nat) held, w.heap[i]? = some held → held.destroyed = false →
      spare i → spare' i) : Ordered spare' w := by
  refine { ordered with owned := ?_ }
  intro i held here alive run
  rcases ordered.owned i held here alive run with put | going | left
  · exact .inl put
  · exact .inr (.inl going)
  · exact .inr (.inr (cover i held here alive left))

/-- Processes move on, places are taken off their maps and calls out of flight. -/
theorem move (heap : w'.heap = w.heap) (files : w'.files = w.files)
    (more : w.servers.length ≤ w'.servers.length) (fewer : w'.inFlight.Sublist w.inFlight)
    (left : ∀ i, spare i → spare' i) (places : ∀ p h, w'.place p h = w.place p h ∨
      w'.place p h = none ∧ ∀ i, w.place p h = some i → spare' i)
    (live : ∀ t ∈ w'.inFlight, w'.phase t.process = some .serving)
    (boots : ∀ p stems, w'.phase p = some (.booting stems) →
      w.phase p = some (.booting stems) ∨ stems.Nodup ∧ ∀ stem ∈ stems, w.place p stem = none)
    (run : ∀ held ∈ w.heap, w'.phase held.owner ≠ some .gone → w.phase held.owner ≠ some .gone)
    (going : ∀ t ∈ w.inFlight, w'.phase t.process ≠ some .gone →
      t ∈ w'.inFlight ∨ ∀ i handle, t.call = .destroying handle i → spare' i) :
    Ordered spare' w' := by
  have gone : ∀ {p h}, w.place p h = none → w'.place p h = none := by
    intro p h absent
    rcases places p h with same | ⟨off, -⟩
    · exact same.trans absent
    · exact off
  refine ⟨?_, files ▸ ordered.stems, ?_, live, ordered.once.sublist (fewer.filterMap _), ?_, ?_, ?_⟩
  · rw [heap]
    exact fun held mem => Nat.lt_of_lt_of_le (ordered.owners held mem) more
  · intro p stems boot
    have old := (boots p stems boot).elim (ordered.boots p stems) id
    exact old.imp_right fun absent stem mem => gone (absent stem mem)
  · intro t mem id i makes
    rw [files]
    refine (ordered.unwritten t (fewer.subset mem) id i makes).imp_right fun put => ?_
    rcases places t.process id with same | ⟨off, -⟩
    · rwa [same]
    · exact .inr off
  · exact fun t mem h i destroys => gone (ordered.offMap t (fewer.subset mem) h i destroys)
  · intro i held here alive current
    rw [heap] at here
    rcases ordered.owned i held here alive (run held (mem_of_getElem? here) current) with
      ⟨h, put⟩ | ⟨t, mem, owner, handle, call⟩ | spared
    · rcases places held.owner h with same | ⟨-, spared⟩
      · exact .inl ⟨h, same.trans put⟩
      · exact .inr (.inr (spared i put))
    · rcases going t mem (owner ▸ current) with still | ended
      · exact .inr (.inl ⟨t, still, owner, handle, call⟩)
      · exact .inr (.inr (ended i handle call))
    · exact .inr (.inr (left i spared))

variable {t : InFlight}

theorem erase {i : Nat} (inFlight : w.inFlight[i]? = some t) :
    Ordered (fun j => spare j ∨ ∃ handle, t.call = .destroying handle j)
      { w with inFlight := w.inFlight.eraseIdx i } := by
  refine ordered.move rfl rfl .refl (eraseIdx_sublist _ _) (fun _ => .inl)
    (fun _ _ => .inl rfl) ?_ (fun _ _ => .inl) (fun _ _ => id) ?_
  · exact fun u mem => ordered.serving u (eraseIdx_subset mem)
  · intro u mem _
    obtain ⟨lt, taken⟩ := List.getElem?_eq_some_iff.mp inFlight
    rcases mem_cons.mp ((getElem_cons_eraseIdx_perm lt).mem_iff.mpr mem) with
      same | other
    · rw [same, taken]
      exact .inr fun j handle call => .inr ⟨handle, call⟩
    · exact .inl other

theorem others {i : Nat} {handle : String} (going : w.inFlight[i]? = some t)
    (changes : t.call.changes = some handle) :
    ∀ u ∈ w.inFlight.eraseIdx i, u.call.changes ≠ some handle := by
  obtain ⟨lt, here⟩ := List.getElem?_eq_some_iff.mp going
  have once := ((getElem_cons_eraseIdx_perm lt).filterMap
    fun t => t.call.changes).nodup_iff.mpr ordered.once
  rw [here] at once
  simp only [filterMap_cons, changes] at once
  intro u mem same
  exact (nodup_cons.mp once).1 (mem_filterMap.mpr ⟨u, mem, same⟩)

variable {p : Nat}

theorem goOn {call : Call} (serving : w.phase p = some .serving)
    (alone : ∀ handle, call.changes = some handle → ∀ u ∈ w.inFlight, u.call.changes ≠ some handle)
    (unwritten : ∀ id i, call.generates = some (id, i) →
      w.files.get id = none ∧ (w.place p id = some i ∨ w.place p id = none))
    (offMap : ∀ handle i, call.destroys = some (handle, i) → w.place p handle = none)
    (cover : ∀ (j : Nat) held, w.heap[j]? = some held → spare j →
      (held.owner = p ∧ ∃ handle, call = .destroying handle j) ∨ spare' j) :
    Ordered spare' (w.goOn p call) := by
  refine { ordered with serving := ?_, once := ?_, unwritten := ?_, offMap := ?_, owned := ?_ }
  · refine forall_mem_snoc ordered.serving ?_
    exact serving
  · rw [World.goOn, filterMap_append]
    refine nodup_append.mpr ⟨ordered.once, ?_, ?_⟩
    · cases changes : call.changes <;> simp [changes]
    · intro handle old handle' new same
      subst same
      obtain ⟨u, mem, changes⟩ := mem_filterMap.mp old
      obtain ⟨t, last, changes'⟩ := mem_filterMap.mp new
      cases mem_singleton.mp last
      exact alone handle changes' u mem changes
  · refine forall_mem_snoc ordered.unwritten ?_
    exact unwritten
  · refine forall_mem_snoc ordered.offMap ?_
    exact offMap
  · intro j held here alive run
    rcases ordered.owned j held here alive run with put | ⟨t, mem, going⟩ | left
    · exact .inl put
    · exact .inr (.inl ⟨t, mem_append_left _ mem, going⟩)
    · refine .inr ((cover j held here left).imp_left ?_)
      rintro ⟨owner, going⟩
      exact ⟨⟨p, call⟩, mem_append_right _ (mem_singleton.mpr rfl), owner.symm, going⟩

theorem forget {g : Server → Server} (off : Nat → String → Prop) [∀ q h, Decidable (off q h)]
    (places : ∀ q h, (w.setServer p g).place q h = if off q h then none else w.place q h)
    (keeps : ∀ srv, (g srv).phase = srv.phase) :
    Ordered (fun j => spare j ∨ ∃ q h, off q h ∧ w.place q h = some j) (w.setServer p g) := by
  have phase : (w.setServer p g).phase = w.phase := funext (World.phase_setServer w p keeps)
  refine ordered.move rfl rfl (length_modify ..).ge (.refl _) (fun _ => .inl) ?_ ?_ ?_ ?_
    fun _ mem _ => .inl mem
  · intro q h
    rw [places]
    split
    case isTrue cut => exact .inr ⟨rfl, fun i put => .inr ⟨q, h, cut, put⟩⟩
    case isFalse => exact .inl rfl
  all_goals rw [phase]
  · exact ordered.serving
  · exact fun _ _ => .inl
  · exact fun _ _ => id

theorem dropKey (p : Nat) (handle : String) : Ordered (fun j => spare j ∨ w.place p handle = some j)
      (w.setServer p fun srv => { srv with keys := srv.keys.drop handle }) := by
  refine (ordered.forget (fun q h => p = q ∧ h = handle) (World.place_drop w p handle)
    fun _ => rfl).settle ?_
  rintro j - - - (left | ⟨q, h, ⟨rfl, rfl⟩, placed⟩)
  · exact .inl left
  · exact .inr placed

theorem clear (p : Nat) : Ordered (fun j => spare j ∨ ∃ handle, w.place p handle = some j)
      (w.setServer p fun srv => { srv with keys := [] }) := by
  refine (ordered.forget (fun q _ => p = q) (World.place_clear w p) fun _ => rfl).settle ?_
  rintro j - - - (left | ⟨q, h, rfl, put⟩)
  · exact .inl left
  · exact .inr ⟨h, put⟩

theorem destroy (place : Nat → Bool) :
    Ordered (fun j => spare j ∧ place j = false) (w.destroy place) := by
  have old : ∀ {j : Nat} {held : HeldKey}, (w.destroy place).heap[j]? = some held →
      ∃ before, w.heap[j]? = some before ∧
        held = if place j then { before with destroyed := true } else before := by
    intro j held here
    rw [World.destroy, List.getElem?_mapIdx] at here
    obtain ⟨before, hit, rfl⟩ := Option.map_eq_some_iff.mp here
    exact ⟨before, hit, rfl⟩
  refine { ordered with owners := ?_, owned := ?_ }
  · intro held mem
    obtain ⟨j, here⟩ := mem_iff_getElem?.mp mem
    obtain ⟨before, hit, rfl⟩ := old here
    have lt := ordered.owners before (mem_of_getElem? hit)
    split <;> exact lt
  · intro j held here alive run
    obtain ⟨before, hit, rfl⟩ := old here
    cases marked : place j with
    | true =>
      rw [marked, if_pos rfl] at alive
      cases alive
    | false =>
      rw [marked] at alive run
      rcases ordered.owned j before hit alive run with put | going | left
      · exact .inl put
      · exact .inr (.inl going)
      · exact .inr (.inr ⟨left, rfl⟩)

variable {srv : Server}

/-- A process gets a new object under a handle that it does not have. -/
theorem hold {handle : String} {held : HeldKey} (server : w.servers[held.owner]? = some srv)
    (gone : w.place held.owner handle = none)
    (quiet : ∀ t ∈ w.inFlight, t.process = held.owner → t.call.changes ≠ some handle)
    (read : ∀ stems, w.phase held.owner = some (.booting stems) → handle ∉ stems) :
    Ordered spare (w.hold handle held) := by
  have phase : (w.hold handle held).phase = w.phase := by
    funext q
    exact World.phase_hold w handle held q
  have lt : held.owner < w.servers.length := (List.getElem?_eq_some_iff.mp server).1
  have length : (w.hold handle held).servers.length = w.servers.length := length_modify ..
  -- a place that was there stays, and only the new one is added
  have kept : ∀ {q h i}, w.place q h = some i → (w.hold handle held).place q h = some i := by
    intro q h i put
    rw [World.place_hold server, if_neg]
    · exact put
    · rintro ⟨rfl, rfl⟩
      rw [gone] at put
      cases put
  have other : ∀ {q h}, ¬ (held.owner = q ∧ h = handle) →
      (w.hold handle held).place q h = w.place q h := by
    intro q h different
    rw [World.place_hold server, if_neg different]
  have out : ∀ t ∈ w.inFlight, ∀ h, t.call.changes = some h →
      ¬ (held.owner = t.process ∧ h = handle) := by
    rintro t mem h changes ⟨owner, rfl⟩
    exact quiet t mem owner.symm changes
  refine ⟨?_, ordered.stems, ?_, ?_, ordered.once, ?_, ?_, ?_⟩
  · intro o mem
    rw [length]
    rcases mem_snoc.mp mem with old | rfl
    · exact ordered.owners o old
    · exact lt
  · intro p stems boot
    rw [phase] at boot
    obtain ⟨ne, unread⟩ := ordered.boots p stems boot
    refine ⟨ne, fun stem mem => ?_⟩
    rw [other]
    · exact unread stem mem
    · rintro ⟨rfl, rfl⟩
      exact read stems boot mem
  · rw [phase]
    exact ordered.serving
  · intro t mem id i makes
    rw [other (out t mem id (Call.changes_of_generates makes))]
    exact ordered.unwritten t mem id i makes
  · intro t mem h i destroys
    rw [other (out t mem h (Call.changes_of_destroys destroys))]
    exact ordered.offMap t mem h i destroys
  · intro j o here alive run
    rw [phase] at run
    have here : (w.heap ++ [held])[j]? = some o := here
    rw [List.getElem?_append] at here
    split at here
    case isTrue =>
      rcases ordered.owned j o here alive run with ⟨h, put⟩ | going | left
      · exact .inl ⟨h, kept put⟩
      · exact .inr (.inl going)
      · exact .inr (.inr left)
    case isFalse outside =>
      have last : j - w.heap.length < 1 := (List.getElem?_eq_some_iff.mp here).1
      cases mem_singleton.mp (mem_of_getElem? here)
      refine .inl ⟨handle, ?_⟩
      rw [World.place_hold server, if_pos ⟨rfl, rfl⟩]
      congr 1
      omega

/-- A process moves on; when it ends, its calls end with it. -/
theorem setPhase (p : Nat) (phase : Phase) {calls : List InFlight}
    (fewer : calls.Sublist w.inFlight) (rest : ∀ t ∈ calls, t.process ≠ p)
    (ended : ∀ t ∈ w.inFlight, t ∈ calls ∨ t.process = p ∧ phase = .gone)
    (boots : ∀ stems, phase = .booting stems → stems.Nodup ∧ ∀ stem ∈ stems, w.place p stem = none)
    (back : w.phase p ≠ some .gone ∨ phase = .gone) :
    Ordered spare { w.setPhase p phase with inFlight := calls } := by
  have phases := World.phase_setPhase w p phase
  refine ordered.move rfl rfl (length_modify ..).ge fewer (fun _ => id)
    (fun q h => .inl (World.place_setPhase w p phase q h)) ?_ ?_ ?_ ?_
  · intro t mem
    refine (phases t.process).trans ?_
    rw [if_neg (rest t mem).symm]
    exact ordered.serving t (fewer.subset mem)
  · intro q stems boot
    have boot := (phases q).symm.trans boot
    split at boot
    case isTrue same =>
      subst same
      obtain ⟨-, -, rfl⟩ := Option.map_eq_some_iff.mp boot
      exact .inr (boots stems rfl)
    case isFalse => exact .inl boot
  · intro held _ current gone
    refine current ((phases held.owner).trans ?_)
    split
    case isTrue same =>
      subst same
      rcases back with active | ended
      · exact absurd gone active
      · rw [gone, ended]
        rfl
    case isFalse => exact gone
  · intro t mem current
    refine (ended t mem).imp_right fun ⟨same, gone⟩ => absurd ?_ current
    refine (phases t.process).trans ?_
    rw [if_pos same.symm, ordered.serving t mem, gone]
    rfl

variable {stems : List String}

theorem idle (boot : w.phase p = some (.booting stems)) : ∀ t ∈ w.inFlight, t.process ≠ p := by
  intro t mem same
  have live := ordered.serving t mem
  rw [same, boot] at live
  cases live

theorem boot (booting : w.phase p = some (.booting stems)) (phase : Phase)
    (boots : ∀ stems, phase = .booting stems →
      stems.Nodup ∧ ∀ stem ∈ stems, w.place p stem = none) :
    Ordered spare (w.setPhase p phase) := by
  refine ordered.setPhase p phase (.refl _) (ordered.idle booting) (fun _ => .inl) boots (.inl ?_)
  rw [booting]
  exact nofun

theorem exit (p : Nat) : Ordered spare { w.setPhase p .gone with
      inFlight := w.inFlight.filter fun t => t.process ≠ p } := by
  refine ordered.setPhase p .gone filter_sublist ?_ ?_ nofun (.inr rfl)
  · exact fun t mem => of_decide_eq_true (mem_filter.mp mem).2
  · intro t mem
    by_cases same : t.process = p
    · exact .inr ⟨same, rfl⟩
    · exact .inl (mem_filter.mpr ⟨mem, decide_eq_true same⟩)

theorem start {authorizer : Option SignAuthorizer} (ne : stems.Nodup) :
    Ordered spare { w with servers := w.servers ++
      [{ authorizer := authorizer, phase := .booting stems }] } := by
  have phases := World.phase_start w authorizer (.booting stems)
  refine ordered.move rfl rfl ?_ (.refl _) (fun _ => id)
    (fun q h => .inl (World.place_start w authorizer (.booting stems) q h)) ?_ ?_ ?_
    fun _ mem _ => .inl mem
  · rw [length_append]
    exact Nat.le_add_right ..
  · intro t mem
    have live := ordered.serving t mem
    refine (phases t.process).trans ?_
    rw [if_neg]
    · exact live
    · intro new
      rw [World.phase, new, List.getElem?_eq_none (Nat.le_refl _)] at live
      cases live
  · intro q stems' boot
    rw [phases] at boot
    split at boot
    case isTrue new =>
      cases boot
      refine .inr ⟨ne, fun stem _ => ?_⟩
      rw [World.place, new, List.getElem?_eq_none (Nat.le_refl _)]
      rfl
    case isFalse => exact .inl boot
  · intro held mem current gone
    rw [phases, if_neg (Nat.ne_of_lt (ordered.owners held mem))] at current
    exact current gone

/-- A file is written for a handle that no call in flight is generating. -/
theorem putFile {id : String} (file : Sealed) (alone : ∀ t ∈ w.inFlight, t.call.changes ≠ some id) :
    Ordered spare { w with files := w.files.put id file } := by
  refine { ordered with stems := ?_, unwritten := ?_ }
  · refine nodup_cons.mpr ⟨?_, ordered.stems.sublist (filter_sublist.map _)⟩
    intro mem
    obtain ⟨e, left, same⟩ := mem_map.mp mem
    exact (Table.mem_drop.mp left).2 same
  · intro t mem id' i makes
    obtain ⟨gone, placed⟩ := ordered.unwritten t mem id' i makes
    refine ⟨?_, placed⟩
    have other : id' ≠ id := by
      rintro rfl
      exact alone t mem (Call.changes_of_generates makes)
    exact (Table.get_put_of_ne other).trans gone

theorem dropFile (handle : String) : Ordered spare { w with files := w.files.drop handle } := by
  refine { ordered with stems := ordered.stems.sublist (filter_sublist.map _), unwritten := ?_ }
  intro t mem id i makes
  obtain ⟨gone, put⟩ := ordered.unwritten t mem id i makes
  refine ⟨?_, put⟩
  by_cases same : id = handle
  · subst same
    exact Table.get_drop_self ..
  · exact (Table.get_drop_of_ne same).trans gone

end Ordered

/-- What is known of a call when its next section begins. -/
structure Turn (w : World) (p : Nat) (call : Call) : Prop where
  serving : w.phase p = some .serving
  alone : ∀ handle, call.changes = some handle → ∀ u ∈ w.inFlight, u.call.changes ≠ some handle
  unwritten : ∀ id i, call.generates = some (id, i) →
    w.files.get id = none ∧ (w.place p id = some i ∨ w.place p id = none)
  offMap : ∀ handle i, call.destroys = some (handle, i) → w.place p handle = none
  names : w.Names p call.handle call.held

variable {w : World} {f : KeyFormats}

theorem Ordered.turn {t : InFlight} (ordered : Ordered (fun _ => False) w) (traced : Traced f w)
    (inFlight : w.inFlight[i]? = some t) :
    Turn { w with inFlight := w.inFlight.eraseIdx i } t.process t.call := by
  have mem := mem_of_getElem? inFlight
  refine ⟨ordered.serving t mem, fun handle => ordered.others inFlight,
    ordered.unwritten t mem, ordered.offMap t mem, ?_⟩
  exact (traced.inFlight t mem).names

variable {p : Nat}

/-- The call goes on to a section that is about the same change. -/
theorem Turn.goOn (turn : Turn w p call) {next : Call} {spare : Nat → Prop}
    (ordered : Ordered spare w)
    (nobody : ∀ j, ¬ spare j) (same : next.changes = call.changes)
    (blank : ∀ id i, next.generates = some (id, i) → call.generates = some (id, i))
    (offMap : ∀ handle i, next.destroys = some (handle, i) → call.destroys = some (handle, i)) :
    Ordered (fun _ => False) (w.goOn p next) := by
  refine ordered.goOn turn.serving ?_ ?_ ?_ ?_
  · intro handle changes
    exact turn.alone handle (same.symm.trans changes)
  · exact fun id i makes => turn.unwritten id i (blank id i makes)
  · exact fun handle i destroys => turn.offMap handle i (offMap handle i destroys)
  · exact fun j _ _ left => absurd left (nobody j)

theorem Resumed.ordered {w' : World} (woke : Resumed p w call w') (turn : Turn w p call)
    (traced : Traced f w)
    (ordered : Ordered (fun j => False ∨ ∃ handle, call = .destroying handle j) w) :
    Ordered (fun _ => False) w' := by
  have stem : sanitizeHandle call.handle = call.handle := by
    obtain ⟨_, _, _, made⟩ := turn.names
    exact traced.stem made
  cases woke with
  | sealed | sealFailed | writeFailed =>
    refine turn.goOn ordered nofun rfl ?_ nofun
    rintro id' i' ⟨⟩
    exact rfl
  | @written req id i file held here =>
    have stem : sanitizeHandle id = id := stem
    rw [stem]
    have done : Ordered (fun _ => False) w := ordered.settle nofun
    exact (done.putFile file (turn.alone id rfl)).congr rfl
  | @rolledBack req id i text =>
    have cut := (ordered.dropKey p id).destroy fun j => j = i
    refine (cut.settle ?_).congr rfl
    rintro j held here alive ⟨(⟨⟨⟩⟩ | ⟨_, ⟨⟩⟩) | placed, other⟩
    -- the handle is at the place of the new key, or no longer on the map
    rcases (turn.unwritten id i rfl).2 with known | new
    · rw [known] at placed
      cases placed
      simp at other
    · rw [new] at placed
      cases placed
  | signed | signFailed | removeFailed => exact (ordered.settle nofun).congr rfl
  | @destroyed handle i =>
    have zeroized := ordered.destroy fun j => j = i
    have turn' : Turn (w.destroy fun j => j = i) p (.destroying handle i) :=
      ⟨turn.serving, turn.alone, turn.unwritten, turn.offMap, turn.names.grow (.destroy ..)⟩
    refine turn'.goOn zeroized ?_ rfl nofun ?_
    · rintro j ⟨⟨⟨⟩⟩ | ⟨_, same⟩, other⟩
      cases same
      simp at other
    · rintro h j ⟨⟩
      exact rfl
  | removed =>
    have done : Ordered (fun _ => False) w := ordered.settle nofun
    exact (done.dropFile _).congr rfl

/-- `lookup` loads a key only under a handle that no call in flight changes. -/
theorem Found.ordered {srv : Server} {w₁ : World} (hit : Found f p srv handle w i w₁)
    (live : w.serving p = some srv) (quiet : w.quiet handle)
    (ordered : Ordered (fun _ => False) w) :
    Ordered (fun _ => False) w₁ := by
  cases hit with
  | cached => exact ordered
  | @loaded key kc offMap read =>
    have server := World.servers_of_serving live
    refine Ordered.hold ordered server ((World.place_eq server handle).trans offMap) ?_ ?_
    · exact fun t mem _ => (World.quiet_iff.mp quiet).2 t mem
    · intro stems boot
      rw [World.phase_of_serving live] at boot
      cases boot

theorem Found.phase {srv : Server} {w₁ : World} (hit : Found f p srv handle w i w₁) (q : Nat) :
    w₁.phase q = w.phase q := by
  cases hit with
  | cached => rfl
  | loaded => exact World.phase_hold w _ _ q

theorem Step.ordered {w' : World} {a : Action} (moved : Step f w a w') (meets : orderly w a)
    (traced : Traced f w) (ordered : Ordered (fun _ => False) w) :
    Ordered (fun _ => False) w' := by
  cases moved with
  | start auth => exact ordered.start ordered.stems
  | @booted p srv stems out phase server booting ended =>
    refine ordered.boot ((World.phase_eq server).trans (congrArg some booting)) _ ?_
    rintro stems rfl
    obtain ⟨⟨⟩⟩ | ⟨⟨⟩⟩ := ended
  | @loaded p srv stem rest out sealed key kc server booting file read =>
    have phase := (World.phase_eq server).trans (congrArg some booting)
    obtain ⟨ne, unread⟩ := ordered.boots p _ phase
    obtain ⟨notAgain, ne⟩ := nodup_cons.mp ne
    have moved : Ordered (fun _ => False) (w.setPhase p (.booting rest)) := by
      refine ordered.boot phase _ ?_
      rintro stems ⟨⟩
      exact ⟨ne, fun stem' mem => unread stem' (mem_cons_of_mem _ mem)⟩
    have server' : (w.setPhase p (.booting rest)).servers[p]? =
        some { srv with phase := .booting rest } := by
      rw [World.setPhase, World.setServer, List.getElem?_modify, server]
      simp
    rw [World.hold_setPhase w stem ⟨p, key, kc, false⟩ (.booting rest)]
    refine moved.hold server' ?_ ?_ ?_
    · rw [World.place_setPhase]
      exact unread stem mem_cons_self
    · exact fun t mem same => absurd same (ordered.idle phase t mem)
    · intro stems booting'
      rw [World.phase_eq server'] at booting'
      cases booting'
      exact notAgain
  | exit p => exact ordered.exit p
  | @shutdown p srv live =>
    have server := World.servers_of_serving live
    have zeroized := ordered.destroy fun i => srv.keys.any fun e => e.2 = i
    refine (zeroized.clear p).settle ?_
    rintro i held here alive (⟨left, -⟩ | ⟨handle, put⟩)
    · exact left
    · have put : w.place p handle = some i := put
      rw [World.place_eq server] at put
      have spared := World.destroy_alive (w := w) here alive
      rw [any_eq_false] at spared
      exact spared _ (Table.mem_of_get put) (decide_eq_true rfl)
  | authorize | refused | destroyAbsent => exact ordered.congr rfl
  | @created p srv req draw id key kc live fits ready offMap =>
    have server := World.servers_of_serving live
    have phase := World.phase_of_serving live
    obtain ⟨quiet, blank⟩ := orderly_created meets ready server offMap
    have alone := (World.quiet_iff.mp quiet).2
    have gone := (World.place_eq server id).trans offMap
    have begun : Ordered (fun _ => False) (w.create ⟨id, key, req⟩) :=
      ordered.congr rfl
    have held : Ordered (fun _ => False)
      ((w.create ⟨id, key, req⟩).hold id ⟨p, key, kc, false⟩) := by
      refine begun.hold server gone (fun t mem _ => alone t mem) ?_
      intro stems booting
      have booting : w.phase p = some (.booting stems) := booting
      rw [phase] at booting
      cases booting
    refine held.goOn ?_ ?_ ?_ ?_ fun _ _ _ spare => spare.elim
    · rw [World.phase_hold]
      exact phase
    · rintro handle ⟨⟩ t mem
      exact alone t mem
    · rintro id' i ⟨⟩
      refine ⟨blank, .inl ?_⟩
      exact (World.place_hold server id p id).trans (if_pos ⟨rfl, rfl⟩)
    · rintro _ _ ⟨⟩
  | published live hit here | signRefused live hit here =>
    exact (hit.ordered live meets ordered).congr rfl
  | signing live valid short known hit here =>
    have ordered₁ := hit.ordered live meets ordered
    refine ordered₁.goOn ?_ ?_ ?_ ?_ fun _ _ _ spare => spare.elim
    · rw [hit.phase]
      exact World.phase_of_serving live
    · rintro _ ⟨⟩
    · rintro _ _ ⟨⟩
    · rintro _ _ ⟨⟩
  | @destroying p srv handle i live onMap =>
    have server := World.servers_of_serving live
    obtain ⟨quiet, -⟩ := Bool.and_eq_true_iff.mp meets
    have alone := (World.quiet_iff.mp quiet).2
    have put := (World.place_eq server handle).trans onMap
    refine (ordered.dropKey p handle).goOn ?_ ?_ ?_ ?_ ?_
    · refine (World.phase_setServer w p ?_ p).trans (World.phase_of_serving live)
      exact fun _ => rfl
    · rintro h ⟨⟩ t mem
      exact alone t mem
    · rintro _ _ ⟨⟩
    · rintro h j ⟨⟩
      rw [World.place_drop, if_pos ⟨rfl, rfl⟩]
    · rintro j held here (⟨⟨⟩⟩ | spare)
      rw [put] at spare
      cases spare
      obtain ⟨held', here', owner, -⟩ := traced.maps p handle _ put
      cases here.symm.trans here'
      exact .inl ⟨owner, handle, rfl⟩
  | @proceed i out t w' going woke =>
    exact woke.ordered (ordered.turn traced going) (traced.withInFlight eraseIdx_subset)
      (ordered.erase going)

end Trustctl.Signing
