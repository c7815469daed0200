import Trustctl.Projections.Access
import Trustctl.Projections.Projector
import Trustctl.Systems.Run

/-!
# The certificate inventory

A row of the inventory is found by its fingerprint and linked by its id.  A certificate that is
recorded again keeps the id of its row, whatever id the event carries, so the check of
`ApplyCertificateRecordedTx` that a successor does not replace itself looks at an id that is not the
row's.

* `apply_inventory`: what an accepted event does to the rows;
* `inventory_keeps_links`: as long as no certificate that is recorded again names its own row as the
  one it replaces, revocation is final, rows keep their id and creation time, and every predecessor
  is another row that is superseded or revoked;
* `rerecorded_certificate_replaces_itself`: a certificate that does is its own predecessor.
-/

namespace Trustctl.Projections

open Store Relational List Systems

def inventory (db : Database Row) : List Certificate := db.tables .certificates

def certificateEvent (e : Event) : Bool :=
  match e.body with
  | .inventory (.certificateRecorded _) => true
  | .inventory (.certificateRevoked _) => true
  | .inventory (.certificateSuperseded ..) => true
  | _ => false

/-- The projector accepts such an event. -/
def accept (h : Digest) (now : Time) (db : Database Row) (e : Event) : Option (Database Row) :=
  if certificateEvent e then (apply h now e db).toOption else none

/-- A recorded certificate names as the one it replaces no row that has its own fingerprint. -/
def replacesAnother (db : Database Row) (e : Event) : Bool :=
  match e.body with
  | .inventory (.certificateRecorded pl) =>
    (inventory db).all fun r =>
      !(r.tenantId = e.tenantId && r.fingerprint = pl.fingerprint && pl.replacesId = some r.id)
  | _ => true

/-! ## Rows -/

def Retired (r : Certificate) : Prop := r.status = "superseded" ∨ r.status = "revoked"

/-- The row `r`, later. -/
structure Follows (r r' : Certificate) : Prop where
  tenantId : r'.tenantId = r.tenantId
  fingerprint : r'.fingerprint = r.fingerprint
  id : r'.id = r.id
  createdAt : r'.createdAt = r.createdAt
  revoked : r.status = "revoked" → r'.status = "revoked"
  retired : Retired r → Retired r'

/-- Every row is still there. -/
def Carried (rows rows' : List Certificate) : Prop := ∀ r ∈ rows, ∃ r' ∈ rows', Follows r r'

/-- The predecessor that a row names is another row of the tenant, and retired. -/
structure LinkedIn (rows : List Certificate) (r : Certificate) : Prop where
  another : r.replacesId ≠ some r.id
  retired : ∀ p, r.replacesId = some p → ∃ q ∈ rows, q.tenantId = r.tenantId ∧ q.id = p ∧ Retired q

/-- The links of two rows are the same. -/
def SameLink (r r' : Certificate) : Prop :=
  r'.tenantId = r.tenantId ∧ r'.id = r.id ∧ r'.replacesId = r.replacesId

variable {rows rows' rows'' : List Certificate} {r r' : Certificate}

theorem Follows.refl (r : Certificate) : Follows r r where
  tenantId := rfl
  fingerprint := rfl
  id := rfl
  createdAt := rfl
  revoked := fun revoked => revoked
  retired := fun retired => retired

theorem Carried.refl (rows : List Certificate) : Carried rows rows :=
  fun r mem => ⟨r, mem, .refl r⟩

theorem Carried.trans (first : Carried rows rows') (second : Carried rows' rows'') :
    Carried rows rows'' := by
  intro r mem
  obtain ⟨r', mem', follows⟩ := first r mem
  obtain ⟨r'', mem'', follows'⟩ := second r' mem'
  exact ⟨r'', mem'', follows'.tenantId.trans follows.tenantId,
    follows'.fingerprint.trans follows.fingerprint, follows'.id.trans follows.id,
    follows'.createdAt.trans follows.createdAt, follows'.revoked ∘ follows.revoked,
    follows'.retired ∘ follows.retired⟩

theorem Carried.append (rows new : List Certificate) : Carried rows (rows ++ new) :=
  fun r mem => ⟨r, mem_append_left _ mem, .refl r⟩

variable {set : Certificate → Certificate} {cond : Certificate → Bool}

theorem Carried.updateRows
    (follows : ∀ r, cond r → Follows r (set r)) : Carried rows (updateRows cond set rows) := by
  intro r mem
  by_cases hit : cond r
  · exact ⟨set r, mem_updateRows.mpr (.inl ⟨r, mem, hit, rfl⟩), follows r hit⟩
  · exact ⟨r, mem_updateRows.mpr (.inr ⟨mem, Bool.eq_false_iff.mpr hit⟩), .refl r⟩

/-- A row that keeps its link keeps a retired predecessor. -/
theorem LinkedIn.carry (linked : LinkedIn rows r) (has : Carried rows rows')
    (same : SameLink r r') : LinkedIn rows' r' := by
  obtain ⟨tenant, id, link⟩ := same
  refine ⟨?_, fun p named => ?_⟩
  · rw [link, id]
    exact linked.another
  · obtain ⟨q, mem, owner, named', retired⟩ := linked.retired p (link.symm.trans named)
    obtain ⟨q', mem', follows⟩ := has q mem
    refine ⟨q', mem', ?_, follows.id.trans named', follows.retired retired⟩
    rw [follows.tenantId, owner, tenant]

/-! ## Statements -/

variable {db db' : Database Row} {s : Session} {h : Digest} {now : Time} {e : Event} {τ : Uuid}

/-- The certificate is recorded: its row is refreshed or entered, and no other row changes. -/
theorem exec_recordCertificate {c : Certificate} (ran : exec s db (recordCertificate c) = .ok db') :
    Carried (inventory db) (inventory db') ∧ ∀ r' ∈ inventory db',
      r' ∈ inventory db ∨ (r'.tenantId = c.tenantId ∧ r'.replacesId = c.replacesId ∧
        (r'.id = c.id ∨ ∃ r ∈ inventory db, r.tenantId = c.tenantId ∧
          r.fingerprint = c.fingerprint ∧ r'.id = r.id)) := by
  rcases effect_upsert.mp (exec_ok.mp ran) with ⟨-, -, left⟩ | ⟨-, left⟩
  · have refreshed := congrFun left .certificates
    unfold inventory
    rw [← refreshed]
    refine ⟨.updateRows fun r _ => ⟨rfl, rfl, rfl, rfl, id, id⟩, fun r' mem => ?_⟩
    rcases mem_updateRows.mp mem with ⟨q, old, hit, rfl⟩ | ⟨old, -⟩
    · obtain ⟨tenant, fp⟩ := of_decide_eq_true hit
      exact .inr ⟨tenant, rfl, .inr ⟨q, old, tenant, fp, rfl⟩⟩
    · exact .inl old
  · have entered : inventory db' = inventory db ++ [c] := by
      rw [inventory, ← left, setTable_self]
      rfl
    rw [entered]
    refine ⟨.append _ _, fun r' mem => ?_⟩
    rcases mem_snoc.mp mem with old | rfl
    · exact .inl old
    · exact .inr ⟨rfl, rfl, .inl rfl⟩

theorem exec_updateCertificates {gone : Option ApplyError}
    {keeps : ∀ r : Certificate,
      tenantOf (t := .certificates) (set r) = tenantOf (t := .certificates) r}
    (ran : exec s db (rowUpdate (R := Row) (τ := τ) .certificates cond set gone keeps) = .ok db')
    (same : ∀ r, SameLink r (set r)) (follows : ∀ r, cond r → Follows r (set r)) :
    Carried (inventory db) (inventory db') ∧
      (∀ r' ∈ inventory db', ∃ r ∈ inventory db, SameLink r r') ∧
      ((∀ r ∈ inventory db, LinkedIn (inventory db) r) →
        ∀ r ∈ inventory db', LinkedIn (inventory db') r) := by
  obtain ⟨-, left⟩ := effect_rowUpdate.mp (exec_ok.mp ran)
  have updated : inventory db' =
      updateRows (fun r => owns (R := Row) (t := .certificates) τ r && cond r) set
        (inventory db) := by
    rw [inventory, ← left, setTable_self]
    rfl
  have follows' : ∀ r, (owns (R := Row) (t := .certificates) τ r && cond r) →
      Follows r (set r) := fun r hit => follows r (Bool.and_eq_true _ _ ▸ hit).2
  rw [updated]
  refine ⟨.updateRows follows', fun r' mem => ?_, fun link r' mem => ?_⟩ <;>
    rcases mem_updateRows.mp mem with ⟨q, old, -, rfl⟩ | ⟨old, -⟩
  · exact ⟨q, old, same q⟩
  · exact ⟨r', old, rfl, rfl, rfl⟩
  · exact (link q old).carry (.updateRows follows') (same q)
  · exact (link r' old).carry (.updateRows follows') ⟨rfl, rfl, rfl⟩

theorem follows_superseded (r : Certificate) (at_ : Time) (live : r.status ≠ "revoked") :
    Follows r { r with status := "superseded", renewedAt := some at_ } where
  tenantId := rfl
  fingerprint := rfl
  id := rfl
  createdAt := rfl
  revoked := fun revoked => absurd revoked live
  retired := fun _ => .inl rfl

theorem follows_revoked (r : Certificate) (at_ : Time) (why : String) :
    Follows r { r with status := "revoked", revokedAt := some at_, revocationReason := why } where
  tenantId := rfl
  fingerprint := rfl
  id := rfl
  createdAt := rfl
  revoked := fun _ => rfl
  retired := fun _ => .inr rfl

/-- The query after a successor is recorded passes where its predecessor is retired. -/
theorem exec_predecessorRetired {succ p : Uuid}
    (ran : exec s db (predecessorRetired τ succ p) = .ok db') :
    db' = db ∧ ∃ q ∈ inventory db, q.tenantId = τ ∧ q.id = p ∧ Retired q := by
  obtain ⟨answer, rfl⟩ := exec_guard.mp ran
  refine ⟨rfl, ?_⟩
  split at answer
  next => cases answer
  next q hit =>
    split at answer
    next retired =>
      have kept := mem_filter.mp (List.mem_of_find?_eq_some hit)
      have named := find?_some hit
      exact ⟨q, kept.1, of_decide_eq_true kept.2, of_decide_eq_true named, retired⟩
    next => cases answer

/-- A link is no empty text: it names a stored certificate. -/
theorem replacesId_ne_empty (kept : r ∈ inventory db) : r.replacesId ≠ some "" := by
  intro named
  have links := (foreignKeys_of_valid db.valid).1
  simp only [inventoryForeignKeys, forall_mem_cons] at links
  have holds := all_eq_true.mp links.2.2.2.1 r kept
  simp only [named, Option.all_some] at holds
  obtain ⟨q, mem, id⟩ := any_eq_true.mp holds
  have checked : (Constraint.check .certificates fun (r : Certificate) => decide (r.id ≠ "")).holds
      db.tables := by
    refine all_eq_true.mp db.valid _ ?_
    simp only [Schema.constraints, constraints, checks, mem_append, mem_cons, true_or, or_true]
  exact of_decide_eq_true (all_eq_true.mp checked q mem) (of_decide_eq_true id)

/-! ## Events -/

/-- What an event does to the rows: it keeps them, and their links if it links none to itself. -/
structure Advances (db db' : Database Row) (e : Event) : Prop where
  carried : Carried (inventory db) (inventory db')
  linked : replacesAnother db e → (∀ r ∈ inventory db, LinkedIn (inventory db) r) →
    ∀ r ∈ inventory db', LinkedIn (inventory db') r

theorem Advances.congr {mid : Database Row} (advances : Advances db mid e)
    (same : db'.tables .certificates = mid.tables .certificates) : Advances db db' e := by
  have rows : inventory db' = inventory mid := same
  refine ⟨?_, ?_⟩
  · rw [rows]
    exact advances.carried
  · rw [rows]
    exact advances.linked

theorem run_applyCertificateRecordedTx {pl : CertificateRecorded} {p : Sink e.tenantId}
    (body : e.body = .inventory (.certificateRecorded pl))
    (sunk : applyCertificateRecordedTx (pl.certificate e.toEnvelope) = .ok p)
    (ran : run s p db = .ok db') : Advances db db' e := by
  -- what the condition says about a row that the event refreshes
  have another : replacesAnother db e → ∀ r ∈ inventory db,
      r.tenantId = e.tenantId → r.fingerprint = pl.fingerprint → pl.replacesId ≠ some r.id := by
    intro meets r mem tenant fp named
    simp only [replacesAnother, body, all_eq_true] at meets
    simpa [tenant, fp, named] using meets r mem
  unfold applyCertificateRecordedTx at sunk
  split at sunk
  next => cases sunk
  next other =>
    -- a recorded row does not name itself
    have apart : replacesAnother db e → ∀ r' : Certificate, r'.replacesId = pl.replacesId →
        (r'.id = pl.id ∨ ∃ r ∈ inventory db, r.tenantId = e.tenantId ∧
          r.fingerprint = pl.fingerprint ∧ r'.id = r.id) → r'.replacesId ≠ some r'.id := by
      rintro meets r' link (own | ⟨r, mem, tenant, fp, own⟩)
      · rw [link, own]
        exact other
      · rw [link, own]
        exact another meets r mem tenant fp
    have alone : ∀ mid, exec s db (recordCertificate (pl.certificate e.toEnvelope)) = .ok mid →
        pl.replacesId = none ∨ pl.replacesId = some "" → Advances db mid e := by
      intro mid first unlinked
      obtain ⟨has, rows⟩ := exec_recordCertificate first
      refine ⟨has, fun meets linked r' mem => ?_⟩
      rcases rows r' mem with old | ⟨-, link, own⟩
      · exact (linked r' old).carry has ⟨rfl, rfl, rfl⟩
      · refine ⟨apart meets r' link own, fun p named => ?_⟩
        rcases unlinked with none_ | empty
        · cases none_.symm.trans (link.symm.trans named)
        · exact absurd (link.trans empty) (replacesId_ne_empty mem)
    split at sunk
    next unlinked =>
      cases sunk
      exact alone db' ((run_singleton ..).symm.trans ran) (.inl unlinked)
    next unlinked =>
      cases sunk
      exact alone db' ((run_singleton ..).symm.trans ran) (.inr unlinked)
    next p' _ named =>
      cases sunk
      obtain ⟨mid, first, rest⟩ := run_cons_ok.mp ran
      obtain ⟨mid', second, third⟩ := run_cons_ok.mp rest
      obtain ⟨has, rows⟩ := exec_recordCertificate first
      obtain ⟨carried', links, -⟩ := exec_updateCertificates second
        (fun r => ⟨rfl, rfl, rfl⟩) fun r hit => follows_superseded r _ (of_decide_eq_true hit).2
      obtain ⟨rfl, q, kept, tenant, id, retired⟩ :=
        exec_predecessorRetired ((run_singleton ..).symm.trans third)
      refine ⟨has.trans carried', fun meets linked r'' mem => ?_⟩
      obtain ⟨r', mem', same⟩ := links r'' mem
      rcases rows r' mem' with old | ⟨owner, link, own⟩
      · exact (linked r' old).carry (has.trans carried') same
      · obtain ⟨tenant', id', link'⟩ := same
        refine ⟨?_, fun p'' named' => ?_⟩
        · rw [link', id']
          exact apart meets r' link own
        · have same : p' = p'' :=
            Option.some.inj (named.symm.trans (link.symm.trans (link'.symm.trans named')))
          exact ⟨q, kept, tenant.trans (tenant'.trans owner).symm, id.trans same, retired⟩

theorem apply_inventory (cert : certificateEvent e)
    (done : apply h now e db = .ok db') : Advances db db' e := by
  unfold certificateEvent at cert
  split at cert
  next pl body =>
    simp only [apply, body] at done
    obtain ⟨p, sunk, ran⟩ := perform_ok.mp done
    obtain ⟨-, -, payload⟩ := bind_ok.mp sunk
    rw [body] at payload
    obtain ⟨record, noted, rest⟩ := bind_ok.mp payload
    split at rest
    · cases rest
      obtain ⟨mid, first, second⟩ := run_append_ok.mp ran
      refine (run_applyCertificateRecordedTx body noted first).congr ?_
      exact run_frame second (by simp [recordIssuedCertTx, Stmt.footprint])
    · cases rest
      exact run_applyCertificateRecordedTx body noted ran
  next pl body =>
    simp only [apply, body] at done
    obtain ⟨p, sunk, ran⟩ := perform_ok.mp done
    obtain ⟨-, -, payload⟩ := bind_ok.mp sunk
    rw [body] at payload
    have revokes : ∀ mid at_, run .rowSecurity
        (setCertificateRevokedTx e.tenantId pl.fingerprint pl.reason at_) db = .ok mid →
        Advances db mid e := by
      intro mid at_ first
      obtain ⟨has, -, link⟩ := exec_updateCertificates ((run_singleton ..).symm.trans first)
        (fun r => ⟨rfl, rfl, rfl⟩) fun r _ => follows_revoked r _ _
      exact ⟨has, fun _ => link⟩
    simp only [InventoryEvent.sink] at payload
    split at payload
    · obtain ⟨issued, sunk', ⟨⟩⟩ := bind_ok.mp payload
      obtain ⟨mid, first, second⟩ := run_append_ok.mp ran
      have confined : Confined [.upsert .caIssuedCerts] issued :=
        revokeIssuedCertTx_confined sunk' (by simp)
      exact (revokes mid _ first).congr (run_frame second (confined.apart (by simp [Access.table])))
    · cases payload
      exact revokes db' _ ran
  next fp renewedAt body =>
    simp only [apply, body] at done
    obtain ⟨p, sunk, ran⟩ := perform_ok.mp done
    obtain ⟨-, -, payload⟩ := bind_ok.mp sunk
    rw [body] at payload
    cases payload
    obtain ⟨has, -, link⟩ := exec_updateCertificates ((run_singleton ..).symm.trans ran)
      (fun r => ⟨rfl, rfl, rfl⟩) fun r hit => follows_superseded r _ (of_decide_eq_true hit).2
    exact ⟨has, fun _ => link⟩
  next => cases cert

theorem accept_advances (taken : accept h now db e = some db') : Advances db db' e := by
  unfold accept at taken
  split at taken
  next cert => exact apply_inventory cert (toOption_eq_some.mp taken)
  next => cases taken

/-! ## Sequences of events -/

/-- In every sequence of accepted events none of which makes a row its own predecessor, from an
empty inventory: every row stays, with its id and creation time, and stays revoked once it is; and
every row that replaces another names a row of the tenant that is not itself and is superseded or
revoked. -/
theorem inventory_keeps_links {db mid db' : Database Row} {before after : List Event}
    (unused : inventory db = [])
    (run : Run (accept h now) (fun db e => replacesAnother db e) db before mid)
    (later : Run (accept h now) (fun db e => replacesAnother db e) mid after db') :
    (∀ r ∈ inventory mid, ∃ r' ∈ inventory db', r'.tenantId = r.tenantId ∧
      r'.fingerprint = r.fingerprint ∧ r'.id = r.id ∧ r'.createdAt = r.createdAt ∧
      (r.status = "revoked" → r'.status = "revoked")) ∧
    ∀ r ∈ inventory db', r.replacesId ≠ some r.id ∧ ∀ p, r.replacesId = some p →
      ∃ q ∈ inventory db', q.tenantId = r.tenantId ∧ q.id = p ∧
        (q.status = "superseded" ∨ q.status = "revoked") := by
  have empty : ∀ r ∈ inventory db, LinkedIn (inventory db) r := by
    intro r mem
    rw [unused] at mem
    cases mem
  have keeps : ∀ (s : Database Row) (a : Event) (s' : Database Row), replacesAnother s a →
      accept h now s a = some s' → (∀ r ∈ inventory s, LinkedIn (inventory s) r) →
      ∀ r ∈ inventory s', LinkedIn (inventory s') r :=
    fun s a s' meets taken => (accept_advances taken).linked meets
  have link := later.invariant keeps (run.invariant keeps empty)
  have has : Carried (inventory mid) (inventory db') :=
    later.invariant (I := fun db => Carried (inventory mid) (inventory db))
      (fun s a s' _ taken has => has.trans (accept_advances taken).carried) (.refl _)
  refine ⟨fun r mem => ?_, fun r mem => ⟨(link r mem).another, (link r mem).retired⟩⟩
  obtain ⟨r', mem', follows⟩ := has r mem
  exact ⟨r', mem', follows.tenantId, follows.fingerprint, follows.id, follows.createdAt,
    follows.revoked⟩

def recorded (id : String) (fingerprint : String) (replacesId : Option Uuid) : Event where
  id := id
  tenantId := "t"
  sequence := 1
  time := 1
  timeSet := Nat.one_ne_zero
  body := .inventory (.certificateRecorded {
    id := id, subject := "cn=a", issuer := "ca", serial := "1", fingerprint := fingerprint
    keyAlgorithm := "ecdsa", replacesId := replacesId })

/-- A certificate and its successor. -/
theorem successor_supersedes : ∃ db', executeIf (accept plainDigest 0) replacesAnother .empty
        [recorded "c1" "f1" none, recorded "c2" "f2" (some "c1")] = some db' ∧
      (inventory db').map (fun r => (r.id, r.status, r.replacesId)) =
        [("c1", "superseded", none), ("c2", "active", some "c1")] ∧
      ∀ r ∈ inventory db', r.replacesId ≠ some r.id ∧ ∀ p, r.replacesId = some p →
        ∃ q ∈ inventory db', q.tenantId = r.tenantId ∧ q.id = p ∧
          (q.status = "superseded" ∨ q.status = "revoked") := by
  have ran : executeIf (accept plainDigest 0) replacesAnother .empty
      [recorded "c1" "f1" none, recorded "c2" "f2" (some "c1")] = some _ := rfl
  exact ⟨_, ran, rfl, (inventory_keeps_links rfl (run_of_executeIf ran) (.nil _)).2⟩

/-- The certificate is recorded again under a new id, as the successor of its own row: the row
becomes its own predecessor, and is superseded by itself. -/
theorem rerecorded_certificate_replaces_itself : ∃ db', execute (accept plainDigest 0) .empty
        [recorded "c1" "f1" none, recorded "c2" "f1" (some "c1")] = some db' ∧
      (inventory db').map (fun r => (r.id, r.status, r.replacesId)) =
        [("c1", "superseded", some "c1")] :=
  ⟨_, rfl, rfl⟩

end Trustctl.Projections
