import Trustctl.Projections.Access
import Trustctl.Projections.Plane

/-!
# Revoked API tokens

Revocation is a column of the token's row.  Every statement that touches the row keeps a
set column, except the upsert of `api_token.created`, which clears it.  A revoked token
therefore stays out of `LookupAPITokenByHash` along every run that does not apply its
creation again (`revoked_token_not_found`); a tail worker that is behind the revocation does
exactly that (`tail_revives_token`).
-/

namespace Trustctl.Projections

open Store Relational Systems List

variable {τ υ id : Uuid} {s : Session} {db db' : Database Row}

/-- No live row of the token is stored. -/
def TokenRevoked (τ id : Uuid) (tables : Tables Row) : Prop :=
  ∀ r : ApiToken, r ∈ tables .apiTokens → r.tenantId = τ → r.id = id → r.revokedAt ≠ none

/-- Under row-level security the statement keeps the token revoked. -/
def KeepsRevoked (τ id : Uuid) (stmt : Stmt Row ApplyError υ) : Prop :=
  ∀ db db' : Database Row, TokenRevoked τ id db.tables → exec .rowSecurity db stmt = .ok db' →
    TokenRevoked τ id db'.tables

theorem TokenRevoked.lookup {tables : Tables Row} (revoked : TokenRevoked τ id tables)
    {hash : String} {r : ApiToken} (hit : lookupApiTokenByHash tables hash = some r) :
    ¬ (r.tenantId = τ ∧ r.id = id) := by
  rintro ⟨tenant, token⟩
  have live := find?_some hit
  have kept : r ∈ tables .apiTokens := List.mem_of_find?_eq_some hit
  exact revoked r kept tenant token (of_decide_eq_true live).2

/-! ## Statements -/

theorem keepsRevoked_frame {stmt : Stmt Row ApplyError υ}
    (apart : stmt.footprint.contains .apiTokens = false) : KeepsRevoked τ id stmt := by
  intro db db' revoked ran r mem
  have outside : .apiTokens ∉ stmt.footprint := by simpa using apart
  rw [exec_frame ran outside] at mem
  exact revoked r mem

theorem keepsRevoked_update {cond : ApiToken → Bool} {set : ApiToken → ApiToken}
    {keeps : ∀ r : ApiToken, tenantOf (t := .apiTokens) (set r) = tenantOf (t := .apiTokens) r}
    (ids : ∀ r, (set r).id = r.id) (stays : ∀ r, r.revokedAt ≠ none → (set r).revokedAt ≠ none) :
    KeepsRevoked τ id
      (rowUpdate (R := Row) (ε := ApplyError) (τ := υ) .apiTokens cond set none keeps) := by
  intro db db' revoked ran r mem tenant token
  obtain ⟨-, left⟩ := effect_rowUpdate.mp (exec_ok.mp ran)
  rw [← left, setTable_self] at mem
  rcases mem_updateRows.mp mem with ⟨q, kept, -, rfl⟩ | ⟨kept, -⟩
  · have same : q.tenantId = τ := (keeps q).symm.trans tenant
    exact stays q (revoked q kept same ((ids q).symm.trans token))
  · exact revoked r kept tenant token

theorem exec_revokeToken {cond : ApiToken → Bool} {revokedBy why : String} {at_ : Time}
    (covers : ∀ r : ApiToken, r ∈ db.tables .apiTokens → r.tenantId = τ → r.id = id →
      r.revokedAt = none → cond r)
    (ran : exec s db (rowUpdate (R := Row) (ε := ApplyError) (τ := τ) .apiTokens cond
      (revokeToken revokedBy why at_) none fun _ => rfl) = .ok db') :
    TokenRevoked τ id db'.tables := by
  intro r mem tenant token
  obtain ⟨-, left⟩ := effect_rowUpdate.mp (exec_ok.mp ran)
  rw [← left, setTable_self] at mem
  rcases mem_updateRows.mp mem with ⟨q, -, -, rfl⟩ | ⟨kept, missed⟩
  · simp [revokeToken]
  · intro live
    have own : owns (R := Row) (t := .apiTokens) τ r := decide_eq_true tenant
    simp [own, covers r kept tenant token live] at missed

theorem keepsRevoked_delete (t : Table) : KeepsRevoked τ id (deleteTenantRows υ t) := by
  intro db db' revoked ran
  have left := Except.ok.inj (exec_ok.mp ran)
  have kept : .apiTokens ∉ Schema.cascades Row t := by cases t <;> decide
  intro r mem
  rw [← left, LawfulSchema.onDelete_of_not_mem _ kept] at mem
  by_cases here : t = .apiTokens
  · subst here
    rw [setTable_self] at mem
    exact revoked r (mem_filter.mp mem).1
  · rw [setTable_of_ne _ (Ne.symm here)] at mem
    exact revoked r mem

variable {h : Digest}

theorem keepsRevoked_created {id' : Uuid} {tokenHash subj : String} {scopes : List String}
    {expiresAt : Option Time} {createdAt : Time} (other : ¬ (υ = τ ∧ id' = id)) :
    ∀ stmt ∈ applyApiTokenCreatedTx h υ id' tokenHash subj scopes expiresAt createdAt,
      KeepsRevoked τ id stmt := by
  intro stmt mem
  obtain rfl := mem_singleton.mp mem
  intro db db' revoked ran r kept tenant token
  rcases effect_upsert.mp (exec_ok.mp ran) with ⟨-, lets, left⟩ | ⟨-, left⟩
  · have owned : ∀ q ∈ db.tables .apiTokens, decide ((q : ApiToken).id = id') = true →
        owns υ q := by
      rcases lets with owned | ⟨bypass, -⟩
      · exact owned
      · cases bypass
    rw [← left, setTable_self] at kept
    rcases mem_updateRows.mp kept with ⟨q, old, hit, rfl⟩ | ⟨old, -⟩
    · have own : (q : ApiToken).tenantId = υ := of_decide_eq_true (owned q old hit)
      exact absurd ⟨own.symm.trans tenant, (of_decide_eq_true hit).symm.trans token⟩ other
    · exact revoked r old tenant token
  · rw [← left, setTable_self] at kept
    rcases mem_snoc.mp kept with old | rfl
    · exact revoked r old tenant token
    · exact absurd ⟨tenant, token⟩ other

theorem run_keepsRevoked {stmts : List (Stmt Row ApplyError υ)}
    (keeps : ∀ stmt ∈ stmts, KeepsRevoked τ id stmt) (revoked : TokenRevoked τ id db.tables)
    (ran : run .rowSecurity stmts db = .ok db') : TokenRevoked τ id db'.tables :=
  run_invariant (P := fun db => TokenRevoked τ id db.tables)
    (fun stmt mem db db' moved revoked => keeps stmt mem db db' revoked moved) ran revoked

/-! ## Events -/

def Event.CreatesToken (e : Event) (τ id : Uuid) : Prop :=
  e.tenantId = τ ∧ ∃ tokenHash subject scopes expiresAt,
    e.body = .governance (.apiTokenCreated id tokenHash subject scopes expiresAt)

/-- The event revokes the token, or offboards the member the token is issued to. -/
def Event.RevokesToken (e : Event) (τ id : Uuid) (tables : Tables Row) : Prop :=
  e.tenantId = τ ∧
    match e.body with
    | .governance (.apiTokenRevoked revoked _ _) => revoked = id
    | .governance (.tenantMemberOffboarded subject _ _) =>
      ∀ r : ApiToken, r ∈ tables .apiTokens → r.tenantId = τ → r.id = id → r.subject = subject
    | _ => False

theorem keepsRevoked_confined {accesses : List (Access Table)} {p : Sink υ}
    (confined : Confined accesses p) (apart : ∀ a ∈ accesses, a.table ≠ .apiTokens) :
    ∀ stmt ∈ p, KeepsRevoked τ id stmt := by
  intro stmt mem
  refine keepsRevoked_frame (Bool.eq_false_iff.mpr fun touched => ?_)
  exact confined.apart apart stmt mem (contains_iff_mem.mp touched)

theorem keepsRevoked_apart {p : Sink υ}
    (apart : p.all (fun stmt => !stmt.footprint.contains .apiTokens)) :
    ∀ stmt ∈ p, KeepsRevoked τ id stmt := by
  intro stmt mem
  exact keepsRevoked_frame (Bool.not_eq_true' _ ▸ all_eq_true.mp apart stmt mem)

theorem GovernanceEvent.sink_keepsRevoked {e : Envelope} {b : GovernanceEvent} {p : Sink e.tenantId}
    (sunk : b.sink h e = .ok p) (noCreation : e.tenantId = τ → ∀ tokenHash subj scopes expiresAt,
      b ≠ .apiTokenCreated id tokenHash subj scopes expiresAt) :
    ∀ stmt ∈ p, KeepsRevoked τ id stmt := by
  have confined := GovernanceEvent.sink_confined sunk
  cases b with
  | apiTokenCreated id' tokenHash subj scopes expiresAt =>
    obtain ⟨-, ⟨⟩⟩ := require_ok.mp sunk
    refine keepsRevoked_created ?_
    rintro ⟨same, rfl⟩
    exact noCreation same _ _ _ _ rfl
  | apiTokenRevoked id' revokedBy why =>
    obtain ⟨-, ⟨⟩⟩ := require_ok.mp sunk
    refine forall_mem_singleton.mpr (keepsRevoked_update (fun _ => rfl) fun r _ => ?_)
    simp [revokeToken]
  | tenantMemberOffboarded subj why offboardedBy =>
    obtain ⟨-, ⟨⟩⟩ := require_ok.mp sunk
    refine forall_mem_snoc (keepsRevoked_apart rfl) ?_
    exact keepsRevoked_update (fun _ => rfl) fun r _ => by simp [revokeToken]
  | _ => exact keepsRevoked_confined confined (by simp [GovernanceEvent.accesses, Access.table])

theorem PrivacyEvent.sink_keepsRevoked {e : Envelope} {b : PrivacyEvent}
    {p : Sink e.tenantId} (sunk : b.sink h e = .ok p) :
    ∀ stmt ∈ p, KeepsRevoked τ id stmt := by
  cases b with
  | privacySubjectErased subjectRef requestedByRef why selectors counts =>
    obtain ⟨-, ⟨⟩⟩ := require_ok.mp sunk
    have access : ∀ stmt ∈ eraseAccess e.tenantId subjectRef why e.time,
        KeepsRevoked τ id stmt := by
      refine forall_mem_cons.mpr ⟨keepsRevoked_frame rfl, forall_mem_singleton.mpr ?_⟩
      exact keepsRevoked_update (fun _ => rfl) fun r _ => by simp
    unfold applyPrivacySubjectErasedTx
    simp only [forall_mem_cons, forall_mem_append]
    exact ⟨keepsRevoked_frame rfl, ⟨⟨access, keepsRevoked_apart rfl⟩, keepsRevoked_apart rfl⟩,
      keepsRevoked_apart rfl⟩
  | privacyRetentionEnforced runId requestedByRef cutoffs counts =>
    obtain ⟨-, ⟨⟩⟩ := require_ok.mp sunk
    have access : ∀ stmt ∈ retainAccess h e.tenantId cutoffs, KeepsRevoked τ id stmt :=
      forall_mem_cons.mpr
        ⟨keepsRevoked_update (fun _ => rfl) fun _ set => set, keepsRevoked_apart rfl⟩
    unfold applyPrivacyRetentionEnforcedTx
    simp only [forall_mem_cons, forall_mem_append]
    exact ⟨keepsRevoked_frame rfl, ⟨⟨⟨keepsRevoked_apart rfl, access⟩, keepsRevoked_apart rfl⟩,
      keepsRevoked_apart rfl⟩, keepsRevoked_apart rfl⟩
  | privacyArchiveErasureAttested pl =>
    obtain ⟨-, ⟨⟩⟩ := require_ok.mp sunk
    exact keepsRevoked_apart rfl

theorem applyTx_keepsRevoked {now : Time} {e : Event} {p : Sink e.tenantId}
    (sunk : applyTx h now e = .ok p) (noCreation : ¬ e.CreatesToken τ id) :
    ∀ stmt ∈ p, KeepsRevoked τ id stmt := by
  have confined := applyTx_confined sunk
  obtain ⟨-, -, payload⟩ := bind_ok.mp sunk
  unfold Event.accesses at confined
  generalize body : e.body = b at payload confined
  cases b with
  | governance b =>
    refine GovernanceEvent.sink_keepsRevoked payload fun same tokenHash subj scopes expiresAt
      created => noCreation ⟨same, tokenHash, subj, scopes, expiresAt, ?_⟩
    rw [body, created]
  | privacy b => exact PrivacyEvent.sink_keepsRevoked payload
  | inventory b =>
    exact keepsRevoked_confined confined
      (by cases b <;> simp [InventoryEvent.accesses, Access.table])
  | authority b =>
    exact keepsRevoked_confined confined
      (by cases b <;> simp [AuthorityEvent.accesses, Access.table])
  | operations b =>
    exact keepsRevoked_confined confined
      (by cases b <;> simp [OperationsEvent.accesses, Access.table])
  | tenantRegistered | tenantOffboarded | raw => exact keepsRevoked_confined confined (by simp)

variable {h : Digest} {now : Time} {e : Event}

/-- What an event other than the token's creation leaves is revoked if it was before. -/
theorem apply_keepsRevoked (done : apply h now e db = .ok db')
    (noCreation : ¬ e.CreatesToken τ id) (revoked : TokenRevoked τ id db.tables) :
    TokenRevoked τ id db'.tables := by
  cases apply_cases done with
  | registered name body ran =>
    intro r mem
    rw [run_frame ran (by simp [upsertTenant, Stmt.footprint])] at mem
    exact revoked r mem
  | offboarded p body sunk ran =>
    obtain ⟨-, ⟨⟩⟩ := refuse_ok.mp sunk
    refine run_keepsRevoked (forall_mem_append.mpr ⟨?_, ?_⟩) revoked ran
    · exact forall_mem_map.mpr fun t _ => keepsRevoked_delete t
    · exact forall_mem_map.mpr fun t _ => keepsRevoked_frame rfl
  | projected p sunk ran =>
      exact run_keepsRevoked (applyTx_keepsRevoked sunk noCreation) revoked ran

theorem apply_revokes (done : apply h now e db = .ok db')
    (revokes : e.RevokesToken τ id db.tables) : TokenRevoked τ id db'.tables := by
  obtain ⟨rfl, revocation⟩ := revokes
  unfold apply at done
  split at revocation
  next revoked by_ why body =>
    rw [body] at done
    obtain ⟨p, sunk, ran⟩ := perform_ok.mp done
    obtain ⟨-, -, payload⟩ := bind_ok.mp sunk
    rw [body] at payload
    obtain ⟨-, ⟨⟩⟩ := require_ok.mp payload
    have revoke := (run_singleton ..).symm.trans ran
    refine exec_revokeToken (fun r _ _ token _ => ?_) revoke
    exact decide_eq_true (token.trans revocation.symm)
  next subj why by_ body =>
    rw [body] at done
    obtain ⟨p, sunk, ran⟩ := perform_ok.mp done
    obtain ⟨-, -, payload⟩ := bind_ok.mp sunk
    rw [body] at payload
    obtain ⟨-, ⟨⟩⟩ := require_ok.mp payload
    obtain ⟨mid, mem, tokens⟩ := run_append_ok.mp ran
    have unread : mid.tables .apiTokens = db.tables .apiTokens :=
      run_frame mem (by simp [applyTenantMemberOffboardedTx, Stmt.footprint])
    have revoke := (run_singleton ..).symm.trans tokens
    refine exec_revokeToken (fun r kept tenant token live => ?_) revoke
    rw [unread] at kept
    exact decide_eq_true ⟨revocation r kept tenant token, live⟩
  next => exact revocation.elim

/-! ## Runs of the control plane -/

/-- Once a revocation of a token has been applied, no lookup finds the token in any state
reached by steps none of which applies the token's creation. -/
theorem revoked_token_not_found {σ σ₁ σ₂ : Plane} {as : List Action}
    (applied : apply h now e σ.model.db = .ok σ₁.model.db)
    (revokes : e.RevokesToken τ id σ.model.db.tables)
    (run : Run (Plane.step h now) (fun σ a => ∀ e ∈ σ.applies a, ¬ e.CreatesToken τ id) σ₁ as σ₂)
    (hash : String) :
    ∀ r ∈ lookupApiTokenByHash σ₂.model.db.tables hash, ¬ (r.tenantId = τ ∧ r.id = id) := by
  have revoked : TokenRevoked τ id σ₂.model.db.tables := by
    refine run.invariant (I := fun σ => TokenRevoked τ id σ.model.db.tables)
      (fun σ a σ' meets moved revoked => ?_) (apply_revokes applied revokes)
    rcases Plane.step_db moved with same | ⟨e', applies, applied'⟩
    · rw [same]
      exact revoked
    · exact apply_keepsRevoked applied' (meets e' applies) revoked
  exact fun r hit => revoked.lookup hit

def tokenCreated : Event where
  id := "e1"
  tenantId := "t"
  sequence := 1
  time := 1
  timeSet := Nat.one_ne_zero
  body := .governance (.apiTokenCreated "k" "hash" "alice" [] none)

def tokenRevoked : Event where
  id := "e2"
  tenantId := "t"
  sequence := 2
  time := 1
  timeSet := Nat.one_ne_zero
  body := .governance (.apiTokenRevoked "k" "bob" "leaked")

/-- Both commands ran; the tail worker has applied nothing yet. -/
def tokenCommands : List Action :=
  [.append tokenCreated, .inline 1, .append tokenRevoked, .inline 2]

/-- The tail worker has applied the creation before the token is revoked. -/
def creationTailed : List Action :=
  [.append tokenCreated, .inline 1, .tail .acknowledged, .append tokenRevoked, .inline 2]

/-- The control plane after the first of these actions. -/
def tokenPlane (actions : Nat) : Plane :=
  (execute (Plane.step plainDigest 0) {} (creationTailed.take actions)).getD {}

/-- After the revocation the tail worker and the catch-up of a boot apply it again. -/
theorem revoked_token_not_found_after_boot : ∃ σ : Plane,
    apply plainDigest 0 tokenRevoked (tokenPlane 4).model.db = .ok (tokenPlane 5).model.db ∧
      execute (Plane.step plainDigest 0) (tokenPlane 5) [.tail .applied, .boot, .catchUp] =
        some σ ∧
      ∀ r ∈ lookupApiTokenByHash σ.model.db.tables "hash", ¬ (r.tenantId = "t" ∧ r.id = "k") := by
  have done : apply plainDigest 0 tokenRevoked (tokenPlane 4).model.db =
      .ok (tokenPlane 5).model.db := rfl
  have revocation : ∀ e ∈ some (tokenRevoked.numbered 2), ¬ e.CreatesToken "t" "k" := by
    simp [Event.CreatesToken, Event.numbered, tokenRevoked]
  have run : Run (Plane.step plainDigest 0) (fun σ a => ∀ e ∈ σ.applies a, ¬ e.CreatesToken "t" "k")
      (tokenPlane 5) [.tail .applied, .boot, .catchUp] _ :=
    .cons revocation rfl (.cons (by simp [Plane.applies]) rfl (.cons revocation rfl (.nil _)))
  exact ⟨_, done, rfl, revoked_token_not_found done ⟨rfl, rfl⟩ run "hash"⟩

/-- The tail worker applies the creation after the revocation, and the token is accepted
again. -/
theorem tail_revives_token : ∃ σ₁ σ₂ : Plane,
    execute (Plane.step plainDigest 0) {} tokenCommands = some σ₁ ∧
      lookupApiTokenByHash σ₁.model.db.tables "hash" = none ∧
      Plane.step plainDigest 0 σ₁ (.tail .acknowledged) = some σ₂ ∧
      (lookupApiTokenByHash σ₂.model.db.tables "hash").map ApiToken.id = some "k" :=
  ⟨_, _, rfl, rfl, rfl, rfl⟩

end Trustctl.Projections
