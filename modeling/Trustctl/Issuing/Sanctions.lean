import Trustctl.Issuing.Narrowing

/-!
# What ceremonies sanction

Every CA certificate is created in a transaction that completes a ceremony of the same tenant, whose
purpose is derived from the same request.  A purpose says everything about the certificate but the
lifetime of a re-key and which certificate an offline root signed.

* `operations_sanctioned`: the ceremony of every CA certificate; which requests have the same
  purpose; and that an authority which signs is active exactly if the operation finds it so;
* `superseded_authority_signs`: an intermediate of a superseded root.
-/

namespace Trustctl.Issuing.Hierarchy

open Store Relational Systems List

/-! ## The properties -/

/-- A pending ceremony of the tenant, opened for the request and approved by its quorum, is
completed. -/
def Sanctions (cfg : Config) (w w' : World) (τ ceremonyId : Uuid) (request : CaRequest) : Prop :=
  ∃ c : KeyCeremony, c ∈ w.db.tables .caKeyCeremonies ∧ c.tenantId = τ ∧ c.id = ceremonyId ∧
    c.status = "pending" ∧ request.purpose cfg.hash = .ok c.purpose ∧
    c.threshold ≤ (evidencedApprovals (slice τ w.db.tables) ceremonyId).length ∧
    completeCeremony c ∈ w'.db.tables .caKeyCeremonies

namespace Issued

/-- The step that creates a CA certificate consumes a ceremony for it. -/
def Sanctioned (cfg : Config) (w w' : World) : Issued → Prop
  | .ca τ ceremonyId request _ _ _ => Sanctions cfg w w' τ ceremonyId request
  | .leaf .. => True

/-- The authority whose key signed the certificate. -/
def signer? : Issued → Option Authority
  | .ca _ _ _ _ _ signer => signer
  | .leaf _ _ signer => some signer

end Issued

def World.live (w : World) : Action → Bool
  | .createIntermediate τ _ parentId _ _ _ =>
    (getCaAuthority w.authorities τ parentId).toOption.all fun parent => parent.status = .active
  | .issueIntermediateCsr τ _ caId _ _ _ =>
    (getCaAuthority w.authorities τ caId).toOption.all fun ca => ca.status = .active
  | _ => true

/-! ## Steps -/

section Steps

variable {cfg : Config} {w w' : World} {act : Action} {e : Issued}

theorem Creates.entry {τ cid : Uuid} {req : CaRequest} {issued : IssuedHierarchyCa}
    {above : List CaCert} {signer : Option Authority}
    (creates : Creates cfg w w' τ cid req issued above signer)
    (added : w'.issued = w.issued ++ [e]) :
    e.Sanctioned cfg w w' ∧ e.signer? = signer := by
  obtain ⟨purpose, derived, spent⟩ := creates.consumed
  obtain ⟨rfl⟩ := singleton_inj.mp (append_cancel_left (added.symm.trans creates.recorded))
  obtain ⟨c, hit, pending, rfl, quorum, left⟩ := consumed_ceremony (mapError_eq_ok.mp spent)
  obtain ⟨kept, tenant, named⟩ := findCeremony_slice hit
  refine ⟨⟨c, kept, tenant, named, pending, derived, quorum, ?_⟩, rfl⟩
  rw [left, setTable_self]
  exact mem_updateRows.mpr (.inl ⟨c, kept, by simp [tenant, named, pending], rfl⟩)

/-- A step that adds a certificate consumed a ceremony for it, unless it is a leaf; the authority
that signed is active exactly if the step is live. -/
theorem step_entry (moved : w.step cfg act = some w') (added : w'.issued = w.issued ++ [e]) :
    e.Sanctioned cfg w w' ∧ ((∀ a ∈ e.signer?, a.status = .active) ↔ w.live act) := by
  have unsigned (none : e.signer? = none) : ∀ a ∈ e.signer?, a.status = .active := by
    rw [none]
    exact fun _ => nofun
  cases step_outcome moved with
  | quiet issued rows =>
    rw [issued] at added
    exact absurd (congrArg length added) (by simp)
  | createRoot creates | importOfflineRoot creates | importExisting creates
    | importOfflineIntermediate _ creates | rekeyRoot _ creates =>
    obtain ⟨fine, none⟩ := creates.entry added
    exact ⟨fine, iff_of_true (unsigned none) rfl⟩
  | createIntermediate hit creates | issueIntermediateCsr hit creates =>
    obtain ⟨fine, signer⟩ := creates.entry added
    refine ⟨fine, ?_⟩
    rw [signer, World.live, hit]
    simp [Except.toOption]
  | rekeyIntermediate hit mid child foundParent active creates signed =>
    obtain ⟨fine, signer⟩ := creates.entry added
    refine ⟨fine, iff_of_true ?_ rfl⟩
    rw [signer]
    rintro a ⟨⟩
    exact active
  | issueLeaf hit signed issued cas =>
    obtain ⟨rfl⟩ := singleton_inj.mp (append_cancel_left (added.symm.trans issued))
    refine ⟨trivial, iff_of_true ?_ rfl⟩
    rintro a ⟨⟩
    exact (issuingAuthority_active hit).2

theorem step_issued (moved : w.step cfg act = some w') :
    w'.issued = w.issued ∨ ∃ e, w'.issued = w.issued ++ [e] := by
  cases step_outcome moved with
  | quiet issued => exact .inl issued
  | issueLeaf _ _ issued => exact .inr ⟨_, issued⟩
  | createRoot creates | importOfflineRoot creates | importExisting creates
    | importOfflineIntermediate _ creates | rekeyRoot _ creates | createIntermediate _ creates
    | issueIntermediateCsr _ creates | rekeyIntermediate _ _ _ _ _ creates =>
    exact .inr ⟨_, creates.recorded⟩

/-- Every certificate of a run was added by a step of it. -/
theorem run_entry {ok : World → Action → Prop} {as : List Action}
    (run : Run (World.step cfg) ok {} as w) : ∀ e ∈ w.issued, ∃ past m act m',
      Run (World.step cfg) ok {} past m ∧ ok m act ∧ m.step cfg act = some m' ∧
        m'.issued = m.issued ++ [e] := by
  refine run.invariant_along (I := fun _ v => ∀ e ∈ v.issued, ∃ past m act m',
    Run (World.step cfg) ok {} past m ∧ ok m act ∧ m.step cfg act = some m' ∧
      m'.issued = m.issued ++ [e]) (fun past m act m' led meets moved ih => ?_)
    (forall_mem_nil _)
  rcases step_issued moved with same | ⟨e, added⟩
  · rwa [same]
  · rw [added]
    exact forall_mem_snoc ih ⟨past, m, act, m', led, meets, moved, added⟩

end Steps

/-- A step that creates a CA certificate consumes a ceremony of the same tenant for the same
request, and the authority that signs is active exactly if the operation finds the parent so; every
certificate of a run comes from such a step.  Requests whose purpose says everything have the same
purpose exactly if they are the same. -/
theorem operations_sanctioned (cfg : Config) :
    (∀ (w w' : World) (act : Action) (e : Issued), w.step cfg act = some w' →
      w'.issued = w.issued ++ [e] →
        e.Sanctioned cfg w w' ∧ ((∀ a ∈ e.signer?, a.status = .active) ↔ w.live act)) ∧
      (∀ (ok : World → Action → Prop) (as : List Action) (w : World),
        Run (World.step cfg) ok {} as w → ∀ e ∈ w.issued, ∃ past m act m',
          Run (World.step cfg) ok {} past m ∧ ok m act ∧ m.step cfg act = some m' ∧
            e.Sanctioned cfg m m' ∧ ((∀ a ∈ e.signer?, a.status = .active) ↔ m.live act)) ∧
      ∀ (r r' : CaRequest) (purpose purpose' : String), r.Bound → r'.Bound →
        cfg.hash.Separates r.digested r'.digested → r.purpose cfg.hash = .ok purpose →
        r'.purpose cfg.hash = .ok purpose' → (purpose = purpose' ↔ r.Same r') := by
  refine ⟨fun _ _ _ _ moved added => step_entry moved added, fun ok as w run e mem => ?_,
    fun _ _ _ _ bound bound' separated derived derived' =>
      purpose_eq_iff bound bound' separated derived derived'⟩
  obtain ⟨past, m, act, m', led, meets, moved, added⟩ := run_entry run e mem
  exact ⟨past, m, act, m', led, meets, moved, step_entry moved added⟩

/-- The root, then the intermediate that its active key signs.  A root with two domains has the
purpose of one with the same domains in another order. -/
theorem intermediate_sanctioned : ∃ w w' e,
    execute (World.step plainConfig) {} (rootAndIntermediate "b.a.example").dropLast = some w ∧
      execute (World.step plainConfig) {} (rootAndIntermediate "b.a.example") = some w' ∧
      w'.issued = w.issued ++ [e] ∧ e.Sanctioned plainConfig w w' ∧
      (∀ a ∈ e.signer?, a.status = .active) ∧
      (CaRequest.createRoot { commonName := "root", permittedDnsDomains := ["a", "b"] }).Same
        (.createRoot { commonName := "root", permittedDnsDomains := ["b", "a"] }) := by
  let act : Action := .createIntermediate "t" "c2" "r"
    { commonName := "sub", permittedDnsDomains := ["b.a.example"] } plainDraw
    { id := "i", createdAt := 2 }
  refine ⟨_, _, _, rfl, rfl, rfl, and_assoc.mp ⟨?entry, ?same⟩⟩
  case entry =>
    refine ((operations_sanctioned plainConfig).1 _ _ act _ rfl rfl).imp_right fun live => ?_
    exact live.mpr rfl
  have inRange : (0 : Int) * second < 2 ^ 63 := by decide
  refine Iff.mp ((operations_sanctioned plainConfig).2.2 _ _ _ _ ?_ ?_ ?_ rfl rfl) rfl
  · exact inRange
  · exact inRange
  · rintro p (_ | ⟨_, ⟨⟩⟩) q (_ | ⟨_, ⟨⟩⟩) _
    decide

/-- A root, its re-key, and an intermediate of the first root. -/
def supersededParent : List Action :=
  let spec : CaSpec := { commonName := "sub", permittedDnsDomains := ["b.a.example"] }
  approved "c1" (.createRoot rootSpec) ++
    [.createRoot "t" "c1" rootSpec plainDraw { id := "r", createdAt := 1 }] ++
    approved "c2" (.rekey "r" 60) ++
    [.rekeyAuthority "t" "c2" "r" 60 plainDraw { id := "s", createdAt := 2 }] ++
    approved "c3" (.createIntermediate "r" spec) ++
    [.createIntermediate "t" "c3" "r" spec plainDraw { id := "i", createdAt := 3 }]

/-- The root is re-keyed, and afterwards the superseded one signs an intermediate.  The purpose of a
re-key does not say its lifetime, that of an offline intermediate not which certificate it is. -/
theorem superseded_authority_signs :
    (∃ w, execute (World.step plainConfig) {} supersededParent = some w ∧
      ∃ e ∈ w.issued, ∃ a ∈ e.signer?, a.status = .superseded) ∧
      (CaRequest.rekey "r" 60).purpose plainHash = (CaRequest.rekey "r" 3600).purpose plainHash ∧
      ∀ certificate certificate' : CaCert,
        (CaRequest.importOfflineIntermediate "r" certificate rootSpec).purpose plainHash =
          (CaRequest.importOfflineIntermediate "r" certificate' rootSpec).purpose plainHash :=
  ⟨⟨_, rfl, _, mem_of_getElem? (i := 2) rfl, _, rfl, rfl⟩, rfl, fun _ _ => rfl⟩

end Trustctl.Issuing.Hierarchy
