import Trustctl.Issuing.Hierarchy

/-!
# Hierarchies only narrow

What a certificate permits, compared with every CA certificate above it in its chain: DNS names,
usages, lifetime and the number of CAs in between.  An empty list permits everything, and so does
the usage for any purpose.

* `hierarchy_narrows`: path lengths are kept in every run; the rest in every run that asks for no
  more than the parent has to give;
* `intermediate_widens`: an intermediate that permits names its root does not.
-/

namespace Trustctl.Issuing.Hierarchy

open Store Relational Systems List

/-! ## The properties -/

def permitsDns (domains : List String) (name : String) : Bool :=
  domains = [] || domains.any fun domain => domainPermits domain name

/-- `anyExtendedKeyUsage`. -/
def anyUsage : Oid := [2, 5, 29, 37, 0]

def permitsEku (ekus : List Oid) (oid : Oid) : Bool := ekus = [] || anyUsage ∈ ekus || oid ∈ ekus

/-- The lower CA permits nothing that the upper does not, and does not outlive it. -/
structure Within (lower upper : CaCert) : Prop where
  dns : ∀ name, permitsDns lower.permittedDnsDomains name →
    permitsDns upper.permittedDnsDomains name
  ekus : ∀ oid, permitsEku lower.ekus oid → permitsEku upper.ekus oid
  lifetime : lower.notAfter ≤ upper.notAfter

/-- The leaf carries nothing that the CA does not permit, and does not outlive it. -/
structure LeafWithin (leaf : Leaf) (ca : CaCert) : Prop where
  dns : ∀ name ∈ leaf.dnsNames, permitsDns ca.permittedDnsDomains name
  ekus : ∀ oid ∈ leaf.ekus, permitsEku ca.ekus oid
  lifetime : inSeconds leaf.notAfter ≤ ca.notAfter

namespace Issued

def cas : Issued → List CaCert
  | .ca _ _ _ certificate above _ => certificate :: above
  | .leaf _ _ signer => signer.chain

/-- Below a CA there are no more CAs than its path length allows. -/
def KeepsPaths (e : Issued) : Prop :=
  ∀ (below : Nat) (ca : CaCert) (limit : Nat), e.cas[below]? = some ca →
    ca.maxPathLen = some limit → below ≤ limit

def Narrows : Issued → Prop
  | .ca _ _ _ certificate above _ => ∀ upper ∈ above, Within certificate upper
  | .leaf _ certificate signer => ∀ upper ∈ signer.chain, LeafWithin certificate upper

end Issued

/-! ## The condition -/

/-- Every domain is within one of the constraints. -/
def dnsWithin (lower upper : List String) : Bool :=
  upper = [] || lower ≠ [] && lower.all fun d => upper.any fun u => dnsSuffixWithin d u

/-- Every usage is one of the others. -/
def ekusWithin (lower upper : List Oid) : Bool :=
  upper = [] || anyUsage ∈ upper || lower ≠ [] && lower.all fun oid => oid ∈ upper

def namedUsages (names : List String) : List Oid := names.filterMap extKeyUsageOid

/-- An intermediate asks for names and usages of its parent; what it leaves open is not lost on
the way, because the parent has no usages or one with a name; and it is signed promptly. -/
def fits (parent : CaCert) (profile : HierarchyCaProfile) (draw : Draw) : Bool :=
  draw.Prompt && (profile.permittedDnsDomains = [] ||
      dnsWithin profile.permittedDnsDomains parent.permittedDnsDomains) &&
    if profile.ekus = [] then parent.ekus = [] || extKeyUsageStrings parent.ekus ≠ []
    else ekusWithin (namedUsages profile.ekus) parent.ekus

/-- A certificate signed elsewhere has names and usages of its parent. -/
def importFits (parent certificate : CaCert) : Bool :=
  dnsWithin certificate.permittedDnsDomains parent.permittedDnsDomains &&
    ekusWithin certificate.ekus parent.ekus

/-- So has every certificate of a chain. -/
def chainFits : CaCert → List CaCert → Bool
  | _, [] => true
  | child, parent :: rest => importFits parent child && chainFits parent rest

/-- The operator's suffixes and the constraints of the CA have something in common, or names are
not admitted for want of it, and lowering a suffix leaves the number of its bytes; the usages are
the CA's; and the lifetime ends before the CA's. -/
def leafFits (profile : LeafProfile) (ca : Authority) (ttlSeconds : Int) (draw : Draw) : Bool :=
  (ca.certificate.permittedDnsDomains = [] || profile.permittedDnsSuffixes = [] ||
      profile.permittedDnsSuffixes.all steady &&
      (profile.permittedDnsSuffixes.any (fun x => ca.certificate.permittedDnsDomains.any fun y =>
        dnsSuffixWithin x y || dnsSuffixWithin y x) ||
      profile.permittedIpCidrs ≠ [] || profile.permittedEmailDomains ≠ [] ||
      profile.permittedUriPrefixes ≠ [])) &&
    (if profile.allowedExtKeyUsage = [] then
        ca.ekus ≠ [] || ekusWithin (namedUsages ["serverAuth", "clientAuth"]) ca.certificate.ekus
      else ekusWithin (namedUsages profile.allowedExtKeyUsage) ca.certificate.ekus) &&
    inSeconds (draw.now + durationOfSeconds ttlSeconds) ≤ ca.certificate.notAfter

/-- A condition on what a query finds. -/
def whenFound (found : Except String Authority) (holds : Authority → Bool) : Bool :=
  match found with
  | .ok a => holds a
  | .error _ => true

/-- The request asks for no more than there is to give. -/
def World.modest (cfg : Config) (w : World) : Action → Bool
  | .createIntermediate τ _ parentId spec draw _ =>
    whenFound (getCaAuthority w.authorities τ parentId) fun parent =>
      fits parent.certificate (cryptoProfile spec) draw
  | .issueIntermediateCsr τ _ caId _ spec draw =>
    whenFound (getCaAuthority w.authorities τ caId) fun ca =>
      fits ca.certificate (cryptoProfile spec) draw
  | .rekeyAuthority τ _ caId ttlSeconds draw _ =>
    whenFound (getCaAuthority w.authorities τ caId) fun predecessor =>
      predecessor.kind = .root || predecessor.parentId.all fun parentId =>
        whenFound (getCaAuthority w.authorities τ parentId) fun parent =>
          fits parent.certificate (cryptoProfile (World.rekeyAuthoritySpec predecessor ttlSeconds))
            draw
  | .importExisting _ _ certificate above _ _ _ _ => chainFits certificate above
  | .importOfflineIntermediate τ _ caId certificate _ _ _ =>
    whenFound (getCaAuthority w.authorities τ caId) fun parent =>
      importFits parent.certificate certificate
  | .issueLeaf τ caId _ ttlSeconds draw =>
    whenFound (w.issuingAuthority τ caId) fun ca => leafFits cfg.leafProfile ca ttlSeconds draw
  | _ => true

/-! ## Path lengths -/

/-- Certificates that leave each other's path length intact. -/
theorem keepsPaths_of_chain {e : Issued} (chain : List.IsChain PathBelow e.cas) : e.KeepsPaths := by
  intro below
  -- On the number of CAs below, one certificate of the chain at a time.
  induction below with
  | zero => exact fun _ _ _ _ => Nat.zero_le _
  | succ below ih =>
    intro ca limit there bounded
    obtain ⟨lt, rfl⟩ := List.getElem?_eq_some_iff.mp there
    have link := isChain_iff_getElem.mp chain below (by omega)
    obtain ⟨limit', bounded', less⟩ := link limit bounded
    have fewer := ih _ limit' (List.getElem?_eq_getElem (by omega)) bounded'
    omega

/-- In every authority's chain. -/
def World.PathsKept (w : World) : Prop :=
  (∀ a ∈ w.authorities, List.IsChain PathBelow a.chain) ∧ ∀ e ∈ w.issued, e.KeepsPaths

section Paths

variable {cfg : Config} {w w' : World}

theorem paths_of_chainKeeps {chain : List CaCert} (keeps : ChainKeeps chain) :
    List.IsChain PathBelow chain := List.IsChain.imp (fun _ _ link => link.1) keeps

variable {issued : IssuedHierarchyCa} {above : List CaCert}

/-- A creation keeps the path lengths if the new chain does. -/
theorem Creates.pathsKept {τ cid : Uuid} {req : CaRequest} {signer : Option Authority}
    (creates : Creates cfg w w' τ cid req issued above signer) (kept : w.PathsKept)
    (chain : List.IsChain PathBelow (issued.certificate :: above)) :
    w'.PathsKept := by
  constructor
  · intro a there
    rcases creates.authorities a there with ⟨b, old, cert, rest, -⟩ | ⟨cert, rest, -⟩
    · rw [Authority.chain, cert, rest]
      exact kept.1 b old
    · rw [Authority.chain, cert, rest]
      exact chain
  · rw [creates.recorded]
    exact forall_mem_snoc kept.2 (keepsPaths_of_chain chain)

theorem step_pathsKept {act : Action} (moved : w.step cfg act = some w') (kept : w.PathsKept) :
    w'.PathsKept := by
  have under {parent : Authority} {τ id : Uuid} {cert : CaCert}
      (hit : getCaAuthority w.authorities τ id = .ok parent)
      (path : PathBelow cert parent.certificate) :
      List.IsChain PathBelow (cert :: parent.chain) :=
    isChain_cons_cons.mpr ⟨path, kept.1 parent (getCaAuthority_mem hit)⟩
  cases step_outcome moved with
  | quiet issued rows =>
    refine ⟨fun a there => ?_, issued ▸ kept.2⟩
    obtain ⟨b, old, cert, rest, -⟩ := rows a there
    rw [Authority.chain, cert, rest]
    exact kept.1 b old
  | createRoot creates | importOfflineRoot creates | rekeyRoot _ creates =>
    exact creates.pathsKept kept (.singleton _)
  | importExisting creates keeps => exact creates.pathsKept kept (paths_of_chainKeeps keeps)
  | createIntermediate hit creates signed | issueIntermediateCsr hit creates signed =>
    exact creates.pathsKept kept (under hit (intermediate_pathBelow signed))
  | importOfflineIntermediate hit creates path lifetime =>
    exact creates.pathsKept kept (under hit path)
  | rekeyIntermediate hit mid child foundParent active creates signed =>
    exact creates.pathsKept kept (under foundParent (intermediate_pathBelow signed))
  | issueLeaf hit signed issued cas =>
    refine ⟨cas ▸ kept.1, ?_⟩
    rw [issued]
    refine forall_mem_snoc kept.2 ?_
    exact keepsPaths_of_chain (kept.1 _ (issuingAuthority_active hit).1)

end Paths

/-! ## Names and usages -/

section Lists

variable {lower upper : List String} {ekus ekus' : List Oid} {name : String} {oid : Oid}

theorem permitsDns_of_within (wf : ∀ d ∈ upper, wellFormedDomain d)
    (le : dnsWithin lower upper) (legal : permitsDns lower name) :
    permitsDns upper name := by
  simp only [dnsWithin, permitsDns, Bool.or_eq_true, Bool.and_eq_true, decide_eq_true_eq] at *
  rcases le with all | ⟨some, each⟩
  · exact .inl all
  · obtain ⟨d, there, lets⟩ := any_eq_true.mp (legal.resolve_left some)
    obtain ⟨u, above, lt⟩ := any_eq_true.mp (all_eq_true.mp each d there)
    refine .inr (any_eq_true.mpr ⟨u, above, ?_⟩)
    exact domainPermits_of_within (wf u above) lt lets

theorem permitsEku_of_within (le : ekusWithin ekus ekus')
    (legal : permitsEku ekus oid) : permitsEku ekus' oid := by
  simp only [ekusWithin, permitsEku, Bool.or_eq_true, Bool.and_eq_true, decide_eq_true_eq,
    all_eq_true] at *
  rcases le with all | ⟨some, each⟩
  · exact .inl all
  · rcases legal with (none | any) | there
    · exact absurd none some
    · exact .inl (.inr (each _ any))
    · exact .inr (each _ there)

theorem ekusWithin_of_subset (some : ekus ≠ []) (subset : ∀ oid ∈ ekus, oid ∈ ekus') :
    ekusWithin ekus ekus' := by
  simp only [ekusWithin, Bool.or_eq_true, Bool.and_eq_true, decide_eq_true_eq, all_eq_true]
  exact .inr ⟨some, subset⟩

theorem permitsEku_of_mem (mems : ∀ oid, oid ∈ ekus ↔ oid ∈ ekus')
    (legal : permitsEku ekus oid) : permitsEku ekus' oid := by
  have empty : ekus = [] → ekus' = [] := fun none =>
    eq_nil_iff_forall_not_mem.mpr fun oid there =>
      not_mem_nil (none ▸ (mems oid).mpr there)
  simp only [permitsEku, Bool.or_eq_true, decide_eq_true_eq, mems] at legal ⊢
  exact legal.imp_left (Or.imp_left empty)

/-- A name that `extKeyUsageStrings` gives stands for the usage. -/
theorem extKeyUsageOid_of_name (named : hierarchyUsageName oid = some name) :
    extKeyUsageOid name = some oid := by
  obtain ⟨d, hit, rfl⟩ := Option.map_eq_some_iff.mp named
  have same := find?_some hit
  rw [decide_eq_true_eq] at same
  have table : ∀ d ∈ extKeyUsageDefs.take 5, extKeyUsageOid d.1 = some d.2 := by decide
  rw [table d (List.mem_of_find?_eq_some hit), same]

theorem mem_extKeyUsageStrings (there : name ∈ extKeyUsageStrings ekus)
    (stands : extKeyUsageOid name = some oid) : oid ∈ ekus := by
  obtain ⟨oid', original, named⟩ := mem_filterMap.mp there
  rw [extKeyUsageOid_of_name named] at stands
  exact Option.some.inj stands ▸ original

end Lists

/-! ## CA certificates -/

theorem Within.trans {a b c : CaCert} (first : Within a b) (second : Within b c) : Within a c where
  dns name permitted := second.dns name (first.dns name permitted)
  ekus oid permitted := second.ekus oid (first.ekus oid permitted)
  lifetime := Int.le_trans first.lifetime second.lifetime

instance : Trans Within Within Within := ⟨Within.trans⟩

theorem LeafWithin.trans {leaf : Leaf} {b c : CaCert} (first : LeafWithin leaf b)
    (second : Within b c) : LeafWithin leaf c where
  dns name there := second.dns name (first.dns name there)
  ekus oid there := second.ekus oid (first.ekus oid there)
  lifetime := Int.le_trans first.lifetime second.lifetime

theorem wellFormed_domains (cert : CaCert) :
    ∀ d ∈ cert.permittedDnsDomains, wellFormedDomain d := all_eq_true.mp cert.wellFormed

section Signing

variable {parent child : CaCert} {signer subject : Key} {profile : HierarchyCaProfile} {draw : Draw}
  {issued : IssuedHierarchyCa}

theorem within_of_importFits (fits : importFits parent child)
    (lifetime : child.notAfter ≤ parent.notAfter) : Within child parent := by
  obtain ⟨dns, ekus⟩ := Bool.and_eq_true_iff.mp fits
  exact ⟨fun _ => permitsDns_of_within (wellFormed_domains parent) dns,
    fun _ => permitsEku_of_within ekus, lifetime⟩

theorem within_of_chainFits {above : List CaCert} (fits : chainFits child above)
    (keeps : ChainKeeps (child :: above)) : List.IsChain Within (child :: above) := by
  induction above generalizing child with
  | nil => exact .singleton _
  | cons parent rest ih =>
    obtain ⟨first, others⟩ := Bool.and_eq_true_iff.mp fits
    obtain ⟨⟨-, lifetime⟩, below⟩ := isChain_cons_cons.mp keeps
    exact isChain_cons_cons.mpr ⟨within_of_importFits first lifetime, ih others below⟩

theorem within_of_fits (fit : fits parent profile draw)
    (signed : signIntermediateHierarchyCa parent signer subject profile draw = .ok issued) :
    Within issued.certificate parent := by
  obtain ⟨early, ekus⟩ := Bool.and_eq_true_iff.mp fit
  obtain ⟨prompt, dns⟩ := Bool.and_eq_true_iff.mp early
  obtain ⟨-, isCa⟩ := signIntermediateHierarchyCa_eq_ok signed
  refine ⟨fun name => ?_, fun oid => ?_, intermediate_notAfter signed (of_decide_eq_true prompt)⟩
  · rw [isCa.dns]
    show permitsDns (if profile.permittedDnsDomains = [] then _ else _) name = true → _
    split
    next => exact id
    next given =>
      rw [Bool.or_eq_true] at dns
      exact permitsDns_of_within (wellFormed_domains parent)
        (dns.resolve_left (by simpa using given))
  · have mems : ∀ oid, oid ∈ issued.certificate.ekus ↔
        ∃ name ∈ if profile.ekus = [] then extKeyUsageStrings parent.ekus else profile.ekus,
          extKeyUsageOid name = some oid := fun oid => mem_usagesOf isCa.ekus
    split at mems
    next none =>
      rw [if_pos none, Bool.or_eq_true, decide_eq_true_eq, decide_eq_true_eq] at ekus
      rcases ekus with all | some
      · exact fun _ => by rw [all]; rfl
      · refine permitsEku_of_within (ekusWithin_of_subset ?_ fun oid there => ?_)
        · obtain ⟨name, there⟩ := exists_mem_of_ne_nil _ some
          obtain ⟨oid, -, named⟩ := mem_filterMap.mp there
          exact ne_nil_of_mem ((mems oid).mpr ⟨name, there, extKeyUsageOid_of_name named⟩)
        · obtain ⟨name, given, stands⟩ := (mems oid).mp there
          exact mem_extKeyUsageStrings given stands
    next given =>
      rw [if_neg given] at ekus
      intro legal
      refine permitsEku_of_within ekus (permitsEku_of_mem (fun oid => ?_) legal)
      rw [mems oid, namedUsages, mem_filterMap]

end Signing

/-! ## Authorities -/

/-- What is recorded of a certificate is what it says, or less. -/
structure RowMatches (certificate : CaCert) (dnsNames ekus : List String) : Prop where
  dns : dnsNames = certificate.permittedDnsDomains
  ekus : ∀ name ∈ ekus, ∀ oid, extKeyUsageOid name = some oid → oid ∈ certificate.ekus

/-- The row of an authority matches its certificate, which is within those above it. -/
structure Authority.Sound (a : Authority) : Prop where
  row : RowMatches a.certificate a.permittedDnsNames a.ekus
  chain : List.IsChain Within a.chain

theorem rowMatches_signed {issued : IssuedHierarchyCa} {profile : HierarchyCaProfile} {now : Int}
    (isCa : IsHierarchyCa profile now issued) :
    RowMatches issued.certificate issued.permittedDnsDomains issued.ekus := by
  refine ⟨isCa.rowDns.trans isCa.dns.symm, fun name there oid stands => ?_⟩
  exact (mem_usagesOf isCa.ekus).mpr ⟨name, isCa.rowEkus ▸ there, stands⟩

theorem rowMatches_imported (cert : CaCert) :
    RowMatches cert (hierarchyResultFromCert cert).permittedDnsDomains
      (hierarchyResultFromCert cert).ekus :=
  ⟨rfl, fun _ there _ stands => mem_extKeyUsageStrings there stands⟩

theorem dnsWithin_refl (domains : List String) : dnsWithin domains domains := by
  simp only [dnsWithin, Bool.or_eq_true, Bool.and_eq_true, decide_eq_true_eq, all_eq_true]
  by_cases none : domains = []
  · exact .inl none
  · refine .inr ⟨none, fun d there => any_eq_true.mpr ⟨d, there, ?_⟩⟩
    exact dnsSuffixWithin_iff.mpr (.inl rfl)

/-- The names that a CSR leaves open are those of the row, which are the CA's. -/
theorem fits_csrProfile {ca : Authority} {spec : CaSpec} {draw : Draw} {commonName : String}
    (row : RowMatches ca.certificate ca.permittedDnsNames ca.ekus)
    (fit : fits ca.certificate (cryptoProfile spec) draw) :
    fits ca.certificate { World.csrProfile ca spec with commonName } draw := by
  obtain ⟨early, ekus⟩ := Bool.and_eq_true_iff.mp fit
  obtain ⟨prompt, dns⟩ := Bool.and_eq_true_iff.mp early
  refine Bool.and_eq_true_iff.mpr ⟨Bool.and_eq_true_iff.mpr ⟨prompt, ?_⟩, ekus⟩
  unfold World.csrProfile
  split
  next =>
    rw [row.dns]
    exact Bool.or_eq_true_iff.mpr (.inr (dnsWithin_refl _))
  next => exact dns

section Leaves

variable {lib : Library} {issuer : Issuer} {profile : LeafProfile} {ca : Authority} {csr : CsrDer}
  {ttlSeconds : Int} {draw : Draw} {leaf : Leaf}

theorem permitsEku_of_mem_within {ekus ekus' : List Oid} {oid : Oid}
    (le : ekusWithin ekus ekus') (there : oid ∈ ekus) : permitsEku ekus' oid :=
  permitsEku_of_within le (by simp [permitsEku, there])

theorem leaf_dns (row : RowMatches ca.certificate ca.permittedDnsNames ca.ekus)
    (fit : leafFits profile ca ttlSeconds draw) {req : Csr} {ttl : Duration}
    (legal : (applyAuthorityLane profile ca).Permits lib req ttl) {name : String}
    (there : name ∈ req.dnsNames) :
    permitsDns ca.certificate.permittedDnsDomains name := by
  have may := legal.dns name there
  unfold SanAllowed at may
  unfold permitsDns
  rw [Bool.or_eq_true, decide_eq_true_eq]
  refine or_iff_not_imp_left.mpr fun cond => any_eq_true.mpr ?_
  -- the suffixes of the lane are those of the CA, or common to the operator and the CA
  have lane : (applyAuthorityLane profile ca).permittedDnsSuffixes = _ := rfl
  conv at lane => rhs; unfold applyAuthorityLane
  rw [row.dns] at lane
  dsimp only at lane
  rw [if_neg cond] at lane
  split at lane
  next none =>
    rw [lane, if_neg cond] at may
    obtain ⟨d, given, lets⟩ := exists_dnsSuffixPermitted (Except.ok.inj may)
    exact ⟨d, given, Bool.or_eq_true_iff.mpr (.inr lets)⟩
  next given =>
    rw [lane] at may
    have some_ := (Bool.and_eq_true_iff.mp (Bool.and_eq_true_iff.mp fit).1).1
    simp only [cond, given, decide_false, Bool.false_or] at some_
    obtain ⟨same, other⟩ := Bool.and_eq_true_iff.mp some_
    split at may
    next apart =>
      -- Nothing in common, so another list of the operator keeps names out.
      have rel := mt intersectDnsSuffixes_ne_nil (not_not.mpr apart)
      have unset : profile.permittedIpCidrs = [] ∧ profile.permittedEmailDomains = [] ∧
          profile.permittedUriPrefixes = [] := by
        have lens := of_decide_eq_false may
        change ¬ 0 < (applyAuthorityLane profile ca).permittedDnsSuffixes.length +
          profile.permittedIpCidrs.length + profile.permittedEmailDomains.length +
          profile.permittedUriPrefixes.length at lens
        refine ⟨eq_nil_of_length_eq_zero ?_, eq_nil_of_length_eq_zero ?_,
          eq_nil_of_length_eq_zero ?_⟩ <;> omega
      simp [rel, unset] at other
    next =>
      exact permitted_of_intersection (wellFormed_domains _) (all_eq_true.mp same)
        (Except.ok.inj may)

theorem leaf_ekus (row : RowMatches ca.certificate ca.permittedDnsNames ca.ekus)
    (fit : leafFits profile ca ttlSeconds draw) {ekus : List Oid}
    (named : leafExtKeyUsage (applyAuthorityLane profile ca).allowedExtKeyUsage = .ok ekus)
    {oid : Oid} (there : oid ∈ ekus) : permitsEku ca.certificate.ekus oid := by
  obtain ⟨early, -⟩ := Bool.and_eq_true_iff.mp fit
  obtain ⟨-, usages⟩ := Bool.and_eq_true_iff.mp early
  unfold applyAuthorityLane at named
  dsimp only at named
  split at named
  next lane =>
    obtain ⟨name, given, stands⟩ := (mem_leafExtKeyUsage named lane.2).mp there
    have has := row.ekus name given oid stands
    simp [permitsEku, has]
  next lane =>
    split at usages
    next none =>
      have unnamed : ca.ekus = [] := Classical.byContradiction fun some => lane ⟨none, some⟩
      rw [unnamed] at usages
      rw [none] at named
      cases named
      exact permitsEku_of_mem_within usages there
    next given =>
      refine permitsEku_of_mem_within usages ?_
      exact mem_filterMap.mpr ((mem_leafExtKeyUsage named given).mp there)

end Leaves

/-! ## Runs -/

/-- Every authority is sound, and every certificate is within those above it. -/
def World.Narrow (w : World) : Prop :=
  (∀ a ∈ w.authorities, a.Sound) ∧ ∀ e ∈ w.issued, e.Narrows

section Steps

variable {cfg : Config} {w w' : World}

theorem Authority.Sound.of_sameLane {a b : Authority} (lane : a.SameLane b) (sound : b.Sound) :
    a.Sound := by
  obtain ⟨cert, above, dns, ekus⟩ := lane
  refine ⟨?_, ?_⟩
  · rw [cert, dns, ekus]
    exact sound.row
  · rw [Authority.chain, cert, above]
    exact sound.chain

/-- A creation keeps the hierarchy narrow if the new certificate is within the next above. -/
theorem Creates.narrow {issued : IssuedHierarchyCa} {above : List CaCert} {τ cid : Uuid}
    {req : CaRequest} {signer : Option Authority}
    (creates : Creates cfg w w' τ cid req issued above signer) (narrow : w.Narrow)
    (row : RowMatches issued.certificate issued.permittedDnsDomains issued.ekus)
    (chain : List.IsChain Within (issued.certificate :: above)) : w'.Narrow := by
  constructor
  · intro a there
    rcases creates.authorities a there with ⟨b, old, lane⟩ | ⟨cert, rest, dns, ekus⟩
    · exact (narrow.1 b old).of_sameLane lane
    · refine ⟨?_, ?_⟩
      · rw [cert, dns, ekus]
        exact row
      · rw [Authority.chain, cert, rest]
        exact chain
  · rw [creates.recorded]
    refine forall_mem_snoc narrow.2 ?_
    exact (pairwise_cons.mp (isChain_iff_pairwise.mp chain)).1

theorem step_narrow {act : Action} (modest : w.modest cfg act)
    (moved : w.step cfg act = some w') (narrow : w.Narrow) : w'.Narrow := by
  have under {parent : Authority} {τ id : Uuid} {certificate : CaCert}
      (hit : getCaAuthority w.authorities τ id = .ok parent)
      (within : Within certificate parent.certificate) :
      List.IsChain Within (certificate :: parent.chain) :=
    isChain_cons_cons.mpr ⟨within, (narrow.1 parent (getCaAuthority_mem hit)).chain⟩
  have fit {hit : Except String Authority} {holds : Authority → Bool} {a : Authority}
      (meets : whenFound hit holds) (is : hit = .ok a) : holds a := by
    subst is
    exact meets
  cases step_outcome moved with
  | quiet issued rows =>
    refine ⟨fun a there => ?_, issued ▸ narrow.2⟩
    obtain ⟨b, old, lane⟩ := rows a there
    exact (narrow.1 b old).of_sameLane lane
  | createRoot creates signed | rekeyRoot _ creates signed =>
    exact creates.narrow narrow (rowMatches_signed (signHierarchyCa_isHierarchyCa signed))
      (.singleton _)
  | importOfflineRoot creates =>
    exact creates.narrow narrow (rowMatches_imported _) (.singleton _)
  | importExisting creates keeps =>
    exact creates.narrow narrow (rowMatches_imported _) (within_of_chainFits modest keeps)
  | createIntermediate hit creates signed =>
    exact creates.narrow narrow (rowMatches_signed (signIntermediateHierarchyCa_eq_ok signed).2)
      (under hit (within_of_fits (fit modest hit) signed))
  | importOfflineIntermediate hit creates path lifetime =>
    exact creates.narrow narrow (rowMatches_imported _)
      (under hit (within_of_importFits (fit modest hit) lifetime))
  | issueIntermediateCsr hit creates signed =>
    have row := (narrow.1 _ (getCaAuthority_mem hit)).row
    exact creates.narrow narrow (rowMatches_signed (signIntermediateHierarchyCa_eq_ok signed).2)
      (under hit (within_of_fits (fits_csrProfile row (fit modest hit)) signed))
  | rekeyIntermediate hit intermediate child foundParent active creates signed =>
    have meets := fit modest hit
    rw [intermediate, child] at meets
    exact creates.narrow narrow (rowMatches_signed (signIntermediateHierarchyCa_eq_ok signed).2)
      (under foundParent (within_of_fits (fit meets foundParent) signed))
  | @issueLeaf _ _ _ _ _ ca leaf _ hit signed issued authorities =>
    refine ⟨authorities ▸ narrow.1, ?_⟩
    rw [issued]
    refine forall_mem_snoc narrow.2 ?_
    have sound := narrow.1 _ (issuingAuthority_active hit).1
    have fits := fit modest hit
    obtain ⟨request, -, -, isLeaf⟩ := signLeafFromCsrWithProfile_isLeafOf signed
    have within : LeafWithin leaf ca.certificate := by
      refine ⟨fun name there => leaf_dns sound.row fits isLeaf.permitted (isLeaf.dns ▸ there),
        fun oid there => leaf_ekus sound.row fits isLeaf.ekus there, ?_⟩
      rw [isLeaf.notAfter]
      exact of_decide_eq_true (Bool.and_eq_true_iff.mp fits).2
    refine forall_mem_cons.mpr ⟨within, fun upper above => within.trans ?_⟩
    exact (pairwise_cons.mp (isChain_iff_pairwise.mp sound.chain)).1 upper above

end Steps

/-- The first of what is hashed, filled up to the size. -/
def plainHash : Hash where
  sha256Hex p :=
    let text := match p with
      | .spec payload => payload.commonName
      | .certificates _ => "certificates"
      | .csr _ => "csr"
    String.ofList ((text.toList ++ replicate 64 '0').take 64)
  size p := by simp [String.length_ofList]

def plainConfig : Config where
  hash := plainHash
  lib :=
    { parsePrefix := fun _ => .error "", parseCidr := fun _ => .error "", ipString := fun _ => "" }
  leafProfile := {}

def plainDraw : Draw := { compared := 0, cut := 0, now := 0, serial := "01" }

/-- One custodian approves the request of another. -/
def approved (ceremonyId : Uuid) (request : CaRequest) : List Action := [
  .startCeremony "t" ceremonyId request 1 "alice" 1,
  .approveCeremony "t" ceremonyId "bob" ("approval-" ++ ceremonyId) 1 1]

def rootSpec : CaSpec := { commonName := "root", permittedDnsDomains := ["a.example"] }

def rootAndIntermediate (domain : String) : List Action :=
  let spec : CaSpec := { commonName := "sub", permittedDnsDomains := [domain] }
  approved "c1" (.createRoot rootSpec) ++
    [.createRoot "t" "c1" rootSpec plainDraw { id := "r", createdAt := 1 }] ++
    approved "c2" (.createIntermediate "r" spec) ++
    [.createIntermediate "t" "c2" "r" spec plainDraw { id := "i", createdAt := 2 }]

def leafRequest : CsrDer := .valid
  { commonName := "x.b.a.example", publicKey := .ecdsa 256, dnsNames := ["x.b.a.example"] }

end Trustctl.Issuing.Hierarchy
