import Trustctl.Acme.History

/-!
# What a certificate names

`finalize` hands the order's identifiers to the issuer, which ignores them: the names of the
certificate are those of the CSR, and a CSR that was served before gets the certificate it got
then.

* `certificates_name_validated`: where every CSR names only identifiers of its order and is
  finalized under one order only, every name of every stored certificate is an identifier of
  the order whose authorization was validated before the certificate was signed.
* `certificate_names_unvalidated`: an order for one name yields a certificate for another.
-/

namespace Trustctl.Acme

open Systems List

/-! ## Covered certificates -/

/-- Every authorization of an order was validated. -/
def AllValidated (log : List StateEvent) (orderId : Nat) : Prop :=
  ∃ o azs, created log orderId = some (o, azs) ∧ ∀ az ∈ azs, Validated log orderId az.1.id

/-- Every name of a certificate is an identifier of the order, and the authorization of that
identifier was validated before the certificate was signed. -/
def Covered (log : List StateEvent) (orderId : Nat) (cert : Certificate) : Prop :=
  ∃ o azs, created log orderId = some (o, azs) ∧ ∀ name ∈ cert.dnsNames, name ∈ o.domains ∧
    ∃ az ∈ azs, az.1.domain = name ∧ Validated (log.take cert.signedAt) orderId az.1.id

variable {log : List StateEvent} {orderId : Nat}

theorem AllValidated.append (all : AllValidated log orderId) (e : StateEvent) :
    AllValidated (log ++ [e]) orderId := by
  obtain ⟨o, azs, made, valid⟩ := all
  exact ⟨o, azs, created_append_of_some made e, fun az mem => (valid az mem).append e⟩

variable {cert : Certificate}

theorem Covered.append (cover : Covered log orderId cert) (e : StateEvent) :
    Covered (log ++ [e]) orderId cert := by
  obtain ⟨o, azs, made, names⟩ := cover
  refine ⟨o, azs, created_append_of_some made e, fun name mem => ?_⟩
  obtain ⟨identifier, az, lt, dom, challengeId, status, old⟩ := names name mem
  refine ⟨identifier, az, lt, dom, challengeId, status, ?_⟩
  rw [take_append]
  exact mem_append_left _ old

variable {cfg : Config} {v : View}

theorem allValidated_of_ready (trust : cfg.authMode = .publicTrust) (noted : Recorded cfg log v)
    (wf : v.Wf) {id : Nat} {ord : Order} (hit : v.orders id = some ord)
    (ready : ord.status = .ready) :
    AllValidated log id := by
  obtain ⟨o, azs, made, -, -, ids⟩ := noted.order hit
  refine ⟨o, azs, made, fun az mem => ?_⟩
  have listed : az.1.id ∈ ord.authzIds := ids ▸ mem_map_of_mem mem
  obtain ⟨az', here, back⟩ := wf.linked.authz_of_order hit listed
  have done : ord.status ≠ .pending := by rw [ready]; exact Status.noConfusion
  have valid := wf.linked.valid_of_settled hit done listed here
  rcases noted.authz here valid with validated | trusted
  · exact back ▸ validated
  · rw [trust] at trusted
    contradiction

/-- A leaf signed for an order with validated authorizations, on a CSR that names only its
identifiers. -/
theorem covered_of_signed (noted : Recorded cfg log v) (all : AllValidated log orderId) {csr : Csr}
    (leaf : Leaf) (names : ∀ name ∈ csr.dnsNames, ∃ made, created log orderId = some made ∧
      name ∈ made.1.domains) : Covered log orderId (leaf.certificate csr log.length) := by
  obtain ⟨o, azs, made, valid⟩ := all
  refine ⟨o, azs, made, fun name mem => ?_⟩
  obtain ⟨made', same, identifier⟩ := names name mem
  rw [made] at same
  cases same
  obtain ⟨az, lt, dom⟩ := noted.covers made name identifier
  refine ⟨identifier, az, lt, dom, ?_⟩
  rw [show (leaf.certificate csr log.length).signedAt = log.length from rfl, take_length]
  exact valid az lt

variable {task : Task}

/-- A section stores the certificate the issuer returned to its request. -/
theorem ViewTurn.certs {o : Oracle} {v' : View} {log' : List StateEvent}
    (turn : ViewTurn cfg o task v log v' log') (wf : v.Wf) (good : task.Good v) {certId : Nat}
    (hit : v'.certs certId = some cert) :
    v.certs certId = some cert ∨ ∃ orderId seq record e, task.stage = .issued orderId cert ∧
      .certificateIssued seq orderId certId cert record = e ∧ log' = log ++ [e] := by
  cases turn with
  | quiet | orphaned => exact .inl hit
  | written past lets live =>
    have sound := lets.sound (wf.without _) (good.mono (.without _))
    rcases sound.certs live hit with old | ⟨orderId, record, rfl⟩
    · exact .inl old
    · cases lets with
      | issue stage acct => exact .inr ⟨orderId, _, _, _, stage, rfl, rfl⟩

/-- A CSR names only identifiers of its order, and was served before for this order only. -/
def signsOwnNames (w : World) (a : Action × Oracle) : Bool :=
  match a.1 with
  | .proceed i =>
    match w.inFlight[i]? with
    | some { stage := .issuing orderId csr, .. } =>
      (csr.dnsNames.all fun name =>
        (created w.log orderId).any fun made => made.1.domains.contains name) &&
      (w.minted.lookup csr).all fun cert => w.signed.contains (orderId, cert)
    | _ => true
  | _ => true

theorem signsOwnNames_issuing {w : World} {i : Nat} {o : Oracle} {csr : Csr}
    (meets : signsOwnNames w (.proceed i, o)) (run : w.inFlight[i]? = some task)
    (stage : task.stage = .issuing orderId csr) :
    (∀ name ∈ csr.dnsNames, ∃ made, created w.log orderId = some made ∧ name ∈ made.1.domains) ∧
      ∀ cert, w.minted.lookup csr = some cert → (orderId, cert) ∈ w.signed := by
  obtain ⟨msg, caller, stage'⟩ := task
  dsimp only at stage
  subst stage
  unfold signsOwnNames at meets
  dsimp only at meets
  rw [run] at meets
  obtain ⟨names, served⟩ := Bool.and_eq_true_iff.mp meets
  refine ⟨fun name mem => ?_, fun cert hit => ?_⟩
  · obtain ⟨made, logged, lt⟩ :=
      (Option.any_eq_true ..).mp (all_eq_true.mp names name mem)
    exact ⟨made, logged, contains_iff_mem.mp lt⟩
  · rw [hit] at served
    exact contains_iff_mem.mp served

/-! ## Every certificate is covered -/

/-- What the stage of a request relies on: before a leaf is signed the order is validated, and
a signed leaf is covered. -/
def Stage.Backed (log : List StateEvent) : Stage → Prop
  | .issuing orderId _ => AllValidated log orderId
  | .issued orderId cert => Covered log orderId cert
  | _ => True

theorem Stage.Backed.append {stage : Stage} (backed : stage.Backed log) (e : StateEvent) :
    stage.Backed (log ++ [e]) := by
  cases stage with
  | issuing => exact AllValidated.append backed e
  | issued => exact Covered.append backed e
  | authenticated | dispatched | validating | validated | revoking => trivial

structure Issuing (w : World) : Prop where
  stages : ∀ task ∈ w.inFlight, task.stage.Backed w.log
  signed : ∀ entry ∈ w.signed, Covered w.log entry.1 entry.2
  certs : ∀ {certId cert}, w.view.certs certId = some cert → ∃ orderId seq record,
    .certificateIssued seq orderId certId cert record ∈ w.log ∧ Covered w.log orderId cert

theorem issuing_empty : Issuing {} := by
  refine ⟨fun _ mem => ?_, fun _ mem => ?_, fun hit => ?_⟩
  · cases mem
  · cases mem
  · contradiction

namespace Issuing

variable {cfg : Config} {o : Oracle} {w w₁ w' : World}

variable (issuing : Issuing w)

include issuing

theorem congr (going : w₁.inFlight = w.inFlight) (signed : w₁.signed = w.signed)
    (certs : w₁.view.certs = w.view.certs) (log : w₁.log = w.log) : Issuing w₁ := by
  refine ⟨?_, ?_, ?_⟩
  · rw [going, log]
    exact issuing.stages
  · rw [signed, log]
    exact issuing.signed
  · rw [certs, log]
    exact issuing.certs

theorem append (e : StateEvent) : Issuing { w with log := w.log ++ [e] } where
  stages task member := (issuing.stages task member).append e
  signed entry member := (issuing.signed entry member).append e
  certs found := by
    obtain ⟨orderId, seq, record, logged, cover⟩ := issuing.certs found
    exact ⟨orderId, seq, record, mem_append_left _ logged, cover.append e⟩

theorem sign {orderId : Nat} (cover : Covered w.log orderId cert)
    (minted : List (Csr × Certificate)) :
    Issuing { w with signed := w.signed ++ [(orderId, cert)], minted := minted } where
  stages := issuing.stages
  signed entry member := by
    rcases mem_snoc.mp member with old | rfl
    · exact issuing.signed entry old
    · exact cover
  certs := issuing.certs

theorem unsigned (good : w.Good) (served : task.Good w.view) (backed : task.stage.Backed w.log)
    (turn : ViewTurn cfg o task w.view w.log w₁.view w₁.log) (going : w₁.inFlight = w.inFlight)
    (signed : w₁.signed = w.signed) : Issuing w₁ := by
  have grown : Issuing { w with log := w₁.log } := by
    rcases turn.log with same | ⟨e, more⟩
    · rw [same]
      exact issuing
    · rw [more]
      exact issuing.append e
  refine ⟨going ▸ grown.stages, signed ▸ grown.signed, fun hit => ?_⟩
  rcases turn.certs good.wf served hit with old | ⟨orderId, seq, record, e, stage, logged, more⟩
  · exact grown.certs old
  · rw [stage] at backed
    refine ⟨orderId, seq, record, ?_, ?_⟩ <;> rw [more]
    · exact mem_append_right _ (mem_singleton.mpr logged)
    · exact Covered.append backed e

/-- A section of a request, in public-trust mode and under the condition. -/
theorem turn {i : Nat} {next : Next} (good : w.Good) (noted : Recorded cfg w.log w.view)
    (trust : cfg.authMode = .publicTrust) (meets : signsOwnNames w (.proceed i, o))
    (run : w.inFlight[i]? = some task) (turn : Turn cfg o task w w₁ next) :
    Issuing w₁ ∧ ∀ stage, next = .stage stage → stage.Backed w₁.log := by
  have mem : task ∈ w.inFlight := mem_of_getElem? run
  have served := good.tasks task mem
  have backed := issuing.stages task mem
  have unsigned : w₁.signed = w.signed → Issuing w₁ :=
    issuing.unsigned good served backed (turn.view good.wf) turn.inFlight
  cases turn with
  | done moves =>
    cases moves with
    | answer early calm sane => exact ⟨unsigned (by rw [calm.rest]), nofun⟩
    | crash | wedge => exact ⟨unsigned rfl, nofun⟩
    | dispatch | challenge | validated | revoke =>
      exact ⟨unsigned rfl, fun _ same => by cases same; trivial⟩
    | finalize stage call hit ready =>
      refine ⟨issuing, fun _ same => ?_⟩
      cases same
      exact allValidated_of_ready trust noted good.wf hit ready
    | reissue stage minted =>
      refine ⟨issuing, fun _ same => ?_⟩
      cases same
      obtain ⟨-, served⟩ := signsOwnNames_issuing meets run stage
      exact issuing.signed _ (served _ minted)
    | @sign orderId csr leaf stage unserved signed =>
      rw [stage] at backed
      obtain ⟨names, -⟩ := signsOwnNames_issuing meets run stage
      have cover := covered_of_signed noted backed leaf names
      refine ⟨issuing.sign cover _, fun _ same => ?_⟩
      cases same
      exact cover
    | @lose orderId csr leaf minted reply stage unserved signed =>
      rw [stage] at backed
      obtain ⟨names, -⟩ := signsOwnNames_issuing meets run stage
      exact ⟨issuing.sign (covered_of_signed noted backed leaf names) _, nofun⟩
  | unlogged _ calm | orphaned calm | written _ calm =>
    exact ⟨unsigned (by rw [calm.rest]; rfl), nofun⟩

theorem step {a : Action} (good : w.Good) (noted : Recorded cfg w.log w.view)
    (trust : cfg.authMode = .publicTrust) (meets : signsOwnNames w (a, o))
    (moved : Step cfg o w a w') : Issuing w' := by
  cases moved.kind with
  | quiet quiet =>
    obtain ⟨drop, -, view⟩ := good.wf.exists_without quiet.view
    refine ⟨fun task mem => ?_, ?_, ?_⟩
    · rw [quiet.log]
      rcases quiet.inFlight with same | ⟨msg, caller, -, -, more⟩
      · exact issuing.stages task (same ▸ mem)
      · rw [more] at mem
        rcases mem_snoc.mp mem with old | rfl
        · exact issuing.stages task old
        · trivial
    · rw [quiet.log, quiet.signed]
      exact issuing.signed
    · rw [quiet.log, view]
      exact issuing.certs
  | @proceed i task w₂ next run turn =>
    obtain ⟨after, backed⟩ := issuing.turn good noted trust meets run turn
    have log : (w₂.settle i task next).log = w₂.log := by cases next <;> rfl
    have stages : ∀ other ∈ (w₂.settle i task next).inFlight, other.stage.Backed w₂.log := by
      intro other mem
      rcases mem_settle mem with old | ⟨stage, goesOn, rfl⟩
      · exact after.stages other old
      · exact backed stage goesOn
    rw [← log] at stages
    cases next <;> exact ⟨stages, after.signed, after.certs⟩
  | @mark certId => exact (issuing.append (.earlyRenewalMarked certId)).congr rfl rfl rfl rfl

end Issuing

/-- In public-trust mode, in every run in which each CSR names only identifiers of its order
and is finalized under one order only, every name of every certificate that is available is an
identifier of its order whose authorization was validated before the certificate was signed. -/
theorem certificates_name_validated {cfg : Config} (trust : cfg.authMode = .publicTrust)
    {actions : List (Action × Oracle)} {w : World}
    (run : Run (step cfg) (fun w a => signsOwnNames w a) {} actions w) {certId : Nat}
    {cert : Certificate} (found : w.view.certs certId = some cert) :
    ∃ orderId seq record, .certificateIssued seq orderId certId cert record ∈ w.log ∧
      Covered w.log orderId cert := by
  have invariant : (w.Good ∧ Recorded cfg w.log w.view) ∧ Issuing w := by
    refine run.invariant (I := fun w => (w.Good ∧ Recorded cfg w.log w.view) ∧ Issuing w) ?_
      ⟨⟨World.good_empty, .empty⟩, issuing_empty⟩
    rintro w ⟨a, o⟩ w' meets moved ⟨⟨good, noted⟩, issuing⟩
    obtain ⟨-, -, -, was⟩ := step_cases moved
    have good' := good.setClock o.now
    have issuing' : Issuing { w with clock := o.now } := issuing.congr rfl rfl rfl rfl
    exact ⟨⟨(was.keeps good').1, Recorded.step (w := { w with clock := o.now }) noted good' was⟩,
      issuing'.step good' noted trust meets was⟩
  exact invariant.2.certs found

def finalizedWorld (csr : Csr) : World := (execute (step {}) {} (finalized csr)).getD {}

/-- A certificate for the one name of the order, which was validated. -/
theorem certificate_names_a_example :
    ∃ cert orderId, (finalizedWorld ⟨"csr", ["a.example"]⟩).view.certs 7 = some cert ∧
      cert.dnsNames = ["a.example"] ∧
      Covered (finalizedWorld ⟨"csr", ["a.example"]⟩).log orderId cert := by
  have run : Run (step {}) (fun w a => signsOwnNames w a) {}
      (finalized ⟨"csr", ["a.example"]⟩) (finalizedWorld ⟨"csr", ["a.example"]⟩) :=
    run_of_executeIf rfl
  obtain ⟨orderId, -, -, -, cover⟩ := certificates_name_validated rfl run
    (show (finalizedWorld ⟨"csr", ["a.example"]⟩).view.certs 7 = some _ from rfl)
  exact ⟨_, orderId, rfl, rfl, cover⟩

/-- An order for `a.example` is finalized with a CSR for `b.example`: the certificate that is
made available names what its order did not validate. -/
theorem certificate_names_unvalidated :
    ∃ w cert, execute (step {}) {} (finalized ⟨"csr", ["b.example"]⟩) = some w ∧
      w.view.certs 7 = some cert ∧ cert.dnsNames = ["b.example"] ∧
      (w.view.orders 2).map Order.certId = some (some 7) ∧
      (w.view.orders 2).map Order.domains = some ["a.example"] ∧
      ¬ Covered w.log 2 cert := by
  refine ⟨_, _, rfl, rfl, rfl, rfl, rfl, ?_⟩
  rintro ⟨o, azs, made, names⟩
  cases made
  have identifier := (names "b.example" (mem_singleton_self _)).1
  exact absurd identifier (by decide)

end Trustctl.Acme
