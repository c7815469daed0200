import Trustctl.Acme.Writes

/-!
# What a step does

`Moves` lists everything a section of a request can decide, with the guards the code checks;
`resume_moves` proves it once from the handlers, and every invariant of the server goes by
cases on it.

* `Calm`: nothing changes but what pruning and the rate limits touch.
* `Admits`: the writes a section may decide on.
* `Step`: a step of the server, from `step_cases`.
-/

namespace Trustctl.Acme

open List Option

/-! ## Calm sections -/

/-- The rate limits touch neither the maps nor the nonces. -/
theorem Server.consumeSource_fst (q : Quota) (source : String) (kind : Server.Kind) (now : Nat)
    (s : Server) :
    (s.consumeSource q source kind now).1 =
      { s with sources := (s.consumeSource q source kind now).1.sources } := by
  cases kind <;> simp only [Server.consumeSource] <;> split <;> rfl

/-- Nothing changes but what pruning and the rate limits touch. -/
structure Calm (cfg : Config) (now : Nat) (w w₁ : World) : Prop where
  rest : w₁ = { w with server := w₁.server }
  view : w₁.view = w.view ∨ w₁.view = w.view.prune cfg.quota now
  nonces : w₁.server.nonces.Sublist w.server.nonces

namespace Calm

variable {cfg : Config} {now : Nat} {w w₁ : World}

protected theorem refl : Calm cfg now w w := ⟨rfl, .inl rfl, List.Sublist.refl _⟩

protected theorem prune : Calm cfg now w (w.prune cfg now) :=
  ⟨rfl, .inr rfl, filter_sublist⟩

protected theorem limit (q : Quota) (source : String) (kind : Server.Kind) :
    Calm cfg now w { w.prune cfg now with
      server := ((w.prune cfg now).server.consumeSource q source kind now).1 } := by
  rw [Server.consumeSource_fst]
  exact ⟨rfl, .inr rfl, filter_sublist⟩

protected theorem inFlight (calm : Calm cfg now w w₁) : w₁.inFlight = w.inFlight := by
  rw [calm.rest]

end Calm

/-- The writes a section may decide on, given the view it sees and the id counter it leaves. -/
inductive Admits (cfg : Config) (o : Oracle) (task : Task) (v : View) : Nat → Write → Prop
  | register {req : NewAccountRequest} {key : AcmeKey} (stage : task.stage = .dispatched)
      (call : task.msg.call = .newAccount (.ok req)) (jwk : task.msg.jwkKey = .ok key)
      (unknown : (v.byKey key).bind v.accounts = none) :
      Admits cfg o task v (v.seq + 1) (.register
        { id := key, url := { base := o.base, id := v.seq + 1 }, key, jwk := some key,
          contact := req.contact })
  | amend {req : NewAccountRequest} {key : AcmeKey} {acct : Account}
      (stage : task.stage = .dispatched) (call : task.msg.call = .newAccount (.ok req))
      (jwk : task.msg.jwkKey = .ok key) (known : (v.byKey key).bind v.accounts = some acct) :
      Admits cfg o task v v.seq
        (.amend { acct with contact := req.contact, jwk := acct.jwk <|> some key })
  | rekey {inner : Except String InnerJws} {url : AccountUrl} {newKey : AcmeKey} {acct : Account}
      (stage : task.stage = .dispatched) (call : task.msg.call = .keyChange inner)
      (account : task.caller.account = some url)
      (checked : checkInner url inner = .ok (newKey, acct.key))
      (found : v.accounts url = some acct)
      (free : ∀ other, v.byKey newKey = some other → other = url) :
      Admits cfg o task v v.seq
        (.rekey { acct with id := newKey, key := newKey, jwk := some newKey })
  | order {payload : Except String OrderPayload} {url : AccountUrl} {req : OrderRequest}
      {planned : List (String × List ChallengeType)} (stage : task.stage = .dispatched)
      (call : task.msg.call = .newOrder payload) (account : task.caller.account = some url)
      (types : orderChallenges cfg o req.domains = .ok planned) :
      Admits cfg o task v (v.seq + 1 + idsTaken planned)
        (.order (nextOrder cfg o url req planned v.seq) (newAuthzs cfg o planned v.seq))
  | validate {id : Nat} {keyAuth : KeyAuthorization} {ch : Challenge} {az : Authorization}
      (stage : task.stage = .validated id keyAuth) (found : findChallenge id v = .ok (ch, az)) :
      Admits cfg o task v v.seq (.validate ch az)
  | issue {orderId : Nat} {cert : Certificate} {url : AccountUrl}
      (stage : task.stage = .issued orderId cert) (account : task.caller.account = some url) :
      Admits cfg o task v (v.seq + 1) (.issue orderId (v.seq + 1) cert
        { accountUrl := url, keyThumb := cert.keyThumb, serial := cert.serial,
          certId := v.seq + 1 })
  | revoke {fingerprint : String} {rev : Revocation}
      (stage : task.stage = .revoking fingerprint rev) (fresh : v.revoked fingerprint = none) :
      Admits cfg o task v v.seq (.revoke fingerprint rev)

/-- The issuer returned a leaf that is not stored yet. -/
def Stage.isIssued : Stage → Bool
  | .issued _ _ => true
  | _ => false

/-- Everything a section of a request can decide. -/
inductive Moves (cfg : Config) (o : Oracle) (task : Task) (w : World) : Plan → Prop
  | answer {w₁ : World} {reply : Reply} (early : task.stage.isIssued = false)
      (calm : Calm cfg o.now w w₁) (sane : reply ≠ .crash) :
      Moves cfg o task w (.done w₁ (.reply reply))
  | crash (early : task.stage.isIssued = false)
      (missing : task.caller.account.bind w.view.accounts = none)
      (reached : (∃ ch domain, task.stage = .validating ch domain) ∨ task.caller.account ≠ none) :
      Moves cfg o task w (.done w (.reply .crash))
  | wedge {orderId : Nat} {cert : Certificate} (stage : task.stage = .issued orderId cert)
      (account : task.caller.account = none) :
      Moves cfg o task w (.done { w.setSeq (w.view.seq + 1) with wedged := true } (.reply .crash))
  | dispatch {server : Server} (stage : task.stage = .authenticated)
      (verified : task.msg.verify task.caller.key)
      (minted : (w.server.prune cfg.quota o.now).mintNonce cfg.quota o.now o.nonce = some server) :
      Moves cfg o task w
        (.done { w with server := server, drawn := o.nonce :: w.drawn } (.stage .dispatched))
  | challenge {id : Nat} {ch : Challenge} {az : Authorization} (stage : task.stage = .dispatched)
      (call : task.msg.call = .acceptChallenge id)
      (found : findChallenge id w.view = .ok (ch, az)) :
      Moves cfg o task w (.done w (.stage (.validating ch az.domain)))
  | validated {ch : Challenge} {domain : String} {url : AccountUrl} {acct : Account}
      (stage : task.stage = .validating ch domain) (account : task.caller.account = some url)
      (found : w.view.accounts url = some acct)
      (verdict : o.validate ch.type domain { token := ch.token, thumbprint := acct.key } = .ok ()) :
      Moves cfg o task w
        (.done w (.stage (.validated ch.id { token := ch.token, thumbprint := acct.key })))
  | finalize {id : Nat} {csr : Csr} {ord : Order} (stage : task.stage = .dispatched)
      (call : task.msg.call = .finalize id (.ok csr)) (found : w.view.orders id = some ord)
      (ready : ord.status = .ready) :
      Moves cfg o task w (.done w (.stage (.issuing id csr)))
  | reissue {orderId : Nat} {csr : Csr} {cert : Certificate}
      (stage : task.stage = .issuing orderId csr) (recorded : w.minted.lookup csr = some cert) :
      Moves cfg o task w (.done w (.stage (.issued orderId cert)))
  | sign {orderId : Nat} {csr : Csr} {leaf : Leaf} (stage : task.stage = .issuing orderId csr)
      (unserved : w.minted.lookup csr = none) (signed : o.sign = .ok leaf) :
      Moves cfg o task w (.done { w with
          signed := w.signed ++ [(orderId, leaf.certificate csr w.log.length)]
          minted := (csr, leaf.certificate csr w.log.length) :: w.minted }
        (.stage (.issued orderId (leaf.certificate csr w.log.length))))
  | lose {orderId : Nat} {csr : Csr} {leaf : Leaf} {minted : List (Csr × Certificate)}
      {reply : Reply} (stage : task.stage = .issuing orderId csr)
      (unserved : w.minted.lookup csr = none) (signed : o.sign = .ok leaf)
      (recorded : minted = w.minted ∨ minted = (csr, leaf.certificate csr w.log.length) :: w.minted)
      (failed : o.record ≠ .ok () ∨ o.deliver ≠ .ok ()) (sane : reply ≠ .crash) :
      Moves cfg o task w (.done { w with
          signed := w.signed ++ [(orderId, leaf.certificate csr w.log.length)]
          minted := minted } (.reply reply))
  | revoke {req : RevokeRequest} {ic : IssuedCert} (stage : task.stage = .dispatched)
      (call : task.msg.call = .revokeCert (.ok req)) (known : req.fingerprint ≠ "")
      (found : w.view.issued req.fingerprint = some ic) :
      Moves cfg o task w (.done w (.stage (.revoking req.fingerprint
        { serial := ic.serial, reason := req.reason, at_ := o.now })))
  | write {w₁ : World} {seq status : Nat} {change : Write} (calm : Calm cfg o.now w w₁)
      (admits : Admits cfg o task w₁.view seq change)
      (still : task.stage ≠ .dispatched → w₁ = w) :
      Moves cfg o task w (.write (w₁.setSeq seq) change status)

/-! ## The handlers -/

section Handlers

variable {cfg : Config} {o : Oracle} {task : Task} {w : World} {at_ : Stage} {w₁ : World}

theorem refuse_moves {status : Nat} {type detail : String} (stage : task.stage = at_)
    (calm : Calm cfg o.now w w₁) (early : at_.isIssued = false) :
    Moves cfg o task w (.refuse w₁ (.problem status type detail)) :=
  .answer (stage ▸ early) calm Reply.noConfusion

/-- A plain success. -/
theorem ok_moves {status : Nat} (stage : task.stage = at_) (calm : Calm cfg o.now w w₁)
    (early : at_.isIssued = false) : Moves cfg o task w (.done w₁ (.reply (.ok status))) :=
  .answer (stage ▸ early) calm Reply.noConfusion

theorem PolicyError.reply_ne_crash (err : PolicyError) : err.reply ≠ .crash := by
  cases err <;> exact Reply.noConfusion

theorem admitRequest_moves (stage : task.stage = .authenticated) :
    Moves cfg o task w (admitRequest cfg o task w) := by
  unfold admitRequest
  split
  case isTrue verified =>
    dsimp only
    split
    case h_1 => exact refuse_moves stage .prune rfl
    case h_2 server minted => exact .dispatch stage verified minted
  case isFalse => exact refuse_moves stage .refl rfl

variable {reply : Reply}

theorem checkBinding_ne_crash {base : String} {key : AcmeKey} {req : NewAccountRequest}
    (refused : checkBinding cfg base key req = some reply) : reply ≠ .crash := by
  unfold checkBinding at refused
  rintro rfl
  split at refused
  · split at refused <;> simp at refused
  · simp at refused
  · dsimp only at refused
    repeat' split at refused
    all_goals simp [Reply.internal] at refused

theorem newAccount_moves {body : Except String NewAccountRequest}
    (stage : task.stage = .dispatched) (call : task.msg.call = .newAccount body) :
    Moves cfg o task w (newAccount cfg o task.msg body w) := by
  unfold newAccount
  split
  case h_1 => exact refuse_moves stage .refl rfl
  case h_2 key jwk =>
    split
    case h_1 => exact refuse_moves stage .refl rfl
    case h_2 req =>
      dsimp only
      split
      case h_1 unknown =>
        unfold createAccount
        split
        · exact refuse_moves stage .prune rfl
        · dsimp only
          have calm : Calm cfg o.now w _ := .limit cfg.quota o.source .account
          have seen := congrArg Server.view (Server.consumeSource_fst cfg.quota o.source .account
            o.now (w.prune cfg o.now).server)
          split
          · exact refuse_moves stage calm rfl
          split
          · exact refuse_moves stage calm rfl
          split
          case h_1 reply refused => exact .answer (stage ▸ rfl) calm (checkBinding_ne_crash refused)
          case h_2 =>
            refine .write calm (.register stage call jwk ?_) (fun late => absurd stage late)
            dsimp only [World.view]
            rw [seen]
            exact unknown
      case h_2 acct known =>
        unfold returnAccount
        split
        · exact ok_moves stage .prune rfl
        · exact .write .prune (.amend stage call jwk known) fun late => absurd stage late

theorem checkInner_ne_crash {url : AccountUrl} {inner : Except String InnerJws}
    (refused : checkInner url inner = .error reply) : reply ≠ .crash := by
  unfold checkInner at refused
  rintro rfl
  repeat' split at refused
  all_goals simp at refused

theorem keyChange_moves {inner : Except String InnerJws} (stage : task.stage = .dispatched)
    (call : task.msg.call = .keyChange inner) :
    Moves cfg o task w (keyChange task.caller inner w) := by
  unfold keyChange
  split
  case h_1 => exact refuse_moves stage .refl rfl
  case h_2 url account =>
    split
    case h_1 reply refused => exact .answer (stage ▸ rfl) .refl (checkInner_ne_crash refused)
    case h_2 newKey oldKey checked =>
      split
      case h_1 missing =>
        refine .crash (stage ▸ rfl) ?_ (.inr ?_)
        · rw [account, bind_some, missing]
        · rw [account]
          exact some_ne_none url
      case h_2 acct found =>
        unfold rollover
        split
        · exact refuse_moves stage .refl rfl
        case isFalse current =>
          split
          · exact refuse_moves stage .refl rfl
          case isFalse free =>
            rw [not_not] at current
            rw [current] at checked
            refine .write .refl (.rekey stage call account checked found ?_) (fun _ => rfl)
            intro other index
            by_contra different
            exact free (by rw [index]; simpa using different)

theorem newOrder_moves {body : Except String OrderPayload} (stage : task.stage = .dispatched)
    (call : task.msg.call = .newOrder body) :
    Moves cfg o task w (newOrder cfg o task.caller body w) := by
  unfold newOrder
  split
  case h_1 => exact refuse_moves stage .refl rfl
  case h_2 url account =>
    split
    case h_1 => exact refuse_moves stage .refl rfl
    case h_2 req parsed =>
      split
      · exact refuse_moves stage .refl rfl
      · exact refuse_moves stage .refl rfl
      · split
        case h_1 err refused => exact .answer (stage ▸ rfl) .refl err.reply_ne_crash
        case h_2 planned types =>
          have calm : Calm cfg o.now w _ := .limit cfg.quota o.source .order
          unfold admitOrder
          dsimp only
          iterate 5
            split
            · exact refuse_moves stage calm rfl
          exact .write calm (.order stage call account types) fun late => absurd stage late

theorem lookUp_moves {A : Type} (stage : task.stage = .dispatched) (hit : Option A)
    (gone : String) : Moves cfg o task w (lookUp hit gone w) := by
  unfold lookUp
  split
  · exact refuse_moves stage .refl rfl
  · exact ok_moves stage .refl rfl

variable {id : Nat} {v : View} {ch : Challenge}

theorem findChallenge_ok {az : Authorization} (hit : findChallenge id v = .ok (ch, az)) :
    v.challenges id = some ch ∧ v.authzs ch.authzId = some az := by
  unfold findChallenge at hit
  split at hit
  · contradiction
  case h_2 ch' challenge =>
    split at hit
    · contradiction
    case h_2 az' authz =>
      cases hit
      exact ⟨challenge, authz⟩

/-- The challenge found after pruning was there before. -/
theorem findChallenge_without {drop : Nat → Bool} {az : Authorization}
    (hit : findChallenge id (v.without drop) = .ok (ch, az)) :
    findChallenge id v = .ok (ch, az) := by
  obtain ⟨challenge, authz⟩ := findChallenge_ok hit
  unfold findChallenge
  rw [(View.without_challenges.mp challenge).1]
  dsimp only
  rw [(View.without_authzs.mp authz).1]

theorem findChallenge_ne_crash (gone : findChallenge id v = .error reply) : reply ≠ .crash := by
  unfold findChallenge at gone
  rintro rfl
  repeat' split at gone
  all_goals simp at gone

theorem validateChallenge_moves {dom : String} (stage : task.stage = .validating ch dom) :
    Moves cfg o task w (validateChallenge o task.caller ch dom w) := by
  unfold validateChallenge
  split
  case h_1 err refused => exact .answer (stage ▸ rfl) .refl err.reply_ne_crash
  case h_2 =>
    split
    case h_1 missing => exact .crash (stage ▸ rfl) missing (.inl ⟨ch, dom, stage⟩)
    case h_2 acct found =>
      obtain ⟨url, account, here⟩ := bind_eq_some_iff.mp found
      dsimp only
      split
      case h_1 presented verdict => exact .validated stage account here verdict
      all_goals exact refuse_moves stage .refl rfl

theorem finalize_moves {csr : Except String Csr} (stage : task.stage = .dispatched)
    (call : task.msg.call = .finalize id csr) : Moves cfg o task w (finalize id csr w) := by
  unfold finalize
  split
  case h_1 => exact refuse_moves stage .refl rfl
  case h_2 ord found =>
    split
    · exact ok_moves stage .refl rfl
    split
    · exact refuse_moves stage .refl rfl
    case isFalse ready =>
      rw [not_not] at ready
      split
      · exact refuse_moves stage .refl rfl
      · exact .finalize stage call found ready

theorem issueProtocolLeaf_moves {oid : Nat} {csr : Csr} (stage : task.stage = .issuing oid csr) :
    Moves cfg o task w (issueProtocolLeaf o oid csr w) := by
  unfold issueProtocolLeaf
  split
  case h_1 cert recorded =>
    unfold deliverLeaf
    split
    · exact refuse_moves stage .refl rfl
    · exact .reissue stage recorded
  case h_2 unserved =>
    split
    · exact refuse_moves stage .refl rfl
    case h_2 leaf signed =>
      split
      case h_1 detail failed =>
        exact .lose stage unserved signed (.inl rfl) (.inl (by rw [failed]; simp)) Reply.noConfusion
      case h_2 recorded =>
        unfold deliverLeaf
        split
        case h_1 detail failed =>
          exact .lose stage unserved signed (.inr rfl) (.inr (by rw [failed]; simp))
            Reply.noConfusion
        · exact .sign stage unserved signed

theorem revokeCert_moves {body : Except String RevokeRequest}
    (stage : task.stage = .dispatched) (call : task.msg.call = .revokeCert body) :
    Moves cfg o task w (revokeCert o task.msg task.caller body w) := by
  unfold revokeCert
  split
  · exact refuse_moves stage .refl rfl
  case h_2 req =>
    split
    · exact refuse_moves stage .refl rfl
    case isFalse known =>
      split
      · exact refuse_moves stage .refl rfl
      case h_2 ic found =>
        split
        · exact refuse_moves stage .refl rfl
        split
        · exact .revoke stage call known found
        · exact refuse_moves stage .refl rfl

theorem recordRevocation_moves {fp : String} {rev : Revocation}
    (stage : task.stage = .revoking fp rev) :
    Moves cfg o task w (recordRevocation o fp rev w) := by
  unfold recordRevocation
  split
  · exact refuse_moves stage .refl rfl
  · split
    · exact ok_moves stage .refl rfl
    case isFalse fresh =>
      exact .write .refl (.revoke stage (not_isSome_iff_eq_none.mp fresh)) fun _ => rfl

/-- Everything the next section of a request can do. -/
theorem resume_moves (cfg : Config) (o : Oracle) (task : Task) (w : World) :
    Moves cfg o task w (resume cfg o task w) := by
  unfold resume
  split
  case h_1 stage => exact admitRequest_moves stage
  case h_2 stage =>
    unfold dispatch
    split
    case h_1 payload call => exact newAccount_moves stage call
    case h_2 payload call => exact newOrder_moves stage call
    case h_4 id call =>
      unfold acceptChallenge
      split
      case h_1 reply missing => exact .answer (stage ▸ rfl) .refl (findChallenge_ne_crash missing)
      case h_2 ch az found => exact .challenge stage call found
    case h_6 id csr call => exact finalize_moves stage call
    case h_8 inner call => exact keyChange_moves stage call
    case h_9 payload call => exact revokeCert_moves stage call
    all_goals exact lookUp_moves stage ..
  case h_3 stage => exact validateChallenge_moves stage
  case h_4 stage =>
    unfold recordValidation
    split
    case h_1 reply missing => exact .answer (stage ▸ rfl) .refl (findChallenge_ne_crash missing)
    case h_2 ch az found => exact .write .refl (.validate stage found) fun _ => rfl
  case h_5 stage => exact issueProtocolLeaf_moves stage
  case h_6 stage =>
    unfold storeCertificate
    split
    case h_1 account => exact .wedge stage account
    case h_2 url account => exact .write .refl (.issue stage account) fun _ => rfl
  case h_7 stage => exact recordRevocation_moves stage

end Handlers

/-! ## Steps -/

/-- What a section of a request leaves behind, with its plan carried out. -/
inductive Turn (cfg : Config) (o : Oracle) (task : Task) (w : World) : World → Next → Prop
  | done {w₁ : World} {next : Next} (moves : Moves cfg o task w (.done w₁ next)) :
      Turn cfg o task w w₁ next
  /-- The append failed: the ids of the section are gone, nothing else happened. -/
  | unlogged {w₁ : World} {seq : Nat} {change : Write} {detail : String}
      (refused : o.append = .error detail) (calm : Calm cfg o.now w w₁)
      (admits : Admits cfg o task w₁.view seq change) :
      Turn cfg o task w (w₁.setSeq seq) (.reply (.internal detail))
  /-- The event is in the log and the change by hand failed. -/
  | orphaned {w₁ : World} {seq : Nat} {change : Write} {detail : String}
      (calm : Calm cfg o.now w w₁) (admits : Admits cfg o task w₁.view seq change)
      (failed : change.live { w₁.view with seq := seq } = .error detail)
      (still : task.stage ≠ .dispatched → w₁ = w) :
      Turn cfg o task w
        { w₁.setSeq seq with log := w.log ++ [change.event { w₁.view with seq := seq }] }
        (.reply (.internal detail))
  | written (w₁ : World) {seq status : Nat} {change : Write} {v : View}
      (calm : Calm cfg o.now w w₁) (admits : Admits cfg o task w₁.view seq change)
      (live : change.live { w₁.view with seq := seq } = .ok v)
      (still : task.stage ≠ .dispatched → w₁ = w) :
      Turn cfg o task w
        { w₁.setView v with log := w.log ++ [change.event { w₁.view with seq := seq }] }
        (.reply (.ok status))

variable {cfg : Config} {w : World} {o : Oracle}

theorem turn_perform {task : Task} {plan : Plan} (moves : Moves cfg o task w plan) :
    Turn cfg o task w (plan.perform o).1 (plan.perform o).2 := by
  cases plan with
  | done w₁ next => exact .done moves
  | write w₂ change status =>
    cases moves with
    | @write w₁ seq _ _ calm lets still =>
      have log : (w₁.setSeq seq).log = w.log := by rw [calm.rest]; rfl
      dsimp only [Plan.perform]
      rw [log]
      cases appended : o.append with
      | error detail => exact .unlogged appended calm lets
      | ok _ =>
        cases live : change.live { w₁.view with seq := seq } with
        | error detail =>
          rw [show change.live (w₁.setSeq seq).view = .error detail from live]
          exact .orphaned calm lets live still
        | ok v =>
          rw [show change.live (w₁.setSeq seq).view = .ok v from live]
          exact .written w₁ calm lets live still

inductive Step (cfg : Config) (o : Oracle) (w : World) : Action → World → Prop
  | idle {w₁ : World} (calm : Calm cfg o.now w w₁) : Step cfg o w .newNonce w₁
  | nonce (w₁ : World) {server : Server} (calm : Calm cfg o.now w w₁)
      (minted : w₁.server.mintNonce cfg.quota o.now o.nonce = some server) :
      Step cfg o w .newNonce { w₁ with server := server, drawn := o.nonce :: w.drawn }
  | replayed {msg : Message} {w₁ : World} {reply : Reply} (calm : Calm cfg o.now w w₁)
      (sane : reply ≠ .crash) :
      Step cfg o w (.receive msg) { w₁ with answers := w.answers ++ [(msg, reply)] }
  | accepted {msg : Message} (fresh : ∃ at_, (msg.nonce, at_) ∈ w.server.nonces) (entered : World)
      (spends : entered = { w with
        server := { w.server.prune cfg.quota o.now with
          nonces := (w.server.prune cfg.quota o.now).nonces.filter fun n => n.1 ≠ msg.nonce }
        spent := msg.nonce :: w.spent }) :
      Step cfg o w (.receive msg) (entered.enter msg (findCaller entered.view msg))
  | proceed {i : Nat} {task : Task} {w₁ : World} {next : Next}
      (running : w.inFlight[i]? = some task) (turn : Turn cfg o task w w₁ next) :
      Step cfg o w (.proceed i) (w₁.settle i task next)
  | unmarked {certId : String} : Step cfg o w (.markEarlyRenewal certId) w
  | mark {certId : String} : Step cfg o w (.markEarlyRenewal certId)
        { w.setView { w.view with earlyRenew := Function.update w.view.earlyRenew certId true } with
          log := w.log ++ [.earlyRenewalMarked certId] }

theorem findCaller_ne_crash {v : View} {msg : Message} {reply : Reply}
    (refused : findCaller v msg = .error reply) : reply ≠ .crash := by
  unfold findCaller at refused
  rintro rfl
  repeat' split at refused
  all_goals simp at refused

theorem Server.mintNonce_view {q : Quota} {now : Nat} {nonce : Nonce} {s s' : Server}
    (minted : s.mintNonce q now nonce = some s') : s'.view = s.view := by
  unfold Server.mintNonce at minted
  split at minted
  · contradiction
  · cases minted
    rfl

/-- A step that writes nothing: pruning, and at most one request more. -/
structure Quiet (cfg : Config) (now : Nat) (w : World) (a : Action) (w' : World) : Prop where
  view : w'.view = w.view ∨ w'.view = w.view.prune cfg.quota now
  log : w'.log = w.log
  signed : w'.signed = w.signed
  minted : w'.minted = w.minted
  wedged : w'.wedged = w.wedged
  clock : w'.clock = w.clock
  answers : ∃ more, w'.answers = w.answers ++ more ∧ ∀ answer ∈ more, answer.2 ≠ .crash
  inFlight : w'.inFlight = w.inFlight ∨ ∃ msg caller, a = .receive msg ∧
    findCaller w'.view msg = .ok caller ∧
      w'.inFlight = w.inFlight ++ [{ msg, caller, stage := .authenticated }]

theorem Calm.quiet {w₁ : World} {now : Nat} (calm : Calm cfg now w w₁) (a : Action) :
    Quiet cfg now w a w₁ := by
  have silent : ∃ more, w₁.answers = w.answers ++ more ∧ ∀ answer ∈ more, answer.2 ≠ .crash :=
    ⟨[], by rw [calm.rest, append_nil], forall_mem_nil _⟩
  refine ⟨calm.view, ?_, ?_, ?_, ?_, ?_, silent, .inl ?_⟩ <;> rw [calm.rest]

/-- The steps, with those that write nothing together. -/
inductive Step.Kind (cfg : Config) (o : Oracle) (w : World) : Action → World → Prop
  | quiet {a : Action} {w' : World} (quiet : Quiet cfg o.now w a w') : Kind cfg o w a w'
  | proceed {i : Nat} {task : Task} {w₁ : World} {next : Next}
      (running : w.inFlight[i]? = some task) (turn : Turn cfg o task w w₁ next) :
      Kind cfg o w (.proceed i) (w₁.settle i task next)
  | mark {certId : String} : Kind cfg o w (.markEarlyRenewal certId)
        { w.setView { w.view with earlyRenew := Function.update w.view.earlyRenew certId true } with
          log := w.log ++ [.earlyRenewalMarked certId] }

theorem Step.kind {w' : World} {a : Action} (moved : Step cfg o w a w') :
    Step.Kind cfg o w a w' := by
  cases moved with
  | idle calm => exact .quiet (calm.quiet _)
  | nonce w₁ calm minted =>
    have quiet := calm.quiet .newNonce
    have same := Server.mintNonce_view minted
    refine .quiet { quiet with view := ?_, inFlight := .inl calm.inFlight }
    dsimp only [World.view]
    rw [same]
    exact calm.view
  | @replayed msg w₁ reply calm sane =>
    have quiet := calm.quiet (.receive msg)
    exact .quiet { quiet with
      answers := ⟨[(msg, reply)], rfl, forall_mem_singleton.mpr sane⟩
      inFlight := .inl calm.inFlight }
  | @accepted msg fresh entered spends =>
    refine .quiet ?_
    subst spends
    unfold World.enter
    split
    case h_1 reply refused =>
      exact ⟨.inr rfl, rfl, rfl, rfl, rfl, rfl,
        ⟨[(msg, reply)], rfl, forall_mem_singleton.mpr (findCaller_ne_crash refused)⟩,
        .inl rfl⟩
    case h_2 caller hit =>
      exact ⟨.inr rfl, rfl, rfl, rfl, rfl, rfl, ⟨[], (append_nil _).symm, forall_mem_nil _⟩,
        .inr ⟨msg, caller, rfl, hit, rfl⟩⟩
  | proceed run turn => exact .proceed run turn
  | unmarked => exact .quiet (Calm.refl.quiet _)
  | mark => exact .mark

def Serves (w : World) (a : Action × Oracle) (task : Task) : Prop :=
  ∃ i, a.1 = .proceed i ∧ w.inFlight[i]? = some task

/-- Everything a step can do. -/
theorem step_cases {w' : World} {a : Action} (moved : step cfg w (a, o) = some w') :
    w.wedged = false ∧ w.clock ≤ o.now ∧ o.nonce ∉ w.drawn ∧
      Step cfg o { w with clock := o.now } a w' := by
  unfold step at moved
  split at moved
  · contradiction
  case isFalse enabled =>
    simp only [Bool.or_eq_true, decide_eq_true_eq, contains_iff_mem, not_or,
      Bool.not_eq_true, Nat.not_lt] at enabled
    obtain ⟨⟨awake, forward⟩, new⟩ := enabled
    refine ⟨awake, forward, new, ?_⟩
    dsimp only at moved
    split at moved
    case h_1 =>
      cases moved
      have calm : Calm cfg o.now { w with clock := o.now } _ :=
        .limit cfg.quota o.source .nonce
      unfold newNonce
      dsimp only
      split
      · split
        · exact .idle calm
        case h_2 server minted =>
          have drew := Step.nonce _ calm minted
          exact drew
      · exact .idle calm
    case h_2 msg =>
      cases moved
      unfold authenticate
      dsimp only
      split
      case isTrue known =>
        obtain ⟨⟨nonce, at_⟩, mem, same⟩ := any_eq_true.mp known
        have same : nonce = msg.nonce := of_decide_eq_true same
        subst same
        exact .accepted ⟨at_, mem_of_mem_filter mem⟩ _ rfl
      case isFalse => exact .replayed .prune Reply.noConfusion
    case h_3 i =>
      split at moved
      · contradiction
      case h_2 task running =>
        cases moved
        exact .proceed running (turn_perform (resume_moves ..))
    case h_4 certId =>
      cases moved
      unfold markEarlyRenewal
      split
      · exact .unmarked
      · dsimp only [Plan.perform]
        cases o.append with
        | error => exact .unmarked
        | ok _ => exact .mark

end Trustctl.Acme
