import Trustctl.Acme.Reachable

/-!
# Restarting the server from its log

The handlers change the maps by hand after they appended an event; a restart applies the events
through `apply…EventLocked` and never prunes on the way.

* `live_view_is_replayed`: where no finalize request stores its certificate after its order was
  pruned, and no early renewal is marked under an empty id, replaying the log succeeds and gives
  the serving view, once both are pruned at the same instant.
* `pruned_order_comes_back`: the certificate of an order that was pruned while its issuer was at
  work is in the log and not in the maps.
-/

namespace Trustctl.Acme

open Systems List

namespace View

/-! ## Dropping orders and writing -/

section Commutes

variable {v : View} {drop : Nat → Bool}

/-- A new order can be stored before or after others are dropped. -/
theorem without_storeOrder (link : v.Linked) {high : Nat} {o : Order}
    {azs : List (Authorization × List Challenge)} (tree : NewTree v.seq high o azs)
    (kept : drop o.id = false) :
    (v.without drop).storeOrder o azs = (v.storeOrder o azs).without drop := by
  have link' : (v.without drop).Linked := link.without
  refine tree_ext ?_ (fun id x => ?_) (fun a az => ?_) (fun c ch => ?_)
  · rw [storeOrder_eq, storeOrder_eq]
    rfl
  · rw [without_orders, storeOrder_orders link tree, storeOrder_orders link' tree, without_orders]
    constructor
    · rintro (⟨rfl, rfl⟩ | old)
      · exact ⟨kept, .inl ⟨rfl, rfl⟩⟩
      · exact ⟨old.1, .inr old.2⟩
    · rintro ⟨notDropped, new | old⟩
      · exact .inl new
      · exact .inr ⟨notDropped, old⟩
  · rw [without_authzs, storeOrder_authzs link tree, storeOrder_authzs link' tree, without_authzs]
    constructor
    · rintro (⟨chs, mem, new⟩ | old)
      · exact ⟨.inl ⟨chs, mem, new⟩, (tree.authz _ mem).2.1 ▸ kept⟩
      · exact ⟨.inr old.1, old.2⟩
    · rintro ⟨new | old, notDropped⟩
      · exact .inl new
      · exact .inr ⟨old, notDropped⟩
  · rw [without_challenges, storeOrder_challenges link tree, storeOrder_challenges link' tree,
      without_challenges]
    constructor
    · rintro (⟨az, mem, lt, new⟩ | ⟨old, holders⟩)
      · refine ⟨.inl ⟨az, mem, lt, new⟩, fun az' holder => ?_⟩
        rcases (storeOrder_authzs link tree).mp holder with ⟨chs, mem', -⟩ | older
        · exact (tree.authz _ mem').2.1 ▸ kept
        · have out := (link.authz_id older).2
          have fresh := (tree.authz _ mem).1.1
          have holds := (tree.challenge _ mem _ lt).2
          omega
      · refine ⟨.inr old, fun az' holder => ?_⟩
        rcases (storeOrder_authzs link tree).mp holder with ⟨chs, mem', -⟩ | older
        · exact (tree.authz _ mem').2.1 ▸ kept
        · exact holders az' older
    · rintro ⟨new | old, holders⟩
      · exact .inl new
      · refine .inr ⟨old, fun az' holder => holders az' ?_⟩
        exact (storeOrder_authzs link tree).mpr (.inr holder)

/-- An order can be replaced before or after others are dropped. -/
theorem without_putOrder {id : Nat} (kept : drop id = false) (o : Order) :
    ({ v with orders := Function.update v.orders id (some o) } : View).without drop =
      { v.without drop with
        orders := Function.update (v.without drop).orders id (some o) } := by
  unfold without
  congr 1
  funext other
  dsimp only
  by_cases same : other = id
  · rw [same, Function.update_self, Function.update_self, kept]
    rfl
  · rw [Function.update_of_ne same, Function.update_of_ne same]

theorem allAuthzValid_without (link : v.Linked) {id : Nat} {o : Order}
    (hit : v.orders id = some o) (kept : drop id = false) :
    (v.without drop).allAuthzValid o = v.allAuthzValid o := by
  unfold allAuthzValid
  rw [Bool.eq_iff_iff, all_eq_true, all_eq_true]
  refine forall₂_congr fun a mem => ?_
  obtain ⟨az, here, back⟩ := link.authz_of_order hit mem
  rw [without_authzs.mpr ⟨here, back ▸ kept⟩, here]

variable {az : Authorization} {ch : Challenge}

/-- A validation can be stored before or after orders are dropped. -/
theorem without_markValid (authz : v.authzs az.id = some az) (holder : ch.authzId = az.id)
    (kept : drop az.orderId = false) :
    (v.without drop).markValid ch az = (v.markValid ch az).without drop := by
  -- a new status moves no authorization to another order
  have holders : ∀ a, (∀ az', (v.markValid ch az).authzs a = some az' →
      drop az'.orderId = false) ↔ ∀ az', v.authzs a = some az' → drop az'.orderId = false := by
    intro a
    dsimp only [markValid]
    by_cases same : a = az.id
    · rw [same, Function.update_self, authz]
      simp
    · rw [Function.update_of_ne same]
  refine tree_ext rfl (fun id o => .rfl) (fun a az' => ?_) (fun c ch' => ?_)
  · rw [without_authzs]
    dsimp only [markValid]
    by_cases same : a = az.id
    · rw [same, Function.update_self, Function.update_self]
      constructor
      · rintro ⟨⟩
        exact ⟨rfl, kept⟩
      · exact And.left
    · rw [Function.update_of_ne same, Function.update_of_ne same, without_authzs]
  · rw [without_challenges, holders]
    dsimp only [markValid]
    by_cases same : c = ch.id
    · rw [same, Function.update_self, Function.update_self]
      constructor
      · rintro ⟨⟩
        refine ⟨rfl, fun az' hit => ?_⟩
        rw [holder, authz] at hit
        cases hit
        exact kept
      · exact And.left
    · rw [Function.update_of_ne same, Function.update_of_ne same, without_challenges]

/-- A validation can be stored before or after orders are dropped. -/
theorem without_storeValidation (link : v.Linked)
    (challenge : v.challenges ch.id = some ch) (authz : v.authzs az.id = some az)
    (holder : ch.authzId = az.id) (kept : drop az.orderId = false) :
    (v.without drop).storeValidation ch az = (v.storeValidation ch az).without drop := by
  obtain ⟨o, here, -⟩ := link.order_of_authz authz
  have marked := link.markValid challenge authz
  have here' : ((v.markValid ch az).without drop).orders az.orderId = some o :=
    without_orders.mpr ⟨kept, here⟩
  rw [storeValidation_eq, storeValidation_eq, without_markValid authz holder kept,
    readyOrder_of_found here', readyOrder_of_found (v := v.markValid ch az) here,
    without_putOrder kept, allAuthzValid_without marked here kept]

/-- A certificate can be stored before or after orders are dropped. -/
theorem without_applyCertificateIssuedEvent {v' : View} {seq oid certId : Nat}
    {cert : Certificate} {issued : IssuedCert}
    (done : (v.without drop).applyCertificateIssuedEvent seq oid certId cert issued = .ok v') :
    ∃ full, v.applyCertificateIssuedEvent seq oid certId cert issued = .ok full ∧
      v' = full.without drop := by
  unfold applyCertificateIssuedEvent at done ⊢
  split at done
  case h_1 => contradiction
  case h_2 o found =>
    obtain ⟨kept, here⟩ := without_orders.mp found
    cases done
    rw [here]
    refine ⟨_, rfl, tree_ext rfl (fun id x => ?_) (fun _ _ => .rfl) (fun _ _ => .rfl)⟩
    have orders := congrArg (fun v => v.orders id)
      (without_putOrder (v := v) kept { o with certId := some certId, status := .valid })
    exact (congrArg (· = some x) orders.symm).to_iff

end Commutes

/-! ## Replay -/

theorem replay_append (log : List StateEvent) (e : StateEvent) (v : View) :
    replay (log ++ [e]) v = replay log v >>= fun full => full.applyStateEvent e := by
  induction log generalizing v with
  | nil =>
    change (v.applyStateEvent e >>= fun next => .ok next) = v.applyStateEvent e
    cases v.applyStateEvent e <;> rfl
  | cons first log ih =>
    rw [cons_append, replay, replay]
    cases v.applyStateEvent first with
    | error => rfl
    | ok next => exact ih next

end View

/-- The ids that an event hands out or names as handed out. -/
def StateEvent.ids : StateEvent → List Nat
  | .accountUpserted _ _ url _ _ => [url.id]
  | .orderCreated _ o azs => o.id :: azs.flatMap fun az => az.1.id :: az.2.map Challenge.id
  | .certificateIssued _ _ certId _ _ => [certId]
  | _ => []

/-- Replaying an event on the view without pruning gives what the handler made of the pruned
view, but for what was pruned and for ids that no event carries. -/
def Restores (full : View) (drop : Nat → Bool) (e : StateEvent) (v' : View) : Prop :=
  ∃ full', full.applyStateEvent e = .ok full' ∧ full'.Wf ∧
    (full.seq ≤ full'.seq ∧ full'.seq ≤ v'.seq) ∧
    v' = { full'.without drop with seq := v'.seq } ∧ (∀ id ∈ e.ids, id ≤ full'.seq) ∧
    ∀ {id o}, drop id → full.orders id = some o → full'.orders id = some o

section Restores

variable {full v' : View} {drop : Nat → Bool} {now seq : Nat} {change : Write}

theorem restores_low (wf : full.Wf) (low : full.seq ≤ now) (sound : change.Sound full full.seq)
    (marked : change ≠ .mark "") {full' : View} (live : change.live full = .ok full')
    (same : change.event { full.without drop with seq := now } = change.event full)
    (view : v' = { full'.without drop with seq := now })
    (ids : ∀ id ∈ (change.event full).ids, id ≤ full.seq)
    (rest : ∀ id, drop id → change.touches ≠ some id) :
    Restores full drop (change.event { full.without drop with seq := now }) v' := by
  have counter : full'.seq = full.seq := sound.counter live
  refine ⟨full', ?_, sound.wf wf live, ?_, ?_, ?_, fun cut hit => ?_⟩
  · rw [same]
    exact (sound.replayed wf marked).trans live
  · rw [view, counter]
    exact ⟨.refl, low⟩
  · rw [view]
  · rw [same, counter]
    exact ids
  · exact (sound.treeKept live wf (rest _ cut)).order hit

theorem restores_high (wf : full.Wf) (low : full.seq ≤ now)
    (sound : change.Sound { full with seq := now } seq) (marked : change ≠ .mark "")
    {full' : View} (live : change.live { full with seq := seq } = .ok full')
    (raised : full.applyStateEvent (change.event { full with seq := seq }) =
      View.applyStateEvent { full with seq := seq } (change.event { full with seq := seq }))
    (same : change.event { full.without drop with seq := seq } =
      change.event { full with seq := seq })
    (view : v' = full'.without drop)
    (ids : ∀ id ∈ (change.event { full with seq := seq }).ids, id ≤ seq)
    (rest : ∀ id, drop id → change.touches ≠ some id) :
    Restores full drop (change.event { full.without drop with seq := seq }) v' := by
  have counter : full'.seq = seq := sound.counter live
  have wf' : View.Wf { full with seq := now } := wf.setSeq low
  refine ⟨full', ?_, sound.wf wf' live, ?_, ?_, ?_, fun cut hit => ?_⟩
  · rw [same, raised]
    exact (sound.replayed wf' marked).trans live
  · have grows : now ≤ seq := sound.seq_le
    rw [view]
    dsimp only [View.without]
    omega
  · rw [view]
  · rw [same, counter]
    exact ids
  · exact (sound.treeKept live wf' (rest _ cut)).order hit

/-- The event of a validation does not depend on what else was dropped. -/
theorem event_validate_without {ch : Challenge} {az : Authorization} (link : full.Linked)
    (challenge : full.challenges ch.id = some ch) (authz : full.authzs az.id = some az)
    (holder : ch.authzId = az.id) (kept : drop az.orderId = false) :
    (Write.validate ch az).event { full.without drop with seq := now } =
      (Write.validate ch az).event full := by
  obtain ⟨o, here, -⟩ := link.order_of_authz authz
  have here' : (full.without drop).orders az.orderId = some o :=
    View.without_orders.mpr ⟨kept, here⟩
  have same : (full.without drop).statusAfter az o = full.statusAfter az o := by
    rw [View.statusAfter_eq _ ch, View.statusAfter_eq _ ch,
      View.without_markValid authz holder kept,
      View.allAuthzValid_without (link.markValid challenge authz) here kept]
  unfold Write.event
  dsimp only
  rw [here', here, Option.map_some, Option.map_some]
  exact congrArg
    (fun status => StateEvent.challengeValidated ch.id az.id az.orderId (some status)) same

/-- What a handler writes, the replay of its event restores. -/
theorem Write.Sound.restores (wf : full.Wf) (low : full.seq ≤ now) (out : ∀ id, drop id → id ≤ now)
    (sound : change.Sound { full.without drop with seq := now } seq) (marked : change ≠ .mark "")
    (live : change.live { full.without drop with seq := seq } = .ok v') :
    Restores full drop (change.event { full.without drop with seq := seq }) v' := by
  have same : ∀ {oid}, drop oid = false → ∀ id, drop id → some oid ≠ some id := by
    rintro oid kept id cut ⟨⟩
    exact Bool.false_ne_true (kept.symm.trans cut)
  cases sound with
  | @register acct id jwk url new =>
    cases live
    refine restores_high wf low (.register id jwk url new) marked rfl ?_ rfl rfl ?_ nofun
    · unfold Write.event View.applyStateEvent View.applyAccountEvent View.rememberSeq
      dsimp only
      rw [jwk]
      rw [Nat.max_self, Nat.max_eq_right (Nat.le_succ_of_le low)]
    · intro id mem
      rw [mem_singleton.mp mem]
      exact Nat.le_of_eq url
  | @amend old contact hit =>
    cases live
    refine restores_low wf low (.amend contact hit) marked rfl rfl rfl ?_ nofun
    intro id mem
    rw [mem_singleton.mp mem]
    exact (wf.indexed.account hit).2.2.2
  | @rekey old key hit free =>
    cases live
    refine restores_low wf low (.rekey hit free) marked rfl rfl rfl ?_ nofun
    intro id mem
    rw [mem_singleton.mp mem]
    exact (wf.indexed.account hit).2.2.2
  | @order _ o azs tree =>
    cases live
    have link : View.Linked { full with seq := now } := wf.linked.congr rfl rfl rfl low
    have kept : drop o.id = false := by
      by_contra cut
      have old := out o.id (Bool.not_eq_false _ ▸ cut)
      have fresh : now < o.id := tree.order_id.1
      omega
    have grows : full.seq ≤ seq := by
      have fresh : now < o.id ∧ o.id ≤ seq := tree.order_id
      omega
    have listed : ∀ az ∈ azs, az.1.challengeIds = az.2.map Challenge.id :=
      fun az mem => (tree.authz az mem).2.2
    refine restores_high wf low (.order tree) marked rfl ?_ rfl ?_ ?_ nofun
    · unfold Write.event View.applyStateEvent View.applyOrderCreatedEvent View.rememberSeq
      dsimp only
      rw [View.foldl_putAuthz listed, View.foldl_putAuthz listed, View.foldl_storeAuthz,
        View.foldl_storeAuthz, Nat.max_self, Nat.max_eq_right grows]
    · calc View.storeOrder o azs { full.without drop with seq := seq }
          = { View.storeOrder o azs (View.without drop { full with seq := now }) with
              seq := seq } :=
          View.storeOrder_setSeq (View.without drop { full with seq := now }) o azs seq
        _ = { (View.storeOrder o azs { full with seq := now }).without drop with seq := seq } := by
          rw [View.without_storeOrder link tree kept]
        _ = (View.storeOrder o azs { full with seq := seq }).without drop := by
          rw [View.storeOrder_setSeq full o azs now, View.storeOrder_setSeq full o azs seq]
          rfl
    · intro id mem
      rcases mem_cons.mp mem with rfl | mem
      · exact tree.order_id.2
      obtain ⟨az, lt, mem⟩ := mem_flatMap.mp mem
      rcases mem_cons.mp mem with rfl | mem
      · exact (tree.authz az lt).1.2
      obtain ⟨ch, held, rfl⟩ := mem_map.mp mem
      exact (tree.challenge az lt ch held).1.2
  | @validate ch az challenge authz holder =>
    cases live
    obtain ⟨challenge', -⟩ := View.without_challenges.mp challenge
    obtain ⟨authz', kept⟩ := View.without_authzs.mp authz
    refine restores_low wf low (.validate challenge' authz' holder) marked rfl
      (event_validate_without wf.linked challenge' authz' holder kept) ?_ ?_ (same kept)
    · rw [View.storeValidation_setSeq,
        View.without_storeValidation wf.linked challenge' authz' holder kept]
    · intro id mem
      cases mem
  | @issue oid cert record settled =>
    have grows : full.seq ≤ now + 1 := Nat.le_succ_of_le low
    obtain ⟨o, here, -⟩ := View.applyCertificateIssuedEvent_ok live
    obtain ⟨kept, hit⟩ := View.without_orders.mp here
    obtain ⟨full', done, view⟩ := View.without_applyCertificateIssuedEvent
      (v := { full with seq := now + 1 }) live
    refine restores_high wf low (.issue cert record fun o' hit' => ?_) marked done ?_ rfl view
      ?_ (same kept)
    · exact settled o' (View.without_orders.mpr ⟨kept, hit'⟩)
    · unfold Write.event View.applyStateEvent View.applyCertificateIssuedEvent View.rememberSeq
      dsimp only
      rw [hit]
      rw [Nat.max_self, Nat.max_eq_right grows]
    · intro id mem
      exact Nat.le_of_eq (mem_singleton.mp mem)
  | revoke rev known =>
    cases live
    exact restores_low wf low (.revoke rev known) marked rfl rfl rfl
      nofun nofun
  | mark certId =>
    cases live
    exact restores_low wf low (.mark certId) marked rfl rfl rfl
      nofun nofun

end Restores

/-! ## The live view and the log -/

/-- A certificate is stored only while its order is there, and early renewals are marked under
ids that are not empty. -/
def recoverable (w : World) (a : Action × Oracle) : Bool :=
  match a.1 with
  | .proceed i =>
    (w.inFlight[i]?).all fun task =>
      match task.stage with
      | .issued orderId _ => (w.view.orders orderId).isSome
      | _ => true
  | .markEarlyRenewal certId => certId ≠ ""
  | _ => true

variable {o : Oracle} {task : Task}

/-- The log replays to a view that differs from the live one only in orders that are due, and
in ids that no event carries. -/
structure Tracks (cfg : Config) (clock : Nat) (log : List StateEvent) (v full : View)
    (drop : Nat → Bool) : Prop where
  wf : full.Wf
  seq : full.seq ≤ v.seq
  view : v = { full.without drop with seq := v.seq }
  expired : ∀ id, drop id → full.due cfg.quota clock id
  replayed : View.replay log {} = .ok full
  handedOut : ∀ e ∈ log, ∀ id ∈ e.ids, id ≤ full.seq

namespace Tracks

variable {cfg : Config} {clock now : Nat} {log : List StateEvent} {v v' full : View}
  {drop : Nat → Bool}

protected theorem empty : Tracks cfg clock [] {} {} fun _ => false where
  wf := View.wf_empty
  seq := .refl
  view := (View.without_absent View.linked_empty fun _ _ _ => rfl).symm
  expired _ dropped := Bool.noConfusion dropped
  replayed := rfl
  handedOut := nofun

variable (tracks : Tracks cfg clock log v full drop)

include tracks

/-- What is due in the live view is due in the replayed one. -/
theorem due_iff (id : Nat) :
    v.due cfg.quota now id ↔ drop id = false ∧ full.due cfg.quota now id := by
  unfold View.due
  rw [Option.any_eq_true, Option.any_eq_true]
  constructor
  · rintro ⟨o, hit, old⟩
    obtain ⟨kept, hit⟩ := View.without_orders.mp (tracks.view ▸ hit)
    exact ⟨kept, o, hit, old⟩
  · rintro ⟨kept, o, hit, old⟩
    exact ⟨o, tracks.view ▸ View.without_orders.mpr ⟨kept, hit⟩, old⟩

/-- Time passes, orders that are due are dropped and ids are lost. -/
theorem quiet (passes : clock ≤ now) {more : Nat → Bool}
    (expired : ∀ id, more id → v.due cfg.quota now id) {seq : Nat}
    (grows : v.seq ≤ seq) :
    Tracks cfg now log { v.without more with seq := seq } full fun id => drop id || more id where
  wf := tracks.wf
  seq := Nat.le_trans tracks.seq grows
  view := by
    have dropped : v.without more = { (full.without drop).without more with seq := v.seq } := by
      conv_lhs => rw [tracks.view]
      rfl
    rw [dropped, View.without_without]
  expired id dropped := by
    rcases Bool.or_eq_true_iff.mp dropped with before | now_
    · exact View.due_mono passes (tracks.expired id before)
    · exact ((tracks.due_iff id).mp (expired id now_)).2
  replayed := tracks.replayed
  handedOut := tracks.handedOut

theorem write {seq : Nat} {change : Write} (sound : change.Sound v seq) (marked : change ≠ .mark "")
    (live : change.live { v with seq := seq } = .ok v') :
    ∃ full', Tracks cfg clock (log ++ [change.event { v with seq := seq }]) v' full' drop := by
  have view : { v with seq := seq } = { full.without drop with seq := seq } := by
    rw [tracks.view]
  rw [tracks.view] at sound
  rw [view] at live ⊢
  obtain ⟨full', done, wf, ⟨grows, low⟩, view', ids, kept⟩ :=
    sound.restores tracks.wf tracks.seq (fun id cut => by
      obtain ⟨o, hit, -⟩ := (Option.any_eq_true ..).mp (tracks.expired id cut)
      exact Nat.le_trans (tracks.wf.linked.order_id hit).2 tracks.seq) marked live
  refine ⟨full', wf, low, view', fun id cut => ?_, ?_, fun e mem => ?_⟩
  · obtain ⟨o, hit, old⟩ := (Option.any_eq_true ..).mp (tracks.expired id cut)
    exact (Option.any_eq_true ..).mpr ⟨o, kept cut hit, old⟩
  · rw [View.replay_append, tracks.replayed]
    exact done
  · rcases mem_snoc.mp mem with old | rfl
    · exact fun id lt => Nat.le_trans (tracks.handedOut e old id lt) grows
    · exact ids

theorem turn {log' : List StateEvent}
    (passes : clock ≤ o.now) (turn : ViewTurn cfg o task v log v' log') (wf : v.Wf)
    (good : task.Good v) (kept : ∀ {orderId cert}, task.stage = .issued orderId cert →
      ∃ ord, v.orders orderId = some ord) :
    ∃ full' drop', Tracks cfg o.now log' v' full' drop' := by
  cases turn with
  | quiet past grows => exact ⟨full, _, tracks.quiet passes past grows⟩
  | @orphaned more seq change detail past lets failed still =>
    -- only a certificate whose order is gone can fail
    cases lets with
    | issue stage acct =>
      obtain ⟨ord, hit⟩ := kept stage
      have late : task.stage ≠ .dispatched := by rw [stage]; exact Stage.noConfusion
      have gone := View.applyCertificateIssuedEvent_error failed
      rw [View.without_orders.mpr ⟨still late _, hit⟩] at gone
      contradiction
    | register | amend | rekey | order | validate | revoke => contradiction
  | @written more seq change v' past lets live still =>
    have sound := lets.sound (wf.without more) (good.mono (.without more))
    have marked : change ≠ .mark "" := by cases lets <;> exact Write.noConfusion
    have pruned := tracks.quiet passes past (Nat.le_refl v.seq)
    obtain ⟨full', after⟩ := pruned.write sound marked live
    exact ⟨full', _, after⟩

omit tracks

theorem step {w w' : World} {a : Action}
    (tracks : Tracks cfg clock w.log w.view full drop) (passes : clock ≤ o.now) (good : w.Good)
    (meets : recoverable w (a, o)) (moved : Step cfg o w a w') :
    ∃ full' drop', Tracks cfg o.now w'.log w'.view full' drop' := by
  cases moved.kind with
  | quiet quiet =>
    obtain ⟨more, past, view⟩ := good.wf.exists_without quiet.view
    rw [view, quiet.log]
    exact ⟨full, _, tracks.quiet passes past .refl⟩
  | @proceed i task w₂ next run turn =>
    have served := good.tasks task (mem_of_getElem? run)
    have here {orderId cert} (stage : task.stage = .issued orderId cert) :
        ∃ ord, w.view.orders orderId = some ord := by
      dsimp only [recoverable] at meets
      rw [run, Option.all_some, stage] at meets
      exact Option.isSome_iff_exists.mp meets
    obtain ⟨full', drop', after⟩ := tracks.turn passes (turn.view good.wf) good.wf served here
    refine ⟨full', drop', ?_⟩
    cases next <;> exact after
  | @mark certId =>
    have named : certId ≠ "" := of_decide_eq_true meets
    have sound : (Write.mark certId).Sound w.view w.view.seq := .mark certId
    have marked : Write.mark certId ≠ .mark "" := fun same => named (Write.mark.inj same)
    obtain ⟨full', after⟩ := tracks.write sound marked rfl
    exact ⟨full', drop, after.wf, after.seq, after.view,
      fun id cut => View.due_mono passes (after.expired id cut), after.replayed,
      after.handedOut⟩

/-- Once both are pruned, the replayed view is the live one. -/
theorem prune_eq (tracks : Tracks cfg clock log v full drop) (wf : v.Wf) (later : clock ≤ now) :
    full.prune cfg.quota now = { v.prune cfg.quota now with seq := full.seq } := by
  have same : full.due cfg.quota now = fun id => drop id || v.due cfg.quota now id := by
    funext id
    rw [Bool.eq_iff_iff, Bool.or_eq_true_iff, tracks.due_iff]
    constructor
    · intro old
      cases dropped : drop id with
      | true => exact .inl rfl
      | false => exact .inr ⟨rfl, old⟩
    · rintro (dropped | ⟨-, old⟩)
      · exact View.due_mono later (tracks.expired id dropped)
      · exact old
  have pruned := (tracks.quiet later (fun _ old => old) (Nat.le_refl v.seq)).view
  rw [View.prune_eq tracks.wf.linked, View.prune_eq wf.linked, same]
  exact (congrArg (fun u : View => { u with seq := full.seq }) pruned).symm

end Tracks

theorem Turn.clock {cfg : Config} {w w₁ : World} {next : Next}
    (turn : Turn cfg o task w w₁ next) : w₁.clock = w.clock := by
  cases turn with
  | done moves =>
    cases moves with
    | answer early calm sane => rw [calm.rest]
    | crash | wedge | dispatch | challenge | validated | finalize | reissue | sign | lose
        | revoke =>
      rfl
  | unlogged _ calm | orphaned calm | written _ calm => rw [calm.rest]; rfl

theorem Step.clock {cfg : Config} {w w' : World} {a : Action}
    (moved : Step cfg o w a w') : w'.clock = w.clock := by
  cases moved.kind with
  | quiet quiet => exact quiet.clock
  | @proceed i task w₂ next run turn => cases next <;> exact turn.clock
  | mark => rfl

/-- In every run in which certificates are stored only while their orders are there and early
renewals are marked under ids that are not empty, a restart from the log succeeds: pruned at the
same instant, its view is the live one, and every id in the log is below the ids it hands out. -/
theorem live_view_is_replayed {cfg : Config} {actions : List (Action × Oracle)} {w : World}
    (run : Run (step cfg) (fun w a => recoverable w a) {} actions w) {now : Nat}
    (later : w.clock ≤ now) :
    ∃ fresh, View.replay w.log {} = .ok fresh ∧
      fresh.prune cfg.quota now = { w.view.prune cfg.quota now with seq := fresh.seq } ∧
      ∀ e ∈ w.log, ∀ id ∈ e.ids, id ≤ fresh.seq := by
  have invariant : w.Good ∧ ∃ full drop, Tracks cfg w.clock w.log w.view full drop := by
    refine run.invariant
      (I := fun w => w.Good ∧ ∃ full drop, Tracks cfg w.clock w.log w.view full drop) ?_
      ⟨World.good_empty, _, _, .empty⟩
    rintro w ⟨a, o⟩ w' meets moved ⟨good, full, drop, tracks⟩
    obtain ⟨-, passes, -, was⟩ := step_cases moved
    have good' := good.setClock o.now
    refine ⟨(was.keeps good').1, ?_⟩
    rw [was.clock]
    exact Tracks.step (w := { w with clock := o.now }) tracks passes good' meets was
  obtain ⟨good, full, drop, tracks⟩ := invariant
  exact ⟨full, tracks.replayed, tracks.prune_eq good.wf later, tracks.handedOut⟩

/-- A server that issued a certificate restarts. -/
theorem finalized_view_is_replayed :
    ∃ w fresh, execute (step {}) {} (finalized ⟨"csr", ["a.example"]⟩) = some w ∧
      (w.view.certs 7).isSome ∧ View.replay w.log {} = .ok fresh ∧
      fresh.prune {} 1 = { w.view.prune {} 1 with seq := fresh.seq } ∧
      ∀ e ∈ w.log, ∀ id ∈ e.ids, id ≤ fresh.seq := by
  have run : ∃ w, executeIf (step {}) recoverable {} (finalized ⟨"csr", ["a.example"]⟩) = some w ∧
      execute (step {}) {} (finalized ⟨"csr", ["a.example"]⟩) = some w ∧
      (w.view.certs 7).isSome ∧ w.clock ≤ 1 := ⟨_, rfl, rfl, rfl, .refl⟩
  obtain ⟨w, cond, ran, kept, later⟩ := run
  obtain ⟨fresh, again, same, out⟩ :=
    live_view_is_replayed (run_of_executeIf cond) later
  exact ⟨w, fresh, ran, kept, again, same, out⟩

/-- An order of account 1 is pruned while the issuer signs for it. -/
def prunedMeanwhile : List (Action × Oracle) :=
  orderPlaced ++ accept 4 "n3" "n4" ++ finalizing ⟨"csr", ["a.example"]⟩ "n4" "n5" ++
    [sign "01", (.newNonce, { now := 86402, nonce := "n6" }), (.proceed 0, { now := 86402 })]

/-- After a restart the pruned order is back, valid and with its certificate; and a mark under
the empty id makes every restart fail. -/
theorem pruned_order_comes_back : ∃ w fresh marked, execute (step {}) {} prunedMeanwhile = some w ∧
      View.replay w.log {} = .ok fresh ∧
      (w.view.prune {} 86402).orders 2 = none ∧ (w.view.prune {} 86402).certs 7 = none ∧
      ((fresh.prune {} 86402).orders 2).map Order.status = some .valid ∧
      ((fresh.prune {} 86402).certs 7).isSome ∧
      execute (step {}) {} [(.markEarlyRenewal "", { now := 1 })] = some marked ∧
      View.replay marked.log {} = .error "acme: malformed early-renewal event" :=
  ⟨_, _, _, rfl, rfl, rfl, rfl, rfl, rfl, rfl, rfl⟩

end Trustctl.Acme
