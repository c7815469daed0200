import Trustctl.Store.Values
import Trustctl.Systems.Run

/-!
# Alert routing

The dispatcher routes an alert by the channel names of a policy, over the registered channels and
the tenant's own, and keeps a ledger of threshold alerts by normalised channel name.

* `routed_channels_notified_iff`: exactly the routed channels are notified, over any attempts, if
  and only if a registered channel has a routed name or none is registered, the routed channels of a
  threshold alert differ in their names, and a row that is the only one wanted has the wanted name
  as its id;
* `unmatched_names_fan_out`: no registered channel has the routed name, and all of them are
  notified.
-/

namespace Trustctl.Notify

open Store Systems List

def normalizeChannelName (name : String) : String :=
  let name := toLower (trimSpace name)
  let compact := String.ofList (name.toList.filter fun c => c ≠ ' ' && c ≠ '-' && c ≠ '_')
  if compact ∈ ["teams", "microsoftteams", "msftteams", "msteams"] then "msteams" else name

def cleanChannelNames (names : List String) : List String :=
  ((names.map normalizeChannelName).filter (· ≠ "")).eraseDups

inductive Severity
  | low | informational | warning | critical
  deriving DecidableEq

def normalizeSeverity (severity : String) : Severity :=
  match toLower (trimSpace severity) with
  | "critical" => .critical
  | "warning" => .warning
  | "informational" => .informational
  | _ => .low

structure RoutingPolicy where
  channelsBySeverity : List (String × List String) := []
  defaultChannels : List String := []

/-- A row of `normalizeChannelMatrix`, cleaned. -/
def RoutingPolicy.tier (p : RoutingPolicy) (severity : Severity) : List String :=
  cleanChannelNames
    ((p.channelsBySeverity.filter fun e => normalizeSeverity e.1 = severity).flatMap Prod.snd)

def RoutingPolicy.effectiveAlertChannels (p : RoutingPolicy) (severity : String) : List String :=
  ([p.tier (normalizeSeverity severity), p.tier .low, p.tier .informational,
    cleanChannelNames p.defaultChannels].find? (· ≠ [])).getD []

def RoutingPolicy.hasRoutes (p : RoutingPolicy) : Bool :=
  p.channelsBySeverity ≠ [] || p.defaultChannels ≠ []

structure Alert where
  kind : String
  tenantId : String
  certificateId : String := ""
  subject : String := ""
  severity : String := ""
  routingPolicyId : String := ""
  targetChannel : String := ""
  thresholdDays : Option Int := none

def Alert.thresholdDedupSubject (a : Alert) : Option String :=
  if a.kind ≠ "certificate.expiry" ∨ a.thresholdDays = none ∨ trimSpace a.tenantId = "" then none
  else [trimSpace a.certificateId, trimSpace a.subject].find? (· ≠ "")

/-- An operator's test of one channel, which no policy routes. -/
def Alert.tests (a : Alert) : Bool :=
  a.kind = "notification.channel_test" && trimSpace a.targetChannel ≠ ""

/-- A registered channel, or one that a row of the tenant stands for. -/
inductive Notifier
  | registered (n : Nat) (name : String)
  | tenant (id : String)
  deriving DecidableEq

def Notifier.name : Notifier → String
  | .registered _ name => name
  | .tenant id => normalizeChannelName id

def Notifier.channel (c : Notifier) : String := normalizeChannelName c.name

structure ChannelRow where
  id : String
  enabled : Bool
  endpointUrl : String

def ChannelRow.usable (r : ChannelRow) : Bool :=
  normalizeChannelName r.id ≠ "" && r.enabled && trimSpace r.endpointUrl ≠ ""

structure Dispatcher where
  /-- The names of the registered channels. -/
  registered : List String
  /-- The policy of a tenant under an id. -/
  resolver : Option (String → String → Option RoutingPolicy) := none
  /-- The rows of a tenant. -/
  channelSource : Option (String → List ChannelRow) := none
  defaultPolicy : RoutingPolicy := {}
  /-- A ledger is installed. -/
  dedup : Bool := false

def Dispatcher.channels (d : Dispatcher) : List Notifier :=
  d.registered.zipIdx.map fun (name, n) => .registered n name

/-- `ResolveNotificationChannels`; a single name is looked up by its id. -/
def resolveNotificationChannels (rows : String → List ChannelRow) (tenantId : String)
    (names : List String) : List Notifier :=
  if trimSpace tenantId = "" then []
  else
    let wanted := cleanChannelNames names
    let found : List ChannelRow := match wanted with
      | [id] => (rows tenantId).filter (·.id = id)
      | _ => rows tenantId
    (found.filter fun r => r.usable && (wanted = [] || normalizeChannelName r.id ∈ wanted)).map
      fun r => .tenant r.id

def Dispatcher.channelsByNameStrict (d : Dispatcher) (names : List String) : List Notifier :=
  d.channels.filter fun c => c.channel ∈ names.map normalizeChannelName

def Dispatcher.channelsByName (d : Dispatcher) (names : List String) : List Notifier :=
  if names = [] ∨ d.channelsByNameStrict names = [] then d.channels
  else d.channelsByNameStrict names

/-- The stored policy that the alert names. -/
def Dispatcher.policy? (d : Dispatcher) (a : Alert) : Option RoutingPolicy :=
  d.resolver.bind fun policy =>
    if a.routingPolicyId = "" then none else policy a.tenantId a.routingPolicyId

def Dispatcher.names (d : Dispatcher) (a : Alert) : List String :=
  let named := (d.policy? a).elim [] (·.effectiveAlertChannels a.severity)
  if a.tests then []
  else if named = [] ∧ d.defaultPolicy.hasRoutes then
    d.defaultPolicy.effectiveAlertChannels a.severity
  else named

/-- How the delivery to one channel goes. -/
inductive Answer
  | checkFails | notifyFails | recordFails | succeeds
  deriving DecidableEq

/-- What fails in an attempt; the answers are counted from the last channel. -/
structure Attempt where
  policyFails : Bool := false
  channelsFail : Bool := false
  answers : Nat → Answer := fun _ => .succeeds

def Dispatcher.effectiveChannels (d : Dispatcher) (a : Alert) (t : Attempt) :
    Option (List Notifier) :=
  if d.channels = [] ∧ d.channelSource.isNone then some []
  else if a.tests then
    let channels := d.channelsByNameStrict [a.targetChannel]
    if channels ≠ [] then some channels
    else match d.channelSource with
      | none => none
      | some rows =>
        let dynamic := resolveNotificationChannels rows a.tenantId [a.targetChannel]
        if t.channelsFail ∨ dynamic = [] then none else some dynamic
  else if a.routingPolicyId ≠ "" ∧ d.resolver.isSome ∧ t.policyFails then none
  else match d.channelSource with
    | none => some (d.channelsByName (d.names a))
    | some rows =>
      if t.channelsFail then none
      else some (d.channelsByName (d.names a) ++
        resolveNotificationChannels rows a.tenantId (d.names a))

structure World where
  ledger : List String := []
  called : List Notifier := []
  delivered : List Notifier := []
  recorded : List Notifier := []
  /-- A channel was called after its delivery was recorded. -/
  resent : Bool := false
  /-- An attempt returned nil. -/
  returned : Bool := false

/-- One round of the loop of `Dispatch`, and whether it fails. -/
def World.deliver (dedup : Bool) (w : World) (c : Notifier) (answer : Answer) : World × Bool :=
  if dedup ∧ answer = .checkFails then (w, false)
  else if dedup ∧ c.channel ∈ w.ledger then (w, true)
  else
    let w := { w with called := w.called ++ [c], resent := w.resent || w.recorded.contains c }
    if answer = .notifyFails then (w, false)
    else
      let w := { w with delivered := w.delivered ++ [c] }
      if !dedup then (w, true)
      else if answer = .recordFails then (w, false)
      else ({ w with ledger := w.ledger ++ [c.channel], recorded := w.recorded ++ [c] }, true)

def fanOut (dedup : Bool) (answers : Nat → Answer) : World → List Notifier → World × Bool
  | w, [] => (w, true)
  | w, c :: cs =>
    let first := w.deliver dedup c (answers cs.length)
    let rest := fanOut dedup answers first.1 cs
    (rest.1, first.2 && rest.2)

/-- The ledger is asked about the alert. -/
def Dispatcher.dedups (d : Dispatcher) (a : Alert) : Bool :=
  d.dedup && a.thresholdDedupSubject.isSome

def Dispatcher.dispatch (d : Dispatcher) (a : Alert) (w : World) (t : Attempt) : World :=
  match d.effectiveChannels a t with
  | none => w
  | some channels =>
    let out := fanOut (d.dedups a) t.answers w channels
    { out.1 with returned := out.1.returned || out.2 }

def Dispatcher.routes (d : Dispatcher) (a : Alert) (c : Notifier) : Prop :=
  c.channel ∈ d.names a ∧ (c ∈ d.channels ∨ trimSpace a.tenantId ≠ "" ∧
    ∃ rows ∈ d.channelSource, ∃ r ∈ rows a.tenantId, r.usable ∧ c = .tenant r.id)

structure Sound (d : Dispatcher) (a : Alert) (w : World) : Prop where
  only : ∀ c ∈ w.called, c.channel ∈ d.names a
  all : w.returned → ∀ c, d.routes a c → c ∈ w.delivered
  once : w.resent = false

/-- What the names have to be like. -/
structure Dispatcher.Fits (d : Dispatcher) (a : Alert) : Prop where
  matched : d.channels = [] ∨ ∃ c ∈ d.channels, c.channel ∈ d.names a
  distinct : d.dedups a → ∀ c c', d.routes a c → d.routes a c' → c'.channel = c.channel → c' = c
  /-- A single name is looked up as an id. -/
  normalized : ∀ rows ∈ d.channelSource, trimSpace a.tenantId ≠ "" →
    ∀ id, cleanChannelNames (d.names a) = [id] →
      ∀ r ∈ rows a.tenantId, r.usable → normalizeChannelName r.id = id → r.id = id

/-! ## The channels of an attempt -/

variable {d : Dispatcher} {a : Alert} {c : Notifier} {names : List String} {n : String}

theorem normalize_normalize (s : String) :
    normalizeChannelName (normalizeChannelName s) = normalizeChannelName s := by
  rw [normalizeChannelName.eq_def s]
  dsimp only
  split
  next => decide +kernel
  next other =>
    unfold normalizeChannelName
    simp only [toLower_trimSpace_idem]
    exact if_neg other

theorem mem_cleanChannelNames : n ∈ cleanChannelNames names ↔
    (∃ m ∈ names, normalizeChannelName m = n) ∧ n ≠ "" := by
  simp [cleanChannelNames]

theorem clean_names (mem : n ∈ d.names a) : normalizeChannelName n = n ∧ n ≠ "" := by
  have clean (names) (mem : n ∈ cleanChannelNames names) : normalizeChannelName n = n ∧ n ≠ "" := by
    obtain ⟨⟨m, -, rfl⟩, filled⟩ := mem_cleanChannelNames.mp mem
    exact ⟨normalize_normalize m, filled⟩
  have tiers (p : RoutingPolicy) (mem : n ∈ p.effectiveAlertChannels a.severity) :
      normalizeChannelName n = n ∧ n ≠ "" := by
    unfold RoutingPolicy.effectiveAlertChannels at mem
    cases found : find? (· ≠ []) [p.tier (normalizeSeverity a.severity), p.tier .low,
        p.tier .informational, cleanChannelNames p.defaultChannels] with
    | none =>
      rw [found] at mem
      cases mem
    | some names =>
      rw [found] at mem
      have listed := mem_of_find?_eq_some found
      simp only [mem_cons, not_mem_nil, or_false] at listed
      rcases listed with rfl | rfl | rfl | rfl
      all_goals exact clean _ mem
  unfold Dispatcher.names at mem
  cases policy : d.policy? a with
  | none => grind
  | some p => grind

theorem map_names : (d.names a).map normalizeChannelName = d.names a := by
  refine (map_congr_left fun n mem => ?_).trans (map_id _)
  exact (clean_names mem).1

theorem mem_clean_names : n ∈ cleanChannelNames (d.names a) ↔ n ∈ d.names a := by
  rw [mem_cleanChannelNames, ← mem_map, map_names]
  exact and_iff_left_of_imp fun mem => (clean_names mem).2

theorem mem_resolve {rows : String → List ChannelRow} (routed : d.names a ≠ [])
    (norm : trimSpace a.tenantId ≠ "" → ∀ id, cleanChannelNames (d.names a) = [id] →
      ∀ r ∈ rows a.tenantId, r.usable → normalizeChannelName r.id = id → r.id = id) :
    c ∈ resolveNotificationChannels rows a.tenantId (d.names a) ↔ c.channel ∈ d.names a ∧
      trimSpace a.tenantId ≠ "" ∧ ∃ r ∈ rows a.tenantId, r.usable ∧ c = .tenant r.id := by
  have wanted (n) : n ∈ cleanChannelNames (d.names a) ↔ n ∈ d.names a := mem_clean_names
  have channel (r : ChannelRow) : (Notifier.tenant r.id).channel = normalizeChannelName r.id :=
    normalize_normalize r.id
  have filled : cleanChannelNames (d.names a) ≠ [] := by
    obtain ⟨n, mem⟩ := exists_mem_of_ne_nil _ routed
    exact ne_nil_of_mem ((wanted n).mpr mem)
  unfold resolveNotificationChannels
  split
  next => simp [*]
  next =>
    simp only [mem_map, mem_filter]
    split
    next id one => grind
    next => grind

theorem mem_effectiveChannels {t : Attempt} {cs : List Notifier} (fits : d.Fits a)
    (routed : d.names a ≠ []) (hit : d.effectiveChannels a t = some cs) :
    c ∈ cs ↔ d.routes a c := by
  have routes (c) : c ∈ d.channelsByName (d.names a) ↔ c ∈ d.channels ∧ c.channel ∈ d.names a := by
    unfold Dispatcher.channelsByName Dispatcher.channelsByNameStrict
    rw [map_names]
    split
    next unmatched =>
      rcases fits.matched with empty | ⟨c', mem, named⟩
      · simp [empty]
      · have unnamed := filter_eq_nil_iff.mp (unmatched.resolve_left routed) c' mem
        exact absurd (decide_eq_true named) unnamed
    next => simp
  have untested : ¬ a.tests := fun tests => routed (if_pos tests)
  unfold Dispatcher.effectiveChannels at hit
  unfold Dispatcher.routes
  split at hit
  next empty =>
    cases hit
    simp [empty.1, Option.isNone_iff_eq_none.mp empty.2]
  obtain ⟨-, hit⟩ := Option.ite_none_left_eq_some.mp hit
  cases source : d.channelSource with
  | none =>
    rw [source] at hit
    cases hit
    simp [routes, and_comm]
  | some rows =>
    rw [source] at hit
    obtain ⟨-, hit⟩ := Option.ite_none_left_eq_some.mp hit
    cases hit
    rw [mem_append, routes, mem_resolve routed (fits.normalized rows source)]
    simp only [Option.mem_some_iff, exists_eq_left']
    grind

/-! ## Attempts -/

variable {w : World}

structure Good (d : Dispatcher) (a : Alert) (w : World) : Prop extends Sound d a w where
  recorded : ∀ c ∈ w.recorded, d.dedups a ∧ c.channel ∈ w.ledger
  ledger : ∀ channel ∈ w.ledger, ∃ c ∈ w.delivered, d.routes a c ∧ c.channel = channel

/-- Deliveries to channels: with no failure each of them has got the alert. -/
structure Goes (d : Dispatcher) (a : Alert) (w : World) (cs : List Notifier) (out : World × Bool) :
    Prop where
  good : Good d a out.1
  grown : w.delivered ⊆ out.1.delivered
  sent : out.2 → ∀ c ∈ cs, c ∈ out.1.delivered

theorem Good.deliver (fits : d.Fits a) (good : Good d a w) (routed : d.routes a c)
    (answer : Answer) :
    Goes d a w [c] (w.deliver (d.dedups a) c answer) := by
  have ne := fits.distinct
  have named := routed.1
  obtain ⟨⟨only, all, once⟩, noted, ledger⟩ := good
  unfold World.deliver
  split
  next => exact ⟨⟨⟨only, all, once⟩, noted, ledger⟩, Subset.refl _, nofun⟩
  split
  next skip =>
    -- The ledger has the name of a routed channel that got the alert, and that is this one.
    obtain ⟨c', mem, routed', same⟩ := ledger _ skip.2
    obtain rfl := ne skip.1 c c' routed routed' same
    exact ⟨⟨⟨only, all, once⟩, noted, ledger⟩, Subset.refl _, fun _ => forall_mem_singleton.mpr mem⟩
  next send =>
    have resent : (w.resent || w.recorded.contains c) = false := by
      rw [once, Bool.false_or, contains_eq_mem, decide_eq_false_iff_not]
      exact fun mem => send (noted c mem)
    have called : ∀ c' ∈ w.called ++ [c], c'.channel ∈ d.names a := forall_mem_snoc only named
    split
    next => exact ⟨⟨⟨called, all, resent⟩, noted, ledger⟩, Subset.refl _, nofun⟩
    have grown : w.delivered ⊆ w.delivered ++ [c] := subset_append_left ..
    have here : ∀ c' ∈ [c], c' ∈ w.delivered ++ [c] := subset_append_right ..
    have told : Sound d a { w with
        called := w.called ++ [c], delivered := w.delivered ++ [c],
        resent := w.resent || w.recorded.contains c } :=
      ⟨called, fun back c' routed => grown (all back c' routed), resent⟩
    have ledger' : ∀ channel ∈ w.ledger, ∃ c' ∈ w.delivered ++ [c], d.routes a c' ∧
      c'.channel = channel :=
      fun channel mem => (ledger channel mem).imp fun c' hit => ⟨grown hit.1, hit.2⟩
    split
    next => exact ⟨⟨told, noted, ledger'⟩, grown, fun _ => here⟩
    next dedups =>
      split
      next => exact ⟨⟨told, noted, ledger'⟩, grown, nofun⟩
      next =>
        refine ⟨⟨⟨told.only, told.all, told.once⟩, ?_, ?_⟩, grown, fun _ => here⟩
        · grind
        · exact forall_mem_snoc ledger' ⟨c, here c mem_cons_self, routed, rfl⟩

theorem Good.fanOut (fits : d.Fits a) (ans : Nat → Answer) {cs : List Notifier}
    (routed : ∀ c ∈ cs, d.routes a c) (good : Good d a w) :
    Goes d a w cs (fanOut (d.dedups a) ans w cs) := by
  induction cs generalizing w with
  | nil => exact ⟨good, Subset.refl _, fun _ _ => nofun⟩
  | cons c cs ih =>
    obtain ⟨here, there⟩ := forall_mem_cons.mp routed
    have first := good.deliver fits here (ans cs.length)
    have rest := ih there first.good
    refine ⟨rest.good, Subset.trans first.grown rest.grown, fun ok => ?_⟩
    obtain ⟨sent, sent'⟩ := Bool.and_eq_true_iff.mp ok
    exact forall_mem_cons.mpr ⟨rest.grown (first.sent sent c mem_cons_self), rest.sent sent'⟩

theorem Good.dispatch (fits : d.Fits a) (routed : d.names a ≠ []) (good : Good d a w)
    (t : Attempt) :
    Good d a (d.dispatch a w t) := by
  unfold Dispatcher.dispatch
  split
  next => exact good
  next cs hit =>
    have routes (c) : c ∈ cs ↔ d.routes a c := mem_effectiveChannels fits routed hit
    have out := good.fanOut fits t.answers fun c mem => (routes c).mp mem
    refine { out.good with all := fun back c routed => ?_ }
    rcases (Bool.or_eq_true ..).mp back with old | now
    · exact out.good.all old c routed
    · exact out.sent now c ((routes c).mpr routed)

/-! ## An attempt without failures -/

/-- The channels of an attempt in which nothing fails. -/
def Dispatcher.reached (d : Dispatcher) (a : Alert) : List Notifier :=
  d.channelsByName (d.names a) ++
    d.channelSource.elim [] fun rows => resolveNotificationChannels rows a.tenantId (d.names a)

theorem effectiveChannels_reached (routed : d.names a ≠ []) :
    d.effectiveChannels a {} = some (d.reached a) := by
  have untested : ¬ a.tests := fun tests => routed (if_pos tests)
  unfold Dispatcher.effectiveChannels Dispatcher.reached
  split
  next empty =>
    obtain ⟨none, source⟩ := empty
    simp [Dispatcher.channelsByName, Dispatcher.channelsByNameStrict, none,
      Option.isNone_iff_eq_none.mp source]
  next =>
    rw [if_neg (by simp)]
    cases d.channelSource <;> simp

/-- Only the channels are delivered to, and with a ledger only one of each name. -/
structure Told (dedup : Bool) (cs : List Notifier) (w : World) : Prop where
  listed : ∀ c ∈ w.delivered, c ∈ cs
  noted : dedup → ∀ c ∈ w.delivered, c.channel ∈ w.ledger
  apart : dedup → ∀ c ∈ w.delivered, ∀ c' ∈ w.delivered, c'.channel = c.channel → c' = c

theorem Told.deliver {dedup : Bool} {cs : List Notifier} (told : Told dedup cs w) (mem : c ∈ cs) :
    Told dedup cs (w.deliver dedup c .succeeds).1 := by
  unfold World.deliver
  rw [if_neg (by simp)]
  split
  next => exact told
  next send =>
    rw [if_neg (by simp)]
    have listed : ∀ c' ∈ w.delivered ++ [c], c' ∈ cs := forall_mem_snoc told.listed mem
    cases dedup with
    | false => exact ⟨listed, nofun, nofun⟩
    | true =>
      have fresh : c.channel ∉ w.ledger := fun sent => send ⟨rfl, sent⟩
      refine ⟨listed, fun _ => ?_, fun _ => ?_⟩
      · refine forall_mem_snoc (fun c' old => ?_) (mem_append_right _ mem_cons_self)
        exact mem_append_left _ (told.noted rfl c' old)
      · have other : ∀ c' ∈ w.delivered, c'.channel ≠ c.channel := by
          intro c' old same
          exact fresh (same ▸ told.noted rfl c' old)
        refine forall_mem_snoc (fun c₁ old => ?_) ?_
        · refine forall_mem_snoc (told.apart rfl c₁ old) fun same => ?_
          exact absurd same.symm (other c₁ old)
        · exact forall_mem_snoc (fun c' old same => absurd same (other c' old)) fun _ => rfl

theorem fanOut_succeeds {dedup : Bool} {cs : List Notifier} (told : Told dedup cs w)
    {rest : List Notifier} (within : rest ⊆ cs) :
    Told dedup cs (fanOut dedup (fun _ => .succeeds) w rest).1 ∧
      (fanOut dedup (fun _ => .succeeds) w rest).2 ∧
      w.called ⊆ (fanOut dedup (fun _ => .succeeds) w rest).1.called := by
  induction rest generalizing w with
  | nil => exact ⟨told, rfl, Subset.refl _⟩
  | cons c rest ih =>
    obtain ⟨mem, within⟩ := cons_subset.mp within
    obtain ⟨told, ok, grown⟩ := ih (told.deliver mem) within
    have first : (w.deliver dedup c .succeeds).2 ∧
        w.called ⊆ (w.deliver dedup c .succeeds).1.called := by
      unfold World.deliver
      cases dedup <;> grind
    exact ⟨told, Bool.and_eq_true_iff.mpr ⟨first.1, ok⟩, Subset.trans first.2 grown⟩

theorem mem_channels_of_byName (mem : c ∈ d.channelsByName names) : c ∈ d.channels := by
  unfold Dispatcher.channelsByName at mem
  split at mem
  · exact mem
  · exact mem_of_mem_filter mem

/-- One attempt without failures is enough to tell. -/
theorem fits_of_sound (routed : d.names a ≠ []) (sound : Sound d a (d.dispatch a {} {})) :
    d.Fits a := by
  have start : Told (d.dedups a) (d.reached a) {} := ⟨by simp, by simp, by simp⟩
  obtain ⟨told, ok, -⟩ := fanOut_succeeds start (Subset.refl _)
  unfold Dispatcher.dispatch at sound
  rw [effectiveChannels_reached routed] at sound
  have all := sound.all (by simp only [ok, Bool.or_true])
  constructor
  case matched =>
    by_contra unfit
    obtain ⟨filled, unnamed⟩ := not_or.mp unfit
    have strict : d.channelsByNameStrict (d.names a) = [] := by
      refine filter_eq_nil_iff.mpr fun c mem named => unnamed ⟨c, mem, ?_⟩
      rw [map_names] at named
      exact of_decide_eq_true named
    obtain ⟨c, rest, split⟩ := exists_cons_of_ne_nil filled
    have reached : ∃ more, d.reached a = c :: more := by
      rw [Dispatcher.reached, Dispatcher.channelsByName, if_pos (.inr strict), split]
      exact ⟨_, rfl⟩
    obtain ⟨more, reached⟩ := reached
    -- the first of the unrouted channels is called
    have called : c ∈ (fanOut (d.dedups a) (fun _ => .succeeds) {} (d.reached a)).1.called := by
      have here : c ∈ d.reached a := by simp [reached]
      rw [reached]
      refine (fanOut_succeeds (start.deliver here) (by simp [reached])).2.2 ?_
      simp [World.deliver]
      grind
    exact unnamed ⟨c, by simp [split], sound.only c called⟩
  case distinct =>
    exact fun dedups c c' here here' same =>
      told.apart dedups c (all c here) c' (all c' here') same
  case normalized =>
    intro rows source tenant id one r mem usable norm
    have channel : (Notifier.tenant r.id).channel = id := (normalize_normalize r.id).trans norm
    have named : id ∈ d.names a := mem_clean_names.mp (by simp [one])
    have routes : d.routes a (.tenant r.id) :=
      ⟨channel ▸ named, .inr ⟨tenant, rows, source, r, mem, usable, rfl⟩⟩
    rcases mem_append.mp (told.listed _ (all _ routes)) with byName | dynamic
    · obtain ⟨_, -, ⟨⟩⟩ := mem_map.mp (mem_channels_of_byName byName)
    · rw [Option.mem_def.mp source] at dynamic
      simp only [Option.elim_some, resolveNotificationChannels, if_neg tenant, one, mem_map,
        mem_filter, decide_eq_true_eq] at dynamic
      obtain ⟨r', ⟨⟨-, own⟩, -⟩, same⟩ := dynamic
      exact (Notifier.tenant.inj same).symm.trans own

/-- For every dispatcher and alert for which a policy yields names: over any attempts, with any
failures, exactly the routed channels are notified, if and only if the names fit. -/
theorem routed_channels_notified_iff (routed : d.names a ≠ []) :
    (∀ attempts : List Attempt, Sound d a (attempts.foldl (d.dispatch a) {})) ↔ d.Fits a := by
  refine ⟨fun sound => fits_of_sound routed (sound [{}]), fun fits attempts => ?_⟩
  have kept (w) (good : Good d a w) : Good d a (attempts.foldl (d.dispatch a) w) := by
    induction attempts generalizing w with
    | nil => exact good
    | cons t attempts ih => exact ih _ (good.dispatch fits routed t)
  exact (kept {} ⟨⟨by simp, by simp, rfl⟩, by simp, by simp⟩).toSound

/-- Two registered channels and one of the tenant, whose id is not in normal form. -/
def slackAndOps : Dispatcher where
  registered := ["Slack", "email"]
  channelSource := some fun _ => [⟨"Ops", true, "ops.example"⟩]
  defaultPolicy := { defaultChannels := ["slack", "ops"] }
  dedup := true

def expiring : Alert :=
  { kind := "certificate.expiry", tenantId := "t", certificateId := "c", thresholdDays := some 7 }

/-- A registered channel and one of the tenant are routed, a third one is not. -/
theorem slack_and_ops_notified : slackAndOps.dedups expiring ∧ ∀ attempts : List Attempt,
    Sound slackAndOps expiring (attempts.foldl (slackAndOps.dispatch expiring) {}) := by
  have names : slackAndOps.names expiring = ["slack", "ops"] := by decide +kernel
  have routed : ∀ c, slackAndOps.routes expiring c →
      c = .registered 0 "Slack" ∨ c = .tenant "Ops" := by
    rintro c ⟨named, here | ⟨-, rows, source, r, mem, -, rfl⟩⟩
    · have two : c = .registered 0 "Slack" ∨ c = .registered 1 "email" := by
        simpa [Dispatcher.channels, slackAndOps] using here
      rcases two with rfl | rfl
      · exact .inl rfl
      · exact absurd named (by decide +kernel)
    · cases Option.mem_def.mp source
      cases mem_singleton.mp mem
      exact .inr rfl
  refine ⟨by decide +kernel, (routed_channels_notified_iff (by simp [names])).mpr ⟨?_, ?_, ?_⟩⟩
  · exact .inr ⟨.registered 0 "Slack", by decide +kernel, by decide +kernel⟩
  · intro _ c c' here here' same
    rcases routed c here with rfl | rfl <;> rcases routed c' here' with rfl | rfl
    · rfl
    · exact absurd same (by decide +kernel)
    · exact absurd same (by decide +kernel)
    · rfl
  · intro rows source tenant id one
    have two : cleanChannelNames ["slack", "ops"] = ["slack", "ops"] := by decide +kernel
    rw [names, two] at one
    cases one

def issued : Alert := { kind := "certificate.unexpected_issuance", tenantId := "t" }

/-- No registered channel is called pagerduty, and all of them are notified. -/
theorem unmatched_names_fan_out : ∃ d : Dispatcher, d.names issued ≠ [] ∧
    ¬ Sound d issued ([{}].foldl (d.dispatch issued) {}) := by
  refine ⟨{ slackAndOps with defaultPolicy := { defaultChannels := ["pagerduty"] } },
    by decide +kernel, ?_⟩
  intro sound
  have called := sound.only (.registered 1 "email") (by decide +kernel)
  revert called
  decide +kernel

end Trustctl.Notify
