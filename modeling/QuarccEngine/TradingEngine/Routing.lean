import QuarccEngine.TradingEngine.Calls
import QuarccEngine.TradingEngine.Lifetimes
import QuarccEngine.TradingEngine.Registration

/-!
# Routing of market data

The tables of the feed registry hold pointers to order managers.  What they should hold is said by
the list of all subscriptions that were ever registered: a bar goes once to every order manager for
every subscription of it to the feed, the symbol and the period, as long as the order manager is in
`managers_`.

The list is kept beside the process and grows with every call of `register_subscription` that
returns, also by the calls of a registration that fails later on.
-/

namespace Quarcc

/-! ## Subscriptions -/

/-- A call of `register_subscription` that has returned. -/
structure Subscription where
  feed : FeedKey
  symbol : String
  period : Option String
  manager : ManagerId
  deriving DecidableEq

/-- Who has subscribed to the ticks or bars of a symbol, once for every subscription. -/
def receivers (subs : List Subscription) (feed : FeedKey) (symbol : String)
    (period : Option String) : List ManagerId :=
  (subs.filter fun sub => sub.feed = feed ∧ sub.symbol = symbol ∧ sub.period = period).map
    Subscription.manager

/-- How often an order manager has subscribed. -/
lemma count_receivers (subs : List Subscription) (feed : FeedKey) (symbol : String)
    (period : Option String) (m : ManagerId) :
    (receivers subs feed symbol period).count m = subs.count ⟨feed, symbol, period, m⟩ := by
  unfold receivers
  rw [List.count, List.countP_map, List.countP_filter, List.count]
  refine List.countP_congr fun sub _ => ?_
  obtain ⟨feed', symbol', period', m'⟩ := sub
  simp only [Function.comp_apply, Bool.and_eq_true, beq_iff_eq, decide_eq_true_eq,
    Subscription.mk.injEq]
  tauto

/-- A new subscription. -/
lemma receivers_concat (subs : List Subscription) (sub : Subscription) (feed : FeedKey)
    (symbol : String) (period : Option String) :
    receivers (subs ++ [sub]) feed symbol period =
      receivers subs feed symbol period ++
        if sub.feed = feed ∧ sub.symbol = symbol ∧ sub.period = period then [sub.manager]
        else [] := by
  unfold receivers
  rw [List.filter_append, List.map_append]
  congr 1
  by_cases hsub : sub.feed = feed ∧ sub.symbol = symbol ∧ sub.period = period <;>
    simp [hsub]

/-- The subscriptions of one order manager are taken away. -/
lemma receivers_filter (subs : List Subscription) (m : ManagerId) (feed : FeedKey)
    (symbol : String) (period : Option String) :
    receivers (subs.filter fun sub => sub.manager ≠ m) feed symbol period =
      (receivers subs feed symbol period).filter fun m' => m' ≠ m := by
  unfold receivers
  rw [List.filter_map, List.filter_comm]
  rfl

/-! ## The tables -/

namespace FeedRegistry

/-- The tables hold exactly the given subscriptions. -/
structure Routes (r : FeedRegistry) (subs : List Subscription) : Prop where
  bars : ∀ key, (r.barSubs.lookup key).getD [] =
    receivers subs key.feed key.symbol (some key.period)
  ticks : ∀ key, (r.tickSubs.lookup key).getD [] = receivers subs key.feed key.symbol none

variable {r : FeedRegistry} {subs : List Subscription}

/-- Empty tables. -/
lemma routes_start : Routes {} [] where
  bars := fun _ => rfl
  ticks := fun _ => rfl

/-- The feeds do not matter. -/
lemma Routes.of_eq (h : r.Routes subs) {r' : FeedRegistry} (hbars : r'.barSubs = r.barSubs)
    (hticks : r'.tickSubs = r.tickSubs) : r'.Routes subs where
  bars := by
    intro key
    rw [hbars]
    exact h.bars key
  ticks := by
    intro key
    rw [hticks]
    exact h.ticks key

/-- An order manager is put into its table. -/
lemma Routes.route (h : r.Routes subs) (feed : FeedKey) (symbol : String) (period : Option String)
    (m : ManagerId) :
    (r.route feed symbol period m).Routes (subs ++ [⟨feed, symbol, period, m⟩]) := by
  cases period with
  | some period =>
    refine ⟨fun key => ?_, fun key => ?_⟩
    · unfold FeedRegistry.route
      dsimp only
      rw [FiniteMap.lookup_insert_eq, receivers_concat, ← h.bars]
      by_cases hkey : key = ⟨feed, symbol, period⟩
      · subst hkey
        rw [if_pos rfl, if_pos ⟨rfl, rfl, rfl⟩, Option.getD_some]
      · rw [if_neg hkey, if_neg, List.append_nil]
        rintro ⟨hfeed, hsymbol, hperiod⟩
        dsimp only at hfeed hsymbol hperiod
        rw [hfeed, hsymbol, Option.some.inj hperiod] at hkey
        exact hkey rfl
    · rw [receivers_concat, ← h.ticks, if_neg (by simp), List.append_nil]
      rfl
  | none =>
    refine ⟨fun key => ?_, fun key => ?_⟩
    · rw [receivers_concat, ← h.bars, if_neg (by simp), List.append_nil]
      rfl
    · unfold FeedRegistry.route
      dsimp only
      rw [FiniteMap.lookup_insert_eq, receivers_concat, ← h.ticks]
      by_cases hkey : key = ⟨feed, symbol⟩
      · subst hkey
        rw [if_pos rfl, if_pos ⟨rfl, rfl, rfl⟩, Option.getD_some]
      · rw [if_neg hkey, if_neg, List.append_nil]
        rintro ⟨hfeed, hsymbol, -⟩
        dsimp only at hfeed hsymbol
        rw [hfeed, hsymbol] at hkey
        exact hkey rfl

/-- An order manager is taken out of the tables. -/
lemma Routes.unregisterManager (h : r.Routes subs) (m : ManagerId) :
    (r.unregisterManager m).Routes (subs.filter fun sub => sub.manager ≠ m) := by
  have hfilter : ∀ oms : Option (List ManagerId),
      (oms.map fun oms => oms.filter fun om => om ≠ m).getD [] =
        (oms.getD []).filter fun om => om ≠ m := by
    intro oms
    cases oms <;> rfl
  constructor
  · intro key
    rw [receivers_filter, ← h.bars, ← hfilter]
    unfold FeedRegistry.unregisterManager
    rw [FiniteMap.lookup_mapValues]
  · intro key
    rw [receivers_filter, ← h.ticks, ← hfilter]
    unfold FeedRegistry.unregisterManager
    rw [FiniteMap.lookup_mapValues]

end FeedRegistry

namespace Engine

/-- The calls of `register_subscription` that return when a strategy subscribes. -/
def subscribed (key : FeedKey) (m : ManagerId) :
    List V1.MarketDataSubscriptionMessage → FeedRegistry → List Subscription
  | [], _ => []
  | sub :: subs, r =>
    let registered := r.registerSubscription key sub.symbol sub.period m
    match registered.2 with
    | .error _ => []
    | .ok () => ⟨key, sub.symbol, sub.period, m⟩ :: subscribed key m subs registered.1

/-- A call of `register_subscription` that fails leaves the tables alone, and one that returns puts
the order manager into its table. -/
lemma registerSubscription_routes {r : FeedRegistry} {subs : List Subscription}
    (h : r.Routes subs) (key : FeedKey) (symbol : String) (period : Option String)
    (m : ManagerId) :
    (∃ what, (r.registerSubscription key symbol period m).2 = .error what ∧
        (r.registerSubscription key symbol period m).1.Routes subs) ∨
      (r.registerSubscription key symbol period m).2 = .ok () ∧
        (r.registerSubscription key symbol period m).1.Routes
          (subs ++ [⟨key, symbol, period, m⟩]) := by
  unfold FeedRegistry.registerSubscription
  cases (r.feeds.lookup key).elim (FeedRegistry.createFeed key) .ok with
  | error what => exact Or.inl ⟨what, rfl, h⟩
  | ok feed =>
    have hfeeds : ({ r with feeds := r.feeds.insert key (feed.subscribe symbol period).1 } :
        FeedRegistry).Routes subs := h.of_eq rfl rfl
    dsimp only
    cases (feed.subscribe symbol period).2 with
    | error what => exact Or.inl ⟨what, rfl, hfeeds⟩
    | ok u => exact Or.inr ⟨rfl, hfeeds.route key symbol period m⟩

/-- The loop over the subscriptions puts those into the tables whose call returns. -/
lemma registerSubscriptions_routes (key : FeedKey) (m : ManagerId)
    (messages : List V1.MarketDataSubscriptionMessage) {r : FeedRegistry}
    {subs : List Subscription} (h : r.Routes subs) :
    (registerSubscriptions key m messages r).1.Routes (subs ++ subscribed key m messages r) := by
  induction messages generalizing r subs with
  | nil =>
    rw [subscribed, List.append_nil]
    exact h
  | cons message messages ih =>
    unfold registerSubscriptions subscribed
    dsimp only
    obtain ⟨what, hresult, hroutes⟩ | ⟨hresult, hroutes⟩ :=
      registerSubscription_routes h key message.symbol message.period m
    · rw [hresult, List.append_nil]
      exact hroutes
    · have hrest := ih hroutes
      rw [List.append_assoc, List.singleton_append] at hrest
      rw [hresult]
      exact hrest

end Engine

/-! ## The process with its subscriptions -/

namespace Engine

/-- The subscriptions of the market data of a new strategy. -/
def setupSubscriptions (e : Engine) (req : V1.RegisterStrategyRequest) (env : RegistrationEnv)
    (m : ManagerId) : List Subscription :=
  match req.marketData with
  | none => []
  | some marketData =>
    let fed := e.setupFeed req env marketData.feed
    match fed.2 with
    | .returned (.ok ()) =>
      subscribed ⟨marketData.feed, req.accountId⟩ m marketData.subscriptions fed.1.feedRegistry
    | _ => []

/-- The subscriptions that a registration makes. -/
def newSubscriptions (e : Engine) (req : V1.RegisterStrategyRequest) (env : RegistrationEnv) :
    List Subscription :=
  if req.strategyId ∈ e.managers then []
  else
    let connected := e.setupGateway req env
    match connected.2 with
    | .error _ => []
    | .ok () =>
      match env.managerFault with
      | some _ => []
      | none =>
        (connected.1.emplaceManager req env).setupSubscriptions req env connected.1.objects.length

end Engine

/-- The subscriptions of the order managers in `managers_`. -/
def liveOf (managers : AList fun _ : StrategyId => ManagerId) (subs : List Subscription) :
    List Subscription :=
  subs.filter fun sub => sub.manager ∈ managers.entries.map Sigma.snd

/-- The process with all subscriptions that were ever made. -/
structure Routed where
  server : Server := {}
  subscriptions : List Subscription := []

namespace Routed

/-- The subscriptions that a step of the process makes. -/
def newSubscriptions (s : Routed) : ServerAction → List Subscription
  | .request (.registerStrategy req) env =>
    if s.server.fault.isSome || s.server.down || s.server.locked then []
    else s.server.engine.newSubscriptions req env.registration
  | _ => []

/-- A step of the process. -/
def step (s : Routed) (a : ServerAction) : Routed where
  server := s.server.step a
  subscriptions := s.subscriptions ++ s.newSubscriptions a

/-- The order managers in `managers_`. -/
def managers (s : Routed) : List ManagerId := s.server.engine.managers.entries.map Sigma.snd

/-- The subscriptions of the order managers in `managers_`. -/
def live (s : Routed) : List Subscription := liveOf s.server.engine.managers s.subscriptions

/-- The pointers in the tables are order managers in `managers_`, which run, and a bar or a tick is
enqueued once for every subscription of an order manager in `managers_` to it, and nowhere else. -/
structure RoutesExactly (s : Routed) : Prop where
  running : ∀ m ∈ s.managers, ∃ o, s.server.engine.objects[m]? = some o ∧ o.phase = .running
  barSubs : ∀ key oms, s.server.engine.feedRegistry.barSubs.lookup key = some oms →
    ∀ m ∈ oms, m ∈ s.managers
  tickSubs : ∀ key oms, s.server.engine.feedRegistry.tickSubs.lookup key = some oms →
    ∀ m ∈ oms, m ∈ s.managers
  onBar : ∀ (key : FeedKey) (bar : Bar) (m : ManagerId),
    (s.server.engine.onBar key bar).objects[m]? = s.server.engine.objects[m]?.map
      fun o => (Managed.enqueue · (.bar bar))^[
        s.live.count ⟨key, bar.symbol, some bar.period, m⟩] o
  onTick : ∀ (key : FeedKey) (tick : Tick) (m : ManagerId),
    (s.server.engine.onTick key tick).objects[m]? = s.server.engine.objects[m]?.map
      fun o => (Managed.enqueue · (.tick tick))^[s.live.count ⟨key, tick.symbol, none, m⟩] o

end Routed

/-! ## Calls that leave the subscriptions alone -/

namespace Engine

/-- `managers_` and the number of order managers are the given ones, the tables hold the given
subscriptions, and the order managers are in the state `I`. -/
structure Within (I : ManagerId → Managed → Prop) (managers : AList fun _ : StrategyId => ManagerId)
    (n : ℕ) (subs : List Subscription) (e : Engine) : Prop where
  managers_eq : e.managers = managers
  length_eq : e.objects.length = n
  routes : e.feedRegistry.Routes subs
  state : ∀ id m, managers.lookup id = some m → ∃ o, e.objects[m]? = some o ∧ I m o

variable {I J : ManagerId → Managed → Prop} {managers : AList fun _ : StrategyId => ManagerId}
  {n : ℕ} {subs : List Subscription} {e e' : Engine}

/-- A call of an order manager, or a step of a thread. -/
lemma Within.of_keeps (h : e.Within I managers n subs) (hkeeps : Keeps I J e e') :
    e'.Within J managers n subs where
  managers_eq := hkeeps.managers_eq.trans h.managers_eq
  length_eq := hkeeps.length_eq.trans h.length_eq
  routes := h.routes.of_eq hkeeps.barSubs_eq hkeeps.tickSubs_eq
  state := by
    intro id m hid
    obtain ⟨o, ho, hI⟩ := h.state id m hid
    exact hkeeps.state m o ho hI

/-- The kill switch takes an order manager out of the tables. -/
lemma Within.haltManager (h : e.Within (fun _ => Managed.Idle) managers n subs) {id : StrategyId}
    {m : ManagerId} (hid : managers.lookup id = some m) {reason initiatedBy : String}
    {env : RequestEnv} {state : Engine × Bool}
    (hok : Engine.haltManager reason initiatedBy env (e, true) m = .ok state) :
    state.2 = true ∧ state.1.Within (fun _ => Managed.Idle) managers n
      (subs.filter fun sub => sub.manager ≠ m) := by
  unfold Engine.haltManager at hok
  cases hcancel : Engine.cancelAll reason initiatedBy env (e, true) m with
  | error crash =>
    rw [hcancel] at hok
    cases hok
  | ok cancelled =>
    rw [hcancel] at hok
    obtain ⟨hreturned, hkeeps⟩ := cancelAll_spec (h.state id m hid) hcancel
    have hwithin := h.of_keeps hkeeps
    obtain rfl := Except.ok.inj hok
    dsimp only
    rw [if_pos hreturned]
    exact ⟨rfl, hwithin.managers_eq, hwithin.length_eq, hwithin.routes.unregisterManager m,
      hwithin.state⟩

end Engine

/-! ## Calls that change the subscriptions -/

namespace Engine

/-- The tables hold the subscriptions of the order managers in `managers_`, which are idle. -/
structure RoutesTo (subs : List Subscription) (e : Engine) : Prop where
  within : e.Within (fun _ => Managed.Idle) e.managers e.objects.length (liveOf e.managers subs)
  distinct : ∀ id id' m, e.managers.lookup id = some m → e.managers.lookup id' = some m → id = id'
  created : ∀ sub ∈ subs, sub.manager < e.objects.length

variable {subs : List Subscription} {e e' : Engine}

/-- An engine without strategies. -/
lemma routesTo_start : RoutesTo [] {} where
  within := ⟨rfl, rfl, FeedRegistry.routes_start, by simp⟩
  distinct := by simp
  created := by simp

/-- What is registered. -/
lemma RoutesTo.registered (h : e.RoutesTo subs) : e.Registered := ⟨h.within.state, h.distinct⟩

/-- A call that leaves the subscriptions alone. -/
lemma RoutesTo.of_within (h : e.RoutesTo subs)
    (hwithin : e'.Within (fun _ => Managed.Idle) e.managers e.objects.length
      (liveOf e.managers subs)) : e'.RoutesTo subs := by
  have hmanagers := hwithin.managers_eq
  have hlength := hwithin.length_eq
  refine ⟨?_, ?_, ?_⟩
  · rw [hmanagers, hlength]
    exact hwithin
  · rw [hmanagers]
    exact h.distinct
  · rw [hlength]
    exact h.created

/-- A call of an order manager, or a step of a thread. -/
lemma RoutesTo.of_keeps (h : e.RoutesTo subs)
    (hkeeps : Keeps (fun _ => Managed.Idle) (fun _ => Managed.Idle) e e') : e'.RoutesTo subs :=
  h.of_within (h.within.of_keeps hkeeps)

/-! ### The kill switch -/

/-- The kill switch takes several order managers out of the tables. -/
lemma Within.haltManagers {managers : AList fun _ : StrategyId => ManagerId} {n : ℕ}
    {reason initiatedBy : String} {env : RequestEnv} {ms : List ManagerId}
    (hms : ∀ m ∈ ms, ∃ id, managers.lookup id = some m)
    (h : e.Within (fun _ => Managed.Idle) managers n subs) {state : Engine × Bool}
    (hok : ms.foldlM (Engine.haltManager reason initiatedBy env) (e, true) = .ok state) :
    state.2 = true ∧ state.1.Within (fun _ => Managed.Idle) managers n
      (subs.filter fun sub => sub.manager ∉ ms) := by
  induction ms generalizing e subs with
  | nil =>
    obtain rfl := Except.ok.inj hok
    refine ⟨rfl, ?_⟩
    have hall : (subs.filter fun sub => sub.manager ∉ ([] : List ManagerId)) = subs := by simp
    rw [hall]
    exact h
  | cons m ms ih =>
    rw [List.foldlM_cons] at hok
    obtain ⟨id, hid⟩ := hms m List.mem_cons_self
    cases hfirst : Engine.haltManager reason initiatedBy env (e, true) m with
    | error crash =>
      rw [hfirst] at hok
      cases hok
    | ok first =>
      rw [hfirst] at hok
      obtain ⟨hreturned, hwithin⟩ := h.haltManager hid hfirst
      obtain ⟨e', ready⟩ := first
      dsimp only at hreturned hwithin
      subst hreturned
      obtain ⟨hdone, hrest⟩ :=
        ih (fun m' hm' => hms m' (List.mem_cons_of_mem m hm')) hwithin hok
      have hboth : (subs.filter fun sub => sub.manager ∉ m :: ms) =
          (subs.filter fun sub => sub.manager ≠ m).filter fun sub => sub.manager ∉ ms := by
        rw [List.filter_filter]
        refine List.filter_congr fun sub _ => ?_
        simp [Bool.and_comm]
      rw [hboth]
      exact ⟨hdone, hrest⟩

/-- Order managers that are out of the tables are destroyed and leave `managers_`. -/
lemma RoutesTo.close (h : e.RoutesTo subs) (env : RequestEnv) (ms : List ManagerId)
    (hwithin : e'.Within (fun _ => Managed.Idle) e.managers e.objects.length
      ((liveOf e.managers subs).filter fun sub => sub.manager ∉ ms))
    {managers : AList fun _ : StrategyId => ManagerId}
    (hmanagers : ∀ id m, managers.lookup id = some m ↔ e.managers.lookup id = some m ∧ m ∉ ms) :
    RoutesTo subs { (e'.closeManagers env ms).1 with managers := managers } := by
  obtain ⟨hspares, -⟩ := e'.closeManagers_spec env ms
  have hlive : liveOf managers subs =
      (liveOf e.managers subs).filter fun sub => sub.manager ∉ ms := by
    unfold liveOf
    rw [List.filter_filter]
    refine List.filter_congr fun sub _ => ?_
    rw [← Bool.decide_and, decide_eq_decide, FiniteMap.mem_values_iff, FiniteMap.mem_values_iff]
    simp only [hmanagers, exists_and_right]
    exact and_comm
  have hregistered : e'.Registered := by
    constructor
    · rw [hwithin.managers_eq]
      exact hwithin.state
    · rw [hwithin.managers_eq]
      exact h.distinct
  rw [← hwithin.managers_eq] at hmanagers
  have hclosed := hregistered.closeManagers env ms fun id m => (hmanagers id m).mp
  refine ⟨⟨rfl, rfl, ?_, hclosed.idle⟩, hclosed.distinct, fun sub hsub => ?_⟩
  · dsimp only
    rw [hlive, hspares.feedRegistry_eq]
    exact hwithin.routes
  · exact (h.created sub hsub).trans_eq (hspares.length_eq.trans hwithin.length_eq).symm

/-- `ActivateKillSwitch`, unless the process ends. -/
lemma RoutesTo.activateKillSwitch (h : e.RoutesTo subs) {req : V1.KillSwitchRequest}
    {env : RequestEnv} {served : Engine × Option (Result Unit)}
    (hok : e.activateKillSwitch req env = .ok served) : served.1.RoutesTo subs := by
  unfold Engine.activateKillSwitch at hok
  cases hmode : req.mode with
  | unrecognized n =>
    rw [hmode] at hok
    cases hok
  | stopStrategy =>
    rw [hmode] at hok
    dsimp only at hok
    unfold Engine.stopStrategy at hok
    cases hid : e.managers.lookup req.strategyId with
    | none =>
      rw [hid] at hok
      obtain rfl := Except.ok.inj hok
      exact h
    | some m =>
      rw [hid] at hok
      dsimp only at hok
      cases hhalt : Engine.haltManager req.reason req.initiatedBy env (e, true) m with
      | error crash =>
        rw [hhalt] at hok
        cases hok
      | ok halted =>
        rw [hhalt] at hok
        obtain ⟨hreturned, hwithin⟩ := h.within.haltManager hid hhalt
        obtain rfl := Except.ok.inj hok
        dsimp only
        rw [if_pos hreturned]
        dsimp only
        refine RoutesTo.close h env [m] ?_ fun id m' => ?_
        · convert hwithin using 2
          funext sub
          simp
        · rw [hwithin.managers_eq, FiniteMap.lookup_erase_eq, List.mem_singleton]
          split_ifs with hsame
          · subst hsame
            rw [hid]
            constructor
            · rintro ⟨⟩
            · rintro ⟨hm, hne⟩
              exact absurd (Option.some.inj hm).symm hne
          · refine ⟨fun hm' => ⟨hm', fun heq => hsame ?_⟩, And.left⟩
            subst heq
            exact h.distinct id req.strategyId m' hm' hid
  | haltAll =>
    rw [hmode] at hok
    dsimp only at hok
    unfold Engine.haltAll at hok
    cases hhalt : (e.managerIds env).foldlM
        (Engine.haltManager req.reason req.initiatedBy env) (e, true) with
    | error crash =>
      rw [hhalt] at hok
      cases hok
    | ok halted =>
      rw [hhalt] at hok
      obtain ⟨hreturned, hwithin⟩ :=
        h.within.haltManagers (fun m hm => exists_of_mem_managerIds hm) hhalt
      obtain rfl := Except.ok.inj hok
      dsimp only
      rw [if_pos hreturned]
      dsimp only
      refine h.close env _ hwithin fun id m => ?_
      rw [AList.lookup_empty]
      constructor
      · rintro ⟨⟩
      · rintro ⟨hid, hm⟩
        refine absurd ?_ hm
        exact (env.order_perm _).mem_iff.mpr (FiniteMap.mem_values_iff.mpr ⟨id, hid⟩)

end Engine

/-! ### Registrations -/

namespace Engine

variable {subs : List Subscription} {e : Engine}

/-- The feed is set up without the order managers and the tables. -/
lemma setupFeed_frame (e : Engine) (req : V1.RegisterStrategyRequest) (env : RegistrationEnv)
    (feed : V1.Feed) :
    (e.setupFeed req env feed).1.toTradingEngine = e.toTradingEngine ∧
      (e.setupFeed req env feed).1.feedRegistry.barSubs = e.feedRegistry.barSubs ∧
      (e.setupFeed req env feed).1.feedRegistry.tickSubs = e.feedRegistry.tickSubs := by
  have hregister : ∀ (r : FeedRegistry) (key : FeedKey) (feed : MarketDataFeed),
      (r.registerFeed key feed).barSubs = r.barSubs ∧
        (r.registerFeed key feed).tickSubs = r.tickSubs := by
    intro r key feed
    unfold FeedRegistry.registerFeed
    split_ifs <;> exact ⟨rfl, rfl⟩
  unfold Engine.setupFeed
  split_ifs
  · exact ⟨rfl, rfl, rfl⟩
  cases feed with
  | simulatedFeed => exact ⟨rfl, hregister _ _ _⟩
  | alpacaFeed => exact ⟨rfl, rfl, rfl⟩
  | unrecognized n => exact ⟨rfl, rfl, rfl⟩
  | adapterFeed =>
    cases req.adapter with
    | none => exact ⟨rfl, rfl, rfl⟩
    | some config =>
      dsimp only
      cases (e.adapterManager.getOrCreate req.accountId config env.adapterFault).2 with
      | error what => exact ⟨rfl, rfl, rfl⟩
      | ok conn => exact ⟨rfl, hregister _ _ _⟩

/-- The market data puts its subscriptions into the tables. -/
lemma Within.setupMarketData {I : ManagerId → Managed → Prop}
    {managers : AList fun _ : StrategyId => ManagerId} {n : ℕ}
    (h : e.Within I managers n subs) (req : V1.RegisterStrategyRequest) (env : RegistrationEnv)
    (m : ManagerId) :
    (e.setupMarketData req env m).1.Within I managers n
      (subs ++ e.setupSubscriptions req env m) := by
  unfold Engine.setupMarketData setupSubscriptions
  cases req.marketData with
  | none =>
    rw [List.append_nil]
    exact h
  | some marketData =>
    obtain ⟨hengine, hbars, hticks⟩ := e.setupFeed_frame req env marketData.feed
    have hfed : (e.setupFeed req env marketData.feed).1.Within I managers n subs := by
      refine ⟨?_, ?_, h.routes.of_eq hbars hticks, ?_⟩
      · rw [hengine]
        exact h.managers_eq
      · rw [hengine]
        exact h.length_eq
      · rw [hengine]
        exact h.state
    dsimp only
    cases (e.setupFeed req env marketData.feed).2 with
    | threw what =>
      rw [List.append_nil]
      exact hfed
    | returned result =>
      cases result with
      | error err =>
        rw [List.append_nil]
        exact hfed
      | ok u =>
        exact ⟨hfed.managers_eq, hfed.length_eq,
          registerSubscriptions_routes _ m marketData.subscriptions hfed.routes, hfed.state⟩

/-- The subscriptions of a new strategy are those of its order manager. -/
lemma manager_of_mem_setupSubscriptions {req : V1.RegisterStrategyRequest} {env : RegistrationEnv}
    {m : ManagerId} {sub : Subscription} (h : sub ∈ e.setupSubscriptions req env m) :
    sub.manager = m := by
  have hsubscribed : ∀ (key : FeedKey) (messages : List V1.MarketDataSubscriptionMessage)
      (r : FeedRegistry), ∀ sub ∈ subscribed key m messages r, sub.manager = m := by
    intro key messages
    induction messages with
    | nil =>
      intro r sub hsub
      exact absurd hsub List.not_mem_nil
    | cons message messages ih =>
      intro r sub hsub
      unfold subscribed at hsub
      dsimp only at hsub
      cases hresult : (r.registerSubscription key message.symbol message.period m).2 with
      | error what =>
        rw [hresult] at hsub
        exact absurd hsub List.not_mem_nil
      | ok u =>
        rw [hresult] at hsub
        rcases List.mem_cons.mp hsub with rfl | hrest
        · rfl
        · exact ih _ sub hrest
  unfold setupSubscriptions at h
  cases hmarketData : req.marketData with
  | none =>
    rw [hmarketData] at h
    exact absurd h List.not_mem_nil
  | some marketData =>
    rw [hmarketData] at h
    dsimp only at h
    split at h
    · exact hsubscribed _ _ _ sub h
    · exact absurd h List.not_mem_nil

/-- A new order manager, which no subscription has yet. -/
lemma RoutesTo.emplaceManager (h : e.RoutesTo subs) {req : V1.RegisterStrategyRequest}
    (hnew : e.managers.lookup req.strategyId = none) (env : RegistrationEnv) :
    (e.emplaceManager req env).RoutesTo subs := by
  have hemplaced := h.registered.emplaceManager req env
  have hlength : (e.emplaceManager req env).objects.length = e.objects.length + 1 :=
    List.length_append
  have hmem : ∀ m, m ≠ e.objects.length →
      (m ∈ (e.emplaceManager req env).managers.entries.map Sigma.snd ↔
        m ∈ e.managers.entries.map Sigma.snd) := by
    intro m hm
    rw [FiniteMap.mem_values_iff, FiniteMap.mem_values_iff]
    refine exists_congr fun id => ?_
    rw [lookup_emplaceManager]
    split_ifs with hsame
    · rw [hsame, hnew]
      exact iff_of_false (fun hlast => hm (Option.some.inj hlast).symm)
        (Option.some_ne_none m).symm
    · exact Iff.rfl
  have hlive : liveOf (e.emplaceManager req env).managers subs = liveOf e.managers subs := by
    refine List.filter_congr fun sub hsub => ?_
    rw [decide_eq_decide]
    exact hmem sub.manager (h.created sub hsub).ne
  refine ⟨⟨rfl, rfl, ?_, hemplaced.idle⟩, hemplaced.distinct, fun sub hsub => ?_⟩
  · rw [hlive]
    exact h.within.routes
  · rw [hlength]
    exact Nat.lt_succ_of_lt (h.created sub hsub)

/-- The market data of an order manager in `managers_`. -/
lemma RoutesTo.setupMarketData (h : e.RoutesTo subs) {id : StrategyId} {m : ManagerId}
    (hid : e.managers.lookup id = some m) (req : V1.RegisterStrategyRequest)
    (env : RegistrationEnv) :
    (e.setupMarketData req env m).1.RoutesTo (subs ++ e.setupSubscriptions req env m) := by
  have hset := h.within.setupMarketData req env m
  have hlive : liveOf e.managers (e.setupSubscriptions req env m) =
      e.setupSubscriptions req env m := by
    refine List.filter_eq_self.mpr fun sub hsub => ?_
    rw [decide_eq_true_iff, manager_of_mem_setupSubscriptions hsub]
    exact FiniteMap.mem_values_iff.mpr ⟨id, hid⟩
  refine ⟨?_, ?_, fun sub hsub => ?_⟩
  · rw [hset.managers_eq, hset.length_eq]
    unfold liveOf at hlive ⊢
    rw [List.filter_append, hlive]
    exact hset
  · rw [hset.managers_eq]
    exact h.distinct
  · rw [hset.length_eq]
    rcases List.mem_append.mp hsub with hbefore | hnow
    · exact h.created sub hbefore
    · rw [manager_of_mem_setupSubscriptions hnow]
      exact h.registered.lt_length hid

/-- **`RegisterStrategy`**, whether it succeeds or fails. -/
lemma RoutesTo.registerStrategy (h : e.RoutesTo subs) (req : V1.RegisterStrategyRequest)
    (env : RegistrationEnv) :
    (e.registerStrategy req env).1.RoutesTo (subs ++ e.newSubscriptions req env) := by
  unfold Engine.registerStrategy createStrategy newSubscriptions
  by_cases hid : req.strategyId ∈ e.managers
  · simp only [if_pos hid, List.append_nil]
    exact h
  simp only [if_neg hid]
  obtain ⟨⟨hengine, hregistry⟩, -⟩ := e.setupGateway_spec req env
  generalize e.setupGateway req env = connected at hengine hregistry ⊢
  obtain ⟨e₁, result⟩ := connected
  dsimp only at hengine hregistry ⊢
  have h₁ : e₁.RoutesTo subs := by
    refine h.of_within ⟨?_, ?_, ?_, ?_⟩
    · rw [hengine]
    · rw [hengine]
    · rw [hregistry]
      exact h.within.routes
    · rw [hengine]
      exact h.within.state
  cases result with
  | error err =>
    rw [List.append_nil]
    exact h₁
  | ok u =>
    cases env.managerFault with
    | some what =>
      rw [List.append_nil]
      exact h₁
    | none =>
      have hnew : e₁.managers.lookup req.strategyId = none := by
        rw [hengine]
        exact AList.lookup_eq_none.mpr hid
      have hlast : (e₁.emplaceManager req env).managers.lookup req.strategyId =
          some e₁.objects.length := by
        rw [lookup_emplaceManager, if_pos rfl]
      exact (h₁.emplaceManager hnew env).setupMarketData hlast req env

/-! ### Orders and the end of the process -/

/-- `SubmitSignal`, `CancelOrder` and `ReplaceOrder`, unless the process ends. -/
lemma RoutesTo.order (h : e.RoutesTo subs) {request : Request} {env : RequestEnv}
    {served : Engine × Option (Result request.Value)} (hok : e.order request env = .ok served) :
    served.1.RoutesTo subs := by
  unfold Engine.order at hok
  cases hid : e.managers.lookup request.strategyId with
  | none =>
    rw [hid] at hok
    obtain rfl := Except.ok.inj hok
    exact h
  | some m =>
    rw [hid] at hok
    have hcommand : request.command.hasPromise = true := by cases request <;> rfl
    dsimp only at hok
    cases hask : e.ask m request.command (env.waiting m) with
    | error crash =>
      rw [hask] at hok
      cases hok
    | ok asked =>
      rw [hask] at hok
      obtain rfl := Except.ok.inj hok
      exact h.of_keeps (ask_spec (h.within.state _ m hid) hcommand hask).2

/-- The `cancel_all` at the end of `Run`, unless the process ends before. -/
lemma RoutesTo.cancelAll (h : e.RoutesTo subs) {reason initiatedBy : String} {env : RequestEnv}
    {state : Engine × Bool}
    (hok : (e.managerIds env).foldlM (Engine.cancelAll reason initiatedBy env) (e, true) =
      .ok state) : state.1.RoutesTo subs := by
  have hcalls := Trajectory.invariant_of_foldlM_ok
    (I := fun state : Engine × Bool => state.2 = true ∧
      state.1.Within (fun _ => Managed.Idle) e.managers e.objects.length
        (liveOf e.managers subs)) ?_ ⟨rfl, h.within⟩ hok
  · exact h.of_within hcalls.2
  · rintro ⟨e', ready⟩ m state' ⟨hready, hwithin⟩ hm hstep
    obtain ⟨id, hid⟩ := exists_of_mem_managerIds hm
    dsimp only at hready hwithin
    subst hready
    obtain ⟨hreturned, hkeeps⟩ := cancelAll_spec (hwithin.state id m hid) hstep
    exact ⟨hreturned, hwithin.of_keeps hkeeps⟩

/-- An event goes to an order manager as often as it is among the receivers. -/
lemma objects_enqueueAll (e : Engine) (ms : List ManagerId) (event : OMEvent) (m : ManagerId) :
    (e.enqueueAll ms event).objects[m]? =
      e.objects[m]?.map fun o => (Managed.enqueue · event)^[ms.count m] o := by
  unfold enqueueAll
  induction ms generalizing e with
  | nil =>
    rw [List.foldl_nil, List.count_nil, Function.iterate_zero]
    exact (Option.map_id_apply).symm
  | cons m' ms ih =>
    have hobjects := TradingEngine.objects_modify e.toTradingEngine m' m (Managed.enqueue · event)
    rw [List.foldl_cons, ih]
    unfold modifyManager
    rw [hobjects, Option.map_map]
    congr 1
    funext o
    by_cases hm : m' = m
    · subst hm
      rw [List.count_cons_self, Function.iterate_succ_apply, Function.comp_apply, if_pos rfl]
    · rw [List.count_cons_of_ne hm, Function.comp_apply, if_neg hm]

end Engine

/-! ## Every state of every run -/

namespace Routed

variable {s : Routed}

/-- A process that has ended, or that answers no requests, makes no subscriptions. -/
lemma newSubscriptions_of_ended (h : s.server.fault.isSome || s.server.down || s.server.locked)
    (a : ServerAction) : s.newSubscriptions a = [] := by
  cases a with
  | request request env =>
    cases request with
    | registerStrategy req => exact if_pos h
    | order request => rfl
    | activateKillSwitch req => rfl
  | thread t => rfl
  | shutDown env => rfl

/-- **Step lemma.**  A step keeps the tables in agreement with the subscriptions. -/
theorem routesTo_step (h : s.server.engine.RoutesTo s.subscriptions) (a : ServerAction) :
    (s.step a).server.engine.RoutesTo (s.step a).subscriptions := by
  unfold Routed.step
  dsimp only
  unfold Server.step
  by_cases hended : s.server.fault.isSome || s.server.down
  · rw [if_pos hended, newSubscriptions_of_ended (by rw [hended]; rfl), List.append_nil]
    exact h
  rw [if_neg hended]
  cases a with
  | request request env =>
    dsimp only
    unfold Server.receive
    by_cases hlocked : s.server.locked = true
    · rw [if_pos hlocked, newSubscriptions_of_ended (by rw [hlocked, Bool.or_true]),
        List.append_nil]
      exact h
    rw [if_neg hlocked]
    unfold Engine.serve newSubscriptions
    cases request with
    | registerStrategy req =>
      dsimp only
      rw [if_neg (by simp_all)]
      exact h.registerStrategy req env.registration
    | order request =>
      dsimp only
      rw [List.append_nil]
      cases hserved : s.server.engine.order request env with
      | error crash => exact h
      | ok served => exact h.order hserved
    | activateKillSwitch req =>
      dsimp only
      rw [List.append_nil]
      cases hserved : s.server.engine.activateKillSwitch req env with
      | error crash => exact h
      | ok served => exact h.activateKillSwitch hserved
  | thread t =>
    dsimp only [newSubscriptions]
    rw [List.append_nil]
    unfold Server.runThread
    cases hstep : s.server.engine.threadStep t with
    | error crash => exact h
    | ok e' =>
      exact h.of_keeps (Engine.keeps_threadStep (fun _ => Managed.kept_idle) hstep)
  | shutDown env =>
    dsimp only [newSubscriptions]
    rw [List.append_nil]
    unfold Server.shutDown
    split_ifs
    · exact h
    · cases hloop : (s.server.engine.managerIds env).foldlM
          (Engine.cancelAll "Shutting down" "SIGINT/SIGTERM" env) (s.server.engine, true) with
      | error crash => exact h
      | ok state => exact h.cancelAll hloop

/-- Tables that agree with the subscriptions route exactly. -/
lemma routesExactly (h : s.server.engine.RoutesTo s.subscriptions) : s.RoutesExactly := by
  have hroutes : s.server.engine.feedRegistry.Routes s.live := h.within.routes
  have hlive : ∀ feed symbol period, ∀ m ∈ receivers s.live feed symbol period,
      m ∈ s.managers := by
    intro feed symbol period m hm
    obtain ⟨sub, hsub, rfl⟩ := List.mem_map.mp hm
    have hkept := (List.mem_filter.mp (List.mem_filter.mp hsub).1).2
    exact of_decide_eq_true hkept
  constructor
  · intro m hm
    obtain ⟨id, hid⟩ := FiniteMap.mem_values_iff.mp hm
    obtain ⟨o, ho, hidle⟩ := h.within.state id m hid
    exact ⟨o, ho, hidle.running⟩
  · intro key oms homs m hm
    have hbars := hroutes.bars key
    rw [homs, Option.getD_some] at hbars
    exact hlive _ _ _ m (hbars ▸ hm)
  · intro key oms homs m hm
    have hticks := hroutes.ticks key
    rw [homs, Option.getD_some] at hticks
    exact hlive _ _ _ m (hticks ▸ hm)
  · intro key bar m
    unfold Engine.onBar FeedRegistry.barSubscribers
    rw [Engine.objects_enqueueAll, hroutes.bars, count_receivers]
  · intro key tick m
    unfold Engine.onTick FeedRegistry.tickSubscribers
    rw [Engine.objects_enqueueAll, hroutes.ticks, count_receivers]

end Routed

/-- **Routing is exact and never dangling**, in every state of every run. -/
theorem routing_exact (actions : List ServerAction) :
    Trajectory.EveryState Routed.step Routed.RoutesExactly {} actions := by
  have hinv : Trajectory.EveryState Routed.step
      (fun s => s.server.engine.RoutesTo s.subscriptions) {} actions :=
    Trajectory.everyState_of_step (fun s a h => Routed.routesTo_step h a) Engine.routesTo_start
  exact hinv.mono fun s h => Routed.routesExactly h

end Quarcc
