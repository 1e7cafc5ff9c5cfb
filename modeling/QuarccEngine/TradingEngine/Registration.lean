import QuarccEngine.Core.Engine

/-!
# Registration is atomic, or not

`create_strategy` puts the new order manager into `managers_` before it sets up the market data, and
no error of the market data takes it out again.  The main result says when a registration is atomic:
unless the order manager is created and the market data fails after that.
-/

namespace Quarcc

namespace Engine

variable (e : Engine) (req : V1.RegisterStrategyRequest) (env : RegistrationEnv)

/-- The request succeeds, or the order managers, the routing tables and the subscriptions of all
feeds are as before. -/
def RegistersAtomically : Prop :=
  (e.registerStrategy req env).2.Succeeds ∨
    (e.registerStrategy req env).1.managers = e.managers ∧
      (e.registerStrategy req env).1.feedRegistry = e.feedRegistry

/-! ## The conditions -/

/-- The adapter of the request is up, or comes up. -/
def AdapterComesUp : Prop :=
  ∃ config, req.adapter = some config ∧
    ((config.venue, req.accountId) ∈ e.adapterManager.processes ∨ env.adapterFault = none)

/-- The gateway of the request can be had. -/
def HasGateway : Prop :=
  req.gateway = .paperTradingGW ∨ req.gateway = .grpcAdapterGW ∧ e.AdapterComesUp req env

/-- The request gets as far as creating its order manager. -/
def CreatesManager : Prop :=
  req.strategyId ∉ e.managers ∧ e.HasGateway req env ∧ env.managerFault = none

/-- The feed of the request is there or can be had. -/
def HasFeed (feed : V1.Feed) : Prop :=
  e.feedRegistry.hasFeed ⟨feed, req.accountId⟩ ∨ feed = .simulatedFeed ∨
    feed = .adapterFeed ∧ e.AdapterComesUp req env

/-- The feed that gets the subscriptions, unless a new one of an adapter does: it is there, or a new
simulated feed. -/
def feedFor (feed : V1.Feed) : Option MarketDataFeed :=
  (e.feedRegistry.feeds.lookup ⟨feed, req.accountId⟩).or
    (if feed = .simulatedFeed then some (.simulated {}) else none)

/-- The feed takes all subscriptions of the request. -/
def TakesSubscriptions (marketData : V1.MarketDataConfigMessage) : Prop :=
  ∀ feed, e.feedFor req marketData.feed = some feed →
    ∀ sub ∈ marketData.subscriptions, feed.Takes sub.symbol sub.period

/-- The market data of the request can be had. -/
def HasMarketData : Prop :=
  ∀ marketData, req.marketData = some marketData →
    e.HasFeed req env marketData.feed ∧ e.TakesSubscriptions req marketData

end Engine

/-! ## Adapters -/

/-- An adapter that is asked for is up, or comes up. -/
lemma AdapterManager.getOrCreate_ok_iff (a : AdapterManager) (accountId : String)
    (config : V1.AdapterConfigMessage) (fault : Option String) :
    (∃ conn, (a.getOrCreate accountId config fault).2 = .ok conn) ↔
      (config.venue, accountId) ∈ a.processes ∨ fault = none := by
  unfold getOrCreate
  cases hlookup : a.processes.lookup (config.venue, accountId) with
  | some conn => simp [FiniteMap.mem_of_lookup hlookup]
  | none =>
    have hnotMem : (config.venue, accountId) ∉ a.processes := AList.lookup_eq_none.mp hlookup
    cases fault with
    | some what => simp [hnotMem]
    | none => simp

/-- After an adapter has come up it is up. -/
lemma AdapterManager.mem_getOrCreate (a : AdapterManager) (accountId : String)
    (config : V1.AdapterConfigMessage) (fault : Option String) {conn : ConnectionId}
    (h : (a.getOrCreate accountId config fault).2 = .ok conn) :
    (config.venue, accountId) ∈ (a.getOrCreate accountId config fault).1.processes := by
  unfold getOrCreate at h ⊢
  cases hlookup : a.processes.lookup (config.venue, accountId) with
  | some conn' => exact FiniteMap.mem_of_lookup hlookup
  | none =>
    rw [hlookup] at h
    cases fault with
    | some what => cases h
    | none => simp

namespace Engine

variable {e : Engine} {req : V1.RegisterStrategyRequest} {env : RegistrationEnv}

/-- A new gateway leaves the others alone. -/
lemma dispatchers_setupGateway (e : Engine) (req : V1.RegisterStrategyRequest)
    (env : RegistrationEnv) : (e.setupGateway req env).1.dispatchers = e.dispatchers := by
  unfold setupGateway
  cases req.gateway with
  | grpcAdapterGW =>
    cases req.adapter with
    | none => rfl
    | some config =>
      dsimp only
      cases (e.adapterManager.getOrCreate req.accountId config env.adapterFault).2 <;> rfl
  | _ => rfl

/-- `setup_gateway` succeeds exactly when the gateway can be had.  It changes adapters only, and
when it succeeds these come up later as they did before. -/
lemma setupGateway_spec (e : Engine) (req : V1.RegisterStrategyRequest) (env : RegistrationEnv) :
    ((e.setupGateway req env).1.toTradingEngine = e.toTradingEngine ∧
        (e.setupGateway req env).1.feedRegistry = e.feedRegistry) ∧
      ((e.setupGateway req env).2 = .ok () ↔ e.HasGateway req env) ∧
      ((e.setupGateway req env).2 = .ok () →
        ((e.setupGateway req env).1.AdapterComesUp req env ↔ e.AdapterComesUp req env)) := by
  unfold setupGateway HasGateway
  cases hgateway : req.gateway with
  | paperTradingGW => simp
  | alpacaGW => simp
  | unrecognized n => simp
  | grpcAdapterGW =>
    cases hadapter : req.adapter with
    | none => simp [AdapterComesUp, hadapter]
    | some config =>
      dsimp only
      have hok := e.adapterManager.getOrCreate_ok_iff req.accountId config env.adapterFault
      have hmem : ∀ conn, (e.adapterManager.getOrCreate req.accountId config env.adapterFault).2 =
          .ok conn → _ :=
        fun conn => e.adapterManager.mem_getOrCreate req.accountId config env.adapterFault
      cases hcreated : (e.adapterManager.getOrCreate req.accountId config env.adapterFault).2 with
      | error what =>
        rw [hcreated] at hok
        simp [AdapterComesUp, hadapter, ← hok]
      | ok conn =>
        rw [hcreated] at hok
        have hup : e.AdapterComesUp req env := ⟨config, hadapter, hok.mp ⟨conn, rfl⟩⟩
        refine ⟨⟨rfl, rfl⟩, by simp [hup], fun _ => ?_⟩
        simp only [hup, iff_true]
        exact ⟨config, hadapter, Or.inl (hmem conn hcreated)⟩

/-! ## Market data -/

/-- The feed of the request is set up exactly when it can be had.  This changes no order manager,
and the feed that is there afterwards takes what `feedFor` takes. -/
lemma setupFeed_spec (e : Engine) (req : V1.RegisterStrategyRequest) (env : RegistrationEnv)
    (feed : V1.Feed) :
    (e.setupFeed req env feed).1.managers = e.managers ∧
      ((e.setupFeed req env feed).2 = .returned (.ok ()) ↔ e.HasFeed req env feed) ∧
      ((e.setupFeed req env feed).2 = .returned (.ok ()) →
        ∃ f, (e.setupFeed req env feed).1.feedRegistry.feeds.lookup ⟨feed, req.accountId⟩ = some f ∧
          ∀ symbol period, f.Takes symbol period ↔
            ∀ f', e.feedFor req feed = some f' → f'.Takes symbol period) := by
  unfold setupFeed HasFeed feedFor
  by_cases hfeed : e.feedRegistry.hasFeed ⟨feed, req.accountId⟩
  · obtain ⟨f, hf⟩ := Option.isSome_iff_exists.mp (AList.lookup_isSome.mpr hfeed)
    rw [if_pos hfeed]
    simp [hfeed, hf]
  have hnone : e.feedRegistry.feeds.lookup ⟨feed, req.accountId⟩ = none :=
    AList.lookup_eq_none.mpr hfeed
  rw [if_neg hfeed, hnone]
  unfold FeedRegistry.registerFeed
  cases feed with
  | simulatedFeed => simp [hfeed]
  | alpacaFeed => simp [hfeed]
  | unrecognized n => simp [hfeed]
  | adapterFeed =>
    cases hadapter : req.adapter with
    | none => simp [hfeed, AdapterComesUp, hadapter]
    | some config =>
      dsimp only
      have hok := e.adapterManager.getOrCreate_ok_iff req.accountId config env.adapterFault
      cases hcreated : (e.adapterManager.getOrCreate req.accountId config env.adapterFault).2 with
      | error what =>
        rw [hcreated] at hok
        simp [hfeed, AdapterComesUp, hadapter, ← hok]
      | ok conn =>
        rw [hcreated] at hok
        have hup : e.AdapterComesUp req env := ⟨config, hadapter, hok.mp ⟨conn, rfl⟩⟩
        simp [hfeed, hup, MarketDataFeed.Takes]

/-- The subscriptions are registered exactly when the feed takes them. -/
lemma registerSubscriptions_ok_iff (key : FeedKey) (m : ManagerId)
    (subs : List V1.MarketDataSubscriptionMessage) (r : FeedRegistry) {feed : MarketDataFeed}
    (h : r.feeds.lookup key = some feed) :
    (registerSubscriptions key m subs r).2 = .ok () ↔
      ∀ sub ∈ subs, feed.Takes sub.symbol sub.period := by
  induction subs generalizing r feed with
  | nil => simp [registerSubscriptions]
  | cons sub subs ih =>
    obtain ⟨hresult, hfeeds⟩ := r.registerSubscription_of_lookup key sub.symbol sub.period m h
    have htakes := feed.subscribe_ok_iff sub.symbol sub.period
    unfold registerSubscriptions
    dsimp only
    rw [hresult]
    cases hsub : (feed.subscribe sub.symbol sub.period).2 with
    | error what =>
      rw [hsub] at htakes
      simp [← htakes]
    | ok u =>
      rw [hsub] at htakes
      have htaken : feed.Takes sub.symbol sub.period := htakes.mp rfl
      have hlookup : (r.registerSubscription key sub.symbol sub.period m).1.feeds.lookup key =
          some (feed.subscribe sub.symbol sub.period).1 := by
        rw [hfeeds]
        exact AList.lookup_insert _
      simp only [ih _ hlookup, feed.takes_subscribe htaken, List.forall_mem_cons, htaken, true_and]

/-- The market data is set up exactly when it can be had, and changes no order manager. -/
lemma setupMarketData_spec (e : Engine) (req : V1.RegisterStrategyRequest) (env : RegistrationEnv)
    (m : ManagerId) :
    (e.setupMarketData req env m).1.managers = e.managers ∧
      ((e.setupMarketData req env m).2.Succeeds ↔ e.HasMarketData req env) := by
  unfold setupMarketData HasMarketData
  cases hmarketData : req.marketData with
  | none => simp [Outcome.Succeeds]
  | some marketData =>
    obtain ⟨hmanagers, hok, htakes⟩ := e.setupFeed_spec req env marketData.feed
    dsimp only
    cases hfed : (e.setupFeed req env marketData.feed).2 with
    | threw what =>
      have hfails : ¬ e.HasFeed req env marketData.feed := fun h => by
        rw [hfed] at hok
        cases hok.mpr h
      exact ⟨hmanagers, by simp [Outcome.Succeeds, hfails]⟩
    | returned result =>
      cases result with
      | error err =>
        have hfails : ¬ e.HasFeed req env marketData.feed := fun h => by
          rw [hfed] at hok
          cases hok.mpr h
        exact ⟨hmanagers, by simp [Outcome.Succeeds, hfails]⟩
      | ok u =>
        obtain ⟨feed, hlookup, hfeed⟩ := htakes hfed
        have hsubs := registerSubscriptions_ok_iff _ m marketData.subscriptions _ hlookup
        refine ⟨hmanagers, ?_⟩
        rw [Outcome.succeeds_returned, hsubs]
        constructor
        · rintro htaken _ ⟨⟩
          exact ⟨hok.mp hfed, fun f hf sub hsub => (hfeed _ _).mp (htaken sub hsub) f hf⟩
        · intro h sub hsub
          exact (hfeed _ _).mpr fun f hf => (h marketData rfl).2 f hf sub hsub

/-! ## Registrations -/

/-- What `RegisterStrategy` does, by whether its order manager is created.  Without it the request
fails and leaves the order managers and the feeds alone; with it the request succeeds exactly when
the market data can be had, and the order manager is registered in any case. -/
lemma registerStrategy_spec (e : Engine) (req : V1.RegisterStrategyRequest)
    (env : RegistrationEnv) :
    (¬ e.CreatesManager req env → ¬ (e.registerStrategy req env).2.Succeeds ∧
        (e.registerStrategy req env).1.managers = e.managers ∧
        (e.registerStrategy req env).1.feedRegistry = e.feedRegistry) ∧
      (e.CreatesManager req env → req.strategyId ∈ (e.registerStrategy req env).1.managers ∧
        ((e.registerStrategy req env).2.Succeeds ↔ e.HasMarketData req env)) := by
  unfold registerStrategy createStrategy CreatesManager
  by_cases hid : req.strategyId ∈ e.managers
  · simp [hid, Outcome.Succeeds]
  obtain ⟨⟨hengine, hregistry⟩, hgateway, hadapter⟩ := e.setupGateway_spec req env
  rw [if_neg hid, if_neg hid]
  dsimp only
  cases hsetup : (e.setupGateway req env).2 with
  | error err =>
    have hfails : ¬ e.HasGateway req env := fun h => by
      rw [hsetup] at hgateway
      cases hgateway.mpr h
    simp [hfails, hengine, hregistry, Outcome.Succeeds]
  | ok u =>
    have hhas : e.HasGateway req env := hgateway.mp hsetup
    cases hfault : env.managerFault with
    | some what => simp [hengine, hregistry, Outcome.Succeeds]
    | none =>
      refine ⟨fun h => absurd ⟨hid, hhas, rfl⟩ h, fun _ => ?_⟩
      obtain ⟨hmanagers, hok⟩ :=
        ((e.setupGateway req env).1.emplaceManager req env).setupMarketData_spec req env
          (e.setupGateway req env).1.objects.length
      have hregistered : req.strategyId ∈
          ((e.setupGateway req env).1.emplaceManager req env).managers :=
        (AList.mem_insert _).mpr (Or.inl rfl)
      refine ⟨hmanagers ▸ hregistered, hok.trans ?_⟩
      have hup : ((e.setupGateway req env).1.emplaceManager req env).AdapterComesUp req env ↔
          e.AdapterComesUp req env := hadapter hsetup
      unfold HasMarketData HasFeed TakesSubscriptions feedFor
      rw [hup]
      unfold emplaceManager
      rw [hregistry]

/-- A registration is atomic exactly when its market data can be had, or its order manager is not
created to begin with. -/
theorem registration_atomic_iff (e : Engine) (req : V1.RegisterStrategyRequest)
    (env : RegistrationEnv) :
    e.RegistersAtomically req env ↔ (e.CreatesManager req env → e.HasMarketData req env) := by
  obtain ⟨hrefused, hcreated⟩ := e.registerStrategy_spec req env
  unfold RegistersAtomically
  by_cases hcreates : e.CreatesManager req env
  · obtain ⟨hregistered, hsucceeds⟩ := hcreated hcreates
    constructor
    · rintro (hok | ⟨hmanagers, -⟩) -
      · exact hsucceeds.mp hok
      · -- The id was new, but is registered now.
        rw [hmanagers] at hregistered
        exact absurd hregistered hcreates.1
    · exact fun h => Or.inl (hsucceeds.mpr (h hcreates))
  · obtain ⟨-, hmanagers, hregistry⟩ := hrefused hcreates
    exact ⟨fun _ h => absurd h hcreates, fun _ => Or.inr ⟨hmanagers, hregistry⟩⟩

/-- A request with a period that has no unit. -/
def badPeriod : V1.RegisterStrategyRequest where
  strategyId := "S"
  accountId := "A"
  marketData := some { subscriptions := [⟨"AAPL", some "1x"⟩] }

/-- The registration fails, but the strategy is there and cannot be registered again. -/
theorem registration_keeps_manager :
    ¬ ({} : Engine).RegistersAtomically badPeriod {} ∧
      (({} : Engine).registerStrategy badPeriod {}).2 =
        .returned (.error
          ⟨"Invalid BarPeriod (Error occured while registering symbol: AAPL)", .error⟩) ∧
      ((({} : Engine).registerStrategy badPeriod {}).1.registerStrategy badPeriod {}).2 =
        .returned (.error ⟨"A strategy with this ID already exists.", .error⟩) := by
  refine ⟨?_, rfl, rfl⟩
  rintro (hok | ⟨hmanagers, -⟩)
  · exact hok
  · have hregistered : "S" ∈ (({} : Engine).registerStrategy badPeriod {}).1.managers := by decide
    rw [hmanagers] at hregistered
    exact AList.notMem_empty _ hregistered

end Engine

end Quarcc
