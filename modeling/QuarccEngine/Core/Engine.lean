import QuarccEngine.Core.FeedRegistry
import QuarccEngine.Gateways.Dispatcher

/-!
# Registering a strategy

`TradingEngine::create_strategy`, the adapters of `adapter_manager.cpp` that it starts, and
`RegisterStrategy`, which holds `managers_mu_` all the time.

Whether an adapter comes up, and whether the order manager can be created (it opens two databases),
is up to the surroundings.
-/

namespace Quarcc

/-! ## Adapters -/

/-- `AdapterManager`: the adapters that are up, by venue and account. -/
structure AdapterManager where
  processes : AList fun _ : String × String => ConnectionId := ∅

/-- `get_or_create`, which throws when a new adapter does not come up. -/
def AdapterManager.getOrCreate (a : AdapterManager) (accountId : String)
    (config : V1.AdapterConfigMessage) (fault : Option String) :
    AdapterManager × Except String ConnectionId :=
  match a.processes.lookup (config.venue, accountId) with
  | some conn => (a, .ok conn)
  | none =>
    match fault with
    | some what => (a, .error what)
    | none =>
      let conn := FiniteMap.size a.processes
      ({ a with processes := a.processes.insert (config.venue, accountId) conn }, .ok conn)

/-! ## The engine -/

/-- `TradingEngine`, with its feeds and adapters. -/
structure Engine extends TradingEngine where
  feedRegistry : FeedRegistry := {}
  adapterManager : AdapterManager := {}
  /-- The dispatcher of the gateway of each order manager. -/
  dispatchers : ManagerId → ReportDispatcher := fun _ => {}

/-- What `create_strategy` finds in its surroundings. -/
structure RegistrationEnv where
  /-- The exception of an adapter that does not come up. -/
  adapterFault : Option String := none
  /-- The exception of an order manager that cannot be created. -/
  managerFault : Option String := none
  /-- The rows that the database of the strategy has from earlier sessions. -/
  store : SQLiteOrderStore := .empty

/-- How a request ends that returns a `Result` and may throw. -/
inductive Outcome (α : Type) where
  | returned (result : Result α)
  | threw (what : String)

/-- The request has succeeded. -/
def Outcome.Succeeds {α : Type} : Outcome α → Prop
  | returned (.ok _) => True
  | _ => False

/-- The `Result`, unless the request throws. -/
def Outcome.result {α : Type} : Outcome α → Option (Result α)
  | returned result => some result
  | threw _ => none

/-- A request that returns has succeeded exactly when it returns no error. -/
lemma Outcome.succeeds_returned (result : Result Unit) :
    (Outcome.returned result).Succeeds ↔ result = .ok () := by
  cases result <;> simp [Succeeds]

namespace Engine

/-- The limits of `risk_params`. -/
def riskLimits (params : Option V1.RiskConfigMessage) : RiskLimits :=
  match params with
  | some params => ⟨params.maxQuantity, params.maxOpenOrders, params.dailyPnlLimit⟩
  | none => {}

/-- The gateway of the new strategy is set up. -/
def setupGateway (e : Engine) (req : V1.RegisterStrategyRequest) (env : RegistrationEnv) :
    Engine × Result Unit :=
  match req.gateway with
  | .paperTradingGW => (e, .ok ())
  | .grpcAdapterGW =>
    match req.adapter with
    | none =>
      (e, .error ⟨"Strategy '" ++ req.strategyId ++
        "' uses gateway 'grpc_adapter' but has no 'adapter' config block", .error⟩)
    | some config =>
      let connected := e.adapterManager.getOrCreate req.accountId config env.adapterFault
      let e := { e with adapterManager := connected.1 }
      match connected.2 with
      | .error what => (e, .error ⟨what, .error⟩)
      | .ok _ => (e, .ok ())
  | .alpacaGW =>
    (e, .error ⟨"Alpaca gateway not compiled in (TRADING_ENABLE_ALPACA_SDK=OFF)", .error⟩)
  | .unrecognized n => (e, .error ⟨"Invalid gateway: " ++ toString n, .error⟩)

/-- `managers_.emplace`, for an id that is new.  The constructor starts the gateway. -/
def emplaceManager (e : Engine) (req : V1.RegisterStrategyRequest) (env : RegistrationEnv) :
    Engine :=
  { e with
    managers := e.managers.insert req.strategyId e.objects.length
    objects := e.objects ++
      [{ account := .start req.accountId env.store ⟨riskLimits req.riskParams⟩ }]
    dispatchers := Function.update e.dispatchers e.objects.length {} }

/-- The feed of the new strategy is registered, unless it is there. -/
def setupFeed (e : Engine) (req : V1.RegisterStrategyRequest) (env : RegistrationEnv)
    (feed : V1.Feed) : Engine × Outcome Unit :=
  if e.feedRegistry.hasFeed ⟨feed, req.accountId⟩ then (e, .returned (.ok ()))
  else
    match feed with
    | .simulatedFeed =>
      ({ e with
          feedRegistry := e.feedRegistry.registerFeed ⟨feed, req.accountId⟩ (.simulated {}) },
        .returned (.ok ()))
    | .adapterFeed =>
      match req.adapter with
      | none =>
        (e, .returned (.error ⟨"Feed 'Adapter' requires an 'adapter' config block", .error⟩))
      | some config =>
        let connected := e.adapterManager.getOrCreate req.accountId config env.adapterFault
        let e := { e with adapterManager := connected.1 }
        match connected.2 with
        | .error what => (e, .threw what)
        | .ok conn =>
          ({ e with
              feedRegistry := e.feedRegistry.registerFeed ⟨feed, req.accountId⟩
                (.grpc { conn := conn }) },
            .returned (.ok ()))
    | _ =>
      (e, .returned (.error ⟨"Unsupported market data feed: " ++ toString feed.number, .error⟩))

/-- The loop over the subscriptions of the new strategy. -/
def registerSubscriptions (key : FeedKey) (m : ManagerId) :
    List V1.MarketDataSubscriptionMessage → FeedRegistry → FeedRegistry × Result Unit
  | [], r => (r, .ok ())
  | sub :: subs, r =>
    let registered := r.registerSubscription key sub.symbol sub.period m
    match registered.2 with
    | .error what =>
      (registered.1,
        .error ⟨what ++ " (Error occured while registering symbol: " ++ sub.symbol ++ ")", .error⟩)
    | .ok () => registerSubscriptions key m subs registered.1

/-- The market data of the new strategy, whose order manager is `m`, is set up. -/
def setupMarketData (e : Engine) (req : V1.RegisterStrategyRequest) (env : RegistrationEnv)
    (m : ManagerId) : Engine × Outcome Unit :=
  match req.marketData with
  | none => (e, .returned (.ok ()))
  | some marketData =>
    let fed := e.setupFeed req env marketData.feed
    match fed.2 with
    | .returned (.ok ()) =>
      let registered := registerSubscriptions ⟨marketData.feed, req.accountId⟩ m
        marketData.subscriptions fed.1.feedRegistry
      ({ fed.1 with feedRegistry := registered.1 }, .returned registered.2)
    | outcome => (fed.1, outcome)

/-- `create_strategy`. -/
def createStrategy (e : Engine) (req : V1.RegisterStrategyRequest) (env : RegistrationEnv) :
    Engine × Outcome Unit :=
  if req.strategyId ∈ e.managers then (e, .returned (.ok ()))
  else
    let connected := e.setupGateway req env
    match connected.2 with
    | .error err => (connected.1, .returned (.error err))
    | .ok () =>
      match env.managerFault with
      | some what =>
        (connected.1, .returned (.error
          ⟨what ++ " (Occured when creating a new order manager)", .error⟩))
      | none =>
        (connected.1.emplaceManager req env).setupMarketData req env connected.1.objects.length

/-- `RegisterStrategy`. -/
def registerStrategy (e : Engine) (req : V1.RegisterStrategyRequest) (env : RegistrationEnv) :
    Engine × Outcome Unit :=
  if req.strategyId ∈ e.managers then
    (e, .returned (.error ⟨"A strategy with this ID already exists.", .error⟩))
  else e.createStrategy req env

end Engine

end Quarcc
