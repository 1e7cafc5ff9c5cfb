import QuarccEngine.Core.TradingEngine
import QuarccEngine.Gateways.SimulatedFeed

/-!
# The feed registry

`feed_registry.cpp`: the feeds, and the tables that say which order managers get which ticks and
bars.  `start_all` has run before the first request comes in, so a feed runs as soon as it is there.
-/

namespace Quarcc

/-! ## Feeds -/

/-- An `AdapterConnection` as an object. -/
abbrev ConnectionId := ℕ

/-- `v1::SymbolSubscription`. -/
structure SymbolSubscription where
  symbol : String
  barPeriods : List String
  deriving DecidableEq

/-- `GrpcMarketDataFeed`. -/
structure GrpcMarketDataFeed where
  conn : ConnectionId
  subscriptions : List SymbolSubscription := []

/-- `GrpcMarketDataFeed::subscribe`: the first subscription of the symbol gets the period. -/
def GrpcMarketDataFeed.subscribe (f : GrpcMarketDataFeed) (symbol : String)
    (period : Option String) : GrpcMarketDataFeed :=
  match f.subscriptions.findIdx? fun s => s.symbol = symbol with
  | none => { f with subscriptions := f.subscriptions ++ [⟨symbol, period.toList⟩] }
  | some k =>
    { f with
      subscriptions := f.subscriptions.modify k fun s =>
        { s with
          barPeriods := s.barPeriods ++ period.toList.filter fun p => p ∉ s.barPeriods } }

/-- `IMarketDataFeed`. -/
inductive MarketDataFeed where
  | simulated (feed : SimulatedFeed)
  | grpc (feed : GrpcMarketDataFeed)

/-- `subscribe`, which may throw. -/
def MarketDataFeed.subscribe (f : MarketDataFeed) (symbol : String) (period : Option String) :
    MarketDataFeed × Except String Unit :=
  match f with
  | simulated feed =>
    (simulated (feed.subscribe symbol period).1, (feed.subscribe symbol period).2)
  | grpc feed => (grpc (feed.subscribe symbol period), .ok ())

/-- The feed takes a subscription; a feed of an adapter takes everything. -/
def MarketDataFeed.Takes (f : MarketDataFeed) (symbol : String) (period : Option String) : Prop :=
  ∀ feed, f = simulated feed → feed.Takes symbol period

/-- `subscribe` throws exactly when the feed does not take the subscription. -/
lemma MarketDataFeed.subscribe_ok_iff (f : MarketDataFeed) (symbol : String)
    (period : Option String) : (f.subscribe symbol period).2 = .ok () ↔ f.Takes symbol period := by
  unfold MarketDataFeed.subscribe Takes
  cases f with
  | simulated feed => simp [feed.subscribe_ok_iff]
  | grpc feed => simp

/-- A subscription that is taken does not change what the feed takes. -/
lemma MarketDataFeed.takes_subscribe (f : MarketDataFeed) {symbol : String} {period : Option String}
    (h : f.Takes symbol period) (symbol' : String) (period' : Option String) :
    (f.subscribe symbol period).1.Takes symbol' period' ↔ f.Takes symbol' period' := by
  unfold MarketDataFeed.subscribe
  cases f with
  | simulated feed =>
    have htakes := feed.takes_subscribe (h feed rfl) symbol' period'
    simpa [Takes] using htakes
  | grpc feed => simp [Takes]

/-! ## The registry -/

/-- `FeedKey`. -/
structure FeedKey where
  feedType : V1.Feed
  accountId : String
  deriving DecidableEq

/-- `BarSubKey`. -/
structure BarSubKey where
  feed : FeedKey
  symbol : String
  period : String
  deriving DecidableEq

/-- `TickSubKey`. -/
structure TickSubKey where
  feed : FeedKey
  symbol : String
  deriving DecidableEq

/-- `FeedRegistry`. -/
structure FeedRegistry where
  feeds : AList fun _ : FeedKey => MarketDataFeed := ∅
  barSubs : AList fun _ : BarSubKey => List ManagerId := ∅
  tickSubs : AList fun _ : TickSubKey => List ManagerId := ∅

namespace FeedRegistry

/-- `has_feed`. -/
def hasFeed (r : FeedRegistry) (key : FeedKey) : Prop := key ∈ r.feeds

instance (r : FeedRegistry) (key : FeedKey) : Decidable (r.hasFeed key) :=
  inferInstanceAs (Decidable (key ∈ r.feeds))

/-- `register_feed`, which keeps a feed that is there already. -/
def registerFeed (r : FeedRegistry) (key : FeedKey) (feed : MarketDataFeed) : FeedRegistry :=
  if r.hasFeed key then r else { r with feeds := r.feeds.insert key feed }

/-- `create_feed`, which may throw. -/
def createFeed (key : FeedKey) : Except String MarketDataFeed :=
  if key.feedType = .simulatedFeed then .ok (.simulated {})
  else .error ("Unknown feed type: " ++ toString key.feedType.number)

/-- The order manager is put into the table of the bars or of the ticks. -/
def route (r : FeedRegistry) (key : FeedKey) (symbol : String) (period : Option String)
    (m : ManagerId) : FeedRegistry :=
  match period with
  | some period =>
    { r with
      barSubs := r.barSubs.insert ⟨key, symbol, period⟩
        ((r.barSubs.lookup ⟨key, symbol, period⟩).getD [] ++ [m]) }
  | none =>
    { r with
      tickSubs := r.tickSubs.insert ⟨key, symbol⟩
        ((r.tickSubs.lookup ⟨key, symbol⟩).getD [] ++ [m]) }

/-- `register_subscription`, which may throw. -/
def registerSubscription (r : FeedRegistry) (key : FeedKey) (symbol : String)
    (period : Option String) (m : ManagerId) : FeedRegistry × Except String Unit :=
  match (r.feeds.lookup key).elim (createFeed key) .ok with
  | .error what => (r, .error what)
  | .ok feed =>
    let subscribed := feed.subscribe symbol period
    let r := { r with feeds := r.feeds.insert key subscribed.1 }
    match subscribed.2 with
    | .error what => (r, .error what)
    | .ok () => (r.route key symbol period m, .ok ())

/-- `unregister_manager`. -/
def unregisterManager (r : FeedRegistry) (m : ManagerId) : FeedRegistry :=
  { r with
    barSubs := FiniteMap.mapValues (fun oms => oms.filter fun om => om ≠ m) r.barSubs
    tickSubs := FiniteMap.mapValues (fun oms => oms.filter fun om => om ≠ m) r.tickSubs }

/-- The order managers to which `on_bar` hands a bar of the feed. -/
def barSubscribers (r : FeedRegistry) (key : FeedKey) (bar : Bar) : List ManagerId :=
  (r.barSubs.lookup ⟨key, bar.symbol, bar.period⟩).getD []

/-- The order managers to which `on_tick` hands a tick of the feed. -/
def tickSubscribers (r : FeedRegistry) (key : FeedKey) (tick : Tick) : List ManagerId :=
  (r.tickSubs.lookup ⟨key, tick.symbol⟩).getD []

variable (r : FeedRegistry) (key : FeedKey) (symbol : String) (period : Option String)
  (m : ManagerId)

/-- The tables are apart from the feeds. -/
@[simp] lemma route_feeds : (r.route key symbol period m).feeds = r.feeds := by
  unfold route
  cases period <;> rfl

/-- What `register_subscription` does with a feed that is there. -/
lemma registerSubscription_of_lookup {feed : MarketDataFeed} (h : r.feeds.lookup key = some feed) :
    (r.registerSubscription key symbol period m).2 = (feed.subscribe symbol period).2 ∧
      (r.registerSubscription key symbol period m).1.feeds =
        r.feeds.insert key (feed.subscribe symbol period).1 := by
  unfold registerSubscription
  rw [h, Option.elim_some]
  dsimp only
  cases hsub : (feed.subscribe symbol period).2 with
  | error what => exact ⟨rfl, rfl⟩
  | ok u => exact ⟨rfl, by simp⟩

end FeedRegistry

end Quarcc
