import QuarccEngine.TradingEngine.Routing

/-!
# Feeds of adapters

An adapter belongs to a venue and an account: `AdapterManager` keeps one connection for every such
pair, and the gateway of a strategy uses the one of its own pair.  The feeds are shared by
`FeedKey`, which has the account and not the venue.  So a strategy gets the feed of its own adapter
exactly when the feed that its account has already, if any, is the one of its own venue.
-/

namespace Quarcc

/-- A registration of a strategy and what it meets. -/
abbrev Registration := V1.RegisterStrategyRequest × RegistrationEnv

/-- The venue of the adapter of the request; a request without an adapter has the default. -/
def V1.RegisterStrategyRequest.venue (req : V1.RegisterStrategyRequest) : String :=
  (req.adapter.map V1.AdapterConfigMessage.venue).getD ""

/-! ## Adapters and feeds stay -/

/-- Adapters that are up keep their connection. -/
def AdapterManager.Extends (a a' : AdapterManager) : Prop :=
  (∀ key conn, a.processes.lookup key = some conn → a'.processes.lookup key = some conn) ∧
    FiniteMap.size a.processes ≤ FiniteMap.size a'.processes

/-- The connections have numbers below the number of adapters. -/
def AdapterManager.Sound (a : AdapterManager) : Prop :=
  ∀ key conn, a.processes.lookup key = some conn → conn < FiniteMap.size a.processes

namespace AdapterManager

variable {a a' a'' : AdapterManager}

lemma Extends.refl (a : AdapterManager) : a.Extends a := ⟨fun _ _ => id, le_rfl⟩

lemma Extends.trans (h : a.Extends a') (h' : a'.Extends a'') : a.Extends a'' :=
  ⟨fun key conn hkey => h'.1 key conn (h.1 key conn hkey), h.2.trans h'.2⟩

/-- `get_or_create` changes no connection, and the one that it returns is kept for the venue and the
account. -/
lemma getOrCreate_spec (h : a.Sound) (accountId : String) (config : V1.AdapterConfigMessage)
    (fault : Option String) :
    a.Extends (a.getOrCreate accountId config fault).1 ∧
      (a.getOrCreate accountId config fault).1.Sound ∧
      ∀ conn, (a.getOrCreate accountId config fault).2 = .ok conn →
        (a.getOrCreate accountId config fault).1.processes.lookup (config.venue, accountId) =
          some conn := by
  unfold getOrCreate
  cases hlookup : a.processes.lookup (config.venue, accountId) with
  | some conn =>
    refine ⟨.refl a, h, fun conn' hconn => ?_⟩
    obtain rfl := Except.ok.inj hconn
    exact hlookup
  | none =>
    cases fault with
    | some what => exact ⟨.refl a, h, fun conn hconn => by cases hconn⟩
    | none =>
      have hnew : (config.venue, accountId) ∉ a.processes := AList.lookup_eq_none.mp hlookup
      have hsize := FiniteMap.size_insert_of_notMem hnew (FiniteMap.size a.processes)
      refine ⟨⟨fun key conn hkey => ?_, by rw [hsize]; exact Nat.le_succ _⟩, ?_, ?_⟩
      · dsimp only
        rw [FiniteMap.lookup_insert_eq, if_neg, hkey]
        rintro rfl
        rw [hlookup] at hkey
        cases hkey
      · intro key conn hkey
        dsimp only at hkey ⊢
        rw [FiniteMap.lookup_insert_eq] at hkey
        rw [hsize]
        split_ifs at hkey
        · obtain rfl := Option.some.inj hkey
          exact Nat.lt_succ_self _
        · exact Nat.lt_succ_of_lt (h key conn hkey)
      · intro conn hconn
        obtain rfl := Except.ok.inj hconn
        exact AList.lookup_insert _

/-- `get_or_create` leaves the adapters of the other venues and accounts alone. -/
lemma lookup_getOrCreate (h : a.Sound) (accountId : String) (config : V1.AdapterConfigMessage)
    (fault : Option String) {key : String × String} {conn : ConnectionId}
    (hold : conn < FiniteMap.size a.processes) :
    (a.getOrCreate accountId config fault).1.processes.lookup key = some conn ↔
      a.processes.lookup key = some conn := by
  refine ⟨fun hnew => ?_, fun hkey => (getOrCreate_spec h accountId config fault).1.1 key conn hkey⟩
  unfold getOrCreate at hnew
  cases hlookup : a.processes.lookup (config.venue, accountId) with
  | some conn' =>
    rw [hlookup] at hnew
    exact hnew
  | none =>
    rw [hlookup] at hnew
    cases fault with
    | some what => exact hnew
    | none =>
      dsimp only at hnew
      rw [FiniteMap.lookup_insert_eq] at hnew
      split_ifs at hnew
      · exact absurd (Option.some.inj hnew).symm hold.ne
      · exact hnew

end AdapterManager

/-- The connection of a feed of an adapter. -/
def MarketDataFeed.conn? : MarketDataFeed → Option ConnectionId
  | simulated _ => none
  | grpc feed => some feed.conn

/-- A subscription does not change the connection. -/
@[simp] lemma MarketDataFeed.conn_subscribe (f : MarketDataFeed) (symbol : String)
    (period : Option String) : (f.subscribe symbol period).1.conn? = f.conn? := by
  cases f with
  | simulated feed => rfl
  | grpc feed =>
    unfold MarketDataFeed.subscribe GrpcMarketDataFeed.subscribe
    dsimp only
    cases feed.subscriptions.findIdx? fun s => s.symbol = symbol <;> rfl

namespace FeedRegistry

/-- The connection that the adapter feed of an account uses, if the account has such a feed and the
feed has a connection. -/
def connOf (r : FeedRegistry) (accountId : String) : Option (Option ConnectionId) :=
  (r.feeds.lookup ⟨.adapterFeed, accountId⟩).map MarketDataFeed.conn?

variable (r : FeedRegistry) (key : FeedKey)

/-- A feed that takes the place of one with the same connection. -/
lemma connOf_insert {old feed : MarketDataFeed} (hold : r.feeds.lookup key = some old)
    (hconn : feed.conn? = old.conn?) (accountId : String) :
    connOf { r with feeds := r.feeds.insert key feed } accountId = r.connOf accountId := by
  unfold connOf
  rw [FiniteMap.lookup_insert_eq]
  split_ifs with hkey
  · rw [hkey, hold, Option.map_some, Option.map_some, hconn]
  · rfl

/-- A call of `register_subscription` changes no connection. -/
lemma connOf_registerSubscription (symbol : String) (period : Option String) (m : ManagerId)
    (accountId : String) :
    (r.registerSubscription key symbol period m).1.connOf accountId = r.connOf accountId := by
  have hroute : ∀ r : FeedRegistry,
      (r.route key symbol period m).connOf accountId = r.connOf accountId := by
    intro r
    unfold connOf
    rw [route_feeds]
  have hsubscribe : ∀ feed : MarketDataFeed, (r.feeds.lookup key).elim (createFeed key) .ok =
      .ok feed → connOf { r with feeds := r.feeds.insert key (feed.subscribe symbol period).1 }
        accountId = r.connOf accountId := by
    intro feed hfeed
    cases hlookup : r.feeds.lookup key with
    | some old =>
      rw [hlookup] at hfeed
      obtain rfl := Except.ok.inj hfeed
      exact r.connOf_insert key hlookup (old.conn_subscribe symbol period) accountId
    | none =>
      -- only a simulated feed is created
      rw [hlookup] at hfeed
      unfold Option.elim createFeed at hfeed
      dsimp only at hfeed
      split_ifs at hfeed with hsimulated
      unfold connOf
      rw [FiniteMap.lookup_insert_eq, if_neg]
      rintro rfl
      cases hsimulated
  unfold registerSubscription
  cases hfeed : (r.feeds.lookup key).elim (createFeed key) .ok with
  | error what => rfl
  | ok feed =>
    have hconn := hsubscribe feed hfeed
    dsimp only
    cases (feed.subscribe symbol period).2 with
    | error what => exact hconn
    | ok u => exact (hroute _).trans hconn

end FeedRegistry

namespace Engine

/-- The subscriptions of a new strategy change no connection. -/
lemma connOf_registerSubscriptions (key : FeedKey) (m : ManagerId)
    (messages : List V1.MarketDataSubscriptionMessage) (r : FeedRegistry) (accountId : String) :
    (registerSubscriptions key m messages r).1.connOf accountId = r.connOf accountId := by
  induction messages generalizing r with
  | nil => rfl
  | cons message messages ih =>
    have hone := r.connOf_registerSubscription key message.symbol message.period m accountId
    unfold registerSubscriptions
    dsimp only
    cases (r.registerSubscription key message.symbol message.period m).2 with
    | error what => exact hone
    | ok u => exact (ih _).trans hone

/-- The subscriptions of a new strategy are those to its feed. -/
lemma feed_of_mem_subscribed {key : FeedKey} {m : ManagerId}
    {messages : List V1.MarketDataSubscriptionMessage} {r : FeedRegistry} {sub : Subscription}
    (h : sub ∈ subscribed key m messages r) : sub.feed = key ∧ messages ≠ [] := by
  induction messages generalizing r with
  | nil => exact absurd h List.not_mem_nil
  | cons message messages ih =>
    refine ⟨?_, List.cons_ne_nil _ _⟩
    unfold subscribed at h
    dsimp only at h
    cases hresult : (r.registerSubscription key message.symbol message.period m).2 with
    | error what =>
      rw [hresult] at h
      exact absurd h List.not_mem_nil
    | ok u =>
      rw [hresult] at h
      rcases List.mem_cons.mp h with rfl | hrest
      · rfl
      · exact (ih hrest).1

/-- The feed of an adapter takes the first subscription. -/
lemma subscribed_ne_nil {key : FeedKey} {m : ManagerId}
    {messages : List V1.MarketDataSubscriptionMessage} {r : FeedRegistry}
    {feed : GrpcMarketDataFeed}
    (hfeed : r.feeds.lookup key = some (.grpc feed)) (hmessages : messages ≠ []) :
    ∃ sub, sub ∈ subscribed key m messages r := by
  obtain ⟨message, messages, rfl⟩ := List.exists_cons_of_ne_nil hmessages
  obtain ⟨hresult, -⟩ :=
    r.registerSubscription_of_lookup key message.symbol message.period m hfeed
  refine ⟨⟨key, message.symbol, message.period, m⟩, ?_⟩
  unfold subscribed
  dsimp only
  rw [hresult]
  exact List.mem_cons_self

/-! ## One registration -/

/-- Connections have numbers below the number of adapters, and every adapter feed has one. -/
structure AdaptersSound (e : Engine) : Prop where
  adapters : e.adapterManager.Sound
  feeds : ∀ accountId conn, e.feedRegistry.connOf accountId = some conn →
    ∃ c, conn = some c ∧ c < FiniteMap.size e.adapterManager.processes

/-- What a registration does to the adapters and their feeds. -/
structure Connects (req : V1.RegisterStrategyRequest) (e e' : Engine) : Prop where
  adapters : e.adapterManager.Extends e'.adapterManager
  sound : e'.adapterManager.Sound
  /-- A connection that was there is of the same venues and accounts. -/
  old : ∀ key conn, conn < FiniteMap.size e.adapterManager.processes →
    (e'.adapterManager.processes.lookup key = some conn ↔
      e.adapterManager.processes.lookup key = some conn)
  /-- An adapter feed keeps its connection, and a new one has that of the venue of the request. -/
  feeds : ∀ accountId, e'.feedRegistry.connOf accountId = e.feedRegistry.connOf accountId ∨
    e.feedRegistry.connOf accountId = none ∧ accountId = req.accountId ∧
      ∃ conn, e'.feedRegistry.connOf accountId = some (some conn) ∧
        e'.adapterManager.processes.lookup (req.venue, accountId) = some conn

variable {e e' : Engine} {req : V1.RegisterStrategyRequest} {env : RegistrationEnv}

/-- A registration that does nothing to the adapters and their feeds. -/
lemma Connects.of_eq (h : e.AdaptersSound) (hadapters : e'.adapterManager = e.adapterManager)
    (hfeeds : ∀ accountId, e'.feedRegistry.connOf accountId = e.feedRegistry.connOf accountId) :
    Connects req e e' := by
  refine ⟨?_, ?_, ?_, fun accountId => Or.inl (hfeeds accountId)⟩
  · rw [hadapters]
    exact .refl _
  · rw [hadapters]
    exact h.adapters
  · rw [hadapters]
    exact fun _ _ _ => Iff.rfl

/-- The adapters and their feeds are sound after a registration. -/
lemma AdaptersSound.of_connects (h : e.AdaptersSound) (hconnects : Connects req e e') :
    e'.AdaptersSound where
  adapters := hconnects.sound
  feeds := by
    intro accountId conn hconn
    obtain hsame | ⟨-, -, c, hnew, hlookup⟩ := hconnects.feeds accountId
    · obtain ⟨c, rfl, hc⟩ := h.feeds accountId conn (hsame ▸ hconn)
      exact ⟨c, rfl, hc.trans_le hconnects.adapters.2⟩
    · rw [hnew] at hconn
      exact ⟨c, (Option.some.inj hconn).symm, hconnects.sound _ c hlookup⟩

/-- Two steps of a registration. -/
lemma Connects.trans {e'' : Engine} (h : Connects req e e') (h' : Connects req e' e'') :
    Connects req e e'' := by
  refine ⟨h.adapters.trans h'.adapters, h'.sound, fun key conn hold => ?_, fun accountId => ?_⟩
  · exact (h'.old key conn (hold.trans_le h.adapters.2)).trans (h.old key conn hold)
  · obtain hsame | ⟨hnone, haccount, conn, hconn, hlookup⟩ := h.feeds accountId
    · obtain hsame' | ⟨hnone, hrest⟩ := h'.feeds accountId
      · exact Or.inl (hsame'.trans hsame)
      · exact Or.inr ⟨hsame ▸ hnone, hrest⟩
    · refine Or.inr ⟨hnone, haccount, conn, ?_, h'.adapters.1 _ _ hlookup⟩
      obtain hsame' | ⟨hnone', -⟩ := h'.feeds accountId
      · exact hsame'.trans hconn
      · rw [hconn] at hnone'
        cases hnone'

variable (req) in
/-- An adapter of the request is got or started. -/
lemma Connects.getOrCreate (h : e.AdaptersSound) (config : V1.AdapterConfigMessage)
    (fault : Option String) :
    Connects req e { e with
      adapterManager := (e.adapterManager.getOrCreate req.accountId config fault).1 } := by
  obtain ⟨hextends, hsound, -⟩ :=
    AdapterManager.getOrCreate_spec h.adapters req.accountId config fault
  refine ⟨hextends, hsound, fun key conn hold => ?_, fun _ => Or.inl rfl⟩
  exact AdapterManager.lookup_getOrCreate h.adapters req.accountId config fault hold

variable (req env) in
/-- The gateway is set up. -/
lemma connects_setupGateway (h : e.AdaptersSound) :
    Connects req e (e.setupGateway req env).1 := by
  have hsame : Connects req e e := .of_eq h rfl fun _ => rfl
  unfold setupGateway
  cases req.gateway with
  | paperTradingGW => exact hsame
  | alpacaGW => exact hsame
  | unrecognized n => exact hsame
  | grpcAdapterGW =>
    cases req.adapter with
    | none => exact hsame
    | some config =>
      have hconnects := Connects.getOrCreate req h config env.adapterFault
      dsimp only
      cases (e.adapterManager.getOrCreate req.accountId config env.adapterFault).2 with
      | error what => exact hconnects
      | ok conn => exact hconnects

variable (req env) in
/-- The feed is set up. -/
lemma connects_setupFeed (h : e.AdaptersSound) (feed : V1.Feed) :
    Connects req e (e.setupFeed req env feed).1 := by
  have hsame : Connects req e e := .of_eq h rfl fun _ => rfl
  unfold setupFeed
  by_cases hhas : e.feedRegistry.hasFeed ⟨feed, req.accountId⟩
  · rw [if_pos hhas]
    exact hsame
  rw [if_neg hhas]
  have hconn : ∀ (r : FeedRegistry) (f : MarketDataFeed) (accountId : String),
      r.feeds = e.feedRegistry.feeds →
      (r.registerFeed ⟨feed, req.accountId⟩ f).connOf accountId =
        if (⟨.adapterFeed, accountId⟩ : FeedKey) = ⟨feed, req.accountId⟩ then some f.conn?
        else e.feedRegistry.connOf accountId := by
    intro r f accountId hr
    have hnot : ¬ r.hasFeed ⟨feed, req.accountId⟩ := by
      unfold FeedRegistry.hasFeed
      rw [hr]
      exact hhas
    unfold FeedRegistry.registerFeed FeedRegistry.connOf
    rw [if_neg hnot, FiniteMap.lookup_insert_eq, hr]
    split_ifs <;> rfl
  cases feed with
  | alpacaFeed => exact hsame
  | unrecognized n => exact hsame
  | simulatedFeed =>
    refine .of_eq h rfl fun accountId => ?_
    rw [hconn _ _ accountId rfl]
    exact if_neg (by simp)
  | adapterFeed =>
    cases hadapter : req.adapter with
    | none => exact hsame
    | some config =>
      have hconnects := Connects.getOrCreate req h config env.adapterFault
      obtain ⟨-, -, hlookup⟩ :=
        AdapterManager.getOrCreate_spec h.adapters req.accountId config env.adapterFault
      dsimp only
      cases hresult : (e.adapterManager.getOrCreate req.accountId config env.adapterFault).2 with
      | error what => exact hconnects
      | ok conn =>
        refine ⟨hconnects.adapters, hconnects.sound, hconnects.old, fun accountId => ?_⟩
        dsimp only
        rw [hconn _ _ accountId rfl]
        split_ifs with hkey
        · obtain rfl : accountId = req.accountId := (FeedKey.mk.injEq .. ▸ hkey).2
          refine Or.inr ⟨?_, rfl, conn, rfl, ?_⟩
          · unfold FeedRegistry.connOf
            rw [AList.lookup_eq_none.mpr hhas, Option.map_none]
          · have hvenue : req.venue = config.venue := by
              unfold V1.RegisterStrategyRequest.venue
              rw [hadapter]
              rfl
            rw [hvenue]
            exact hlookup conn hresult
        · exact Or.inl rfl

/-- The market data is set up. -/
lemma connects_setupMarketData (h : e.AdaptersSound) (m : ManagerId) :
    Connects req e (e.setupMarketData req env m).1 := by
  unfold setupMarketData
  cases req.marketData with
  | none => exact .of_eq h rfl fun _ => rfl
  | some marketData =>
    have hfed := connects_setupFeed req env h marketData.feed
    dsimp only
    cases (e.setupFeed req env marketData.feed).2 with
    | threw what => exact hfed
    | returned result =>
      cases result with
      | error err => exact hfed
      | ok u =>
        refine hfed.trans (.of_eq (h.of_connects hfed) rfl fun accountId => ?_)
        exact connOf_registerSubscriptions _ m marketData.subscriptions _ accountId

variable (req env) in
/-- What `RegisterStrategy` does to the adapters and their feeds. -/
lemma connects_registerStrategy (h : e.AdaptersSound) :
    Connects req e (e.registerStrategy req env).1 := by
  have hsame : Connects req e e := .of_eq h rfl fun _ => rfl
  have hgateway := connects_setupGateway req env h
  unfold registerStrategy createStrategy
  split_ifs with hid
  · exact hsame
  dsimp only
  cases (e.setupGateway req env).2 with
  | error err => exact hgateway
  | ok u =>
    cases env.managerFault with
    | some what => exact hgateway
    | none =>
      have hsound := h.of_connects hgateway
      have hemplaced : ((e.setupGateway req env).1.emplaceManager req env).AdaptersSound :=
        ⟨hsound.adapters, hsound.feeds⟩
      have hemplace : Connects req (e.setupGateway req env).1
          ((e.setupGateway req env).1.emplaceManager req env) := .of_eq hsound rfl fun _ => rfl
      exact (hgateway.trans hemplace).trans (connects_setupMarketData hemplaced _)

/-- A registration that creates its order manager goes on with the market data, and the others make
no subscriptions. -/
lemma registerStrategy_eq (e : Engine) (req : V1.RegisterStrategyRequest) (env : RegistrationEnv) :
    (e.CreatesManager req env →
      e.registerStrategy req env =
        ((e.setupGateway req env).1.emplaceManager req env).setupMarketData
          req env (e.setupGateway req env).1.objects.length ∧
        e.newSubscriptions req env =
          ((e.setupGateway req env).1.emplaceManager req env).setupSubscriptions
          req env (e.setupGateway req env).1.objects.length) ∧
      (¬ e.CreatesManager req env → e.newSubscriptions req env = []) := by
  obtain ⟨-, hgateway, -⟩ := e.setupGateway_spec req env
  unfold registerStrategy createStrategy newSubscriptions
  by_cases hid : req.strategyId ∈ e.managers
  · rw [if_pos hid, if_pos hid]
    exact ⟨fun h => absurd hid h.1, fun _ => rfl⟩
  rw [if_neg hid, if_neg hid, if_neg hid]
  dsimp only
  cases hsetup : (e.setupGateway req env).2 with
  | error err =>
    have hfails : ¬ e.HasGateway req env := by
      rw [← hgateway, hsetup]
      exact fun h => by cases h
    exact ⟨fun h => absurd h.2.1 hfails, fun _ => rfl⟩
  | ok u =>
    cases hfault : env.managerFault with
    | some what =>
      refine ⟨fun h => ?_, fun _ => rfl⟩
      rw [h.2.2] at hfault
      cases hfault
    | none =>
      exact ⟨fun _ => ⟨rfl, rfl⟩, fun h => absurd ⟨hid, hgateway.mp hsetup, hfault⟩ h⟩

/-- A strategy subscribes only when its order manager is created, and to its own feed, which is
there then. -/
lemma of_mem_newSubscriptions {sub : Subscription} (h : sub ∈ e.newSubscriptions req env) :
    e.CreatesManager req env ∧ ∃ marketData, req.marketData = some marketData ∧
      sub.feed = ⟨marketData.feed, req.accountId⟩ ∧ marketData.subscriptions ≠ [] ∧
      (marketData.feed = .adapterFeed →
        (e.registerStrategy req env).1.feedRegistry.connOf req.accountId ≠ none) := by
  obtain ⟨hpath, hnone⟩ := e.registerStrategy_eq req env
  have hcreates : e.CreatesManager req env := by
    by_contra hnot
    rw [hnone hnot] at h
    exact absurd h List.not_mem_nil
  obtain ⟨hregistered, hnew⟩ := hpath hcreates
  refine ⟨hcreates, ?_⟩
  rw [hnew] at h
  rw [hregistered]
  clear hpath hnone hregistered hnew
  generalize (e.setupGateway req env).1.emplaceManager req env = e₁ at h ⊢
  generalize (e.setupGateway req env).1.objects.length = m at h ⊢
  unfold setupSubscriptions at h
  unfold setupMarketData
  cases hmarketData : req.marketData with
  | none =>
    rw [hmarketData] at h
    exact absurd h List.not_mem_nil
  | some marketData =>
    obtain ⟨-, -, hfound⟩ := e₁.setupFeed_spec req env marketData.feed
    rw [hmarketData] at h
    dsimp only at h ⊢
    cases hfed : (e₁.setupFeed req env marketData.feed).2 with
    | threw what =>
      rw [hfed] at h
      exact absurd h List.not_mem_nil
    | returned result =>
      cases result with
      | error err =>
        rw [hfed] at h
        exact absurd h List.not_mem_nil
      | ok u =>
        rw [hfed] at h
        obtain ⟨hfeed, hne⟩ := feed_of_mem_subscribed h
        refine ⟨marketData, rfl, hfeed, hne, fun hadapter => ?_⟩
        obtain ⟨feed, hlookup, -⟩ := hfound hfed
        dsimp only
        rw [connOf_registerSubscriptions]
        unfold FeedRegistry.connOf
        rw [hadapter] at hlookup ⊢
        rw [hlookup]
        exact Option.some_ne_none _

/-- A strategy that finds an adapter feed for its account subscribes to it. -/
lemma exists_mem_newSubscriptions (hcreates : e.CreatesManager req env)
    {marketData : V1.MarketDataConfigMessage} (hmarketData : req.marketData = some marketData)
    (hfeed : marketData.feed = .adapterFeed) (hne : marketData.subscriptions ≠ [])
    {conn : ConnectionId} (hconn : e.feedRegistry.connOf req.accountId = some (some conn)) :
    ∃ sub ∈ e.newSubscriptions req env, sub.feed = ⟨.adapterFeed, req.accountId⟩ := by
  obtain ⟨⟨-, hregistry⟩, -⟩ := e.setupGateway_spec req env
  obtain ⟨feed, hlookup, hgrpc⟩ := Option.map_eq_some_iff.mp hconn
  cases feed with
  | simulated feed => cases hgrpc
  | grpc feed =>
    have hfound : ((e.setupGateway req env).1.emplaceManager req env).feedRegistry.feeds.lookup
        ⟨.adapterFeed, req.accountId⟩ = some (.grpc feed) := by
      rw [← hlookup, ← hregistry]
      rfl
    have hset : ((e.setupGateway req env).1.emplaceManager req env).setupFeed req env .adapterFeed =
        ((e.setupGateway req env).1.emplaceManager req env, .returned (.ok ())) :=
      if_pos (FiniteMap.mem_of_lookup hfound)
    rw [((e.registerStrategy_eq req env).1 hcreates).2]
    unfold setupSubscriptions
    rw [hmarketData]
    dsimp only
    rw [hfeed, hset]
    obtain ⟨sub, hsub⟩ := subscribed_ne_nil (m := (e.setupGateway req env).1.objects.length)
      hfound hne
    exact ⟨sub, hsub, (feed_of_mem_subscribed hsub).1⟩

end Engine

/-! ## Sequences of registrations -/

/-- The engine with all subscriptions that were ever made, each with the venue of its strategy. -/
structure Adapted where
  engine : Engine := {}
  subscriptions : List (Subscription × String) := []

namespace Adapted

/-- A strategy is registered. -/
def step (s : Adapted) (i : Registration) : Adapted where
  engine := (s.engine.registerStrategy i.1 i.2).1
  subscriptions := s.subscriptions ++
    (s.engine.newSubscriptions i.1 i.2).map fun sub => (sub, i.1.venue)

/-- A subscription to an adapter feed is on the connection that is kept for the venue and the
account of the strategy. -/
def OnOwnAdapter (e : Engine) (sub : Subscription × String) : Prop :=
  sub.1.feed.feedType = .adapterFeed →
    ∃ conn, e.feedRegistry.connOf sub.1.feed.accountId = some (some conn) ∧
      e.adapterManager.processes.lookup (sub.2, sub.1.feed.accountId) = some conn

/-- Every strategy gets the market data of its own adapter. -/
def OwnAdapters (s : Adapted) : Prop := ∀ sub ∈ s.subscriptions, OnOwnAdapter s.engine sub

/-- A strategy with subscriptions to an adapter feed finds no such feed for its account, or the one
of its own venue. -/
def FindsOwnFeed (s : Adapted) (i : Registration) : Prop :=
  s.engine.CreatesManager i.1 i.2 → ∀ marketData, i.1.marketData = some marketData →
    marketData.feed = .adapterFeed → marketData.subscriptions ≠ [] →
      ∀ conn, s.engine.feedRegistry.connOf i.1.accountId = some (some conn) →
        s.engine.adapterManager.processes.lookup (i.1.venue, i.1.accountId) = some conn

variable {s : Adapted}

/-- A subscription stays on its connection. -/
lemma OnOwnAdapter.of_connects {e e' : Engine} {req : V1.RegisterStrategyRequest}
    (hconnects : Engine.Connects req e e') {sub : Subscription × String} (h : OnOwnAdapter e sub) :
    OnOwnAdapter e' sub := by
  intro hfeed
  obtain ⟨conn, hconn, hlookup⟩ := h hfeed
  refine ⟨conn, ?_, hconnects.adapters.1 _ _ hlookup⟩
  obtain hsame | ⟨hnone, -⟩ := hconnects.feeds sub.1.feed.accountId
  · exact hsame.trans hconn
  · rw [hconn] at hnone
    cases hnone

/-- **Step lemma.**  A registration keeps the strategies on their own adapters exactly when it finds
no feed of another venue. -/
theorem ownAdapters_step_iff (hsound : s.engine.AdaptersSound) (h : s.OwnAdapters)
    (i : Registration) : (s.step i).OwnAdapters ↔ s.FindsOwnFeed i := by
  obtain ⟨req, env⟩ := i
  have hconnects := Engine.connects_registerStrategy req env hsound
  constructor
  · intro hafter hcreates marketData hmarketData hfeed hne conn hconn
    obtain ⟨sub, hsub, hkey⟩ :=
      Engine.exists_mem_newSubscriptions hcreates hmarketData hfeed hne hconn
    have hmem : (sub, req.venue) ∈ (s.step (req, env)).subscriptions :=
      List.mem_append_right _ (List.mem_map_of_mem hsub)
    obtain ⟨conn', hconn', hlookup⟩ := hafter _ hmem (by rw [hkey])
    dsimp only at hconn' hlookup
    rw [hkey] at hconn' hlookup
    obtain ⟨c, hc, hold⟩ := hsound.feeds req.accountId _ hconn
    obtain rfl := Option.some.inj hc
    have hsame : conn' = conn := by
      obtain hkept | ⟨hnone, -⟩ := hconnects.feeds req.accountId
      · exact Option.some.inj (Option.some.inj (hconn'.symm.trans (hkept.trans hconn)))
      · rw [hconn] at hnone
        cases hnone
    rw [hsame] at hlookup
    exact (hconnects.old _ conn hold).mp hlookup
  · intro hown sub hsub
    rcases List.mem_append.mp hsub with hbefore | hnow
    · exact OnOwnAdapter.of_connects hconnects (h sub hbefore)
    · obtain ⟨sub, hnew, rfl⟩ := List.mem_map.mp hnow
      intro hadapter
      obtain ⟨hcreates, marketData, hmarketData, hkey, hne, hthere⟩ :=
        Engine.of_mem_newSubscriptions hnew
      dsimp only at hadapter ⊢
      rw [hkey] at hadapter ⊢
      dsimp only at hadapter ⊢
      cases hconn : s.engine.feedRegistry.connOf req.accountId with
      | some found =>
        obtain ⟨conn, rfl, hold⟩ := hsound.feeds req.accountId found hconn
        have hlookup := hown hcreates marketData hmarketData hadapter hne conn hconn
        refine ⟨conn, ?_, hconnects.adapters.1 _ _ hlookup⟩
        obtain hkept | ⟨hnone, -⟩ := hconnects.feeds req.accountId
        · exact hkept.trans hconn
        · rw [hconn] at hnone
          cases hnone
      | none =>
        -- the feed is new, and the adapter is the own one
        obtain hkept | ⟨-, -, conn, hnew, hlookup⟩ := hconnects.feeds req.accountId
        · exact absurd (hkept.trans hconn) (hthere hadapter)
        · exact ⟨conn, hnew, hlookup⟩

end Adapted

/-- **When the market data comes from the own adapter.**  In a sequence of registrations, every
strategy is subscribed on the connection of its own venue and account all the time, exactly when no
strategy finds a feed of another venue for its account. -/
theorem own_adapters_iff (registrations : List Registration) :
    Trajectory.EveryState Adapted.step Adapted.OwnAdapters {} registrations ↔
      Trajectory.AllSteps Adapted.step Adapted.FindsOwnFeed {} registrations := by
  have hstart : ({} : Adapted).engine.AdaptersSound := by
    constructor
    · intro key conn h
      cases h
    · intro accountId conn h
      cases h
  refine Trajectory.everyState_iff_of_invariant
    (I := fun s : Adapted => s.engine.AdaptersSound) ?_ ?_ hstart ?_
  · intro s i hsound
    exact hsound.of_connects (Engine.connects_registerStrategy i.1 i.2 hsound)
  · intro s i hsound h
    exact Adapted.ownAdapters_step_iff hsound h i
  · intro sub hsub
    exact absurd hsub List.not_mem_nil

/-- A strategy on the adapter of a venue, which subscribes to the ticks of a symbol. -/
def onVenue (strategyId venue : String) : Registration :=
  ({ strategyId := strategyId, accountId := "ACC", gateway := .grpcAdapterGW
     adapter := some { venue := venue }
     marketData := some { feed := .adapterFeed, subscriptions := [{ symbol := "AAPL" }] } }, {})

/-- The second strategy of an account gets the market data of the venue of the first one. -/
theorem own_adapters_two_venues :
    let s := Trajectory.run Adapted.step {} [onVenue "S1" "V1", onVenue "S2" "V2"]
    s.engine.feedRegistry.connOf "ACC" = some (some 0) ∧
      s.engine.adapterManager.processes.lookup ("V2", "ACC") = some 1 ∧
      ¬ Trajectory.EveryState Adapted.step Adapted.OwnAdapters {}
        [onVenue "S1" "V1", onVenue "S2" "V2"] := by
  intro s
  have hconn : s.engine.feedRegistry.connOf "ACC" = some (some 0) := by decide +kernel
  have hown : s.engine.adapterManager.processes.lookup ("V2", "ACC") = some 1 := by
    decide +kernel
  refine ⟨hconn, hown, fun h => ?_⟩
  have hmem : (⟨⟨.adapterFeed, "ACC"⟩, "AAPL", none, 1⟩, "V2") ∈ s.subscriptions := by
    decide +kernel
  obtain ⟨conn, hconn', hlookup⟩ := h.last _ hmem rfl
  have hzero : some 0 = some conn := Option.some.inj (hconn.symm.trans hconn')
  have hone : some 1 = some conn := hown.symm.trans hlookup
  cases hzero.trans hone.symm

end Quarcc
