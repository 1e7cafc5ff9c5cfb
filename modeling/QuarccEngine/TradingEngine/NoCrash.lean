import QuarccEngine.Gateways.BarPeriods
import QuarccEngine.TradingEngine.Calls
import QuarccEngine.TradingEngine.Registration

/-!
# Requests that bring the engine down

Two kinds of requests do: a kill switch whose mode is neither of the two, and a registration that
subscribes to bars of a period that cannot be read.  The second one is answered with an error, and
the loop of the feed divides by zero later on.  A third kind, a kill switch whose notification the
dispatcher of a gateway misses, is never answered.  The main result says that there is no other
kind: in a run without such requests every request is answered and the process goes on.
-/

namespace Quarcc

/-! ## Feeds -/

namespace FeedRegistry

/-- No accumulator of a simulated feed has the period zero. -/
def Sound (r : FeedRegistry) : Prop :=
  ∀ key feed, r.feeds.lookup key = some (.simulated feed) → feed.Sound

variable {r : FeedRegistry}

/-- A feed that is new, or that has changed. -/
lemma Sound.insert (h : r.Sound) (key : FeedKey) {feed : MarketDataFeed}
    (hfeed : ∀ f, feed = .simulated f → f.Sound) :
    Sound { r with feeds := r.feeds.insert key feed } := by
  intro key' f hf
  rw [FiniteMap.lookup_insert_eq] at hf
  split_ifs at hf with hkey
  · exact hfeed f (Option.some.inj hf)
  · exact h key' f hf

/-- A feed is registered. -/
lemma Sound.registerFeed (h : r.Sound) (key : FeedKey) {feed : MarketDataFeed}
    (hfeed : ∀ f, feed = .simulated f → f.Sound) : (r.registerFeed key feed).Sound := by
  unfold FeedRegistry.registerFeed
  split_ifs
  · exact h
  · exact h.insert key hfeed

/-- Subscriptions that the feed takes. -/
lemma Sound.registerSubscriptions {key : FeedKey} (m : ManagerId)
    {subs : List V1.MarketDataSubscriptionMessage} (h : r.Sound) {feed : MarketDataFeed}
    (hlookup : r.feeds.lookup key = some feed)
    (htakes : ∀ sub ∈ subs, feed.Takes sub.symbol sub.period) :
    (Engine.registerSubscriptions key m subs r).1.Sound := by
  induction subs generalizing r feed with
  | nil => exact h
  | cons sub subs ih =>
    obtain ⟨hresult, hfeeds⟩ := r.registerSubscription_of_lookup key sub.symbol sub.period m hlookup
    have htaken : feed.Takes sub.symbol sub.period := htakes sub List.mem_cons_self
    have hsound : (r.registerSubscription key sub.symbol sub.period m).1.Sound := by
      unfold Sound
      rw [hfeeds]
      refine h.insert key fun f hf => ?_
      cases feed with
      | grpc feed => cases hf
      | simulated feed =>
        obtain rfl := MarketDataFeed.simulated.inj hf
        exact (h key feed hlookup).subscribe (htaken feed rfl)
    unfold Engine.registerSubscriptions
    dsimp only
    rw [hresult, (feed.subscribe_ok_iff sub.symbol sub.period).mpr htaken]
    have hsubscribed : (r.registerSubscription key sub.symbol sub.period m).1.feeds.lookup key =
        some (feed.subscribe sub.symbol sub.period).1 := by
      rw [hfeeds]
      exact AList.lookup_insert _
    exact ih hsound hsubscribed fun sub' hsub' =>
      (feed.takes_subscribe htaken _ _).mpr (htakes sub' (List.mem_cons_of_mem sub hsub'))

end FeedRegistry

/-! ## The engine -/

namespace Engine

/-- The order managers are apart from each other and each in the state `I`, their gateways run, and
the feeds divide by no zero. -/
structure Serves (I : ManagerId → Managed → Prop) (e : Engine) : Prop where
  managers : ∀ id m, e.managers.lookup id = some m → ∃ o, e.objects[m]? = some o ∧ I m o
  distinct : ∀ id id' m, e.managers.lookup id = some m → e.managers.lookup id' = some m → id = id'
  gateways : ∀ id m, e.managers.lookup id = some m → (e.dispatchers m).stop = .notCalled
  feeds : e.feedRegistry.Sound

variable {e e' : Engine} {I J : ManagerId → Managed → Prop}

/-- An engine without strategies. -/
lemma serves_start : Serves I {} where
  managers := by simp
  distinct := by simp
  gateways := by simp
  feeds := by
    intro key feed h
    cases h

/-- A call that leaves no period that is zero behind. -/
lemma Serves.of_keeps (h : e.Serves I) (hkeeps : Keeps I J e e') (hfeeds : e'.feedRegistry.Sound) :
    e'.Serves J where
  managers := by
    intro id m hid
    rw [hkeeps.managers_eq] at hid
    obtain ⟨o, ho, hI⟩ := h.managers id m hid
    exact hkeeps.state m o ho hI
  distinct := by
    rw [hkeeps.managers_eq]
    exact h.distinct
  gateways := by
    intro id m hid
    rw [hkeeps.managers_eq] at hid
    exact hkeeps.unstopped m (h.gateways id m hid)
  feeds := hfeeds

/-- What is registered, when all order managers are idle. -/
lemma Serves.registered (h : e.Serves fun _ => Managed.Idle) : e.Registered :=
  ⟨h.managers, h.distinct⟩

/-- An order manager is taken off the market data. -/
lemma Serves.unregisterManager (h : e.Serves I) (m : ManagerId) :
    (e.unregisterManager m).Serves I where
  managers := h.managers
  distinct := h.distinct
  gateways := h.gateways
  feeds := h.feeds

/-! ### Threads -/

/-- Several steps that leave the feed registry alone. -/
lemma feedRegistry_foldl {α : Type} {f : Engine → α → Engine}
    (hf : ∀ e a, (f e a).feedRegistry = e.feedRegistry) (as : List α) (e : Engine) :
    (as.foldl f e).feedRegistry = e.feedRegistry := by
  induction as generalizing e with
  | nil => rfl
  | cons a as ih => exact (ih _).trans (hf e a)

/-- Market data leaves the feed registry alone. -/
lemma feedRegistry_enqueueAll (e : Engine) (ms : List ManagerId) (event : OMEvent) :
    (e.enqueueAll ms event).feedRegistry = e.feedRegistry :=
  feedRegistry_foldl (f := fun e m => e.modifyManager m (Managed.enqueue · event))
    (fun _ _ => rfl) ms e

/-- **A step of a thread ends no process**, when the feeds divide by no zero. -/
lemma threadStep_of_sound (h : e.feedRegistry.Sound) (t : ThreadStep) :
    ∃ e', e.threadStep t = .ok e' ∧ e'.feedRegistry.Sound := by
  unfold Engine.threadStep
  cases t with
  | beginRound key nowNs =>
    dsimp only
    cases hlookup : e.feedRegistry.feeds.lookup key with
    | none => exact ⟨e, rfl, h⟩
    | some feed =>
      cases feed with
      | grpc feed => exact ⟨e, rfl, h⟩
      | simulated feed =>
        refine ⟨_, rfl, h.insert key fun f hf => ?_⟩
        obtain rfl := MarketDataFeed.simulated.inj hf
        exact (h key feed hlookup).beginRound nowNs
  | emit key noise =>
    dsimp only
    cases hlookup : e.feedRegistry.feeds.lookup key with
    | none => exact ⟨e, rfl, h⟩
    | some feed =>
      cases feed with
      | grpc feed => exact ⟨e, rfl, h⟩
      | simulated feed =>
        obtain ⟨⟨feed', ticks, bars⟩, hok, hsound⟩ := (h key feed hlookup).emit noise
        dsimp only
        rw [hok]
        refine ⟨_, rfl, ?_⟩
        dsimp only
        rw [feedRegistry_foldl (f := onBar key) fun _ _ => feedRegistry_enqueueAll _ _ _,
          feedRegistry_foldl (f := onTick key) fun _ _ => feedRegistry_enqueueAll _ _ _]
        refine h.insert key fun f hf => ?_
        obtain rfl := MarketDataFeed.simulated.inj hf
        exact hsound
  | report m fill => exact ⟨_, rfl, h⟩
  | gateway m action =>
    have hkept : (e.gatewayStep m action).feedRegistry = e.feedRegistry :=
      (e.spares_gatewayStep m action).1.feedRegistry_eq
    cases action with
    | stop => exact ⟨e, rfl, h⟩
    | _ => exact ⟨_, rfl, hkept ▸ h⟩
  | dispatch m met => exact ⟨_, rfl, h⟩

/-! ### Commands -/

/-- A command ends no process, when the feeds divide by no zero. -/
lemma ask_of_sound (h : e.feedRegistry.Sound) (m : ManagerId) (command : OMEvent)
    (waiting : Awaiting) :
    ∃ asked, e.ask m command waiting = .ok asked ∧ asked.1.feedRegistry.Sound := by
  have hthreads : ∀ e t, e.feedRegistry.Sound → t ∈ waiting.meanwhile →
      ∃ e', Engine.threadStep e t = .ok e' ∧ e'.feedRegistry.Sound :=
    fun e t he _ => threadStep_of_sound he t
  obtain ⟨e₁, hok, hsound⟩ := Trajectory.foldlM_ok_of_invariant hthreads
    (s := e.modifyManager m (Managed.enqueue · command)) h
  unfold Engine.ask
  dsimp only
  rw [hok]
  exact ⟨_, rfl, hsound⟩

/-- **A command gets its reply**, whatever the threads do in the meantime. -/
lemma Serves.ask (h : e.Serves fun _ => Managed.Idle) {id : StrategyId} {m : ManagerId}
    (hid : e.managers.lookup id = some m) {command : OMEvent}
    (hcommand : command.hasPromise = true) (waiting : Awaiting) :
    ∃ e' reply, e.ask m command waiting = .ok (e', some reply) ∧ command.Takes reply ∧
      (e'.Serves fun _ => Managed.Idle) ∧ e'.managers = e.managers := by
  obtain ⟨⟨e', asked⟩, hok, hsound⟩ := ask_of_sound h.feeds m command waiting
  obtain ⟨⟨reply, hreply, htakes⟩, hkeeps⟩ := ask_spec (h.managers id m hid) hcommand hok
  dsimp only at hsound hreply hkeeps
  subst hreply
  exact ⟨e', reply, hok, htakes, h.of_keeps hkeeps hsound, hkeeps.managers_eq⟩

/-! ### The kill switch -/

/-- `cancel_all` returns. -/
lemma Serves.cancelAll (h : e.Serves fun _ => Managed.Idle) {id : StrategyId} {m : ManagerId}
    (hid : e.managers.lookup id = some m) (reason initiatedBy : String) (env : RequestEnv) :
    ∃ e', Engine.cancelAll reason initiatedBy env (e, true) m = .ok (e', true) ∧
      (e'.Serves fun _ => Managed.Idle) ∧ e'.managers = e.managers := by
  have hcommand : (OMEvent.cancelAllCommand reason initiatedBy).hasPromise = true := rfl
  obtain ⟨e', reply, hok, -, hserves, hmanagers⟩ := h.ask hid hcommand (env.waiting m)
  refine ⟨e', ?_, hserves, hmanagers⟩
  unfold Engine.cancelAll
  rw [if_pos rfl, hok]
  rfl

/-- The kill switch stops an order manager. -/
lemma Serves.haltManager (h : e.Serves fun _ => Managed.Idle) {id : StrategyId} {m : ManagerId}
    (hid : e.managers.lookup id = some m) (reason initiatedBy : String) (env : RequestEnv) :
    ∃ e', Engine.haltManager reason initiatedBy env (e, true) m = .ok (e', true) ∧
      (e'.Serves fun _ => Managed.Idle) ∧ e'.managers = e.managers := by
  obtain ⟨e', hok, hserves, hmanagers⟩ := h.cancelAll hid reason initiatedBy env
  refine ⟨e'.unregisterManager m, ?_, hserves.unregisterManager m, hmanagers⟩
  unfold Engine.haltManager
  rw [hok]
  rfl

/-- A loop over the order managers that calls each and returns. -/
lemma Serves.foldlM (env : RequestEnv)
    {call : Engine × Bool → ManagerId → Except Crash (Engine × Bool)}
    (hcall : ∀ e id m, (e.Serves fun _ => Managed.Idle) → e.managers.lookup id = some m →
      ∃ e', call (e, true) m = .ok (e', true) ∧ (e'.Serves fun _ => Managed.Idle) ∧
        e'.managers = e.managers) (h : e.Serves fun _ => Managed.Idle) :
    ∃ e', (e.managerIds env).foldlM call (e, true) = .ok (e', true) ∧
      (e'.Serves fun _ => Managed.Idle) ∧ e'.managers = e.managers := by
  have hcalls : ∀ (state : Engine × Bool) (m : ManagerId),
      (state.2 = true ∧ (state.1.Serves fun _ => Managed.Idle) ∧ state.1.managers = e.managers) →
      m ∈ e.managerIds env → ∃ state', call state m = .ok state' ∧ state'.2 = true ∧
        (state'.1.Serves fun _ => Managed.Idle) ∧ state'.1.managers = e.managers := by
    rintro ⟨e', ready⟩ m ⟨hready, hserves, hmanagers⟩ hm
    obtain ⟨id, hid⟩ := exists_of_mem_managerIds hm
    dsimp only at hready hserves hmanagers
    subst hready
    obtain ⟨e'', hok, hserves', hmanagers'⟩ := hcall e' id m hserves (hmanagers ▸ hid)
    exact ⟨(e'', true), hok, rfl, hserves', hmanagers'.trans hmanagers⟩
  obtain ⟨⟨e', ready⟩, hok, hready, hserves, hmanagers⟩ :=
    Trajectory.foldlM_ok_of_invariant hcalls (s := (e, true)) ⟨rfl, h, rfl⟩
  dsimp only at hready hserves hmanagers
  subst hready
  exact ⟨e', hok, hserves, hmanagers⟩

/-- Order managers are destroyed and are not registered any more. -/
lemma Serves.closeManagers (h : e.Serves fun _ => Managed.Idle) (env : RequestEnv)
    (ms : List ManagerId) (managers : AList fun _ : StrategyId => ManagerId)
    (hsub : ∀ id m, managers.lookup id = some m → e.managers.lookup id = some m ∧ m ∉ ms) :
    Serves (fun _ => Managed.Idle) { (e.closeManagers env ms).1 with managers := managers } := by
  obtain ⟨hspares, -⟩ := e.closeManagers_spec env ms
  have hclosed := h.registered.closeManagers env ms hsub
  refine ⟨hclosed.idle, hclosed.distinct, fun id m hid => ?_, hspares.feedRegistry_eq ▸ h.feeds⟩
  obtain ⟨hold, hm⟩ := hsub id m hid
  exact (congrArg ReportDispatcher.stop (hspares.dispatchers_eq m hm)).trans (h.gateways id m hold)

/-- The order managers that a kill switch destroys. -/
def toDestroy (e : Engine) (req : V1.KillSwitchRequest) (env : RequestEnv) : List ManagerId :=
  match req.mode with
  | .haltAll => e.managerIds env
  | .stopStrategy => (e.managers.lookup req.strategyId).toList
  | .unrecognized _ => []

/-- The gateway of each order manager that the kill switch destroys, after all of them were halted,
is notified of its stop in time. -/
def StopsGatewaysInTime (e : Engine) (req : V1.KillSwitchRequest) (env : RequestEnv) : Prop :=
  ∀ halted, (e.toDestroy req env).foldlM (haltManager req.reason req.initiatedBy env) (e, true) =
    .ok (halted, true) →
    ∀ m ∈ e.toDestroy req env, (halted.dispatchers m).StopsInTime (env.closing m).meanwhile

/-- The order managers that a kill switch destroys are distinct, and their gateways run. -/
lemma Serves.toDestroy (h : e.Serves fun _ => Managed.Idle) (req : V1.KillSwitchRequest)
    (env : RequestEnv) :
    (e.toDestroy req env).Nodup ∧
      ∀ m ∈ e.toDestroy req env, ∃ id, e.managers.lookup id = some m := by
  unfold Engine.toDestroy
  cases req.mode with
  | haltAll =>
    refine ⟨?_, fun m => exists_of_mem_managerIds⟩
    exact (env.order_perm _).nodup_iff.mpr (FiniteMap.nodup_values h.distinct)
  | stopStrategy =>
    refine ⟨?_, fun m hm => ⟨_, Option.mem_toList.mp hm⟩⟩
    cases e.managers.lookup req.strategyId with
    | none => exact List.nodup_nil
    | some m => exact List.nodup_singleton m
  | unrecognized n => exact ⟨List.nodup_nil, fun m hm => absurd hm List.not_mem_nil⟩

/-- The order managers are destroyed when their gateways are stopped in time. -/
lemma Serves.closeManagers_ready (h : e.Serves fun _ => Managed.Idle) (env : RequestEnv)
    {ms : List ManagerId} (hnodup : ms.Nodup)
    (hids : ∀ m ∈ ms, ∃ id, e.managers.lookup id = some m)
    (hintime : ∀ m ∈ ms, (e.dispatchers m).StopsInTime (env.closing m).meanwhile) :
    (e.closeManagers env ms).2 = true := by
  refine (e.closeManagers_spec env ms).2 hnodup fun m hm => ⟨?_, hintime m hm⟩
  obtain ⟨id, hid⟩ := hids m hm
  exact h.gateways id m hid

/-- **`ActivateKillSwitch` returns**, when the mode is one of the two and the gateways that it stops
are notified in time. -/
lemma Serves.activateKillSwitch (h : e.Serves fun _ => Managed.Idle) {req : V1.KillSwitchRequest}
    (hmode : req.mode = .stopStrategy ∨ req.mode = .haltAll) (env : RequestEnv)
    (hintime : e.StopsGatewaysInTime req env) :
    ∃ e' result, e.activateKillSwitch req env = .ok (e', some result) ∧
      e'.Serves fun _ => Managed.Idle := by
  obtain ⟨hnodup, hids⟩ := h.toDestroy req env
  unfold StopsGatewaysInTime at hintime
  unfold Engine.toDestroy at hintime hnodup hids
  unfold Engine.activateKillSwitch
  rcases hmode with hmode | hmode
  · rw [hmode] at hintime ⊢
    dsimp only at hintime ⊢
    unfold Engine.stopStrategy
    cases hid : e.managers.lookup req.strategyId with
    | none => exact ⟨e, _, rfl, h⟩
    | some m =>
      obtain ⟨e', hok, hserves, hmanagers⟩ := h.haltManager hid req.reason req.initiatedBy env
      have hstops := hintime e' (by rw [hid, Option.toList_some, List.foldlM_cons, hok]; rfl)
      rw [hid, Option.toList_some] at hstops
      have hready := hserves.closeManagers_ready env (List.nodup_singleton m)
        (fun m' hm' => ⟨req.strategyId, by rw [hmanagers, List.mem_singleton.mp hm', hid]⟩) hstops
      dsimp only
      rw [hok]
      refine ⟨_, .ok (), congrArg Except.ok (Prod.ext rfl (if_pos hready)), ?_⟩
      refine hserves.closeManagers env [m] (e'.managers.erase req.strategyId)
        fun id m' hid' => ?_
      rw [hmanagers, FiniteMap.lookup_erase_eq] at hid'
      split_ifs at hid' with hsame
      refine ⟨hmanagers ▸ hid', fun hm => hsame ?_⟩
      rw [List.mem_singleton.mp hm] at hid'
      exact h.distinct id req.strategyId m hid' hid
  · rw [hmode] at hintime hnodup hids ⊢
    dsimp only at hintime hnodup hids ⊢
    unfold Engine.haltAll
    obtain ⟨e', hok, hserves, hmanagers⟩ :=
      h.foldlM env fun _ _ _ he hid => he.haltManager hid req.reason req.initiatedBy env
    have hready := hserves.closeManagers_ready env hnodup
      (fun m hm => hmanagers ▸ hids m hm) (hintime e' hok)
    rw [hok]
    refine ⟨_, .ok (), congrArg Except.ok (Prod.ext rfl (if_pos hready)), ?_⟩
    refine hserves.closeManagers env (e.managerIds env) ∅ fun id m hid => ?_
    rw [AList.lookup_empty] at hid
    cases hid

/-! ### Orders -/

/-- A request takes a result from every reply to its command. -/
lemma isSome_resultOf {request : Request} {reply : Reply} (h : request.command.Takes reply) :
    ∃ result, request.resultOf reply = some result := by
  cases request <;> cases reply <;> first | exact ⟨_, rfl⟩ | exact h.elim

/-- **`SubmitSignal`, `CancelOrder` and `ReplaceOrder` return.** -/
lemma Serves.order (h : e.Serves fun _ => Managed.Idle) (request : Request) (env : RequestEnv) :
    ∃ e' result, e.order request env = .ok (e', some result) ∧ e'.Serves fun _ => Managed.Idle := by
  unfold Engine.order
  cases hid : e.managers.lookup request.strategyId with
  | none => exact ⟨e, _, rfl, h⟩
  | some m =>
    have hcommand : request.command.hasPromise = true := by cases request <;> rfl
    obtain ⟨e', reply, hok, htakes, hserves, -⟩ := h.ask hid hcommand (env.waiting m)
    obtain ⟨result, hresult⟩ := isSome_resultOf htakes
    refine ⟨e', result, ?_, hserves⟩
    dsimp only
    rw [hok]
    exact congrArg (fun r => Except.ok (e', r)) hresult

/-! ### Registrations -/

/-- A new order manager. -/
lemma Serves.emplaceManager (h : e.Serves fun _ => Managed.Idle)
    (req : V1.RegisterStrategyRequest) (env : RegistrationEnv) :
    (e.emplaceManager req env).Serves fun _ => Managed.Idle := by
  have hemplaced := h.registered.emplaceManager req env
  refine ⟨hemplaced.idle, hemplaced.distinct, fun id m hid => ?_, h.feeds⟩
  rw [lookup_emplaceManager] at hid
  unfold Engine.emplaceManager
  dsimp only
  split_ifs at hid with hsame
  · obtain rfl := Option.some.inj hid
    rw [Function.update_self]
  · rw [Function.update_of_ne (h.registered.lt_length hid).ne]
    exact h.gateways id m hid

/-- The feed is set up, unless it is one of an adapter. -/
lemma Serves.setupFeed {I : ManagerId → Managed → Prop} (h : e.Serves I)
    (req : V1.RegisterStrategyRequest) (env : RegistrationEnv) {feed : V1.Feed}
    (hfeed : feed ≠ .adapterFeed) :
    (e.setupFeed req env feed).1.Serves I ∧
      ∃ result, (e.setupFeed req env feed).2 = .returned result ∧
        (result = .ok () → ∃ f, e.feedFor req feed = some f ∧
          (e.setupFeed req env feed).1.feedRegistry.feeds.lookup ⟨feed, req.accountId⟩ =
            some f) := by
  unfold Engine.setupFeed Engine.feedFor
  by_cases hhas : e.feedRegistry.hasFeed ⟨feed, req.accountId⟩
  · obtain ⟨f, hf⟩ := Option.isSome_iff_exists.mp (AList.lookup_isSome.mpr hhas)
    rw [if_pos hhas, hf]
    exact ⟨h, _, rfl, fun _ => ⟨f, rfl, rfl⟩⟩
  rw [if_neg hhas, AList.lookup_eq_none.mpr hhas, Option.none_or]
  cases feed with
  | simulatedFeed =>
    refine ⟨⟨h.managers, h.distinct, h.gateways, ?_⟩, _, rfl, fun _ => ⟨_, rfl, ?_⟩⟩
    · refine h.feeds.registerFeed _ fun f hf => ?_
      obtain rfl := MarketDataFeed.simulated.inj hf
      exact SimulatedFeed.sound_start
    · unfold FeedRegistry.registerFeed
      rw [if_neg hhas]
      exact AList.lookup_insert _
  | adapterFeed => exact absurd rfl hfeed
  | alpacaFeed => exact ⟨h, _, rfl, fun hok => by cases hok⟩
  | unrecognized n => exact ⟨h, _, rfl, fun hok => by cases hok⟩

/-- The market data is set up, when the feed takes the subscriptions. -/
lemma Serves.setupMarketData {I : ManagerId → Managed → Prop} (h : e.Serves I)
    {req : V1.RegisterStrategyRequest} (env : RegistrationEnv) (m : ManagerId)
    (hfeed : ∀ marketData, req.marketData = some marketData → marketData.feed ≠ .adapterFeed)
    (htakes : ∀ marketData, req.marketData = some marketData →
      e.TakesSubscriptions req marketData) :
    (e.setupMarketData req env m).1.Serves I ∧
      ∃ result, (e.setupMarketData req env m).2 = .returned result := by
  unfold Engine.setupMarketData
  cases hmarketData : req.marketData with
  | none => exact ⟨h, _, rfl⟩
  | some marketData =>
    obtain ⟨hserves, result, hresult, hlookup⟩ := h.setupFeed req env (hfeed _ hmarketData)
    dsimp only
    rw [hresult]
    cases result with
    | error err => exact ⟨hserves, _, rfl⟩
    | ok u =>
      obtain ⟨f, hf, hlookup⟩ := hlookup rfl
      exact ⟨⟨hserves.managers, hserves.distinct, hserves.gateways,
        hserves.feeds.registerSubscriptions m hlookup
        (htakes _ hmarketData f hf)⟩, _, rfl⟩

/-- **`RegisterStrategy` returns**, without adapters, and it leaves no period that is zero behind
when the feed takes the subscriptions. -/
lemma Serves.registerStrategy (h : e.Serves fun _ => Managed.Idle)
    {req : V1.RegisterStrategyRequest} (env : RegistrationEnv)
    (hfeed : ∀ marketData, req.marketData = some marketData → marketData.feed ≠ .adapterFeed)
    (htakes : e.CreatesManager req env → ∀ marketData, req.marketData = some marketData →
      e.TakesSubscriptions req marketData) :
    ((e.registerStrategy req env).1.Serves fun _ => Managed.Idle) ∧
      ∃ result, (e.registerStrategy req env).2 = .returned result := by
  obtain ⟨⟨hengine, hregistry⟩, hgateway, -⟩ := e.setupGateway_spec req env
  have hserves : (e.setupGateway req env).1.Serves fun _ => Managed.Idle :=
    ⟨hengine ▸ h.managers, hengine ▸ h.distinct,
      hengine ▸ (e.dispatchers_setupGateway req env).symm ▸ h.gateways, hregistry ▸ h.feeds⟩
  unfold Engine.registerStrategy createStrategy
  by_cases hid : req.strategyId ∈ e.managers
  · rw [if_pos hid]
    exact ⟨h, _, rfl⟩
  rw [if_neg hid, if_neg hid]
  dsimp only
  cases hsetup : (e.setupGateway req env).2 with
  | error err => exact ⟨hserves, _, rfl⟩
  | ok u =>
    cases hfault : env.managerFault with
    | some what => exact ⟨hserves, _, rfl⟩
    | none =>
      apply (hserves.emplaceManager req env).setupMarketData env _ hfeed
      intro marketData hmarketData
      have htaken := htakes ⟨hid, hgateway.mp hsetup, hfault⟩ marketData hmarketData
      unfold TakesSubscriptions feedFor at htaken ⊢
      unfold Engine.emplaceManager
      rw [hregistry]
      exact htaken

end Engine

/-! ## The process -/

/-- The request uses no adapter: its gateway is the paper gateway and its feed the simulated one,
unless they do not exist. -/
def V1.RegisterStrategyRequest.OnPaper (req : V1.RegisterStrategyRequest) : Prop :=
  req.gateway ≠ .grpcAdapterGW ∧
    ∀ marketData, req.marketData = some marketData → marketData.feed ≠ .adapterFeed

/-- The step is no registration with an adapter. -/
def ServerAction.OnPaper : ServerAction → Prop
  | .request (.registerStrategy req) _ => req.OnPaper
  | _ => True

namespace Server

/-- The process goes on, and every request so far was answered. -/
structure Answers (s : Server) : Prop where
  fault : s.fault = none
  served : ∀ served ∈ s.served, served.2.isSome = true

/-- The step is no kill switch with an unknown mode or one that notifies a dispatcher of its stop
between its test and its block, and no registration of a strategy that subscribes to a bar whose
period cannot be read. -/
def Harmless (s : Server) : ServerAction → Prop
  | .request (.registerStrategy req) env =>
    s.engine.CreatesManager req env.registration →
      ∀ marketData, req.marketData = some marketData → s.engine.TakesSubscriptions req marketData
  | .request (.activateKillSwitch req) env =>
    (req.mode = .stopStrategy ∨ req.mode = .haltAll) ∧ s.engine.StopsGatewaysInTime req env
  | _ => True

variable {s : Server}

/-- What the runs without harmful steps keep. -/
structure Undisturbed (s : Server) : Prop extends s.Answers where
  serves : s.engine.Serves fun _ => Managed.Idle
  unlocked : s.locked = false

/-- A request that is harmless is answered. -/
lemma Undisturbed.receive {request : ClientRequest} {env : RequestEnv} (h : s.Undisturbed)
    (hpaper : (ServerAction.request request env).OnPaper)
    (hharmless : s.Harmless (.request request env)) : (s.receive request env).Undisturbed := by
  have hserved : ∃ e' result, s.engine.serve env request = .ok (e', some result) ∧
      e'.Serves fun _ => Managed.Idle := by
    unfold Engine.serve
    cases request with
    | registerStrategy req =>
      obtain ⟨hserves', result, hresult⟩ :=
        h.serves.registerStrategy env.registration hpaper.2 hharmless
      refine ⟨_, result, ?_, hserves'⟩
      dsimp only
      rw [hresult]
      rfl
    | order request => exact h.serves.order request env
    | activateKillSwitch req => exact h.serves.activateKillSwitch hharmless.1 env hharmless.2
  obtain ⟨e', result, hok, hserves'⟩ := hserved
  unfold Server.receive
  rw [if_neg (by rw [h.unlocked]; decide), hok]
  refine { fault := h.fault, served := fun served hmem => ?_, serves := hserves', unlocked := ?_ }
  · rcases List.mem_append.mp hmem with hold | hnew
    · exact h.served served hold
    · rw [List.mem_singleton.mp hnew]
      rfl
  · exact Bool.and_false _

/-- **Step lemma.**  A harmless step. -/
theorem Undisturbed.step {a : ServerAction} (h : s.Undisturbed) (ha : a.OnPaper ∧ s.Harmless a) :
    (s.step a).Undisturbed := by
  unfold Server.step
  split_ifs with hended
  · exact h
  cases a with
  | request request env => exact h.receive ha.1 ha.2
  | thread t =>
    obtain ⟨e', hok, hsound⟩ := Engine.threadStep_of_sound h.serves.feeds t
    have hkeeps := Engine.keeps_threadStep (fun _ => Managed.kept_idle) hok
    dsimp only
    unfold Server.runThread
    rw [hok]
    exact ⟨⟨h.fault, h.served⟩, h.serves.of_keeps hkeeps hsound, h.unlocked⟩
  | shutDown env =>
    dsimp only
    unfold Server.shutDown
    split_ifs
    · exact h
    · obtain ⟨e', hok, hserves', -⟩ := h.serves.foldlM env fun _ _ _ he hid =>
        he.cancelAll hid "Shutting down" "SIGINT/SIGTERM" env
      rw [hok]
      exact ⟨⟨h.fault, h.served⟩, hserves', h.unlocked⟩

end Server

/-- **Every request is answered and the process goes on**, in a run in which the mode of every kill
switch is known, the gateways that it stops are notified in time, and every bar that a new strategy
subscribes to has a period that can be read. -/
theorem requests_answered (actions : List ServerAction) (hpaper : ∀ a ∈ actions, a.OnPaper)
    (hharmless : Trajectory.AllSteps Server.step Server.Harmless {} actions) :
    Trajectory.EveryState Server.step Server.Answers {} actions := by
  have hadmissible : Trajectory.AllSteps Server.step
      (fun s a => a.OnPaper ∧ s.Harmless a) {} actions :=
    Trajectory.allSteps_and.mpr ⟨Trajectory.allSteps_of_forall hpaper, hharmless⟩
  have hinv := Trajectory.everyState_of_invariant (fun _ _ h ha => Server.Undisturbed.step h ha)
    ⟨⟨rfl, by simp⟩, Engine.serves_start, rfl⟩ hadmissible
  exact hinv.mono fun _ h => h.toAnswers

/-- The surroundings of a request in which nothing fails. -/
def RequestEnv.quiet : RequestEnv where
  waiting := fun _ => { surroundings := fun _ => (.quiet, .accepting "B1") }
  closing := fun _ => { surroundings := fun _ => (.quiet, .accepting "B1") }
  order := id
  order_perm := List.Perm.refl

/-- A strategy that gets the ticks and the bars of a symbol. -/
def goodPeriod : V1.RegisterStrategyRequest where
  strategyId := "S"
  accountId := "A"
  marketData := some { subscriptions := [⟨"AAPL", some "5m"⟩, ⟨"AAPL", none⟩] }

/-- The strategy is registered, the feed makes a round, an order is sent and all is halted. -/
def quietRun : List ServerAction :=
  [.request (.registerStrategy goodPeriod) .quiet,
    .thread (.beginRound ⟨.simulatedFeed, "A"⟩ 1700000000000000000),
    .thread (.emit ⟨.simulatedFeed, "A"⟩ 0),
    .request (.order (.submitSignal
      { strategyId := "S", symbol := "AAPL", side := .buy, targetQuantity := 1 })) .quiet,
    .request (.activateKillSwitch { mode := .haltAll }) .quiet,
    .shutDown .quiet]

/-- Every request of that run is answered. -/
theorem requests_answered_quietRun :
    Trajectory.EveryState Server.step Server.Answers {} quietRun := by
  refine requests_answered quietRun ?_
    ⟨?_, trivial, trivial, trivial, ⟨Or.inr rfl, ?_⟩, trivial, trivial⟩
  · unfold quietRun
    simp only [List.forall_mem_cons, ServerAction.OnPaper, true_and]
    refine ⟨⟨by decide, fun marketData h => ?_⟩, fun a ha => absurd ha List.not_mem_nil⟩
    obtain rfl := Option.some.inj h
    decide
  · intro _ marketData h feed hfeed sub hsub f hf p hp
    obtain rfl := Option.some.inj h
    rcases List.mem_pair.mp hsub with rfl | rfl
    · obtain rfl := Option.some.inj hp
      exact Or.inl ⟨300000000000, by decide +kernel⟩
    · cases hp
  · intro halted h m hm
    obtain rfl := congrArg Prod.fst (Except.ok.inj h)
    obtain rfl : m = 0 := List.mem_singleton.mp hm
    decide +kernel

/-- A kill switch with an unknown mode. -/
def badModeRun : List ServerAction :=
  [.request (.activateKillSwitch { mode := .unrecognized 2 }) .quiet]

/-- The registration of a strategy that subscribes to bars of a period without a unit, and a round
of the feed. -/
def badPeriodRun : List ServerAction :=
  [.request (.registerStrategy Engine.badPeriod) .quiet,
    .thread (.beginRound ⟨.simulatedFeed, "A"⟩ 1700000000000000000),
    .thread (.emit ⟨.simulatedFeed, "A"⟩ 0)]

/-- The kill switch notifies the dispatcher of its stop between its test and its block. -/
def lostNotification : RequestEnv :=
  { RequestEnv.quiet with
    closing := fun _ =>
      { meanwhile := [.dispatch, .stop, .stop, .dispatch]
        surroundings := fun _ => (.quiet, .accepting "B1") } }

/-- A strategy is registered and then stopped, while the dispatcher of its gateway goes to sleep. -/
def lostNotificationRun : List ServerAction :=
  [.request (.registerStrategy { strategyId := "S", accountId := "A" }) .quiet,
    .request (.activateKillSwitch { mode := .stopStrategy, strategyId := "S" }) lostNotification]

/-- Requests bring the engine down, at once or later on, or are never answered. -/
theorem requests_crash :
    (Trajectory.run Server.step {} badModeRun).fault = some .terminate ∧
      (Trajectory.run Server.step {} badPeriodRun).fault = some .divisionByZero ∧
      (Trajectory.run Server.step {} lostNotificationRun).served.map
        (fun served => served.2.isSome) =
        [true, false] ∧
      ¬ ∀ actions : List ServerAction, (∀ a ∈ actions, a.OnPaper) →
        Trajectory.EveryState Server.step Server.Answers {} actions := by
  have hterminate : (Trajectory.run Server.step {} badModeRun).fault = some .terminate := by rfl
  have hdivision : (Trajectory.run Server.step {} badPeriodRun).fault = some .divisionByZero := by
    decide +kernel
  refine ⟨hterminate, hdivision, by decide +kernel, fun h => ?_⟩
  have hanswers := (h badModeRun (by simp [badModeRun, ServerAction.OnPaper])).last
  rw [hanswers.fault] at hterminate
  cases hterminate

end Quarcc
