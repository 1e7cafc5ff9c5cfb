import QuarccEngine.Grpc.Sinks
import QuarccEngine.Library.Channels
import QuarccEngine.TradingEngine.Completion
import QuarccEngine.TradingEngine.Routing

/-!
# Market data on its way

The way of a tick or a bar from a feed to the client of a strategy: the feed registry hands it to
the order managers that have subscribed, each puts it into its queue unless the queue is full, and
its dispatch thread calls the sink that is installed then, if any.  Strategies are registered and
stopped in the meantime, and clients open and close their streams.

What an order manager hands to its clients is compared with what it has subscribed to.  It is always
a part of that, in the order in which the feeds have handed it on; and the way is a channel
(`Channel.Move`) that loses something exactly when the queue is full or no sink is installed.
-/

namespace Quarcc

/-! ## Ticks and bars -/

/-- A tick or a bar. -/
inductive MarketEvent where
  | bar (b : Bar)
  | tick (t : Tick)

namespace MarketEvent

/-- Its symbol. -/
def symbol : MarketEvent → String
  | .bar b => b.symbol
  | .tick t => t.symbol

/-- The period of a bar. -/
def period : MarketEvent → Option String
  | .bar b => some b.period
  | .tick _ => none

/-- As an event of the queue of an order manager. -/
def event : MarketEvent → OMEvent
  | .bar b => .bar b
  | .tick t => .tick t

end MarketEvent

/-- The tick or the bar of an event. -/
def OMEvent.marketEvent : OMEvent → Option MarketEvent
  | .bar b => some (.bar b)
  | .tick t => some (.tick t)
  | .executionReport _ | .submitCommand _ | .cancelCommand _ | .replaceCommand _
  | .cancelAllCommand _ _ => none

/-- The tick or the bar that a sink is called with. -/
def SinkCall.marketEvent : SinkCall → Option MarketEvent
  | .bar _ b => some (.bar b)
  | .tick _ t => some (.tick t)
  | .fill _ _ => none

/-- A sink is installed for the tick or the bar. -/
def Sinks.Takes (sinks : Sinks) : MarketEvent → Prop
  | .bar _ => sinks.bar.isSome
  | .tick _ => sinks.tick.isSome

instance (sinks : Sinks) : (x : MarketEvent) → Decidable (sinks.Takes x)
  | .bar _ => inferInstanceAs (Decidable (_ = true))
  | .tick _ => inferInstanceAs (Decidable (_ = true))

@[simp] lemma MarketEvent.marketEvent_event (x : MarketEvent) : x.event.marketEvent = some x := by
  cases x <;> rfl

/-- The event is that of its tick or bar. -/
lemma OMEvent.event_of_marketEvent {event : OMEvent} {x : MarketEvent}
    (h : event.marketEvent = some x) : event = x.event := by
  cases event with
  | bar b =>
    obtain rfl := Option.some.inj h
    rfl
  | tick t =>
    obtain rfl := Option.some.inj h
    rfl
  | _ => cases h

/-! ## The engine with its feeds -/

/-- What a feed has handed on, with the subscriptions at that moment. -/
structure Publication where
  feed : FeedKey
  event : MarketEvent
  subscriptions : List Subscription

/-- How often the order manager has subscribed to it. -/
def Publication.copies (p : Publication) (m : ManagerId) : ℕ :=
  p.subscriptions.count ⟨p.feed, p.event.symbol, p.event.period, m⟩

/-- The engine with its feed registry. -/
structure FedEngine where
  engine : Engine := {}
  /-- The subscriptions of the order managers that are in the tables; this is only a record. -/
  subscriptions : List Subscription := []
  /-- What the feeds have handed on; this is only a record. -/
  published : List Publication := []

/-- A step of a thread of the engine. -/
inductive FedAction where
  | register (req : V1.RegisterStrategyRequest) (env : RegistrationEnv)
  /-- A feed hands on a tick or a bar. -/
  | publish (feed : FeedKey) (event : MarketEvent)
  /-- The other requests, the gateways, the dispatch threads and the kill switch. -/
  | thread (action : Action)
  /-- A client opens a stream of market data. -/
  | setSinks (m : ManagerId) (sink : SinkId)
  /-- A client closes one. -/
  | clearSinks (m : ManagerId)

/-- The step neither registers a strategy nor hands on market data. -/
def Action.leavesFeeds : Action → Bool
  | .registerStrategy _ _ _ _ => false
  | .deliver _ event => event.marketEvent.isNone
  | _ => true

/-- `on_bar` or `on_tick`. -/
def Engine.publish (feed : FeedKey) (e : Engine) : MarketEvent → Engine
  | .bar b => e.onBar feed b
  | .tick t => e.onTick feed t

/-- The order manager whose `cancel_all` returns to the kill switch in this step.  The kill switch
takes it out of the tables at once. -/
def TradingEngine.unregisters (e : TradingEngine) : Action → Option ManagerId
  | .proceed =>
    match e.killSwitch.map KillSwitch.todo with
    | some (.await m :: _) => if e.Halted m then some m else none
    | _ => none
  | _ => none

namespace FedEngine

/-- `RegisterStrategy`, unless a kill switch holds the lock. -/
def register (s : FedEngine) (req : V1.RegisterStrategyRequest) (env : RegistrationEnv) :
    FedEngine :=
  if s.engine.killSwitch.isNone then
    { s with
      engine := (s.engine.registerStrategy req env).1
      subscriptions := s.subscriptions ++ s.engine.newSubscriptions req env }
  else s

/-- What a feed hands on now. -/
def publication (s : FedEngine) (feed : FeedKey) (event : MarketEvent) : Publication :=
  ⟨feed, event, s.subscriptions⟩

/-- A feed hands on a tick or a bar. -/
def publish (s : FedEngine) (feed : FeedKey) (event : MarketEvent) : FedEngine :=
  { s with
    engine := s.engine.publish feed event
    published := s.published ++ [s.publication feed event] }

/-- A step that leaves the feeds alone, and `unregister_manager` if it is due. -/
def thread (s : FedEngine) (a : Action) : FedEngine :=
  if a.leavesFeeds then
    let engine := { s.engine with toTradingEngine := s.engine.toTradingEngine.step a }
    match s.engine.unregisters a with
    | some m =>
      { s with
        engine := engine.unregisterManager m
        subscriptions := s.subscriptions.filter fun sub => sub.manager ≠ m }
    | none => { s with engine := engine }
  else s

/-- The engine after a step. -/
def step (s : FedEngine) : FedAction → FedEngine
  | .register req env => s.register req env
  | .publish feed event => s.publish feed event
  | .thread a => s.thread a
  | .setSinks m sink =>
    { s with engine := s.engine.modifyManager m (Managed.setSinks · .marketData sink) }
  | .clearSinks m =>
    { s with engine := s.engine.modifyManager m (Managed.clearSinks · .marketData) }

end FedEngine

/-! ## What is kept and what was sent -/

namespace Managed

/-- The ticks and bars that the sinks were called with. -/
def streamed (o : Managed) : List MarketEvent := o.sinkCalls.filterMap SinkCall.marketEvent

/-- The ticks and bars that are handled now or wait in the queue. -/
def awaiting (o : Managed) : List MarketEvent := o.waiting.filterMap OMEvent.marketEvent

/-- The ticks and bars that were not lost so far. -/
def kept (o : Managed) : List MarketEvent := o.streamed ++ o.awaiting

end Managed

namespace FedEngine

/-- What the order manager has subscribed to of what the feeds have handed on, once for every
subscription. -/
def sent (s : FedEngine) (m : ManagerId) : List MarketEvent :=
  s.published.flatMap fun p => List.replicate (p.copies m) p.event

/-- The order manager has kept nothing but what it has subscribed to, in the order in which it was
handed on. -/
def KeepsInOrder (m : ManagerId) (s : FedEngine) : Prop :=
  ∀ o, s.engine.objects[m]? = some o → o.kept.Sublist (s.sent m)

/-- The order manager has kept all that it has subscribed to. -/
def KeepsAll (m : ManagerId) (s : FedEngine) : Prop :=
  ∀ o, s.engine.objects[m]? = some o → o.kept = s.sent m

/-- No market data of the order manager meets a full queue in this step, and none is handled while
there is no sink for it. -/
def LosesNothing (m : ManagerId) (s : FedEngine) : FedAction → Prop
  | .publish feed event => ∀ o ∈ s.engine.objects[m]?,
    (s.publication feed event).copies m = 0 ∨
      o.queue.q.length + (s.publication feed event).copies m ≤
        maxMarketDataQueueDepth
  | .thread (.finish m' _ _) => m' = m → ∀ o ∈ s.engine.objects[m]?,
    ∀ event ∈ o.handling, ∀ x ∈ event.marketEvent, o.sinks.Takes x
  | _ => True

end FedEngine

/-! ## Handling an event -/

/-- The ticks and bars that the sinks were called with. -/
def OrderManager.marketCalls (s : OrderManager) : List MarketEvent :=
  s.sinkCalls.filterMap SinkCall.marketEvent

namespace OrderManager

variable {s : OrderManager}

/-- Where the outlets are the same, the calls are. -/
lemma marketCalls_of_outlets {s' : OrderManager} (h : s'.outlets = s.outlets) :
    s'.marketCalls = s.marketCalls :=
  congrArg (List.filterMap SinkCall.marketEvent) (Prod.mk.inj h).2

/-- The fill sink gets no market data. -/
lemma marketCalls_notifyFillSink {s' : OrderManager} (h : s'.outlets = s.outlets)
    (fill : V1.ExecutionReport) : (s'.notifyFillSink fill).marketCalls = s.marketCalls := by
  rw [← marketCalls_of_outlets h]
  unfold notifyFillSink
  split
  · unfold marketCalls
    rw [List.filterMap_append]
    exact List.append_nil _
  · rfl

/-- A report is handled without market data. -/
lemma marketCalls_handleFill (env : Env) (fill : V1.ExecutionReport) :
    (s.handleFill env fill).marketCalls = s.marketCalls := by
  unfold handleFill
  split
  · rfl
  next localId _ =>
    split_ifs
    · unfold closeOrder
      dsimp only
      refine marketCalls_notifyFillSink ?_ fill
      rw [removeMapping_outlets, logFailure_outlets, updateOrderStatus_outlets]
    · have hread := s.getOrder_outlets env localId
      generalize s.getOrder env localId = read at hread ⊢
      obtain ⟨s₁, e | stored⟩ := read
      · exact marketCalls_of_outlets hread
      · dsimp only at hread ⊢
        unfold recordFill
        dsimp only
        refine marketCalls_notifyFillSink ?_ fill
        split_ifs <;> simpa using hread

/-- So is everything but market data. -/
lemma marketCalls_dispatch_other {i : Input} (h : i.event.marketEvent = none) :
    (dispatch s i).marketCalls = s.marketCalls := by
  obtain ⟨event, env, gateway⟩ := i
  cases event with
  | bar b | tick t => cases h
  | executionReport fill => exact marketCalls_handleFill env fill
  | submitCommand signal =>
    exact marketCalls_of_outlets (s.handleSubmitCommand_outlets env _ signal)
  | cancelCommand signal =>
    exact marketCalls_of_outlets (s.handleCancelCommand_outlets env _ signal)
  | replaceCommand signal =>
    exact marketCalls_of_outlets (s.handleReplaceCommand_outlets env _ signal)
  | cancelAllCommand reason initiatedBy =>
    exact marketCalls_of_outlets (s.handleCancelAllCommand_outlets env _ reason initiatedBy)

/-- A tick or a bar goes to the sink that is installed for it, if there is one. -/
lemma marketCalls_dispatch (x : MarketEvent) (env : Env) (gateway : GatewayAnswers) :
    (dispatch s ⟨x.event, env, gateway⟩).marketCalls =
      if s.sinks.Takes x then s.marketCalls ++ [x] else s.marketCalls := by
  cases x with
  | bar b =>
    change (s.handleBar b).marketCalls = _
    unfold handleBar Sinks.Takes sinks
    cases s.barSink with
    | none => rfl
    | some sink => simp [marketCalls, SinkCall.marketEvent]
  | tick t =>
    change (s.handleTick t).marketCalls = _
    unfold handleTick Sinks.Takes sinks
    cases s.tickSink with
    | none => rfl
    | some sink => simp [marketCalls, SinkCall.marketEvent]

end OrderManager

/-! ## What a step does to one order manager -/

namespace Managed

variable {o : Managed}

/-- A change that leaves the calls of the sinks and the events alone. -/
lemma kept_of_eq {o' : Managed} (hcalls : o'.sinkCalls = o.sinkCalls)
    (hwaiting : o'.waiting = o.waiting) : o'.kept = o.kept := by
  unfold kept streamed awaiting
  rw [hcalls, hwaiting]

/-- What is no market data comes in. -/
lemma kept_enqueue {event : OMEvent} (hevent : event.marketEvent = none) :
    (o.enqueue event).kept = o.kept := by
  rcases o.enqueue_cases event with hsame | ⟨queue, hqueue, hq⟩
  · rw [hsame]
  · rw [hqueue]
    unfold kept awaiting waiting
    dsimp only
    rcases hq with hq | hq
    · rw [hq]
      rfl
    · rw [hq, List.filterMap_append, List.filterMap_append, List.filterMap_append,
        List.filterMap_cons_none hevent, List.filterMap_nil, List.append_nil]
      rfl

/-- The next event is popped. -/
lemma kept_pop (o : Managed) : o.pop.kept = o.kept := by
  by_cases hloop : o.Looping
  · rcases pop_cases hloop with ⟨-, hsame⟩ | ⟨event, rest, hhandling, hq, hpop⟩
    · rw [hsame]
    · refine kept_of_eq ?_ ?_
      · rw [hpop]
      · unfold waiting
        rw [hpop, hhandling, hq]
        rfl
  · unfold pop
    rw [if_neg fun hready => hloop hready.1]

lemma kept_endLoop (o : Managed) : o.endLoop.kept = o.kept := by
  rcases o.endLoop_cases with hsame | ⟨-, -, hended⟩
  · rw [hsame]
  · rw [hended]
    rfl

lemma kept_stop (o : Managed) : o.stop.kept = o.kept := by
  rcases o.stop_cases with hsame | ⟨-, hstop⟩
  · rw [hsame]
  · rw [hstop]
    rfl

/-- A client opens a stream. -/
lemma kept_setSinks (o : Managed) (kind : StreamKind) (sink : SinkId) :
    (o.setSinks kind sink).kept = o.kept := by
  unfold setSinks
  split_ifs
  · rfl
  · exact kept_of_eq (o.account.1.sinkCalls_setSinks kind sink) rfl

/-- A client closes one. -/
lemma kept_clearSinks (o : Managed) (kind : StreamKind) : (o.clearSinks kind).kept = o.kept :=
  kept_of_eq (o.account.1.sinkCalls_clearSinks kind) rfl

/-- A handler returns.  The market data that it has handled is lost if there is no sink for it. -/
lemma kept_finish (env : Env) (gateway : GatewayAnswers) (sent : List MarketEvent) :
    Channel.Move (∀ event ∈ o.handling, ∀ x ∈ event.marketEvent, o.sinks.Takes x) o.kept sent
      (o.finish env gateway).kept sent := by
  rcases o.finish_cases env gateway with ⟨hnone, hsame⟩ | ⟨event, hevent, hfinish⟩
  · rw [hsame, hnone]
    exact .same (by simp)
  have hawaiting : o.awaiting =
      event.marketEvent.toList ++ o.queue.q.filterMap OMEvent.marketEvent := by
    unfold awaiting waiting
    rw [hevent]
    cases hmarket : event.marketEvent <;> simp [hmarket]
  have hafter : (o.finish env gateway).kept =
      (dispatch o.account.1 ⟨event, env, gateway⟩).marketCalls ++
        o.queue.q.filterMap OMEvent.marketEvent := by
    rw [hfinish]
    rfl
  rw [hafter, hevent]
  unfold kept
  rw [hawaiting]
  change Channel.Move _ (o.account.1.marketCalls ++ _) _ _ _
  cases hmarket : event.marketEvent with
  | none =>
    rw [OrderManager.marketCalls_dispatch_other hmarket]
    exact .same (by simp [hmarket])
  | some x =>
    obtain rfl := OMEvent.event_of_marketEvent hmarket
    rw [OrderManager.marketCalls_dispatch]
    split_ifs with htakes
    · rw [List.append_assoc]
      exact .same (by simpa using htakes)
    · exact .lose x rfl (by simpa using htakes)

/-- A tick or a bar comes in while the queue has room. -/
lemma enqueue_of_room (halive : o.phase ≠ .destroyed)
    (hroom : o.queue.q.length < maxMarketDataQueueDepth) (x : MarketEvent) :
    o.enqueue x.event = { o with queue := o.queue.push x.event } := by
  unfold Managed.enqueue
  rw [if_neg halive]
  have hpush : (o.queue.tryPush x.event maxMarketDataQueueDepth).1 = o.queue.push x.event := by
    unfold EventQueue.tryPush
    rw [if_neg (not_le.mpr hroom)]
  cases x with
  | bar b | tick t => exact congrArg (fun queue => { o with queue := queue }) hpush

/-- A tick or a bar is dropped. -/
lemma enqueue_of_full (h : o.phase = .destroyed ∨ maxMarketDataQueueDepth ≤ o.queue.q.length)
    (x : MarketEvent) :
    ∃ queue, queue.q = o.queue.q ∧ o.enqueue x.event = { o with queue := queue } := by
  unfold Managed.enqueue
  split_ifs with hgone
  · exact ⟨o.queue, rfl, rfl⟩
  · have hfull := h.resolve_left hgone
    refine ⟨_, ?_, rfl⟩
    have hq := o.queue.tryPush_q x.event maxMarketDataQueueDepth
    rw [if_pos hfull] at hq
    cases x with
    | bar b | tick t => exact hq

/-- Copies of a tick or a bar come in: as many as the queue has room for. -/
lemma enqueue_iterate (x : MarketEvent) (n : ℕ) (o : Managed) :
    ∃ k ≤ n, ((Managed.enqueue · x.event)^[n] o).kept = o.kept ++ List.replicate k x ∧
      (o.phase ≠ .destroyed → (k = n ↔ n = 0 ∨ o.queue.q.length + n ≤
        maxMarketDataQueueDepth)) := by
  induction n generalizing o with
  | zero => exact ⟨0, le_rfl, (List.append_nil _).symm, by simp⟩
  | succ n ih =>
    rw [Function.iterate_succ_apply]
    by_cases hroom : o.phase ≠ .destroyed ∧ o.queue.q.length < maxMarketDataQueueDepth
    · have hpush := enqueue_of_room hroom.1 hroom.2 x
      have hkept : ({ o with queue := o.queue.push x.event } : Managed).kept = o.kept ++ [x] := by
        unfold kept awaiting waiting
        simp [streamed]
      obtain ⟨k, hle, hcopies, hiff⟩ := ih (o.enqueue x.event)
      rw [hpush] at hcopies hiff
      refine ⟨k + 1, Nat.succ_le_succ hle, ?_, fun halive => ?_⟩
      · rw [hpush, hcopies, hkept, List.append_assoc, List.replicate_succ]
        rfl
      · have hlength : (o.queue.push x.event).q.length = o.queue.q.length + 1 := by simp
        have hiff' := hiff halive
        dsimp only at hiff'
        rw [hlength] at hiff'
        omega
    · have hfull : o.phase = .destroyed ∨ maxMarketDataQueueDepth ≤ o.queue.q.length := by
        rw [not_and_or, not_not, not_lt] at hroom
        exact hroom
      obtain ⟨queue, hq, hsame⟩ := enqueue_of_full hfull x
      obtain ⟨k, hle, hcopies, hiff⟩ := ih (o.enqueue x.event)
      refine ⟨k, Nat.le_succ_of_le hle, ?_, fun halive => ?_⟩
      · rw [hcopies, hsame]
        have hkept : ({ o with queue := queue } : Managed).kept = o.kept :=
          kept_of_eq rfl (by rw [waiting, hq, waiting])
        rw [hkept]
      · have hdepth := hfull.resolve_left halive
        exact iff_of_false (by omega) (by omega)

end Managed

/-! ## Registrations -/

namespace Engine

variable {e : Engine}

/-- The market data is set up without the order managers. -/
lemma setupMarketData_toTradingEngine (e : Engine) (req : V1.RegisterStrategyRequest)
    (env : RegistrationEnv) (m : ManagerId) :
    (e.setupMarketData req env m).1.toTradingEngine = e.toTradingEngine := by
  unfold setupMarketData
  cases req.marketData with
  | none => rfl
  | some marketData =>
    have hframe := (e.setupFeed_frame req env marketData.feed).1
    dsimp only
    split
    · exact hframe
    · exact hframe

/-- What a registration is for the order managers: nothing, or a new one, whose subscriptions come
into the tables. -/
lemma registerStrategy_threads {subs : List Subscription} (hfree : e.killSwitch = none)
    (hlifetimes : e.Lifetimes) (hroutes : e.feedRegistry.Routes subs)
    (req : V1.RegisterStrategyRequest) (env : RegistrationEnv) :
    (e.registerStrategy req env).1.feedRegistry.Routes (subs ++ e.newSubscriptions req env) ∧
      ((e.registerStrategy req env).1.toTradingEngine = e.toTradingEngine ∧
          e.newSubscriptions req env = [] ∨
        e.managers.lookup req.strategyId = none ∧
          (e.registerStrategy req env).1.toTradingEngine =
            e.toTradingEngine.step (.registerStrategy req.strategyId req.accountId env.store
              ⟨riskLimits req.riskParams⟩) ∧
          ∀ sub ∈ e.newSubscriptions req env, sub.manager = e.objects.length) := by
  unfold Engine.registerStrategy createStrategy newSubscriptions
  by_cases hid : req.strategyId ∈ e.managers
  · rw [if_pos hid, if_pos hid, List.append_nil]
    exact ⟨hroutes, Or.inl ⟨rfl, rfl⟩⟩
  simp only [if_neg hid]
  obtain ⟨⟨hengine, hregistry⟩, -⟩ := e.setupGateway_spec req env
  generalize e.setupGateway req env = connected at hengine hregistry ⊢
  obtain ⟨e₁, result⟩ := connected
  dsimp only at hengine hregistry ⊢
  rw [← hregistry] at hroutes
  cases result with
  | error err => exact ⟨(List.append_nil subs).symm ▸ hroutes, Or.inl ⟨hengine, rfl⟩⟩
  | ok u =>
    cases env.managerFault with
    | some what => exact ⟨(List.append_nil subs).symm ▸ hroutes, Or.inl ⟨hengine, rfl⟩⟩
    | none =>
      have hnew : e.managers.lookup req.strategyId = none := AList.lookup_eq_none.mpr hid
      have hemplaced : (e₁.emplaceManager req env).toTradingEngine =
          e.toTradingEngine.step (.registerStrategy req.strategyId req.accountId env.store
            ⟨riskLimits req.riskParams⟩) := by
        change _ = e.toTradingEngine.registerStrategy _ _ _ _
        unfold TradingEngine.registerStrategy
        rw [if_pos ⟨Option.isNone_iff_eq_none.mpr hfree, hnew⟩, ← hengine]
        rfl
      have hwithin : (e₁.emplaceManager req env).Within (fun _ _ => True)
          (e₁.emplaceManager req env).managers (e₁.emplaceManager req env).objects.length subs := by
        refine ⟨rfl, rfl, hroutes, fun id m hm => ?_⟩
        have hlater := hlifetimes.step (.registerStrategy req.strategyId req.accountId env.store
          ⟨riskLimits req.riskParams⟩)
        rw [← hemplaced] at hlater
        obtain ⟨o, ho⟩ := hlater.exists_object hm
        exact ⟨o, ho, trivial⟩
      have hset := hwithin.setupMarketData req env e₁.objects.length
      refine ⟨hset.routes, Or.inr ⟨hnew, ?_, fun sub hsub => ?_⟩⟩
      · rw [setupMarketData_toTradingEngine, hemplaced]
      · rw [manager_of_mem_setupSubscriptions hsub, hengine]

end Engine

/-! ## The books of the feeds -/

namespace Engine

variable (e : Engine)

/-- An event that goes to several order managers changes their queues only. -/
lemma enqueueAll_eq (ms : List ManagerId) (event : OMEvent) :
    e.enqueueAll ms event = { e with objects := (e.enqueueAll ms event).objects } := by
  unfold enqueueAll
  induction ms generalizing e with
  | nil => rfl
  | cons m ms ih =>
    rw [List.foldl_cons, ih]
    rfl

/-- A tick or a bar is delivered to one order manager after the other. -/
lemma enqueueAll_event (ms : List ManagerId) (x : MarketEvent) :
    (e.enqueueAll ms x.event).toTradingEngine =
      Trajectory.run TradingEngine.step e.toTradingEngine (ms.map (.deliver · x.event)) := by
  unfold enqueueAll Trajectory.run
  induction ms generalizing e with
  | nil => rfl
  | cons m ms ih =>
    rw [List.foldl_cons, ih, List.map_cons, List.foldl_cons]
    cases x <;> rfl

/-- The order managers to which a tick or a bar is handed. -/
lemma publish_eq {subs : List Subscription} (h : e.feedRegistry.Routes subs) (feed : FeedKey)
    (x : MarketEvent) :
    ∃ ms, e.publish feed x = e.enqueueAll ms x.event ∧
      ∀ m, ms.count m = subs.count ⟨feed, x.symbol, x.period, m⟩ := by
  cases x with
  | bar b =>
    refine ⟨_, rfl, fun m => ?_⟩
    unfold FeedRegistry.barSubscribers
    rw [h.bars, count_receivers]
    rfl
  | tick t =>
    refine ⟨_, rfl, fun m => ?_⟩
    unfold FeedRegistry.tickSubscribers
    rw [h.ticks, count_receivers]
    rfl

lemma length_enqueueAll (ms : List ManagerId) (event : OMEvent) :
    (e.enqueueAll ms event).objects.length = e.objects.length := by
  unfold enqueueAll
  induction ms generalizing e with
  | nil => rfl
  | cons m ms ih =>
    rw [List.foldl_cons, ih]
    exact List.length_modify _ _ _

end Engine

namespace TradingEngine

variable {e : TradingEngine} {m : ManagerId}

/-- The kill switch takes an order manager out of the tables when it has waited for its promise. -/
lemma unregisters_eq_some {a : Action} (h : e.unregisters a = some m) :
    ∃ kill rest, a = .proceed ∧ e.killSwitch = some kill ∧ kill.todo = .await m :: rest ∧
      e.step a = { e with killSwitch := some { kill with todo := rest } } := by
  unfold unregisters at h
  split at h
  · split at h
    next m' rest htodo =>
      split_ifs at h with hhalted
      obtain rfl := Option.some.inj h
      obtain ⟨kill, hkill, hcalls⟩ := Option.map_eq_some_iff.mp htodo
      refine ⟨kill, rest, rfl, hkill, hcalls, ?_⟩
      change e.proceed = _
      unfold proceed
      rw [hkill]
      dsimp only
      rw [hcalls]
      dsimp only
      rw [if_pos hhalted]
    · cases h
  · cases h

/-- A wait that is over. -/
lemma unregisters_proceed {kill : KillSwitch} {rest : List KillStep}
    (hkill : e.killSwitch = some kill)
    (htodo : kill.todo = .await m :: rest) (hhalted : e.Halted m) :
    e.unregisters .proceed = some m := by
  unfold unregisters
  rw [hkill, Option.map_some, htodo]
  exact if_pos hhalted

/-- The kill switch waits for everyone that it affects. -/
lemma await_mem_calls {affected : List ManagerId} (h : m ∈ affected) :
    .await m ∈ KillSwitch.calls affected := by
  simp [KillSwitch.calls, h]

/-- A change of an order manager that keeps its phase and its events. -/
lemma Ready.modify (h : e.Ready) (m : ManagerId) {f : Managed → Managed}
    (hphase : ∀ o : Managed, (f o).phase = o.phase)
    (hhandling : ∀ o : Managed, (f o).handling = o.handling)
    (hhalts : ∀ o : Managed, o.WillHalt → (f o).WillHalt) : (e.modify m f).Ready where
  lifetimes := h.lifetimes.modify_of_phase hphase fun o _ ho => (hhandling o).trans ho
  underway := fun kill hkill => (h.underway kill hkill).modify m (fun o => Or.inl (hphase o)) hhalts

end TradingEngine

namespace FedEngine

/-- The tables hold the subscriptions of registered order managers, and a kill switch takes an order
manager out of them before it destroys it. -/
structure Sound (s : FedEngine) : Prop where
  ready : s.engine.toTradingEngine.Ready
  commands : ∀ c ∈ s.engine.pending, c.2.marketEvent = none
  routes : s.engine.feedRegistry.Routes s.subscriptions
  registered : ∀ sub ∈ s.subscriptions, s.engine.toTradingEngine.Registered sub.manager
  awaited : ∀ kill, s.engine.killSwitch = some kill → ∀ sub ∈ s.subscriptions,
    sub.manager ∈ kill.affected → .await sub.manager ∈ kill.todo
  created : ∀ p ∈ s.published, ∀ sub ∈ p.subscriptions, sub.manager < s.engine.objects.length

lemma sound_start : ({} : FedEngine).Sound where
  ready := TradingEngine.ready_start
  commands := by simp
  routes := FeedRegistry.routes_start
  registered := by simp
  awaited := by simp
  created := by simp

variable {s : FedEngine} {m : ManagerId}

/-- Whoever is in the tables runs. -/
lemma Sound.running (h : s.Sound) {sub : Subscription} (hsub : sub ∈ s.subscriptions) :
    s.engine.toTradingEngine.phaseOf sub.manager = some .running := by
  rcases h.ready.lifetimes.running _ (h.registered sub hsub) with
    hrunning | ⟨kill, hkill, haffected⟩
  · exact hrunning
  · have hunderway := h.ready.underway kill hkill
    have hawait := h.awaited kill hkill sub hsub haffected
    exact hunderway.running _ (hunderway.plan.stops _ (Or.inr hawait))

/-- A strategy is registered. -/
lemma Sound.register (h : s.Sound) (req : V1.RegisterStrategyRequest) (env : RegistrationEnv) :
    (s.register req env).Sound := by
  unfold FedEngine.register
  split_ifs with hisNone
  swap
  · exact h
  have hfree := Option.isNone_iff_eq_none.mp hisNone
  obtain ⟨hroutes, ⟨hsame, hnone⟩ | ⟨hnew, hstep, hmanager⟩⟩ :=
    Engine.registerStrategy_threads hfree h.ready.lifetimes h.routes req env
  · rw [hnone, List.append_nil] at hroutes ⊢
    refine ⟨?_, ?_, hroutes, ?_, ?_, ?_⟩
    all_goals
      dsimp only
      rw [hsame]
    exacts [h.ready, h.commands, h.registered, h.awaited, h.created]
  · have hready := h.ready.step (.registerStrategy req.strategyId req.accountId env.store
      ⟨Engine.riskLimits req.riskParams⟩)
    have heq : s.engine.toTradingEngine.step
        (.registerStrategy req.strategyId req.accountId env.store
          ⟨Engine.riskLimits req.riskParams⟩) =
        { s.engine.toTradingEngine with
          managers := s.engine.managers.insert req.strategyId s.engine.objects.length
          objects := s.engine.objects ++
            [{ account := .start req.accountId env.store ⟨Engine.riskLimits req.riskParams⟩ }] } :=
      if_pos ⟨hisNone, hnew⟩
    rw [← hstep] at hready
    rw [heq] at hstep
    refine ⟨hready, ?_, hroutes, fun sub hsub => ?_, ?_, fun p hp sub hsub => ?_⟩
    · dsimp only
      rw [hstep]
      exact h.commands
    · dsimp only
      rw [hstep]
      unfold TradingEngine.Registered
      simp only [FiniteMap.lookup_insert_eq]
      rcases List.mem_append.mp hsub with hbefore | hnow
      · obtain ⟨id, hid⟩ := h.registered sub hbefore
        refine ⟨id, ?_⟩
        rw [if_neg, hid]
        rintro rfl
        rw [hnew] at hid
        cases hid
      · exact ⟨req.strategyId, by rw [if_pos rfl, hmanager sub hnow]⟩
    · dsimp only
      rw [hstep]
      intro kill hkill
      exact absurd (hfree.symm.trans hkill) (Option.some_ne_none kill).symm
    · dsimp only
      rw [hstep, List.length_append]
      exact Nat.lt_add_right _ (h.created p hp sub hsub)

/-- A feed hands something on. -/
lemma Sound.publish (h : s.Sound) (feed : FeedKey) (x : MarketEvent) :
    (s.publish feed x).Sound := by
  obtain ⟨ms, hms, -⟩ := s.engine.publish_eq h.routes feed x
  have hready : (s.engine.enqueueAll ms x.event).toTradingEngine.Ready := by
    rw [Engine.enqueueAll_event]
    exact (Trajectory.everyState_of_step (fun _ a hs => hs.step a) h.ready).last
  have hlength := s.engine.length_enqueueAll ms x.event
  have heq := s.engine.enqueueAll_eq ms x.event
  unfold FedEngine.publish
  rw [hms]
  generalize s.engine.enqueueAll ms x.event = e' at hready hlength heq ⊢
  refine ⟨hready, ?_, ?_, ?_, ?_, fun p hp sub hsub => ?_⟩
  all_goals dsimp only
  · rw [heq]
    exact h.commands
  · rw [heq]
    exact h.routes
  · rw [heq]
    exact h.registered
  · rw [heq]
    exact h.awaited
  · rw [hlength]
    rcases List.mem_append.mp hp with hbefore | hnow
    · exact h.created p hbefore sub hsub
    · rw [List.mem_singleton.mp hnow] at hsub
      exact h.ready.lifetimes.created _ (h.registered sub hsub)

/-- The sinks of an order manager change. -/
lemma Sound.modify (h : s.Sound) (m : ManagerId) {f : Managed → Managed}
    (hready : (s.engine.toTradingEngine.modify m f).Ready) :
    ({ s with engine := s.engine.modifyManager m f } : FedEngine).Sound where
  ready := hready
  commands := h.commands
  routes := h.routes
  registered := h.registered
  awaited := h.awaited
  created := by
    intro p hp sub hsub
    refine lt_of_lt_of_eq (h.created p hp sub hsub) ?_
    exact (List.length_modify _ _ _).symm

/-- A step of the threads that leaves the tables alone. -/
lemma Sound.of_engine (h : s.Sound) {e' : TradingEngine} (hready : e'.Ready)
    (hcommands : ∀ c ∈ e'.pending, c.2.marketEvent = none)
    (hregistered : ∀ sub ∈ s.subscriptions, e'.Registered sub.manager)
    (hawaited : ∀ kill, e'.killSwitch = some kill → ∀ sub ∈ s.subscriptions,
      sub.manager ∈ kill.affected → .await sub.manager ∈ kill.todo)
    (hlength : e'.objects.length = s.engine.objects.length) :
    ({ s with engine := { s.engine with toTradingEngine := e' } } : FedEngine).Sound where
  ready := hready
  commands := hcommands
  routes := h.routes
  registered := hregistered
  awaited := hawaited
  created := by
    intro p hp sub hsub
    exact lt_of_lt_of_eq (h.created p hp sub hsub) hlength.symm

/-- A step of the threads in which nobody is taken out of the tables. -/
lemma Sound.thread_of_none (h : s.Sound) {a : Action} (hleaves : a.leavesFeeds = true)
    (hnone : s.engine.unregisters a = none) :
    ({ s with engine := { s.engine with toTradingEngine := s.engine.toTradingEngine.step a } } :
      FedEngine).Sound := by
  have hready := h.ready.step a
  have hstep := s.engine.steps_step a
  generalize s.engine.toTradingEngine.step a = e' at hready hstep ⊢
  have htail : ∀ {kill kill' first rest}, s.engine.killSwitch = some kill →
    kill.todo = first :: rest →
      some { kill with todo := rest } = some kill' → (∀ m, first ≠ .await m) →
      ∀ sub ∈ s.subscriptions, sub.manager ∈ kill'.affected → .await sub.manager ∈ kill'.todo := by
    intro kill kill' first rest hkill htodo hkill' hfirst sub hsub haffected
    obtain rfl := Option.some.inj hkill'
    have hawait := h.awaited kill hkill sub hsub haffected
    rw [htodo] at hawait
    exact (List.mem_cons.mp hawait).resolve_left fun heq => hfirst _ heq.symm
  cases hstep with
  | registered _ _ => cases hleaves
  | @found request m _ _ =>
    refine h.of_engine hready (fun c hc => ?_) h.registered h.awaited rfl
    rcases List.mem_append.mp hc with hbefore | hnow
    · exact h.commands c hbefore
    · rw [List.mem_singleton.mp hnow]
      cases request <;> rfl
  | enqueued _ =>
    exact h.of_engine hready (fun c hc => h.commands c (List.mem_of_mem_eraseIdx hc)) h.registered
      h.awaited (List.length_modify _ _ _)
  | delivered | popped | finished | loopEnded =>
    exact h.of_engine hready h.commands h.registered h.awaited (List.length_modify _ _ _)
  | stopBegun _ _ | haltBegun _ _ =>
    refine h.of_engine hready h.commands h.registered (fun kill hkill sub _ haffected => ?_) rfl
    obtain rfl := Option.some.inj hkill
    exact TradingEngine.await_mem_calls haffected
  | cancelled hkill htodo | stopped hkill htodo =>
    exact h.of_engine hready h.commands h.registered
      (fun kill' hkill' => htail hkill htodo hkill' (by simp)) (List.length_modify _ _ _)
  | joined hkill htodo _ =>
    exact h.of_engine hready h.commands h.registered
      (fun kill' hkill' => htail hkill htodo hkill' (by simp)) (List.length_modify _ _ _)
  | awaited hkill htodo hhalted =>
    rw [TradingEngine.unregisters_proceed hkill htodo hhalted] at hnone
    cases hnone
  | @returned kill hkill htodo =>
    refine h.of_engine hready h.commands (fun sub hsub => ?_) (by simp) rfl
    obtain ⟨id, hid⟩ := h.registered sub hsub
    refine ⟨id, (TradingEngine.lookup_remaining _ _ _ _).mpr ⟨fun hstops => ?_, hid⟩⟩
    -- whoever is affected was taken out of the tables before
    have haffected := (h.ready.lifetimes.affected_iff kill hkill sub.manager).mpr ⟨id, hstops, hid⟩
    have hawait := h.awaited kill hkill sub hsub haffected
    rw [htodo] at hawait
    exact absurd hawait List.not_mem_nil
  | idle => exact h

/-- A step of the threads. -/
lemma Sound.thread (h : s.Sound) (a : Action) : (s.thread a).Sound := by
  unfold FedEngine.thread
  split_ifs with hleaves
  swap
  · exact h
  dsimp only
  cases hunregisters : s.engine.unregisters a with
  | none => exact h.thread_of_none hleaves hunregisters
  | some m =>
    obtain ⟨kill, rest, rfl, hkill, htodo, hstep⟩ :=
      TradingEngine.unregisters_eq_some hunregisters
    have hready := h.ready.step .proceed
    rw [hstep] at hready
    dsimp only
    rw [hstep]
    refine ⟨hready, h.commands, h.routes.unregisterManager m, fun sub hsub => ?_,
      fun kill' hkill' sub hsub haffected => ?_, h.created⟩
    · exact h.registered sub (List.mem_filter.mp hsub).1
    · obtain rfl := Option.some.inj hkill'
      obtain ⟨hbefore, hne⟩ := List.mem_filter.mp hsub
      have hawait := h.awaited kill hkill sub hbefore haffected
      rw [htodo] at hawait
      refine (List.mem_cons.mp hawait).resolve_left fun heq => of_decide_eq_true hne ?_
      exact KillStep.await.inj heq

/-- **Step lemma.**  Every step keeps the tables sound. -/
theorem Sound.step (h : s.Sound) (a : FedAction) : (s.step a).Sound := by
  cases a with
  | register req env => exact h.register req env
  | publish feed x => exact h.publish feed x
  | thread a => exact h.thread a
  | setSinks m sink =>
    refine h.modify m (h.ready.modify m (fun o => o.setSinks_phase _ _)
      (fun o => o.setSinks_handling _ _) fun o ho => ?_)
    unfold Managed.setSinks
    split_ifs
    · exact ho
    · exact ho
  | clearSinks m =>
    exact h.modify m (h.ready.modify m (fun o => o.clearSinks_phase _) (fun _ => rfl)
      fun _ ho => ho)

/-! ## The channel of an order manager -/

/-- A step that neither hands on market data nor handles it keeps everything. -/
lemma kept_step {e : TradingEngine} (hcommands : ∀ c ∈ e.pending, c.2.marketEvent = none)
    {o : Managed} (ho : e.objects[m]? = some o) {a : Action} (hleaves : a.leavesFeeds = true)
    (hfinish : ∀ env gateway, a ≠ .finish m env gateway) :
    ∃ o', (e.step a).objects[m]? = some o' ∧ o'.kept = o.kept := by
  have hmodify : ∀ (m' : ManagerId) (f : Managed → Managed), (∀ o : Managed, (f o).kept = o.kept) →
      ∃ o', (e.modify m' f).objects[m]? = some o' ∧ o'.kept = o.kept := by
    intro m' f hf
    refine ⟨_, TradingEngine.objects_modify_of_some ho m' f, ?_⟩
    split_ifs
    · exact hf o
    · rfl
  have hstep := e.steps_step a
  generalize e.step a = e' at hstep ⊢
  cases hstep with
  | registered _ _ => cases hleaves
  | found _ _ | stopBegun _ _ | haltBegun _ _ | awaited _ _ _ | returned _ _ | idle =>
      exact ⟨o, ho, rfl⟩
  | enqueued hcall =>
    exact hmodify _ _ fun o => o.kept_enqueue (hcommands _ (List.mem_of_getElem? hcall))
  | delivered => exact hmodify _ _ fun o => o.kept_enqueue (Option.isNone_iff_eq_none.mp hleaves)
  | popped => exact hmodify _ _ Managed.kept_pop
  | @finished m' env gateway =>
    have hm : m' ≠ m := fun hm => hfinish env gateway (by rw [hm])
    exact ⟨o, by rw [TradingEngine.objects_modify_of_some ho, if_neg hm], rfl⟩
  | loopEnded => exact hmodify _ _ Managed.kept_endLoop
  | cancelled _ _ => exact hmodify _ _ fun o => o.kept_enqueue rfl
  | stopped _ _ => exact hmodify _ _ Managed.kept_stop
  | joined _ _ _ => exact hmodify _ _ fun _ => rfl

/-- The order managers after a step of the threads. -/
lemma objects_thread (s : FedEngine) {a : Action} (hleaves : a.leavesFeeds = true) :
    (s.thread a).engine.objects = (s.engine.toTradingEngine.step a).objects := by
  unfold FedEngine.thread
  rw [if_pos hleaves]
  dsimp only
  split <;> rfl

/-- Only what the feeds hand on is sent. -/
lemma sent_thread (s : FedEngine) (a : Action) (m : ManagerId) :
    (s.thread a).sent m = s.sent m := by
  unfold FedEngine.thread
  split_ifs
  · dsimp only
    split <;> rfl
  · rfl

lemma sent_register (s : FedEngine) (req : V1.RegisterStrategyRequest) (env : RegistrationEnv)
    (m : ManagerId) : (s.register req env).sent m = s.sent m := by
  unfold FedEngine.register
  split_ifs <;> rfl

/-- Nobody is created without a registration. -/
lemma length_step {e : TradingEngine} {a : Action} (hleaves : a.leavesFeeds = true) :
    (e.step a).objects.length = e.objects.length := by
  have hstep := e.steps_step a
  generalize e.step a = e' at hstep ⊢
  cases hstep with
  | registered _ _ => cases hleaves
  | found _ _ | stopBegun _ _ | haltBegun _ _ | awaited _ _ _ | returned _ _ | idle => rfl
  | enqueued _ | delivered | popped | finished | loopEnded | cancelled _ _ | stopped _ _
  | joined _ _ _ => exact List.length_modify _ _ _

/-- A registration leaves the order managers that are there. -/
lemma objects_register (h : s.Sound) (req : V1.RegisterStrategyRequest) (env : RegistrationEnv) :
    (s.register req env).engine.objects = s.engine.objects ∨
      ∃ account, (s.register req env).engine.objects = s.engine.objects ++
        [{ account := account }] ∧
        account.1.sinkCalls = [] := by
  unfold FedEngine.register
  split_ifs with hisNone
  swap
  · exact Or.inl rfl
  obtain ⟨-, ⟨hsame, -⟩ | ⟨hnew, hstep, -⟩⟩ :=
    Engine.registerStrategy_threads (Option.isNone_iff_eq_none.mp hisNone) h.ready.lifetimes
      h.routes
      req env
  · exact Or.inl (congrArg TradingEngine.objects hsame)
  · refine Or.inr ⟨.start req.accountId env.store ⟨Engine.riskLimits req.riskParams⟩, ?_, rfl⟩
    refine (congrArg TradingEngine.objects hstep).trans ?_
    exact congrArg TradingEngine.objects (if_pos ⟨hisNone, hnew⟩)

/-- A feed hands on a tick or a bar, of which the order manager keeps as much as it has room for. -/
lemma Sound.moves_publish (h : s.Sound) {o : Managed} (ho : s.engine.objects[m]? = some o)
    (feed : FeedKey) (x : MarketEvent) :
    ∃ o', (s.publish feed x).engine.objects[m]? = some o' ∧
      Channel.Move (s.LosesNothing m (.publish feed x)) o.kept (s.sent m) o'.kept
        ((s.publish feed x).sent m) := by
  obtain ⟨ms, hms, hcount⟩ := s.engine.publish_eq h.routes feed x
  have hcopies : ms.count m = (s.publication feed x).copies m := hcount m
  have hobjects := s.engine.objects_enqueueAll ms x.event m
  rw [ho, Option.map_some, hcopies] at hobjects
  have hsent : (s.publish feed x).sent m = s.sent m ++
      List.replicate ((s.publication feed x).copies m) x := by
    unfold sent FedEngine.publish
    rw [List.flatMap_append, List.flatMap_singleton]
    rfl
  have halive : (s.publication feed x).copies m ≠ 0 → o.phase ≠ .destroyed := by
    intro hpos hgone
    have hsub := List.count_pos_iff.mp (Nat.pos_of_ne_zero hpos)
    have hrunning := h.running hsub
    unfold TradingEngine.phaseOf at hrunning
    rw [ho, Option.map_some, hgone] at hrunning
    cases hrunning
  obtain ⟨k, hle, hkept, hiff⟩ := Managed.enqueue_iterate x
    ((s.publication feed x).copies m) o
  refine ⟨(Managed.enqueue · x.event)^[(s.publication feed x).copies m] o, ?_, ?_⟩
  · unfold FedEngine.publish
    dsimp only
    rw [hms]
    exact hobjects
  · rw [hkept, hsent]
    refine .send x hle ?_
    unfold LosesNothing
    rw [ho]
    simp only [Option.mem_def, Option.some.injEq, forall_eq']
    generalize (s.publication feed x).copies m = n at *
    by_cases hzero : n = 0
    · subst hzero
      exact iff_of_true (Or.inl rfl) (Nat.le_zero.mp hle)
    · exact (hiff (halive hzero)).symm

/-- A step of the threads. -/
lemma Sound.moves_thread (h : s.Sound) {o : Managed} (ho : s.engine.objects[m]? = some o)
    (a : Action) :
    ∃ o', (s.thread a).engine.objects[m]? = some o' ∧
      Channel.Move (s.LosesNothing m (.thread a)) o.kept (s.sent m) o'.kept
        ((s.thread a).sent m) := by
  rw [sent_thread]
  by_cases hleaves : a.leavesFeeds = true
  swap
  · have hsame : s.thread a = s := if_neg hleaves
    rw [hsame]
    refine ⟨o, ho, .same ?_⟩
    cases a with
    | finish m' env gateway => exact absurd rfl hleaves
    | _ => trivial
  rw [objects_thread s hleaves]
  by_cases hfinish : ∀ env gateway, a ≠ .finish m env gateway
  · obtain ⟨o', ho', hkept⟩ := kept_step h.commands ho hleaves hfinish
    refine ⟨o', ho', ?_⟩
    rw [hkept]
    refine .same ?_
    cases a with
    | finish m' env gateway => exact fun hm => absurd rfl (hm ▸ hfinish env gateway)
    | _ => trivial
  · push Not at hfinish
    obtain ⟨env, gateway, rfl⟩ := hfinish
    refine ⟨o.finish env gateway, ?_, (Managed.kept_finish env gateway (s.sent m)).congr ?_⟩
    · rw [TradingEngine.step, TradingEngine.objects_modify_of_some ho, if_pos rfl]
    · unfold LosesNothing
      rw [ho]
      simp

/-- **Step lemma.**  Every step moves what the order manager keeps, compared with what it has
subscribed to. -/
theorem Sound.moves (h : s.Sound) {o : Managed} (ho : s.engine.objects[m]? = some o)
    (a : FedAction) :
    ∃ o', (s.step a).engine.objects[m]? = some o' ∧
      Channel.Move (s.LosesNothing m a) o.kept (s.sent m) o'.kept ((s.step a).sent m) := by
  have hmodify : ∀ (m' : ManagerId) (f : Managed → Managed), (∀ o : Managed, (f o).kept = o.kept) →
      ∃ o', (s.engine.modifyManager m' f).objects[m]? = some o' ∧
        Channel.Move True o.kept (s.sent m) o'.kept (s.sent m) := by
    intro m' f hf
    refine ⟨_, TradingEngine.objects_modify_of_some ho m' f, ?_⟩
    split_ifs
    · rw [hf]
      exact .same trivial
    · exact .same trivial
  cases a with
  | register req env =>
    refine ⟨o, ?_, (s.sent_register req env m).symm ▸ .same trivial⟩
    rcases objects_register h req env with hsame | ⟨account, hnew, -⟩
    · exact (congrArg (·[m]?) hsame).trans ho
    · refine (congrArg (·[m]?) hnew).trans ?_
      exact (List.getElem?_append_left (List.getElem?_eq_some_iff.mp ho).1).trans ho
  | publish feed x => exact h.moves_publish ho feed x
  | thread a => exact h.moves_thread ho a
  | setSinks m' sink => exact hmodify m' _ fun o => o.kept_setSinks _ _
  | clearSinks m' => exact hmodify m' _ fun o => o.kept_clearSinks _

/-- A new order manager has kept nothing, and nothing was sent to it. -/
lemma Sound.kept_new (h : s.Sound) (hnone : s.engine.objects[m]? = none) {a : FedAction}
    {o' : Managed} (ho' : (s.step a).engine.objects[m]? = some o') :
    o'.kept = [] ∧ (s.step a).sent m = [] := by
  have hlength : s.engine.objects.length ≤ m := List.getElem?_eq_none_iff.mp hnone
  have habsurd : (s.step a).engine.objects.length = s.engine.objects.length →
      o'.kept = [] ∧ (s.step a).sent m = [] := by
    intro hsame
    have hlt := (List.getElem?_eq_some_iff.mp ho').1
    omega
  cases a with
  | register req env =>
    rcases objects_register h req env with hsame | ⟨account, hnew, hcalls⟩
    · exact habsurd (congrArg List.length hsame)
    · have hlast := (congrArg (·[m]?) hnew).symm.trans ho'
      rw [List.getElem?_append_right hlength] at hlast
      obtain rfl := List.mem_singleton.mp (List.mem_of_getElem? hlast)
      refine ⟨?_, (s.sent_register req env m).trans ?_⟩
      · unfold Managed.kept Managed.streamed Managed.sinkCalls
        rw [hcalls]
        rfl
      · refine List.flatMap_eq_nil_iff.mpr fun p hp => ?_
        have hnobody : p.copies m = 0 := by
          refine List.count_eq_zero_of_not_mem fun hsub => ?_
          exact absurd (h.created p hp _ hsub) (not_lt.mpr hlength)
        rw [hnobody]
        rfl
  | publish feed x =>
    obtain ⟨ms, hms, -⟩ := s.engine.publish_eq h.routes feed x
    refine habsurd ?_
    change (s.engine.publish feed x).objects.length = _
    rw [hms, Engine.length_enqueueAll]
  | thread a =>
    refine habsurd ?_
    change (s.thread a).engine.objects.length = _
    by_cases hleaves : a.leavesFeeds = true
    · rw [objects_thread s hleaves, length_step hleaves]
    · have hsame : s.thread a = s := if_neg hleaves
      rw [hsame]
  | setSinks m' sink | clearSinks m' => exact habsurd (List.length_modify _ _ _)

/-! ## Runs -/

/-- A step keeps the order. -/
lemma Sound.keepsInOrder (h : s.Sound) (horder : s.KeepsInOrder m) (a : FedAction) :
    (s.step a).KeepsInOrder m := by
  intro o' ho'
  cases ho : s.engine.objects[m]? with
  | none =>
    rw [(h.kept_new ho ho').1]
    exact List.nil_sublist _
  | some o =>
    obtain ⟨o₁, ho₁, hmove⟩ := h.moves ho a
    obtain rfl := Option.some.inj (ho'.symm.trans ho₁)
    exact hmove.sublist (horder o ho)

/-- As long as everything was kept, a step keeps everything exactly when it loses nothing. -/
lemma Sound.keepsAll_iff (h : s.Sound) (hall : s.KeepsAll m) (a : FedAction) :
    (s.step a).KeepsAll m ↔ s.LosesNothing m a := by
  cases ho : s.engine.objects[m]? with
  | none =>
    refine iff_of_true (fun o' ho' => ?_) ?_
    · obtain ⟨hkept, hsent⟩ := h.kept_new ho ho'
      rw [hkept, hsent]
    · unfold LosesNothing
      rw [ho]
      split <;> simp
  | some o =>
    obtain ⟨o', ho', hmove⟩ := h.moves ho a
    rw [← hmove.eq_iff (hall o ho)]
    constructor
    · exact fun hkeeps => hkeeps o' ho'
    · intro hkept o₁ ho₁
      obtain rfl := Option.some.inj (ho'.symm.trans ho₁)
      exact hkept

end FedEngine

/-- **Market data arrives as subscribed.**  What the clients of a strategy were given, followed by
what still waits in its queue, is in every state a part of what the strategy has subscribed to, in
the order in which the feeds have handed it on; and it is all of that in every state exactly when
nothing meets a full queue and nothing is handled while there is no sink for it. -/
theorem market_data_as_subscribed (m : ManagerId) (actions : List FedAction) :
    Trajectory.EveryState FedEngine.step (FedEngine.KeepsInOrder m) {} actions ∧
      (Trajectory.EveryState FedEngine.step (FedEngine.KeepsAll m) {} actions ↔
        Trajectory.AllSteps FedEngine.step (FedEngine.LosesNothing m) {} actions) := by
  have hnobody : ({} : FedEngine).engine.objects[m]? = none := rfl
  constructor
  · have hinv : Trajectory.EveryState FedEngine.step
        (fun s => s.Sound ∧ s.KeepsInOrder m) {} actions :=
      Trajectory.everyState_of_step (fun _ a hs => ⟨hs.1.step a, hs.1.keepsInOrder hs.2 a⟩)
        ⟨FedEngine.sound_start, fun o ho => by rw [hnobody] at ho; cases ho⟩
    exact hinv.mono fun _ hs => hs.2
  · exact Trajectory.everyState_iff_of_invariant (fun _ a hs => hs.step a)
      (fun _ a hs hall => hs.keepsAll_iff hall a) FedEngine.sound_start
      fun o ho => by rw [hnobody] at ho; cases ho

end Quarcc
