import QuarccEngine.Core.PositionKeeper
import QuarccEngine.Core.RiskManager
import QuarccEngine.Library.Program
import QuarccEngine.Persistence.Journal
import QuarccEngine.Persistence.OrderStore
import QuarccEngine.Utils.EventQueue

/-!
# The order manager

`order_manager.cpp`: the handlers that the dispatch loop runs, one event at a time.

A handler reads clocks and the store's luck from an `Env` and calls the gateway.  It is written as a
`Program` over the calls on the gateway, so that the state in which an order is sent is part of the
model.  Everything a handler does to the outside is recorded: the calls on the journal, the calls on
the sinks and the promises that it fulfils.
-/

namespace Quarcc

/-! ## The gateway -/

/-- A call on `IExecutionGateway`. -/
inductive GatewayCall where
  | submitOrder (order : V1.Order)
  | cancelOrder (broker : BrokerOrderId)
  | replaceOrder (broker : BrokerOrderId) (newOrder : V1.Order)
  deriving DecidableEq

/-- What a call on the gateway answers. -/
@[reducible] def GatewayCall.Answer : GatewayCall → Type
  | submitOrder _ => Result BrokerOrderId
  | cancelOrder _ => Result Unit
  | replaceOrder _ _ => Result BrokerOrderId

/-- The answers of a gateway to the calls of one handler.  No handler makes the same call twice. -/
structure GatewayAnswers where
  submitOrder : V1.Order → Result BrokerOrderId
  cancelOrder : BrokerOrderId → Result Unit
  replaceOrder : BrokerOrderId → V1.Order → Result BrokerOrderId

/-- The answers as a function of the call. -/
def GatewayAnswers.answer (gateway : GatewayAnswers) : (c : GatewayCall) → c.Answer
  | .submitOrder order => gateway.submitOrder order
  | .cancelOrder broker => gateway.cancelOrder broker
  | .replaceOrder broker newOrder => gateway.replaceOrder broker newOrder

/-! ## Events and effects -/

/-- `OMEvent`; a command carries a promise, whose fulfilment is recorded as a `Reply`. -/
inductive OMEvent where
  | bar (bar : Bar)
  | tick (tick : Tick)
  | executionReport (fill : V1.ExecutionReport)
  | submitCommand (signal : V1.StrategySignal)
  | cancelCommand (signal : V1.CancelSignal)
  | replaceCommand (signal : V1.ReplaceSignal)
  | cancelAllCommand (reason initiatedBy : String)
  deriving DecidableEq

/-- The event is a command, and so carries a promise. -/
def OMEvent.hasPromise : OMEvent → Bool
  | submitCommand _ | cancelCommand _ | replaceCommand _ | cancelAllCommand _ _ => true
  | bar _ | tick _ | executionReport _ => false

/-- The value that a command's promise is fulfilled with. -/
inductive Reply where
  | submitted (result : Result LocalOrderId)
  | cancelled (result : Result Unit)
  | replaced (result : Result LocalOrderId)
  | done

/-- The name of a function that is installed as a sink. -/
abbrev SinkId := ℕ

/-- A call of an installed sink. -/
inductive SinkCall where
  | tick (sink : SinkId) (tick : Tick)
  | bar (sink : SinkId) (bar : Bar)
  | fill (sink : SinkId) (fill : V1.ExecutionReport)
  deriving DecidableEq

/-- A statement of the order store, as far as its failure can depend on it. -/
inductive StoreCall where
  | storeOrder (localId : LocalOrderId)
  | updateOrderStatus (localId : LocalOrderId) (status : OrderStatus)
  | updateBrokerId (localId : LocalOrderId) (broker : BrokerOrderId)
  | applyFill (localId : LocalOrderId)
  | getOrder (localId : LocalOrderId)
  deriving DecidableEq

/-- What a handler finds in its surroundings.  No handler runs the same statement twice, so the
failures of the store are a function of the statement. -/
structure Env where
  /-- `LogEntry::now()`. -/
  now : Timestamp
  /-- The clock of the id generator, in milliseconds. -/
  idClock : ℤ
  /-- `get_current_time()`. -/
  currentTime : String
  /-- `datetime('now')` of SQLite. -/
  sqliteNow : String
  /-- `DebugString()` of a protobuf order. -/
  debugString : V1.Order → String
  /-- `std::format` of a `double`. -/
  formatDouble : ℚ → String
  /-- The statements of the store that fail, with the failure. -/
  storeFault : StoreCall → Option SqliteFault
  /-- How many rows `get_open_orders` reads before it fails; `none` when it does not fail. -/
  openOrdersRead : Option ℕ

/-! ## The state -/

/-- The books of an order manager: what its handlers decide on. -/
structure Books where
  orderStore : SQLiteOrderStore
  idMapper : OrderIdMapper
  /-- `open_order_count_`, as long as it does not overflow: how often it was counted up, less how
  often it was counted down. -/
  openOrderCount : ℤ
  positionKeeper : PositionKeeper
  riskManager : RiskManager

/-- What the 32 bits of `open_order_count_`, an `int`, hold. -/
def Books.openOrderCountInt (b : Books) : Int32 := .ofInt b.openOrderCount

/-- `OrderManager`. -/
structure OrderManager extends Books where
  accountId : String
  idGenerator : OrderIdGenerator
  tickSink : Option SinkId
  barSink : Option SinkId
  fillSink : Option SinkId
  /-- The calls `journal_->log` made so far. -/
  journal : List LogCall
  /-- The calls of sinks made so far. -/
  sinkCalls : List SinkCall
  /-- The promises fulfilled so far. -/
  replies : List Reply
  /-- How many calls on the store have not succeeded so far; this only serves to speak about runs in
  which all do. -/
  storeFailures : ℕ

/-- `create_order_manager`, with a store that may have rows from an earlier session. -/
def createOrderManager (accountId : String) (orderStore : SQLiteOrderStore)
    (riskManager : RiskManager) : OrderManager where
  orderStore := orderStore
  idMapper := {}
  openOrderCount := 0
  positionKeeper := {}
  accountId := accountId
  riskManager := riskManager
  idGenerator := {}
  tickSink := none
  barSink := none
  fillSink := none
  journal := []
  sinkCalls := []
  replies := []
  storeFailures := 0

/-- The code of a handler. -/
abbrev Handler := Program GatewayCall GatewayCall.Answer OrderManager

namespace OrderManager

/-- `journal_->log`. -/
def log (s : OrderManager) (event : Event) (data : String) (correlationId : String := "") :
    OrderManager :=
  { s with journal := s.journal ++ [⟨event, data, correlationId⟩] }

/-- `set_value` on the promise of the command. -/
def setValue (s : OrderManager) (reply : Reply) : OrderManager :=
  { s with replies := s.replies ++ [reply] }

/-- `id_generator_->generate()`. -/
def generate (s : OrderManager) (env : Env) : LocalOrderId × OrderManager :=
  let (id, idGenerator) := s.idGenerator.generate env.idClock
  (id, { s with idGenerator := idGenerator })

/-- `id_mapper_->add_mapping`. -/
def addMapping (s : OrderManager) (localId : LocalOrderId) (broker : BrokerOrderId) :
    OrderManager :=
  { s with idMapper := s.idMapper.addMapping localId broker }

/-- `id_mapper_->remove_mapping`. -/
def removeMapping (s : OrderManager) (localId : LocalOrderId) : OrderManager :=
  { s with idMapper := s.idMapper.removeMapping localId }

/-- Changing `open_order_count_`. -/
def addOpenOrders (s : OrderManager) (n : ℤ) : OrderManager :=
  { s with openOrderCount := s.openOrderCount + n }

/-- Taking over the outcome of a statement of the store. -/
def runStatement (s : OrderManager) : Result SQLiteOrderStore → OrderManager × Result Unit
  | .ok store => ({ s with orderStore := store }, .ok ())
  | .error e => ({ s with storeFailures := s.storeFailures + 1 }, .error e)

/-- `order_store_->store_order`. -/
def storeOrder (s : OrderManager) (env : Env) (stored : StoredOrder) :
    OrderManager × Result Unit :=
  s.runStatement (s.orderStore.storeOrder stored (env.storeFault (.storeOrder stored.localId)))

/-- `order_store_->update_order_status`. -/
def updateOrderStatus (s : OrderManager) (env : Env) (localId : LocalOrderId)
    (newStatus : OrderStatus) : OrderManager × Result Unit :=
  s.runStatement (s.orderStore.updateOrderStatus localId newStatus env.sqliteNow
    (env.storeFault (.updateOrderStatus localId newStatus)))

/-- `order_store_->update_broker_id`. -/
def updateBrokerId (s : OrderManager) (env : Env) (localId : LocalOrderId)
    (broker : BrokerOrderId) : OrderManager × Result Unit :=
  s.runStatement (s.orderStore.updateBrokerId localId broker env.sqliteNow
    (env.storeFault (.updateBrokerId localId broker)))

/-- `order_store_->apply_fill`. -/
def applyFill (s : OrderManager) (env : Env) (localId : LocalOrderId)
    (filledQuantity avgPrice : ℚ) (newStatus : OrderStatus) : OrderManager × Result Unit :=
  s.runStatement (s.orderStore.applyFill localId filledQuantity avgPrice newStatus env.sqliteNow
    (env.storeFault (.applyFill localId)))

/-- `order_store_->get_order`. -/
def getOrder (s : OrderManager) (env : Env) (localId : LocalOrderId) :
    OrderManager × Result StoredOrder :=
  match s.orderStore.getOrder localId (env.storeFault (.getOrder localId)) with
  | .ok stored => (s, .ok stored)
  | .error e => ({ s with storeFailures := s.storeFailures + 1 }, .error e)

/-- `order_store_->get_open_orders`, which does not report that it failed. -/
def getOpenOrders (s : OrderManager) (env : Env) : OrderManager × List StoredOrder :=
  let orders := s.orderStore.getOpenOrders env.openOrdersRead
  match env.openOrdersRead with
  | none => (s, orders)
  | some _ => ({ s with storeFailures := s.storeFailures + 1 }, orders)

/-- `journal_->log(Event::ERROR_OCCURRED, …)` when a statement has failed. -/
def logFailure (s : OrderManager) (result : Result Unit) (localId : LocalOrderId) :
    OrderManager :=
  match result with
  | .ok () => s
  | .error e => s.log .errorOccurred e.message localId

/-- `position_keeper_->on_fill`. -/
def onFill (s : OrderManager) (fill : V1.ExecutionReport) : OrderManager :=
  { s with
    positionKeeper := s.positionKeeper.onFill fill.symbol fill.filledQuantity fill.avgFillPrice
      fill.side }

/-- `fill_sink_(fill)`, when a sink is installed. -/
def notifyFillSink (s : OrderManager) (fill : V1.ExecutionReport) : OrderManager :=
  match s.fillSink with
  | some sink => { s with sinkCalls := s.sinkCalls ++ [.fill sink fill] }
  | none => s

end OrderManager

/-- `create_order_from_signal`, for the fields that both kinds of signals have. -/
def createOrderFromSignal (strategyId symbol : String) (side : V1.Side) (targetQuantity : ℚ)
    (accountId currentTime : String) : V1.Order where
  symbol := symbol
  side := side
  quantity := targetQuantity
  type := .market
  accountId := accountId
  createdAt := currentTime
  timeInForce := .day
  strategyId := strategyId

/-! ## The handlers -/

namespace OrderManager

/-- The end of `handle_submit_command` for an order that the risk manager or the gateway has
rejected with the error `e`. -/
def rejectSubmit (s : OrderManager) (env : Env) (localId : LocalOrderId) (e : Error) :
    OrderManager :=
  let s := s.log .orderRejected e.message localId
  let (s, sr) := s.updateOrderStatus env localId .rejected
  (s.logFailure sr localId).setValue (.submitted (.error e))

/-- The end of `handle_submit_command` for an order that the gateway has accepted. -/
def acceptSubmit (s : OrderManager) (env : Env) (localId : LocalOrderId)
    (broker : BrokerOrderId) : OrderManager :=
  match s.updateOrderStatus env localId .submitted with
  | (s, .error e) =>
    (s.log .errorOccurred e.message localId).setValue (.submitted (.error e))
  | (s, .ok ()) =>
    let s := (s.addMapping localId broker).addOpenOrders 1
    let (s, r) := s.updateBrokerId env localId broker
    let s := s.logFailure r localId
    let s := s.log .orderSubmitted ("Local: " ++ localId ++ ", Broker: " ++ broker) localId
    s.setValue (.submitted (.ok localId))

/-- `handle_submit_command`. -/
def handleSubmitCommand (s : OrderManager) (env : Env) (signal : V1.StrategySignal) : Handler :=
  let (localId, s) := s.generate env
  let order := { createOrderFromSignal signal.strategyId signal.symbol signal.side
    signal.targetQuantity s.accountId env.currentTime with id := localId }
  let s := s.log .orderCreated (env.debugString order) order.id
  match timestampToString env.now with
  | .error what =>
    .done (s.setValue (.submitted (.error
      ⟨what ++ " (timestamp conversion failure in submit command)", .failedOrder⟩)))
  | .ok createdAt =>
    let stored : StoredOrder :=
      { order := order, localId := localId, status := .pendingSubmission, createdAt := createdAt }
    match s.storeOrder env stored with
    | (s, .error e) =>
      .done ((s.log .errorOccurred e.message localId).setValue (.submitted (.error e)))
    | (s, .ok ()) =>
      match s.riskManager.check order.quantity (sizeT s.openOrderCount)
          s.positionKeeper.getTotalPnl with
      | .error e => .done (s.rejectSubmit env localId e)
      | .ok () =>
        .call s (.submitOrder order) fun result : Result BrokerOrderId =>
          match result with
          | .error e => .done (s.rejectSubmit env localId e)
          | .ok broker => .done (s.acceptSubmit env localId broker)

/-- The end of `handle_cancel_command` after the gateway has cancelled the order. -/
def acceptCancel (s : OrderManager) (env : Env) (localId : LocalOrderId) : OrderManager :=
  let s := (s.log .orderCancelled "Cancelled" localId).removeMapping localId
  match s.updateOrderStatus env localId .cancelled with
  | (s, .error e) =>
    (s.log .errorOccurred e.message localId).setValue (.cancelled (.error e))
  | (s, .ok ()) => (s.addOpenOrders (-1)).setValue (.cancelled (.ok ()))

/-- `handle_cancel_command`. -/
def handleCancelCommand (s : OrderManager) (env : Env) (signal : V1.CancelSignal) : Handler :=
  match s.idMapper.getBrokerId signal.orderId with
  | none =>
    .done (s.setValue (.cancelled (.error
      ⟨"Cannot find broker ID for order: " ++ signal.orderId, .error⟩)))
  | some broker =>
    .call s (.cancelOrder broker) fun result : Result Unit =>
      match result with
      | .ok () => .done (s.acceptCancel env signal.orderId)
      | .error e => .done (s.setValue (.cancelled (.error e)))

/-- The end of `handle_replace_command` after the gateway has replaced the order `oldId` by
`newOrder`. -/
def acceptReplace (s : OrderManager) (env : Env) (oldId newId : LocalOrderId)
    (newOrder : V1.Order) (newBroker : BrokerOrderId) : OrderManager :=
  let s := s.removeMapping oldId
  match s.updateOrderStatus env oldId .replaced with
  | (s, .error e) =>
    (s.log .errorOccurred e.message oldId).setValue (.replaced (.error e))
  | (s, .ok ()) =>
    match timestampToString env.now with
    | .error what =>
      s.setValue (.replaced (.error
        ⟨what ++ " (timestamp conversion failure in replace command)", .failedOrder⟩))
    | .ok createdAt =>
      let stored : StoredOrder :=
        { order := newOrder, localId := newId, brokerId := some newBroker, status := .submitted
          createdAt := createdAt }
      match s.storeOrder env stored with
      | (s, .error e) =>
        (s.log .errorOccurred e.message newId).setValue (.replaced (.error e))
      | (s, .ok ()) =>
        let s := s.addMapping newId newBroker
        let s := s.log .orderSubmitted
          ("Old: " ++ oldId ++ " -> New: " ++ newId ++ " (Broker: " ++ newBroker ++ ")") newId
        s.setValue (.replaced (.ok newId))

/-- `handle_replace_command`. -/
def handleReplaceCommand (s : OrderManager) (env : Env) (signal : V1.ReplaceSignal) : Handler :=
  let oldId := signal.orderId
  match s.idMapper.getBrokerId oldId with
  | none =>
    .done (s.setValue (.replaced (.error
      ⟨"Cannot find broker ID for order: " ++ oldId, .error⟩)))
  | some oldBroker =>
    let (newId, s) := s.generate env
    let newOrder := { createOrderFromSignal signal.strategyId signal.symbol signal.side
      signal.targetQuantity s.accountId env.currentTime with id := newId }
    let s := s.log .orderReplaced ("Replacing " ++ oldId ++ " with " ++ newId) newId
    .call s (.replaceOrder oldBroker newOrder) fun result : Result BrokerOrderId =>
      match result with
      | .error e =>
        .done ((s.log .orderRejected e.message newId).setValue (.replaced (.error e)))
      | .ok newBroker => .done (s.acceptReplace env oldId newId newOrder newBroker)

/-- One round of the kill switch after the gateway has cancelled the order `localId`. -/
def killOrder (s : OrderManager) (env : Env) (localId : LocalOrderId) : OrderManager :=
  match s.updateOrderStatus env localId .cancelled with
  | (s, .error e) => s.log .errorOccurred e.message localId
  | (s, .ok ()) =>
    (s.removeMapping localId).log .orderCancelled "Cancelled by kill switch" localId

/-- The loop of `handle_cancel_all_command` over the orders that were open when it started, and the
fulfilment of the promise after it. -/
def cancelOpenOrders (env : Env) : List StoredOrder → OrderManager → Handler
  | [], s => .done (s.setValue .done)
  | stored :: rest, s =>
    match stored.brokerId with
    | none => cancelOpenOrders env rest s
    | some broker =>
      .call s (.cancelOrder broker) fun result : Result Unit =>
        match result with
        | .ok () => cancelOpenOrders env rest (s.killOrder env stored.localId)
        | .error e =>
          cancelOpenOrders env rest
            (s.log .errorOccurred ("Failed to cancel during kill switch: " ++ e.message)
              stored.localId)

/-- `handle_cancel_all_command`. -/
def handleCancelAllCommand (s : OrderManager) (env : Env) (reason initiatedBy : String) :
    Handler :=
  let s := s.log .killSwitchActivated
    ("Kill switch activated by: " ++ initiatedBy ++ ". Reason: " ++ reason)
  let (s, openOrders) := s.getOpenOrders env
  cancelOpenOrders env openOrders s

end OrderManager

/-- A report with one of the two statuses after which `handle_fill` closes the order without a
fill. -/
def V1.ExecutionReport.isTerminal (fill : V1.ExecutionReport) : Bool :=
  fill.status = .rejected || fill.status = .cancelled

namespace OrderManager

/-- `handle_fill` for a terminal report of the order `localId`. -/
def closeOrder (s : OrderManager) (env : Env) (localId : LocalOrderId)
    (fill : V1.ExecutionReport) : OrderManager :=
  let newStatus : OrderStatus := if fill.status = .rejected then .rejected else .cancelled
  let (s, r) := s.updateOrderStatus env localId newStatus
  let s := (s.logFailure r localId).removeMapping localId
  s.notifyFillSink fill

/-- `handle_fill` for a fill of the order `localId`, whose row is `stored`. -/
def recordFill (s : OrderManager) (env : Env) (localId : LocalOrderId) (stored : StoredOrder)
    (fill : V1.ExecutionReport) : OrderManager :=
  let originalQty := stored.order.quantity
  let fullyFilled : Bool := originalQty ≤ stored.filledQuantity + fill.filledQuantity
  let newStatus : OrderStatus := if fullyFilled then .filled else .partiallyFilled
  let (s, r) := s.applyFill env localId fill.filledQuantity fill.avgFillPrice newStatus
  let s := (s.logFailure r localId).onFill fill
  let s := s.log (if fullyFilled then .orderFilled else .orderPartiallyFilled)
    ("Filled: " ++ env.formatDouble fill.filledQuantity ++ " / " ++ env.formatDouble originalQty ++
      " @ avg=" ++ env.formatDouble fill.avgFillPrice) localId
  let s := if fullyFilled then (s.removeMapping localId).addOpenOrders (-1) else s
  s.notifyFillSink fill

/-- `handle_fill`. -/
def handleFill (s : OrderManager) (env : Env) (fill : V1.ExecutionReport) : OrderManager :=
  match s.idMapper.getLocalId fill.brokerOrderId with
  | none => s
  | some localId =>
    if fill.isTerminal then s.closeOrder env localId fill
    else
      match s.getOrder env localId with
      | (s, .error _) =>
        s.log .errorOccurred ("Cannot find stored order for local_id: " ++ localId) localId
      | (s, .ok stored) => s.recordFill env localId stored fill

/-- `handle_bar`. -/
def handleBar (s : OrderManager) (bar : Bar) : OrderManager :=
  match s.barSink with
  | some sink => { s with sinkCalls := s.sinkCalls ++ [.bar sink bar] }
  | none => s

/-- `handle_tick`. -/
def handleTick (s : OrderManager) (tick : Tick) : OrderManager :=
  match s.tickSink with
  | some sink => { s with sinkCalls := s.sinkCalls ++ [.tick sink tick] }
  | none => s

/-- `set_market_data_sinks`. -/
def setMarketDataSinks (s : OrderManager) (tickSink barSink : SinkId) : OrderManager :=
  { s with tickSink := some tickSink, barSink := some barSink }

/-- `clear_market_data_sinks`. -/
def clearMarketDataSinks (s : OrderManager) : OrderManager :=
  { s with tickSink := none, barSink := none }

/-- `set_fill_sink`. -/
def setFillSink (s : OrderManager) (sink : SinkId) : OrderManager :=
  { s with fillSink := some sink }

/-- `clear_fill_sink`. -/
def clearFillSink (s : OrderManager) : OrderManager := { s with fillSink := none }

/-- The `std::visit` of `run_dispatch_loop`. -/
def handle (s : OrderManager) (env : Env) : OMEvent → Handler
  | .executionReport fill => .done (s.handleFill env fill)
  | .bar bar => .done (s.handleBar bar)
  | .tick tick => .done (s.handleTick tick)
  | .submitCommand signal => s.handleSubmitCommand env signal
  | .cancelCommand signal => s.handleCancelCommand env signal
  | .replaceCommand signal => s.handleReplaceCommand env signal
  | .cancelAllCommand reason initiatedBy => s.handleCancelAllCommand env reason initiatedBy

end OrderManager

/-! ## The queue -/

/-- `MAX_MARKETDATA_QUEUE_DEPTH`. -/
def maxMarketDataQueueDepth : ℕ := 8192

/-- `OrderManager::enqueue`: market data is dropped when the queue is full, nothing else is. -/
def EventQueue.enqueue (queue : EventQueue OMEvent) : OMEvent → EventQueue OMEvent
  | .bar bar => (queue.tryPush (.bar bar) maxMarketDataQueueDepth).1
  | .tick tick => (queue.tryPush (.tick tick) maxMarketDataQueueDepth).1
  | event => queue.push event

/-! ## Runs -/

/-- One round of the dispatch loop: the event that is popped, with everything its handler meets. -/
structure Input where
  event : OMEvent
  env : Env
  gateway : GatewayAnswers

/-- One round of `run_dispatch_loop`. -/
def dispatch (s : OrderManager) (i : Input) : OrderManager :=
  (s.handle i.env i.event).run i.gateway.answer

/-- A call on the gateway with the state in which it was made and the answer. -/
abbrev GatewayExchange := Program.Exchange GatewayCall GatewayCall.Answer OrderManager

/-- The calls on the gateway made in one round. -/
def exchanges (s : OrderManager) (i : Input) : List GatewayExchange :=
  (s.handle i.env i.event).exchanges i.gateway.answer

/-- What a successful call on the gateway does at the broker. -/
inductive GatewayEffect where
  /-- The order is live under the broker id. -/
  | opened (broker : BrokerOrderId) (order : V1.Order)
  /-- The order is cancelled. -/
  | closed (broker : BrokerOrderId)
  /-- The order is replaced by the new order under the new broker id. -/
  | moved (broker newBroker : BrokerOrderId) (newOrder : V1.Order)
  deriving DecidableEq

/-- The effect of a call, when it succeeded. -/
def effectOf : GatewayExchange → Option GatewayEffect
  | ⟨_, .submitOrder order, .ok broker⟩ => some (.opened broker order)
  | ⟨_, .cancelOrder broker, .ok _⟩ => some (.closed broker)
  | ⟨_, .replaceOrder broker newOrder, .ok newBroker⟩ => some (.moved broker newBroker newOrder)
  | ⟨_, .submitOrder _, .error _⟩ | ⟨_, .cancelOrder _, .error _⟩
  | ⟨_, .replaceOrder _ _, .error _⟩ => none

/-- The effects of one round at the broker. -/
def effects (s : OrderManager) (i : Input) : List GatewayEffect :=
  (exchanges s i).filterMap effectOf

/-- Every call on the store succeeds while the event is handled.  An insertion or an update that
breaks the uniqueness of the local ids or of the broker ids counts as a failure. -/
def StoreSucceeds (s : OrderManager) (i : Input) : Prop :=
  (dispatch s i).storeFailures = s.storeFailures

instance (s : OrderManager) (i : Input) : Decidable (StoreSucceeds s i) :=
  inferInstanceAs (Decidable ((dispatch s i).storeFailures = s.storeFailures))

/-! ## Quiet surroundings -/

/-- Surroundings in which no call on the store fails and the clocks stand still. -/
def Env.quiet : Env where
  now := ⟨0, by decide, by decide⟩
  idClock := 0
  currentTime := "1970-01-01T00:00:00.000000000Z"
  sqliteNow := "1970-01-01 00:00:00"
  debugString := fun order => order.id
  formatDouble := fun _ => ""
  storeFault := fun _ => none
  openOrdersRead := none

/-- A gateway that accepts every call and names the new order `broker`. -/
def GatewayAnswers.accepting (broker : BrokerOrderId) : GatewayAnswers where
  submitOrder := fun _ => .ok broker
  cancelOrder := fun _ => .ok ()
  replaceOrder := fun _ _ => .ok broker

/-- The event in quiet surroundings, the gateway naming new orders `broker`. -/
def OMEvent.quietly (event : OMEvent) (broker : BrokerOrderId) : Input :=
  ⟨event, .quiet, .accepting broker⟩

end Quarcc
