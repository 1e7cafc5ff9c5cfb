import QuarccEngine.OrderManager.Agreement

/-!
# The audit trail

The journal is the audit trail of the orders: a call on it carries an event and the local id of the
order that it is about.  `Input.logs` says what one event logs when no call on the store fails, and
`dispatch_logged` that the handlers log this and nothing else.

The main result is that the numbers of these calls balance along every run.
-/

namespace Quarcc

/-! ## What an event logs -/

/-- What the audit trail keeps of a call on the journal: the event and the order. -/
def LogCall.key (call : LogCall) : Event × LocalOrderId := (call.event, call.correlationId)

/-- The audit trail. -/
def OrderManager.logged (s : OrderManager) : List (Event × LocalOrderId) :=
  s.journal.map LogCall.key

/-- The event that reports a fill of the order with the row `row`. -/
def fillEvent (row : StoredOrder) (report : V1.ExecutionReport) : Event :=
  if row.order.quantity ≤ row.filledQuantity + report.filledQuantity then .orderFilled
  else .orderPartiallyFilled

/-- What the kill switch of `i` logs for an open order. -/
def Input.killLog (i : Input) (row : StoredOrder) : Option (Event × LocalOrderId) :=
  match row.brokerId with
  | none => none
  | some broker =>
    match i.gateway.cancelOrder broker with
    | .ok () => some (.orderCancelled, row.localId)
    | .error _ => some (.errorOccurred, row.localId)

/-- What the event of `i` logs in the state `s` when no call on the store fails. -/
def Input.logs (s : OrderManager) (i : Input) : List (Event × LocalOrderId) :=
  match i.event with
  | .bar _ | .tick _ => []
  | .executionReport report =>
    match s.idMapper.getLocalId report.brokerOrderId with
    | none => []
    | some localId =>
      if report.isTerminal then []
      else ((s.orderStore.find localId).map fun row => (fillEvent row report, localId)).toList
  | .submitCommand signal =>
    [(.orderCreated, (s.orderOfSubmit i.env signal).id),
      match s.checkSubmit signal with
      | .error _ => (.orderRejected, (s.orderOfSubmit i.env signal).id)
      | .ok () =>
        match i.gateway.submitOrder (s.orderOfSubmit i.env signal) with
        | .error _ => (.orderRejected, (s.orderOfSubmit i.env signal).id)
        | .ok _ => (.orderSubmitted, (s.orderOfSubmit i.env signal).id)]
  | .cancelCommand signal =>
    match s.idMapper.getBrokerId signal.orderId with
    | none => []
    | some broker =>
      match i.gateway.cancelOrder broker with
      | .error _ => []
      | .ok () => [(.orderCancelled, signal.orderId)]
  | .replaceCommand signal =>
    match s.idMapper.getBrokerId signal.orderId with
    | none => []
    | some broker =>
      [(.orderReplaced, (s.orderOfReplace i.env signal).id),
        match i.gateway.replaceOrder broker (s.orderOfReplace i.env signal) with
        | .error _ => (.orderRejected, (s.orderOfReplace i.env signal).id)
        | .ok _ => (.orderSubmitted, (s.orderOfReplace i.env signal).id)]
  | .cancelAllCommand _ _ =>
    (.killSwitchActivated, "") :: (s.orderStore.getOpenOrders none).filterMap i.killLog

namespace Input

variable {s : OrderManager} {i : Input}

/-- An order that the risk manager or the gateway refuses. -/
lemma logs_refused {signal : V1.StrategySignal} (hevent : i.event = .submitCommand signal)
    (hrefused : s.checkSubmit signal = .ok () →
      ∃ e, i.gateway.submitOrder (s.orderOfSubmit i.env signal) = .error e) :
    i.logs s = [(.orderCreated, (s.orderOfSubmit i.env signal).id),
      (.orderRejected, (s.orderOfSubmit i.env signal).id)] := by
  unfold logs
  rw [hevent]
  dsimp only
  cases hcheck : s.checkSubmit signal with
  | error e => rfl
  | ok u =>
    obtain ⟨e, he⟩ := hrefused hcheck
    dsimp only
    rw [he]

/-- An order that the gateway accepts. -/
lemma logs_accepted {signal : V1.StrategySignal} {broker : BrokerOrderId}
    (hevent : i.event = .submitCommand signal) (hcheck : s.checkSubmit signal = .ok ())
    (haccept : i.gateway.submitOrder (s.orderOfSubmit i.env signal) = .ok broker) :
    i.logs s = [(.orderCreated, (s.orderOfSubmit i.env signal).id),
      (.orderSubmitted, (s.orderOfSubmit i.env signal).id)] := by
  unfold logs
  simp only [hevent, hcheck, haccept]

/-- A mapped order that the gateway cancels. -/
lemma logs_cancelled {signal : V1.CancelSignal} {broker : BrokerOrderId}
    (hevent : i.event = .cancelCommand signal)
    (hmapped : s.idMapper.getBrokerId signal.orderId = some broker)
    (haccept : i.gateway.cancelOrder broker = .ok ()) :
    i.logs s = [(.orderCancelled, signal.orderId)] := by
  unfold logs
  simp only [hevent, hmapped, haccept]

/-- A mapped order that the gateway replaces. -/
lemma logs_replaced {signal : V1.ReplaceSignal} {broker newBroker : BrokerOrderId}
    (hevent : i.event = .replaceCommand signal)
    (hmapped : s.idMapper.getBrokerId signal.orderId = some broker)
    (haccept : i.gateway.replaceOrder broker (s.orderOfReplace i.env signal) = .ok newBroker) :
    i.logs s = [(.orderReplaced, (s.orderOfReplace i.env signal).id),
      (.orderSubmitted, (s.orderOfReplace i.env signal).id)] := by
  unfold logs
  simp only [hevent, hmapped, haccept]

/-- A report about an order that is not mapped. -/
lemma logs_unmapped {report : V1.ExecutionReport} (hevent : i.event = .executionReport report)
    (hmapped : s.idMapper.getLocalId report.brokerOrderId = none) : i.logs s = [] := by
  unfold logs
  simp only [hevent, hmapped]

/-- A terminal report. -/
lemma logs_terminal {report : V1.ExecutionReport} {localId : LocalOrderId}
    (hevent : i.event = .executionReport report)
    (hmapped : s.idMapper.getLocalId report.brokerOrderId = some localId)
    (hterminal : report.isTerminal = true) : i.logs s = [] := by
  unfold logs
  simp only [hevent, hmapped, hterminal, if_true]

/-- A fill of a stored order. -/
lemma logs_fill {report : V1.ExecutionReport} {localId : LocalOrderId} {row : StoredOrder}
    (hevent : i.event = .executionReport report)
    (hmapped : s.idMapper.getLocalId report.brokerOrderId = some localId)
    (hterminal : report.isTerminal = false) (hrow : s.orderStore.find localId = some row) :
    i.logs s = [(fillEvent row report, localId)] := by
  unfold logs
  simp [hevent, hmapped, hterminal, hrow]

end Input

namespace OrderManager

variable (s : OrderManager) (env : Env) (localId : LocalOrderId)

@[simp] lemma log_logged (event : Event) (data correlationId : String) :
    (s.log event data correlationId).logged = s.logged ++ [(event, correlationId)] := by
  simp [logged, log, LogCall.key]

@[simp] lemma setValue_logged (reply : Reply) : (s.setValue reply).logged = s.logged := rfl

@[simp] lemma notifyFillSink_logged (fill : V1.ExecutionReport) :
    (s.notifyFillSink fill).logged = s.logged := by
  unfold notifyFillSink
  cases s.fillSink <;> rfl

/-- A rejected submit command is logged as such. -/
lemma rejectSubmit_logged {e : Error}
    (hok : (s.rejectSubmit env localId e).storeFailures = s.storeFailures) :
    (s.rejectSubmit env localId e).logged = s.logged ++ [(.orderRejected, localId)] := by
  unfold rejectSubmit at hok ⊢
  dsimp only at hok ⊢
  rcases (s.log .orderRejected e.message localId).updateOrderStatus_cases env localId .rejected with
    ⟨-, e', h⟩ | ⟨-, h⟩
  · rw [h] at hok
    simp at hok
  · rw [h]
    exact s.log_logged _ _ _

/-- An accepted submit command is logged as such. -/
lemma acceptSubmit_logged {broker : BrokerOrderId}
    (hok : (s.acceptSubmit env localId broker).storeFailures = s.storeFailures) :
    (s.acceptSubmit env localId broker).logged = s.logged ++ [(.orderSubmitted, localId)] := by
  unfold acceptSubmit at hok ⊢
  rcases s.updateOrderStatus_cases env localId .submitted with ⟨-, e, h⟩ | ⟨-, h⟩
  · rw [h] at hok
    simp at hok
  rw [h] at hok ⊢
  dsimp only [updateBrokerId] at hok ⊢
  generalize SQLiteOrderStore.updateBrokerId _ localId broker _ _ = result at hok ⊢
  cases result with
  | error e => simp [runStatement, addMapping, addOpenOrders] at hok
  | ok store => simp [runStatement, addMapping, addOpenOrders, logFailure, logged, log, LogCall.key,
      setValue]

/-- A cancelled order is logged as such, before the store is told. -/
lemma acceptCancel_logged :
    (s.acceptCancel env localId).storeFailures = s.storeFailures →
      (s.acceptCancel env localId).logged = s.logged ++ [(.orderCancelled, localId)] := by
  intro hok
  unfold acceptCancel at hok ⊢
  dsimp only at hok ⊢
  rcases ((s.log .orderCancelled "Cancelled" localId).removeMapping localId).updateOrderStatus_cases
      env localId .cancelled with ⟨-, e, h⟩ | ⟨-, h⟩
  · rw [h] at hok
    simp [removeMapping] at hok
  · rw [h]
    exact s.log_logged _ _ _

/-- A replacement is logged as submitted. -/
lemma acceptReplace_logged {oldId newId : LocalOrderId} {newOrder : V1.Order}
    {newBroker : BrokerOrderId}
    (hok : (s.acceptReplace env oldId newId newOrder newBroker).storeFailures =
      s.storeFailures) :
    (s.acceptReplace env oldId newId newOrder newBroker).logged =
      s.logged ++ [(.orderSubmitted, newId)] := by
  obtain ⟨createdAt, hts⟩ := timestampToString_ok env.now
  unfold acceptReplace at hok ⊢
  dsimp only at hok ⊢
  rcases (s.removeMapping oldId).updateOrderStatus_cases env oldId .replaced with ⟨-, e, h⟩ | ⟨-, h⟩
  · rw [h] at hok
    simp [removeMapping] at hok
  rw [h, hts] at hok ⊢
  dsimp only [storeOrder] at hok ⊢
  generalize SQLiteOrderStore.storeOrder _ _ _ = result at hok ⊢
  cases result with
  | error e => simp [runStatement, removeMapping] at hok
  | ok store => simp [runStatement, removeMapping, addMapping, logged, log, LogCall.key, setValue]

/-- An order that the kill switch has cancelled is logged as such. -/
lemma killOrder_logged (hok : (s.killOrder env localId).storeFailures = s.storeFailures) :
    (s.killOrder env localId).logged = s.logged ++ [(.orderCancelled, localId)] := by
  unfold killOrder at hok ⊢
  rcases s.updateOrderStatus_cases env localId .cancelled with ⟨-, e, h⟩ | ⟨-, h⟩
  · rw [h] at hok
    simp at hok
  · rw [h]
    simp [removeMapping, logged, log, LogCall.key]

/-- A terminal report is not logged. -/
lemma closeOrder_logged {fill : V1.ExecutionReport}
    (hok : (s.closeOrder env localId fill).storeFailures = s.storeFailures) :
    (s.closeOrder env localId fill).logged = s.logged := by
  unfold closeOrder at hok ⊢
  dsimp only at hok ⊢
  generalize (if fill.status = .rejected then OrderStatus.rejected else OrderStatus.cancelled) =
    status at hok ⊢
  rcases s.updateOrderStatus_cases env localId status with ⟨-, e, h⟩ | ⟨-, h⟩
  · rw [h] at hok
    simp [removeMapping] at hok
  · rw [h, notifyFillSink_logged]
    rfl

/-- A fill is logged, as a partial one or as the last one. -/
lemma recordFill_logged {row : StoredOrder} {fill : V1.ExecutionReport}
    (hok : (s.recordFill env localId row fill).storeFailures = s.storeFailures) :
    (s.recordFill env localId row fill).logged = s.logged ++ [(fillEvent row fill, localId)] := by
  unfold recordFill at hok ⊢
  dsimp only at hok ⊢
  generalize (if decide (row.order.quantity ≤ row.filledQuantity + fill.filledQuantity) = true then
    OrderStatus.filled else .partiallyFilled) = status at hok ⊢
  rcases s.applyFill_cases env localId fill.filledQuantity fill.avgFillPrice status with
    ⟨-, e, h⟩ | ⟨-, h⟩
  · rw [h] at hok
    by_cases hfull : row.order.quantity ≤ row.filledQuantity + fill.filledQuantity <;>
      simp [hfull, removeMapping, addOpenOrders, onFill] at hok
  · rw [h, notifyFillSink_logged]
    unfold fillEvent
    by_cases hfull : row.order.quantity ≤ row.filledQuantity + fill.filledQuantity <;>
      simp [hfull, removeMapping, addOpenOrders, onFill, logFailure, logged, log, LogCall.key]

end OrderManager

/-- The loop of the kill switch logs what becomes of every order that has a broker id. -/
lemma cancelOpenOrders_logged (i : Input) (orders : List StoredOrder) (s : OrderManager)
    (hok : ((OrderManager.cancelOpenOrders i.env orders s).run i.gateway.answer).storeFailures =
      s.storeFailures) :
    ((OrderManager.cancelOpenOrders i.env orders s).run i.gateway.answer).logged =
      s.logged ++ orders.filterMap i.killLog := by
  induction orders generalizing s with
  | nil => simp [OrderManager.cancelOpenOrders]
  | cons stored rest ih =>
    unfold OrderManager.cancelOpenOrders at hok ⊢
    cases hbroker : stored.brokerId with
    | none =>
      have hnone : i.killLog stored = none := by simp [Input.killLog, hbroker]
      rw [hbroker] at hok
      rw [List.filterMap_cons_none hnone]
      exact ih s hok
    | some broker =>
      rw [hbroker] at hok
      simp only [Program.run_call, GatewayAnswers.answer] at hok ⊢
      cases haccept : i.gateway.cancelOrder broker with
      | error e =>
        have hsome : i.killLog stored = some (.errorOccurred, stored.localId) := by
          simp [Input.killLog, hbroker, haccept]
        rw [haccept] at hok
        have hrest := ih _ hok
        rw [List.filterMap_cons_some hsome]
        apply hrest.trans
        rw [OrderManager.log_logged, List.append_assoc]
        rfl
      | ok u =>
        have hsome : i.killLog stored = some (.orderCancelled, stored.localId) := by
          simp [Input.killLog, hbroker, haccept]
        rw [haccept] at hok
        obtain ⟨-, hle, -⟩ := cancelOpenOrders_kills i rest (s.killOrder i.env stored.localId)
        dsimp only at hok hle ⊢
        rcases s.killOrder_cases i.env stored.localId with ⟨-, hf⟩ | ⟨-, hf⟩
        · omega
        have hrest := ih (s.killOrder i.env stored.localId) (hok.trans hf.symm)
        rw [List.filterMap_cons_some hsome, hrest, s.killOrder_logged i.env stored.localId hf,
          List.append_assoc]
        rfl

/-- What a report logs. -/
lemma report_logged {s : OrderManager} {i : Input} {report : V1.ExecutionReport}
    (hevent : i.event = .executionReport report) (hok : StoreSucceeds s i) :
    (dispatch s i).logged = s.logged ++ i.logs s := by
  unfold StoreSucceeds dispatch OrderManager.handle at hok
  unfold dispatch OrderManager.handle Input.logs
  rw [hevent] at hok ⊢
  simp only [Program.run_done] at hok ⊢
  unfold OrderManager.handleFill at hok ⊢
  cases hmapped : s.idMapper.getLocalId report.brokerOrderId with
  | none => simp
  | some localId =>
    rw [hmapped] at hok
    dsimp only at hok ⊢
    by_cases hterminal : report.isTerminal = true
    · rw [if_pos hterminal] at hok ⊢
      rw [if_pos hterminal, List.append_nil]
      exact s.closeOrder_logged i.env localId hok
    · rw [if_neg hterminal] at hok ⊢
      rw [if_neg hterminal]
      rcases s.getOrder_cases i.env localId with ⟨-, e, h⟩ | ⟨-, row, hrow, h⟩
      · rw [h] at hok
        simp at hok
      · rw [h] at hok ⊢
        rw [hrow]
        exact s.recordFill_logged i.env localId hok

/-- What a submit command logs. -/
lemma submit_logged {s : OrderManager} {i : Input} {signal : V1.StrategySignal}
    (hevent : i.event = .submitCommand signal) (hok : StoreSucceeds s i) :
    (dispatch s i).logged = s.logged ++ i.logs s := by
  unfold StoreSucceeds dispatch OrderManager.handle at hok
  unfold dispatch OrderManager.handle Input.logs
  rw [hevent] at hok ⊢
  obtain ⟨createdAt, hts⟩ := timestampToString_ok i.env.now
  dsimp only at hok ⊢
  rw [s.handleSubmitCommand_eq i.env signal hts] at hok ⊢
  rcases (s.beginSubmit i.env signal).storeOrder_cases i.env
      (s.rowOfSubmit i.env signal createdAt) with ⟨-, e, hstore⟩ | ⟨-, store, hins, hstore⟩
  · rw [hstore] at hok
    simp [OrderManager.beginSubmit, OrderManager.generate] at hok
  rw [hstore] at hok ⊢
  dsimp only at hok ⊢
  generalize hs' : ({ s.beginSubmit i.env signal with orderStore := store } : OrderManager) = s'
    at hok ⊢
  have hlogged : s'.logged = s.logged ++ [(.orderCreated, (s.orderOfSubmit i.env signal).id)] := by
    rw [← hs']
    exact (s.generate i.env).2.log_logged _ _ _
  have hfail : s'.storeFailures = s.storeFailures := by
    rw [← hs']
    rfl
  have hcheck : s'.checkSubmit signal = s.checkSubmit signal := by
    rw [← hs']
    rfl
  rw [hcheck] at hok ⊢
  cases hrisk : s.checkSubmit signal with
  | error e =>
    rw [hrisk] at hok
    simp only [Program.run_done] at hok ⊢
    rw [s'.rejectSubmit_logged i.env _ (hok.trans hfail.symm), hlogged, List.append_assoc]
    rfl
  | ok u =>
    rw [hrisk] at hok
    simp only [Program.run_call, GatewayAnswers.answer] at hok ⊢
    cases haccept : i.gateway.submitOrder (s.orderOfSubmit i.env signal) with
    | error e =>
      rw [haccept] at hok
      simp only [Program.run_done] at hok ⊢
      rw [s'.rejectSubmit_logged i.env _ (hok.trans hfail.symm), hlogged, List.append_assoc]
      rfl
    | ok broker =>
      rw [haccept] at hok
      simp only [Program.run_done] at hok ⊢
      rw [s'.acceptSubmit_logged i.env _ (hok.trans hfail.symm), hlogged, List.append_assoc]
      rfl

/-- What a cancel command logs. -/
lemma cancel_logged {s : OrderManager} {i : Input} {signal : V1.CancelSignal}
    (hevent : i.event = .cancelCommand signal) (hok : StoreSucceeds s i) :
    (dispatch s i).logged = s.logged ++ i.logs s := by
  unfold StoreSucceeds dispatch OrderManager.handle at hok
  unfold dispatch OrderManager.handle Input.logs
  rw [hevent] at hok ⊢
  dsimp only at hok ⊢
  unfold OrderManager.handleCancelCommand at hok ⊢
  cases hmapped : s.idMapper.getBrokerId signal.orderId with
  | none => simp
  | some broker =>
    rw [hmapped] at hok
    simp only [Program.run_call, GatewayAnswers.answer] at hok ⊢
    cases haccept : i.gateway.cancelOrder broker with
    | error e => simp
    | ok u =>
      rw [haccept] at hok
      exact s.acceptCancel_logged i.env signal.orderId hok

/-- What a replace command logs. -/
lemma replace_logged {s : OrderManager} {i : Input} {signal : V1.ReplaceSignal}
    (hevent : i.event = .replaceCommand signal) (hok : StoreSucceeds s i) :
    (dispatch s i).logged = s.logged ++ i.logs s := by
  unfold StoreSucceeds dispatch OrderManager.handle at hok
  unfold dispatch OrderManager.handle Input.logs
  rw [hevent] at hok ⊢
  dsimp only at hok ⊢
  cases hmapped : s.idMapper.getBrokerId signal.orderId with
  | none =>
    unfold OrderManager.handleReplaceCommand
    simp [hmapped]
  | some broker =>
    rw [s.handleReplaceCommand_eq i.env signal hmapped] at hok ⊢
    simp only [Program.run_call, GatewayAnswers.answer] at hok ⊢
    have hlogged : (s.beginReplace i.env signal).logged =
        s.logged ++ [(.orderReplaced, (s.orderOfReplace i.env signal).id)] :=
      (s.generate i.env).2.log_logged _ _ _
    cases haccept : i.gateway.replaceOrder broker (s.orderOfReplace i.env signal) with
    | error e => simp [hlogged]
    | ok newBroker =>
      rw [haccept] at hok
      simp only [Program.run_done] at hok ⊢
      rw [(s.beginReplace i.env signal).acceptReplace_logged i.env hok, hlogged,
        List.append_assoc]
      rfl

/-- What a kill switch logs. -/
lemma cancelAll_logged {s : OrderManager} {i : Input} {reason initiatedBy : String}
    (hevent : i.event = .cancelAllCommand reason initiatedBy) (hok : StoreSucceeds s i) :
    (dispatch s i).logged = s.logged ++ i.logs s := by
  unfold StoreSucceeds dispatch OrderManager.handle at hok
  unfold dispatch OrderManager.handle Input.logs
  rw [hevent] at hok ⊢
  dsimp only at hok ⊢
  unfold OrderManager.handleCancelAllCommand OrderManager.getOpenOrders at hok ⊢
  have hlogged := s.log_logged .killSwitchActivated
    ("Kill switch activated by: " ++ initiatedBy ++ ". Reason: " ++ reason) ""
  have hstore : (s.log .killSwitchActivated
    ("Kill switch activated by: " ++ initiatedBy ++ ". Reason: " ++ reason)).orderStore =
      s.orderStore := rfl
  have hfail : (s.log .killSwitchActivated
    ("Kill switch activated by: " ++ initiatedBy ++ ". Reason: " ++ reason)).storeFailures =
      s.storeFailures := rfl
  generalize s.log .killSwitchActivated
    ("Kill switch activated by: " ++ initiatedBy ++ ". Reason: " ++ reason) = s₁
    at hok hlogged hstore hfail ⊢
  cases hread : i.env.openOrdersRead with
  | some n =>
    rw [hread] at hok
    obtain ⟨-, hle, -⟩ := cancelOpenOrders_kills i (s₁.orderStore.getOpenOrders (some n))
      { s₁ with storeFailures := s₁.storeFailures + 1 }
    have hle' : s₁.storeFailures + 1 ≤ s.storeFailures := hle.trans hok.le
    omega
  | none =>
    rw [hread] at hok
    dsimp only at hok ⊢
    rw [cancelOpenOrders_logged i _ _ (hok.trans hfail.symm), hlogged, List.append_assoc, hstore]
    rfl

/-- **What an event logs** when no call on the store fails. -/
theorem dispatch_logged {s : OrderManager} {i : Input} (hok : StoreSucceeds s i) :
    (dispatch s i).logged = s.logged ++ i.logs s := by
  cases hevent : i.event with
  | bar bar =>
    unfold dispatch OrderManager.handle OrderManager.handleBar Input.logs
    rw [hevent]
    simp only [Program.run_done, List.append_nil]
    cases s.barSink <;> rfl
  | tick tick =>
    unfold dispatch OrderManager.handle OrderManager.handleTick Input.logs
    rw [hevent]
    simp only [Program.run_done, List.append_nil]
    cases s.tickSink <;> rfl
  | executionReport report => exact report_logged hevent hok
  | submitCommand signal => exact submit_logged hevent hok
  | cancelCommand signal => exact cancel_logged hevent hok
  | replaceCommand signal => exact replace_logged hevent hok
  | cancelAllCommand reason initiatedBy => exact cancelAll_logged hevent hok

/-! ## The numbers of the calls -/

/-- How often an event was logged. -/
def OrderManager.numLogged (s : OrderManager) (event : Event) : ℕ :=
  s.journal.countP fun call => call.event = event

/-- The number of rows with the status `FILLED`. -/
def SQLiteOrderStore.numFilled (s : SQLiteOrderStore) : ℕ :=
  s.rows.countP fun row => row.status = .filled

/-- Every order that is created or replaces another one is rejected or submitted, and every filled
order was logged as filled once. -/
structure OrderManager.Accounted (s : OrderManager) : Prop where
  submissions : s.numLogged .orderCreated + s.numLogged .orderReplaced =
    s.numLogged .orderRejected + s.numLogged .orderSubmitted
  fills : s.numLogged .orderFilled = s.orderStore.numFilled

/-- How often an event is on the audit trail. -/
def numOn (trail : List (Event × LocalOrderId)) (event : Event) : ℕ :=
  trail.countP fun key => key.1 = event

/-- The calls on the journal are counted on the audit trail. -/
lemma OrderManager.numLogged_eq (s : OrderManager) (event : Event) :
    s.numLogged event = numOn s.logged event := by
  unfold OrderManager.numLogged numOn OrderManager.logged
  rw [List.countP_map]
  rfl

/-- What an event adds to the number of calls. -/
lemma numLogged_dispatch {s : OrderManager} {i : Input} (hok : StoreSucceeds s i) (event : Event) :
    (dispatch s i).numLogged event = s.numLogged event + numOn (i.logs s) event := by
  rw [OrderManager.numLogged_eq, OrderManager.numLogged_eq, dispatch_logged hok]
  exact List.countP_append

/-- The kill switch logs nothing but cancellations and errors. -/
lemma numOn_kill (i : Input) (orders : List StoredOrder) {event : Event}
    (hcancelled : event ≠ .orderCancelled) (herror : event ≠ .errorOccurred) :
    numOn (orders.filterMap i.killLog) event = 0 := by
  refine List.countP_eq_zero.mpr fun key hkey => ?_
  obtain ⟨row, -, hlog⟩ := List.mem_filterMap.mp hkey
  unfold Input.killLog at hlog
  split at hlog
  · cases hlog
  · split at hlog
    · obtain rfl := Option.some.inj hlog
      simpa using hcancelled.symm
    · obtain rfl := Option.some.inj hlog
      simpa using herror.symm

/-- What one event logs is balanced. -/
lemma logs_balanced (s : OrderManager) (i : Input) :
    numOn (i.logs s) .orderCreated + numOn (i.logs s) .orderReplaced =
      numOn (i.logs s) .orderRejected + numOn (i.logs s) .orderSubmitted := by
  unfold Input.logs
  cases i.event with
  | bar _ | tick _ => rfl
  | executionReport report =>
    dsimp only
    split
    · rfl
    split_ifs
    · rfl
    cases s.orderStore.find _ with
    | none => rfl
    | some row =>
      rw [Option.map_some, Option.toList_some]
      unfold fillEvent
      split_ifs <;> rfl
  | submitCommand signal =>
    dsimp only
    split
    · rfl
    split <;> rfl
  | cancelCommand signal =>
    dsimp only
    split
    · rfl
    split <;> rfl
  | replaceCommand signal =>
    dsimp only
    split
    · rfl
    split <;> rfl
  | cancelAllCommand reason initiatedBy =>
    have hcons : ∀ event : Event, event ≠ .killSwitchActivated →
        ∀ trail, numOn ((.killSwitchActivated, "") :: trail) event = numOn trail event := by
      intro event hne trail
      unfold numOn
      rw [List.countP_cons_of_neg]
      simpa using hne.symm
    dsimp only
    rw [hcons _ (by decide), hcons _ (by decide), hcons _ (by decide), hcons _ (by decide),
      numOn_kill i _ (by decide) (by decide), numOn_kill i _ (by decide) (by decide),
      numOn_kill i _ (by decide) (by decide), numOn_kill i _ (by decide) (by decide)]

namespace SQLiteOrderStore

variable {s store : SQLiteOrderStore} {row : StoredOrder}

/-- A new row that is not filled. -/
lemma Inserted.numFilled (h : Inserted s row store) (hstatus : row.status ≠ .filled) :
    store.numFilled = s.numFilled := by
  unfold SQLiteOrderStore.numFilled
  rw [h.rows_eq, List.countP_append]
  simp [hstatus]

/-- A status update of an order that is not filled and does not become so. -/
lemma numFilled_setStatus {localId : LocalOrderId}
    (hrow : ∀ row, s.find localId = some row → row.status ≠ .filled) {status : OrderStatus}
    (hstatus : status ≠ .filled) (now : String) :
    (s.setStatus localId status now).numFilled = s.numFilled := by
  cases hfind : s.find localId with
  | none =>
    have hsame := Table.modify_of_find_none hfind (StoredOrder.withStatus status now)
    exact congrArg (List.countP fun row : StoredOrder => row.status = .filled) hsame
  | some row =>
    have hcount := Table.countP_modify (fun row : StoredOrder => decide (row.status = .filled))
      s.localId_nodup hfind (StoredOrder.withStatus status now)
    have hbefore := hrow row hfind
    have hafter : (row.withStatus status now).status ≠ .filled := hstatus
    simp only [hbefore, hafter, decide_false, Bool.false_eq_true, if_false, add_zero] at hcount
    exact hcount

/-- A fill of an order that is not filled yet. -/
lemma numFilled_addFill {localId : LocalOrderId} (hrow : s.find localId = some row)
    (hbefore : row.status ≠ .filled) (quantity price : ℚ) (status : OrderStatus) (now : String) :
    (s.addFill localId quantity price status now).numFilled =
      s.numFilled + if status = .filled then 1 else 0 := by
  have hcount := Table.countP_modify (fun row : StoredOrder => decide (row.status = .filled))
    s.localId_nodup hrow (StoredOrder.withFill quantity price status now)
  have hafter : (row.withFill quantity price status now).status = status := rfl
  simp only [hbefore, hafter, decide_false, Bool.false_eq_true, if_false, add_zero,
    decide_eq_true_eq] at hcount
  exact hcount

end SQLiteOrderStore

/-- The kill switch fills nothing. -/
lemma Books.kills_numFilled (now : String) (b : Books) (killed : List LocalOrderId)
    (hkilled : ∀ l ∈ killed, ∀ row, b.orderStore.find l = some row → row.status ≠ .filled) :
    (killed.foldl (kill now) b).orderStore.numFilled = b.orderStore.numFilled := by
  induction killed generalizing b with
  | nil => rfl
  | cons localId killed ih =>
    have hone : (b.kill now localId).orderStore.numFilled = b.orderStore.numFilled :=
      SQLiteOrderStore.numFilled_setStatus (hkilled localId List.mem_cons_self) (by decide) now
    rw [List.foldl_cons, ih, hone]
    intro l hl row hrow
    have hfind : (b.kill now localId).orderStore.find l =
        if l = localId then (b.orderStore.find l).map (StoredOrder.withStatus .cancelled now)
        else b.orderStore.find l :=
      SQLiteOrderStore.find_setStatus localId l .cancelled now
    rw [hfind] at hrow
    split_ifs at hrow
    · obtain ⟨row₀, -, rfl⟩ := Option.map_eq_some_iff.mp hrow
      exact OrderStatus.noConfusion
    · exact hkilled l (List.mem_cons_of_mem _ hl) row hrow

/-- The row of a mapped order is open. -/
lemma Agree.open_of_mapped {mapper : OrderIdMapper} {store : SQLiteOrderStore}
    (h : Agree mapper store) {localId : LocalOrderId} {broker : BrokerOrderId}
    (hmapped : mapper.getBrokerId localId = some broker) {row : StoredOrder}
    (hrow : store.find localId = some row) : row.status.isOpen = true := by
  obtain ⟨other, hother, -, hopen⟩ := h.carriedBy localId broker hmapped
  rw [hrow] at hother
  obtain rfl := Option.some.inj hother
  exact hopen

/-- An open order is not filled. -/
lemma OrderStatus.ne_filled_of_isOpen {status : OrderStatus} (h : status.isOpen = true) :
    status ≠ .filled := by
  rintro rfl
  cases h

/-- Only a report that is not terminal is logged as a fill. -/
lemma numOn_filled_eq_zero {s : OrderManager} {i : Input}
    (h : ∀ report, i.event = .executionReport report → i.logs s = []) :
    numOn (i.logs s) .orderFilled = 0 := by
  cases hevent : i.event with
  | executionReport report =>
    rw [h report hevent]
    rfl
  | bar _ | tick _ =>
    unfold Input.logs
    rw [hevent]
    rfl
  | submitCommand signal =>
    unfold Input.logs
    rw [hevent]
    dsimp only
    split
    · rfl
    split <;> rfl
  | cancelCommand signal | replaceCommand signal =>
    unfold Input.logs
    rw [hevent]
    dsimp only
    split
    · rfl
    split <;> rfl
  | cancelAllCommand reason initiatedBy =>
    unfold Input.logs
    rw [hevent]
    exact numOn_kill i _ (by decide) (by decide)

/-- **Step lemma.**  An event logs a fill exactly when it makes a row `FILLED`. -/
theorem Move.numFilled {s : OrderManager} {i : Input} {ok : Prop} {done : List GatewayEffect}
    {b : Books} (h : Agree s.idMapper s.orderStore) (hok : ok) (hmove : Move s i ok done b) :
    b.orderStore.numFilled = s.orderStore.numFilled + numOn (i.logs s) .orderFilled := by
  have hopen : ∀ {localId : LocalOrderId} {broker : BrokerOrderId},
      s.idMapper.getBrokerId localId = some broker →
        ∀ row, s.orderStore.find localId = some row → row.status ≠ .filled :=
    fun hmapped row hrow => OrderStatus.ne_filled_of_isOpen (h.open_of_mapped hmapped hrow)
  have noReport : ∀ {event : OMEvent}, i.event = event → event.hasPromise = true →
      ∀ report, i.event = .executionReport report → i.logs s = [] := by
    intro event hevent hpromise report hreport
    rw [← hevent, hreport] at hpromise
    cases hpromise
  cases hmove with
  | skip _ hfail | lose _ _ _ _ _ _ hfail | unmap _ _ hfail | forget _ _ _ _ hfail
  | retire _ _ _ _ hfail =>
    exact absurd hok hfail
  | stay hidle =>
    have hzero : numOn (i.logs s) .orderFilled = 0 := by
      refine numOn_filled_eq_zero fun report hevent => Input.logs_unmapped hevent ?_
      unfold Input.Idle at hidle
      rwa [hevent] at hidle
    rw [hzero, add_zero]
  | refuse hevent _ hrow hstatus hins =>
    obtain rfl : _ = OrderStatus.rejected := hstatus.resolve_right fun h => h.2 hok
    rw [numOn_filled_eq_zero (noReport hevent rfl), add_zero]
    apply hins.numFilled
    rw [hrow.status_eq]
    decide
  | accept hevent _ _ hrow _ hins =>
    rw [numOn_filled_eq_zero (noReport hevent rfl), add_zero]
    apply hins.numFilled
    rw [hrow.status_eq]
    decide
  | cancel hevent hmapped _ =>
    rw [numOn_filled_eq_zero (noReport hevent rfl), add_zero]
    exact SQLiteOrderStore.numFilled_setStatus (hopen hmapped) (by decide) _
  | replace hevent hmapped _ hrow hins =>
    rw [numOn_filled_eq_zero (noReport hevent rfl), add_zero]
    refine (hins.numFilled ?_).trans
      (SQLiteOrderStore.numFilled_setStatus (hopen hmapped) (by decide) _)
    rw [hrow.status_eq]
    decide
  | @killSwitch _ _ killed hevent hsub _ _ =>
    rw [numOn_filled_eq_zero (noReport hevent rfl), add_zero]
    refine Books.kills_numFilled _ _ _ fun l hl row hrow => ?_
    obtain ⟨other, hother, rfl⟩ := List.mem_map.mp hl
    obtain ⟨hmem, hstatus⟩ := SQLiteOrderStore.mem_getOpenOrders (hsub.subset hother)
    rw [SQLiteOrderStore.find_of_mem hmem] at hrow
    obtain rfl := Option.some.inj hrow
    exact OrderStatus.ne_filled_of_isOpen hstatus
  | close hevent hmapped hterminal hstatus hupdated =>
    have hzero : numOn (i.logs s) .orderFilled = 0 := by
      rw [Input.logs_terminal hevent hmapped hterminal]
      rfl
    rw [hzero, add_zero, hupdated hok]
    refine SQLiteOrderStore.numFilled_setStatus (hopen ((h.inverse _ _).mp hmapped)) ?_ _
    rcases hstatus with rfl | rfl <;> decide
  | @fill report localId row applied hevent hmapped hterminal hrow _ happlied =>
    rw [Input.logs_fill hevent hmapped hterminal hrow, Books.fill_orderStore, happlied hok,
      if_pos rfl,
      SQLiteOrderStore.numFilled_addFill hrow (hopen ((h.inverse _ _).mp hmapped) row hrow)]
    unfold Books.fillStatus fillEvent numOn
    by_cases hfull : row.order.quantity ≤ row.filledQuantity + report.filledQuantity
    · rw [if_pos hfull, if_pos hfull]
      rfl
    · rw [if_neg hfull, if_neg hfull]
      rfl

/-- **The journal accounts for the orders** in every state of a run that starts with an empty store
and in which the store succeeds. -/
theorem journal_accounts (accountId : String) (riskManager : RiskManager) (inputs : List Input)
    (hok : Trajectory.AllSteps dispatch StoreSucceeds
      (createOrderManager accountId .empty riskManager) inputs) :
    Trajectory.EveryState dispatch OrderManager.Accounted
      (createOrderManager accountId .empty riskManager) inputs := by
  have hinv : Trajectory.EveryState dispatch
      (fun s => Agree s.idMapper s.orderStore ∧ s.Accounted)
      (createOrderManager accountId .empty riskManager) inputs := by
    refine Trajectory.everyState_of_invariant ?_ ⟨Agree.empty, rfl, rfl⟩ hok
    rintro s i ⟨hagree, hsubmissions, hfills⟩ hi
    have hbalanced := logs_balanced s i
    refine ⟨hagree.dispatch hi, ?_, ?_⟩
    · rw [numLogged_dispatch hi, numLogged_dispatch hi, numLogged_dispatch hi,
        numLogged_dispatch hi]
      omega
    · rw [numLogged_dispatch hi, (dispatch_move s i).numFilled hagree hi, hfills]
  exact hinv.mono fun s h => h.2

/-- An order that is submitted and filled. -/
theorem journal_accounts_filled :
    let buy := OMEvent.submitCommand { symbol := "AAPL", side := .buy, targetQuantity := 10 }
    let filled := OMEvent.executionReport
      { brokerOrderId := "B1", symbol := "AAPL", side := .buy, filledQuantity := 10,
        avgFillPrice := 100 }
    Trajectory.AllSteps dispatch StoreSucceeds (createOrderManager "ACC" .empty ⟨{}⟩)
        [buy.quietly "B1", filled.quietly "B2"] ∧
      Trajectory.EveryState dispatch OrderManager.Accounted (createOrderManager "ACC" .empty ⟨{}⟩)
        [buy.quietly "B1", filled.quietly "B2"] := by
  intro buy filled
  have hok : Trajectory.AllSteps dispatch StoreSucceeds (createOrderManager "ACC" .empty ⟨{}⟩)
      [buy.quietly "B1", filled.quietly "B2"] := by
    decide +kernel
  exact ⟨hok, journal_accounts "ACC" ⟨{}⟩ _ hok⟩

end Quarcc
