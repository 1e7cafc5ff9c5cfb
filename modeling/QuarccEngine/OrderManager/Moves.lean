import QuarccEngine.Core.OrderManager

/-!
# What one event does to the books

The handlers of the order manager mix the update of the books with logging, replies and the early
returns on errors.  This module says once what an event can do to the books: `Move s i ok b` holds
of the books `b` that are possible after the event of `i` was handled in the state `s`, where `ok`
says that no call on the store failed on the way.  The main result, `dispatch_move`, is that every
round of the dispatch loop is such a move.  The invariants of the later modules look at the moves
only.
-/

namespace Quarcc

/-! ## Updates of the books -/

namespace Books

/-- The books with the status of one order changed. -/
def setStatus (b : Books) (localId : LocalOrderId) (status : OrderStatus) (now : String) : Books :=
  { b with orderStore := b.orderStore.setStatus localId status now }

/-- The books with one order mapped. -/
def addMapping (b : Books) (localId : LocalOrderId) (broker : BrokerOrderId) : Books :=
  { b with idMapper := b.idMapper.addMapping localId broker }

/-- The books with one order unmapped. -/
def removeMapping (b : Books) (localId : LocalOrderId) : Books :=
  { b with idMapper := b.idMapper.removeMapping localId }

/-- The books with the count of open orders changed. -/
def addOpenOrders (b : Books) (n : ℤ) : Books :=
  { b with openOrderCount := b.openOrderCount + n }

/-- The books after the kill switch has dealt with an order that the gateway cancelled. -/
def kill (now : String) (b : Books) (localId : LocalOrderId) : Books :=
  (b.setStatus localId .cancelled now).removeMapping localId

/-- The orders that the kill switch deals with are no longer mapped. -/
lemma getBrokerId_kills (now : String) (b : Books) (killed : List LocalOrderId)
    (l : LocalOrderId) :
    (killed.foldl (kill now) b).idMapper.getBrokerId l =
      if l ∈ killed then none else b.idMapper.getBrokerId l := by
  induction killed generalizing b with
  | nil => simp
  | cons localId killed ih =>
    have hone : (b.kill now localId).idMapper.getBrokerId l =
        if l = localId then none else b.idMapper.getBrokerId l :=
      OrderIdMapper.getBrokerId_removeMapping b.idMapper localId l
    rw [List.foldl_cons, ih, hone]
    by_cases hl : l = localId
    · simp [hl]
    · simp [hl]

/-- The kill switch cancels the orders that it deals with and keeps the other rows. -/
lemma find_kills (now : String) (b : Books) (killed : List LocalOrderId) (l : LocalOrderId) :
    (killed.foldl (kill now) b).orderStore.find l =
      if l ∈ killed then (b.orderStore.find l).map (StoredOrder.withStatus .cancelled now)
      else b.orderStore.find l := by
  induction killed generalizing b with
  | nil => simp
  | cons localId killed ih =>
    have hone : (b.kill now localId).orderStore.find l =
        if l = localId then (b.orderStore.find l).map (StoredOrder.withStatus .cancelled now)
        else b.orderStore.find l :=
      SQLiteOrderStore.find_setStatus localId l .cancelled now
    rw [List.foldl_cons, ih, hone]
    by_cases hl : l = localId
    · rw [if_pos hl, if_pos (List.mem_cons.mpr (Or.inl hl))]
      split_ifs
      · cases b.orderStore.find l <;> rfl
      · rfl
    · simp [hl]

/-- The kill switch leaves the positions alone. -/
lemma kills_positionKeeper (now : String) (b : Books) (killed : List LocalOrderId) :
    (killed.foldl (kill now) b).positionKeeper = b.positionKeeper := by
  induction killed generalizing b with
  | nil => rfl
  | cons localId killed ih => exact ih (b.kill now localId)

/-- The books after a terminal report, when the status update succeeded or not. -/
def close (b : Books) (localId : LocalOrderId) (status : OrderStatus) (now : String)
    (updated : Bool) : Books :=
  (if updated then b.setStatus localId status now else b).removeMapping localId

/-- The status that a fill gives to the order with the row `row`. -/
def fillStatus (row : StoredOrder) (fill : V1.ExecutionReport) : OrderStatus :=
  if row.order.quantity ≤ row.filledQuantity + fill.filledQuantity then .filled
  else .partiallyFilled

/-- The books after a fill of the order with the row `row`, when `apply_fill` succeeded or not. -/
def fill (b : Books) (localId : LocalOrderId) (row : StoredOrder) (report : V1.ExecutionReport)
    (now : String) (applied : Bool) : Books :=
  let b :=
    if applied then
      { b with
        orderStore := b.orderStore.addFill localId report.filledQuantity report.avgFillPrice
          (fillStatus row report) now }
    else b
  let b :=
    { b with
      positionKeeper := b.positionKeeper.onFill report.symbol report.filledQuantity
        report.avgFillPrice report.side }
  if row.order.quantity ≤ row.filledQuantity + report.filledQuantity then
    (b.removeMapping localId).addOpenOrders (-1)
  else b

section Fields

variable (b : Books) (localId : LocalOrderId) (status : OrderStatus) (row : StoredOrder)
  (report : V1.ExecutionReport) (now : String) (updated applied : Bool)

@[simp] lemma close_orderStore :
    (b.close localId status now updated).orderStore =
      if updated then b.orderStore.setStatus localId status now else b.orderStore := by
  cases updated <;> rfl

@[simp] lemma close_idMapper :
    (b.close localId status now updated).idMapper = b.idMapper.removeMapping localId := by
  cases updated <;> rfl

@[simp] lemma close_positionKeeper :
    (b.close localId status now updated).positionKeeper = b.positionKeeper := by
  cases updated <;> rfl

@[simp] lemma close_riskManager :
    (b.close localId status now updated).riskManager = b.riskManager := by
  cases updated <;> rfl

@[simp] lemma close_openOrderCount :
    (b.close localId status now updated).openOrderCount = b.openOrderCount := by
  cases updated <;> rfl

/-- A fill changes the fields of the books that it is recorded in, and unmaps an order that is
complete. -/
lemma fill_eq :
    b.fill localId row report now applied =
      { b with
        orderStore :=
          if applied then
            b.orderStore.addFill localId report.filledQuantity report.avgFillPrice
              (fillStatus row report) now
          else b.orderStore
        positionKeeper :=
          b.positionKeeper.onFill report.symbol report.filledQuantity report.avgFillPrice
            report.side
        idMapper :=
          if row.order.quantity ≤ row.filledQuantity + report.filledQuantity then
            b.idMapper.removeMapping localId
          else b.idMapper
        openOrderCount :=
          if row.order.quantity ≤ row.filledQuantity + report.filledQuantity then
            b.openOrderCount + -1
          else b.openOrderCount } := by
  unfold fill
  dsimp only
  by_cases hfull : row.order.quantity ≤ row.filledQuantity + report.filledQuantity
  · rw [if_pos hfull, if_pos hfull, if_pos hfull]
    cases applied <;> rfl
  · rw [if_neg hfull, if_neg hfull, if_neg hfull]
    cases applied <;> rfl

@[simp] lemma fill_positionKeeper :
    (b.fill localId row report now applied).positionKeeper =
      b.positionKeeper.onFill report.symbol report.filledQuantity report.avgFillPrice
        report.side := by
  rw [fill_eq]

@[simp] lemma fill_orderStore :
    (b.fill localId row report now applied).orderStore =
      if applied then
        b.orderStore.addFill localId report.filledQuantity report.avgFillPrice
          (fillStatus row report) now
      else b.orderStore := by
  rw [fill_eq]

@[simp] lemma fill_riskManager :
    (b.fill localId row report now applied).riskManager = b.riskManager := by
  rw [fill_eq]

lemma fill_idMapper :
    (b.fill localId row report now applied).idMapper =
      if row.order.quantity ≤ row.filledQuantity + report.filledQuantity then
        b.idMapper.removeMapping localId
      else b.idMapper := by
  rw [fill_eq]

lemma fill_openOrderCount :
    (b.fill localId row report now applied).openOrderCount =
      if row.order.quantity ≤ row.filledQuantity + report.filledQuantity then
        b.openOrderCount + -1
      else b.openOrderCount := by
  rw [fill_eq]

end Fields

end Books

/-- The order that `handle_submit_command` builds from a signal. -/
def OrderManager.orderOfSubmit (s : OrderManager) (env : Env) (signal : V1.StrategySignal) :
    V1.Order :=
  { createOrderFromSignal signal.strategyId signal.symbol signal.side signal.targetQuantity
      s.accountId env.currentTime with id := (s.generate env).1 }

/-- The order that `handle_replace_command` builds from a signal. -/
def OrderManager.orderOfReplace (s : OrderManager) (env : Env) (signal : V1.ReplaceSignal) :
    V1.Order :=
  { createOrderFromSignal signal.strategyId signal.symbol signal.side signal.targetQuantity
      s.accountId env.currentTime with id := (s.generate env).1 }

/-- The row of an order that was just stored: its local id is the id of the order and nothing is
filled. -/
structure StoredOrder.IsNew (row : StoredOrder) (order : V1.Order) (status : OrderStatus)
    (broker : Option BrokerOrderId) : Prop where
  order_eq : row.order = order
  localId_eq : row.localId = order.id
  status_eq : row.status = status
  brokerId_eq : row.brokerId = broker
  filledQuantity_eq : row.filledQuantity = 0
  avgFillPrice_eq : row.avgFillPrice = 0

/-- A new row as it is bound. -/
lemma StoredOrder.IsNew.bound {row : StoredOrder} {order : V1.Order} {status : OrderStatus}
    {broker : Option BrokerOrderId} (h : row.IsNew order status broker) :
    row.bound.IsNew order status (broker.map cStr) where
  order_eq := h.order_eq
  localId_eq := h.localId_eq
  status_eq := h.status_eq
  brokerId_eq := congrArg (Option.map cStr) h.brokerId_eq
  filledQuantity_eq := h.filledQuantity_eq
  avgFillPrice_eq := h.avgFillPrice_eq

/-! ## Moves -/

/-- The check of the risk manager on a submit command in the state `s`. -/
def OrderManager.checkSubmit (s : OrderManager) (signal : V1.StrategySignal) : Result Unit :=
  s.riskManager.check signal.targetQuantity (sizeT s.openOrderCount) s.positionKeeper.getTotalPnl

/-- The order of a submit command reaches the gateway: it is stored and passes the check. -/
def SubmitSent (s : OrderManager) (env : Env) (signal : V1.StrategySignal) : Prop :=
  env.storeFault (.storeOrder (s.orderOfSubmit env signal).id) = none ∧
    s.orderStore.find (s.orderOfSubmit env signal).id = none ∧ s.checkSubmit signal = .ok ()

instance (s : OrderManager) (env : Env) (signal : V1.StrategySignal) :
    Decidable (SubmitSent s env signal) :=
  inferInstanceAs (Decidable (_ ∧ _ ∧ _))

/-- The events that leave the books alone although every call on the store succeeds. -/
def Input.Idle (s : OrderManager) (i : Input) : Prop :=
  match i.event with
  | .bar _ | .tick _ => True
  | .executionReport fill => s.idMapper.getLocalId fill.brokerOrderId = none
  | .submitCommand _ | .cancelAllCommand _ _ => False
  | .cancelCommand signal =>
    ∀ broker, s.idMapper.getBrokerId signal.orderId = some broker →
      i.gateway.cancelOrder broker ≠ .ok ()
  | .replaceCommand signal =>
    ∀ broker, s.idMapper.getBrokerId signal.orderId = some broker →
      ∀ newBroker, i.gateway.replaceOrder broker (s.orderOfReplace i.env signal) ≠ .ok newBroker

/-- The kill switch of `i` cancels the order with the row `row` at the gateway. -/
def Input.Kills (i : Input) (row : StoredOrder) : Prop :=
  ∃ broker, row.brokerId = some broker ∧ i.gateway.cancelOrder broker = .ok ()

/-- The broker id of the row, when the kill switch of `i` cancels its order at the gateway. -/
def Input.killedBroker (i : Input) (row : StoredOrder) : Option BrokerOrderId :=
  row.brokerId.filter fun broker =>
    match i.gateway.cancelOrder broker with
    | .ok _ => true
    | .error _ => false

/-- What the kill switch of `i` does at the broker when it goes through the given orders. -/
def Input.killEffects (i : Input) (orders : List StoredOrder) : List GatewayEffect :=
  (orders.filterMap i.killedBroker).map .closed

/-- The reasons for which the row of an order that was just accepted cannot be given its broker
id, as it is bound. -/
def BrokerIdRefused (s : OrderManager) (env : Env) (localId : LocalOrderId)
    (broker : BrokerOrderId) : Prop :=
  env.storeFault (.updateBrokerId localId broker) ≠ none ∨ s.orderStore.Carries (cStr broker)

instance (s : OrderManager) (env : Env) (localId : LocalOrderId) (broker : BrokerOrderId) :
    Decidable (BrokerIdRefused s env localId broker) :=
  inferInstanceAs (Decidable (_ ∨ _))

/-- The reasons for which a replacement cannot be stored. -/
def ReplacementRefused (s : OrderManager) (env : Env) (newId : LocalOrderId)
    (newBroker : BrokerOrderId) : Prop :=
  env.storeFault (.storeOrder newId) ≠ none ∨ s.orderStore.find newId ≠ none ∨
    s.orderStore.Carries (cStr newBroker)

instance (s : OrderManager) (env : Env) (newId : LocalOrderId) (newBroker : BrokerOrderId) :
    Decidable (ReplacementRefused s env newId newBroker) :=
  inferInstanceAs (Decidable (_ ∨ _ ∨ _))

/-- The books that are possible after the event of `i` was handled in the state `s`, together with
the effects at the broker; `ok` says that no call on the store failed. -/
inductive Move (s : OrderManager) (i : Input) (ok : Prop) : List GatewayEffect → Books → Prop
  /-- Nothing happens, neither to the books nor at the broker. -/
  | stay (hidle : i.Idle s) : Move s i ok [] s.toBooks
  /-- The order of a submit command is not stored, or that of a report is not read. -/
  | skip
      (hunread : ∀ report, i.event = .executionReport report → report.isTerminal = false ∧
        ∃ localId, s.idMapper.getLocalId report.brokerOrderId = some localId ∧
          (i.env.storeFault (.getOrder localId) ≠ none ∨ s.orderStore.find localId = none))
      (hfail : ¬ ok) : Move s i ok [] s.toBooks
  /-- A new order is stored and then rejected by the risk manager or by the gateway. -/
  | refuse {signal : V1.StrategySignal} {row : StoredOrder} {store : SQLiteOrderStore}
      {status : OrderStatus}
      (hevent : i.event = .submitCommand signal)
      (hrefused : s.checkSubmit signal = .ok () →
        ∃ e, i.gateway.submitOrder (s.orderOfSubmit i.env signal) = .error e)
      (hrow : row.IsNew (s.orderOfSubmit i.env signal) status none)
      (hstatus : status = .rejected ∨ status = .pendingSubmission ∧ ¬ ok)
      (hstore : SQLiteOrderStore.Inserted s.orderStore row store) :
      Move s i ok [] { s.toBooks with orderStore := store }
  /-- A new order is accepted by the gateway, but its status is not updated and it is not mapped. -/
  | lose {signal : V1.StrategySignal} {broker : BrokerOrderId} {row : StoredOrder}
      {store : SQLiteOrderStore}
      (hevent : i.event = .submitCommand signal) (hsent : SubmitSent s i.env signal)
      (haccept : i.gateway.submitOrder (s.orderOfSubmit i.env signal) = .ok broker)
      (hrow : row.IsNew (s.orderOfSubmit i.env signal) .pendingSubmission none)
      (hstore : SQLiteOrderStore.Inserted s.orderStore row store)
      (hfault : i.env.storeFault
        (.updateOrderStatus (s.orderOfSubmit i.env signal).id .submitted) ≠ none)
      (hfail : ¬ ok) :
      Move s i ok [.opened broker (s.orderOfSubmit i.env signal)]
        { s.toBooks with orderStore := store }
  /-- A new order is accepted by the gateway and mapped. -/
  | accept {signal : V1.StrategySignal} {broker : BrokerOrderId} {row : StoredOrder}
      {store : SQLiteOrderStore} {carried : Option BrokerOrderId}
      (hevent : i.event = .submitCommand signal) (hsent : SubmitSent s i.env signal)
      (haccept : i.gateway.submitOrder (s.orderOfSubmit i.env signal) = .ok broker)
      (hrow : row.IsNew (s.orderOfSubmit i.env signal) .submitted carried)
      (hcarried : carried = some (cStr broker) ∨ carried = none ∧ ¬ ok ∧
        BrokerIdRefused s i.env (s.orderOfSubmit i.env signal).id broker)
      (hstore : SQLiteOrderStore.Inserted s.orderStore row store) :
      Move s i ok [.opened broker (s.orderOfSubmit i.env signal)]
        (({ s.toBooks with orderStore := store } : Books).addMapping row.localId broker
          |>.addOpenOrders 1)
  /-- A mapped order is cancelled by the gateway. -/
  | cancel {signal : V1.CancelSignal} {broker : BrokerOrderId}
      (hevent : i.event = .cancelCommand signal)
      (hmapped : s.idMapper.getBrokerId signal.orderId = some broker)
      (haccept : i.gateway.cancelOrder broker = .ok ()) :
      Move s i ok [.closed broker]
        ((s.toBooks.removeMapping signal.orderId).setStatus signal.orderId .cancelled
          i.env.sqliteNow |>.addOpenOrders (-1))
  /-- A mapped order is cancelled by the gateway, but its status is not updated. -/
  | unmap {signal : V1.CancelSignal} {broker : BrokerOrderId}
      (hevent : i.event = .cancelCommand signal)
      (hmapped : s.idMapper.getBrokerId signal.orderId = some broker) (hfail : ¬ ok) :
      Move s i ok [.closed broker] (s.toBooks.removeMapping signal.orderId)
  /-- A mapped order is replaced by the gateway, but its status is not updated and the new order is
  not stored. -/
  | forget {signal : V1.ReplaceSignal} {broker newBroker : BrokerOrderId}
      (hevent : i.event = .replaceCommand signal)
      (hmapped : s.idMapper.getBrokerId signal.orderId = some broker)
      (haccept : i.gateway.replaceOrder broker (s.orderOfReplace i.env signal) = .ok newBroker)
      (hfault : i.env.storeFault (.updateOrderStatus signal.orderId .replaced) ≠ none)
      (hfail : ¬ ok) :
      Move s i ok [.moved broker newBroker (s.orderOfReplace i.env signal)]
        (s.toBooks.removeMapping signal.orderId)
  /-- A mapped order is replaced by the gateway, but the new order is not stored. -/
  | retire {signal : V1.ReplaceSignal} {broker newBroker : BrokerOrderId}
      (hevent : i.event = .replaceCommand signal)
      (hmapped : s.idMapper.getBrokerId signal.orderId = some broker)
      (haccept : i.gateway.replaceOrder broker (s.orderOfReplace i.env signal) = .ok newBroker)
      (hrefused : ReplacementRefused s i.env (s.orderOfReplace i.env signal).id newBroker)
      (hfail : ¬ ok) :
      Move s i ok [.moved broker newBroker (s.orderOfReplace i.env signal)]
        ((s.toBooks.removeMapping signal.orderId).setStatus signal.orderId .replaced
          i.env.sqliteNow)
  /-- A mapped order is replaced by the gateway and the new order is stored and mapped. -/
  | replace {signal : V1.ReplaceSignal} {broker newBroker : BrokerOrderId} {row : StoredOrder}
      {store : SQLiteOrderStore}
      (hevent : i.event = .replaceCommand signal)
      (hmapped : s.idMapper.getBrokerId signal.orderId = some broker)
      (haccept : i.gateway.replaceOrder broker (s.orderOfReplace i.env signal) = .ok newBroker)
      (hrow : row.IsNew (s.orderOfReplace i.env signal) .submitted (some (cStr newBroker)))
      (hstore : SQLiteOrderStore.Inserted
        (s.orderStore.setStatus signal.orderId .replaced i.env.sqliteNow) row store) :
      Move s i ok [.moved broker newBroker (s.orderOfReplace i.env signal)]
        (({ s.toBooks.removeMapping signal.orderId with orderStore := store } :
          Books).addMapping row.localId newBroker)
  /-- The kill switch has gone through the orders that were open and cancelled those that the
  gateway lets it cancel; it has recorded this for the orders `killed`. -/
  | killSwitch {reason initiatedBy : String} {killed : List StoredOrder}
      (hevent : i.event = .cancelAllCommand reason initiatedBy)
      (hsub : killed.Sublist (s.orderStore.getOpenOrders i.env.openOrdersRead))
      (hkills : ∀ row ∈ killed, i.Kills row)
      (hall : ok → i.env.openOrdersRead = none ∧
        ∀ row ∈ s.orderStore.getOpenOrders none, i.Kills row → row ∈ killed) :
      Move s i ok (i.killEffects (s.orderStore.getOpenOrders i.env.openOrdersRead))
        ((killed.map StoredOrder.localId).foldl (Books.kill i.env.sqliteNow) s.toBooks)
  /-- A mapped order is closed by a terminal report. -/
  | close {report : V1.ExecutionReport} {localId : LocalOrderId} {status : OrderStatus}
      {updated : Bool}
      (hevent : i.event = .executionReport report)
      (hmapped : s.idMapper.getLocalId report.brokerOrderId = some localId)
      (hterminal : report.isTerminal = true)
      (hstatus : status = .rejected ∨ status = .cancelled)
      (hupdated : ok → updated = true) :
      Move s i ok [] (s.toBooks.close localId status i.env.sqliteNow updated)
  /-- A mapped order is filled. -/
  | fill {report : V1.ExecutionReport} {localId : LocalOrderId} {row : StoredOrder}
      {applied : Bool}
      (hevent : i.event = .executionReport report)
      (hmapped : s.idMapper.getLocalId report.brokerOrderId = some localId)
      (hterminal : report.isTerminal = false)
      (hrow : s.orderStore.find localId = some row)
      (hfault : i.env.storeFault (.getOrder localId) = none ∧
        (applied = true ↔ i.env.storeFault (.applyFill localId) = none))
      (happlied : ok → applied = true) :
      Move s i ok [] (s.toBooks.fill localId row report i.env.sqliteNow applied)

/-- When no call on the store fails, a kill switch kills exactly the open orders that the gateway
cancels. -/
lemma Move.of_cancelAll {s : OrderManager} {i : Input} {ok : Prop} {done : List GatewayEffect}
    {b : Books} (hmove : Move s i ok done b) (hok : ok) {reason initiatedBy : String}
    (hevent : i.event = .cancelAllCommand reason initiatedBy) :
    ∃ killed : List StoredOrder, killed.Sublist (s.orderStore.getOpenOrders none) ∧
      (∀ row ∈ s.orderStore.getOpenOrders none, row ∈ killed ↔ i.Kills row) ∧
      done = i.killEffects (s.orderStore.getOpenOrders none) ∧
      b = (killed.map StoredOrder.localId).foldl (Books.kill i.env.sqliteNow) s.toBooks := by
  cases hmove with
  | stay hidle =>
    unfold Input.Idle at hidle
    rw [hevent] at hidle
    exact hidle.elim
  | @killSwitch _ _ killed _ hsub hkills hall =>
    obtain ⟨hread, hall⟩ := hall hok
    rw [hread] at hsub ⊢
    exact ⟨killed, hsub, fun row hrow => ⟨hkills row, hall row hrow⟩, rfl, rfl⟩
  | skip _ hfail => exact absurd hok hfail
  | refuse hevent' | lose hevent' | accept hevent' | cancel hevent' | unmap hevent' | forget hevent'
  | retire hevent' | replace hevent' | close hevent' | fill hevent' =>
    rw [hevent] at hevent'
    cases hevent'

/-- When no call on the store fails, the fill of a mapped order is booked. -/
lemma Move.of_fill {s : OrderManager} {i : Input} {ok : Prop} {done : List GatewayEffect}
    {b : Books} (hmove : Move s i ok done b) (hok : ok) {report : V1.ExecutionReport}
    (hevent : i.event = .executionReport report) {localId : LocalOrderId}
    (hmapped : s.idMapper.getLocalId report.brokerOrderId = some localId)
    (hterminal : report.isTerminal = false) :
    ∃ row, s.orderStore.find localId = some row ∧
      b = s.toBooks.fill localId row report i.env.sqliteNow true := by
  cases hmove with
  | stay hidle =>
    unfold Input.Idle at hidle
    rw [hevent] at hidle
    rw [hidle] at hmapped
    cases hmapped
  | close hevent' _ hterminal' _ _ =>
    rw [hevent] at hevent'
    cases hevent'
    rw [hterminal] at hterminal'
    cases hterminal'
  | @fill _ _ row applied hevent' hmapped' _ hrow _ happlied =>
    rw [hevent] at hevent'
    cases hevent'
    rw [hmapped] at hmapped'
    obtain rfl := Option.some.inj hmapped'
    rw [happlied hok]
    exact ⟨row, hrow, rfl⟩
  | skip _ hfail => exact absurd hok hfail
  | refuse hevent' | lose hevent' | accept hevent' | cancel hevent' | unmap hevent' | forget hevent'
  | retire hevent' | replace hevent' | killSwitch hevent' =>
    rw [hevent] at hevent'
    cases hevent'

/-! ## The parts of the handlers -/

namespace OrderManager

variable (s : OrderManager) (env : Env) (localId : LocalOrderId)

@[simp] lemma log_toBooks (event : Event) (data correlationId : String) :
    (s.log event data correlationId).toBooks = s.toBooks := rfl

@[simp] lemma log_storeFailures (event : Event) (data correlationId : String) :
    (s.log event data correlationId).storeFailures = s.storeFailures := rfl

@[simp] lemma setValue_toBooks (reply : Reply) : (s.setValue reply).toBooks = s.toBooks := rfl

@[simp] lemma setValue_storeFailures (reply : Reply) :
    (s.setValue reply).storeFailures = s.storeFailures := rfl

@[simp] lemma logFailure_toBooks (result : Result Unit) :
    (s.logFailure result localId).toBooks = s.toBooks := by
  cases result <;> rfl

@[simp] lemma logFailure_storeFailures (result : Result Unit) :
    (s.logFailure result localId).storeFailures = s.storeFailures := by
  cases result <;> rfl

@[simp] lemma notifyFillSink_toBooks (fill : V1.ExecutionReport) :
    (s.notifyFillSink fill).toBooks = s.toBooks := by
  unfold notifyFillSink
  cases s.fillSink <;> rfl

@[simp] lemma notifyFillSink_storeFailures (fill : V1.ExecutionReport) :
    (s.notifyFillSink fill).storeFailures = s.storeFailures := by
  unfold notifyFillSink
  cases s.fillSink <;> rfl

@[simp] lemma handleBar_toBooks (bar : Bar) : (s.handleBar bar).toBooks = s.toBooks := by
  unfold handleBar
  cases s.barSink <;> rfl

@[simp] lemma handleTick_toBooks (tick : Tick) : (s.handleTick tick).toBooks = s.toBooks := by
  unfold handleTick
  cases s.tickSink <;> rfl

/-- `update_order_status` fails and is counted, or takes effect. -/
lemma updateOrderStatus_cases (status : OrderStatus) :
    (env.storeFault (.updateOrderStatus localId status) ≠ none ∧
      ∃ e, s.updateOrderStatus env localId status =
        ({ s with storeFailures := s.storeFailures + 1 }, .error e)) ∨
    (env.storeFault (.updateOrderStatus localId status) = none ∧
      s.updateOrderStatus env localId status =
        ({ s with orderStore := s.orderStore.setStatus localId status env.sqliteNow },
          .ok ())) := by
  unfold updateOrderStatus SQLiteOrderStore.updateOrderStatus
  cases env.storeFault (.updateOrderStatus localId status) with
  | some f => exact Or.inl ⟨by simp, _, rfl⟩
  | none => exact Or.inr ⟨rfl, rfl⟩

/-- `apply_fill` fails and is counted, or takes effect. -/
lemma applyFill_cases (quantity price : ℚ) (status : OrderStatus) :
    (env.storeFault (.applyFill localId) ≠ none ∧
      ∃ e, s.applyFill env localId quantity price status =
        ({ s with storeFailures := s.storeFailures + 1 }, .error e)) ∨
    (env.storeFault (.applyFill localId) = none ∧
      s.applyFill env localId quantity price status =
        ({ s with orderStore := s.orderStore.addFill localId quantity price status env.sqliteNow },
          .ok ())) := by
  unfold applyFill SQLiteOrderStore.applyFill
  cases env.storeFault (.applyFill localId) with
  | some f => exact Or.inl ⟨by simp, _, rfl⟩
  | none => exact Or.inr ⟨rfl, rfl⟩

/-- `store_order` fails and is counted, or inserts the row. -/
lemma storeOrder_cases (stored : StoredOrder) :
    ((env.storeFault (.storeOrder stored.localId) ≠ none ∨
        s.orderStore.find stored.localId ≠ none ∨
        ∃ broker, stored.brokerId = some broker ∧ s.orderStore.Carries (cStr broker)) ∧
      ∃ e, s.storeOrder env stored =
        ({ s with storeFailures := s.storeFailures + 1 }, .error e)) ∨
    (env.storeFault (.storeOrder stored.localId) = none ∧
      ∃ store, SQLiteOrderStore.Inserted s.orderStore stored.bound store ∧
        s.storeOrder env stored = ({ s with orderStore := store }, .ok ())) := by
  unfold storeOrder
  cases hr : s.orderStore.storeOrder stored (env.storeFault (.storeOrder stored.localId)) with
  | error e =>
    refine Or.inl ⟨?_, e, rfl⟩
    by_contra hgood
    push Not at hgood
    obtain ⟨hfault, hfresh, hbroker⟩ := hgood
    obtain ⟨store, hstore⟩ := SQLiteOrderStore.storeOrder_of_fresh hfresh hbroker
    rw [hfault, hstore] at hr
    cases hr
  | ok store =>
    obtain ⟨hfault, hins⟩ := SQLiteOrderStore.storeOrder_eq_ok hr
    exact Or.inr ⟨hfault, store, hins, rfl⟩

/-- `update_broker_id` on a row that was just inserted fails and is counted, or sets the id. -/
lemma updateBrokerId_cases {base : SQLiteOrderStore} {row : StoredOrder}
    (hins : SQLiteOrderStore.Inserted base row s.orderStore) (hid : row.localId = localId)
    (broker : BrokerOrderId) :
    ((env.storeFault (.updateBrokerId localId broker) ≠ none ∨ base.Carries (cStr broker)) ∧
      ∃ e, s.updateBrokerId env localId broker =
        ({ s with storeFailures := s.storeFailures + 1 }, .error e)) ∨
    (∃ store, SQLiteOrderStore.Inserted base (row.withBrokerId (cStr broker) env.sqliteNow) store ∧
      s.updateBrokerId env localId broker = ({ s with orderStore := store }, .ok ())) := by
  subst hid
  unfold updateBrokerId
  cases hr : s.orderStore.updateBrokerId row.localId broker env.sqliteNow
      (env.storeFault (.updateBrokerId row.localId broker)) with
  | error e =>
    refine Or.inl ⟨?_, e, rfl⟩
    by_contra hgood
    push Not at hgood
    obtain ⟨hfault, hfree⟩ := hgood
    obtain ⟨store, hstore⟩ := SQLiteOrderStore.updateBrokerId_of_fresh env.sqliteNow hins hfree
    rw [hfault, hstore] at hr
    cases hr
  | ok store =>
    obtain ⟨-, hins'⟩ := SQLiteOrderStore.updateBrokerId_eq_ok hins hr
    exact Or.inr ⟨store, hins', rfl⟩

/-- `get_order` fails and is counted, or returns the row. -/
lemma getOrder_cases :
    ((env.storeFault (.getOrder localId) ≠ none ∨ s.orderStore.find localId = none) ∧
      ∃ e, s.getOrder env localId =
        ({ s with storeFailures := s.storeFailures + 1 }, .error e)) ∨
    (env.storeFault (.getOrder localId) = none ∧
      ∃ row, s.orderStore.find localId = some row ∧ s.getOrder env localId = (s, .ok row)) := by
  unfold getOrder
  cases hr : s.orderStore.getOrder localId (env.storeFault (.getOrder localId)) with
  | error e =>
    refine Or.inl ⟨?_, e, rfl⟩
    by_contra hgood
    push Not at hgood
    obtain ⟨hfault, hfind⟩ := hgood
    obtain ⟨row, hrow⟩ := Option.ne_none_iff_exists'.mp hfind
    unfold SQLiteOrderStore.getOrder at hr
    simp [hfault, hrow] at hr
  | ok row =>
    obtain ⟨hfault, hfind⟩ := SQLiteOrderStore.getOrder_eq_ok hr
    exact Or.inr ⟨hfault, row, hfind, rfl⟩

/-! ## Submit commands -/

/-- The state in which `handle_submit_command` stores the new order. -/
def beginSubmit (signal : V1.StrategySignal) : OrderManager :=
  (s.generate env).2.log .orderCreated (env.debugString (s.orderOfSubmit env signal))
    (s.orderOfSubmit env signal).id

/-- The row that `handle_submit_command` stores. -/
def rowOfSubmit (signal : V1.StrategySignal) (createdAt : String) : StoredOrder where
  order := s.orderOfSubmit env signal
  localId := (s.orderOfSubmit env signal).id
  status := .pendingSubmission
  createdAt := createdAt

/-- `handle_submit_command`, the conversion of the time stamp having succeeded. -/
lemma handleSubmitCommand_eq (signal : V1.StrategySignal) {createdAt : String}
    (hts : timestampToString env.now = .ok createdAt) :
    s.handleSubmitCommand env signal =
      match (s.beginSubmit env signal).storeOrder env (s.rowOfSubmit env signal createdAt) with
      | (s', .error e) =>
        .done ((s'.log .errorOccurred e.message (s.orderOfSubmit env signal).id).setValue
          (.submitted (.error e)))
      | (s', .ok ()) =>
        match s'.checkSubmit signal with
        | .error e => .done (s'.rejectSubmit env (s.orderOfSubmit env signal).id e)
        | .ok () =>
          .call s' (.submitOrder (s.orderOfSubmit env signal)) fun result : Result BrokerOrderId =>
            match result with
            | .error e => .done (s'.rejectSubmit env (s.orderOfSubmit env signal).id e)
            | .ok broker => .done (s'.acceptSubmit env (s.orderOfSubmit env signal).id broker) := by
  unfold handleSubmitCommand
  simp only [hts]
  rfl

/-- A rejected order becomes `REJECTED`, unless the update fails. -/
lemma rejectSubmit_cases (e : Error) :
    ((s.rejectSubmit env localId e).toBooks =
        s.toBooks.setStatus localId .rejected env.sqliteNow ∧
      (s.rejectSubmit env localId e).storeFailures = s.storeFailures) ∨
    ((s.rejectSubmit env localId e).toBooks = s.toBooks ∧
      (s.rejectSubmit env localId e).storeFailures = s.storeFailures + 1) := by
  unfold rejectSubmit
  dsimp only
  rcases updateOrderStatus_cases (s.log .orderRejected e.message localId) env localId .rejected with
    ⟨-, e', h⟩ | ⟨-, h⟩
  · right
    rw [h]
    exact ⟨by simp, by simp⟩
  · left
    rw [h]
    exact ⟨by simp [Books.setStatus], by simp⟩

/-- An accepted order is left alone when its status cannot be updated; else it becomes `SUBMITTED`
and is mapped, and its row carries the broker id unless that update is refused. -/
lemma acceptSubmit_cases {base : SQLiteOrderStore} {row : StoredOrder} {order : V1.Order}
    (hins : SQLiteOrderStore.Inserted base row s.orderStore)
    (hrow : row.IsNew order .pendingSubmission none) (broker : BrokerOrderId) :
    (env.storeFault (.updateOrderStatus order.id .submitted) ≠ none ∧
      (s.acceptSubmit env order.id broker).toBooks = s.toBooks ∧
      (s.acceptSubmit env order.id broker).storeFailures = s.storeFailures + 1) ∨
    ∃ row' store carried, row'.IsNew order .submitted carried ∧
      SQLiteOrderStore.Inserted base row' store ∧
      (s.acceptSubmit env order.id broker).toBooks =
        (({ s.toBooks with orderStore := store } : Books).addMapping row'.localId broker
          |>.addOpenOrders 1) ∧
      (carried = some (cStr broker) ∧
          (s.acceptSubmit env order.id broker).storeFailures = s.storeFailures ∨
        carried = none ∧
          (env.storeFault (.updateBrokerId order.id broker) ≠ none ∨
            base.Carries (cStr broker)) ∧
          (s.acceptSubmit env order.id broker).storeFailures = s.storeFailures + 1) := by
  obtain ⟨horder, hid, -, hbroker, hfilled, havg⟩ := hrow
  unfold acceptSubmit
  rw [← hid]
  rcases updateOrderStatus_cases s env row.localId .submitted with ⟨hfault, e, h⟩ | ⟨-, h⟩
  · left
    rw [h]
    exact ⟨hfault, by simp, by simp⟩
  right
  rw [h]
  dsimp only
  have hins' := hins.setStatus .submitted env.sqliteNow
  rcases updateBrokerId_cases
      (({ s with
        orderStore := s.orderStore.setStatus row.localId .submitted env.sqliteNow } :
          OrderManager).addMapping row.localId broker |>.addOpenOrders 1)
      env row.localId hins' rfl broker with ⟨hrefused, e, hb⟩ | ⟨store, hins'', hb⟩
  · refine ⟨row.withStatus .submitted env.sqliteNow, _, none,
      ⟨horder, hid, rfl, hbroker, hfilled, havg⟩, hins', ?_, Or.inr ⟨rfl, hrefused, ?_⟩⟩
    · rw [hb]
      simp [Books.addMapping, Books.addOpenOrders, addMapping, addOpenOrders,
        StoredOrder.withStatus]
    · rw [hb]
      simp [addMapping, addOpenOrders]
  · refine ⟨(row.withStatus .submitted env.sqliteNow).withBrokerId (cStr broker) env.sqliteNow,
      store, some (cStr broker), ⟨horder, hid, rfl, rfl, hfilled, havg⟩, hins'', ?_,
      Or.inl ⟨rfl, ?_⟩⟩
    · rw [hb]
      simp [Books.addMapping, Books.addOpenOrders, addMapping, addOpenOrders,
        StoredOrder.withStatus, StoredOrder.withBrokerId]
    · rw [hb]
      simp [addMapping, addOpenOrders]

end OrderManager

/-- The row of a rejected order is refused. -/
lemma reject_move {s s' : OrderManager} {i : Input} {signal : V1.StrategySignal}
    {row : StoredOrder} {store : SQLiteOrderStore} {e : Error}
    (hevent : i.event = .submitCommand signal)
    (hrefused : s.checkSubmit signal = .ok () →
      ∃ e, i.gateway.submitOrder (s.orderOfSubmit i.env signal) = .error e)
    (hrow : row.IsNew (s.orderOfSubmit i.env signal) .pendingSubmission none)
    (hins : SQLiteOrderStore.Inserted s.orderStore row store)
    (hbooks : s'.toBooks = { s.toBooks with orderStore := store })
    (hfail : s'.storeFailures = s.storeFailures) :
    Move s i ((s'.rejectSubmit i.env row.localId e).storeFailures = s.storeFailures) []
      (s'.rejectSubmit i.env row.localId e).toBooks := by
  rcases s'.rejectSubmit_cases i.env row.localId e with ⟨hb, -⟩ | ⟨hb, hf⟩
  · rw [hb, hbooks]
    refine .refuse hevent hrefused ?_ (Or.inl rfl)
      (hins.setStatus .rejected i.env.sqliteNow)
    exact ⟨hrow.order_eq, hrow.localId_eq, rfl, hrow.brokerId_eq, hrow.filledQuantity_eq,
      hrow.avgFillPrice_eq⟩
  · rw [hb, hbooks]
    refine .refuse hevent hrefused hrow (Or.inr ⟨rfl, ?_⟩) hins
    intro hok
    omega

/-- A submit command is a move. -/
lemma submit_move (s : OrderManager) (i : Input) {signal : V1.StrategySignal}
    (hevent : i.event = .submitCommand signal) :
    Move s i ((dispatch s i).storeFailures = s.storeFailures) (effects s i)
      (dispatch s i).toBooks := by
  obtain ⟨createdAt, hts⟩ := timestampToString_ok i.env.now
  have hnew : (s.rowOfSubmit i.env signal createdAt).bound.IsNew (s.orderOfSubmit i.env signal)
      .pendingSubmission none := StoredOrder.IsNew.bound ⟨rfl, rfl, rfl, rfl, rfl, rfl⟩
  unfold dispatch effects exchanges OrderManager.handle
  simp only [hevent, s.handleSubmitCommand_eq i.env signal hts]
  rcases (s.beginSubmit i.env signal).storeOrder_cases i.env
      (s.rowOfSubmit i.env signal createdAt) with ⟨-, e, hstore⟩ | ⟨hfault, store, hins, hstore⟩
  · -- the row is not stored
    simp only [hstore, Program.run_done, Program.exchanges_done, List.filterMap_nil]
    refine .skip (fun report hreport => ?_) fun hok => ?_
    · rw [hevent] at hreport
      cases hreport
    · simp [OrderManager.beginSubmit, OrderManager.generate] at hok
  simp only [hstore]
  generalize hs' : ({ s.beginSubmit i.env signal with orderStore := store } : OrderManager) = s'
  have hbooks : s'.toBooks = { s.toBooks with orderStore := store } := by
    rw [← hs']
    rfl
  have hfail : s'.storeFailures = s.storeFailures := by
    rw [← hs']
    rfl
  have hcheck : s'.checkSubmit signal = s.checkSubmit signal := by
    rw [← hs']
    rfl
  have hins' : SQLiteOrderStore.Inserted s.orderStore (s.rowOfSubmit i.env signal createdAt).bound
      s'.orderStore := by
    rw [← hs']
    exact hins
  rw [hcheck]
  cases hrisk : s.checkSubmit signal with
  | error e =>
    simp only [Program.run_done, Program.exchanges_done, List.filterMap_nil]
    have hrefused : s.checkSubmit signal = .ok () →
        ∃ e, i.gateway.submitOrder (s.orderOfSubmit i.env signal) = .error e := by
      intro hok
      rw [hrisk] at hok
      cases hok
    have hmove := reject_move (e := e) hevent hrefused hnew hins hbooks hfail
    exact hmove
  | ok u =>
    simp only [Program.run_call, Program.exchanges_call, GatewayAnswers.answer]
    cases haccept : i.gateway.submitOrder (s.orderOfSubmit i.env signal) with
    | error e =>
      simp only [Program.run_done, Program.exchanges_done, List.filterMap_cons, effectOf,
        List.filterMap_nil]
      have hmove := reject_move (e := e) hevent (fun _ => ⟨e, haccept⟩) hnew hins hbooks hfail
      exact hmove
    | ok broker =>
      simp only [Program.run_done, Program.exchanges_done, List.filterMap_cons, effectOf,
        List.filterMap_nil]
      rcases s'.acceptSubmit_cases i.env hins' hnew broker with
        ⟨hstatus, hb, hf⟩ | ⟨row', store', carried, hrow', hins'', hb, hcarried⟩
      · -- the order is live at the broker, but its row stays pending
        rw [hb, hbooks]
        exact .lose hevent ⟨hfault, hins.fresh, hrisk⟩ haccept hnew hins hstatus
          fun hok => by omega
      · rw [hb, hbooks]
        refine .accept hevent ⟨hfault, hins.fresh, hrisk⟩ haccept hrow' ?_ hins''
        rcases hcarried with ⟨hc, -⟩ | ⟨hc, hrefused, hf⟩
        · exact Or.inl hc
        · exact Or.inr ⟨hc, fun hok => by omega, hrefused⟩

/-! ## Cancel and replace commands -/

/-- A cancelled order is unmapped, and becomes `CANCELLED` unless the update fails. -/
lemma OrderManager.acceptCancel_cases (s : OrderManager) (env : Env) (localId : LocalOrderId) :
    ((s.acceptCancel env localId).toBooks = s.toBooks.removeMapping localId ∧
      (s.acceptCancel env localId).storeFailures = s.storeFailures + 1) ∨
    ((s.acceptCancel env localId).toBooks =
        ((s.toBooks.removeMapping localId).setStatus localId .cancelled env.sqliteNow
          |>.addOpenOrders (-1)) ∧
      (s.acceptCancel env localId).storeFailures = s.storeFailures) := by
  unfold OrderManager.acceptCancel
  rcases ((s.log .orderCancelled "Cancelled" localId).removeMapping localId).updateOrderStatus_cases
      env localId .cancelled with ⟨-, e, h⟩ | ⟨-, h⟩
  · left
    dsimp only
    rw [h]
    exact ⟨rfl, rfl⟩
  · right
    dsimp only
    rw [h]
    exact ⟨rfl, rfl⟩

/-- A cancel command is a move. -/
lemma cancel_move (s : OrderManager) (i : Input) {signal : V1.CancelSignal}
    (hevent : i.event = .cancelCommand signal) :
    Move s i ((dispatch s i).storeFailures = s.storeFailures) (effects s i)
      (dispatch s i).toBooks := by
  unfold dispatch effects exchanges OrderManager.handle OrderManager.handleCancelCommand
  simp only [hevent]
  cases hmapped : s.idMapper.getBrokerId signal.orderId with
  | none =>
    refine .stay ?_
    unfold Input.Idle
    rw [hevent]
    simp [hmapped]
  | some broker =>
    simp only [Program.run_call, Program.exchanges_call, GatewayAnswers.answer]
    cases haccept : i.gateway.cancelOrder broker with
    | error e =>
      refine .stay ?_
      unfold Input.Idle
      rw [hevent]
      simp [hmapped, haccept]
    | ok u =>
      simp only [Program.run_done, Program.exchanges_done, List.filterMap_cons, effectOf,
        List.filterMap_nil]
      rcases s.acceptCancel_cases i.env signal.orderId with ⟨hb, hf⟩ | ⟨hb, -⟩
      · rw [hb]
        refine .unmap hevent hmapped ?_
        intro hok
        omega
      · rw [hb]
        exact .cancel hevent hmapped haccept

/-- The reasons for which a replacement is not stored, read before the old order was updated. -/
lemma replacementRefused_of_base {s : OrderManager} {env : Env} {oldId newId : LocalOrderId}
    {newBroker : BrokerOrderId}
    (h : env.storeFault (.storeOrder newId) ≠ none ∨
      (s.orderStore.setStatus oldId .replaced env.sqliteNow).find newId ≠ none ∨
      ∃ broker, some newBroker = some broker ∧
        (s.orderStore.setStatus oldId .replaced env.sqliteNow).Carries (cStr broker)) :
    ReplacementRefused s env newId newBroker := by
  rcases h with h | h | ⟨broker, hbroker, h⟩
  · exact Or.inl h
  · refine Or.inr (Or.inl fun hnone => h ?_)
    rw [SQLiteOrderStore.find_setStatus, hnone, Option.map_none, ite_self]
  · obtain rfl := Option.some.inj hbroker
    exact Or.inr (Or.inr ((SQLiteOrderStore.carries_setStatus oldId .replaced _ _).mp h))

/-- The end of a replace command that the gateway accepted is a move. -/
lemma acceptReplace_move {s s' : OrderManager} {i : Input} {signal : V1.ReplaceSignal}
    {broker newBroker : BrokerOrderId} (hevent : i.event = .replaceCommand signal)
    (hmapped : s.idMapper.getBrokerId signal.orderId = some broker)
    (haccept : i.gateway.replaceOrder broker (s.orderOfReplace i.env signal) = .ok newBroker)
    (hbooks : s'.toBooks = s.toBooks) (hfail : s'.storeFailures = s.storeFailures) :
    Move s i
      ((s'.acceptReplace i.env signal.orderId (s.orderOfReplace i.env signal).id
        (s.orderOfReplace i.env signal) newBroker).storeFailures = s.storeFailures)
      [.moved broker newBroker (s.orderOfReplace i.env signal)]
      (s'.acceptReplace i.env signal.orderId (s.orderOfReplace i.env signal).id
        (s.orderOfReplace i.env signal) newBroker).toBooks := by
  obtain ⟨createdAt, hts⟩ := timestampToString_ok i.env.now
  have hremoved : (s'.removeMapping signal.orderId).toBooks =
      s.toBooks.removeMapping signal.orderId := by
    unfold OrderManager.removeMapping Books.removeMapping
    rw [hbooks]
  have hfail' : (s'.removeMapping signal.orderId).storeFailures = s.storeFailures := hfail
  unfold OrderManager.acceptReplace
  generalize s'.removeMapping signal.orderId = s₁ at hremoved hfail'
  rcases s₁.updateOrderStatus_cases i.env signal.orderId .replaced with ⟨hfault, e, h⟩ | ⟨-, h⟩
  · dsimp only
    rw [h]
    have hmove : Move s i (s₁.storeFailures + 1 = s.storeFailures)
        [.moved broker newBroker (s.orderOfReplace i.env signal)] s₁.toBooks := by
      rw [hremoved]
      exact .forget hevent hmapped haccept hfault (by omega)
    exact hmove
  dsimp only
  rw [h]
  dsimp only
  generalize hs₂ : ({ s₁ with
    orderStore := s₁.orderStore.setStatus signal.orderId .replaced i.env.sqliteNow } :
      OrderManager) = s₂
  have hretired : s₂.toBooks =
      (s.toBooks.removeMapping signal.orderId).setStatus signal.orderId .replaced
        i.env.sqliteNow := by
    rw [← hs₂, ← hremoved]
    rfl
  have hfail₂ : s₂.storeFailures = s.storeFailures := by
    rw [← hs₂]
    exact hfail'
  have hbase : s₂.orderStore = s.orderStore.setStatus signal.orderId .replaced i.env.sqliteNow :=
    congrArg Books.orderStore hretired
  rw [hts]
  dsimp only
  rcases s₂.storeOrder_cases i.env
      { order := s.orderOfReplace i.env signal, localId := (s.orderOfReplace i.env signal).id
        brokerId := some newBroker, status := .submitted, createdAt := createdAt } with
    ⟨hrefused, e, hstore⟩ | ⟨-, store, hins, hstore⟩
  · rw [hstore]
    have hmove : Move s i (s₂.storeFailures + 1 = s.storeFailures)
        [.moved broker newBroker (s.orderOfReplace i.env signal)] s₂.toBooks := by
      rw [hretired]
      refine .retire hevent hmapped haccept ?_ (by omega)
      rw [hbase] at hrefused
      exact replacementRefused_of_base hrefused
    exact hmove
  · rw [hstore]
    rw [hbase] at hins
    have hmove : Move s i (s₂.storeFailures = s.storeFailures)
        [.moved broker newBroker (s.orderOfReplace i.env signal)] _ :=
      .replace hevent hmapped haccept (StoredOrder.IsNew.bound ⟨rfl, rfl, rfl, rfl, rfl, rfl⟩) hins
    have hfinal : ((({ s₂ with orderStore := store } : OrderManager).addMapping
        (s.orderOfReplace i.env signal).id newBroker)).toBooks =
        (({ s.toBooks.removeMapping signal.orderId with orderStore := store } :
          Books).addMapping (s.orderOfReplace i.env signal).id newBroker) := by
      unfold OrderManager.addMapping Books.addMapping
      rw [hretired]
      rfl
    simp only [OrderManager.setValue_toBooks, OrderManager.log_toBooks, hfinal]
    exact hmove

/-- The state in which `handle_replace_command` calls the gateway. -/
def OrderManager.beginReplace (s : OrderManager) (env : Env) (signal : V1.ReplaceSignal) :
    OrderManager :=
  (s.generate env).2.log .orderReplaced
    ("Replacing " ++ signal.orderId ++ " with " ++ (s.orderOfReplace env signal).id)
    (s.orderOfReplace env signal).id

/-- `handle_replace_command` for a mapped order. -/
lemma OrderManager.handleReplaceCommand_eq (s : OrderManager) (env : Env)
    (signal : V1.ReplaceSignal) {broker : BrokerOrderId}
    (hmapped : s.idMapper.getBrokerId signal.orderId = some broker) :
    s.handleReplaceCommand env signal =
      .call (s.beginReplace env signal) (.replaceOrder broker (s.orderOfReplace env signal))
        fun result : Result BrokerOrderId =>
          match result with
          | .error e =>
            .done (((s.beginReplace env signal).log .orderRejected e.message
              (s.orderOfReplace env signal).id).setValue (.replaced (.error e)))
          | .ok newBroker =>
            .done ((s.beginReplace env signal).acceptReplace env signal.orderId
              (s.orderOfReplace env signal).id (s.orderOfReplace env signal) newBroker) := by
  unfold handleReplaceCommand
  simp only [hmapped]
  rfl

/-- A replace command is a move. -/
lemma replace_move (s : OrderManager) (i : Input) {signal : V1.ReplaceSignal}
    (hevent : i.event = .replaceCommand signal) :
    Move s i ((dispatch s i).storeFailures = s.storeFailures) (effects s i)
      (dispatch s i).toBooks := by
  unfold dispatch effects exchanges OrderManager.handle
  simp only [hevent]
  cases hmapped : s.idMapper.getBrokerId signal.orderId with
  | none =>
    unfold OrderManager.handleReplaceCommand
    simp only [hmapped, Program.run_done, Program.exchanges_done, List.filterMap_nil]
    refine .stay ?_
    unfold Input.Idle
    rw [hevent]
    simp [hmapped]
  | some broker =>
    simp only [s.handleReplaceCommand_eq i.env signal hmapped, Program.run_call,
      Program.exchanges_call, GatewayAnswers.answer]
    cases haccept : i.gateway.replaceOrder broker (s.orderOfReplace i.env signal) with
    | error e =>
      refine .stay ?_
      unfold Input.Idle
      rw [hevent]
      simp [hmapped, haccept]
    | ok newBroker => exact acceptReplace_move hevent hmapped haccept rfl rfl

/-! ## The kill switch -/

/-- One round of the kill switch leaves the books alone when the status update fails. -/
lemma OrderManager.killOrder_cases (s : OrderManager) (env : Env) (localId : LocalOrderId) :
    ((s.killOrder env localId).toBooks = s.toBooks ∧
      (s.killOrder env localId).storeFailures = s.storeFailures + 1) ∨
    ((s.killOrder env localId).toBooks = s.toBooks.kill env.sqliteNow localId ∧
      (s.killOrder env localId).storeFailures = s.storeFailures) := by
  unfold OrderManager.killOrder
  rcases s.updateOrderStatus_cases env localId .cancelled with ⟨-, e, h⟩ | ⟨-, h⟩
  · left
    rw [h]
    exact ⟨rfl, rfl⟩
  · right
    rw [h]
    exact ⟨rfl, rfl⟩

/-- The kill switch does nothing at the broker for an order that it cannot cancel. -/
lemma Input.killEffects_cons_of_not_kills {i : Input} {row : StoredOrder} (rest : List StoredOrder)
    (hkills : ¬ i.Kills row) : i.killEffects (row :: rest) = i.killEffects rest := by
  have hnone : i.killedBroker row = none := by
    unfold Input.killedBroker
    cases hbroker : row.brokerId with
    | none => rfl
    | some broker =>
      cases haccept : i.gateway.cancelOrder broker with
      | error e => simp [Option.filter, haccept]
      | ok u => exact absurd ⟨broker, hbroker, haccept⟩ hkills
  unfold Input.killEffects
  rw [List.filterMap_cons_none hnone]

/-- The kill switch closes an order that it cancels. -/
lemma Input.killEffects_cons_of_ok {i : Input} {row : StoredOrder} {broker : BrokerOrderId}
    (rest : List StoredOrder) (hbroker : row.brokerId = some broker)
    (haccept : i.gateway.cancelOrder broker = .ok ()) :
    i.killEffects (row :: rest) = .closed broker :: i.killEffects rest := by
  have hsome : i.killedBroker row = some broker := by
    unfold Input.killedBroker
    simp [hbroker, Option.filter, haccept]
  unfold Input.killEffects
  rw [List.filterMap_cons_some hsome, List.map_cons]

/-- The loop of the kill switch kills some of the orders that it goes through: those that the
gateway cancels, and all of these when no call on the store fails. -/
lemma cancelOpenOrders_kills (i : Input) (orders : List StoredOrder) (s : OrderManager) :
    let s' := (OrderManager.cancelOpenOrders i.env orders s).run i.gateway.answer
    ((OrderManager.cancelOpenOrders i.env orders s).exchanges i.gateway.answer).filterMap effectOf =
        i.killEffects orders ∧
      s.storeFailures ≤ s'.storeFailures ∧
      ∃ killed : List StoredOrder, killed.Sublist orders ∧ (∀ row ∈ killed, i.Kills row) ∧
        s'.toBooks = (killed.map StoredOrder.localId).foldl (Books.kill i.env.sqliteNow) s.toBooks ∧
        (s'.storeFailures = s.storeFailures → ∀ row ∈ orders, i.Kills row → row ∈ killed) := by
  induction orders generalizing s with
  | nil =>
    refine ⟨rfl, le_rfl, [], List.Sublist.refl _, ?_, rfl, ?_⟩
    · intro row hrow
      simp at hrow
    · intro _ row hrow
      simp at hrow
  | cons stored rest ih =>
    unfold OrderManager.cancelOpenOrders
    cases hbroker : stored.brokerId with
    | none =>
      have hkills : ¬ i.Kills stored := by
        rintro ⟨broker, hb, -⟩
        simp [hbroker] at hb
      obtain ⟨heffects, hle, killed, hsub, hkilled, hbooks, hall⟩ := ih s
      rw [Input.killEffects_cons_of_not_kills rest hkills]
      refine ⟨heffects, hle, killed, hsub.cons stored, hkilled, hbooks, ?_⟩
      intro hok row hrow hkill
      rcases List.mem_cons.mp hrow with rfl | hrow
      · exact absurd hkill hkills
      · exact hall hok row hrow hkill
    | some broker =>
      simp only [Program.run_call, Program.exchanges_call, GatewayAnswers.answer]
      cases haccept : i.gateway.cancelOrder broker with
      | error e =>
        have hkills : ¬ i.Kills stored := by
          rintro ⟨broker', hb, haccept'⟩
          obtain rfl : broker = broker' := Option.some.inj (hbroker.symm.trans hb)
          simp [haccept] at haccept'
        obtain ⟨heffects, hle, killed, hsub, hkilled, hbooks, hall⟩ := ih (s.log .errorOccurred
          ("Failed to cancel during kill switch: " ++ e.message) stored.localId)
        rw [Input.killEffects_cons_of_not_kills rest hkills]
        refine ⟨heffects, hle, killed, hsub.cons stored, hkilled, hbooks, ?_⟩
        intro hok row hrow hkill
        rcases List.mem_cons.mp hrow with rfl | hrow
        · exact absurd hkill hkills
        · exact hall hok row hrow hkill
      | ok u =>
        obtain ⟨heffects, hle, killed, hsub, hkilled, hbooks, hall⟩ :=
          ih (s.killOrder i.env stored.localId)
        rw [Input.killEffects_cons_of_ok rest hbroker haccept]
        refine ⟨congrArg (GatewayEffect.closed broker :: ·) heffects, ?_⟩
        dsimp only
        rcases s.killOrder_cases i.env stored.localId with ⟨hb, hf⟩ | ⟨hb, hf⟩
        · -- the status update failed: the order stays mapped
          rw [hb] at hbooks
          refine ⟨by omega, killed, hsub.cons stored, hkilled, hbooks, ?_⟩
          intro hok
          omega
        · rw [hb] at hbooks
          refine ⟨by omega, stored :: killed, hsub.cons_cons stored, ?_, hbooks, ?_⟩
          · intro row hrow
            rcases List.mem_cons.mp hrow with rfl | hrow
            · exact ⟨broker, hbroker, haccept⟩
            · exact hkilled row hrow
          · intro hok row hrow hkill
            rcases List.mem_cons.mp hrow with rfl | hrow
            · exact List.mem_cons_self
            · exact List.mem_cons_of_mem _ (hall (by omega) row hrow hkill)

/-- A kill switch is a move. -/
lemma cancelAll_move (s : OrderManager) (i : Input) {reason initiatedBy : String}
    (hevent : i.event = .cancelAllCommand reason initiatedBy) :
    Move s i ((dispatch s i).storeFailures = s.storeFailures) (effects s i)
      (dispatch s i).toBooks := by
  unfold dispatch effects exchanges OrderManager.handle OrderManager.handleCancelAllCommand
  simp only [hevent]
  generalize hs₁ : s.log .killSwitchActivated
    ("Kill switch activated by: " ++ initiatedBy ++ ". Reason: " ++ reason) = s₁
  have hbooks₁ : s₁.toBooks = s.toBooks := by
    rw [← hs₁]
    rfl
  have hfail₁ : s₁.storeFailures = s.storeFailures := by
    rw [← hs₁]
    rfl
  have hstore₁ : s₁.orderStore = s.orderStore := congrArg Books.orderStore hbooks₁
  unfold OrderManager.getOpenOrders
  cases hread : i.env.openOrdersRead with
  | none =>
    obtain ⟨heffects, -, killed, hsub, hkills, hbooks, hall⟩ :=
      cancelOpenOrders_kills i (s₁.orderStore.getOpenOrders none) s₁
    dsimp only
    rw [heffects, hbooks, hbooks₁, ← hread]
    rw [hstore₁] at hsub hall
    rw [← hread] at hsub
    refine .killSwitch hevent hsub hkills fun hok => ⟨hread, ?_⟩
    rw [hread] at hok
    rw [hfail₁] at hall
    exact hall hok
  | some n =>
    obtain ⟨heffects, hle, killed, hsub, hkills, hbooks, -⟩ :=
      cancelOpenOrders_kills i (s₁.orderStore.getOpenOrders (some n))
        { s₁ with storeFailures := s₁.storeFailures + 1 }
    dsimp only at hle heffects hbooks ⊢
    rw [heffects, hbooks, hbooks₁, ← hread]
    rw [hstore₁, ← hread] at hsub
    rw [hbooks₁, ← hread] at hle
    refine .killSwitch hevent hsub hkills fun hok => ?_
    omega

/-! ## Reports -/

/-- A terminal report closes the order, whether its status is updated or not. -/
lemma OrderManager.closeOrder_cases (s : OrderManager) (env : Env) (localId : LocalOrderId)
    (report : V1.ExecutionReport) :
    ∃ status updated, (status = .rejected ∨ status = .cancelled) ∧
      (s.closeOrder env localId report).toBooks =
        s.toBooks.close localId status env.sqliteNow updated ∧
      ((s.closeOrder env localId report).storeFailures = s.storeFailures → updated = true) := by
  unfold OrderManager.closeOrder
  dsimp only
  generalize hstatus : (if report.status = .rejected then OrderStatus.rejected
    else OrderStatus.cancelled) = status
  have hcases : status = .rejected ∨ status = .cancelled := by
    rw [← hstatus]
    split_ifs
    · exact Or.inl rfl
    · exact Or.inr rfl
  rcases s.updateOrderStatus_cases env localId status with ⟨-, e, h⟩ | ⟨-, h⟩
  · refine ⟨status, false, hcases, ?_, ?_⟩
    · rw [h]
      simp [OrderManager.removeMapping, Books.close, Books.removeMapping]
    · rw [h]
      simp [OrderManager.removeMapping]
  · refine ⟨status, true, hcases, ?_, fun _ => rfl⟩
    rw [h]
    simp [OrderManager.removeMapping, Books.close, Books.removeMapping, Books.setStatus]

/-- A fill moves the position and, when `apply_fill` succeeds, the row. -/
lemma OrderManager.recordFill_cases (s : OrderManager) (env : Env) (localId : LocalOrderId)
    (row : StoredOrder) (report : V1.ExecutionReport) :
    ∃ applied, (applied = true ↔ env.storeFault (.applyFill localId) = none) ∧
      (s.recordFill env localId row report).toBooks =
        s.toBooks.fill localId row report env.sqliteNow applied ∧
      ((s.recordFill env localId row report).storeFailures = s.storeFailures →
        applied = true) := by
  unfold OrderManager.recordFill
  dsimp only
  have hstatus : (if (decide (row.order.quantity ≤ row.filledQuantity + report.filledQuantity)) =
      true then OrderStatus.filled else .partiallyFilled) = Books.fillStatus row report := by
    unfold Books.fillStatus
    simp only [decide_eq_true_eq]
  rw [hstatus]
  rcases s.applyFill_cases env localId report.filledQuantity report.avgFillPrice
      (Books.fillStatus row report) with ⟨hfault, e, h⟩ | ⟨hfault, h⟩
  · refine ⟨false, by simp [hfault], ?_, ?_⟩
    · rw [h]
      by_cases hfull : row.order.quantity ≤ row.filledQuantity + report.filledQuantity
      · simp [hfull, Books.fill, OrderManager.removeMapping, OrderManager.addOpenOrders,
          Books.removeMapping, Books.addOpenOrders, OrderManager.onFill, OrderManager.logFailure,
          OrderManager.log]
      · simp [hfull, Books.fill, OrderManager.onFill, OrderManager.logFailure, OrderManager.log]
    · rw [h]
      by_cases hfull : row.order.quantity ≤ row.filledQuantity + report.filledQuantity
      · simp [hfull, OrderManager.removeMapping, OrderManager.addOpenOrders, OrderManager.onFill]
      · simp [hfull, OrderManager.onFill]
  · refine ⟨true, by simp [hfault], ?_, fun _ => rfl⟩
    rw [h]
    by_cases hfull : row.order.quantity ≤ row.filledQuantity + report.filledQuantity
    · simp [hfull, Books.fill, OrderManager.removeMapping, OrderManager.addOpenOrders,
        Books.removeMapping, Books.addOpenOrders, OrderManager.onFill, OrderManager.logFailure]
    · simp [hfull, Books.fill, OrderManager.onFill, OrderManager.logFailure]

/-- A report that is not terminal leaves the books alone when its order cannot be read. -/
lemma OrderManager.handleFill_unread {s : OrderManager} {env : Env} {report : V1.ExecutionReport}
    {localId : LocalOrderId} (hmapped : s.idMapper.getLocalId report.brokerOrderId = some localId)
    (hterminal : report.isTerminal = false)
    (hread : env.storeFault (.getOrder localId) ≠ none ∨ s.orderStore.find localId = none) :
    (s.handleFill env report).toBooks = s.toBooks := by
  unfold handleFill
  rw [hmapped]
  dsimp only
  rw [if_neg (by simp [hterminal])]
  rcases s.getOrder_cases env localId with ⟨-, e, h⟩ | ⟨hfault, row, hrow, -⟩
  · rw [h]
    rfl
  · rcases hread with hfault' | hnone
    · exact absurd hfault hfault'
    · rw [hrow] at hnone
      cases hnone

/-- A report that is not terminal is booked as a fill of the row that is read. -/
lemma OrderManager.handleFill_read {s : OrderManager} {env : Env} {report : V1.ExecutionReport}
    {localId : LocalOrderId} {row : StoredOrder}
    (hmapped : s.idMapper.getLocalId report.brokerOrderId = some localId)
    (hterminal : report.isTerminal = false) (hread : env.storeFault (.getOrder localId) = none)
    (hrow : s.orderStore.find localId = some row) :
    ∃ applied, (applied = true ↔ env.storeFault (.applyFill localId) = none) ∧
      (s.handleFill env report).toBooks =
        s.toBooks.fill localId row report env.sqliteNow applied := by
  obtain ⟨applied, happlied, hbooks, -⟩ := s.recordFill_cases env localId row report
  have hget : s.getOrder env localId = (s, .ok row) := by
    unfold getOrder SQLiteOrderStore.getOrder
    rw [hread, hrow]
  refine ⟨applied, happlied, ?_⟩
  unfold handleFill
  rw [hmapped]
  dsimp only
  rw [if_neg (by simp [hterminal]), hget]
  exact hbooks

/-- A report is a move. -/
lemma report_move (s : OrderManager) (i : Input) {report : V1.ExecutionReport}
    (hevent : i.event = .executionReport report) :
    Move s i ((dispatch s i).storeFailures = s.storeFailures) (effects s i)
      (dispatch s i).toBooks := by
  unfold dispatch effects exchanges OrderManager.handle OrderManager.handleFill
  simp only [hevent, Program.run_done, Program.exchanges_done, List.filterMap_nil]
  cases hmapped : s.idMapper.getLocalId report.brokerOrderId with
  | none =>
    refine .stay ?_
    unfold Input.Idle
    rw [hevent]
    exact hmapped
  | some localId =>
    dsimp only
    by_cases hterminal : report.isTerminal = true
    · rw [if_pos hterminal]
      obtain ⟨status, updated, hstatus, hbooks, hok⟩ := s.closeOrder_cases i.env localId report
      rw [hbooks]
      exact .close hevent hmapped hterminal hstatus hok
    · rw [if_neg hterminal]
      rw [Bool.not_eq_true] at hterminal
      rcases s.getOrder_cases i.env localId with ⟨hmissing, e, h⟩ | ⟨hread, row, hrow, h⟩
      · rw [h]
        refine .skip (fun report' hreport => ?_) fun hok => ?_
        · rw [hevent] at hreport
          cases hreport
          exact ⟨hterminal, localId, hmapped, hmissing⟩
        · simp at hok
      · rw [h]
        obtain ⟨applied, hfault, hbooks, hok⟩ := s.recordFill_cases i.env localId row report
        dsimp only
        rw [hbooks]
        exact .fill hevent hmapped hterminal hrow ⟨hread, hfault⟩ hok

/-! ## The main result -/

/-- **Every round of the dispatch loop is a move.** -/
theorem dispatch_move (s : OrderManager) (i : Input) :
    Move s i ((dispatch s i).storeFailures = s.storeFailures) (effects s i)
      (dispatch s i).toBooks := by
  cases hevent : i.event with
  | bar bar =>
    have hbooks : (dispatch s i).toBooks = s.toBooks := by
      unfold dispatch OrderManager.handle
      simp only [hevent, Program.run_done, OrderManager.handleBar_toBooks]
    have heffects : effects s i = [] := by
      unfold effects exchanges OrderManager.handle
      simp only [hevent, Program.exchanges_done, List.filterMap_nil]
    rw [hbooks, heffects]
    exact .stay (by simp [Input.Idle, hevent])
  | tick tick =>
    have hbooks : (dispatch s i).toBooks = s.toBooks := by
      unfold dispatch OrderManager.handle
      simp only [hevent, Program.run_done, OrderManager.handleTick_toBooks]
    have heffects : effects s i = [] := by
      unfold effects exchanges OrderManager.handle
      simp only [hevent, Program.exchanges_done, List.filterMap_nil]
    rw [hbooks, heffects]
    exact .stay (by simp [Input.Idle, hevent])
  | executionReport report => exact report_move s i hevent
  | submitCommand signal => exact submit_move s i hevent
  | cancelCommand signal => exact cancel_move s i hevent
  | replaceCommand signal => exact replace_move s i hevent
  | cancelAllCommand reason initiatedBy => exact cancelAll_move s i hevent

/-! ## The broker ids that the gateway gives out -/

/-- The broker id that a call on the gateway has given out. -/
def GatewayEffect.issued : GatewayEffect → Option BrokerOrderId
  | opened broker _ | moved _ broker _ => some broker
  | closed _ => none

/-- The broker ids that the gateway gives out while the event is handled. -/
def issued (s : OrderManager) (i : Input) : List BrokerOrderId :=
  (effects s i).filterMap GatewayEffect.issued

/-- The kill switch gives no broker id out. -/
lemma issued_killEffects (i : Input) (orders : List StoredOrder) :
    (i.killEffects orders).filterMap GatewayEffect.issued = [] := by
  unfold Input.killEffects
  rw [List.filterMap_map, List.filterMap_eq_nil_iff]
  exact fun _ _ => rfl

/-- The broker ids that the gateway gives out have no zero byte, so that the store keeps them
whole. -/
def IssuesNoZeroByte (s : OrderManager) (i : Input) : Prop :=
  ∀ broker ∈ issued s i, NoZeroByte broker

instance (s : OrderManager) (i : Input) : Decidable (IssuesNoZeroByte s i) :=
  inferInstanceAs (Decidable (∀ _ ∈ _, _))

namespace OrderIdMapper

/-- The mapped broker ids have no zero byte. -/
def NoZeroBytes (mapper : OrderIdMapper) : Prop :=
  ∀ localId broker, mapper.getBrokerId localId = some broker → NoZeroByte broker

instance (mapper : OrderIdMapper) : Decidable mapper.NoZeroBytes :=
  decidable_of_iff (∀ entry ∈ mapper.localToBroker.entries, NoZeroByte entry.2) (by
    unfold NoZeroBytes getBrokerId
    simp only [AList.mem_lookup_iff, Sigma.forall, Option.mem_def.symm])

variable {mapper : OrderIdMapper}

/-- A new mapping. -/
lemma NoZeroBytes.addMapping (h : mapper.NoZeroBytes) (localId : LocalOrderId)
    {broker : BrokerOrderId} (hbroker : NoZeroByte broker) :
    (mapper.addMapping localId broker).NoZeroBytes := by
  intro l b hmapped
  rw [OrderIdMapper.getBrokerId_addMapping] at hmapped
  split_ifs at hmapped
  · obtain rfl := Option.some.inj hmapped
    exact hbroker
  · exact h l b hmapped

/-- The broker id of a new mapping. -/
lemma NoZeroBytes.of_addMapping {localId : LocalOrderId} {broker : BrokerOrderId}
    (h : (mapper.addMapping localId broker).NoZeroBytes) : NoZeroByte broker := by
  refine h localId broker ?_
  rw [OrderIdMapper.getBrokerId_addMapping, if_pos rfl]

/-- A mapping that is removed. -/
lemma NoZeroBytes.removeMapping (h : mapper.NoZeroBytes) (localId : LocalOrderId) :
    (mapper.removeMapping localId).NoZeroBytes := by
  intro l broker hmapped
  rw [OrderIdMapper.getBrokerId_removeMapping] at hmapped
  split_ifs at hmapped
  exact h l broker hmapped

end OrderIdMapper

/-- The mapped broker ids have no zero byte when those that are given out have none. -/
lemma Move.noZeroBytes {s : OrderManager} {i : Input} {ok : Prop} {done : List GatewayEffect}
    {b : Books} (hmove : Move s i ok done b) (h : s.idMapper.NoZeroBytes)
    (hplain : ∀ broker ∈ done.filterMap GatewayEffect.issued, NoZeroByte broker) :
    b.idMapper.NoZeroBytes := by
  cases hmove with
  | stay _ | skip _ _ | refuse _ _ _ _ _ | lose _ _ _ _ _ _ _ => exact h
  | accept _ _ _ _ _ _ => exact h.addMapping _ (hplain _ (by simp [GatewayEffect.issued]))
  | cancel _ _ _ | unmap _ _ _ | forget _ _ _ _ _ | retire _ _ _ _ _ => exact h.removeMapping _
  | replace _ _ _ _ _ =>
    exact (h.removeMapping _).addMapping _ (hplain _ (by simp [GatewayEffect.issued]))
  | killSwitch _ _ _ _ =>
    intro l broker hmapped
    rw [Books.getBrokerId_kills] at hmapped
    split_ifs at hmapped
    exact h l broker hmapped
  | close _ _ _ _ _ =>
    rw [Books.close_idMapper]
    exact h.removeMapping _
  | fill _ _ _ _ _ _ =>
    rw [Books.fill_idMapper]
    split_ifs
    · exact h.removeMapping _
    · exact h

/-- A kill switch, which reads the broker ids from the store, finds those of the mapped orders
whole. -/
def Input.ReadsWhole (s : OrderManager) (i : Input) : Prop :=
  ∀ reason initiatedBy, i.event = .cancelAllCommand reason initiatedBy → s.idMapper.NoZeroBytes

/-! ## Nothing mapped -/

/-- When nothing is mapped, only an order that is accepted becomes mapped. -/
lemma Move.getBrokerId_eq_none {s : OrderManager} {i : Input} {ok : Prop}
    {done : List GatewayEffect} {b : Books} (hmove : Move s i ok done b)
    (hinverse : s.idMapper.Inverse) (hnone : ∀ l, s.idMapper.getBrokerId l = none)
    (hquiet : ∀ signal, i.event = .submitCommand signal → SubmitSent s i.env signal →
      ∀ broker, i.gateway.submitOrder (s.orderOfSubmit i.env signal) ≠ .ok broker)
    (l : LocalOrderId) : b.idMapper.getBrokerId l = none := by
  have hlocal : ∀ broker l, s.idMapper.getLocalId broker ≠ some l := by
    intro broker l hmapped
    rw [hinverse, hnone] at hmapped
    cases hmapped
  cases hmove with
  | stay _ | skip _ _ | refuse _ _ _ _ _ => exact hnone l
  | lose hevent hsent haccept _ _ _ _ | accept hevent hsent haccept _ _ _ =>
    exact absurd haccept (hquiet _ hevent hsent _)
  | cancel _ hmapped _ | unmap _ hmapped _ | forget _ hmapped _ _ _ | retire _ hmapped _ _ _
  | replace _ hmapped _ _ _ =>
    rw [hnone] at hmapped
    cases hmapped
  | killSwitch _ _ _ _ =>
    rw [Books.getBrokerId_kills, hnone, ite_self]
  | close _ hmapped _ _ _ | fill _ hmapped _ _ _ _ => exact absurd hmapped (hlocal _ _)

/-- The rows of the mapped orders are open and carry what was bound of the broker ids that they are
mapped to. -/
def OrderIdMapper.CarriedBy (mapper : OrderIdMapper) (store : SQLiteOrderStore) : Prop :=
  ∀ localId broker, mapper.getBrokerId localId = some broker →
    ∃ row, store.find localId = some row ∧ row.brokerId = some (cStr broker) ∧
      row.status.isOpen = true

/-- A kill switch all of whose calls succeed leaves nothing mapped. -/
lemma getBrokerId_killSwitch {s : OrderManager} {i : Input}
    (h : s.idMapper.CarriedBy s.orderStore) (hok : StoreSucceeds s i)
    {reason initiatedBy : String} (hevent : i.event = .cancelAllCommand reason initiatedBy)
    (haccept : ∀ localId broker, s.idMapper.getBrokerId localId = some broker →
      i.gateway.cancelOrder (cStr broker) = .ok ()) (l : LocalOrderId) :
    (dispatch s i).idMapper.getBrokerId l = none := by
  obtain ⟨killed, -, hkilled, -, hbooks⟩ := (dispatch_move s i).of_cancelAll hok hevent
  rw [hbooks, Books.getBrokerId_kills]
  by_cases hl : l ∈ killed.map StoredOrder.localId
  · rw [if_pos hl]
  rw [if_neg hl]
  cases hmapped : s.idMapper.getBrokerId l with
  | none => rfl
  | some broker =>
    obtain ⟨row, hrow, hbroker, hstatus⟩ := h l broker hmapped
    have hopen : row ∈ s.orderStore.getOpenOrders none :=
      SQLiteOrderStore.mem_getOpenOrders_iff.mpr ⟨SQLiteOrderStore.mem_of_find hrow, hstatus⟩
    have hkills := (hkilled row hopen).mpr ⟨cStr broker, hbroker, haccept l broker hmapped⟩
    refine absurd (List.mem_map.mpr ⟨row, hkills, ?_⟩) hl
    exact SQLiteOrderStore.localId_of_find hrow

end Quarcc
