import QuarccEngine.OrderManager.Atomicity

/-!
# Promises

A command carries a promise.  Its handler fulfils the promise once, with a value of the type of the
promise, and no other handler touches a promise.
-/

namespace Quarcc

/-- The promise of the event has the type of the reply. -/
def OMEvent.Takes : OMEvent → Reply → Prop
  | submitCommand _, .submitted _ => True
  | cancelCommand _, .cancelled _ => True
  | replaceCommand _, .replaced _ => True
  | cancelAllCommand _ _, .done => True
  | _, _ => False

namespace OrderManager

variable (s : OrderManager) (env : Env) (localId : LocalOrderId)

/-! ## Parts of the handlers -/

@[simp] lemma updateOrderStatus_replies (status : OrderStatus) :
    (s.updateOrderStatus env localId status).1.replies = s.replies :=
  s.runStatement_replies _

@[simp] lemma applyFill_replies (filledQuantity avgPrice : ℚ) (status : OrderStatus) :
    (s.applyFill env localId filledQuantity avgPrice status).1.replies = s.replies :=
  s.runStatement_replies _

@[simp] lemma getOpenOrders_replies : (s.getOpenOrders env).1.replies = s.replies := by
  unfold getOpenOrders
  cases env.openOrdersRead <;> rfl

@[simp] lemma notifyFillSink_replies (fill : V1.ExecutionReport) :
    (s.notifyFillSink fill).replies = s.replies := by
  unfold notifyFillSink
  cases s.fillSink <;> rfl

/-- The end of a submit command that the gateway has accepted. -/
lemma acceptSubmit_replies (broker : BrokerOrderId) :
    ∃ result, (s.acceptSubmit env localId broker).replies = s.replies ++ [.submitted result] := by
  rcases s.acceptSubmit_reply env localId broker with ⟨e, h, -⟩ | h
  · exact ⟨.error e, h⟩
  · exact ⟨.ok localId, h⟩

/-- The end of a cancel command that the gateway has accepted. -/
lemma acceptCancel_replies :
    ∃ result, (s.acceptCancel env localId).replies = s.replies ++ [.cancelled result] := by
  unfold acceptCancel
  dsimp only
  rcases ((s.log .orderCancelled "Cancelled" localId).removeMapping
      localId).updateOrderStatus_cases env localId .cancelled with ⟨-, e, h⟩ | ⟨-, h⟩
  · rw [h]
    exact ⟨.error e, rfl⟩
  · rw [h]
    exact ⟨.ok (), rfl⟩

/-- The end of a replace command that the gateway has accepted. -/
lemma acceptReplace_replies (oldId newId : LocalOrderId) (newOrder : V1.Order)
    (newBroker : BrokerOrderId) :
    ∃ result, (s.acceptReplace env oldId newId newOrder newBroker).replies =
      s.replies ++ [.replaced result] := by
  unfold acceptReplace
  dsimp only
  rcases (s.removeMapping oldId).updateOrderStatus_cases env oldId .replaced with
    ⟨-, e, h⟩ | ⟨-, h⟩
  · rw [h]
    exact ⟨.error e, rfl⟩
  obtain ⟨createdAt, hts⟩ := timestampToString_ok env.now
  rw [h, hts]
  dsimp only
  rcases OrderManager.storeOrder_cases
      { s.removeMapping oldId with
        orderStore := (s.removeMapping oldId).orderStore.setStatus oldId .replaced env.sqliteNow }
      env
      { order := newOrder, localId := newId, brokerId := some newBroker, status := .submitted
        createdAt := createdAt } with ⟨-, e, hstore⟩ | ⟨-, store, -, hstore⟩
  · rw [hstore]
    exact ⟨.error e, rfl⟩
  · rw [hstore]
    exact ⟨.ok newId, rfl⟩

/-- One round of the kill switch. -/
@[simp] lemma killOrder_replies : (s.killOrder env localId).replies = s.replies := by
  unfold killOrder
  rcases s.updateOrderStatus_cases env localId .cancelled with ⟨-, e, h⟩ | ⟨-, h⟩ <;> rw [h] <;> rfl

/-- The loop of the kill switch fulfils its promise at its end. -/
lemma cancelOpenOrders_replies (answer : (c : GatewayCall) → c.Answer) (orders : List StoredOrder)
    (s : OrderManager) :
    ((cancelOpenOrders env orders s).run answer).replies = s.replies ++ [.done] := by
  induction orders generalizing s with
  | nil => rfl
  | cons stored rest ih =>
    unfold cancelOpenOrders
    cases stored.brokerId with
    | none => exact ih s
    | some broker =>
      rw [Program.run_call]
      cases answer (.cancelOrder broker) with
      | ok u =>
        have hrest := ih (s.killOrder env stored.localId)
        rwa [killOrder_replies] at hrest
      | error e =>
        exact ih (s.log .errorOccurred ("Failed to cancel during kill switch: " ++ e.message)
          stored.localId)

/-- A report fulfils no promise. -/
lemma handleFill_replies (fill : V1.ExecutionReport) :
    (s.handleFill env fill).replies = s.replies := by
  unfold handleFill
  cases s.idMapper.getLocalId fill.brokerOrderId with
  | none => rfl
  | some localId =>
    dsimp only
    split_ifs with hterminal
    · unfold closeOrder removeMapping
      simp
    · rcases s.getOrder_cases env localId with ⟨-, e, hrow⟩ | ⟨-, stored, -, hrow⟩
      · rw [hrow]
        rfl
      · rw [hrow]
        unfold recordFill onFill removeMapping addOpenOrders
        dsimp only
        split_ifs <;> simp

end OrderManager

/-! ## Rounds -/

/-- The handler of an event that is no command fulfils no promise. -/
lemma dispatch_replies (s : OrderManager) {event : OMEvent} (env : Env) (gateway : GatewayAnswers)
    (h : event.hasPromise = false) : (dispatch s ⟨event, env, gateway⟩).replies = s.replies := by
  unfold dispatch OrderManager.handle
  cases event with
  | executionReport fill => exact s.handleFill_replies env fill
  | bar bar =>
    unfold OrderManager.handleBar
    cases s.barSink <;> rfl
  | tick tick =>
    unfold OrderManager.handleTick
    cases s.tickSink <;> rfl
  | submitCommand signal => cases h
  | cancelCommand signal => cases h
  | replaceCommand signal => cases h
  | cancelAllCommand reason initiatedBy => cases h

/-- The promise of a submit command. -/
lemma submit_replies (s : OrderManager) (env : Env) (gateway : GatewayAnswers)
    (signal : V1.StrategySignal) :
    ∃ result, (dispatch s ⟨.submitCommand signal, env, gateway⟩).replies =
      s.replies ++ [.submitted result] := by
  obtain ⟨createdAt, hts⟩ := timestampToString_ok env.now
  have hrun : dispatch s ⟨.submitCommand signal, env, gateway⟩ =
      (s.handleSubmitCommand env signal).run gateway.answer := rfl
  rw [hrun, s.handleSubmitCommand_eq env signal hts]
  rcases (s.beginSubmit env signal).storeOrder_cases env (s.rowOfSubmit env signal createdAt) with
    ⟨-, e, hstore⟩ | ⟨-, store, -, hstore⟩
  · rw [hstore]
    exact ⟨.error e, rfl⟩
  rw [hstore]
  dsimp only
  generalize hs' : ({ s.beginSubmit env signal with orderStore := store } : OrderManager) = s'
  have hreplies : s'.replies = s.replies := by
    rw [← hs']
    rfl
  rw [← hreplies]
  cases s'.checkSubmit signal with
  | error e => exact ⟨.error e, s'.rejectSubmit_replies env _ e⟩
  | ok u =>
    simp only [Program.run_call, GatewayAnswers.answer]
    cases gateway.submitOrder (s.orderOfSubmit env signal) with
    | error e => exact ⟨.error e, s'.rejectSubmit_replies env _ e⟩
    | ok broker => exact s'.acceptSubmit_replies env _ broker

/-- The promise of a cancel command. -/
lemma cancel_replies (s : OrderManager) (env : Env) (gateway : GatewayAnswers)
    (signal : V1.CancelSignal) :
    ∃ result, (dispatch s ⟨.cancelCommand signal, env, gateway⟩).replies =
      s.replies ++ [.cancelled result] := by
  have hrun : dispatch s ⟨.cancelCommand signal, env, gateway⟩ =
      (s.handleCancelCommand env signal).run gateway.answer := rfl
  rw [hrun]
  unfold OrderManager.handleCancelCommand
  cases s.idMapper.getBrokerId signal.orderId with
  | none => exact ⟨_, rfl⟩
  | some broker =>
    simp only [Program.run_call, GatewayAnswers.answer]
    cases gateway.cancelOrder broker with
    | error e => exact ⟨_, rfl⟩
    | ok u => exact s.acceptCancel_replies env signal.orderId

/-- The promise of a replace command. -/
lemma replace_replies (s : OrderManager) (env : Env) (gateway : GatewayAnswers)
    (signal : V1.ReplaceSignal) :
    ∃ result, (dispatch s ⟨.replaceCommand signal, env, gateway⟩).replies =
      s.replies ++ [.replaced result] := by
  have hrun : dispatch s ⟨.replaceCommand signal, env, gateway⟩ =
      (s.handleReplaceCommand env signal).run gateway.answer := rfl
  rw [hrun]
  cases hmapped : s.idMapper.getBrokerId signal.orderId with
  | none =>
    unfold OrderManager.handleReplaceCommand
    dsimp only
    rw [hmapped]
    exact ⟨_, rfl⟩
  | some broker =>
    rw [s.handleReplaceCommand_eq env signal hmapped]
    simp only [Program.run_call, GatewayAnswers.answer]
    cases gateway.replaceOrder broker (s.orderOfReplace env signal) with
    | error e => exact ⟨_, rfl⟩
    | ok newBroker => exact (s.beginReplace env signal).acceptReplace_replies env _ _ _ newBroker

/-- **The promise of a command is fulfilled once**, by its handler, with a value of its type. -/
theorem command_replies (s : OrderManager) {event : OMEvent} (env : Env) (gateway : GatewayAnswers)
    (h : event.hasPromise = true) :
    ∃ reply, (dispatch s ⟨event, env, gateway⟩).replies = s.replies ++ [reply] ∧
      event.Takes reply := by
  cases event with
  | submitCommand signal =>
    obtain ⟨result, hresult⟩ := submit_replies s env gateway signal
    exact ⟨_, hresult, trivial⟩
  | cancelCommand signal =>
    obtain ⟨result, hresult⟩ := cancel_replies s env gateway signal
    exact ⟨_, hresult, trivial⟩
  | replaceCommand signal =>
    obtain ⟨result, hresult⟩ := replace_replies s env gateway signal
    exact ⟨_, hresult, trivial⟩
  | cancelAllCommand reason initiatedBy =>
    refine ⟨.done, ?_, trivial⟩
    unfold dispatch OrderManager.handle OrderManager.handleCancelAllCommand
    dsimp only
    rw [OrderManager.cancelOpenOrders_replies, OrderManager.getOpenOrders_replies]
    rfl
  | bar bar => cases h
  | tick tick => cases h
  | executionReport fill => cases h

end Quarcc
