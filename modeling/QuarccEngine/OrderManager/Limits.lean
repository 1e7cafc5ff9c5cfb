import QuarccEngine.Library.Trajectory
import QuarccEngine.OrderManager.Moves

/-!
# The limits on the orders that are sent

An order reaches the gateway from `handle_submit_command` and from `handle_replace_command`.  The
first checks it against the risk limits before, the second does not.  The orders that are sent are
read off the exchanges of an event, each with the state in which the gateway was called.  The
quantities, the limits and the realized PnL are numbers: a NaN would pass every check.
-/

namespace Quarcc

/-- The quantity and the realized PnL meet the enabled limits. -/
def RiskLimits.Met (limits : RiskLimits) (quantity pnl : ℚ) : Prop :=
  (limits.maxQuantity ≠ 0 → quantity ≤ limits.maxQuantity) ∧
    (limits.dailyPnlLimit ≠ 0 → -limits.dailyPnlLimit ≤ pnl)

instance (limits : RiskLimits) (quantity pnl : ℚ) : Decidable (limits.Met quantity pnl) :=
  inferInstanceAs (Decidable (_ ∧ _))

/-- An order that is sent meets the limits in the state in which it is sent. -/
def OrderWithinLimits (x : GatewayExchange) : Prop :=
  match x.call with
  | .submitOrder order | .replaceOrder _ order =>
    x.state.riskManager.limits.Met order.quantity x.state.positionKeeper.getTotalPnl
  | .cancelOrder _ => True

instance : (x : GatewayExchange) → Decidable (OrderWithinLimits x)
  | ⟨s, .submitOrder order, _⟩ | ⟨s, .replaceOrder _ order, _⟩ =>
    inferInstanceAs
      (Decidable (s.riskManager.limits.Met order.quantity s.positionKeeper.getTotalPnl))
  | ⟨_, .cancelOrder _, _⟩ => isTrue trivial

/-- Every order that the event of `i` sends meets the limits. -/
def SendsWithinLimits (s : OrderManager) (i : Input) : Prop :=
  ∀ x ∈ exchanges s i, OrderWithinLimits x

instance (s : OrderManager) (i : Input) : Decidable (SendsWithinLimits s i) :=
  inferInstanceAs (Decidable (∀ x ∈ exchanges s i, OrderWithinLimits x))

/-- A replace command for a mapped order passes the check that `handle_submit_command` would make,
the number of open orders aside.  Its target quantity is a number. -/
def Input.ReplacePassesCheck (s : OrderManager) (i : Input) : Prop :=
  match i.event with
  | .replaceCommand signal =>
    s.idMapper.getBrokerId signal.orderId ≠ none →
      s.riskManager.check signal.targetQuantity 0 s.positionKeeper.getTotalPnl = .ok ()
  | _ => True

/-! ## What the handlers send -/

/-- The check without open orders is the check of the two limits on an order. -/
lemma RiskManager.check_zero_ok_iff {rm : RiskManager} {quantity pnl : ℚ} :
    rm.check quantity 0 pnl = .ok () ↔ rm.limits.Met quantity pnl := by
  rw [RiskManager.check_ok_iff]
  unfold RiskLimits.Met
  simp

/-- A submit command sends nothing, or sends its order after the check has passed. -/
lemma exchanges_submit (s : OrderManager) (i : Input) {signal : V1.StrategySignal}
    (hevent : i.event = .submitCommand signal) {x : GatewayExchange} (hx : x ∈ exchanges s i) :
    x.call = .submitOrder (s.orderOfSubmit i.env signal) ∧
      x.state.riskManager = s.riskManager ∧ x.state.positionKeeper = s.positionKeeper ∧
      s.checkSubmit signal = .ok () := by
  obtain ⟨createdAt, hts⟩ := timestampToString_ok i.env.now
  unfold exchanges OrderManager.handle at hx
  simp only [hevent, s.handleSubmitCommand_eq i.env signal hts] at hx
  rcases (s.beginSubmit i.env signal).storeOrder_cases i.env
      (s.rowOfSubmit i.env signal createdAt) with ⟨-, e, hstore⟩ | ⟨-, store, -, hstore⟩
  · simp only [hstore, Program.exchanges_done] at hx
    exact absurd hx List.not_mem_nil
  simp only [hstore] at hx
  have hcheck : ({ s.beginSubmit i.env signal with orderStore := store } :
      OrderManager).checkSubmit signal = s.checkSubmit signal := rfl
  rw [hcheck] at hx
  cases hrisk : s.checkSubmit signal with
  | error e =>
    simp only [hrisk, Program.exchanges_done] at hx
    exact absurd hx List.not_mem_nil
  | ok u =>
    simp only [hrisk, Program.exchanges_call, GatewayAnswers.answer] at hx
    have hsingle : x = ⟨{ s.beginSubmit i.env signal with orderStore := store },
        .submitOrder (s.orderOfSubmit i.env signal),
        i.gateway.submitOrder (s.orderOfSubmit i.env signal)⟩ := by
      cases haccept : i.gateway.submitOrder (s.orderOfSubmit i.env signal) <;>
        simpa [haccept] using hx
    subst hsingle
    exact ⟨rfl, rfl, rfl, rfl⟩

/-- A replace command sends nothing when its order is not mapped, else exactly the new order. -/
lemma exchanges_replace (s : OrderManager) (i : Input) {signal : V1.ReplaceSignal}
    (hevent : i.event = .replaceCommand signal) :
    (s.idMapper.getBrokerId signal.orderId = none ∧ exchanges s i = []) ∨
      ∃ broker x, s.idMapper.getBrokerId signal.orderId = some broker ∧ exchanges s i = [x] ∧
        x.call = .replaceOrder broker (s.orderOfReplace i.env signal) ∧
        x.state.riskManager = s.riskManager ∧ x.state.positionKeeper = s.positionKeeper := by
  unfold exchanges OrderManager.handle
  simp only [hevent]
  cases hmapped : s.idMapper.getBrokerId signal.orderId with
  | none =>
    left
    unfold OrderManager.handleReplaceCommand
    simp [hmapped]
  | some broker =>
    right
    rw [s.handleReplaceCommand_eq i.env signal hmapped, Program.exchanges_call]
    refine ⟨broker, ⟨s.beginReplace i.env signal,
      .replaceOrder broker (s.orderOfReplace i.env signal), i.gateway.answer _⟩, rfl, ?_, rfl, rfl,
      rfl⟩
    cases i.gateway.answer (.replaceOrder broker (s.orderOfReplace i.env signal)) <;> rfl

/-- A cancel command only cancels. -/
lemma exchanges_cancel (s : OrderManager) (i : Input) {signal : V1.CancelSignal}
    (hevent : i.event = .cancelCommand signal) {x : GatewayExchange} (hx : x ∈ exchanges s i) :
    ∃ broker, x.call = .cancelOrder broker := by
  unfold exchanges OrderManager.handle OrderManager.handleCancelCommand at hx
  simp only [hevent] at hx
  cases hmapped : s.idMapper.getBrokerId signal.orderId with
  | none =>
    simp [hmapped] at hx
  | some broker =>
    simp only [hmapped, Program.exchanges_call, GatewayAnswers.answer] at hx
    refine ⟨broker, ?_⟩
    cases haccept : i.gateway.cancelOrder broker <;> simp [haccept] at hx <;> rw [hx]

/-- The loop of the kill switch only cancels. -/
lemma exchanges_cancelOpenOrders (i : Input) (orders : List StoredOrder) (s : OrderManager)
    {x : GatewayExchange}
    (hx : x ∈ (OrderManager.cancelOpenOrders i.env orders s).exchanges i.gateway.answer) :
    ∃ broker, x.call = .cancelOrder broker := by
  induction orders generalizing s with
  | nil => simp [OrderManager.cancelOpenOrders] at hx
  | cons stored rest ih =>
    unfold OrderManager.cancelOpenOrders at hx
    cases hbroker : stored.brokerId with
    | none =>
      rw [hbroker] at hx
      exact ih s hx
    | some broker =>
      rw [hbroker] at hx
      rcases List.mem_cons.mp hx with rfl | hx
      · exact ⟨broker, rfl⟩
      · simp only [GatewayAnswers.answer] at hx
        cases haccept : i.gateway.cancelOrder broker with
        | error e =>
          rw [haccept] at hx
          exact ih _ hx
        | ok u =>
          rw [haccept] at hx
          exact ih _ hx

/-- A kill switch only cancels. -/
lemma exchanges_cancelAll (s : OrderManager) (i : Input) {reason initiatedBy : String}
    (hevent : i.event = .cancelAllCommand reason initiatedBy) {x : GatewayExchange}
    (hx : x ∈ exchanges s i) : ∃ broker, x.call = .cancelOrder broker := by
  unfold exchanges OrderManager.handle OrderManager.handleCancelAllCommand at hx
  simp only [hevent] at hx
  exact exchanges_cancelOpenOrders i _ _ hx

/-! ## Main result -/

/-- A call that cancels sends no order. -/
lemma orderWithinLimits_of_cancel {x : GatewayExchange}
    (h : ∃ broker, x.call = .cancelOrder broker) : OrderWithinLimits x := by
  obtain ⟨broker, hcall⟩ := h
  unfold OrderWithinLimits
  rw [hcall]
  trivial

/-- What one event sends meets the limits exactly when it is no replace command for a mapped order
that the check would refuse. -/
theorem sendsWithinLimits_iff (s : OrderManager) (i : Input) :
    SendsWithinLimits s i ↔ i.ReplacePassesCheck s := by
  unfold SendsWithinLimits Input.ReplacePassesCheck
  cases hevent : i.event with
  | bar bar => simp [exchanges, OrderManager.handle, hevent]
  | tick tick => simp [exchanges, OrderManager.handle, hevent]
  | executionReport report => simp [exchanges, OrderManager.handle, hevent]
  | submitCommand signal =>
    refine ⟨fun _ => trivial, fun _ x hx => ?_⟩
    obtain ⟨hcall, hrisk, hkeeper, hcheck⟩ := exchanges_submit s i hevent hx
    obtain ⟨hqty, -, hpnl⟩ := RiskManager.check_ok_iff.mp hcheck
    unfold OrderWithinLimits
    rw [hcall, hrisk, hkeeper]
    exact ⟨hqty, hpnl⟩
  | cancelCommand signal =>
    exact ⟨fun _ => trivial,
      fun _ x hx => orderWithinLimits_of_cancel (exchanges_cancel s i hevent hx)⟩
  | replaceCommand signal =>
    dsimp only
    rw [RiskManager.check_zero_ok_iff]
    rcases exchanges_replace s i hevent with
      ⟨hnone, hsent⟩ | ⟨broker, x, hsome, hsent, hcall, hrisk, hkeeper⟩
    · rw [hsent]
      simp [hnone]
    · have hx : OrderWithinLimits x ↔ s.riskManager.limits.Met signal.targetQuantity
          s.positionKeeper.getTotalPnl := by
        unfold OrderWithinLimits
        rw [hcall, hrisk, hkeeper]
        rfl
      rw [hsent]
      simp [hsome, hx]
  | cancelAllCommand reason initiatedBy =>
    exact ⟨fun _ => trivial,
      fun _ x hx => orderWithinLimits_of_cancel (exchanges_cancelAll s i hevent hx)⟩

/-- **The orders that a run sends** all meet the limits, each in the state in which it is sent,
exactly when every replace command for a mapped order would pass the check; the quantities, the
limits and the realized PnL being numbers. -/
theorem orders_within_limits_iff (s : OrderManager) (inputs : List Input) :
    Trajectory.AllSteps dispatch SendsWithinLimits s inputs ↔
      Trajectory.AllSteps dispatch (fun s i => i.ReplacePassesCheck s) s inputs :=
  Trajectory.allSteps_congr sendsWithinLimits_iff

/-- With a limit of 10 a replace command sends an order of 20. -/
theorem replace_exceeds_max_quantity :
    let start := createOrderManager "ACC" .empty ⟨{ maxQuantity := 10 }⟩
    let buy : OMEvent := .submitCommand { symbol := "AAPL", side := .buy, targetQuantity := 10 }
    let replace : OMEvent :=
      .replaceCommand
        { symbol := "AAPL", side := .buy, targetQuantity := 20, orderId := "ORD_0_000000" }
    ¬ Trajectory.AllSteps dispatch SendsWithinLimits start
      [buy.quietly "B1", replace.quietly "B2"] := by
  decide +kernel

end Quarcc
