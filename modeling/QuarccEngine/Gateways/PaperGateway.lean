import Mathlib.Algebra.Order.BigOperators.Group.List
import Mathlib.Algebra.Order.Floor.Ring
import Mathlib.Data.Rat.Floor
import QuarccEngine.Core.OrderManager

/-!
# The paper gateway

`paper_trading_gateway.cpp`: a gateway that keeps the accepted orders in a map and fills them at
random when it polls them.

The numbers that it draws belong to the input of a call, and so does the order in which a poll walks
the hash map.  Every method holds `orders_mutex_` for all it does, so each is one atomic step.
-/

namespace Quarcc

/-- `PaperGatewayConfig`. -/
structure PaperGatewayConfig where
  fillProbability : ℚ := 85 / 100
  partialFillMin : ℚ := 3 / 10
  partialFillMax : ℚ := 9 / 10
  rejectionProbability : ℚ := 3 / 100
  slippageBps : ℚ := 5
  initialPrice : ℚ := 100
  priceVolatility : ℚ := 1 / 1000

/-- `PriceState`. -/
structure PriceState where
  bid : ℚ
  ask : ℚ

/-- `SimulatedOrder`. -/
structure SimulatedOrder where
  order : V1.Order
  /-- The mid price at the time of the submission. -/
  submittedAtPrice : ℚ
  /-- What all polls so far have filled. -/
  cumulativeFilled : ℚ

/-- `PaperGateway`. -/
structure PaperGateway where
  pendingOrders : AList fun _ : BrokerOrderId => SimulatedOrder := ∅
  idGen : OrderIdGenerator := { idSpecifier := "BROKER" }
  prices : AList fun _ : String => PriceState := ∅
  config : PaperGatewayConfig := {}

/-- What a poll draws for one order. -/
structure FillDraws where
  /-- The draw that decides whether the order is filled. -/
  fill : ℚ
  /-- The draw that decides whether all that remains is filled. -/
  full : ℚ
  /-- The draw of `partial_dist`. -/
  fraction : ℚ
  /-- `get_current_time()`. -/
  fillTime : String

/-- What a poll meets. -/
structure Poll where
  /-- The order in which `pending_orders_` is walked. -/
  visit : List BrokerOrderId
  /-- The draws of `price_dist_`. -/
  shock : String → ℚ
  draws : BrokerOrderId → FillDraws

namespace PaperGateway

/-! ## Prices -/

/-- The price of a symbol, as `prices_[symbol]` reads it. -/
def priceOf (g : PaperGateway) (symbol : String) : PriceState :=
  (g.prices.lookup symbol).getD ⟨0, 0⟩

/-- `get_or_init_price`, without its value. -/
def initPrice (g : PaperGateway) (symbol : String) : PaperGateway :=
  if symbol ∈ g.prices then g
  else
    let mid := g.config.initialPrice
    let halfSpread := mid * (25 / 100000)
    { g with prices := g.prices.insert symbol ⟨mid - halfSpread, mid + halfSpread⟩ }

/-- `get_or_init_price`. -/
def getOrInitPrice (g : PaperGateway) (symbol : String) : PaperGateway × ℚ :=
  let g := g.initPrice symbol
  (g, ((g.priceOf symbol).bid + (g.priceOf symbol).ask) / 2)

/-- One round of `advance_prices`. -/
def advancePrice (volatility shock : ℚ) (ps : PriceState) : PriceState :=
  let mid := (ps.bid + ps.ask) / 2
  let move := mid * volatility * shock
  let mid := max (mid + move) (1 / 100)
  let halfSpread := mid * (5 / 20000)
  ⟨mid - halfSpread, mid + halfSpread⟩

/-- `advance_prices`. -/
def advancePrices (g : PaperGateway) (shock : String → ℚ) : PaperGateway :=
  { g with
    prices := g.prices.keys.foldl
      (fun prices symbol =>
        prices.insert symbol
          (advancePrice g.config.priceVolatility (shock symbol) (g.priceOf symbol)))
      g.prices }

/-! ## Calls -/

/-- `submit_order`, with the number that it draws and the reading of the clock. -/
def submitOrder (g : PaperGateway) (draw : ℚ) (clockMs : ℤ) (order : V1.Order) :
    PaperGateway × Result BrokerOrderId :=
  if draw < g.config.rejectionProbability then
    (g, .error ⟨"Simulated order submittion rejection", .failedOrder⟩)
  else
    let (broker, idGen) := g.idGen.generate clockMs
    let (g, price) := { g with idGen := idGen }.getOrInitPrice order.symbol
    ({ g with pendingOrders := g.pendingOrders.insert broker ⟨order, price, 0⟩ }, .ok broker)

/-- `cancel_order`, which accepts every broker id. -/
def cancelOrder (g : PaperGateway) (broker : BrokerOrderId) : PaperGateway × Result Unit :=
  ({ g with pendingOrders := g.pendingOrders.erase broker }, .ok ())

/-- `replace_order`, with the number that it draws and the reading of the clock. -/
def replaceOrder (g : PaperGateway) (draw : ℚ) (clockMs : ℤ) (broker : BrokerOrderId)
    (newOrder : V1.Order) : PaperGateway × Result BrokerOrderId :=
  if draw < g.config.rejectionProbability then
    (g, .error ⟨"Simulated order replacement rejection", .failedOrder⟩)
  else
    let (newBroker, idGen) := g.idGen.generate clockMs
    let (g, price) := { g with
      idGen := idGen
      pendingOrders := g.pendingOrders.erase broker }.getOrInitPrice newOrder.symbol
    ({ g with pendingOrders := g.pendingOrders.insert newBroker ⟨newOrder, price, 0⟩ },
      .ok newBroker)

/-- A call of the order manager. -/
def call (g : PaperGateway) (draw : ℚ) (clockMs : ℤ) :
    (c : GatewayCall) → PaperGateway × c.Answer
  | .submitOrder order => g.submitOrder draw clockMs order
  | .cancelOrder broker => g.cancelOrder broker
  | .replaceOrder broker newOrder => g.replaceOrder draw clockMs broker newOrder

/-! ## Polls -/

/-- A limit order is only filled at its price or better. -/
def fillable (order : V1.Order) (ps : PriceState) : Bool :=
  order.type ≠ .limit || (order.side = .buy && ps.ask ≤ order.price) ||
    (order.side = .sell && order.price ≤ ps.bid)

/-- The quantity that a poll fills when `remaining` is left of the order. -/
def fillQuantity (remaining : ℚ) (draws : FillDraws) : ℚ :=
  let quantity :=
    if draws.full < 7 / 10 then remaining
    else
      let quantity : ℚ := ⌊remaining * draws.fraction⌋
      if quantity < 1 then 1 else quantity
  min quantity remaining

/-- The price at which a poll fills the order. -/
def fillPrice (config : PaperGatewayConfig) (order : V1.Order) (ps : PriceState) : ℚ :=
  if order.type = .limit then order.price
  else
    let mid := (ps.bid + ps.ask) / 2
    let slippage := mid * (config.slippageBps / 10000)
    if order.side = .buy then ps.ask + slippage else ps.bid - slippage

/-- The probability with which a poll fills the order. -/
def fillProbability (config : PaperGatewayConfig) (order : V1.Order) : ℚ :=
  if order.type = .limit then 95 / 100 else config.fillProbability

/-- The report of the fill of one pending order, when the poll fills it. -/
def fillOf (config : PaperGatewayConfig) (broker : BrokerOrderId) (sim : SimulatedOrder)
    (ps : PriceState) (draws : FillDraws) : Option V1.ExecutionReport :=
  if fillable sim.order ps = true ∧ draws.fill ≤ fillProbability config sim.order then
    some
      { brokerOrderId := broker
        symbol := sim.order.symbol
        side := sim.order.side
        filledQuantity := fillQuantity (sim.order.quantity - sim.cumulativeFilled) draws
        avgFillPrice := fillPrice config sim.order ps
        fillTime := draws.fillTime }
  else none

/-- What the loop of `simulate_fills` has done so far. -/
structure PollState where
  gateway : PaperGateway
  generatedFills : List V1.ExecutionReport := []
  fullyFilled : List BrokerOrderId := []

/-- One round of the loop of `simulate_fills`. -/
def visitOrder (poll : Poll) (p : PollState) (broker : BrokerOrderId) : PollState :=
  match p.gateway.pendingOrders.lookup broker with
  | none => p
  | some sim =>
    let g := p.gateway.initPrice sim.order.symbol
    match fillOf g.config broker sim (g.priceOf sim.order.symbol) (poll.draws broker) with
    | none => { p with gateway := g }
    | some report =>
      let filled := sim.cumulativeFilled + report.filledQuantity
      { gateway :=
          { g with
            pendingOrders := g.pendingOrders.insert broker { sim with cumulativeFilled := filled } }
        generatedFills := p.generatedFills ++ [report]
        fullyFilled :=
          if sim.order.quantity ≤ filled then p.fullyFilled ++ [broker] else p.fullyFilled }

/-- `simulate_fills`, up to the release of the lock: the gateway and the generated reports. -/
def simulateFills (g : PaperGateway) (poll : Poll) : PaperGateway × List V1.ExecutionReport :=
  let p := poll.visit.foldl (visitOrder poll) { gateway := g.advancePrices poll.shock }
  ({ p.gateway with
      pendingOrders := p.fullyFilled.foldl (fun pending broker => pending.erase broker)
        p.gateway.pendingOrders },
    p.generatedFills)

end PaperGateway

/-! ## What a poll fills -/

/-- The quantity that the reports fill of one order. -/
def filledBy (reports : List V1.ExecutionReport) (broker : BrokerOrderId) : ℚ :=
  (reports.map fun r => if r.brokerOrderId = broker then r.filledQuantity else 0).sum

@[simp] lemma filledBy_nil (broker : BrokerOrderId) : filledBy [] broker = 0 := rfl

@[simp] lemma filledBy_cons (r : V1.ExecutionReport) (reports : List V1.ExecutionReport)
    (broker : BrokerOrderId) :
    filledBy (r :: reports) broker =
      (if r.brokerOrderId = broker then r.filledQuantity else 0) + filledBy reports broker := by
  simp [filledBy]

@[simp] lemma filledBy_append (reports reports' : List V1.ExecutionReport)
    (broker : BrokerOrderId) :
    filledBy (reports ++ reports') broker = filledBy reports broker + filledBy reports' broker := by
  simp [filledBy]

/-- Reports of other orders fill nothing of this one. -/
lemma filledBy_eq_zero {reports : List V1.ExecutionReport} {broker : BrokerOrderId}
    (h : ∀ r ∈ reports, r.brokerOrderId ≠ broker) : filledBy reports broker = 0 := by
  induction reports with
  | nil => rfl
  | cons r reports ih =>
    rw [filledBy_cons, if_neg (h r List.mem_cons_self), zero_add]
    exact ih fun r' hr' => h r' (List.mem_cons_of_mem r hr')

section Positive

variable {reports : List V1.ExecutionReport} (h : ∀ r ∈ reports, 0 < r.filledQuantity)
include h

/-- Reports of positive quantities fill no negative quantity of an order. -/
lemma filledBy_nonneg (broker : BrokerOrderId) : 0 ≤ filledBy reports broker := by
  refine List.sum_nonneg fun x hx => ?_
  obtain ⟨r, hr, rfl⟩ := List.mem_map.mp hx
  split_ifs
  · exact (h r hr).le
  · exact le_rfl

/-- Reports of positive quantities together fill at least what each of them fills. -/
lemma le_filledBy {r : V1.ExecutionReport} (hr : r ∈ reports) :
    r.filledQuantity ≤ filledBy reports r.brokerOrderId := by
  obtain ⟨before, after, rfl⟩ := List.append_of_mem hr
  have hbefore := filledBy_nonneg
    (fun r' hr' => h r' (List.mem_append_left _ hr')) r.brokerOrderId
  have hafter := filledBy_nonneg
    (fun r' hr' => h r' (List.mem_append_right _ (List.mem_cons_of_mem r hr'))) r.brokerOrderId
  rw [filledBy_append, filledBy_cons, if_pos rfl]
  linarith

end Positive

/-- A report that the loop of `simulate_fills` may generate. -/
structure V1.ExecutionReport.IsFill (r : V1.ExecutionReport) : Prop where
  quantity_pos : 0 < r.filledQuantity
  not_terminal : r.isTerminal = false

namespace PaperGateway

/-- A poll fills something, and not more than what remains. -/
lemma fillQuantity_bounds {remaining : ℚ} (h : 0 < remaining) (draws : FillDraws) :
    0 < fillQuantity remaining draws ∧ fillQuantity remaining draws ≤ remaining := by
  unfold fillQuantity
  refine ⟨lt_min ?_ h, min_le_right _ _⟩
  by_cases hfull : draws.full < 7 / 10
  · rw [if_pos hfull]
    exact h
  · rw [if_neg hfull]
    dsimp only
    split_ifs with hone
    · exact one_pos
    · exact lt_of_lt_of_le one_pos (not_lt.mp hone)

/-- The report of a fill. -/
lemma fillOf_eq_some {config : PaperGatewayConfig} {broker : BrokerOrderId} {sim : SimulatedOrder}
    {ps : PriceState} {draws : FillDraws} {r : V1.ExecutionReport}
    (h : fillOf config broker sim ps draws = some r)
    (hopen : sim.cumulativeFilled < sim.order.quantity) :
    r.brokerOrderId = broker ∧ r.IsFill ∧
      sim.cumulativeFilled + r.filledQuantity ≤ sim.order.quantity := by
  unfold fillOf at h
  split_ifs at h
  obtain rfl := Option.some.inj h
  obtain ⟨hpos, hle⟩ := fillQuantity_bounds (sub_pos.mpr hopen) draws
  refine ⟨rfl, ⟨hpos, rfl⟩, ?_⟩
  dsimp only
  linarith

@[simp] lemma initPrice_pendingOrders (g : PaperGateway) (symbol : String) :
    (g.initPrice symbol).pendingOrders = g.pendingOrders := by
  unfold initPrice
  split_ifs <;> rfl

/-- What the loop of `simulate_fills` has done to the pending orders `pending` after it has visited
some of them. -/
structure PollState.Visited (pending : AList fun _ : BrokerOrderId => SimulatedOrder)
    (visited : List BrokerOrderId) (p : PollState) : Prop where
  /-- The fills have been added to the orders. -/
  lookup_eq : ∀ broker, p.gateway.pendingOrders.lookup broker =
    (pending.lookup broker).map fun sim =>
      { sim with cumulativeFilled := sim.cumulativeFilled + filledBy p.generatedFills broker }
  /-- The reports are fills of visited orders. -/
  reports : ∀ r ∈ p.generatedFills, r.IsFill ∧ r.brokerOrderId ∈ visited ∧
    pending.lookup r.brokerOrderId ≠ none
  /-- No order is filled beyond its quantity. -/
  filled_le : ∀ broker sim, pending.lookup broker = some sim →
    sim.cumulativeFilled + filledBy p.generatedFills broker ≤ sim.order.quantity
  /-- The orders that are fully filled have been noted. -/
  full_iff : ∀ broker, broker ∈ p.fullyFilled ↔ ∃ sim, pending.lookup broker = some sim ∧
    sim.order.quantity ≤ sim.cumulativeFilled + filledBy p.generatedFills broker

namespace PollState.Visited

variable {pending : AList fun _ : BrokerOrderId => SimulatedOrder} {visited : List BrokerOrderId}
  {p : PollState} {broker : BrokerOrderId}

/-- An order that was not visited has no report yet. -/
lemma filledBy_of_not_mem (h : p.Visited pending visited) (hb : broker ∉ visited) :
    filledBy p.generatedFills broker = 0 :=
  filledBy_eq_zero fun r hr heq => hb (heq ▸ (h.reports r hr).2.1)

/-- Before the loop. -/
lemma start (g : PaperGateway)
    (hopen : ∀ broker sim, g.pendingOrders.lookup broker = some sim →
      sim.cumulativeFilled < sim.order.quantity) :
    ({ gateway := g } : PollState).Visited g.pendingOrders [] where
  lookup_eq := by simp
  reports := by simp
  filled_le := by
    intro b sim hsim
    simpa using (hopen b sim hsim).le
  full_iff := by
    intro b
    simp only [List.not_mem_nil, filledBy_nil, add_zero, false_iff, not_exists, not_and, not_le]
    exact hopen b

/-- A visit that generates no report. -/
lemma visit (h : p.Visited pending visited) (broker : BrokerOrderId) :
    p.Visited pending (visited ++ [broker]) where
  lookup_eq := h.lookup_eq
  reports := fun r hr => ⟨(h.reports r hr).1, List.mem_append_left _ (h.reports r hr).2.1,
    (h.reports r hr).2.2⟩
  filled_le := h.filled_le
  full_iff := h.full_iff

/-- `get_or_init_price` in the loop. -/
lemma initPrice (h : p.Visited pending visited) (symbol : String) :
    ({ p with gateway := p.gateway.initPrice symbol } : PollState).Visited pending visited := by
  refine ⟨fun b => ?_, h.reports, h.filled_le, h.full_iff⟩
  rw [initPrice_pendingOrders]
  exact h.lookup_eq b

/-- A visit that fills the order. -/
lemma fill (h : p.Visited pending visited) (hb : broker ∉ visited) {sim : SimulatedOrder}
    (hsim : pending.lookup broker = some sim) {r : V1.ExecutionReport}
    (hbroker : r.brokerOrderId = broker)
    (hisFill : r.IsFill) (hle : sim.cumulativeFilled + r.filledQuantity ≤ sim.order.quantity)
    (hopen : sim.cumulativeFilled < sim.order.quantity) :
    ({ gateway :=
        { p.gateway with
          pendingOrders := p.gateway.pendingOrders.insert broker
            { sim with cumulativeFilled := sim.cumulativeFilled + r.filledQuantity } }
       generatedFills := p.generatedFills ++ [r]
       fullyFilled :=
        if sim.order.quantity ≤ sim.cumulativeFilled + r.filledQuantity then
          p.fullyFilled ++ [broker]
        else p.fullyFilled } : PollState).Visited pending (visited ++ [broker]) := by
  have hzero := h.filledBy_of_not_mem hb
  -- the new report concerns the visited order only
  have hfilled : ∀ b, filledBy (p.generatedFills ++ [r]) b =
      if b = broker then r.filledQuantity else filledBy p.generatedFills b := by
    intro b
    rw [filledBy_append, filledBy_cons, filledBy_nil, add_zero, hbroker]
    by_cases hbb : b = broker
    · rw [if_pos hbb.symm, if_pos hbb, hbb, hzero, zero_add]
    · rw [if_neg (Ne.symm hbb), if_neg hbb, add_zero]
  refine ⟨fun b => ?_, fun r' hr' => ?_, fun b sim' hsim' => ?_, fun b => ?_⟩
  · rw [FiniteMap.lookup_insert_eq, hfilled]
    by_cases hbb : b = broker
    · rw [if_pos hbb, if_pos hbb, hbb, hsim, Option.map_some]
    · rw [if_neg hbb, if_neg hbb]
      exact h.lookup_eq b
  · rcases List.mem_append.mp hr' with hold | hnew
    · exact (h.visit broker).reports r' hold
    · obtain rfl := List.mem_singleton.mp hnew
      refine ⟨hisFill, ?_, ?_⟩
      · simp [hbroker]
      · rw [hbroker, hsim]
        simp
  · rw [hfilled]
    by_cases hbb : b = broker
    · rw [hbb, hsim] at hsim'
      obtain rfl := Option.some.inj hsim'
      rw [if_pos hbb]
      exact hle
    · rw [if_neg hbb]
      exact h.filled_le b sim' hsim'
  · rw [hfilled]
    have hmem : b ∈ (if sim.order.quantity ≤ sim.cumulativeFilled + r.filledQuantity then
        p.fullyFilled ++ [broker] else p.fullyFilled) ↔
        b ∈ p.fullyFilled ∨
          (b = broker ∧ sim.order.quantity ≤ sim.cumulativeFilled + r.filledQuantity) := by
      split_ifs with hfull
      · simp [hfull]
      · simp [hfull]
    rw [hmem, h.full_iff]
    by_cases hbb : b = broker
    · rw [if_pos hbb, hbb, hsim, hzero]
      simp [hopen]
    · simp [hbb]

/-- One round of the loop. -/
lemma visitOrder (h : p.Visited pending visited) (hb : broker ∉ visited)
    (hopen : ∀ broker sim, pending.lookup broker = some sim →
      sim.cumulativeFilled < sim.order.quantity) (poll : Poll) :
    (PaperGateway.visitOrder poll p broker).Visited pending (visited ++ [broker]) := by
  have hlookup : p.gateway.pendingOrders.lookup broker = pending.lookup broker := by
    rw [h.lookup_eq, h.filledBy_of_not_mem hb]
    simp
  unfold PaperGateway.visitOrder
  rw [hlookup]
  cases hsim : pending.lookup broker with
  | none => exact h.visit broker
  | some sim =>
    have hknown := h.initPrice sim.order.symbol
    dsimp only
    cases hfill : fillOf (p.gateway.initPrice sim.order.symbol).config broker sim
        ((p.gateway.initPrice sim.order.symbol).priceOf sim.order.symbol) (poll.draws broker) with
    | none => exact hknown.visit broker
    | some r =>
      obtain ⟨hbroker, hisFill, hle⟩ := fillOf_eq_some hfill (hopen broker sim hsim)
      exact hknown.fill hb hsim hbroker hisFill hle (hopen broker sim hsim)

/-- The loop. -/
lemma foldl (h : p.Visited pending visited) (todo : List BrokerOrderId)
    (hnodup : (visited ++ todo).Nodup)
    (hopen : ∀ broker sim, pending.lookup broker = some sim →
      sim.cumulativeFilled < sim.order.quantity) (poll : Poll) :
    (todo.foldl (PaperGateway.visitOrder poll) p).Visited pending (visited ++ todo) := by
  induction todo generalizing p visited with
  | nil => simpa using h
  | cons broker todo ih =>
    have hb : broker ∉ visited := by
      intro hmem
      exact List.disjoint_of_nodup_append hnodup hmem List.mem_cons_self
    have hnodup' : ((visited ++ [broker]) ++ todo).Nodup := by simpa using hnodup
    have hrest := ih (h.visitOrder hb hopen poll) hnodup'
    simpa using hrest

end PollState.Visited

section Poll

variable (g : PaperGateway) (poll : Poll) (hnodup : poll.visit.Nodup)
  (hopen : ∀ broker sim, g.pendingOrders.lookup broker = some sim →
    sim.cumulativeFilled < sim.order.quantity)
include hnodup hopen

/-- What the loop of a poll has done at its end. -/
lemma visited_simulateFills :
    (poll.visit.foldl (visitOrder poll) { gateway := g.advancePrices poll.shock }).Visited
      g.pendingOrders poll.visit := by
  have hstart :
      ({ gateway := g.advancePrices poll.shock } : PollState).Visited g.pendingOrders [] :=
    PollState.Visited.start (g.advancePrices poll.shock) hopen
  exact hstart.foldl poll.visit (by simpa using hnodup) hopen poll

/-- A poll adds its fills to the pending orders and drops those that are fully filled. -/
lemma lookup_simulateFills (broker : BrokerOrderId) :
    (g.simulateFills poll).1.pendingOrders.lookup broker =
      (g.pendingOrders.lookup broker).bind fun sim =>
        if sim.order.quantity ≤ sim.cumulativeFilled + filledBy (g.simulateFills poll).2 broker then
          none
        else
          some { sim with
            cumulativeFilled :=
              sim.cumulativeFilled + filledBy (g.simulateFills poll).2 broker } := by
  have hdone := g.visited_simulateFills poll hnodup hopen
  unfold simulateFills
  dsimp only
  rw [FiniteMap.lookup_foldl_erase, hdone.lookup_eq]
  cases hsim : g.pendingOrders.lookup broker with
  | none => simp
  | some sim =>
    have hfull := hdone.full_iff broker
    simp only [hsim, Option.some.injEq, exists_eq_left'] at hfull
    simp only [hfull, Option.map_some, Option.bind_some]

/-- **What a poll does.**  It generates fills of pending orders, adds them to what the orders have
filled, and drops the orders that are fully filled; no order is filled beyond its quantity. -/
theorem simulateFills_spec :
    (∀ r ∈ (g.simulateFills poll).2, r.IsFill ∧
        g.pendingOrders.lookup r.brokerOrderId ≠ none) ∧
      (∀ broker sim, g.pendingOrders.lookup broker = some sim →
        sim.cumulativeFilled + filledBy (g.simulateFills poll).2 broker ≤ sim.order.quantity) ∧
      ∀ broker sim', (g.simulateFills poll).1.pendingOrders.lookup broker = some sim' →
        ∃ sim, g.pendingOrders.lookup broker = some sim ∧
          sim'.order = sim.order ∧ sim'.cumulativeFilled < sim.order.quantity ∧
          sim'.cumulativeFilled =
            sim.cumulativeFilled + filledBy (g.simulateFills poll).2 broker := by
  have hdone := g.visited_simulateFills poll hnodup hopen
  refine ⟨fun r hr => ⟨(hdone.reports r hr).1, (hdone.reports r hr).2.2⟩, hdone.filled_le, ?_⟩
  intro broker sim' hsim'
  rw [g.lookup_simulateFills poll hnodup hopen] at hsim'
  obtain ⟨sim, hsim, hsim'⟩ := Option.bind_eq_some_iff.mp hsim'
  split_ifs at hsim' with hfull
  obtain rfl := Option.some.inj hsim'
  exact ⟨sim, hsim, rfl, not_le.mp hfull, rfl⟩

end Poll

end PaperGateway

/-! ## Broker ids -/

namespace PaperGateway

variable (g : PaperGateway)

@[simp] lemma initPrice_idGen (symbol : String) : (g.initPrice symbol).idGen = g.idGen := by
  unfold initPrice
  split_ifs <;> rfl

/-- A poll generates no broker id. -/
lemma simulateFills_idGen (poll : Poll) : (g.simulateFills poll).1.idGen = g.idGen := by
  have hvisit : ∀ (visit : List BrokerOrderId) (p : PollState),
      (visit.foldl (visitOrder poll) p).gateway.idGen = p.gateway.idGen := by
    intro visit
    induction visit with
    | nil => exact fun _ => rfl
    | cons broker visit ih =>
      intro p
      rw [List.foldl_cons, ih]
      unfold visitOrder
      cases p.gateway.pendingOrders.lookup broker with
      | none => rfl
      | some sim =>
        dsimp only
        cases fillOf (p.gateway.initPrice sim.order.symbol).config broker sim
            ((p.gateway.initPrice sim.order.symbol).priceOf sim.order.symbol)
            (poll.draws broker) with
        | none => exact p.gateway.initPrice_idGen sim.order.symbol
        | some report => exact p.gateway.initPrice_idGen sim.order.symbol
  exact hvisit poll.visit _

/-- An order is rejected, or gets the next broker id. -/
lemma submitOrder_cases (draw : ℚ) (clockMs : ℤ) (order : V1.Order) :
    ((g.submitOrder draw clockMs order).1.idGen = g.idGen ∧
        ∃ e, (g.submitOrder draw clockMs order).2 = .error e) ∨
      ((g.submitOrder draw clockMs order).1.idGen = (g.idGen.generate clockMs).2 ∧
        (g.submitOrder draw clockMs order).2 = .ok (g.idGen.generate clockMs).1) := by
  unfold submitOrder
  split_ifs
  · exact Or.inl ⟨rfl, _, rfl⟩
  · refine Or.inr ⟨?_, rfl⟩
    dsimp only [getOrInitPrice]
    rw [initPrice_idGen]

/-- An order is not replaced, or its replacement gets the next broker id. -/
lemma replaceOrder_cases (draw : ℚ) (clockMs : ℤ) (broker : BrokerOrderId) (order : V1.Order) :
    ((g.replaceOrder draw clockMs broker order).1.idGen = g.idGen ∧
        ∃ e, (g.replaceOrder draw clockMs broker order).2 = .error e) ∨
      ((g.replaceOrder draw clockMs broker order).1.idGen = (g.idGen.generate clockMs).2 ∧
        (g.replaceOrder draw clockMs broker order).2 = .ok (g.idGen.generate clockMs).1) := by
  unfold replaceOrder
  split_ifs
  · exact Or.inl ⟨rfl, _, rfl⟩
  · refine Or.inr ⟨?_, rfl⟩
    dsimp only [getOrInitPrice]
    rw [initPrice_idGen]

/-- The broker ids that the gateway gives out have no zero byte. -/
def PlainIds : Prop := NoZeroByte g.idGen.idSpecifier

variable {g}

/-- A new gateway, whose ids start with `BROKER`. -/
lemma plainIds_start (config : PaperGatewayConfig) : PlainIds { config := config } :=
  show NoZeroByte "BROKER" by decide

/-- A poll. -/
lemma PlainIds.simulateFills (h : g.PlainIds) (poll : Poll) :
    (g.simulateFills poll).1.PlainIds := by
  unfold PlainIds
  rw [simulateFills_idGen]
  exact h

/-- A call of the order manager. -/
lemma PlainIds.call (h : g.PlainIds) (draw : ℚ) (clockMs : ℤ) (c : GatewayCall) :
    (g.call draw clockMs c).1.PlainIds := by
  have hgenerated : ∀ {g' : PaperGateway}, g'.idGen = g.idGen ∨
      g'.idGen = (g.idGen.generate clockMs).2 → g'.PlainIds := by
    intro g' hgen
    unfold PlainIds
    rcases hgen with hgen | hgen
    · rw [hgen]
      exact h
    · rw [hgen]
      exact h
  cases c with
  | submitOrder order =>
    exact hgenerated ((g.submitOrder_cases draw clockMs order).imp And.left And.left)
  | cancelOrder broker => exact h
  | replaceOrder broker order =>
    exact hgenerated ((g.replaceOrder_cases draw clockMs broker order).imp And.left And.left)

end PaperGateway

end Quarcc
