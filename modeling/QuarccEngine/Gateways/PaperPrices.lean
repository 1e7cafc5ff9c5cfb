import Mathlib.Tactic.NormNum
import QuarccEngine.Gateways.PaperTrading
import QuarccEngine.Library.Quotes
import QuarccEngine.Library.Trajectory

/-!
# The prices of the paper gateway

Every price state is the quote around a positive mid price: `get_or_init_price` and `advance_prices`
write the same half spread, and `advance_prices` rebuilds the state from the mid price, which it
keeps above a floor whatever is drawn.

The price of a fill of a market order lies beyond the quote by the slippage.  It is positive since
half spread and slippage are a small part of the mid price.
-/

namespace Quarcc

/-! ## Price states as quotes -/

/-- A price state as a quote. -/
def PriceState.quote (ps : PriceState) : Quote ℚ := ⟨ps.bid, ps.ask⟩

/-- The half spread of all price states, as a fraction of the mid price. -/
def halfSpread : ℚ := 1 / 4000

/-- The price state is the quote around a positive mid price. -/
def PriceState.Quoted (ps : PriceState) : Prop := ps.quote.IsAround halfSpread

/-- The settings under which fills of market orders have a positive price. -/
structure PaperGatewayConfig.KeepsPositive (config : PaperGatewayConfig) : Prop where
  initial_pos : 0 < config.initialPrice
  slippage_pos : 0 < config.slippageBps
  slippage_lt : halfSpread + config.slippageBps / 10000 < 1

/-- The default settings do. -/
lemma PaperGatewayConfig.keepsPositive_default : ({} : PaperGatewayConfig).KeepsPositive where
  initial_pos := by norm_num
  slippage_pos := by norm_num
  slippage_lt := by norm_num [halfSpread]

namespace PriceState.Quoted

variable {ps : PriceState} (h : ps.Quoted)
include h

lemma bid_pos : 0 < ps.bid := Quote.IsAround.bid_pos h (by norm_num [halfSpread])

lemma bid_lt_ask : ps.bid < ps.ask := Quote.IsAround.bid_lt_ask h (by norm_num [halfSpread])

/-- The slippage in the price of a fill. -/
lemma slippage_pos {config : PaperGatewayConfig} (hconfig : config.KeepsPositive) :
    0 < (ps.bid + ps.ask) / 2 * (config.slippageBps / 10000) :=
  Quote.IsAround.slippage_pos h (div_pos hconfig.slippage_pos (by norm_num))

/-- A market order is filled at a positive price, which is worse than the quote. -/
lemma fillPrice_market {config : PaperGatewayConfig} (hconfig : config.KeepsPositive)
    {order : V1.Order} (htype : order.type = .market) :
    0 < PaperGateway.fillPrice config order ps ∧
      if order.side = .buy then ps.ask < PaperGateway.fillPrice config order ps
      else PaperGateway.fillPrice config order ps < ps.bid := by
  have hne : order.type ≠ .limit := by
    rw [htype]
    decide
  have hslippage := h.slippage_pos hconfig
  have hsell : 0 < ps.bid - (ps.bid + ps.ask) / 2 * (config.slippageBps / 10000) :=
    Quote.IsAround.sell_pos h hconfig.slippage_lt
  have hbid := h.bid_pos
  have hask := h.bid_lt_ask
  unfold PaperGateway.fillPrice
  rw [if_neg hne]
  dsimp only
  split_ifs
  · constructor <;> linarith
  · constructor <;> linarith

end PriceState.Quoted

namespace PaperGateway

/-- **`advance_prices` walks**: the new price state is the quote around the mid price after its
move. -/
lemma quote_advancePrice (volatility shock : ℚ) (ps : PriceState) :
    (advancePrice volatility shock ps).quote =
      .around halfSpread (Quote.walk (1 / 100) ps.quote.mid (volatility * shock)) := by
  have hfraction : (5 / 20000 : ℚ) = halfSpread := by norm_num [halfSpread]
  unfold advancePrice
  dsimp only
  rw [hfraction, mul_assoc]
  rfl

/-- A price state is the quote around a positive mid price after every shock. -/
lemma quoted_advancePrice (volatility shock : ℚ) (ps : PriceState) :
    (advancePrice volatility shock ps).Quoted :=
  ⟨_, Quote.walk_pos (by norm_num) _ _, quote_advancePrice volatility shock ps⟩

/-! ## The price table -/

/-- The gateway writes quotes, and has settings that keep its fills positive. -/
structure Priced (g : PaperGateway) : Prop where
  config : g.config.KeepsPositive
  quoted : ∀ symbol ps, g.prices.lookup symbol = some ps → ps.Quoted

variable {g : PaperGateway}

/-- The constructor. -/
lemma priced_start : ({} : PaperGateway).Priced where
  config := PaperGatewayConfig.keepsPositive_default
  quoted := by simp

/-- A price that is known stays. -/
lemma lookup_initPrice {symbol : String} {ps : PriceState} (h : g.prices.lookup symbol = some ps)
    (other : String) : (g.initPrice other).prices.lookup symbol = some ps := by
  unfold initPrice
  split_ifs with hmem
  · exact h
  · have hne : symbol ≠ other := by
      rintro rfl
      exact hmem (FiniteMap.mem_of_lookup h)
    dsimp only
    rw [FiniteMap.lookup_insert_eq, if_neg hne, h]

/-- After `get_or_init_price`, the price is known. -/
lemma exists_priceOf_initPrice (g : PaperGateway) (symbol : String) :
    (g.initPrice symbol).prices.lookup symbol = some ((g.initPrice symbol).priceOf symbol) := by
  have hmem : symbol ∈ (g.initPrice symbol).prices := by
    unfold initPrice
    split_ifs with hmem
    · exact hmem
    · exact (AList.mem_insert g.prices).mpr (Or.inl rfl)
  obtain ⟨ps, hps⟩ := Option.isSome_iff_exists.mp (AList.lookup_isSome.mpr hmem)
  unfold priceOf
  rw [hps, Option.getD_some]

/-- `get_or_init_price`. -/
lemma Priced.initPrice (h : g.Priced) (symbol : String) : (g.initPrice symbol).Priced := by
  unfold PaperGateway.initPrice
  split_ifs
  · exact h
  · refine ⟨h.config, fun other ps hps => ?_⟩
    dsimp only at hps
    rw [FiniteMap.lookup_insert_eq] at hps
    split_ifs at hps
    · obtain rfl := Option.some.inj hps
      have hfraction : (25 / 100000 : ℚ) = halfSpread := by norm_num [halfSpread]
      rw [hfraction]
      exact ⟨g.config.initialPrice, h.config.initial_pos, rfl⟩
    · exact h.quoted other ps hps

/-- `advance_prices`, at any shocks. -/
lemma Priced.advancePrices (h : g.Priced) (shock : String → ℚ) :
    (g.advancePrices shock).Priced := by
  refine ⟨h.config, fun symbol ps hps => ?_⟩
  unfold PaperGateway.advancePrices at hps
  dsimp only at hps
  rw [FiniteMap.lookup_foldl_insert fun symbol =>
    advancePrice g.config.priceVolatility (shock symbol) (g.priceOf symbol)] at hps
  split_ifs at hps
  · obtain rfl := Option.some.inj hps
    exact quoted_advancePrice _ _ _
  · exact h.quoted symbol ps hps

/-- Nothing but the prices and the settings matters. -/
lemma Priced.of_eq (h : g.Priced) {g' : PaperGateway} (hconfig : g'.config = g.config)
    (hprices : g'.prices = g.prices) : g'.Priced where
  config := hconfig ▸ h.config
  quoted := hprices ▸ h.quoted

/-! ## Fills -/

/-- A market order is filled at a positive price beyond the quote in the table: above the ask when
it buys, below the bid otherwise. -/
def FilledBeyond (prices : AList fun _ : String => PriceState) (order : V1.Order) (price : ℚ) :
    Prop :=
  order.type = .market → ∃ ps, prices.lookup order.symbol = some ps ∧ 0 < price ∧
    if order.side = .buy then ps.ask < price else price < ps.bid

/-- What the loop of `simulate_fills` has done so far to a gateway whose pending orders were
`pending`. -/
structure PollState.Priced (pending : AList fun _ : BrokerOrderId => SimulatedOrder)
    (p : PollState) : Prop where
  gateway : p.gateway.Priced
  /-- The loop changes no order. -/
  orders : ∀ broker sim', p.gateway.pendingOrders.lookup broker = some sim' →
    ∃ sim, pending.lookup broker = some sim ∧ sim'.order = sim.order
  fills : ∀ r ∈ p.generatedFills, ∃ sim, pending.lookup r.brokerOrderId = some sim ∧
    FilledBeyond p.gateway.prices sim.order r.avgFillPrice

/-- The price of the report of a fill. -/
lemma avgFillPrice_fillOf {config : PaperGatewayConfig} {broker : BrokerOrderId}
    {sim : SimulatedOrder} {ps : PriceState} {draws : FillDraws} {r : V1.ExecutionReport}
    (h : fillOf config broker sim ps draws = some r) :
    r.brokerOrderId = broker ∧ r.avgFillPrice = fillPrice config sim.order ps := by
  unfold fillOf at h
  split_ifs at h
  obtain rfl := Option.some.inj h
  exact ⟨rfl, rfl⟩

namespace PollState.Priced

variable {pending : AList fun _ : BrokerOrderId => SimulatedOrder} {p : PollState}

/-- `get_or_init_price` in the loop. -/
lemma initPrice (h : p.Priced pending) (symbol : String) :
    ({ p with gateway := p.gateway.initPrice symbol } : PollState).Priced pending := by
  refine ⟨h.gateway.initPrice symbol, fun broker sim' hsim' => ?_, fun r hr => ?_⟩
  · rw [initPrice_pendingOrders] at hsim'
    exact h.orders broker sim' hsim'
  · obtain ⟨sim, hsim, hbeyond⟩ := h.fills r hr
    refine ⟨sim, hsim, fun hmarket => ?_⟩
    obtain ⟨ps, hps, hprice⟩ := hbeyond hmarket
    exact ⟨ps, lookup_initPrice hps symbol, hprice⟩

/-- A fill at the price in the table. -/
lemma fill (h : p.Priced pending) {broker : BrokerOrderId} {sim : SimulatedOrder} {ps : PriceState}
    {draws : FillDraws} {r : V1.ExecutionReport}
    (hsim : p.gateway.pendingOrders.lookup broker = some sim)
    (hps : p.gateway.prices.lookup sim.order.symbol = some ps)
    (hfill : fillOf p.gateway.config broker sim ps draws = some r) (filled : ℚ)
    (full : List BrokerOrderId) :
    ({ gateway :=
        { p.gateway with
          pendingOrders :=
            p.gateway.pendingOrders.insert broker { sim with cumulativeFilled := filled } }
       generatedFills := p.generatedFills ++ [r]
       fullyFilled := full } : PollState).Priced pending := by
  obtain ⟨before, hbefore, horder⟩ := h.orders broker sim hsim
  refine ⟨h.gateway.of_eq rfl rfl, fun b sim' hsim' => ?_, fun r' hr' => ?_⟩
  · dsimp only at hsim'
    rw [FiniteMap.lookup_insert_eq] at hsim'
    split_ifs at hsim' with hb
    · obtain rfl := Option.some.inj hsim'
      exact ⟨before, hb ▸ hbefore, horder⟩
    · exact h.orders b sim' hsim'
  · rcases List.mem_append.mp hr' with hold | hnew
    · exact h.fills r' hold
    · obtain rfl := List.mem_singleton.mp hnew
      obtain ⟨hbroker, hprice⟩ := avgFillPrice_fillOf hfill
      refine ⟨before, hbroker ▸ hbefore, fun hmarket => ?_⟩
      rw [← horder] at hmarket ⊢
      rw [hprice]
      exact ⟨ps, hps, (h.gateway.quoted _ ps hps).fillPrice_market h.gateway.config hmarket⟩

/-- One round of the loop. -/
lemma visitOrder (h : p.Priced pending) (poll : Poll) (broker : BrokerOrderId) :
    (PaperGateway.visitOrder poll p broker).Priced pending := by
  unfold PaperGateway.visitOrder
  cases hsim : p.gateway.pendingOrders.lookup broker with
  | none => exact h
  | some sim =>
    have hknown := h.initPrice sim.order.symbol
    have hlookup := p.gateway.exists_priceOf_initPrice sim.order.symbol
    rw [← initPrice_pendingOrders p.gateway sim.order.symbol] at hsim
    dsimp only
    generalize p.gateway.initPrice sim.order.symbol = g at hsim hknown hlookup ⊢
    cases hfill : fillOf g.config broker sim (g.priceOf sim.order.symbol) (poll.draws broker) with
    | none => exact hknown
    | some r => exact hknown.fill hsim hlookup hfill _ _

/-- The loop. -/
lemma foldl (h : p.Priced pending) (poll : Poll) (todo : List BrokerOrderId) :
    (todo.foldl (PaperGateway.visitOrder poll) p).Priced pending := by
  induction todo generalizing p with
  | nil => exact h
  | cons broker todo ih => exact ih (h.visitOrder poll broker)

end PollState.Priced

/-- What the loop has done at its end, whatever it has visited. -/
lemma Priced.simulateFills (h : g.Priced) (poll : Poll) :
    (poll.visit.foldl (visitOrder poll) { gateway := g.advancePrices poll.shock }).Priced
      g.pendingOrders := by
  apply PollState.Priced.foldl
  exact ⟨h.advancePrices poll.shock, fun _ sim hsim => ⟨sim, hsim, rfl⟩, by simp⟩

/-! ## Runs -/

/-- A call of a method of the gateway, with what it draws and reads: of the interface, of the
simulation thread, and of the two methods that write prices. -/
inductive Action where
  | call (draw : ℚ) (clockMs : ℤ) (c : GatewayCall)
  | simulateFills (poll : Poll)
  | getOrInitPrice (symbol : String)
  | advancePrices (shock : String → ℚ)

/-- The gateway after a call. -/
def step (g : PaperGateway) : Action → PaperGateway
  | .call draw clockMs c => (g.call draw clockMs c).1
  | .simulateFills poll => (g.simulateFills poll).1
  | .getOrInitPrice symbol => (g.getOrInitPrice symbol).1
  | .advancePrices shock => g.advancePrices shock

/-- Every symbol has a positive bid below its ask. -/
def QuotesSane (g : PaperGateway) : Prop :=
  ∀ symbol ps, g.prices.lookup symbol = some ps → 0 < ps.bid ∧ ps.bid < ps.ask

/-- Whatever is drawn, a poll of the gateway generates fills of pending orders, and fills market
orders at a positive price beyond the quote. -/
def FillsSane (g : PaperGateway) : Prop :=
  ∀ poll, ∀ r ∈ (g.simulateFills poll).2, ∃ sim, g.pendingOrders.lookup r.brokerOrderId = some sim ∧
    FilledBeyond (g.simulateFills poll).1.prices sim.order r.avgFillPrice

/-- **Step lemma.**  Every call leaves quotes. -/
theorem Priced.step (h : g.Priced) (a : Action) : (g.step a).Priced := by
  cases a with
  | call draw clockMs c =>
    cases c with
    | submitOrder order =>
      unfold PaperGateway.step PaperGateway.call submitOrder
      dsimp only
      split_ifs
      · exact h
      · have hgenerated :
          ({ g with idGen := (g.idGen.generate clockMs).2 } : PaperGateway).Priced :=
          h.of_eq rfl rfl
        exact (hgenerated.initPrice order.symbol).of_eq rfl rfl
    | cancelOrder broker => exact h.of_eq rfl rfl
    | replaceOrder broker newOrder =>
      unfold PaperGateway.step PaperGateway.call replaceOrder
      dsimp only
      split_ifs
      · exact h
      · have herased : ({ g with
            idGen := (g.idGen.generate clockMs).2
            pendingOrders := g.pendingOrders.erase broker } : PaperGateway).Priced :=
          h.of_eq rfl rfl
        exact (herased.initPrice newOrder.symbol).of_eq rfl rfl
  | simulateFills poll => exact (h.simulateFills poll).gateway.of_eq rfl rfl
  | getOrInitPrice symbol => exact h.initPrice symbol
  | advancePrices shock => exact h.advancePrices shock

/-- Quotes have a positive bid below the ask. -/
lemma Priced.quotesSane (h : g.Priced) : g.QuotesSane := fun symbol ps hps =>
  ⟨(h.quoted symbol ps hps).bid_pos, (h.quoted symbol ps hps).bid_lt_ask⟩

/-- A poll of a gateway with quotes. -/
lemma Priced.fillsSane (h : g.Priced) : g.FillsSane := fun poll r hr =>
  (h.simulateFills poll).fills r hr

/-- **Paper prices stay sane**, for every sequence of calls and whatever is drawn: every symbol has
a positive bid below its ask, and a poll fills market orders at positive prices beyond the quote. -/
theorem prices_sane (actions : List Action) :
    Trajectory.EveryState step (fun g => g.QuotesSane ∧ g.FillsSane) {} actions := by
  have hpriced : Trajectory.EveryState step Priced {} actions :=
    Trajectory.everyState_of_step (fun _ a h => h.step a) priced_start
  exact hpriced.mono fun _ h => ⟨h.quotesSane, h.fillsSane⟩

end PaperGateway

/-! ## Paper trading -/

namespace PaperTrading

/-- The threads of an order manager call methods of its gateway, one at a time. -/
lemma gateway_step (p : PaperTrading) (a : PaperAction) :
    (p.step a).gateway = p.gateway ∨ ∃ action, (p.step a).gateway = p.gateway.step action := by
  cases a with
  | poll poll =>
    unfold step simulateFills
    dsimp only
    split_ifs
    · exact Or.inr ⟨.simulateFills poll, rfl⟩
    · exact Or.inl rfl
  | call draw clockMs =>
    unfold step PaperTrading.call
    dsimp only
    cases p.handler with
    | call _ c next => exact Or.inr ⟨.call draw clockMs c, rfl⟩
    | done _ => exact Or.inl rfl
  | enqueueReport =>
    left
    unfold step enqueueReport
    dsimp only
    cases p.generatedFills <;> rfl
  | take =>
    left
    unfold step take
    dsimp only
    split <;> rfl
  | deliver =>
    left
    unfold step deliver
    dsimp only
    cases p.delivering <;> rfl
  | pop env =>
    left
    unfold step pop
    dsimp only
    split <;> rfl
  | finish =>
    left
    unfold step finish
    dsimp only
    split <;> rfl
  | command _ | bar _ | tick _ => exact Or.inl rfl

/-- Paper trading with the default settings goes on with sane prices. -/
theorem gateway_prices_sane (accountId : String) (store : SQLiteOrderStore)
    (riskManager : RiskManager)
    (actions : List PaperAction) :
    Trajectory.EveryState step (fun p => p.gateway.QuotesSane ∧ p.gateway.FillsSane)
      (start accountId store riskManager {}) actions := by
  have hpriced : Trajectory.EveryState step (fun p => p.gateway.Priced)
      (start accountId store riskManager {}) actions := by
    refine Trajectory.everyState_of_step (fun p a h => ?_) PaperGateway.priced_start
    obtain hsame | ⟨action, hstep⟩ := p.gateway_step a
    · rw [hsame]
      exact h
    · rw [hstep]
      exact h.step action
  exact hpriced.mono fun _ h => ⟨h.quotesSane, h.fillsSane⟩

end PaperTrading

end Quarcc
