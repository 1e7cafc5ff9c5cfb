import Mathlib.Data.Rat.Defs
import Mathlib.Tactic.Lemma

/-!
# Messages of the engine

The protobuf messages of `contracts/` that the order path reads and writes, the error and result
types of `utils/result.h`, and the market data structs of `i_market_data_feed.h`.

The fields keep their names.  A string is a `String`.  A `double` is an exact rational: the rounding
of a result, an infinity and a NaN are left out.  Enumerations that arrive from the wire are open in
proto3: a number without a name is kept as `unrecognized`.
-/

namespace Quarcc

/-! ## Errors and results -/

/-- `ErrorType` of `utils/result.h`. -/
inductive ErrorType where
  | error
  | failedOrder
  deriving DecidableEq, Repr

/-- `Error`: a text and a type. -/
structure Error where
  message : String
  type : ErrorType
  deriving DecidableEq, Repr

/-- `Result<T>` is `std::expected<T, Error>`. -/
abbrev Result (α : Type) := Except Error α

/-! ## Messages -/

namespace V1

/-- `v1::Side`. -/
inductive Side where
  | unknownSide
  | buy
  | sell
  | unrecognized (n : ℤ)
  deriving DecidableEq, Repr

/-- `v1::OrderType`. -/
inductive OrderType where
  | unknownType
  | market
  | limit
  | stop
  | stopLimit
  deriving DecidableEq, Repr

/-- `v1::OrderStatus`, the status an execution report carries. -/
inductive OrderStatus where
  | new
  | submitted
  | partialFill
  | filled
  | cancelled
  | rejected
  | unrecognized (n : ℤ)
  deriving DecidableEq, Repr

/-- `v1::TimeInForce`. -/
inductive TimeInForce where
  | day
  | gtc
  | ioc
  | fok
  deriving DecidableEq, Repr

/-- `v1::Order`. -/
structure Order where
  id : String := ""
  symbol : String := ""
  side : Side := .unknownSide
  quantity : ℚ := 0
  price : ℚ := 0
  type : OrderType := .unknownType
  status : OrderStatus := .new
  timeInForce : TimeInForce := .day
  accountId : String := ""
  strategyId : String := ""
  createdAt : String := ""
  deriving DecidableEq

/-- `v1::ExecutionReport`. -/
structure ExecutionReport where
  brokerOrderId : String := ""
  symbol : String := ""
  side : Side := .unknownSide
  filledQuantity : ℚ := 0
  avgFillPrice : ℚ := 0
  fillTime : String := ""
  executionId : String := ""
  status : OrderStatus := .new
  deriving DecidableEq

/-- `v1::StrategySignal`, the request for a new order. -/
structure StrategySignal where
  strategyId : String := ""
  symbol : String := ""
  side : Side := .unknownSide
  targetQuantity : ℚ := 0
  generatedAt : String := ""
  deriving DecidableEq

/-- `v1::CancelSignal`. -/
structure CancelSignal where
  strategyId : String := ""
  orderId : String := ""
  generatedAt : String := ""
  deriving DecidableEq

/-- `v1::ReplaceSignal`. -/
structure ReplaceSignal where
  strategyId : String := ""
  symbol : String := ""
  side : Side := .unknownSide
  targetQuantity : ℚ := 0
  generatedAt : String := ""
  orderId : String := ""
  deriving DecidableEq

/-- `v1::Position`. -/
structure Position where
  symbol : String := ""
  quantity : ℚ := 0
  avgPrice : ℚ := 0
  realizedPnl : ℚ := 0
  deriving DecidableEq

/-- `v1::Gateway`. -/
inductive Gateway where
  | paperTradingGW
  | grpcAdapterGW
  | alpacaGW
  | unrecognized (n : ℤ)
  deriving DecidableEq, Repr

/-- The number of a gateway on the wire. -/
def Gateway.number : Gateway → ℤ
  | paperTradingGW => 0
  | grpcAdapterGW => 1
  | alpacaGW => 2
  | unrecognized n => n

/-- `v1::Feed`. -/
inductive Feed where
  | simulatedFeed
  | alpacaFeed
  | adapterFeed
  | unrecognized (n : ℤ)
  deriving DecidableEq, Repr

/-- The number of a feed on the wire. -/
def Feed.number : Feed → ℤ
  | simulatedFeed => 0
  | alpacaFeed => 1
  | adapterFeed => 2
  | unrecognized n => n

/-- `v1::HaltMode`. -/
inductive HaltMode where
  | stopStrategy
  | haltAll
  | unrecognized (n : ℤ)
  deriving DecidableEq, Repr

/-- `v1::AdapterConfigMessage`. -/
structure AdapterConfigMessage where
  venue : String := ""
  credentialsPath : String := ""
  port : ℤ := 0
  deriving DecidableEq

/-- `v1::MarketDataSubscriptionMessage`. -/
structure MarketDataSubscriptionMessage where
  symbol : String := ""
  period : Option String := none
  deriving DecidableEq

/-- `v1::MarketDataConfigMessage`. -/
structure MarketDataConfigMessage where
  feed : Feed := .simulatedFeed
  subscriptions : List MarketDataSubscriptionMessage := []
  deriving DecidableEq

/-- `v1::RiskConfigMessage`. -/
structure RiskConfigMessage where
  maxQuantity : ℚ := 0
  maxOpenOrders : ℕ := 0
  dailyPnlLimit : ℚ := 0
  deriving DecidableEq

/-- `v1::RegisterStrategyRequest`. -/
structure RegisterStrategyRequest where
  strategyId : String := ""
  accountId : String := ""
  gateway : Gateway := .paperTradingGW
  adapter : Option AdapterConfigMessage := none
  marketData : Option MarketDataConfigMessage := none
  riskParams : Option RiskConfigMessage := none
  deriving DecidableEq

/-- `v1::KillSwitchRequest`. -/
structure KillSwitchRequest where
  reason : String := ""
  initiatedBy : String := ""
  strategyId : String := ""
  mode : HaltMode := .stopStrategy
  deriving DecidableEq

end V1

/-! ## Market data -/

/-- `Bar` of `i_market_data_feed.h`. -/
structure Bar where
  symbol : String
  period : String
  openPrice : ℚ
  high : ℚ
  low : ℚ
  close : ℚ
  volume : ℚ
  vwap : ℚ
  tsNs : ℤ
  tsRecvNs : ℤ
  deriving DecidableEq

/-- `Tick` of `i_market_data_feed.h`. -/
structure Tick where
  symbol : String
  bid : ℚ
  ask : ℚ
  last : ℚ
  bidSize : ℚ
  askSize : ℚ
  lastSize : ℚ
  tsNs : ℤ
  tsRecvNs : ℤ
  deriving DecidableEq

end Quarcc
