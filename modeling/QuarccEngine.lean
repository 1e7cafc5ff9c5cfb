import QuarccEngine.Library.Trajectory
import QuarccEngine.Library.Program
import QuarccEngine.Library.WorkQueue
import QuarccEngine.Library.FirstOfEach
import QuarccEngine.Utils.OrderIds
import QuarccEngine.Contracts
import QuarccEngine.Persistence.Journal
import QuarccEngine.Persistence.SQLiteJournal
import QuarccEngine.Persistence.JournalQueue
import QuarccEngine.Persistence.OrderHistory
import QuarccEngine.Persistence.OrderStore
import QuarccEngine.Persistence.CStrings
import QuarccEngine.Core.PositionKeeper
import QuarccEngine.Core.RiskManager
import QuarccEngine.Library.Table
import QuarccEngine.Library.AverageCost
import QuarccEngine.Core.Fills
import QuarccEngine.Core.PriceBounds
import QuarccEngine.Persistence.ApplyFill
import QuarccEngine.Library.Netting
import QuarccEngine.Utils.EventQueue
import QuarccEngine.Core.OrderManager
import QuarccEngine.OrderManager.Sinks
import QuarccEngine.OrderManager.Moves
import QuarccEngine.OrderManager.Limits
import QuarccEngine.OrderManager.Agreement
import QuarccEngine.OrderManager.Atomicity
import QuarccEngine.OrderManager.Replies
import QuarccEngine.OrderManager.Delivery
import QuarccEngine.OrderManager.Audit
import QuarccEngine.OrderManager.ClosingEvents
import QuarccEngine.OrderManager.OpenOrders
import QuarccEngine.OrderManager.Undercount
import QuarccEngine.OrderManager.Frozen
import QuarccEngine.OrderManager.Ledgers
import QuarccEngine.OrderManager.FillStatus
import QuarccEngine.OrderManager.Averages
import QuarccEngine.Core.LiveOrders
import QuarccEngine.OrderManager.Tracking
import QuarccEngine.Core.TradingEngine
import QuarccEngine.Core.Positions
import QuarccEngine.TradingEngine.Aggregation
import QuarccEngine.TradingEngine.KillSwitch
import QuarccEngine.TradingEngine.Lifetimes
import QuarccEngine.TradingEngine.HaltAll
import QuarccEngine.Grpc.Streams
import QuarccEngine.Grpc.Lookups
import QuarccEngine.Grpc.Sinks
import QuarccEngine.Grpc.LatestStream
import QuarccEngine.Gateways.PaperGateway
import QuarccEngine.Gateways.PaperTrading
import QuarccEngine.PaperTrading.Conservation
import QuarccEngine.Gateways.PaperThreads
import QuarccEngine.PaperTrading.Bookings
import QuarccEngine.PaperTrading.Refinement
import QuarccEngine.Gateways.Stopping
import QuarccEngine.OrderManager.Shutdown
import QuarccEngine.Library.RecentKeys
import QuarccEngine.Gateways.FillStream
import QuarccEngine.Gateways.StreamContexts
import QuarccEngine.Gateways.SimulatedFeed
import QuarccEngine.Core.FeedRegistry
import QuarccEngine.Core.Engine
import QuarccEngine.TradingEngine.Registration
import QuarccEngine.Core.Requests
import QuarccEngine.Gateways.BarPeriods
import QuarccEngine.Gateways.Subscriptions
import QuarccEngine.Library.Windows
import QuarccEngine.Gateways.Bars
import QuarccEngine.TradingEngine.Calls
import QuarccEngine.TradingEngine.NoCrash
import QuarccEngine.TradingEngine.Routing
import QuarccEngine.TradingEngine.OwnAdapter
import QuarccEngine.Gateways.AdapterStreams
import QuarccEngine.Library.Decimals
import QuarccEngine.Library.Counters
import QuarccEngine.Library.Calendar
import QuarccEngine.Gateways.PeriodTexts
import QuarccEngine.Gateways.SubscriptionCounts
import QuarccEngine.Core.FeedDemand
import QuarccEngine.Gateways.AlpacaGateway
import QuarccEngine.Adapters.BaseAdapter
import QuarccEngine.Core.AdapterProcesses
import QuarccEngine.Gateways.Dispatcher
import QuarccEngine.Gateways.PaperJoins
import QuarccEngine.Gateways.GatewayThreads
import QuarccEngine.Persistence.Timestamps
import QuarccEngine.Persistence.History
import QuarccEngine.Utils.UniqueIds
import QuarccEngine.Library.Quotes
import QuarccEngine.Gateways.PaperPrices
import QuarccEngine.OrderManager.LifeCycle
import QuarccEngine.OrderManager.Constraints
import QuarccEngine.Library.Fairness
import QuarccEngine.TradingEngine.Starvation
import QuarccEngine.TradingEngine.Completion
import QuarccEngine.TradingEngine.GatewayJoins
import QuarccEngine.PaperTrading.Serial
import QuarccEngine.PaperTrading.Fulfilment
import QuarccEngine.Gateways.Redelivery
import QuarccEngine.OrderManager.Answers
import QuarccEngine.TradingEngine.Reconciliation
import QuarccEngine.Gateways.SaneData
import QuarccEngine.Library.Channels
import QuarccEngine.OrderManager.Histories
import QuarccEngine.Persistence.OrderColumns
import QuarccEngine.TradingEngine.MarketData
import QuarccEngine.OrderManager.Sessions
import QuarccEngine.Adapters.OrderRouting
