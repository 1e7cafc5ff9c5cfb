import Mathlib.Data.List.Perm.Basic
import QuarccEngine.Gateways.PaperGateway

/-!
# Paper trading

An order manager and its paper gateway, with the four threads that move a fill from one to the
other:  the simulation thread polls and enqueues the generated reports, the dispatcher of the
gateway (`GatewayDispatchBase`) hands them to the order manager, the dispatch thread of the order
manager handles them, and the threads of the requests enqueue commands.

A handler is not one step here: it stops at every call on the gateway, and the other threads may
move before the call is made.
-/

namespace Quarcc

/-- An order manager with a paper gateway. -/
structure PaperTrading where
  gateway : PaperGateway
  /-- The reports that the last poll has generated and the simulation thread has not enqueued
  yet. -/
  generatedFills : List V1.ExecutionReport := []
  /-- `reports_queue_` of the gateway. -/
  reportsQueue : List V1.ExecutionReport := []
  /-- The report that the dispatcher of the gateway has popped. -/
  delivering : Option V1.ExecutionReport := none
  /-- The queue of the order manager. -/
  queue : EventQueue OMEvent := {}
  /-- The event that the dispatch thread handles now. -/
  handling : Option OMEvent := none
  /-- The order manager, in the handler that runs or at the end of the last one. -/
  handler : Handler
  /-- All reports that were ever generated. -/
  generated : List V1.ExecutionReport := []

/-- A command for the order manager. -/
inductive Command where
  | submit (signal : V1.StrategySignal)
  | cancel (signal : V1.CancelSignal)
  | cancelAll (reason initiatedBy : String)

/-- The command as an event. -/
def Command.event : Command → OMEvent
  | submit signal => .submitCommand signal
  | cancel signal => .cancelCommand signal
  | cancelAll reason initiatedBy => .cancelAllCommand reason initiatedBy

/-- A step of one of the threads. -/
inductive PaperAction where
  /-- `simulate_fills` holds the lock. -/
  | poll (poll : Poll)
  /-- `simulate_fills` enqueues the next of the generated reports. -/
  | enqueueReport
  /-- The dispatcher of the gateway pops a report. -/
  | take
  /-- The dispatcher of the gateway calls the fill handler, which enqueues the report. -/
  | deliver
  /-- A request enqueues its command. -/
  | command (command : Command)
  | bar (bar : Bar)
  | tick (tick : Tick)
  /-- The dispatch thread pops an event and runs its handler up to the first call on the gateway. -/
  | pop (env : Env)
  /-- The call on the gateway is made, and the handler goes on to the next one. -/
  | call (draw : ℚ) (clockMs : ℤ)
  /-- The handler is through. -/
  | finish

namespace PaperTrading

/-- An order manager that was just created, with a gateway that has no orders. -/
def start (accountId : String) (store : SQLiteOrderStore) (riskManager : RiskManager)
    (config : PaperGatewayConfig) : PaperTrading where
  gateway := { config := config }
  handler := .done (createOrderManager accountId store riskManager)

/-- The order manager. -/
def manager (p : PaperTrading) : OrderManager := p.handler.state

/-- `simulate_fills`, when its last reports are enqueued. -/
def simulateFills (p : PaperTrading) (poll : Poll) : PaperTrading :=
  if p.generatedFills = [] ∧ poll.visit.Perm p.gateway.pendingOrders.keys then
    let (gateway, reports) := p.gateway.simulateFills poll
    { p with gateway := gateway, generatedFills := reports, generated := p.generated ++ reports }
  else p

/-- `enqueue_report` for the first of the generated reports. -/
def enqueueReport (p : PaperTrading) : PaperTrading :=
  match p.generatedFills with
  | report :: rest =>
    { p with generatedFills := rest, reportsQueue := p.reportsQueue ++ [report] }
  | [] => p

/-- The dispatcher of the gateway takes the next report from the queue. -/
def take (p : PaperTrading) : PaperTrading :=
  match p.delivering, p.reportsQueue with
  | none, report :: rest => { p with delivering := some report, reportsQueue := rest }
  | _, _ => p

/-- The fill handler: the report is enqueued for the order manager. -/
def deliver (p : PaperTrading) : PaperTrading :=
  match p.delivering with
  | some report =>
    { p with delivering := none, queue := p.queue.enqueue (.executionReport report) }
  | none => p

/-- The dispatch thread takes the next event from its queue. -/
def pop (p : PaperTrading) (env : Env) : PaperTrading :=
  match p.handling, p.queue.pop with
  | none, some (event, queue) =>
    { p with queue := queue, handling := some event, handler := p.manager.handle env event }
  | _, _ => p

/-- The handler makes its next call on the gateway. -/
def call (p : PaperTrading) (draw : ℚ) (clockMs : ℤ) : PaperTrading :=
  match p.handler with
  | .call _ c next =>
    { p with
      gateway := (p.gateway.call draw clockMs c).1
      handler := next (p.gateway.call draw clockMs c).2 }
  | .done _ => p

/-- The dispatch thread has handled its event. -/
def finish (p : PaperTrading) : PaperTrading :=
  match p.handling, p.handler with
  | some _, .done _ => { p with handling := none, queue := p.queue.markProcessed }
  | _, _ => p

/-- A step of one of the threads. -/
def step (p : PaperTrading) : PaperAction → PaperTrading
  | .poll poll => p.simulateFills poll
  | .enqueueReport => p.enqueueReport
  | .take => p.take
  | .deliver => p.deliver
  | .command command => { p with queue := p.queue.enqueue command.event }
  | .bar bar => { p with queue := p.queue.enqueue (.bar bar) }
  | .tick tick => { p with queue := p.queue.enqueue (.tick tick) }
  | .pop env => p.pop env
  | .call draw clockMs => p.call draw clockMs
  | .finish => p.finish

end PaperTrading

end Quarcc
