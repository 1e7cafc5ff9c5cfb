import QuarccEngine.Core.Engine

/-!
# Requests

The requests of the clients, one after the other, and what the threads of the engine do on their own
account: the loops of the simulated feeds, the gateways, the dispatch threads, and the main thread,
which shuts the engine down after a halt.

A request to an order manager enqueues a command and waits for its future.  The other threads go on
in the meantime.  A kill switch destroys order managers, each of which joins the dispatcher of its
gateway, a paper gateway; it waits forever when the dispatcher sleeps through its stop.  What ends
the process ends the run.
-/

namespace Quarcc

/-! ## Waiting for a promise -/

/-- What the handlers of a dispatch thread meet, by the number of events that are left. -/
abbrev Surroundings := ℕ → Env × GatewayAnswers

namespace Managed

/-- The promises that are fulfilled. -/
def replies (o : Managed) : List Reply := o.account.1.replies

/-- The number of the promise of the next command: the promises are fulfilled in turn. -/
def nextPromise (o : Managed) : ℕ :=
  o.replies.length + (o.handling.toList ++ o.queue.q).countP OMEvent.hasPromise

/-- The dispatch thread handles the next event. -/
def round (o : Managed) (met : Env × GatewayAnswers) : Managed := o.pop.finish met.1 met.2

/-- The dispatch thread handles `n` events. -/
def goOn (surroundings : Surroundings) : ℕ → Managed → Managed
  | 0, o => o
  | n + 1, o => goOn surroundings n (o.round (surroundings n))

/-- The dispatch thread goes on until the `k`-th promise is fulfilled, for `n` events at most. -/
def awaitReply (k : ℕ) (surroundings : Surroundings) : ℕ → Managed → Managed
  | 0, o => o
  | n + 1, o =>
    if k < o.replies.length then o else awaitReply k surroundings n (o.round (surroundings n))

/-- The destructor after `gateway_->stop()`: it lets the dispatch thread handle what is left. -/
def close (o : Managed) (surroundings : Surroundings) : Managed :=
  (goOn surroundings o.queue.q.length o.stop).endLoop.destroy

end Managed

/-! ## Threads -/

/-- A step of a thread of the engine. -/
inductive ThreadStep where
  /-- `emit_loop` begins a round. -/
  | beginRound (key : FeedKey) (nowNs : ℤ)
  /-- `emit_loop` goes on with the next symbol. -/
  | emit (key : FeedKey) (noise : ℚ)
  /-- A gateway hands on a report. -/
  | report (m : ManagerId) (fill : V1.ExecutionReport)
  /-- The dispatcher of a gateway makes a step, or a thread that gives it a report.  Only the
  destructor of the order manager stops it. -/
  | gateway (m : ManagerId) (action : DispatcherAction)
  /-- A dispatch thread handles the next event. -/
  | dispatch (m : ManagerId) (met : Env × GatewayAnswers)

namespace Engine

/-- Changing one order manager. -/
def modifyManager (e : Engine) (m : ManagerId) (f : Managed → Managed) : Engine :=
  { e with toTradingEngine := e.toTradingEngine.modify m f }

/-- Changing one feed. -/
def setFeed (e : Engine) (key : FeedKey) (feed : MarketDataFeed) : Engine :=
  { e with
    feedRegistry := { e.feedRegistry with feeds := e.feedRegistry.feeds.insert key feed } }

/-- An event goes to several order managers. -/
def enqueueAll (e : Engine) (ms : List ManagerId) (event : OMEvent) : Engine :=
  ms.foldl (fun e m => e.modifyManager m (Managed.enqueue · event)) e

/-- `on_tick`. -/
def onTick (key : FeedKey) (e : Engine) (tick : Tick) : Engine :=
  e.enqueueAll (e.feedRegistry.tickSubscribers key tick) (.tick tick)

/-- `on_bar`. -/
def onBar (key : FeedKey) (e : Engine) (bar : Bar) : Engine :=
  e.enqueueAll (e.feedRegistry.barSubscribers key bar) (.bar bar)

/-- The dispatcher of the gateway of an order manager makes a step, and passes a report to the fill
handler, which enqueues it. -/
def gatewayStep (m : ManagerId) (e : Engine) (action : DispatcherAction) : Engine :=
  let e' :=
    { e with dispatchers := Function.update e.dispatchers m ((e.dispatchers m).step action) }
  match (e.dispatchers m).passes action with
  | none => e'
  | some report => e'.modifyManager m (Managed.enqueue · (.executionReport report))

/-- A step of a thread, which may end the process. -/
def threadStep (e : Engine) : ThreadStep → Except Crash Engine
  | .beginRound key nowNs =>
    match e.feedRegistry.feeds.lookup key with
    | some (.simulated feed) => .ok (e.setFeed key (.simulated (feed.beginRound nowNs)))
    | _ => .ok e
  | .emit key noise =>
    match e.feedRegistry.feeds.lookup key with
    | some (.simulated feed) =>
      (feed.emit noise).map fun emitted =>
        let e := e.setFeed key (.simulated emitted.1)
        emitted.2.2.foldl (onBar key) (emitted.2.1.foldl (onTick key) e)
    | _ => .ok e
  | .report m fill => .ok (e.modifyManager m (Managed.enqueue · (.executionReport fill)))
  | .gateway _ .stop => .ok e
  | .gateway m action => .ok (e.gatewayStep m action)
  | .dispatch m met => .ok (e.modifyManager m (Managed.round · met))

end Engine

/-! ## Requests -/

/-- A request of a client. -/
inductive ClientRequest where
  | registerStrategy (req : V1.RegisterStrategyRequest)
  | order (request : Request)
  | activateKillSwitch (req : V1.KillSwitchRequest)

/-- The value of the `Result` of a request to an order manager. -/
@[reducible] def Request.Value : Request → Type
  | submitSignal _ => BrokerOrderId
  | cancelOrder _ => Unit
  | replaceOrder _ => BrokerOrderId

/-- The value of the `Result` of a request. -/
@[reducible] def ClientRequest.Value : ClientRequest → Type
  | registerStrategy _ => Unit
  | order request => request.Value
  | activateKillSwitch _ => Unit

/-- The request takes its result from the promise of its command. -/
def Request.resultOf : (request : Request) → Reply → Option (Result request.Value)
  | submitSignal _, .submitted result => some result
  | cancelOrder _, .cancelled result => some result
  | replaceOrder _, .replaced result => some result
  | _, _ => none

/-- What happens while a request waits for the promise of its command: the other threads, and the
own one of the order manager too, make some steps, and then the dispatch thread goes on until the
promise is fulfilled. -/
structure Awaiting where
  meanwhile : List ThreadStep := []
  surroundings : Surroundings

/-- What happens while an order manager is destroyed. -/
structure Closing where
  /-- The steps of its gateway's dispatcher up to the end of `stop_dispatcher`, with the last
  reports of the simulation thread. -/
  meanwhile : List DispatcherAction := []
  surroundings : Surroundings

/-- What a request meets. -/
structure RequestEnv where
  registration : RegistrationEnv := {}
  waiting : ManagerId → Awaiting
  closing : ManagerId → Closing
  /-- The order of the hash map `managers_`. -/
  order : List ManagerId → List ManagerId
  order_perm : ∀ ms, (order ms).Perm ms

namespace Engine

/-- The promises of an order manager that are fulfilled. -/
def replies (e : Engine) (m : ManagerId) : List Reply := (e.objects[m]?.map Managed.replies).getD []

/-- A command is enqueued and its promise awaited; there is no reply when the promise is never
fulfilled. -/
def ask (e : Engine) (m : ManagerId) (command : OMEvent) (waiting : Awaiting) :
    Except Crash (Engine × Option Reply) :=
  let k := (e.objects[m]?.map Managed.nextPromise).getD 0
  (waiting.meanwhile.foldlM threadStep (e.modifyManager m (Managed.enqueue · command))).map fun e =>
    let e := e.modifyManager m fun o => o.awaitReply k waiting.surroundings o.queue.q.length
    (e, (e.replies m)[k]?)

/-- `cancel_all` of an order manager, unless an earlier one is awaited forever. -/
def cancelAll (reason initiatedBy : String) (env : RequestEnv) (state : Engine × Bool)
    (m : ManagerId) : Except Crash (Engine × Bool) :=
  if state.2 then
    (state.1.ask m (.cancelAllCommand reason initiatedBy) (env.waiting m)).map fun asked =>
      (asked.1, asked.2.isSome)
  else .ok state

/-- An order manager is taken off the market data. -/
def unregisterManager (e : Engine) (m : ManagerId) : Engine :=
  { e with feedRegistry := e.feedRegistry.unregisterManager m }

/-- The kill switch stops an order manager. -/
def haltManager (reason initiatedBy : String) (env : RequestEnv) (state : Engine × Bool)
    (m : ManagerId) : Except Crash (Engine × Bool) :=
  (cancelAll reason initiatedBy env state m).map fun halted =>
    if halted.2 then (halted.1.unregisterManager m, true) else halted

/-- `gateway_->stop()` of an order manager, in which the dispatcher is joined: the dispatcher has
ended, or it blocks and the join waits forever. -/
def stopGateway (e : Engine) (m : ManagerId) (meanwhile : List DispatcherAction) : Engine :=
  ((e.dispatchers m).stopSteps meanwhile).foldl (gatewayStep m) e

/-- An order manager is destroyed, unless the destructor of an earlier one waits forever. -/
def closeManager (env : RequestEnv) (state : Engine × Bool) (m : ManagerId) : Engine × Bool :=
  if state.2 then
    let e := state.1.stopGateway m (env.closing m).meanwhile
    if (e.dispatchers m).position = .ended then
      (e.modifyManager m (Managed.close · (env.closing m).surroundings), true)
    else (e, false)
  else state

/-- The order managers are destroyed. -/
def closeManagers (e : Engine) (env : RequestEnv) (ms : List ManagerId) : Engine × Bool :=
  ms.foldl (closeManager env) (e, true)

/-- The order managers, in the order of the hash map. -/
def managerIds (e : Engine) (env : RequestEnv) : List ManagerId :=
  env.order (e.managers.entries.map Sigma.snd)

/-- `stop_strategy`. -/
def stopStrategy (e : Engine) (req : V1.KillSwitchRequest) (env : RequestEnv) :
    Except Crash (Engine × Option (Result Unit)) :=
  match e.managers.lookup req.strategyId with
  | none =>
    .ok (e, some (.error
      ⟨"No strategy '" ++ req.strategyId ++ "' found; cannot stop", .error⟩))
  | some m =>
    (haltManager req.reason req.initiatedBy env (e, true) m).map fun halted =>
      if halted.2 then
        let closed := halted.1.closeManagers env [m]
        ({ closed.1 with managers := halted.1.managers.erase req.strategyId },
          if closed.2 then some (.ok ()) else none)
      else (halted.1, none)

/-- `halt_all`, but for `running_`. -/
def haltAll (e : Engine) (req : V1.KillSwitchRequest) (env : RequestEnv) :
    Except Crash (Engine × Option (Result Unit)) :=
  ((e.managerIds env).foldlM (haltManager req.reason req.initiatedBy env) (e, true)).map
    fun halted =>
      if halted.2 then
        let closed := halted.1.closeManagers env (e.managerIds env)
        ({ closed.1 with managers := ∅ }, if closed.2 then some (.ok ()) else none)
      else (halted.1, none)

/-- `ActivateKillSwitch`. -/
def activateKillSwitch (e : Engine) (req : V1.KillSwitchRequest) (env : RequestEnv) :
    Except Crash (Engine × Option (Result Unit)) :=
  match req.mode with
  | .haltAll => e.haltAll req env
  | .stopStrategy => e.stopStrategy req env
  | .unrecognized _ => .error .terminate

/-- `SubmitSignal`, `CancelOrder` and `ReplaceOrder`. -/
def order (e : Engine) (request : Request) (env : RequestEnv) :
    Except Crash (Engine × Option (Result request.Value)) :=
  match e.managers.lookup request.strategyId with
  | none => .ok (e, some (.error ⟨"Unknown strategy", .error⟩))
  | some m =>
    (e.ask m request.command (env.waiting m)).map fun asked =>
      (asked.1, asked.2.bind request.resultOf)

/-- A request is served, which may end the process: there is no result when the request throws or
waits forever. -/
def serve (e : Engine) (env : RequestEnv) :
    (request : ClientRequest) → Except Crash (Engine × Option (Result request.Value))
  | .registerStrategy req =>
    .ok ((e.registerStrategy req env.registration).1,
      (e.registerStrategy req env.registration).2.result)
  | .order request => e.order request env
  | .activateKillSwitch req => e.activateKillSwitch req env

end Engine

/-! ## The process -/

/-- A request and its result, if there is one. -/
abbrev Served := (request : ClientRequest) × Option (Result request.Value)

/-- The process that runs the engine. -/
structure Server where
  engine : Engine := {}
  /-- `running_`. -/
  running : Bool := true
  /-- The main thread has shut down the server and the feeds. -/
  down : Bool := false
  /-- A kill switch waits forever, with `managers_mu_` held. -/
  locked : Bool := false
  fault : Option Crash := none
  /-- The requests so far. -/
  served : List Served := []

/-- What happens next. -/
inductive ServerAction where
  | request (request : ClientRequest) (env : RequestEnv)
  | thread (step : ThreadStep)
  /-- The main thread goes on after `running_` was set to `false`. -/
  | shutDown (env : RequestEnv)

/-- The request holds `managers_mu_` until it is answered. -/
def ClientRequest.isKillSwitch : ClientRequest → Bool
  | activateKillSwitch _ => true
  | _ => false

/-- The request is to halt all strategies. -/
def ClientRequest.isHaltAll : ClientRequest → Bool
  | activateKillSwitch req => req.mode = .haltAll
  | _ => false

namespace Server

/-- A request comes in and is served, unless it waits for `managers_mu_` forever. -/
def receive (s : Server) (request : ClientRequest) (env : RequestEnv) : Server :=
  if s.locked then { s with served := s.served ++ [⟨request, none⟩] }
  else
    match s.engine.serve env request with
    | .error crash => { s with fault := some crash, served := s.served ++ [⟨request, none⟩] }
    | .ok (engine, result) =>
      { s with
        engine := engine
        running := s.running && !(request.isHaltAll && result.isSome)
        locked := request.isKillSwitch && result.isNone
        served := s.served ++ [⟨request, result⟩] }

/-- A thread makes a step. -/
def runThread (s : Server) (step : ThreadStep) : Server :=
  match s.engine.threadStep step with
  | .error crash => { s with fault := some crash }
  | .ok engine => { s with engine := engine }

/-- The end of `Run`. -/
def shutDown (s : Server) (env : RequestEnv) : Server :=
  if s.running then s
  else
    match (s.engine.managerIds env).foldlM (Engine.cancelAll "Shutting down" "SIGINT/SIGTERM" env)
        (s.engine, true) with
    | .error crash => { s with fault := some crash }
    | .ok (engine, ready) => { s with engine := engine, down := ready }

/-- The process after a step.  Once it has ended or is shut down it does nothing, and no request
reaches it. -/
def step (s : Server) (a : ServerAction) : Server :=
  if s.fault.isSome || s.down then s
  else
    match a with
    | .request request env => s.receive request env
    | .thread step => s.runThread step
    | .shutDown env => s.shutDown env

end Server

end Quarcc
