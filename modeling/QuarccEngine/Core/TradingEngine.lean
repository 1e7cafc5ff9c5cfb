import QuarccEngine.Core.LiveOrders

/-!
# The engine

`trading_engine.cpp`: the requests that look up an order manager under the shared lock and enqueue a
command afterwards, the dispatch threads, and the kill switch.

The threads meet in single steps of the state `TradingEngine`: a lookup, a push on a queue, a pop,
the end of a handler, one call of the kill switch.  A step that is not possible in a state, because
a lock is held or a future is not ready, leaves the state alone.  Only the dispatch thread of an
order manager changes its books, so a handler counts as one step.
-/

namespace Quarcc

/-- `StrategyId`. -/
abbrev StrategyId := String

/-- An order manager as an object: the address that `managers_` and the requests hold. -/
abbrev ManagerId := ℕ

/-! ## An order manager and its dispatch thread -/

/-- How far the destruction of an order manager has come. -/
inductive Phase where
  | running
  /-- The dispatch thread was asked to stop. -/
  | stopping
  /-- The dispatch loop has ended. -/
  | ended
  | destroyed
  deriving DecidableEq

/-- An order manager, its account at the broker, its queue and its dispatch thread. -/
structure Managed where
  account : Account
  queue : EventQueue OMEvent := {}
  /-- The event that the dispatch thread has popped and handles now. -/
  handling : Option OMEvent := none
  /-- The promise of a `CancelAllCommand` has been fulfilled. -/
  halted : Bool := false
  phase : Phase := .running

namespace Managed

/-- `enqueue`.  A call on an object that is gone is undefined; here it does nothing. -/
def enqueue (o : Managed) (event : OMEvent) : Managed :=
  if o.phase = .destroyed then o else { o with queue := o.queue.enqueue event }

/-- The dispatch thread pops the next event. -/
def pop (o : Managed) : Managed :=
  if (o.phase = .running ∨ o.phase = .stopping) ∧ o.handling = none then
    match o.queue.pop with
    | some (event, queue) => { o with queue := queue, handling := some event }
    | none => o
  else o

/-- The promise of a `CancelAllCommand` is fulfilled at the end of its handler. -/
def fulfils : OMEvent → Bool
  | .cancelAllCommand _ _ => true
  | _ => false

/-- The dispatch thread handles the event that it has popped. -/
def finish (o : Managed) (env : Env) (gateway : GatewayAnswers) : Managed :=
  match o.handling with
  | some event =>
    { o with
      account := o.account.step ⟨event, env, gateway⟩
      queue := o.queue.markProcessed
      handling := none
      halted := o.halted || fulfils event }
  | none => o

/-- `pop` returns `false`: the dispatch thread was asked to stop and the queue is empty. -/
def endLoop (o : Managed) : Managed :=
  if o.phase = .stopping ∧ o.handling = none ∧ o.queue.q = [] then { o with phase := .ended } else o

/-- The destructor stops the gateway and asks the dispatch thread to stop. -/
def stop (o : Managed) : Managed :=
  if o.phase = .running then { o with phase := .stopping } else o

/-- The destructor is through. -/
def destroy (o : Managed) : Managed := { o with phase := .destroyed }

end Managed

/-! ## The engine -/

/-- A request that is passed on to an order manager. -/
inductive Request where
  | submitSignal (signal : V1.StrategySignal)
  | cancelOrder (signal : V1.CancelSignal)
  | replaceOrder (signal : V1.ReplaceSignal)

/-- The strategy whose order manager is looked up. -/
def Request.strategyId : Request → StrategyId
  | submitSignal signal => signal.strategyId
  | cancelOrder signal => signal.strategyId
  | replaceOrder signal => signal.strategyId

/-- The command that `process_signal` enqueues. -/
def Request.command : Request → OMEvent
  | submitSignal signal => .submitCommand signal
  | cancelOrder signal => .cancelCommand signal
  | replaceOrder signal => .replaceCommand signal

/-- A call that the kill switch makes. -/
inductive KillStep where
  /-- `cancel_all` enqueues its command. -/
  | cancelAll (m : ManagerId)
  /-- `cancel_all` waits for the future. -/
  | await (m : ManagerId)
  /-- The destructor of the order manager begins. -/
  | stop (m : ManagerId)
  /-- The destructor has joined the dispatch thread. -/
  | join (m : ManagerId)

/-- A run of `stop_strategy` or of `halt_all`, which holds `managers_mu_` all the time. -/
structure KillSwitch where
  /-- The strategy that is stopped, or `none` when all are. -/
  target : Option StrategyId
  affected : List ManagerId
  reason : String
  initiatedBy : String
  /-- The calls that are still to be made. -/
  todo : List KillStep

/-- The calls of a kill switch: `cancel_all` on one order manager after the other, and then their
destructors. -/
def KillSwitch.calls (affected : List ManagerId) : List KillStep :=
  affected.flatMap (fun m => [.cancelAll m, .await m]) ++
    affected.flatMap fun m => [.stop m, .join m]

/-- `TradingEngine`. -/
structure TradingEngine where
  /-- `managers_`. -/
  managers : AList fun _ : StrategyId => ManagerId := ∅
  /-- The order managers that were ever created. -/
  objects : List Managed := []
  /-- The requests that have found their order manager and have not enqueued their command yet. -/
  pending : List (ManagerId × OMEvent) := []
  /-- The kill switch that holds the lock. -/
  killSwitch : Option KillSwitch := none
  /-- The order managers whose kill switch has returned. -/
  stopped : List ManagerId := []

namespace TradingEngine

/-- Changing one order manager. -/
def modify (e : TradingEngine) (m : ManagerId) (f : Managed → Managed) : TradingEngine :=
  { e with objects := e.objects.modify m f }

/-- The objects after one of them was changed. -/
lemma objects_modify (e : TradingEngine) (m m' : ManagerId) (f : Managed → Managed) :
    (e.modify m f).objects[m']? = (e.objects[m']?).map fun o => if m = m' then f o else o := by
  unfold modify
  rw [List.getElem?_modify]
  cases e.objects[m']? <;> rfl

/-- The promise of the `CancelAllCommand` of the order manager has been fulfilled. -/
def Halted (e : TradingEngine) (m : ManagerId) : Prop :=
  e.objects[m]?.map Managed.halted = some true

instance (e : TradingEngine) (m : ManagerId) : Decidable (e.Halted m) :=
  inferInstanceAs (Decidable (_ = _))

/-- `RegisterStrategy`, with the gateway and the store of the new order manager as given. -/
def registerStrategy (e : TradingEngine) (strategyId : StrategyId) (accountId : String)
    (store : SQLiteOrderStore) (riskManager : RiskManager) : TradingEngine :=
  if e.killSwitch.isNone ∧ e.managers.lookup strategyId = none then
    { e with
      managers := e.managers.insert strategyId e.objects.length
      objects := e.objects ++ [{ account := .start accountId store riskManager }] }
  else e

/-- The lookup of a request, under the shared lock. -/
def lookup (e : TradingEngine) (request : Request) : TradingEngine :=
  if e.killSwitch.isNone then
    match e.managers.lookup request.strategyId with
    | some m => { e with pending := e.pending ++ [(m, request.command)] }
    | none => e
  else e

/-- The `k`-th request that has found its order manager enqueues its command. -/
def enqueue (e : TradingEngine) (k : ℕ) : TradingEngine :=
  match e.pending[k]? with
  | some (m, command) =>
    { e.modify m (Managed.enqueue · command) with pending := e.pending.eraseIdx k }
  | none => e

/-- The gateway or a feed enqueues a report or market data. -/
def deliver (e : TradingEngine) (m : ManagerId) : OMEvent → TradingEngine
  | .executionReport fill => e.modify m (Managed.enqueue · (.executionReport fill))
  | .bar bar => e.modify m (Managed.enqueue · (.bar bar))
  | .tick tick => e.modify m (Managed.enqueue · (.tick tick))
  | _ => e

/-- `stop_strategy` takes the lock. -/
def stopStrategy (e : TradingEngine) (strategyId : StrategyId) (reason initiatedBy : String) :
    TradingEngine :=
  if e.killSwitch.isNone then
    match e.managers.lookup strategyId with
    | some m =>
      { e with
        killSwitch := some
          { target := some strategyId, affected := [m], reason := reason
            initiatedBy := initiatedBy, todo := KillSwitch.calls [m] } }
    | none => e
  else e

/-- `halt_all` takes the lock.  It goes through `managers_` in an order of the hash map. -/
def haltAll (e : TradingEngine) (order : List ManagerId) (reason initiatedBy : String) :
    TradingEngine :=
  if e.killSwitch.isNone ∧ order.Perm (e.managers.entries.map Sigma.snd) then
    { e with
      killSwitch := some
        { target := none, affected := order, reason := reason, initiatedBy := initiatedBy
          todo := KillSwitch.calls order } }
  else e

/-- The kill switch makes its next call, or returns.  The threads of the gateways, which the
destructors join as well, are left out here. -/
def proceed (e : TradingEngine) : TradingEngine :=
  match e.killSwitch with
  | none => e
  | some kill =>
    match kill.todo with
    | [] =>
      { e with
        managers :=
          match kill.target with
          | some strategyId => e.managers.erase strategyId
          | none => ∅
        killSwitch := none
        stopped := kill.affected ++ e.stopped }
    | .cancelAll m :: rest =>
      { e.modify m (Managed.enqueue · (.cancelAllCommand kill.reason kill.initiatedBy)) with
        killSwitch := some { kill with todo := rest } }
    | .await m :: rest =>
      if e.Halted m then { e with killSwitch := some { kill with todo := rest } } else e
    | .stop m :: rest =>
      { e.modify m Managed.stop with killSwitch := some { kill with todo := rest } }
    | .join m :: rest =>
      if e.objects[m]?.map Managed.phase = some .ended then
        { e.modify m Managed.destroy with killSwitch := some { kill with todo := rest } }
      else e

end TradingEngine

/-! ## Steps -/

/-- A step of one of the threads. -/
inductive Action where
  | registerStrategy (strategyId : StrategyId) (accountId : String) (store : SQLiteOrderStore)
      (riskManager : RiskManager)
  | lookup (request : Request)
  | enqueue (k : ℕ)
  | deliver (m : ManagerId) (event : OMEvent)
  | pop (m : ManagerId)
  | finish (m : ManagerId) (env : Env) (gateway : GatewayAnswers)
  | endLoop (m : ManagerId)
  | stopStrategy (strategyId : StrategyId) (reason initiatedBy : String)
  | haltAll (order : List ManagerId) (reason initiatedBy : String)
  | proceed

/-- The engine after a step. -/
def TradingEngine.step (e : TradingEngine) : Action → TradingEngine
  | .registerStrategy strategyId accountId store riskManager =>
    e.registerStrategy strategyId accountId store riskManager
  | .lookup request => e.lookup request
  | .enqueue k => e.enqueue k
  | .deliver m event => e.deliver m event
  | .pop m => e.modify m Managed.pop
  | .finish m env gateway => e.modify m (Managed.finish · env gateway)
  | .endLoop m => e.modify m Managed.endLoop
  | .stopStrategy strategyId reason initiatedBy => e.stopStrategy strategyId reason initiatedBy
  | .haltAll order reason initiatedBy => e.haltAll order reason initiatedBy
  | .proceed => e.proceed

/-! ## What a step can do -/

/-- The order managers that are left when the kill switch returns. -/
def KillSwitch.remaining (kill : KillSwitch) (managers : AList fun _ : StrategyId => ManagerId) :
    AList fun _ : StrategyId => ManagerId :=
  match kill.target with
  | some strategyId => managers.erase strategyId
  | none => ∅

/-- The steps of the engine, each with what it needs and what it leaves. -/
inductive TradingEngine.Steps (e : TradingEngine) : Action → TradingEngine → Prop
  | registered {strategyId : StrategyId} {accountId : String} {store : SQLiteOrderStore}
      {riskManager : RiskManager} : e.killSwitch = none → e.managers.lookup strategyId = none →
    e.Steps (.registerStrategy strategyId accountId store riskManager)
      { e with
        managers := e.managers.insert strategyId e.objects.length
        objects := e.objects ++ [{ account := .start accountId store riskManager }] }
  | found {request : Request} {m : ManagerId} : e.killSwitch = none →
    e.managers.lookup request.strategyId = some m →
    e.Steps (.lookup request) { e with pending := e.pending ++ [(m, request.command)] }
  | enqueued {k : ℕ} {m : ManagerId} {command : OMEvent} : e.pending[k]? = some (m, command) →
    e.Steps (.enqueue k)
      { e.modify m (Managed.enqueue · command) with pending := e.pending.eraseIdx k }
  | delivered {m : ManagerId} {event : OMEvent} :
    e.Steps (.deliver m event) (e.modify m (Managed.enqueue · event))
  | popped {m : ManagerId} : e.Steps (.pop m) (e.modify m Managed.pop)
  | finished {m : ManagerId} {env : Env} {gateway : GatewayAnswers} :
    e.Steps (.finish m env gateway) (e.modify m (Managed.finish · env gateway))
  | loopEnded {m : ManagerId} : e.Steps (.endLoop m) (e.modify m Managed.endLoop)
  | stopBegun {strategyId : StrategyId} {reason initiatedBy : String} {m : ManagerId} :
    e.killSwitch = none → e.managers.lookup strategyId = some m →
    e.Steps (.stopStrategy strategyId reason initiatedBy)
      { e with
        killSwitch := some
          { target := some strategyId, affected := [m], reason := reason
            initiatedBy := initiatedBy, todo := KillSwitch.calls [m] } }
  | haltBegun {order : List ManagerId} {reason initiatedBy : String} : e.killSwitch = none →
    order.Perm (e.managers.entries.map Sigma.snd) →
    e.Steps (.haltAll order reason initiatedBy)
      { e with
        killSwitch := some
          { target := none, affected := order, reason := reason, initiatedBy := initiatedBy
            todo := KillSwitch.calls order } }
  | cancelled {kill : KillSwitch} {m : ManagerId} {rest : List KillStep} :
    e.killSwitch = some kill → kill.todo = .cancelAll m :: rest →
    e.Steps .proceed
      { e.modify m (Managed.enqueue · (.cancelAllCommand kill.reason kill.initiatedBy)) with
        killSwitch := some { kill with todo := rest } }
  | awaited {kill : KillSwitch} {m : ManagerId} {rest : List KillStep} :
    e.killSwitch = some kill → kill.todo = .await m :: rest → e.Halted m →
    e.Steps .proceed { e with killSwitch := some { kill with todo := rest } }
  | stopped {kill : KillSwitch} {m : ManagerId} {rest : List KillStep} :
    e.killSwitch = some kill → kill.todo = .stop m :: rest →
    e.Steps .proceed
      { e.modify m Managed.stop with killSwitch := some { kill with todo := rest } }
  | joined {kill : KillSwitch} {m : ManagerId} {rest : List KillStep} :
    e.killSwitch = some kill → kill.todo = .join m :: rest →
    e.objects[m]?.map Managed.phase = some .ended →
    e.Steps .proceed
      { e.modify m Managed.destroy with killSwitch := some { kill with todo := rest } }
  | returned {kill : KillSwitch} : e.killSwitch = some kill → kill.todo = [] →
    e.Steps .proceed
      { e with
        managers := kill.remaining e.managers
        killSwitch := none
        stopped := kill.affected ++ e.stopped }
  /-- A lock is held, nothing is found, or a wait goes on. -/
  | idle {a : Action} : e.Steps a e

/-- **Inversion.**  A step does one of these things. -/
theorem TradingEngine.steps_step (e : TradingEngine) (a : Action) : e.Steps a (e.step a) := by
  cases a with
  | registerStrategy strategyId accountId store riskManager =>
    unfold step registerStrategy
    dsimp only
    split_ifs with hfree
    · exact .registered (Option.isNone_iff_eq_none.mp hfree.1) hfree.2
    · exact .idle
  | lookup request =>
    unfold step lookup
    dsimp only
    split_ifs with hfree
    · cases hm : e.managers.lookup request.strategyId with
      | none => exact .idle
      | some m => exact .found (Option.isNone_iff_eq_none.mp hfree) hm
    · exact .idle
  | enqueue k =>
    unfold step enqueue
    dsimp only
    cases hcall : e.pending[k]? with
    | none => exact .idle
    | some call => exact .enqueued hcall
  | deliver m event =>
    cases event with
    | executionReport _ | bar _ | tick _ => exact .delivered
    | _ => exact .idle
  | pop m => exact .popped
  | finish m env gateway => exact .finished
  | endLoop m => exact .loopEnded
  | stopStrategy strategyId reason initiatedBy =>
    unfold step stopStrategy
    dsimp only
    split_ifs with hfree
    · cases hm : e.managers.lookup strategyId with
      | none => exact .idle
      | some m => exact .stopBegun (Option.isNone_iff_eq_none.mp hfree) hm
    · exact .idle
  | haltAll order reason initiatedBy =>
    unfold step haltAll
    dsimp only
    split_ifs with hfree
    · exact .haltBegun (Option.isNone_iff_eq_none.mp hfree.1) hfree.2
    · exact .idle
  | proceed =>
    unfold step proceed
    dsimp only
    cases hkill : e.killSwitch with
    | none => exact .idle
    | some kill =>
      dsimp only
      cases htodo : kill.todo with
      | nil => exact .returned hkill htodo
      | cons first rest =>
        cases first with
        | cancelAll m => exact .cancelled hkill htodo
        | await m =>
          dsimp only
          split_ifs with hhalted
          · exact .awaited hkill htodo hhalted
          · exact .idle
        | stop m => exact .stopped hkill htodo
        | join m =>
          dsimp only
          split_ifs with hended
          · exact .joined hkill htodo hended
          · exact .idle

end Quarcc
