import QuarccEngine.Core.TradingEngine

/-!
# Streams

`grpc_server.cpp`: the handlers `StreamFills` and `StreamMarketData`, with the functions of
`trading_engine.cpp` that they call.

A handler sets up its stream in two steps: it looks up the order manager under the shared lock, and
it installs its sinks after it has released the lock.  Then it waits until the client has gone or a
write has failed, clears the sinks of the order manager that has the strategy id now, and returns.
A handler whose strategy is unknown returns at once and is left out.
-/

namespace Quarcc

/-- The kinds of streams that a client can open for a strategy. -/
inductive StreamKind where
  | fills
  | marketData
  deriving DecidableEq

/-- How far the handler of a stream has come. -/
inductive StreamPhase where
  /-- It has looked up the order manager and released the lock. -/
  | found (m : ManagerId)
  /-- It has installed its sinks in the order manager and waits. -/
  | streaming (m : ManagerId)
  | returned
  deriving DecidableEq

/-- A call of `StreamFills` or `StreamMarketData`. -/
structure Stream where
  kind : StreamKind
  strategyId : StrategyId
  phase : StreamPhase

namespace OrderManager

/-- Installing the sinks of a stream. -/
def setSinks (s : OrderManager) (kind : StreamKind) (sink : SinkId) : OrderManager :=
  match kind with
  | .fills => s.setFillSink sink
  | .marketData => s.setMarketDataSinks sink sink

/-- Clearing the sinks of a kind of streams. -/
def clearSinks (s : OrderManager) (kind : StreamKind) : OrderManager :=
  match kind with
  | .fills => s.clearFillSink
  | .marketData => s.clearMarketDataSinks

end OrderManager

namespace Managed

/-- `set_fill_sink` or `set_market_data_sinks`.  A call on an object that is gone is undefined; here
it does nothing. -/
def setSinks (o : Managed) (kind : StreamKind) (sink : SinkId) : Managed :=
  if o.phase = .destroyed then o
  else { o with account := (o.account.1.setSinks kind sink, o.account.2) }

/-- `clear_fill_sink` or `clear_market_data_sinks`. -/
def clearSinks (o : Managed) (kind : StreamKind) : Managed :=
  { o with account := (o.account.1.clearSinks kind, o.account.2) }

variable (o : Managed) (kind : StreamKind) (sink : SinkId)

@[simp] lemma setSinks_phase : (o.setSinks kind sink).phase = o.phase := by
  unfold setSinks
  split_ifs <;> rfl

@[simp] lemma setSinks_handling : (o.setSinks kind sink).handling = o.handling := by
  unfold setSinks
  split_ifs <;> rfl

@[simp] lemma clearSinks_phase : (o.clearSinks kind).phase = o.phase := rfl

end Managed

/-- `ClearFillStream` or `ClearMarketDataStream`, under the shared lock. -/
def TradingEngine.clearStream (e : TradingEngine) (kind : StreamKind) (strategyId : StrategyId) :
    TradingEngine :=
  match e.managers.lookup strategyId with
  | some m => e.modify m (Managed.clearSinks · kind)
  | none => e

namespace TradingEngine

variable (e : TradingEngine) (kind : StreamKind) (strategyId : StrategyId)

@[simp] lemma managers_clearStream : (e.clearStream kind strategyId).managers = e.managers := by
  unfold clearStream
  split <;> rfl

/-- The order managers after sinks were cleared. -/
lemma objects_clearStream (m : ManagerId) :
    (e.clearStream kind strategyId).objects[m]? =
      (e.objects[m]?).map fun o =>
        if e.managers.lookup strategyId = some m then o.clearSinks kind else o := by
  unfold clearStream
  cases hlookup : e.managers.lookup strategyId with
  | none => simp
  | some m' =>
    dsimp only
    rw [objects_modify]
    simp only [Option.some.injEq]

lemma length_clearStream : (e.clearStream kind strategyId).objects.length = e.objects.length := by
  unfold clearStream
  split
  · exact List.length_modify _ _ _
  · rfl

end TradingEngine

/-- `ExecutionServiceImpl` with the engine that it serves. -/
structure ExecutionService where
  engine : TradingEngine := {}
  /-- The streams that have found their order manager.  The sinks of the `k`-th one have the name
  `k`. -/
  streams : List Stream := []
  /-- The streams whose sinks were installed, the last one first. -/
  opened : List SinkId := []

namespace ExecutionService

variable (g : ExecutionService)

/-- The handler of a stream has come further. -/
def setPhase (k : SinkId) (phase : StreamPhase) : ExecutionService :=
  { g with streams := g.streams.modify k fun stream => { stream with phase := phase } }

/-- The streams after one of them has come further. -/
lemma streams_setPhase (k j : SinkId) (phase : StreamPhase) :
    (g.setPhase k phase).streams[j]? =
      (g.streams[j]?).map fun stream =>
        if k = j then { stream with phase := phase } else stream := by
  unfold setPhase
  rw [List.getElem?_modify]
  cases g.streams[j]? <;> rfl

/-- `SetupFillStream` or `SetupMarketDataStream` up to the release of the shared lock. -/
def setup (kind : StreamKind) (strategyId : StrategyId) : ExecutionService :=
  if g.engine.killSwitch.isNone then
    match g.engine.managers.lookup strategyId with
    | some m =>
      { g with
        streams := g.streams ++ [{ kind := kind, strategyId := strategyId, phase := .found m }] }
    | none => g
  else g

/-- The rest of `SetupFillStream` or `SetupMarketDataStream`: the call on the order manager. -/
def install (k : SinkId) : ExecutionService :=
  match g.streams[k]? with
  | some ⟨kind, _, .found m⟩ =>
    { g.setPhase k (.streaming m) with
      engine := g.engine.modify m (Managed.setSinks · kind k)
      opened := k :: g.opened }
  | _ => g

/-- `ClearFillStream` or `ClearMarketDataStream`, after which the handler returns. -/
def clear (k : SinkId) : ExecutionService :=
  if g.engine.killSwitch.isNone then
    match g.streams[k]? with
    | some ⟨kind, strategyId, .streaming _⟩ =>
      { g.setPhase k .returned with engine := g.engine.clearStream kind strategyId }
    | _ => g
  else g

end ExecutionService

/-- A step of the engine's threads or of a handler. -/
inductive ServiceAction where
  | engine (action : Action)
  | setup (kind : StreamKind) (strategyId : StrategyId)
  | install (k : SinkId)
  | clear (k : SinkId)

/-- The service after a step. -/
def ExecutionService.step (g : ExecutionService) : ServiceAction → ExecutionService
  | .engine action => { g with engine := g.engine.step action }
  | .setup kind strategyId => g.setup kind strategyId
  | .install k => g.install k
  | .clear k => g.clear k

/-! ## What a step can do -/

/-- The steps of the service, each with what it needs and what it leaves. -/
inductive ExecutionService.Steps (g : ExecutionService) : ServiceAction → ExecutionService → Prop
  | engine {action : Action} : g.Steps (.engine action) { g with engine := g.engine.step action }
  | found {kind : StreamKind} {strategyId : StrategyId} {m : ManagerId} :
    g.engine.killSwitch = none → g.engine.managers.lookup strategyId = some m →
    g.Steps (.setup kind strategyId)
      { g with
        streams := g.streams ++ [{ kind := kind, strategyId := strategyId, phase := .found m }] }
  | installed {k : SinkId} {kind : StreamKind} {strategyId : StrategyId} {m : ManagerId} :
    g.streams[k]? = some ⟨kind, strategyId, .found m⟩ →
    g.Steps (.install k)
      { g.setPhase k (.streaming m) with
        engine := g.engine.modify m (Managed.setSinks · kind k)
        opened := k :: g.opened }
  | cleared {k : SinkId} {kind : StreamKind} {strategyId : StrategyId} {m : ManagerId} :
    g.engine.killSwitch = none → g.streams[k]? = some ⟨kind, strategyId, .streaming m⟩ →
    g.Steps (.clear k)
      { g.setPhase k .returned with engine := g.engine.clearStream kind strategyId }
  /-- The lock is held, or the strategy is not registered. -/
  | notFound {kind : StreamKind} {strategyId : StrategyId} : g.Steps (.setup kind strategyId) g
  | notInstalled {k : SinkId} :
    (∀ kind strategyId m, g.streams[k]? ≠ some ⟨kind, strategyId, .found m⟩) →
    g.Steps (.install k) g
  | notCleared {k : SinkId} :
    (g.engine.killSwitch = none →
      ∀ kind strategyId m, g.streams[k]? ≠ some ⟨kind, strategyId, .streaming m⟩) →
    g.Steps (.clear k) g

/-- **Inversion.**  A step does one of these things. -/
theorem ExecutionService.steps_step (g : ExecutionService) (a : ServiceAction) :
    g.Steps a (g.step a) := by
  cases a with
  | engine action => exact .engine
  | setup kind strategyId =>
    unfold step setup
    dsimp only
    split_ifs with hfree
    · cases hm : g.engine.managers.lookup strategyId with
      | none => exact .notFound
      | some m => exact .found (Option.isNone_iff_eq_none.mp hfree) hm
    · exact .notFound
  | install k =>
    unfold step install
    dsimp only
    split
    next kind strategyId m hk => exact .installed hk
    next hnot => exact .notInstalled fun kind strategyId m hk => hnot kind strategyId m hk
  | clear k =>
    unfold step clear
    dsimp only
    split_ifs with hfree
    · split
      next kind strategyId m hk => exact .cleared (Option.isNone_iff_eq_none.mp hfree) hk
      next hnot => exact .notCleared fun _ kind strategyId m hk => hnot kind strategyId m hk
    · exact .notCleared fun hnone => absurd (Option.isNone_iff_eq_none.mpr hnone) hfree

end Quarcc
