import QuarccEngine.Core.FeedRegistry
import QuarccEngine.Gateways.FillStream
import QuarccEngine.Library.Trajectory

/-!
# The contexts of the streams

`run_fill_stream` of `grpc_gateway.cpp` and `run_stream` of `grpc_market_data_feed.cpp` are the same
loop:  it checks whether the thread is asked to stop, installs a new context, opens a stream with
the context, and reads until the stream ends.  `stop()` is the same as well: it asks the thread to
stop, cancels the context that is installed, and notifies the thread.  The loop is defined once,
with what differs as parameters: the request that the stream is opened with, and what is done with a
message.

The check and the installation are two steps.  When `stop()` takes its turn between them, it cancels
the context of the stream before, or none, and the thread reads from a context that nobody will
cancel.  This is the only way in which it comes to that.
-/

namespace Quarcc

/-! ## The loop -/

/-- Where the stream thread is in its loop. -/
inductive ContextPosition (ρ : Type) where
  /-- At the head of the loop. -/
  | checking
  /-- It goes round the loop, and has not locked `ctx_mu_` yet. -/
  | installing
  /-- It has installed a context. -/
  | opening
  /-- In `Read`, on a stream that was opened with the context and the request. -/
  | reading (context : ℕ) (req : ρ)
  /-- `Read` has failed. -/
  | finishing
  /-- In the wait before it reconnects. -/
  | waiting
  /-- It has left the loop. -/
  | leaving
  | exited

/-- A stream thread that was started, and the call of `stop()`.  Contexts are numbered in the order
in which they are made. -/
structure StreamClient (σ ρ : Type) where
  /-- What the thread works on besides. -/
  object : σ
  stopRequested : Bool := false
  /-- `ctx_`. -/
  ctx : Option ℕ := none
  /-- How many contexts were made. -/
  contexts : ℕ := 0
  /-- The contexts on which `TryCancel` was called. -/
  cancelled : List ℕ := []
  position : ContextPosition ρ := .checking
  stop : GrpcStop := .notCalled

/-- A step of the stream thread, with what `Read` returns when it is there, or of the thread that
calls `stop()`. -/
inductive StreamClientAction (μ : Type) where
  | stream (read : Option μ)
  | stop

namespace StreamClient

variable {σ ρ μ : Type}

/-- The loop of a stream thread. -/
def runLoop (request : σ → ρ) (onMessage : σ → μ → σ) (g : StreamClient σ ρ) (read : Option μ) :
    StreamClient σ ρ :=
  match g.position with
  | .checking => { g with position := if g.stopRequested then .leaving else .installing }
  | .installing =>
    { g with ctx := some g.contexts, contexts := g.contexts + 1, position := .opening }
  | .opening =>
    match g.ctx with
    | some context => { g with position := .reading context (request g.object) }
    | none => g
  | .reading _ _ =>
    match read with
    | some message => { g with object := onMessage g.object message }
    | none => { g with position := .finishing }
  | .finishing => { g with position := if g.stopRequested then .leaving else .waiting }
  | .waiting => { g with position := .checking }
  | .leaving => { g with ctx := none, position := .exited }
  | .exited => g

/-- `stop`. -/
def callStop (g : StreamClient σ ρ) : StreamClient σ ρ :=
  match g.stop with
  | .notCalled => { g with stopRequested := true, stop := .requested }
  | .requested => { g with cancelled := g.ctx.toList ++ g.cancelled, stop := .cancelled }
  | .cancelled => { g with stop := .returned }
  | .returned => g

/-- A step of one of the two threads. -/
def step (request : σ → ρ) (onMessage : σ → μ → σ) (g : StreamClient σ ρ) :
    StreamClientAction μ → StreamClient σ ρ
  | .stream read => g.runLoop request onMessage read
  | .stop => g.callStop

end StreamClient

/-! ## The gateway and the feed -/

/-- What a `GrpcGateway` works on in `run_fill_stream`; there is no fill stream left when its queue
of ids was asked for its front while it was empty. -/
structure GrpcGateway where
  strategyId : String
  fills : Option FillStream := some ({} : FillStream).setFillHandler

namespace GrpcGateway

/-- The `StreamFillsRequest`. -/
def request (g : GrpcGateway) : String := g.strategyId

/-- A report is read. -/
def onReport (g : GrpcGateway) (report : V1.ExecutionReport) : GrpcGateway :=
  { g with fills := g.fills.bind fun fills => fills.onReport report }

/-- A step of `run_fill_stream` or of `GrpcGateway::stop`. -/
def step : StreamClient GrpcGateway String → StreamClientAction V1.ExecutionReport →
    StreamClient GrpcGateway String :=
  StreamClient.step request onReport

end GrpcGateway

/-- A `v1::MarketDataEvent`, as `tick_from_proto` and `bar_from_proto` read it. -/
inductive MarketDataEvent where
  | tick (tick : Tick)
  | bar (bar : Bar)
  | notSet

/-- What a `GrpcMarketDataFeed` works on in `run_stream`. -/
structure MarketDataStream where
  feed : GrpcMarketDataFeed
  tickHandler : Bool := true
  barHandler : Bool := true
  /-- The calls of the handlers. -/
  handled : List MarketDataEvent := []

namespace MarketDataStream

/-- The `AdapterMarketDataRequest`. -/
def request (f : MarketDataStream) : List SymbolSubscription := f.feed.subscriptions

/-- An event is read. -/
def onEvent (f : MarketDataStream) : MarketDataEvent → MarketDataStream
  | .tick tick => if f.tickHandler then { f with handled := f.handled ++ [.tick tick] } else f
  | .bar bar => if f.barHandler then { f with handled := f.handled ++ [.bar bar] } else f
  | .notSet => f

/-- A step of `run_stream` or of `GrpcMarketDataFeed::stop`. -/
def step : StreamClient MarketDataStream (List SymbolSubscription) →
    StreamClientAction MarketDataEvent → StreamClient MarketDataStream (List SymbolSubscription) :=
  StreamClient.step request onEvent

end MarketDataStream

/-! ## Cancelled contexts -/

namespace StreamClient

variable {σ ρ μ : Type} {request : σ → ρ} {onMessage : σ → μ → σ} {g : StreamClient σ ρ}

/-- The context that the stream is read from, when the thread is in `Read`. -/
def readContext? (g : StreamClient σ ρ) : Option ℕ :=
  match g.position with
  | .reading context _ => some context
  | .checking | .installing | .opening | .finishing | .waiting | .leaving | .exited => none

/-- `stop()` has returned, and the thread reads from a stream whose context was never cancelled. -/
def Blocked (g : StreamClient σ ρ) : Prop :=
  g.stop = .returned ∧ ∃ context ∈ g.readContext?, context ∉ g.cancelled

/-- The thread has checked that it goes on, and has not installed its context yet. -/
def installing (g : StreamClient σ ρ) : Bool :=
  match g.position with
  | .installing => true
  | .checking | .opening | .reading _ _ | .finishing | .waiting | .leaving | .exited => false

/-- `stop()` does not cancel between the check of the thread and the installation of its context. -/
def CancelsInTime (g : StreamClient σ ρ) : StreamClientAction μ → Prop
  | .stop => g.stop = .requested → g.installing = false
  | .stream _ => True

instance : DecidablePred (CancelsInTime (μ := μ) g)
  | .stop => inferInstanceAs (Decidable (g.stop = .requested → g.installing = false))
  | .stream _ => isTrue trivial

/-- The contexts that the thread can still read from. -/
structure Attached (g : StreamClient σ ρ) : Prop where
  /-- The thread reads from the context that is installed. -/
  reading : ∀ context ∈ g.readContext?, g.ctx = some context
  /-- A stream is only opened with a context. -/
  opened : g.position = .opening → g.ctx ≠ none
  /-- A call of `stop()` begins by asking the thread to stop. -/
  requested : g.stop ≠ .notCalled → g.stopRequested = true
  /-- After the cancellation nothing is installed any more. -/
  notInstalling : g.stop = .cancelled ∨ g.stop = .returned → g.installing = false
  /-- After the cancellation the context that is installed is a cancelled one. -/
  cancelled : g.stop = .cancelled ∨ g.stop = .returned →
    ∀ context, g.ctx = some context → context ∈ g.cancelled

/-- A stream thread that was just started. -/
lemma attached_start (object : σ) : ({ object := object } : StreamClient σ ρ).Attached where
  reading := fun _ h => absurd h (Option.not_mem_none _)
  opened := nofun
  requested := fun h => absurd rfl h
  notInstalling := fun _ => rfl
  cancelled := fun _ _ h => absurd h nofun

namespace Attached

variable (h : g.Attached)

include h

/-- A step of `stop()`. -/
lemma callStop (hintime : g.stop = .requested → g.installing = false) : g.callStop.Attached := by
  unfold StreamClient.callStop
  cases hstop : g.stop with
  | notCalled =>
    exact ⟨h.reading, h.opened, fun _ => rfl, nofun, nofun⟩
  | requested =>
    refine ⟨h.reading, h.opened, fun _ => h.requested (by rw [hstop]; nofun),
      fun _ => hintime hstop, ?_⟩
    intro _ context hcontext
    exact List.mem_append_left _ (Option.mem_toList.mpr hcontext)
  | cancelled =>
    refine ⟨h.reading, h.opened, fun _ => h.requested (by rw [hstop]; nofun), fun _ => ?_,
      fun _ => ?_⟩
    · exact h.notInstalling (Or.inl hstop)
    · exact h.cancelled (Or.inl hstop)
  | returned => exact h

/-- A step of the stream thread. -/
lemma runLoop (read : Option μ) : (g.runLoop request onMessage read).Attached := by
  have hrequested := h.requested
  have hcancelled := h.cancelled
  have hreading := h.reading
  have hinstalling := h.notInstalling
  -- once `stop()` has cancelled a context, the thread is asked to stop
  have hasked : g.stop = .cancelled ∨ g.stop = .returned → g.stopRequested = true := by
    rintro (hstop | hstop) <;> exact hrequested (by rw [hstop]; nofun)
  obtain ⟨object, stopRequested, ctx, contexts, cancelled, position, stop⟩ := g
  cases position with
  | checking =>
    cases stopRequested with
    | false =>
      exact ⟨hreading, nofun, hrequested, fun hstop => absurd (hasked hstop) nofun, hcancelled⟩
    | true => exact ⟨hreading, nofun, hrequested, fun _ => rfl, hcancelled⟩
  | installing =>
    exact ⟨nofun, fun _ => nofun, hrequested, fun _ => rfl,
      fun hstop => absurd (hinstalling hstop) nofun⟩
  | opening =>
    cases ctx with
    | none => exact h
    | some context =>
      exact ⟨fun c hc => hc, nofun, hrequested, fun _ => rfl, hcancelled⟩
  | reading context req =>
    cases read with
    | none => exact ⟨nofun, nofun, hrequested, fun _ => rfl, hcancelled⟩
    | some message => exact ⟨hreading, nofun, hrequested, fun _ => rfl, hcancelled⟩
  | finishing =>
    cases stopRequested with
    | false => exact ⟨hreading, nofun, hrequested, fun _ => rfl, hcancelled⟩
    | true => exact ⟨hreading, nofun, hrequested, fun _ => rfl, hcancelled⟩
  | waiting => exact ⟨hreading, nofun, hrequested, fun _ => rfl, hcancelled⟩
  | leaving => exact ⟨nofun, nofun, hrequested, fun _ => rfl, fun _ _ hc => absurd hc nofun⟩
  | exited => exact h

/-- **Step lemma.**  A step that is in time keeps the thread from contexts that are not
cancelled. -/
theorem step {a : StreamClientAction μ} (ha : g.CancelsInTime a) :
    (g.step request onMessage a).Attached := by
  cases a with
  | stop => exact h.callStop ha
  | stream read => exact h.runLoop read

/-- The thread is not left with a context that is not cancelled. -/
lemma not_blocked : ¬ g.Blocked := by
  rintro ⟨hreturned, context, hcontext, hnot⟩
  exact hnot (h.cancelled (Or.inr hreturned) context (h.reading context hcontext))

end Attached

/-- When `stop()` cancels in time, no run leaves the thread with a context that is not cancelled. -/
lemma not_blocked_of_cancelsInTime (object : σ) {actions : List (StreamClientAction μ)}
    (h : Trajectory.AllSteps (step request onMessage) CancelsInTime { object := object } actions) :
    Trajectory.EveryState (step request onMessage) (fun g => ¬ g.Blocked) { object := object }
      actions :=
  (Trajectory.everyState_of_invariant (I := Attached) (fun _ _ hs ha => hs.step ha)
    (attached_start object) h).mono fun _ hs => hs.not_blocked

end StreamClient

/-- **Streams are not left blocked.**  When `stop()` does not cancel between the check of the stream
thread and the installation of its context, no run of a `GrpcGateway` or of a `GrpcMarketDataFeed`
comes to a state in which `stop()` has returned and the thread reads from a stream whose context was
never cancelled. -/
theorem streams_not_blocked (g : GrpcGateway) (f : MarketDataStream)
    (gatewayActions : List (StreamClientAction V1.ExecutionReport))
    (feedActions : List (StreamClientAction MarketDataEvent)) :
    (Trajectory.AllSteps GrpcGateway.step StreamClient.CancelsInTime { object := g }
      gatewayActions →
        Trajectory.EveryState GrpcGateway.step (fun g => ¬ g.Blocked) { object := g }
          gatewayActions) ∧
      (Trajectory.AllSteps MarketDataStream.step StreamClient.CancelsInTime { object := f }
          feedActions →
        Trajectory.EveryState MarketDataStream.step (fun g => ¬ g.Blocked) { object := f }
          feedActions) :=
  ⟨fun h => StreamClient.not_blocked_of_cancelsInTime g h,
    fun h => StreamClient.not_blocked_of_cancelsInTime f h⟩

/-- A thread that reads when `stop()` is called. -/
theorem streams_not_blocked_reading :
    let actions {μ : Type} : List (StreamClientAction μ) :=
      [.stream none, .stream none, .stream none, .stop, .stop, .stop, .stream none, .stream none]
    Trajectory.EveryState GrpcGateway.step (fun g => ¬ g.Blocked)
        { object := ⟨"S1", some ({} : FillStream).setFillHandler⟩ } actions ∧
      Trajectory.EveryState MarketDataStream.step (fun g => ¬ g.Blocked)
        { object := { feed := ⟨0, []⟩ } } actions := by
  intro actions
  have hruns := streams_not_blocked ⟨"S1", some ({} : FillStream).setFillHandler⟩
    { feed := ⟨0, []⟩ } actions actions
  exact ⟨hruns.1 (by decide +kernel), hruns.2 (by decide +kernel)⟩

/-- The thread has checked that it goes on when `stop()` is called, and reads from a new context
when it has returned. -/
theorem streams_blocked :
    (¬ ∀ (g : GrpcGateway) (actions : List (StreamClientAction V1.ExecutionReport)),
      Trajectory.EveryState GrpcGateway.step (fun g => ¬ g.Blocked) { object := g } actions) ∧
      ¬ ∀ (f : MarketDataStream) (actions : List (StreamClientAction MarketDataEvent)),
        Trajectory.EveryState MarketDataStream.step (fun g => ¬ g.Blocked) { object := f }
          actions := by
  refine ⟨fun h => ?_, fun h => ?_⟩
  · have hlast := (h ⟨"S1", some ({} : FillStream).setFillHandler⟩
      [.stream none, .stop, .stop, .stop, .stream none, .stream none]).last
    exact hlast ⟨rfl, 0, rfl, List.not_mem_nil⟩
  · have hlast := (h { feed := ⟨0, []⟩ }
      [.stream none, .stop, .stop, .stop, .stream none, .stream none]).last
    exact hlast ⟨rfl, 0, rfl, List.not_mem_nil⟩

end Quarcc
