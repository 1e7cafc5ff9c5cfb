import QuarccEngine.Contracts
import Mathlib.Data.List.Basic

/-!
# How the gateways stop

The threads of a gateway that produce fills, next to the call of `stop()`.  `PaperGateway` joins its
threads in `stop()`: first the simulation, then the dispatcher, which empties its queue before it
ends.  `GrpcGateway` only asks its stream thread to stop and cancels the call it reads from; the
thread goes on from wherever it is.

What the gateways read from the outside (the fills that a poll generates, the reports that `Read`
returns) belongs to the step.
-/

namespace Quarcc

/-- The threads of a gateway, with the thread that calls `stop()`. -/
structure GatewayThreads (γ ι : Type) where
  /-- A step of one of the threads, and the report that it passes to the fill handler. -/
  step : γ → ι → γ × Option V1.ExecutionReport
  /-- `stop()` has returned. -/
  returned : γ → Bool
  /-- It is called once. -/
  stays : ∀ g i, returned g = true → returned (step g i).1 = true

/-! ## The paper gateway -/

/-- Where the simulation thread is. -/
inductive SimulationPosition where
  /-- At the head of its loop. -/
  | checking
  /-- At the end of `simulate_fills`, with the reports that are not yet enqueued. -/
  | enqueuing (fills : List V1.ExecutionReport)
  | sleeping
  | ended
  deriving DecidableEq

/-- Where the dispatcher thread of `GatewayDispatchBase` is. -/
inductive ReportDispatcherPosition where
  | waiting
  /-- It has a report out of the queue. -/
  | holding (report : V1.ExecutionReport)
  | ended
  deriving DecidableEq

/-- How far `PaperGateway::stop` is. -/
inductive PaperStop where
  | notCalled
  /-- `running_` is false. -/
  | cleared
  /-- The simulation thread is joined. -/
  | joined
  /-- The dispatcher is asked to stop. -/
  | requested
  /-- The dispatcher is joined. -/
  | returned
  deriving DecidableEq

/-- The threads of a `PaperGateway` that was started. -/
structure PaperStopping where
  running : Bool := true
  simulation : SimulationPosition := .checking
  reportsQueue : List V1.ExecutionReport := []
  dispatcher : ReportDispatcherPosition := .waiting
  stopRequested : Bool := false
  stop : PaperStop := .notCalled

/-- A step of the simulation thread, of the dispatcher thread, or of the thread that stops them. -/
inductive PaperStoppingAction where
  | simulate (fills : List V1.ExecutionReport)
  | dispatch
  | stop

namespace PaperStopping

/-- The simulation thread; `fills` are the reports that `simulate_fills` generates. -/
def simulate (g : PaperStopping) (fills : List V1.ExecutionReport) : PaperStopping :=
  match g.simulation with
  | .checking =>
    if g.running then { g with simulation := .enqueuing fills } else { g with simulation := .ended }
  | .enqueuing (report :: rest) =>
    { g with reportsQueue := g.reportsQueue ++ [report], simulation := .enqueuing rest }
  | .enqueuing [] => { g with simulation := .sleeping }
  | .sleeping => { g with simulation := .checking }
  | .ended => g

/-- The dispatcher thread: it ends when it is asked to and its queue is empty. -/
def dispatch (g : PaperStopping) : PaperStopping × Option V1.ExecutionReport :=
  match g.dispatcher with
  | .waiting =>
    match g.reportsQueue with
    | [] => if g.stopRequested then ({ g with dispatcher := .ended }, none) else (g, none)
    | report :: rest => ({ g with reportsQueue := rest, dispatcher := .holding report }, none)
  | .holding report => ({ g with dispatcher := .waiting }, some report)
  | .ended => (g, none)

/-- `PaperGateway::stop`, up to its next wait; a join lets the caller on when the thread has
ended. -/
def callStop (g : PaperStopping) : PaperStopping :=
  match g.stop with
  | .notCalled => { g with running := false, stop := .cleared }
  | .cleared => if g.simulation = .ended then { g with stop := .joined } else g
  | .joined => { g with stopRequested := true, stop := .requested }
  | .requested => if g.dispatcher = .ended then { g with stop := .returned } else g
  | .returned => g

/-- A step. -/
def step (g : PaperStopping) : PaperStoppingAction → PaperStopping × Option V1.ExecutionReport
  | .simulate fills => (g.simulate fills, none)
  | .dispatch => g.dispatch
  | .stop => (g.callStop, none)

/-- The threads of a paper gateway. -/
def threads : GatewayThreads PaperStopping PaperStoppingAction where
  step := PaperStopping.step
  returned := fun g => g.stop = .returned
  stays := by
    intro g a h
    have hstop : g.stop = .returned := of_decide_eq_true h
    have hsame : (g.step a).1.stop = .returned := by
      obtain ⟨running, simulation, reportsQueue, dispatcher, stopRequested, stop⟩ := g
      subst hstop
      cases a with
      | stop => rfl
      | simulate fills =>
        unfold PaperStopping.step PaperStopping.simulate
        dsimp only
        split
        · split_ifs <;> rfl
        all_goals rfl
      | dispatch =>
        unfold PaperStopping.step PaperStopping.dispatch
        dsimp only
        split
        · split
          · split_ifs <;> rfl
          · rfl
        all_goals rfl
    exact decide_eq_true hsame

/-- `stop()` has joined the simulation thread. -/
def SimulationJoined (g : PaperStopping) : Prop :=
  g.stop = .joined ∨ g.stop = .requested ∨ g.stop = .returned

/-- What is over at which point of `stop()`.  No report is left when the dispatcher has ended. -/
structure Ordered (g : PaperStopping) : Prop where
  simulation : g.SimulationJoined → g.simulation = .ended
  requested : g.stopRequested = true → g.SimulationJoined
  dispatcher : g.dispatcher = .ended → g.stopRequested = true ∧ g.reportsQueue = []
  returned : g.stop = .returned → g.dispatcher = .ended

variable {g : PaperStopping}

/-- A step of the simulation thread. -/
lemma Ordered.simulate (h : g.Ordered) (fills : List V1.ExecutionReport) :
    (g.simulate fills).Ordered := by
  obtain ⟨running, simulation, reportsQueue, dispatcher, stopRequested, stop⟩ := g
  -- a thread that has not ended is not joined, so the dispatcher has not ended either
  have hlive : simulation ≠ .ended →
      ¬ (⟨running, simulation, reportsQueue, dispatcher, stopRequested, stop⟩ :
        PaperStopping).SimulationJoined ∧ dispatcher ≠ .ended := by
    intro hsimulation
    have hnot := mt h.simulation hsimulation
    exact ⟨hnot, fun hended => hnot (h.requested (h.dispatcher hended).1)⟩
  cases simulation with
  | ended => exact h
  | checking =>
    obtain ⟨hnot, hended⟩ := hlive nofun
    cases running with
    | true => exact ⟨fun hj => absurd hj hnot, h.requested, h.dispatcher, h.returned⟩
    | false => exact ⟨fun _ => rfl, h.requested, h.dispatcher, h.returned⟩
  | sleeping =>
    obtain ⟨hnot, hended⟩ := hlive nofun
    exact ⟨fun hj => absurd hj hnot, h.requested, h.dispatcher, h.returned⟩
  | enqueuing left =>
    obtain ⟨hnot, hended⟩ := hlive nofun
    cases left with
    | nil => exact ⟨fun hj => absurd hj hnot, h.requested, h.dispatcher, h.returned⟩
    | cons report rest =>
      exact ⟨fun hj => absurd hj hnot, h.requested, fun he => absurd he hended, h.returned⟩

/-- A step of the dispatcher thread. -/
lemma Ordered.dispatch (h : g.Ordered) : g.dispatch.1.Ordered := by
  obtain ⟨running, simulation, reportsQueue, dispatcher, stopRequested, stop⟩ := g
  cases dispatcher with
  | ended => exact h
  | holding report =>
    exact ⟨h.simulation, h.requested, nofun, fun hr => absurd (h.returned hr) nofun⟩
  | waiting =>
    cases reportsQueue with
    | cons report rest =>
      exact ⟨h.simulation, h.requested, nofun, fun hr => absurd (h.returned hr) nofun⟩
    | nil =>
      cases stopRequested with
      | true => exact ⟨h.simulation, h.requested, fun _ => ⟨rfl, rfl⟩, fun _ => rfl⟩
      | false => exact h

/-- A step of `stop()`. -/
lemma Ordered.callStop (h : g.Ordered) : g.callStop.Ordered := by
  obtain ⟨running, simulation, reportsQueue, dispatcher, stopRequested, stop⟩ := g
  unfold PaperStopping.callStop
  cases stop with
  | returned => exact h
  | notCalled =>
    have hnot : stopRequested ≠ true := fun hr => by
      rcases h.requested hr with hstop | hstop | hstop <;> cases hstop
    refine ⟨?_, fun hr => absurd hr hnot, h.dispatcher, nofun⟩
    rintro (hstop | hstop | hstop) <;> cases hstop
  | cleared =>
    dsimp only
    split_ifs with hended
    · exact ⟨fun _ => hended, fun _ => Or.inl rfl, h.dispatcher, nofun⟩
    · exact h
  | joined =>
    have hended := h.simulation (Or.inl rfl)
    exact ⟨fun _ => hended, fun _ => Or.inr (Or.inl rfl), fun he => ⟨rfl, (h.dispatcher he).2⟩,
      nofun⟩
  | requested =>
    have hended := h.simulation (Or.inr (Or.inl rfl))
    dsimp only
    split_ifs with hdispatcher
    · exact ⟨fun _ => hended, fun _ => Or.inr (Or.inr rfl), h.dispatcher, fun _ => hdispatcher⟩
    · exact h

/-- **Step lemma.**  What is over stays over. -/
theorem Ordered.step (h : g.Ordered) (a : PaperStoppingAction) : (g.step a).1.Ordered := by
  cases a with
  | simulate fills => exact h.simulate fills
  | dispatch => exact h.dispatch
  | stop => exact h.callStop

/-- After `stop()` nothing calls the handler. -/
lemma Ordered.quiet (h : g.Ordered) (hreturned : g.stop = .returned) (a : PaperStoppingAction) :
    (g.step a).2 = none := by
  cases a with
  | simulate fills => rfl
  | stop => rfl
  | dispatch =>
    unfold PaperStopping.step PaperStopping.dispatch
    rw [h.returned hreturned]

/-- The threads that were just started. -/
lemma ordered_start : ({} : PaperStopping).Ordered := by
  refine ⟨?_, nofun, nofun, nofun⟩
  rintro (hstop | hstop | hstop) <;> cases hstop

end PaperStopping

/-! ## The gateway to an adapter -/

/-- `kMaxSeenIds`. -/
def maxSeenIds : ℕ := 10000

/-- Where the stream thread of a `GrpcGateway` is in `run_fill_stream`. -/
inductive FillStreamPosition where
  /-- At the head of the outer loop. -/
  | checking
  /-- It goes round the loop, and has made no context yet. -/
  | connecting
  /-- In `Read`. -/
  | reading
  /-- `Read` has returned the report. -/
  | received (report : V1.ExecutionReport)
  /-- The report is not a duplicate, and is passed to the handler next. -/
  | passing (report : V1.ExecutionReport)
  /-- `Read` has failed. -/
  | finishing
  /-- In the wait before it reconnects. -/
  | waiting
  /-- It has left the loop. -/
  | leaving
  | exited
  deriving DecidableEq

/-- How far `GrpcGateway::stop` is. -/
inductive GrpcStop where
  | notCalled
  /-- The stream thread is asked to stop. -/
  | requested
  /-- The call of the context, if there is one, is cancelled. -/
  | cancelled
  /-- The stream thread has been notified. -/
  | returned
  deriving DecidableEq

/-- The stream thread of a `GrpcGateway` that was started. -/
structure GrpcStopping where
  stopRequested : Bool := false
  /-- `ctx_`, and whether `TryCancel` was called on it. -/
  ctx : Option Bool := none
  stream : FillStreamPosition := .checking
  /-- `seen_execution_ids_`, in the order of `seen_id_order_`. -/
  seenIds : List String := []
  stop : GrpcStop := .notCalled

/-- A step of the stream thread, with what `Read` returns when it is there, or of the thread that
calls `stop()`.  A cancelled call may still return reports that have arrived. -/
inductive GrpcStoppingAction where
  | stream (read : Option V1.ExecutionReport)
  | stop

namespace GrpcStopping

/-- A report with an execution id that was seen before. -/
def Duplicate (g : GrpcStopping) (report : V1.ExecutionReport) : Prop :=
  report.executionId ≠ "" ∧ report.executionId ∈ g.seenIds

instance (g : GrpcStopping) (report : V1.ExecutionReport) : Decidable (g.Duplicate report) :=
  inferInstanceAs (Decidable (_ ∧ _))

/-- The execution ids after a report that is no duplicate; the oldest one makes room. -/
def remember (g : GrpcStopping) (report : V1.ExecutionReport) : List String :=
  if report.executionId = "" then g.seenIds
  else if maxSeenIds ≤ g.seenIds.length then g.seenIds.drop 1 ++ [report.executionId]
  else g.seenIds ++ [report.executionId]

/-- `run_fill_stream`. -/
def runFillStream (g : GrpcStopping) (read : Option V1.ExecutionReport) :
    GrpcStopping × Option V1.ExecutionReport :=
  match g.stream with
  | .checking =>
    ({ g with stream := if g.stopRequested then .leaving else .connecting }, none)
  | .connecting => ({ g with ctx := some false, stream := .reading }, none)
  | .reading =>
    match read with
    | some report => ({ g with stream := .received report }, none)
    | none => ({ g with stream := .finishing }, none)
  | .received report =>
    if g.Duplicate report then ({ g with stream := .reading }, none)
    else ({ g with seenIds := g.remember report, stream := .passing report }, none)
  | .passing report => ({ g with stream := .reading }, some report)
  | .finishing => ({ g with stream := if g.stopRequested then .leaving else .waiting }, none)
  | .waiting => ({ g with stream := .checking }, none)
  | .leaving => ({ g with ctx := none, stream := .exited }, none)
  | .exited => (g, none)

/-- `GrpcGateway::stop`. -/
def callStop (g : GrpcStopping) : GrpcStopping :=
  match g.stop with
  | .notCalled => { g with stopRequested := true, stop := .requested }
  | .requested => { g with ctx := g.ctx.map fun _ => true, stop := .cancelled }
  | .cancelled => { g with stop := .returned }
  | .returned => g

/-- A step. -/
def step (g : GrpcStopping) : GrpcStoppingAction → GrpcStopping × Option V1.ExecutionReport
  | .stream read => g.runFillStream read
  | .stop => (g.callStop, none)

/-- The stream thread does not touch the call of `stop()`. -/
lemma stop_runFillStream (g : GrpcStopping) (read : Option V1.ExecutionReport) :
    (g.runFillStream read).1.stop = g.stop := by
  unfold runFillStream
  cases g.stream with
  | reading => cases read <;> rfl
  | received report =>
    dsimp only
    split_ifs <;> rfl
  | _ => rfl

/-- The threads of a gateway to an adapter. -/
def threads : GatewayThreads GrpcStopping GrpcStoppingAction where
  step := GrpcStopping.step
  returned := fun g => g.stop = .returned
  stays := by
    intro g a h
    have hstop : g.stop = .returned := of_decide_eq_true h
    apply decide_eq_true
    cases a with
    | stream read => exact (g.stop_runFillStream read).trans hstop
    | stop =>
      unfold GrpcStopping.step callStop
      dsimp only
      rw [hstop]
      exact hstop

/-- The stream thread has a report in its hands that it will pass to the handler. -/
def holding (g : GrpcStopping) : Bool :=
  match g.stream with
  | .received report => !decide (g.Duplicate report)
  | .passing _ => true
  | .checking | .connecting | .reading | .finishing | .waiting | .leaving | .exited => false

/-- Where a step is no danger: `stop()` returns while the stream thread holds no report that it will
pass on, and after that `Read` returns none, or a duplicate. -/
def InTime (g : GrpcStopping) : GrpcStoppingAction → Prop
  | .stop => g.stop = .cancelled → g.holding = false
  | .stream read => g.stop = .returned → g.stream = .reading → ∀ report ∈ read, g.Duplicate report

instance (g : GrpcStopping) : DecidablePred g.InTime
  | .stop => inferInstanceAs (Decidable (g.stop = .cancelled → g.holding = false))
  | .stream read =>
    inferInstanceAs
      (Decidable (g.stop = .returned → g.stream = .reading → ∀ report ∈ read, g.Duplicate report))

/-- After `stop()` the stream thread holds no report that it will pass on. -/
def Quiet (g : GrpcStopping) : Prop := g.stop = .returned → g.holding = false

variable {g : GrpcStopping}

/-- **Step lemma.**  A step that is in time keeps the stream thread quiet after `stop()`. -/
theorem Quiet.step (h : g.Quiet) {a : GrpcStoppingAction} (ha : g.InTime a) :
    (g.step a).1.Quiet := by
  cases a with
  | stop =>
    obtain ⟨stopRequested, ctx, stream, seenIds, stop⟩ := g
    cases stop with
    | notCalled => exact fun hr => absurd hr nofun
    | requested => exact fun hr => absurd hr nofun
    | cancelled => exact fun _ => ha rfl
    | returned => exact h
  | stream read =>
    intro hreturned
    have hstop : g.stop = .returned := (g.stop_runFillStream read).symm.trans hreturned
    have hnot := h hstop
    have hread := ha hstop
    obtain ⟨stopRequested, ctx, stream, seenIds, stop⟩ := g
    cases stream with
    | checking => cases stopRequested <;> rfl
    | connecting => rfl
    | reading =>
      cases read with
      | none => rfl
      | some report =>
        have hduplicate := hread rfl report rfl
        exact (congrArg (!·) (decide_eq_true hduplicate))
    | received report =>
      have hduplicate : ¬ ¬ (⟨stopRequested, ctx, .received report, seenIds, stop⟩ :
          GrpcStopping).Duplicate report := by
        intro hnew
        exact Bool.false_ne_true (hnot.symm.trans (by simp [holding, hnew]))
      unfold GrpcStopping.step runFillStream
      dsimp only
      rw [if_pos (not_not.mp hduplicate)]
      rfl
    | passing report => cases hnot
    | finishing => cases stopRequested <;> rfl
    | waiting => rfl
    | leaving => rfl
    | exited => rfl

/-- A thread that was just started. -/
lemma quiet_start : ({} : GrpcStopping).Quiet := fun h => absurd h nofun

/-- A thread that is quiet does not call the handler. -/
lemma Quiet.none (h : g.Quiet) (hreturned : g.stop = .returned) (a : GrpcStoppingAction) :
    (g.step a).2 = none := by
  have hnot := h hreturned
  cases a with
  | stop => rfl
  | stream read =>
    obtain ⟨stopRequested, ctx, stream, seenIds, stop⟩ := g
    cases stream with
    | reading => cases read <;> rfl
    | received report =>
      unfold GrpcStopping.step runFillStream
      dsimp only
      split_ifs <;> rfl
    | passing report => cases hnot
    | _ => rfl

end GrpcStopping

end Quarcc
