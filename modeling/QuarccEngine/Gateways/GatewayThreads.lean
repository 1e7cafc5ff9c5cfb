import QuarccEngine.Gateways.PaperJoins
import QuarccEngine.Gateways.StreamContexts

/-!
# The threads of a gateway

A `PaperGateway` has the simulation thread and the dispatcher, which its `stop()` joins.  A
`GrpcGateway` has the stream thread; its `stop()` returns at once, and the destructor joins the
thread.  In both cases something is waited for, and what is left of the wait is one number that the
steps of these threads make smaller.

`Read` waits for the adapter until somebody cancels its context, so the stream thread ends only if
`stop()` has cancelled in time; the dispatcher ends only if `stop()` has notified it in time.
-/

namespace Quarcc

/-! ## The stream thread -/

namespace StreamClient

variable {σ ρ μ : Type} {request : σ → ρ} {onMessage : σ → μ → σ} {g : StreamClient σ ρ}

/-- The thread is in `Read`, and its context was not cancelled. -/
def Waits (g : StreamClient σ ρ) : Prop := ∃ context ∈ g.readContext?, context ∉ g.cancelled

instance (g : StreamClient σ ρ) : Decidable g.Waits :=
  match h : g.readContext? with
  | none => isFalse fun ⟨_, hcontext, _⟩ => absurd (h ▸ hcontext) (Option.not_mem_none _)
  | some context =>
    decidable_of_iff (context ∉ g.cancelled)
      ⟨fun hnot => ⟨context, h, hnot⟩, fun ⟨_, hcontext, hnot⟩ =>
        Option.some.inj (h.symm.trans hcontext) ▸ hnot⟩

/-- The thread has ended. -/
def Exited (g : StreamClient σ ρ) : Prop := g.position matches .exited

instance (g : StreamClient σ ρ) : Decidable g.Exited := inferInstanceAs (Decidable (_ = true))

/-- How many steps the thread takes until it has ended, once it is asked to stop and reads nothing
any more. -/
def left (g : StreamClient σ ρ) : ℕ :=
  match g.position with
  | .installing => 5
  | .opening => 4
  | .reading _ _ | .waiting => 3
  | .checking | .finishing => 2
  | .leaving => 1
  | .exited => 0

/-- The calls of `stop()` that are left. -/
def stopsLeft (g : StreamClient σ ρ) : ℕ :=
  match g.stop with
  | .notCalled => 3
  | .requested => 2
  | .cancelled => 1
  | .returned => 0

/-- `stop()` waits for nothing. -/
lemma stopsLeft_callStop (h : g.stop ≠ .returned) : g.callStop.stopsLeft < g.stopsLeft := by
  unfold stopsLeft callStop
  cases hstop : g.stop with
  | returned => exact absurd hstop h
  | notCalled | requested | cancelled => exact Nat.lt_succ_self _

/-- The thread leaves the call of `stop()` alone. -/
lemma stop_runLoop (g : StreamClient σ ρ) (read : Option μ) :
    (g.runLoop request onMessage read).stop = g.stop := by
  unfold runLoop
  split
  case h_3 => split <;> rfl
  case h_4 => split <;> rfl
  all_goals rfl

/-- A thread that has ended does nothing. -/
lemma runLoop_of_exited (h : g.Exited) (read : Option μ) :
    g.runLoop request onMessage read = g := by
  obtain ⟨object, stopRequested, ctx, contexts, cancelled, position, stop⟩ := g
  cases position with
  | exited => rfl
  | _ => cases h

/-- Once `stop()` has returned, a step brings the thread nearer to its end, unless it reads. -/
lemma Attached.left_runLoop (h : g.Attached) (hreturned : g.stop = .returned) {read : Option μ}
    (hread : read = none ∨ g.readContext? = none) (hexited : ¬ g.Exited) :
    (g.runLoop request onMessage read).left < g.left := by
  have hrequested : g.stopRequested = true := by
    apply h.requested
    rw [hreturned]
    nofun
  have hopened := h.opened
  obtain ⟨object, stopRequested, ctx, contexts, cancelled, position, stop⟩ := g
  obtain rfl : stopRequested = true := hrequested
  cases position with
  | opening =>
    cases ctx with
    | none => exact absurd rfl (hopened rfl)
    | some context => exact Nat.lt_succ_self _
  | reading context req =>
    obtain rfl : read = none := hread.resolve_right nofun
    exact Nat.lt_succ_self _
  | exited => exact absurd rfl hexited
  | checking | installing | finishing | waiting | leaving => exact Nat.lt_succ_self _

end StreamClient

/-- The report that a step of `run_fill_stream` passes to the fill handler. -/
def GrpcGateway.passes (g : StreamClient GrpcGateway String) :
    StreamClientAction V1.ExecutionReport → Option V1.ExecutionReport
  | .stream (some report) =>
    if g.readContext? = none then none else g.object.fills.bind fun fills => fills.passes report
  | .stream none | .stop => none

/-- The handler gets what a step passes to it. -/
lemma GrpcGateway.forwarded_step {g : StreamClient GrpcGateway String} {fills : FillStream}
    (hfills : g.object.fills = some fills) (hfilters : fills.Filters fills.forwarded)
    (a : StreamClientAction V1.ExecutionReport) :
    ∃ fills', (GrpcGateway.step g a).object.fills = some fills' ∧
      fills'.Filters fills'.forwarded ∧
      fills'.forwarded = fills.forwarded ++ (GrpcGateway.passes g a).toList := by
  have hnothing : (GrpcGateway.step g a).object = g.object → GrpcGateway.passes g a = none →
      ∃ fills', (GrpcGateway.step g a).object.fills = some fills' ∧
        fills'.Filters fills'.forwarded ∧
        fills'.forwarded = fills.forwarded ++ (GrpcGateway.passes g a).toList := by
    intro hobject hpasses
    rw [hobject, hpasses]
    exact ⟨fills, hfills, hfilters, (List.append_nil _).symm⟩
  obtain ⟨object, stopRequested, ctx, contexts, cancelled, position, stop⟩ := g
  cases a with
  | stop => cases stop <;> exact hnothing rfl rfl
  | stream read =>
    cases position with
    | reading context req =>
      cases read with
      | none => exact hnothing rfl rfl
      | some report =>
        obtain ⟨fills', hread, hfilters'⟩ := hfilters.onReport report
        have hstep : object.fills.bind (fun fills => fills.onReport report) = some fills' := by
          rw [show object.fills = some fills from hfills, Option.bind_some, hread]
        refine ⟨fills', hstep, hfilters'.forwarded.symm ▸ hfilters', ?_⟩
        rw [FillStream.forwarded_onReport hread]
        simp [GrpcGateway.passes, StreamClient.readContext?, show object.fills = _ from hfills]
    | opening => cases ctx <;> cases read <;> exact hnothing rfl rfl
    | checking | installing | finishing | waiting | leaving | exited =>
      cases read <;> exact hnothing rfl rfl

/-- **What a `GrpcGateway` passes on.**  In every run of the stream thread and of `stop()`, the fill
handler has got what the loop has forwarded. -/
theorem GrpcGateway.forwarded_run {g : StreamClient GrpcGateway String} {fills : FillStream}
    (hfills : g.object.fills = some fills) (hfilters : fills.Filters fills.forwarded)
    (actions : List (StreamClientAction V1.ExecutionReport)) :
    ∃ fills', (Trajectory.run GrpcGateway.step g actions).object.fills = some fills' ∧
      fills'.forwarded = fills.forwarded ++
        (Trajectory.outputs GrpcGateway.step GrpcGateway.passes g actions).filterMap id := by
  induction actions generalizing g fills with
  | nil => exact ⟨fills, hfills, (List.append_nil _).symm⟩
  | cons a actions ih =>
    obtain ⟨fills₁, hfills₁, hfilters₁, hforwarded₁⟩ := forwarded_step hfills hfilters a
    obtain ⟨fills', hfills', hforwarded⟩ := ih hfills₁ hfilters₁
    refine ⟨fills', hfills', ?_⟩
    rw [hforwarded, hforwarded₁, List.append_assoc]
    congr 1
    change (GrpcGateway.passes g a).toList ++ _ =
      (GrpcGateway.passes g a :: Trajectory.outputs _ _ (GrpcGateway.step g a) actions).filterMap id
    rw [List.filterMap_cons]
    cases GrpcGateway.passes g a <;> rfl

/-! ## The gateways -/

/-- The gateways that an order manager may have. -/
inductive GatewayKind where
  | paper
  | grpc (strategyId : String)

/-- A gateway that was started, and the call of its `stop()`. -/
inductive Gateway where
  | paper (g : PaperJoins)
  | grpc (g : StreamClient GrpcGateway String)

/-- A step of a thread of a gateway. -/
inductive GatewayAction where
  /-- The simulation thread. -/
  | simulate (fills : List V1.ExecutionReport)
  /-- The dispatcher. -/
  | dispatch
  /-- A spurious wake-up of the dispatcher. -/
  | wake
  /-- The stream thread, with what `Read` returns when it is there. -/
  | stream (read : Option V1.ExecutionReport)
  /-- The adapter ends the stream. -/
  | disconnect

namespace GatewayAction

/-- The step of a `PaperGateway`, if it is one. -/
def paper? : GatewayAction → Option PaperJoinsAction
  | simulate fills => some (.simulate fills)
  | dispatch => some .dispatch
  | wake => some .wake
  | stream _ | disconnect => none

/-- The step of a stream thread, if it is one.  `Read` waits for the adapter. -/
def stream? (g : StreamClient GrpcGateway String) :
    GatewayAction → Option (StreamClientAction V1.ExecutionReport)
  | stream read => if g.Waits ∧ read = none then none else some (.stream read)
  | disconnect => if g.readContext? = none then none else some (.stream none)
  | simulate _ | dispatch | wake => none

end GatewayAction

namespace Gateway

/-- The gateway after its `start()`. -/
def start : GatewayKind → Gateway
  | .paper => .paper {}
  | .grpc strategyId => .grpc { object := ⟨strategyId, some ({} : FillStream).setFillHandler⟩ }

/-- A step of one of the threads. -/
def step : Gateway → GatewayAction → Gateway
  | paper g, a => paper (a.paper?.elim g g.step)
  | grpc g, a => grpc ((a.stream? g).elim g (GrpcGateway.step g))

/-- The report that the step passes to the fill handler. -/
def passes : Gateway → GatewayAction → Option V1.ExecutionReport
  | paper g, a => a.paper?.bind g.passes
  | grpc g, a => (a.stream? g).bind (GrpcGateway.passes g)

/-- `stop`, up to its next wait. -/
def callStop : Gateway → Gateway
  | paper g => paper g.callStop
  | grpc g => grpc g.callStop

/-- `stop()` has returned. -/
def Returned : Gateway → Prop
  | paper g => g.Returned
  | grpc g => g.stop = .returned

instance : DecidablePred Returned
  | paper g => inferInstanceAs (Decidable g.Returned)
  | grpc g => inferInstanceAs (Decidable (g.stop = .returned))

/-- The threads have ended, so that the destructor is through. -/
def Ended : Gateway → Prop
  | paper g => g.Returned
  | grpc g => g.Exited

instance : DecidablePred Ended
  | paper g => inferInstanceAs (Decidable g.Returned)
  | grpc g => inferInstanceAs (Decidable g.Exited)

/-- `stop()` neither notifies a dispatcher between its test and its block, nor cancels between the
check of a stream thread and the installation of its context. -/
def StopsInTime : Gateway → Prop
  | paper g => g.NotifiesInTime
  | grpc g => g.CancelsInTime (StreamClientAction.stop (μ := V1.ExecutionReport))

instance : DecidablePred StopsInTime
  | paper g => inferInstanceAs (Decidable g.NotifiesInTime)
  | grpc g =>
    inferInstanceAs (Decidable
      (g.CancelsInTime (StreamClientAction.stop (μ := V1.ExecutionReport))))

/-- The dispatcher wakes up spuriously while the gateway is stopped. -/
def Wakes : Gateway → GatewayAction → Prop
  | paper g, a => a = .wake ∧ g.running = false
  | grpc _, _ => False

/-- `Read` returns a report. -/
def Reads : Gateway → GatewayAction → Prop
  | grpc g, .stream (some _) => g.readContext? ≠ none
  | _, _ => False

instance (g : Gateway) (a : GatewayAction) : Decidable (g.Reads a) :=
  match g, a with
  | grpc g, .stream (some _) => inferInstanceAs (Decidable (g.readContext? ≠ none))
  | grpc _, .stream none | grpc _, .simulate _ | grpc _, .dispatch | grpc _, .wake
  | grpc _, .disconnect | paper _, _ => isFalse not_false

/-- The threads are as `stop()` and the destructor find them. -/
def Sound : Gateway → Prop
  | paper g => g.Sound
  | grpc g => g.Attached

variable {g : Gateway} {a : GatewayAction}

lemma sound_start (kind : GatewayKind) : (start kind).Sound := by
  cases kind with
  | paper => exact PaperJoins.sound_start
  | grpc strategyId => exact StreamClient.attached_start _

/-- A step of a thread of a `PaperGateway` is none of `stop()`. -/
lemma ne_stop_of_paper? {b : PaperJoinsAction} (h : a.paper? = some b) : b ≠ .stop := by
  cases a <;> cases h <;> nofun

/-- A step of a stream thread: it reads what the adapter gives it, or nothing. -/
lemma eq_stream_of_stream? {g : StreamClient GrpcGateway String}
    {b : StreamClientAction V1.ExecutionReport} (h : a.stream? g = some b) :
    ∃ read, b = .stream read ∧ (a = .stream read ∨ read = none) := by
  cases a with
  | stream read =>
    simp only [GatewayAction.stream?] at h
    split_ifs at h
    exact ⟨read, (Option.some.inj h).symm, Or.inl rfl⟩
  | disconnect =>
    simp only [GatewayAction.stream?] at h
    split_ifs at h
    exact ⟨none, (Option.some.inj h).symm, Or.inr rfl⟩
  | simulate _ | dispatch | wake => cases h

/-- A step of one of the threads keeps the gateway sound. -/
lemma Sound.step (h : g.Sound) (a : GatewayAction) : (g.step a).Sound := by
  cases g with
  | paper g =>
    change PaperJoins.Sound (a.paper?.elim g g.step)
    cases ha : a.paper? with
    | none => exact h
    | some b => exact PaperJoins.Sound.step h fun hstop => absurd hstop (ne_stop_of_paper? ha)
  | grpc g =>
    change StreamClient.Attached ((a.stream? g).elim g (GrpcGateway.step g))
    cases ha : a.stream? g with
    | none => exact h
    | some b =>
      obtain ⟨read, rfl, -⟩ := eq_stream_of_stream? ha
      exact StreamClient.Attached.runLoop h read

/-- So does a call of `stop()` that is in time. -/
lemma Sound.callStop (h : g.Sound) (hintime : g.StopsInTime) : g.callStop.Sound := by
  cases g with
  | paper g => exact PaperJoins.Sound.step (a := .stop) h fun _ => hintime
  | grpc g => exact StreamClient.Attached.callStop h hintime

/-- The threads leave the call of `stop()` alone. -/
lemma returned_step (g : Gateway) (a : GatewayAction) : (g.step a).Returned ↔ g.Returned := by
  cases g with
  | paper g =>
    change PaperJoins.Returned (a.paper?.elim g g.step) ↔ g.Returned
    cases ha : a.paper? with
    | none => rfl
    | some b =>
      obtain ⟨-, -, hstop⟩ := PaperJoins.stop_step (g := g) (ne_stop_of_paper? ha)
      unfold PaperJoins.Returned
      rw [Option.elim_some, hstop]
  | grpc g =>
    change StreamClient.stop ((a.stream? g).elim g (GrpcGateway.step g)) = _ ↔ g.stop = _
    cases ha : a.stream? g with
    | none => rfl
    | some b =>
      obtain ⟨read, rfl, -⟩ := eq_stream_of_stream? ha
      rw [Option.elim_some]
      exact Eq.congr_left (g.stop_runLoop read)

/-- Threads that have ended do not begin again. -/
lemma Ended.step (h : g.Ended) (a : GatewayAction) : (g.step a).Ended := by
  cases g with
  | paper g => exact (returned_step (paper g) a).mpr h
  | grpc g =>
    change StreamClient.Exited ((a.stream? g).elim g (GrpcGateway.step g))
    cases ha : a.stream? g with
    | none => exact h
    | some b =>
      obtain ⟨read, rfl, -⟩ := eq_stream_of_stream? ha
      have hsame : GrpcGateway.step g (.stream read) = g :=
        StreamClient.runLoop_of_exited h read
      rw [Option.elim_some, hsame]
      exact h

/-- Nor do they when `stop()` goes on. -/
lemma Ended.callStop (h : g.Ended) (hreturned : ¬ g.Returned) : g.callStop.Ended := by
  cases g with
  | paper g => exact absurd h hreturned
  | grpc g =>
    obtain ⟨object, stopRequested, ctx, contexts, cancelled, position, stop⟩ := g
    cases stop <;> exact h

/-- Once `stop()` has returned, no report is passed on but one that is read. -/
lemma Sound.quiet (h : g.Sound) (hreturned : g.Returned) (hreads : ¬ g.Reads a) :
    g.passes a = none := by
  cases g with
  | paper g =>
    simp only [passes]
    cases ha : a.paper? with
    | none => rfl
    | some b => exact PaperJoins.Sound.quiet h hreturned b
  | grpc g =>
    simp only [passes]
    cases ha : a.stream? g with
    | none => rfl
    | some b =>
      obtain ⟨read, rfl, hread⟩ := eq_stream_of_stream? ha
      cases read with
      | none => rfl
      | some report =>
        obtain rfl := hread.resolve_right nofun
        exact if_pos (not_not.mp hreads)

/-! ## What is waited for -/

end Gateway

/-- A thread of a gateway. -/
inductive GatewayThread where
  | simulate
  | dispatch
  | stream
  deriving DecidableEq

/-- The step is one of this thread. -/
def GatewayThread.Does : GatewayThread → GatewayAction → Prop
  | .simulate, a => ∃ fills, a = .simulate fills
  | .dispatch, a => a = .dispatch
  | .stream, a => ∃ read, a = .stream read

/-- The thread that a paper gateway waits for, if it waits for one. -/
def PaperDuty.thread? : PaperDuty → Option GatewayThread
  | .stop => none
  | .simulate => some .simulate
  | .dispatch => some .dispatch

namespace Gateway

/-- The threads of a gateway. -/
def threads : Gateway → List GatewayThread
  | paper _ => [.simulate, .dispatch]
  | grpc _ => [.stream]

/-- What is left of `stop()`. -/
def stopWork : Gateway → ℕ ×ₗ ℕ
  | paper g => g.stopWork
  | grpc g => toLex (0, g.stopsLeft)

/-- The thread that `stop()` waits for. -/
def stopThread : Gateway → Option GatewayThread
  | paper g => g.stopDuty.thread?
  | grpc _ => none

/-- What is left until the threads have ended. -/
def joinWork : Gateway → ℕ ×ₗ ℕ
  | paper _ => toLex (0, 0)
  | grpc g => toLex (0, g.left)

/-- The thread that the destructor waits for. -/
def joinThread : Gateway → Option GatewayThread
  | paper _ => none
  | grpc g => if g.Exited then none else some .stream

variable {g : Gateway} {a : GatewayAction}

lemma threads_step (g : Gateway) (a : GatewayAction) : (g.step a).threads = g.threads := by
  cases g <;> rfl

lemma threads_callStop (g : Gateway) : g.callStop.threads = g.threads := by
  cases g <;> rfl

lemma joinThread_mem {t : GatewayThread} (h : g.joinThread = some t) : t ∈ g.threads := by
  cases g with
  | paper g => cases h
  | grpc g =>
    simp only [joinThread] at h
    split_ifs at h
    exact List.mem_singleton.mpr (Option.some.inj h).symm

/-- A thread of a paper gateway. -/
lemma does_thread? {duty : PaperDuty} {t : GatewayThread} (ht : duty.thread? = some t)
    (ha : t.Does a) : ∃ b, a.paper? = some b ∧ duty.Does b := by
  cases duty with
  | stop => cases ht
  | simulate =>
    obtain rfl := Option.some.inj ht
    obtain ⟨fills, rfl⟩ := ha
    exact ⟨.simulate fills, rfl, fills, rfl⟩
  | dispatch =>
    obtain rfl := Option.some.inj ht
    obtain rfl : a = .dispatch := ha
    exact ⟨.dispatch, rfl, rfl⟩

/-- A step of one of the threads leaves less of `stop()`, or leaves everything and is not the one
that `stop()` waits for. -/
theorem Sound.stopWork_step (h : g.Sound) (hwakes : ¬ g.Wakes a) :
    (g.step a).stopWork < g.stopWork ∨
      (g.step a).stopWork = g.stopWork ∧ (g.step a).stopThread = g.stopThread ∧
        ∀ t, g.stopThread = some t → ¬ t.Does a := by
  cases g with
  | paper g =>
    change PaperJoins.stopWork (a.paper?.elim g g.step) < _ ∨
      PaperJoins.stopWork (a.paper?.elim g g.step) = _ ∧
        (PaperJoins.stopDuty (a.paper?.elim g g.step)).thread? = _ ∧ _
    cases ha : a.paper? with
    | none =>
      refine Or.inr ⟨rfl, rfl, fun t ht hdoes => ?_⟩
      obtain ⟨b, hb, -⟩ := does_thread? ht hdoes
      rw [ha] at hb
      cases hb
    | some b =>
      have hwake : b = .wake → g.running = true := by
        rintro rfl
        cases a with
        | wake => exact Bool.of_not_eq_false fun hrunning => hwakes ⟨rfl, hrunning⟩
        | simulate _ | dispatch | stream _ | disconnect => cases ha
      refine (PaperJoins.stopWork_step h (ne_stop_of_paper? ha) hwake).imp_right ?_
      rintro ⟨hwork, hduty, hnot⟩
      refine ⟨hwork, congrArg PaperDuty.thread? hduty, fun t ht hdoes => ?_⟩
      obtain ⟨b', hb', hdoes'⟩ := does_thread? ht hdoes
      obtain rfl := Option.some.inj (ha.symm.trans hb')
      exact hnot hdoes'
  | grpc g =>
    refine Or.inr ⟨?_, rfl, nofun⟩
    change toLex (0, StreamClient.stopsLeft ((a.stream? g).elim g (GrpcGateway.step g))) = _
    cases ha : a.stream? g with
    | none => rfl
    | some b =>
      obtain ⟨read, rfl, -⟩ := eq_stream_of_stream? ha
      unfold stopWork StreamClient.stopsLeft
      rw [Option.elim_some, GrpcGateway.step, StreamClient.step, StreamClient.stop_runLoop]

/-- A call of `stop()` that has not returned leaves less to do, or waits for a thread. -/
theorem stopWork_callStop (hreturned : ¬ g.Returned) :
    g.callStop.stopWork < g.stopWork ∨ g.callStop = g ∧ g.stopThread ≠ none := by
  cases g with
  | paper g =>
    refine (PaperJoins.stopWork_callStop hreturned).imp_right ?_
    rintro ⟨hsame, hduty⟩
    refine ⟨congrArg paper hsame, ?_⟩
    simp only [stopThread]
    cases hthis : g.stopDuty with
    | stop => exact absurd hthis hduty
    | simulate | dispatch => nofun
  | grpc g =>
    left
    exact Prod.Lex.toLex_lt_toLex.mpr (Or.inr ⟨rfl, StreamClient.stopsLeft_callStop hreturned⟩)

/-- Once `stop()` has returned, a step that reads no report brings the threads nearer to their end,
or leaves everything and is not the one that the destructor waits for. -/
theorem Sound.joinWork_step (h : g.Sound) (hreturned : g.Returned) (hreads : ¬ g.Reads a) :
    (g.step a).joinWork < g.joinWork ∨
      (g.step a).joinWork = g.joinWork ∧ (g.step a).joinThread = g.joinThread ∧
        ∀ t, g.joinThread = some t → ¬ t.Does a := by
  cases g with
  | paper g => exact Or.inr ⟨rfl, rfl, nofun⟩
  | grpc g =>
    have hstep : (grpc g).step a = grpc ((a.stream? g).elim g (GrpcGateway.step g)) := rfl
    cases ha : a.stream? g with
    | none =>
      rw [hstep, ha]
      refine Or.inr ⟨rfl, rfl, fun t ht hdoes => ?_⟩
      obtain rfl := List.mem_singleton.mp (joinThread_mem ht)
      obtain ⟨read, rfl⟩ := hdoes
      simp only [GatewayAction.stream?] at ha
      split_ifs at ha with hwaits
      -- the context was cancelled
      exact StreamClient.Attached.not_blocked h ⟨hreturned, hwaits.1⟩
    | some b =>
      obtain ⟨read, rfl, hread⟩ := eq_stream_of_stream? ha
      rw [hstep, ha, Option.elim_some]
      by_cases hexited : g.Exited
      · have hsame : GrpcGateway.step g (.stream read) = g :=
          StreamClient.runLoop_of_exited hexited read
        rw [hsame]
        refine Or.inr ⟨rfl, rfl, ?_⟩
        simp only [joinThread]
        rw [if_pos hexited]
        nofun
      · refine Or.inl (Prod.Lex.toLex_lt_toLex.mpr (Or.inr ⟨rfl, ?_⟩))
        refine StreamClient.Attached.left_runLoop h hreturned ?_ hexited
        cases read with
        | none => exact Or.inl rfl
        | some report =>
          obtain rfl := hread.resolve_right nofun
          exact Or.inr (not_not.mp hreads)

/-- The destructor waits as long as a thread has not ended. -/
lemma joinThread_ne_none (hreturned : g.Returned) (hended : ¬ g.Ended) : g.joinThread ≠ none := by
  cases g with
  | paper g => exact absurd hreturned hended
  | grpc g =>
    simp only [joinThread]
    rw [if_neg (show ¬ g.Exited from hended)]
    nofun

end Gateway

end Quarcc
