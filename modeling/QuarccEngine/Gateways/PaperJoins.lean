import QuarccEngine.Gateways.Dispatcher
import Mathlib.Data.Prod.Lex

/-!
# The joins of the paper gateway

`PaperGateway::stop` joins the simulation thread and then the dispatcher.  The wait of the
dispatcher is taken apart here as in `ReportDispatcher`, and the simulation thread, which enqueues
its reports, waits for `dispatch_mu_`.  The fill handler gets what it gets from `PaperStopping`, so
that it gets nothing once `stop()` has returned.

What is left of `stop()` is one number as soon as `running_` is false: the waits of `stop()`, the
reports that the simulation thread has still to enqueue, and those that the dispatcher has still to
hand on, each with its weight.  Every step makes it smaller, or is not the one that has to come
next, unless the dispatcher wakes up spuriously.
-/

namespace Quarcc

/-! ## The dispatcher -/

namespace ReportDispatcher

variable {d : ReportDispatcher}

/-- How many steps the dispatcher takes until it blocks or ends, when nothing is enqueued. -/
def left (d : ReportDispatcher) : ℕ :=
  3 * d.reportsQueue.length +
    match d.position with
    | .holding _ => 3
    | .testing => 2
    | .tested => 1
    | .blocked | .ended => 0

/-- The calls and waits of `stop_dispatcher` that are left. -/
def stopsLeft (d : ReportDispatcher) : ℕ :=
  match d.stop with
  | .notCalled => 3
  | .requested => 2
  | .notified => 1
  | .joined => 0

lemma stopsLeft_congr {d' : ReportDispatcher} (h : d'.stop = d.stop) :
    d'.stopsLeft = d.stopsLeft := by
  unfold stopsLeft
  rw [h]

/-- A step of the dispatcher brings it nearer to its block or its end, unless it is there. -/
lemma left_dispatch (d : ReportDispatcher) :
    d.dispatch.1.left < d.left ∨
      d.dispatch.1 = d ∧ (d.position = .blocked ∨ d.position = .ended) := by
  obtain ⟨reportsQueue, position, stopRequested, stop, pushed⟩ := d
  cases position with
  | testing =>
    left
    cases reportsQueue with
    | nil => cases stopRequested <;> simp [left, dispatch]
    | cons report rest =>
      simp only [left, dispatch, List.length_cons]
      omega
  | tested | holding _ => exact Or.inl (Nat.lt_succ_self _)
  | blocked => exact Or.inr ⟨rfl, Or.inl rfl⟩
  | ended => exact Or.inr ⟨rfl, Or.inr rfl⟩

/-- The dispatcher leaves the stop and the calls of `enqueue_report` alone. -/
lemma dispatch_stop (d : ReportDispatcher) :
    d.dispatch.1.stop = d.stop ∧ d.dispatch.1.pushed = d.pushed := by
  unfold dispatch
  split
  · split <;> exact ⟨rfl, rfl⟩
  all_goals exact ⟨rfl, rfl⟩

/-- A notification may wake the dispatcher. -/
lemma left_notify_le (d : ReportDispatcher) : d.notify.left ≤ d.left + 2 := by
  obtain ⟨reportsQueue, position, stopRequested, stop, pushed⟩ := d
  cases position with
  | blocked => exact le_rfl
  | _ => exact Nat.le_add_right _ 2

/-- A call of `enqueue_report` has notified. -/
lemma notifyOne_spec (h : d.pushed ≠ 0) :
    d.notifyOne.seen = d.seen ∧ d.notifyOne.stop = d.stop ∧
      3 * d.notifyOne.pushed + d.notifyOne.left < 3 * d.pushed + d.left := by
  unfold notifyOne
  cases hpushed : d.pushed with
  | zero => exact absurd hpushed h
  | succ n =>
    have hle := d.left_notify_le
    refine ⟨d.seen_notify, rfl, ?_⟩
    change 3 * n + d.notify.left < 3 * (n + 1) + d.left
    omega

/-- A report is pushed when the mutex is free. -/
lemma left_push (h : d.position ≠ .tested) (report : V1.ExecutionReport) :
    (d.push report).left = d.left + 3 ∧ (d.push report).pushed = d.pushed + 1 := by
  unfold push
  rw [if_neg h]
  refine ⟨?_, rfl⟩
  unfold left
  dsimp only
  rw [List.length_append, List.length_singleton]
  omega

/-- A call of `stop_dispatcher` makes less to do, or waits. -/
lemma stopsLeft_callStop (hstop : d.stop ≠ .joined) :
    d.callStop.pushed = d.pushed ∧
        3 * d.callStop.stopsLeft + d.callStop.left < 3 * d.stopsLeft + d.left ∨
      d.callStop = d ∧ d.stop = .notified ∧ d.position ≠ .ended := by
  cases hposition : d.stop with
  | notCalled =>
    have hcall : d.callStop = { d with stopRequested := true, stop := .requested } := by
      unfold callStop
      rw [hposition]
    have hstops : d.stopsLeft = 3 := by
      unfold stopsLeft
      rw [hposition]
    left
    rw [hcall, hstops]
    exact ⟨rfl, Nat.add_lt_add_right (by decide : 3 * 2 < 3 * 3) _⟩
  | requested =>
    have hcall : d.callStop = { d.notify with stop := .notified } := by
      unfold callStop
      rw [hposition]
    have hstops : d.stopsLeft = 2 := by
      unfold stopsLeft
      rw [hposition]
    have hnotify := d.left_notify_le
    left
    rw [hcall, hstops]
    refine ⟨rfl, ?_⟩
    change 3 * 1 + d.notify.left < 3 * 2 + d.left
    omega
  | notified =>
    have hstops : d.stopsLeft = 1 := by
      unfold stopsLeft
      rw [hposition]
    unfold callStop
    rw [hposition, hstops]
    dsimp only
    split_ifs with hended
    · exact Or.inl ⟨rfl, Nat.add_lt_add_right (by decide : 3 * 0 < 3 * 1) _⟩
    · exact Or.inr ⟨rfl, rfl, hended⟩
  | joined => exact absurd hposition hstop

end ReportDispatcher

/-- The dispatcher does not look at the rest of the gateway. -/
lemma PaperStopping.dispatch_with (g : PaperStopping) (running : Bool)
    (simulation : SimulationPosition) (stop : PaperStop) :
    ({ g with running := running, simulation := simulation, stop := stop } :
        PaperStopping).dispatch =
      ({ g.dispatch.1 with running := running, simulation := simulation, stop := stop },
        g.dispatch.2) := by
  obtain ⟨_, _, reportsQueue, dispatcher, stopRequested, _⟩ := g
  cases dispatcher with
  | waiting =>
    cases reportsQueue with
    | nil => cases stopRequested <;> rfl
    | cons report rest => rfl
  | holding report => rfl
  | ended => rfl

/-! ## The threads -/

/-- The threads of a `PaperGateway` that was started, and the thread that stops them. -/
structure PaperJoins where
  running : Bool := true
  simulation : SimulationPosition := .checking
  /-- `stop()` has joined the simulation thread. -/
  simulationJoined : Bool := false
  dispatcher : ReportDispatcher := {}

/-- A step of the simulation thread, of the dispatcher, or of the thread that stops them. -/
inductive PaperJoinsAction where
  | simulate (fills : List V1.ExecutionReport)
  | dispatch
  /-- A spurious wake-up of the dispatcher. -/
  | wake
  | stop

namespace PaperJoins

/-- The simulation thread; `enqueue_report` pushes, when it gets `dispatch_mu_`, and then
notifies. -/
def simulate (g : PaperJoins) (fills : List V1.ExecutionReport) : PaperJoins :=
  match g.simulation with
  | .checking => { g with simulation := if g.running then .enqueuing fills else .ended }
  | .enqueuing fills =>
    if g.dispatcher.pushed ≠ 0 then { g with dispatcher := g.dispatcher.notifyOne }
    else
      match fills with
      | [] => { g with simulation := .sleeping }
      | report :: rest =>
        if g.dispatcher.position = .tested then g
        else { g with simulation := .enqueuing rest, dispatcher := g.dispatcher.push report }
  | .sleeping => { g with simulation := .checking }
  | .ended => g

/-- `PaperGateway::stop`, up to its next wait. -/
def callStop (g : PaperJoins) : PaperJoins :=
  if g.running then { g with running := false }
  else if g.simulationJoined then { g with dispatcher := g.dispatcher.callStop }
  else if g.simulation = .ended then { g with simulationJoined := true }
  else g

/-- A step. -/
def step (g : PaperJoins) : PaperJoinsAction → PaperJoins
  | .simulate fills => g.simulate fills
  | .dispatch => { g with dispatcher := g.dispatcher.dispatch.1 }
  | .wake => { g with dispatcher := g.dispatcher.notify }
  | .stop => g.callStop

/-- The report that a step passes to the fill handler. -/
def passes (g : PaperJoins) : PaperJoinsAction → Option V1.ExecutionReport
  | .dispatch => g.dispatcher.dispatch.2
  | .simulate _ | .wake | .stop => none

/-- `stop()` has returned. -/
def Returned (g : PaperJoins) : Prop := g.dispatcher.stop = .joined

instance (g : PaperJoins) : Decidable g.Returned := inferInstanceAs (Decidable (_ = _))

/-- `stop()` does not notify the dispatcher between its test and its block. -/
def NotifiesInTime (g : PaperJoins) : Prop := g.dispatcher.NotifiesInTime .stop

instance (g : PaperJoins) : Decidable g.NotifiesInTime :=
  inferInstanceAs (Decidable (g.dispatcher.NotifiesInTime .stop))

/-! ## The fill handler -/

/-- How far `stop()` is. -/
def stop (g : PaperJoins) : PaperStop :=
  if g.running then .notCalled
  else if g.simulationJoined then
    match g.dispatcher.stop with
    | .notCalled => .joined
    | .requested | .notified => .requested
    | .joined => .returned
  else .cleared

/-- The threads without the wait of the dispatcher in its parts. -/
def seen (g : PaperJoins) : PaperStopping :=
  { g.dispatcher.seen with
    running := g.running
    simulation := g.simulation
    stop := g.stop }

/-- The threads are as the thread that stops them finds them. -/
structure Sound (g : PaperJoins) : Prop where
  ordered : g.seen.Ordered
  asked : g.dispatcher.Asked
  awake : g.dispatcher.Awake
  /-- The simulation thread is joined after `running_` was cleared. -/
  cleared : g.simulationJoined = true → g.running = false
  /-- The dispatcher is stopped after the simulation thread was joined. -/
  joined : g.dispatcher.stop ≠ .notCalled → g.simulationJoined = true

variable {g : PaperJoins}

/-- The threads that were just started. -/
lemma sound_start : ({} : PaperJoins).Sound where
  ordered := PaperStopping.ordered_start
  asked := fun h => absurd rfl h
  awake := by
    rintro (hno | hno) <;> cases hno
  cleared := nofun
  joined := fun h => absurd rfl h

/-- The steps of the simulation thread, each with what it needs and what it leaves. -/
inductive Simulates (g : PaperJoins) (fills : List V1.ExecutionReport) : PaperJoins → Prop
  | checked : g.simulation = .checking →
    Simulates g fills { g with simulation := if g.running then .enqueuing fills else .ended }
  | pushed {report : V1.ExecutionReport} {rest : List V1.ExecutionReport} :
    g.simulation = .enqueuing (report :: rest) → g.dispatcher.position ≠ .tested →
    Simulates g fills
      { g with simulation := .enqueuing rest, dispatcher := g.dispatcher.push report }
  | notified {left : List V1.ExecutionReport} : g.simulation = .enqueuing left →
    g.dispatcher.pushed ≠ 0 → Simulates g fills { g with dispatcher := g.dispatcher.notifyOne }
  | enqueued : g.simulation = .enqueuing [] → Simulates g fills { g with simulation := .sleeping }
  | slept : g.simulation = .sleeping → Simulates g fills { g with simulation := .checking }
  /-- It waits for the mutex, or has ended. -/
  | idle : g.simulation = .ended ∨ g.dispatcher.position = .tested → Simulates g fills g

/-- **Inversion.**  A step of the simulation thread does one of these things. -/
lemma simulates_simulate (g : PaperJoins) (fills : List V1.ExecutionReport) :
    g.Simulates fills (g.simulate fills) := by
  obtain ⟨running, simulation, simulationJoined, dispatcher⟩ := g
  cases simulation with
  | checking => exact .checked rfl
  | sleeping => exact .slept rfl
  | ended => exact .idle (Or.inl rfl)
  | enqueuing left =>
    unfold simulate
    dsimp only
    by_cases hpushed : dispatcher.pushed ≠ 0
    · rw [if_pos hpushed]
      exact .notified rfl hpushed
    · rw [if_neg hpushed]
      cases left with
      | nil => exact .enqueued rfl
      | cons report rest =>
        dsimp only
        split_ifs with htested
        · exact .idle (Or.inr htested)
        · exact .pushed rfl htested

/-- What the simulation thread does is what it does there, or is not seen. -/
lemma seen_simulate (g : PaperJoins) (fills : List V1.ExecutionReport) :
    (g.simulate fills).seen = g.seen.simulate fills ∨ (g.simulate fills).seen = g.seen := by
  have hinv := g.simulates_simulate fills
  generalize g.simulate fills = g' at hinv ⊢
  have hseen : g.seen.simulation = g.simulation := rfl
  unfold PaperStopping.simulate
  rw [hseen]
  cases hinv with
  | checked hsimulation =>
    left
    rw [hsimulation]
    cases hrunning : g.running <;> simp [seen, stop, hrunning]
  | pushed hsimulation htested =>
    left
    rw [hsimulation]
    simp only [seen, stop, ReportDispatcher.push, if_neg htested]
    rfl
  | notified hsimulation hpushed =>
    right
    obtain ⟨hnotify, hstop, -⟩ := g.dispatcher.notifyOne_spec hpushed
    simp only [seen, stop, hnotify, hstop]
  | enqueued hsimulation | slept hsimulation =>
    left
    rw [hsimulation]
    rfl
  | idle _ => exact Or.inr rfl

/-- What the dispatcher does is what it does there, or is not seen and passes on nothing. -/
lemma seen_dispatch (g : PaperJoins) :
    ((g.step .dispatch).seen, g.passes .dispatch) = g.seen.dispatch ∨
      (g.step .dispatch).seen = g.seen ∧ g.passes .dispatch = none := by
  obtain ⟨running, simulation, simulationJoined, dispatcher⟩ := g
  have hstop := dispatcher.dispatch_stop.1
  rcases dispatcher.seen_dispatch with hseen | ⟨hseen, hnone⟩
  · left
    simp only [seen, PaperStopping.dispatch_with, ← hseen]
    simp only [stop, step, passes, hstop]
  · right
    refine ⟨?_, hnone⟩
    simp only [seen, stop, step, hstop, hseen]

/-- What `stop()` does is what it does there, or is not seen. -/
lemma seen_callStop (h : g.Sound) :
    g.callStop.seen = g.seen.callStop ∨ g.callStop.seen = g.seen := by
  have hcleared := h.cleared
  have hjoined := h.joined
  obtain ⟨running, simulation, simulationJoined, dispatcher⟩ := g
  cases running with
  | true =>
    obtain rfl : simulationJoined = false := by
      cases simulationJoined with
      | false => rfl
      | true => cases hcleared rfl
    exact Or.inl rfl
  | false =>
    cases simulationJoined with
    | false =>
      have hstop : dispatcher.stop = .notCalled := by
        by_contra hcalled
        cases hjoined hcalled
      by_cases hended : simulation = .ended
      · left
        simp [callStop, seen, stop, PaperStopping.callStop, hended, hstop]
      · right
        simp [callStop, hended]
    | true =>
      obtain ⟨reportsQueue, position, stopRequested, dispatcherStop, pushed⟩ := dispatcher
      cases dispatcherStop with
      | notCalled => exact Or.inl rfl
      | requested =>
        right
        cases position <;> rfl
      | notified => cases position <;> exact Or.inl rfl
      | joined => exact Or.inr rfl

/-- **Refinement.**  A step passes on what a step of the threads of `PaperStopping` does, whose step
it is, or it passes on nothing and is not seen. -/
theorem seen_step (h : g.Sound) (a : PaperJoinsAction) :
    (∃ b, ((g.step a).seen, g.passes a) = g.seen.step b) ∨
      (g.step a).seen = g.seen ∧ g.passes a = none := by
  cases a with
  | simulate fills =>
    rcases g.seen_simulate fills with hseen | hseen
    · exact Or.inl ⟨.simulate fills, Prod.ext hseen rfl⟩
    · exact Or.inr ⟨hseen, rfl⟩
  | dispatch => exact g.seen_dispatch.imp_left fun hseen => ⟨.dispatch, hseen⟩
  | wake =>
    right
    refine ⟨?_, rfl⟩
    simp only [seen, stop, step, g.dispatcher.seen_notify]
    rfl
  | stop =>
    rcases seen_callStop h with hseen | hseen
    · exact Or.inl ⟨.stop, Prod.ext hseen rfl⟩
    · exact Or.inr ⟨hseen, rfl⟩

/-- A step is a step of the dispatcher, or leaves it alone. -/
lemma dispatcher_step (g : PaperJoins) (a : PaperJoinsAction) :
    (∃ b, (g.step a).dispatcher = g.dispatcher.step b ∧ (b = .stop → a = .stop)) ∨
      (g.step a).dispatcher = g.dispatcher := by
  cases a with
  | simulate fills =>
    change (∃ b, (g.simulate fills).dispatcher = _ ∧ _) ∨ (g.simulate fills).dispatcher = _
    have hinv := g.simulates_simulate fills
    generalize g.simulate fills = g' at hinv ⊢
    cases hinv with
    | @pushed report rest _ _ => exact Or.inl ⟨.push report, rfl, nofun⟩
    | notified _ _ => exact Or.inl ⟨.notifyOne, rfl, nofun⟩
    | checked _ | enqueued _ | slept _ | idle _ => exact Or.inr rfl
  | dispatch => exact Or.inl ⟨.dispatch, rfl, nofun⟩
  | wake => exact Or.inl ⟨.wake, rfl, nofun⟩
  | stop =>
    change (∃ b, g.callStop.dispatcher = _ ∧ _) ∨ g.callStop.dispatcher = _
    unfold callStop
    split_ifs
    · exact Or.inr rfl
    · exact Or.inl ⟨.stop, rfl, fun _ => rfl⟩
    · exact Or.inr rfl
    · exact Or.inr rfl

/-- Only `stop()` goes on with the stop. -/
lemma stop_step {a : PaperJoinsAction} (ha : a ≠ .stop) :
    (g.step a).running = g.running ∧ (g.step a).simulationJoined = g.simulationJoined ∧
      (g.step a).dispatcher.stop = g.dispatcher.stop := by
  have hstop : (g.step a).dispatcher.stop = g.dispatcher.stop := by
    rcases g.dispatcher_step a with ⟨b, hstep, hb⟩ | hsame
    · rw [hstep]
      exact ReportDispatcher.stop_step fun hcalls => ha (hb hcalls)
    · rw [hsame]
  cases a with
  | stop => exact absurd rfl ha
  | dispatch | wake => exact ⟨rfl, rfl, hstop⟩
  | simulate fills =>
    have hkept : (g.simulate fills).running = g.running ∧
        (g.simulate fills).simulationJoined = g.simulationJoined := by
      have hinv := g.simulates_simulate fills
      generalize g.simulate fills = g' at hinv ⊢
      cases hinv <;> exact ⟨rfl, rfl⟩
    exact ⟨hkept.1, hkept.2, hstop⟩

/-- **Step lemma.**  A step of the thread that stops the others is to notify in time. -/
theorem Sound.step (h : g.Sound) {a : PaperJoinsAction} (ha : a = .stop → g.NotifiesInTime) :
    (g.step a).Sound where
  ordered := by
    rcases seen_step h a with ⟨b, hstep⟩ | ⟨hsame, -⟩
    · rw [show (g.step a).seen = (g.seen.step b).1 from congrArg Prod.fst hstep]
      exact h.ordered.step b
    · rw [hsame]
      exact h.ordered
  asked := by
    rcases g.dispatcher_step a with ⟨b, hstep, -⟩ | hsame
    · rw [hstep]
      exact h.asked.step b
    · rw [hsame]
      exact h.asked
  awake := by
    rcases g.dispatcher_step a with ⟨b, hstep, hb⟩ | hsame
    · rw [hstep]
      refine (h.awake.step_iff h.asked b).mpr ?_
      cases b with
      | stop => exact ha (hb rfl)
      | dispatch | wake | push _ | notifyOne => trivial
    · rw [hsame]
      exact h.awake
  cleared := by
    by_cases hstop : a = .stop
    · subst hstop
      change g.callStop.simulationJoined = true → g.callStop.running = false
      unfold callStop
      split_ifs with hrunning
      all_goals simp_all
    · obtain ⟨hrunning, hjoined, -⟩ := stop_step hstop
      rw [hrunning, hjoined]
      exact h.cleared
  joined := by
    by_cases hstop : a = .stop
    · subst hstop
      change g.callStop.dispatcher.stop ≠ .notCalled → g.callStop.simulationJoined = true
      have hjoined := h.joined
      unfold callStop
      split_ifs
      all_goals simp_all
    · obtain ⟨-, hjoined, hdispatcher⟩ := stop_step hstop
      rw [hdispatcher, hjoined]
      exact h.joined

/-- After `stop()` nothing calls the handler. -/
lemma Sound.quiet (h : g.Sound) (hreturned : g.Returned) (a : PaperJoinsAction) :
    g.passes a = none := by
  have hjoined : g.simulationJoined = true := by
    apply h.joined
    rw [hreturned]
    decide
  have hstop : g.seen.stop = .returned := by
    simp only [seen, stop, h.cleared hjoined, hjoined]
    rw [hreturned]
    rfl
  rcases seen_step h a with ⟨b, hstep⟩ | ⟨-, hnone⟩
  · exact (congrArg Prod.snd hstep).trans (h.ordered.quiet hstop b)
  · exact hnone

/-! ## What is left of the stop -/

/-- How many steps the simulation thread takes until it ends, and what they bring the dispatcher. -/
def simulationLeft (g : PaperJoins) : ℕ :=
  match g.simulation with
  | .checking => 1
  | .enqueuing left => 7 * left.length + 3
  | .sleeping => 2
  | .ended => 0

/-- The calls and waits of `stop()` that are left once `running_` is false. -/
def callsLeft (g : PaperJoins) : ℕ :=
  (if g.simulationJoined then 0 else 1) + g.dispatcher.stopsLeft

/-- What is left once `running_` is false. -/
def left (g : PaperJoins) : ℕ :=
  3 * g.callsLeft + (g.simulationLeft + (3 * g.dispatcher.pushed + g.dispatcher.left))

/-- What is left of `stop()`; while the gateway runs, anything may still come. -/
def stopWork (g : PaperJoins) : ℕ ×ₗ ℕ :=
  if g.running then toLex (1, 0) else toLex (0, g.left)

end PaperJoins

/-- The thread that has to make the next step. -/
inductive PaperDuty where
  | stop
  | simulate
  | dispatch
  deriving DecidableEq

/-- The step is one of this thread. -/
def PaperDuty.Does : PaperDuty → PaperJoinsAction → Prop
  | .stop, a => a = .stop
  | .simulate, a => ∃ fills, a = .simulate fills
  | .dispatch, a => a = .dispatch

namespace PaperJoins

/-- Which thread `stop()` waits for. -/
def stopDuty (g : PaperJoins) : PaperDuty :=
  if g.running then .stop
  else if g.simulationJoined then
    if g.dispatcher.stop = .notified ∧ g.dispatcher.position ≠ .ended then .dispatch else .stop
  else if g.simulation = .ended then .stop
  else if g.dispatcher.position = .tested then .dispatch
  else .simulate

variable {g : PaperJoins}

/-- The other threads make none of the calls. -/
lemma callsLeft_step {a : PaperJoinsAction} (ha : a ≠ .stop) :
    (g.step a).callsLeft = g.callsLeft := by
  obtain ⟨-, hjoined, hstop⟩ := stop_step (g := g) ha
  unfold callsLeft
  rw [hjoined, ReportDispatcher.stopsLeft_congr hstop]

/-- A step of the simulation thread leaves less to do, unless it waits or has ended. -/
lemma left_simulate (hrunning : g.running = false) (fills : List V1.ExecutionReport) :
    (g.simulate fills).left < g.left ∨
      g.simulate fills = g ∧ (g.simulation = .ended ∨ g.dispatcher.position = .tested) := by
  have hcalls : (g.simulate fills).callsLeft = g.callsLeft :=
    callsLeft_step (a := .simulate fills) nofun
  have hinv := g.simulates_simulate fills
  generalize g.simulate fills = g' at hinv hcalls ⊢
  unfold left
  rw [hcalls]
  cases hinv with
  | checked hsimulation =>
    left
    simp [simulationLeft, hsimulation, hrunning]
  | @pushed report rest hsimulation htested =>
    left
    obtain ⟨hleft, hpushed⟩ := g.dispatcher.left_push htested report
    simp only [simulationLeft, hsimulation, hleft, hpushed, List.length_cons]
    omega
  | notified _ hpushed =>
    left
    have hless := (g.dispatcher.notifyOne_spec hpushed).2.2
    simp only [simulationLeft]
    omega
  | enqueued hsimulation | slept hsimulation =>
    left
    simp [simulationLeft, hsimulation]
  | idle hidle => exact Or.inr ⟨rfl, hidle⟩

/-- A step of the dispatcher leaves less to do, unless it is blocked or has ended. -/
lemma left_dispatch (g : PaperJoins) :
    (g.step .dispatch).left < g.left ∨ g.step .dispatch = g ∧
      (g.dispatcher.position = .blocked ∨ g.dispatcher.position = .ended) := by
  rcases g.dispatcher.left_dispatch with hless | ⟨hsame, hidle⟩
  · left
    have hpushed := g.dispatcher.dispatch_stop.2
    unfold left
    rw [callsLeft_step (a := .dispatch) nofun]
    change _ + (g.simulationLeft +
      (3 * g.dispatcher.dispatch.1.pushed + g.dispatcher.dispatch.1.left)) < _
    omega
  · exact Or.inr ⟨by rw [step, hsame], hidle⟩

/-- **Step lemma.**  A step of one of the other threads leaves less to do, or leaves everything and
is not the one that `stop()` waits for. -/
theorem stopWork_step (h : g.Sound) {a : PaperJoinsAction} (hstop : a ≠ .stop)
    (hwake : a = .wake → g.running = true) :
    (g.step a).stopWork < g.stopWork ∨
      (g.step a).stopWork = g.stopWork ∧ (g.step a).stopDuty = g.stopDuty ∧
        ¬ g.stopDuty.Does a := by
  cases hrunning : g.running with
  | true =>
    have hrunning' := (stop_step (g := g) hstop).1.trans hrunning
    unfold stopWork stopDuty
    rw [hrunning, hrunning']
    exact Or.inr ⟨rfl, rfl, hstop⟩
  | false =>
    have hless : (g.step a).left < g.left → (g.step a).stopWork < g.stopWork := by
      intro hless
      have hrunning' := (stop_step (g := g) hstop).1.trans hrunning
      unfold stopWork
      rw [hrunning, hrunning']
      exact Prod.Lex.toLex_lt_toLex.mpr (Or.inr ⟨rfl, hless⟩)
    have hidle : ∀ {p : Prop}, g.step a = g → ¬ g.stopDuty.Does a → p ∨
        (g.step a).stopWork = g.stopWork ∧ (g.step a).stopDuty = g.stopDuty ∧
          ¬ g.stopDuty.Does a := by
      intro p hsame hnot
      rw [hsame]
      exact Or.inr ⟨rfl, rfl, hnot⟩
    cases a with
    | stop => exact absurd rfl hstop
    | wake => exact absurd ((hwake rfl).symm.trans hrunning) nofun
    | simulate fills =>
      rcases left_simulate hrunning fills with hleft | ⟨hsame, hwaits⟩
      · exact Or.inl (hless hleft)
      · refine hidle hsame ?_
        unfold stopDuty
        rw [hrunning]
        rcases hwaits with hended | htested
        · simp only [hended]
          split_ifs <;> simp [PaperDuty.Does]
        · simp only [htested]
          split_ifs <;> simp [PaperDuty.Does]
    | dispatch =>
      rcases g.left_dispatch with hleft | ⟨hsame, hblocks⟩
      · exact Or.inl (hless hleft)
      · refine hidle hsame ?_
        unfold stopDuty
        rw [hrunning]
        have hjoined := h.joined
        rcases hblocks with hblocked | hended
        · -- after the notification it is not blocked
          have hawake : g.dispatcher.stop ≠ .notified := fun hnotified =>
            (h.awake (Or.inl hnotified)).2 hblocked
          simp only [hblocked, hawake]
          split_ifs <;> simp_all [PaperDuty.Does]
        · simp only [hended]
          split_ifs <;> simp_all [PaperDuty.Does]

/-- A call of `stop()` leaves less to do, or waits for another thread. -/
theorem stopWork_callStop (hreturned : ¬ g.Returned) :
    g.callStop.stopWork < g.stopWork ∨ g.callStop = g ∧ g.stopDuty ≠ .stop := by
  unfold callStop
  by_cases hrunning : g.running = true
  · left
    rw [if_pos hrunning]
    unfold stopWork
    rw [hrunning]
    exact Prod.Lex.toLex_lt_toLex.mpr (Or.inl Nat.zero_lt_one)
  · have hrunning' : g.running = false := Bool.not_eq_true _ ▸ hrunning
    have hless : ∀ g' : PaperJoins, g'.running = g.running → g'.left < g.left →
        g'.stopWork < g.stopWork := by
      intro g' hsame hleft
      unfold stopWork
      rw [hsame, hrunning']
      exact Prod.Lex.toLex_lt_toLex.mpr (Or.inr ⟨rfl, hleft⟩)
    rw [if_neg hrunning]
    by_cases hjoined : g.simulationJoined = true
    · rw [if_pos hjoined]
      rcases g.dispatcher.stopsLeft_callStop hreturned with ⟨hpushed, hleft⟩ | ⟨hsame,
        hnotified, hended⟩
      · refine Or.inl (hless _ rfl ?_)
        change 3 * ((if g.simulationJoined then 0 else 1) + g.dispatcher.callStop.stopsLeft) +
          (g.simulationLeft +
            (3 * g.dispatcher.callStop.pushed + g.dispatcher.callStop.left)) < _
        unfold left callsLeft
        omega
      · refine Or.inr ⟨by rw [hsame], ?_⟩
        unfold stopDuty
        rw [if_neg hrunning, if_pos hjoined, if_pos ⟨hnotified, hended⟩]
        decide
    · rw [if_neg hjoined]
      by_cases hended : g.simulation = .ended
      · rw [if_pos hended]
        refine Or.inl (hless _ rfl ?_)
        unfold left callsLeft
        rw [if_neg hjoined]
        change 3 * (0 + g.dispatcher.stopsLeft) + (g.simulationLeft +
          (3 * g.dispatcher.pushed + g.dispatcher.left)) < _
        omega
      · rw [if_neg hended]
        refine Or.inr ⟨rfl, ?_⟩
        unfold stopDuty
        rw [if_neg hrunning, if_neg hjoined, if_neg hended]
        split_ifs <;> decide

end PaperJoins

end Quarcc
