import QuarccEngine.Gateways.Stopping
import QuarccEngine.Library.Trajectory

/-!
# The dispatcher and its condition variable

`GatewayDispatchBase` of `i_execution_gateway.h`, with the wait of the dispatcher taken apart: it
tests the predicate with `dispatch_mu_` held, and, when it was false, gives up the mutex and blocks
in one later step.  Only a notification that is issued while it is blocked wakes it, or a spurious
wake-up.

`enqueue_report` pushes under the mutex, so that its push does not fall between the test and the
block.  `stop_dispatcher` asks the thread to stop without it; a notification that comes between the
two is lost, and the dispatcher blocks with nobody left who would wake it.
-/

namespace Quarcc

/-- Where the dispatcher thread is. -/
inductive DispatcherPosition where
  /-- Before it evaluates the predicate. -/
  | testing
  /-- The predicate was false; `dispatch_mu_` is held. -/
  | tested
  /-- Blocked on `dispatch_cv_`. -/
  | blocked
  /-- With a report out of the queue. -/
  | holding (report : V1.ExecutionReport)
  | ended
  deriving DecidableEq

/-- How far `stop_dispatcher` is. -/
inductive DispatcherStop where
  | notCalled
  /-- `request_stop` has returned. -/
  | requested
  /-- `notify_all` has returned. -/
  | notified
  | joined
  deriving DecidableEq

/-- The dispatcher of a gateway that was started. -/
structure ReportDispatcher where
  reportsQueue : List V1.ExecutionReport := []
  position : DispatcherPosition := .testing
  stopRequested : Bool := false
  stop : DispatcherStop := .notCalled
  /-- How many calls of `enqueue_report` have pushed and not notified yet. -/
  pushed : ℕ := 0

/-- A step of the dispatcher, of a thread that enqueues a report, or of the thread that stops the
dispatcher. -/
inductive DispatcherAction where
  | dispatch
  /-- A spurious wake-up. -/
  | wake
  /-- `enqueue_report` pushes. -/
  | push (report : V1.ExecutionReport)
  /-- `enqueue_report` notifies. -/
  | notifyOne
  | stop

namespace ReportDispatcher

/-- The dispatcher thread, and the report that it passes to the fill handler. -/
def dispatch (d : ReportDispatcher) : ReportDispatcher × Option V1.ExecutionReport :=
  match d.position with
  | .testing =>
    match d.reportsQueue with
    | [] => ({ d with position := if d.stopRequested then .ended else .tested }, none)
    | report :: rest => ({ d with reportsQueue := rest, position := .holding report }, none)
  | .tested => ({ d with position := .blocked }, none)
  | .blocked => (d, none)
  | .holding report => ({ d with position := .testing }, some report)
  | .ended => (d, none)

/-- A notification, or a spurious wake-up. -/
def notify (d : ReportDispatcher) : ReportDispatcher :=
  { d with position := if d.position = .blocked then .testing else d.position }

/-- `enqueue_report` up to the end of its lock, which it gets when the dispatcher does not hold the
mutex. -/
def push (d : ReportDispatcher) (report : V1.ExecutionReport) : ReportDispatcher :=
  if d.position = .tested then d
  else { d with reportsQueue := d.reportsQueue ++ [report], pushed := d.pushed + 1 }

/-- `notify_one` of an `enqueue_report` that has pushed. -/
def notifyOne (d : ReportDispatcher) : ReportDispatcher :=
  match d.pushed with
  | 0 => d
  | n + 1 => { d.notify with pushed := n }

/-- `stop_dispatcher`. -/
def callStop (d : ReportDispatcher) : ReportDispatcher :=
  match d.stop with
  | .notCalled => { d with stopRequested := true, stop := .requested }
  | .requested => { d.notify with stop := .notified }
  | .notified => if d.position = .ended then { d with stop := .joined } else d
  | .joined => d

/-- A step. -/
def step (d : ReportDispatcher) : DispatcherAction → ReportDispatcher
  | .dispatch => d.dispatch.1
  | .wake => d.notify
  | .push report => d.push report
  | .notifyOne => d.notifyOne
  | .stop => d.callStop

/-- `stop_dispatcher` has issued its notification. -/
def Notified (d : ReportDispatcher) : Prop := d.stop = .notified ∨ d.stop = .joined

/-- `stop_dispatcher` has issued its notification, and the dispatcher is blocked. -/
def Stuck (d : ReportDispatcher) : Prop := d.Notified ∧ d.position = .blocked

/-- `stop_dispatcher` does not notify between the test of the dispatcher and its block. -/
def NotifiesInTime (d : ReportDispatcher) : DispatcherAction → Prop
  | .stop => d.stop = .requested → d.position ≠ .tested
  | _ => True

instance (d : ReportDispatcher) : (a : DispatcherAction) → Decidable (d.NotifiesInTime a)
  | .stop => inferInstanceAs (Decidable (d.stop = .requested → d.position ≠ .tested))
  | .dispatch | .wake | .push _ | .notifyOne => isTrue trivial

variable {d : ReportDispatcher}

/-! ## The dispatcher of a gateway that stops -/

/-- The position without the wait in its parts. -/
def seenPosition (d : ReportDispatcher) : ReportDispatcherPosition :=
  match d.position with
  | .testing | .tested | .blocked => .waiting
  | .holding report => .holding report
  | .ended => .ended

/-- What the threads of a paper gateway see of its dispatcher. -/
def seen (d : ReportDispatcher) : PaperStopping where
  reportsQueue := d.reportsQueue
  dispatcher := d.seenPosition
  stopRequested := d.stopRequested

/-- **Refinement.**  A step of the dispatcher passes on what the dispatcher of the gateway does,
whose step it is, or it passes on nothing and is not seen. -/
lemma seen_dispatch (d : ReportDispatcher) :
    (d.dispatch.1.seen, d.dispatch.2) = d.seen.dispatch ∨
      (d.dispatch.1.seen = d.seen ∧ d.dispatch.2 = none) := by
  obtain ⟨reportsQueue, position, stopRequested, stop, pushed⟩ := d
  cases position with
  | testing =>
    cases reportsQueue with
    | nil => cases stopRequested <;> exact Or.inl rfl
    | cons report rest => exact Or.inl rfl
  | tested => exact Or.inr ⟨rfl, rfl⟩
  | blocked => exact Or.inr ⟨rfl, rfl⟩
  | holding report => exact Or.inl rfl
  | ended => exact Or.inl rfl

/-- A notification is not seen. -/
lemma seen_notify (d : ReportDispatcher) : d.notify.seen = d.seen := by
  obtain ⟨reportsQueue, position, stopRequested, stop, pushed⟩ := d
  cases position <;> rfl

/-! ## The stop -/

/-- A stop that has begun has asked the thread to stop. -/
def Asked (d : ReportDispatcher) : Prop := d.stop ≠ .notCalled → d.stopRequested = true

/-- Once `stop_dispatcher` has notified, the dispatcher neither is blocked nor is about to block. -/
def Awake (d : ReportDispatcher) : Prop :=
  d.Notified → d.position ≠ .tested ∧ d.position ≠ .blocked

lemma notify_ne_blocked (d : ReportDispatcher) : d.notify.position ≠ .blocked := by
  unfold notify
  dsimp only
  split_ifs with h
  · decide
  · exact h

/-- A notification brings the dispatcher from the block to the test only. -/
lemma notify_eq_tested_iff : d.notify.position = .tested ↔ d.position = .tested := by
  unfold notify
  dsimp only
  split_ifs with h
  · rw [h]
    decide
  · rfl

/-- A notification leaves the dispatcher awake. -/
lemma Awake.notify (h : d.Awake) : d.notify.Awake := fun hstop =>
  ⟨fun htested => (h hstop).1 (notify_eq_tested_iff.mp htested), d.notify_ne_blocked⟩

/-- Every step keeps the request to stop. -/
lemma Asked.step (h : d.Asked) (a : DispatcherAction) : (d.step a).Asked := by
  cases a with
  | dispatch =>
    change d.dispatch.1.Asked
    unfold dispatch
    split
    · split <;> exact h
    all_goals exact h
  | wake => exact h
  | push report =>
    change (d.push report).Asked
    unfold push
    split_ifs <;> exact h
  | notifyOne =>
    change d.notifyOne.Asked
    unfold notifyOne
    split <;> exact h
  | stop =>
    change d.callStop.Asked
    unfold callStop
    split
    · exact fun _ => rfl
    · rename_i hstop
      exact fun _ => h (by rw [hstop]; decide)
    · rename_i hstop
      split_ifs
      · exact fun _ => h (by rw [hstop]; decide)
      · exact h
    · exact h

/-- A dispatcher that is asked to stop does not come to its block. -/
lemma Awake.dispatch (hasked : d.Asked) (h : d.Awake) : d.dispatch.1.Awake := by
  obtain ⟨reportsQueue, position, stopRequested, stop, pushed⟩ := d
  intro hstop
  have hstop' : stop = .notified ∨ stop = .joined := by
    cases position with
    | testing => cases reportsQueue <;> exact hstop
    | _ => exact hstop
  have hrequested : stopRequested = true := by
    apply hasked
    rintro rfl
    rcases hstop' with hno | hno <;> cases hno
  subst hrequested
  have hnow := h hstop'
  cases position with
  | testing => cases reportsQueue <;> exact ⟨nofun, nofun⟩
  | tested => exact absurd rfl hnow.1
  | blocked => exact absurd rfl hnow.2
  | holding report => exact ⟨nofun, nofun⟩
  | ended => exact ⟨nofun, nofun⟩

/-- Only `stop_dispatcher` goes on with the stop. -/
lemma stop_step {a : DispatcherAction} (ha : a ≠ .stop) : (d.step a).stop = d.stop := by
  cases a with
  | dispatch =>
    change d.dispatch.1.stop = d.stop
    unfold dispatch
    split
    · split <;> rfl
    all_goals rfl
  | wake => rfl
  | push report =>
    change (d.push report).stop = d.stop
    unfold push
    split_ifs <;> rfl
  | notifyOne =>
    change d.notifyOne.stop = d.stop
    unfold notifyOne
    split <;> rfl
  | stop => exact absurd rfl ha

/-- **Step lemma.**  A step leaves the dispatcher awake exactly when it does not notify between the
test and the block. -/
lemma Awake.step_iff (hasked : d.Asked) (h : d.Awake) (a : DispatcherAction) :
    (d.step a).Awake ↔ d.NotifiesInTime a := by
  cases a with
  | dispatch => exact iff_of_true (h.dispatch hasked) trivial
  | wake => exact iff_of_true h.notify trivial
  | push report =>
    refine iff_of_true ?_ trivial
    change (d.push report).Awake
    unfold push
    split_ifs <;> exact h
  | notifyOne =>
    refine iff_of_true ?_ trivial
    change d.notifyOne.Awake
    unfold notifyOne
    split
    · exact h
    · exact h.notify
  | stop =>
    change d.callStop.Awake ↔ (d.stop = .requested → d.position ≠ .tested)
    unfold callStop
    cases hstop : d.stop with
    | notCalled =>
      exact iff_of_true (fun hlate => by rcases hlate with hno | hno <;> cases hno) nofun
    | requested =>
      constructor
      · intro hawake _ htested
        exact (hawake (Or.inl rfl)).1 (notify_eq_tested_iff.mpr htested)
      · intro hintime _
        exact ⟨fun htested => hintime rfl (notify_eq_tested_iff.mp htested), d.notify_ne_blocked⟩
    | notified =>
      refine iff_of_true ?_ nofun
      dsimp only
      split_ifs
      · exact fun _ => h (Or.inl hstop)
      · exact h
    | joined => exact iff_of_true h nofun

/-- The dispatcher is awake exactly when it is not stuck, and its next step does not leave it
stuck. -/
lemma awake_iff (hasked : d.Asked) : d.Awake ↔ ¬ d.Stuck ∧ ¬ d.dispatch.1.Stuck := by
  constructor
  · intro h
    have hnext := h.dispatch hasked
    exact ⟨fun hstuck => (h hstuck.1).2 hstuck.2, fun hstuck => (hnext hstuck.1).2 hstuck.2⟩
  · rintro ⟨hnow, hnext⟩ hnotified
    refine ⟨fun htested => hnext ?_, fun hblocked => hnow ⟨hnotified, hblocked⟩⟩
    have hblocks : d.dispatch.1 = { d with position := .blocked } := by
      unfold dispatch
      rw [htested]
    rw [hblocks]
    exact ⟨hnotified, rfl⟩

/-- **The dispatcher does not sleep through its stop**: in no state of a run it is blocked, or
blocks with its next step, after `stop_dispatcher` has issued its notification, exactly when the
notification is not issued between a test of the dispatcher and its block. -/
theorem not_stuck_iff_notifiesInTime (actions : List DispatcherAction) :
    Trajectory.EveryState step (fun d => ¬ d.Stuck ∧ ¬ d.dispatch.1.Stuck) {} actions ↔
      Trajectory.AllSteps step NotifiesInTime {} actions := by
  have hexact : ∀ d : ReportDispatcher, ∀ a, d.Asked → (¬ d.Stuck ∧ ¬ d.dispatch.1.Stuck) →
      ((¬ (d.step a).Stuck ∧ ¬ (d.step a).dispatch.1.Stuck) ↔ d.NotifiesInTime a) := by
    intro d a hasked hfree
    rw [← awake_iff (hasked.step a)]
    exact ((awake_iff hasked).mpr hfree).step_iff hasked a
  have hasked : ({} : ReportDispatcher).Asked := fun h => absurd rfl h
  have hawake : ({} : ReportDispatcher).Awake := by
    rintro (hno | hno) <;> cases hno
  exact Trajectory.everyState_iff_of_invariant (fun _ a h => h.step a) hexact hasked
    ((awake_iff hasked).mp hawake)

/-- The dispatcher has found its queue empty when it is asked to stop and notified; then it blocks,
and all that is left are spurious wake-ups. -/
theorem notification_lost :
    (¬ ∀ actions : List DispatcherAction,
      Trajectory.EveryState step (fun d => ¬ d.Stuck) {} actions) ∧
      (Trajectory.run step {} [.dispatch, .stop, .stop, .dispatch]).pushed = 0 ∧
      ∀ a ∈ [DispatcherAction.dispatch, .notifyOne, .stop],
        Trajectory.run step {} [.dispatch, .stop, .stop, .dispatch, a] =
          Trajectory.run step {} [.dispatch, .stop, .stop, .dispatch] := by
  refine ⟨fun h => ?_, rfl, ?_⟩
  · have hlast := (h [.dispatch, .stop, .stop, .dispatch]).last
    exact hlast ⟨Or.inl rfl, rfl⟩
  · intro a ha
    rcases List.mem_cons.mp ha with rfl | ha
    · rfl
    rcases List.mem_pair.mp ha with rfl | rfl <;> rfl

/-! ## The join -/

/-- The report that a step passes to the fill handler. -/
def passes (d : ReportDispatcher) : DispatcherAction → Option V1.ExecutionReport
  | .dispatch => d.dispatch.2
  | _ => none

/-- What is left of `stop_dispatcher` when nobody else has a step to make: its two calls, and the
dispatcher, which the join waits for, until its queue is empty. -/
def lastSteps (d : ReportDispatcher) : List DispatcherAction :=
  [.stop, .stop] ++ .replicate (2 * d.reportsQueue.length + 2) .dispatch

/-- The steps of `stop_dispatcher` while the threads make the steps `meanwhile`, to which calls of
`stop_dispatcher` itself may belong. -/
def stopSteps (d : ReportDispatcher) (meanwhile : List DispatcherAction) : List DispatcherAction :=
  meanwhile ++ (Trajectory.run step d meanwhile).lastSteps

/-- `stop_dispatcher` issues its notification in time. -/
def StopsInTime (d : ReportDispatcher) (meanwhile : List DispatcherAction) : Prop :=
  Trajectory.AllSteps step NotifiesInTime d (d.stopSteps meanwhile)

instance (d : ReportDispatcher) (meanwhile : List DispatcherAction) :
    Decidable (d.StopsInTime meanwhile) :=
  inferInstanceAs (Decidable (Trajectory.AllSteps step NotifiesInTime d (d.stopSteps meanwhile)))

/-- A dispatcher that has ended makes no more steps. -/
lemma run_dispatch_of_ended (hended : d.position = .ended) (n : ℕ) :
    Trajectory.run step d (List.replicate n .dispatch) = d := by
  induction n with
  | zero => rfl
  | succ n ih =>
    have hsame : d.step .dispatch = d := by
      change d.dispatch.1 = d
      unfold dispatch
      rw [hended]
    rw [List.replicate_succ, Trajectory.run_cons, hsame, ih]

/-- Before its test, a dispatcher that is asked to stop hands on its queue and ends. -/
lemma ends_of_testing (hrequested : d.stopRequested = true) (htesting : d.position = .testing)
    {n : ℕ}
    (hn : 2 * d.reportsQueue.length < n) :
    (Trajectory.run step d (List.replicate n .dispatch)).position = .ended := by
  obtain ⟨reportsQueue, position, stopRequested, stop, pushed⟩ := d
  obtain rfl : stopRequested = true := hrequested
  obtain rfl : position = .testing := htesting
  induction reportsQueue generalizing n with
  | nil =>
    obtain ⟨n, rfl⟩ := Nat.exists_eq_add_one.mpr hn
    rw [List.replicate_succ, Trajectory.run_cons]
    exact congrArg position (run_dispatch_of_ended rfl n)
  | cons report rest ih =>
    rw [List.length_cons] at hn
    obtain ⟨n, rfl⟩ : ∃ k, n = k + 2 := Nat.exists_eq_add_of_le' (by omega)
    refine ih ?_
    change 2 * rest.length < n
    omega

/-- After the notification of `stop_dispatcher`, a dispatcher that is awake comes to its end by its
own steps. -/
lemma ends_of_awake (hasked : d.Asked) (h : d.Awake) (hnotified : d.Notified) {n : ℕ}
    (hn : 2 * d.reportsQueue.length + 2 ≤ n) :
    (Trajectory.run step d (List.replicate n .dispatch)).position = .ended := by
  have hrequested : d.stopRequested = true := by
    apply hasked
    intro hno
    rcases hnotified with hstop | hstop <;> rw [hno] at hstop <;> cases hstop
  cases hposition : d.position with
  | testing => exact ends_of_testing hrequested hposition (by omega)
  | tested => exact absurd hposition (h hnotified).1
  | blocked => exact absurd hposition (h hnotified).2
  | holding report =>
    obtain ⟨n, rfl⟩ := Nat.exists_eq_add_one.mpr (show 0 < n by omega)
    have hnext : d.step .dispatch = { d with position := .testing } := by
      change d.dispatch.1 = _
      unfold dispatch
      rw [hposition]
    rw [List.replicate_succ, Trajectory.run_cons, hnext]
    exact ends_of_testing (d := { d with position := .testing }) hrequested rfl
      (show 2 * d.reportsQueue.length < n by omega)
  | ended => rw [run_dispatch_of_ended hposition, hposition]

/-- Two calls of `stop_dispatcher` have issued the notification, and leave the queue as it was. -/
lemma notified_of_stops (d : ReportDispatcher) :
    ((d.step .stop).step .stop).Notified ∧
      ((d.step .stop).step .stop).reportsQueue = d.reportsQueue := by
  obtain ⟨reportsQueue, position, stopRequested, stop, pushed⟩ := d
  change ReportDispatcher.Notified (callStop (callStop _)) ∧
    (callStop (callStop _)).reportsQueue = _
  unfold callStop
  cases stop with
  | notCalled => exact ⟨Or.inl rfl, rfl⟩
  | joined => exact ⟨Or.inr rfl, rfl⟩
  | requested | notified =>
    dsimp only [notify]
    split_ifs
    all_goals simp_all [Notified]

/-- **The join returns**, when the notification of `stop_dispatcher` comes in time. -/
theorem ends_of_stopsInTime (hstart : d.stop = .notCalled) {meanwhile : List DispatcherAction}
    (h : d.StopsInTime meanwhile) :
    (Trajectory.run step d (d.stopSteps meanwhile)).position = .ended := by
  have hkeep : ∀ d a, ReportDispatcher.Asked d ∧ d.Awake → d.NotifiesInTime a →
      (d.step a).Asked ∧ (d.step a).Awake :=
    fun d a h hintime => ⟨h.1.step a, (h.2.step_iff h.1 a).mpr hintime⟩
  have hasked : d.Asked := fun hcalled => absurd hstart hcalled
  have hawake : d.Awake := by
    rintro (hno | hno) <;> rw [hstart] at hno <;> cases hno
  unfold StopsInTime stopSteps lastSteps at h
  rw [← List.append_assoc, Trajectory.allSteps_append] at h
  have hevery := Trajectory.everyState_of_invariant hkeep ⟨hasked, hawake⟩ h.1
  obtain ⟨hasked', hawake'⟩ := hevery.last
  unfold stopSteps lastSteps
  rw [← List.append_assoc, Trajectory.run_append]
  rw [Trajectory.run_append] at hasked' hawake' ⊢
  obtain ⟨hnotified, hqueue⟩ := (Trajectory.run step d meanwhile).notified_of_stops
  exact ends_of_awake hasked' hawake' hnotified (by
    change 2 * (step (step _ .stop) .stop).reportsQueue.length + 2 ≤ _
    rw [hqueue])

end ReportDispatcher

end Quarcc
