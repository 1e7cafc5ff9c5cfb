import QuarccEngine.Library.WorkQueue
import QuarccEngine.OrderManager.Replies

/-!
# Delivery of the events

The queue of an order manager between its producers and the one dispatch loop.  Any number of
threads call `enqueue`; the dispatch thread pops an event, handles it and marks it as processed,
until it is asked to stop and the queue is empty.  A handler does not touch the queue, so its work
is one step; producers come before it, and between it and `mark_processed`.

The dispatcher is an instance of a queue with one consumer (`WorkQueue`), from which the order of
the events and the meaning of the counters follow.
-/

namespace Quarcc

/-- The event is one that `enqueue` may drop. -/
def OMEvent.isMarketData : OMEvent → Bool
  | bar _ | tick _ => true
  | executionReport _ | submitCommand _ | cancelCommand _ | replaceCommand _
  | cancelAllCommand _ _ => false

/-- Whether `enqueue` takes the event. -/
def EventQueue.accepts (queue : EventQueue OMEvent) : OMEvent → Bool
  | .bar bar => (queue.tryPush (.bar bar) maxMarketDataQueueDepth).2
  | .tick tick => (queue.tryPush (.tick tick) maxMarketDataQueueDepth).2
  | .executionReport _ | .submitCommand _ | .cancelCommand _ | .replaceCommand _
  | .cancelAllCommand _ _ => true

namespace EventQueue

variable {queue : EventQueue OMEvent} {event : OMEvent}

/-- An event that is taken is pushed. -/
lemma enqueue_of_accepts (h : queue.accepts event = true) :
    queue.enqueue event = queue.push event := by
  have hroom : ∀ e : OMEvent, (queue.tryPush e maxMarketDataQueueDepth).2 = true →
      (queue.tryPush e maxMarketDataQueueDepth).1 = queue.push e := by
    intro e he
    unfold tryPush at he ⊢
    split_ifs at he ⊢
    rfl
  cases event with
  | bar bar => exact hroom _ h
  | tick tick => exact hroom _ h
  | executionReport fill => rfl
  | submitCommand signal => rfl
  | cancelCommand signal => rfl
  | replaceCommand signal => rfl
  | cancelAllCommand reason initiatedBy => rfl

/-- An event that is not taken is market data that met a full queue; it is only counted. -/
lemma enqueue_of_not_accepts (h : queue.accepts event = false) :
    event.isMarketData = true ∧ maxMarketDataQueueDepth ≤ queue.q.length ∧
      queue.enqueue event = { queue with totalDropped := queue.totalDropped + 1 } := by
  have hfull : ∀ e : OMEvent, (queue.tryPush e maxMarketDataQueueDepth).2 = false →
      maxMarketDataQueueDepth ≤ queue.q.length ∧ (queue.tryPush e maxMarketDataQueueDepth).1 =
        { queue with totalDropped := queue.totalDropped + 1 } := by
    intro e he
    unfold tryPush at he ⊢
    split_ifs at he ⊢ with hdepth
    exact ⟨hdepth, rfl⟩
  cases event with
  | bar bar => exact ⟨rfl, hfull _ h⟩
  | tick tick => exact ⟨rfl, hfull _ h⟩
  | executionReport fill => cases h
  | submitCommand signal => cases h
  | cancelCommand signal => cases h
  | replaceCommand signal => cases h
  | cancelAllCommand reason initiatedBy => cases h

end EventQueue

/-! ## The dispatch loop -/

/-- Where the dispatch thread is in `run_dispatch_loop`. -/
inductive DispatchPosition where
  /-- In `pop`. -/
  | popping
  /-- It has popped the event. -/
  | handling (event : OMEvent)
  /-- The handler of the event has returned. -/
  | handled (event : OMEvent)
  /-- The loop has ended. -/
  | ended

/-- How many events are popped and not marked as processed. -/
def DispatchPosition.busy : DispatchPosition → ℕ
  | popping | ended => 0
  | handling _ | handled _ => 1

/-- An order manager with its queue and its dispatch thread. -/
structure Dispatcher where
  manager : OrderManager
  queue : EventQueue OMEvent := {}
  position : DispatchPosition := .popping
  stopRequested : Bool := false
  /-- The events that were taken, in push order; this is only a record. -/
  accepted : List OMEvent := []
  /-- The events that were not, with the depth of the queue they met; this is only a record. -/
  refused : List (OMEvent × ℕ) := []
  /-- The events whose handler has returned, in that order; this is only a record. -/
  handled : List OMEvent := []

/-- A step of a producer, of the dispatch thread or of the thread that stops it. -/
inductive DispatchAction where
  | enqueue (event : OMEvent)
  | pop
  | handle (env : Env) (gateway : GatewayAnswers)
  | markProcessed
  | requestStop

namespace Dispatcher

/-- A new order manager. -/
def start (accountId : String) (orderStore : SQLiteOrderStore) (riskManager : RiskManager) :
    Dispatcher where
  manager := createOrderManager accountId orderStore riskManager

/-- `enqueue` with its record. -/
def enqueue (s : Dispatcher) (event : OMEvent) : Dispatcher :=
  if s.queue.accepts event then
    { s with queue := s.queue.enqueue event, accepted := s.accepted ++ [event] }
  else
    { s with
      queue := s.queue.enqueue event, refused := s.refused ++ [(event, s.queue.q.length)] }

/-- A step.  The dispatch thread waits in `pop` for an event or the stop request, and gives up only
when there is no event. -/
def step (s : Dispatcher) : DispatchAction → Dispatcher
  | .enqueue event => s.enqueue event
  | .pop =>
    match s.position with
    | .popping =>
      match s.queue.pop with
      | some (event, queue) => { s with queue := queue, position := .handling event }
      | none => if s.stopRequested then { s with position := .ended } else s
    | .handling _ | .handled _ | .ended => s
  | .handle env gateway =>
    match s.position with
    | .handling event =>
      { s with
        manager := dispatch s.manager ⟨event, env, gateway⟩, position := .handled event
        handled := s.handled ++ [event] }
    | .popping | .handled _ | .ended => s
  | .markProcessed =>
    match s.position with
    | .handled _ => { s with queue := s.queue.markProcessed, position := .popping }
    | .popping | .handling _ | .ended => s
  | .requestStop => { s with stopRequested := true }

/-- `wait_idle` may return. -/
def WaitIdleReturns (s : Dispatcher) : Prop := s.queue.totalProcessed = s.queue.totalPushed

/-- What holds of the events in every state. -/
structure Delivers (s : Dispatcher) : Prop where
  inOrder : s.handled <+: s.accepted
  refused : ∀ r ∈ s.refused, r.1.isMarketData = true ∧ maxMarketDataQueueDepth ≤ r.2
  dropped : s.queue.totalDropped = s.refused.length
  counted : s.queue.totalPushed =
    s.queue.totalProcessed + s.queue.q.length + s.position.busy
  idle : s.WaitIdleReturns → s.handled = s.accepted
  answered : List.Forall₂ OMEvent.Takes (s.handled.filter OMEvent.hasPromise) s.manager.replies

/-- The loop ends only after a stop request and with an empty queue. -/
def EndsEmpty (s : Dispatcher) (a : DispatchAction) : Prop :=
  s.position ≠ .ended → (s.step a).position = .ended → s.stopRequested = true ∧ s.queue.q = []

/-! ## What a step can do -/

/-- The steps, each with what it needs and what it leaves. -/
inductive Steps (s : Dispatcher) : DispatchAction → Dispatcher → Prop
  | taken {event : OMEvent} : s.queue.accepts event = true →
    s.Steps (.enqueue event)
      { s with queue := s.queue.push event, accepted := s.accepted ++ [event] }
  | dropped {event : OMEvent} : event.isMarketData = true →
    maxMarketDataQueueDepth ≤ s.queue.q.length →
    s.Steps (.enqueue event)
      { s with
        queue := { s.queue with totalDropped := s.queue.totalDropped + 1 }
        refused := s.refused ++ [(event, s.queue.q.length)] }
  | popped {event : OMEvent} {rest : List OMEvent} : s.position = .popping →
    s.queue.q = event :: rest →
    s.Steps .pop { s with queue := { s.queue with q := rest }, position := .handling event }
  | ended : s.position = .popping → s.stopRequested = true → s.queue.q = [] →
    s.Steps .pop { s with position := .ended }
  | handled {event : OMEvent} {env : Env} {gateway : GatewayAnswers} :
    s.position = .handling event →
    s.Steps (.handle env gateway)
      { s with
        manager := dispatch s.manager ⟨event, env, gateway⟩, position := .handled event
        handled := s.handled ++ [event] }
  | marked {event : OMEvent} : s.position = .handled event →
    s.Steps .markProcessed { s with queue := s.queue.markProcessed, position := .popping }
  | asked : s.Steps .requestStop { s with stopRequested := true }
  /-- The dispatch thread is elsewhere, or waits. -/
  | idle {a : DispatchAction} : a ≠ .requestStop → s.Steps a s

variable {s : Dispatcher}

/-- **Inversion.**  A step does one of these things. -/
theorem steps_step (s : Dispatcher) (a : DispatchAction) : s.Steps a (s.step a) := by
  cases a with
  | enqueue event =>
    unfold Dispatcher.step enqueue
    dsimp only
    cases haccepts : s.queue.accepts event with
    | true =>
      rw [if_pos rfl, EventQueue.enqueue_of_accepts haccepts]
      exact .taken haccepts
    | false =>
      obtain ⟨hmarket, hdepth, hdropped⟩ := EventQueue.enqueue_of_not_accepts haccepts
      rw [if_neg Bool.false_ne_true, hdropped]
      exact .dropped hmarket hdepth
  | requestStop => exact .asked
  | pop =>
    unfold Dispatcher.step
    cases hposition : s.position with
    | popping =>
      dsimp only
      cases hpop : s.queue.pop with
      | some popped =>
        obtain ⟨tail, hqueue, hrest⟩ := EventQueue.pop_eq_some_iff.mp hpop
        dsimp only
        rw [hrest]
        exact .popped hposition hqueue
      | none =>
        have hqueue : s.queue.q = [] := by
          unfold EventQueue.pop at hpop
          cases hq : s.queue.q with
          | nil => rfl
          | cons event rest =>
            rw [hq] at hpop
            cases hpop
        dsimp only
        split_ifs with hstop
        · exact .ended hposition hstop hqueue
        · exact .idle nofun
    | _ => exact .idle nofun
  | handle env gateway =>
    unfold Dispatcher.step
    cases hposition : s.position with
    | handling event => exact .handled hposition
    | _ => exact .idle nofun
  | markProcessed =>
    unfold Dispatcher.step
    cases hposition : s.position with
    | handled event => exact .marked hposition
    | _ => exact .idle nofun

/-! ## The queue with one consumer -/

/-- What the dispatch thread has in its hands. -/
def hands (s : Dispatcher) : WorkQueue.Hands OMEvent :=
  match s.position with
  | .popping | .ended => .free
  | .handling event => .taken [event]
  | .handled event => .given [event]

/-- The dispatcher as a queue with one consumer. -/
def work (s : Dispatcher) : WorkQueue OMEvent where
  waiting := s.queue.q
  hands := s.hands
  pushed := s.queue.totalPushed
  acknowledged := s.queue.totalProcessed
  accepted := s.accepted
  given := s.handled

/-- The move that a step is. -/
def move (s : Dispatcher) : DispatchAction → Option (WorkQueue.Move OMEvent)
  | .enqueue event => if s.queue.accepts event then some (.push event) else none
  | .pop =>
    match s.position with
    | .popping => if s.queue.q = [] then none else some (.take 1)
    | .handling _ | .handled _ | .ended => none
  | .handle _ _ => some .give
  | .markProcessed => some .acknowledge
  | .requestStop => none

/-- **Refinement.**  The dispatcher is a queue with one consumer. -/
theorem refines_workQueue :
    Trajectory.Refines Dispatcher.step WorkQueue.step (fun _ => True) work move := by
  refine ⟨fun _ _ _ => trivial, fun s a _ => ?_⟩
  obtain ⟨manager, queue, position, stopRequested, accepted, refused, handled⟩ := s
  cases a with
  | enqueue event =>
    unfold Dispatcher.step enqueue move
    dsimp only
    cases haccepts : queue.accepts event with
    | true =>
      rw [if_pos rfl, if_pos rfl, EventQueue.enqueue_of_accepts haccepts]
      rfl
    | false =>
      have hdropped := (EventQueue.enqueue_of_not_accepts haccepts).2.2
      rw [if_neg Bool.false_ne_true, if_neg Bool.false_ne_true, hdropped]
      rfl
  | pop =>
    cases position with
    | popping =>
      obtain ⟨q, pushed, processed, dropped⟩ := queue
      cases q with
      | nil => cases stopRequested <;> rfl
      | cons event rest => rfl
    | handling event => rfl
    | handled event => rfl
    | ended => rfl
  | handle env gateway => cases position <;> rfl
  | markProcessed => cases position <;> rfl
  | requestStop => rfl

/-- The accounts of the queue hold after every step. -/
lemma accounts_step (h : s.work.Accounts) (a : DispatchAction) : (s.step a).work.Accounts := by
  rw [refines_workQueue.step_eq s a trivial]
  cases s.move a with
  | none => exact h
  | some m => exact h.step m

/-! ## Every state of every run -/

/-- The handler of an event answers it, when it is a command. -/
lemma answered_dispatch {handled : List OMEvent} {manager : OrderManager}
    (h : List.Forall₂ OMEvent.Takes (handled.filter OMEvent.hasPromise) manager.replies)
    (event : OMEvent) (env : Env) (gateway : GatewayAnswers) :
    List.Forall₂ OMEvent.Takes ((handled ++ [event]).filter OMEvent.hasPromise)
      (dispatch manager ⟨event, env, gateway⟩).replies := by
  rw [List.filter_append]
  cases hpromise : event.hasPromise with
  | true =>
    obtain ⟨reply, hreplies, htakes⟩ := command_replies manager env gateway hpromise
    rw [hreplies, List.filter_cons_of_pos hpromise]
    exact List.rel_append h (.cons htakes .nil)
  | false =>
    have hnot : ¬ event.hasPromise = true := by rw [hpromise]; exact Bool.false_ne_true
    rw [dispatch_replies manager env gateway hpromise, List.filter_cons_of_neg hnot,
      List.filter_nil, List.append_nil]
    exact h

/-- The refused events and the answers are in order, besides the accounts of the queue. -/
structure Ordered (s : Dispatcher) : Prop where
  accounts : s.work.Accounts
  refused : ∀ r ∈ s.refused, r.1.isMarketData = true ∧ maxMarketDataQueueDepth ≤ r.2
  dropped : s.queue.totalDropped = s.refused.length
  answered : List.Forall₂ OMEvent.Takes (s.handled.filter OMEvent.hasPromise) s.manager.replies

/-- **Step lemma.**  A step keeps the order of the events and the answers. -/
theorem Ordered.step (h : s.Ordered) (a : DispatchAction) : (s.step a).Ordered := by
  have haccounts := accounts_step h.accounts a
  have hstep := s.steps_step a
  generalize s.step a = s' at haccounts hstep ⊢
  cases hstep with
  | taken haccepts => exact ⟨haccounts, h.refused, h.dropped, h.answered⟩
  | dropped hmarket hdepth =>
    refine ⟨haccounts, fun r hr => ?_, ?_, h.answered⟩
    · obtain hold | hnew := List.mem_append.mp hr
      · exact h.refused r hold
      · rw [List.mem_singleton.mp hnew]
        exact ⟨hmarket, hdepth⟩
    · rw [List.length_append, List.length_singleton, ← h.dropped]
  | popped hposition hqueue => exact ⟨haccounts, h.refused, h.dropped, h.answered⟩
  | ended hposition hstop hqueue => exact ⟨haccounts, h.refused, h.dropped, h.answered⟩
  | handled hposition =>
    exact ⟨haccounts, h.refused, h.dropped, answered_dispatch h.answered _ _ _⟩
  | marked hposition => exact ⟨haccounts, h.refused, h.dropped, h.answered⟩
  | asked => exact ⟨haccounts, h.refused, h.dropped, h.answered⟩
  | idle hidle => exact h

/-- What the accounts of the queue say about the dispatcher. -/
lemma Ordered.delivers (h : s.Ordered) : s.Delivers := by
  have hbusy : s.work.hands.work.length = s.position.busy := by
    change s.hands.work.length = _
    unfold hands
    cases s.position <;> rfl
  have hcounted := h.accounts.pushed_eq
  rw [hbusy] at hcounted
  refine ⟨h.accounts.given_prefix, h.refused, h.dropped, ?_, fun hidle => ?_, h.answered⟩
  · change s.queue.totalPushed = s.queue.totalProcessed + s.position.busy +
      s.queue.q.length at hcounted
    omega
  · exact h.accounts.given_eq_accepted (Nat.le_of_eq hidle.symm)

/-- The loop ends in `pop`, after a stop request, when there is no event. -/
lemma step_ended {a : DispatchAction} (hbefore : s.position ≠ .ended)
    (hafter : (s.step a).position = .ended) :
    s.stopRequested = true ∧ s.queue.q = [] ∧ s.position = .popping ∧
      s.step a = { s with position := .ended } := by
  have hstep := s.steps_step a
  generalize s.step a = s' at hafter hstep ⊢
  cases hstep with
  | ended hposition hstop hqueue => exact ⟨hstop, hqueue, hposition, rfl⟩
  | popped hposition hqueue => cases hafter
  | handled hposition => cases hafter
  | marked hposition => cases hafter
  | _ => exact absurd hafter hbefore

/-- What was accepted stays accepted, and what was handled stays handled. -/
lemma records_step (s : Dispatcher) (a : DispatchAction) :
    s.accepted <+: (s.step a).accepted ∧ s.handled <+: (s.step a).handled := by
  have hstep := s.steps_step a
  generalize s.step a = s' at hstep ⊢
  cases hstep with
  | taken haccepts => exact ⟨List.prefix_append _ _, List.prefix_rfl⟩
  | handled hposition => exact ⟨List.prefix_rfl, List.prefix_append _ _⟩
  | _ => exact ⟨List.prefix_rfl, List.prefix_rfl⟩

/-- Only the stop request changes whether the loop is asked to stop. -/
lemma stopRequested_step (s : Dispatcher) {a : DispatchAction} (ha : a ≠ .requestStop) :
    (s.step a).stopRequested = s.stopRequested := by
  have hstep := s.steps_step a
  generalize s.step a = s' at hstep ⊢
  cases hstep with
  | asked => exact absurd rfl ha
  | _ => rfl

/-- When the loop ends, every accepted event has been handled. -/
lemma handled_of_step_ended (h : s.work.Accounts) {a : DispatchAction}
    (hbefore : s.position ≠ .ended) (hafter : (s.step a).position = .ended) :
    (s.step a).handled = s.accepted ∧ (s.step a).accepted = s.accepted := by
  obtain ⟨-, hqueue, hposition, hstep⟩ := step_ended hbefore hafter
  have hfree : s.hands = .free := by
    unfold hands
    rw [hposition]
  have haccepted : s.accepted = s.handled ++ s.hands.pending ++ s.queue.q := h.accepted_eq
  rw [hfree, hqueue, List.append_nil] at haccepted
  rw [hstep]
  exact ⟨haccepted.symm ▸ (List.append_nil _).symm, rfl⟩

/-- The loop ends with an empty queue. -/
lemma endsEmpty (s : Dispatcher) (a : DispatchAction) : s.EndsEmpty a := by
  intro hbefore hafter
  obtain ⟨hstop, hqueue, -⟩ := step_ended hbefore hafter
  exact ⟨hstop, hqueue⟩

end Dispatcher

/-- **Delivery of the events**, in every state of every run of a new order manager; and the loop
ends only with an empty queue. -/
theorem events_delivered (accountId : String) (orderStore : SQLiteOrderStore)
    (riskManager : RiskManager) (actions : List DispatchAction) :
    Trajectory.EveryState Dispatcher.step Dispatcher.Delivers
        (Dispatcher.start accountId orderStore riskManager) actions ∧
      Trajectory.AllSteps Dispatcher.step Dispatcher.EndsEmpty
        (Dispatcher.start accountId orderStore riskManager) actions := by
  have hstart : (Dispatcher.start accountId orderStore riskManager).Ordered := by
    refine ⟨WorkQueue.accounts_empty, fun r hr => ?_, rfl, .nil⟩
    exact absurd hr List.not_mem_nil
  have hordered : Trajectory.EveryState Dispatcher.step Dispatcher.Ordered
      (Dispatcher.start accountId orderStore riskManager) actions :=
    Trajectory.everyState_of_step (fun s a h => h.step a) hstart
  refine ⟨hordered.mono fun s h => h.delivers, ?_⟩
  exact hordered.allSteps fun s a _ => s.endsEmpty a

end Quarcc
