import QuarccEngine.Library.Fairness
import QuarccEngine.TradingEngine.Calls
import QuarccEngine.TradingEngine.Lifetimes

/-!
# No request waits for ever

A request enqueues a command and waits for its promise, while the dispatch thread works off a queue
that the gateway, the feeds and other requests keep filling.  The main result says that the dispatch
thread fulfils the promises of all commands that wait at some moment, in their order, however many
events come in behind them.  It needs that the thread takes its steps again and again and that its
handlers return.
-/

namespace Quarcc

/-! ## The dispatch thread -/

/-- A step of a dispatch thread. -/
inductive Turn where
  | pop
  | finish
  | endLoop
  deriving DecidableEq

/-- The step is this one, of the dispatch thread of `m`. -/
def Turn.Of (m : ManagerId) : Turn → Action → Prop
  | .pop, a => a = .pop m
  | .finish, a => ∃ env gateway, a = .finish m env gateway
  | .endLoop, a => a = .endLoop m

/-- The dispatch thread of `m` takes each of its steps again and again. -/
def DispatchFair (m : ManagerId) (schedule : ℕ → Action) : Prop :=
  ∀ turn : Turn, Fairness.Recurs (turn.Of m) schedule

namespace Managed

variable {o : Managed}

/-- The dispatch loop has not ended. -/
def Looping (o : Managed) : Prop := o.phase = .running ∨ o.phase = .stopping

instance (o : Managed) : Decidable o.Looping := inferInstanceAs (Decidable (_ ∨ _))

/-- The events that are not handled yet, the one that is handled now first. -/
def waiting (o : Managed) : List OMEvent := o.handling.toList ++ o.queue.q

/-- A pop of the next event, if the loop goes on and handles nothing. -/
lemma pop_cases (hloop : o.Looping) :
    (o.handling ≠ none ∨ o.queue.q = []) ∧ o.pop = o ∨
      ∃ event rest, o.handling = none ∧ o.queue.q = event :: rest ∧
        o.pop = { o with queue := { o.queue with q := rest }, handling := some event } := by
  unfold pop
  by_cases hhandling : o.handling = none
  · rw [if_pos ⟨hloop, hhandling⟩]
    unfold EventQueue.pop
    cases hq : o.queue.q with
    | nil => exact Or.inl ⟨Or.inr rfl, rfl⟩
    | cons event rest => exact Or.inr ⟨event, rest, hhandling, rfl, rfl⟩
  · rw [if_neg fun hready => hhandling hready.2]
    exact Or.inl ⟨Or.inl hhandling, rfl⟩

/-- A handler returns, if one is running. -/
lemma finish_cases (o : Managed) (env : Env) (gateway : GatewayAnswers) :
    o.handling = none ∧ o.finish env gateway = o ∨
      ∃ event, o.handling = some event ∧
        o.finish env gateway =
          { o with
            account := o.account.step ⟨event, env, gateway⟩
            queue := o.queue.markProcessed
            handling := none
            halted := o.halted || fulfils event } := by
  unfold finish
  cases hhandling : o.handling with
  | none => exact Or.inl ⟨rfl, rfl⟩
  | some event => exact Or.inr ⟨event, rfl, rfl⟩

/-- An event comes in: at the end of the queue, or not at all. -/
lemma enqueue_cases (o : Managed) (event : OMEvent) :
    o.enqueue event = o ∨ ∃ queue, o.enqueue event = { o with queue := queue } ∧
      (queue.q = o.queue.q ∨ queue.q = o.queue.q ++ [event]) := by
  unfold enqueue
  split_ifs with hgone
  · exact Or.inl rfl
  · exact Or.inr ⟨_, rfl, enqueue_q_cases o.queue event⟩

/-- The promises that are fulfilled when a handler returns. -/
lemma replies_finish (event : OMEvent) (env : Env) (gateway : GatewayAnswers) :
    ∃ answers, List.Forall₂ OMEvent.Takes ([event].filter OMEvent.hasPromise) answers ∧
      (dispatch o.account.1 ⟨event, env, gateway⟩).replies = o.replies ++ answers := by
  by_cases hpromise : event.hasPromise = true
  · obtain ⟨reply, hreply, htakes⟩ := command_replies o.account.1 env gateway hpromise
    refine ⟨[reply], ?_, hreply⟩
    rw [List.filter_cons_of_pos hpromise]
    exact .cons htakes .nil
  · rw [Bool.not_eq_true] at hpromise
    refine ⟨[], ?_, ?_⟩
    · rw [List.filter_cons_of_neg (by simp [hpromise])]
      exact .nil
    · rw [dispatch_replies o.account.1 env gateway hpromise, List.append_nil]
      rfl

/-! ## What is still to be answered -/

/-- Of the events `events`, which waited when the promises `replies` were fulfilled, those before
`left` have been handled and nothing else has. -/
structure Answering (events : List OMEvent) (replies : List Reply) (left : List OMEvent)
    (o : Managed) : Prop where
  looping : o.Looping
  answered : ∃ done answers, events = done ++ left ∧
    List.Forall₂ OMEvent.Takes (done.filter OMEvent.hasPromise) answers ∧
    o.replies = replies ++ answers
  left_prefix : left <+: o.waiting

variable {events left : List OMEvent} {replies : List Reply}

/-- Nothing of what waits now has been handled. -/
lemma answering_start (hloop : o.Looping) : Answering o.waiting o.replies o.waiting o where
  looping := hloop
  answered := ⟨[], [], rfl, .nil, by rw [List.append_nil]⟩
  left_prefix := List.prefix_rfl

/-- A change that handles nothing. -/
lemma Answering.of_waiting (h : Answering events replies left o) {o' : Managed}
    (hloop : o'.Looping) (hreplies : o'.replies = o.replies) (hwaiting : o.waiting <+: o'.waiting) :
    Answering events replies left o' where
  looping := hloop
  answered := by
    rw [hreplies]
    exact h.answered
  left_prefix := h.left_prefix.trans hwaiting

/-- Another event comes in. -/
lemma Answering.enqueue (h : Answering events replies left o) (event : OMEvent) :
    Answering events replies left (o.enqueue event) := by
  rcases o.enqueue_cases event with hsame | ⟨queue, hqueue, hq⟩
  · rwa [hsame]
  · rw [hqueue]
    refine h.of_waiting h.looping rfl ?_
    change o.handling.toList ++ o.queue.q <+: o.handling.toList ++ queue.q
    rcases hq with hq | hq
    · exact ⟨[], by rw [hq, List.append_nil]⟩
    · rw [hq, ← List.append_assoc]
      exact List.prefix_append _ _

/-- The destructor begins. -/
lemma Answering.stop (h : Answering events replies left o) :
    Answering events replies left o.stop := by
  rcases o.stop_cases with hsame | ⟨-, hstop⟩
  · rwa [hsame]
  · rw [hstop]
    exact h.of_waiting (Or.inr rfl) rfl List.prefix_rfl

/-- What is left still waits: it is handled now, or it is in the queue. -/
lemma Answering.handling_or_q (h : Answering events replies left o) (hleft : left ≠ []) :
    ¬ (o.handling = none ∧ o.queue.q = []) := by
  rintro ⟨hhandling, hq⟩
  have hprefix := h.left_prefix
  unfold waiting at hprefix
  rw [hhandling, hq] at hprefix
  exact hleft (List.prefix_nil.mp hprefix)

/-- The loop does not end as long as something waits. -/
lemma Answering.endLoop (h : Answering events replies left o) (hleft : left ≠ []) :
    o.endLoop = o := by
  unfold Managed.endLoop
  rw [if_neg]
  rintro ⟨-, hidle⟩
  exact h.handling_or_q hleft hidle

/-- The next event is popped. -/
lemma Answering.pop (h : Answering events replies left o) :
    Answering events replies left o.pop := by
  rcases pop_cases h.looping with ⟨-, hsame⟩ | ⟨event, rest, hhandling, hq, hpop⟩
  · rwa [hsame]
  · rw [hpop]
    refine h.of_waiting h.looping rfl ?_
    unfold waiting
    rw [hhandling, hq]
    exact List.prefix_rfl

/-- The handler of the first event returns. -/
lemma Answering.finish {event : OMEvent} (h : Answering events replies (event :: left) o)
    (hhandling : o.handling ≠ none) (env : Env) (gateway : GatewayAnswers) :
    Answering events replies left (o.finish env gateway) := by
  rcases o.finish_cases env gateway with ⟨hnone, -⟩ | ⟨event', hevent, hfinish⟩
  · exact absurd hnone hhandling
  have hprefix := h.left_prefix
  unfold waiting at hprefix
  rw [hevent] at hprefix
  obtain ⟨rfl, htail⟩ := List.cons_prefix_cons.mp hprefix
  obtain ⟨answers, htakes, hreplies⟩ := o.replies_finish event env gateway
  obtain ⟨done, before, hevents, hdone, hbefore⟩ := h.answered
  rw [hfinish]
  refine ⟨h.looping, ⟨done ++ [event], before ++ answers, ?_, ?_, ?_⟩, htail⟩
  · rw [hevents, List.append_assoc]
    rfl
  · rw [List.filter_append]
    exact List.rel_append hdone htakes
  · rw [← List.append_assoc, ← hbefore]
    exact hreplies

/-- How much the dispatch thread has still to do. -/
def stepsLeft (left : List OMEvent) (o : Managed) : ℕ :=
  2 * left.length + if o.handling = none then 1 else 0

/-- What the dispatch thread has to do next when something waits. -/
def nextTurn (o : Managed) : Turn := if o.handling = none then .pop else .finish

end Managed

/-! ## What a step does to one order manager -/

/-- What a step of the engine may make of the order manager `m`. -/
inductive Managed.Changes (m : ManagerId) (o : Managed) : Action → Managed → Prop
  | same {a : Action} (hother : ∀ turn : Turn, ¬ turn.Of m a) : Changes m o a o
  | enqueued {a : Action} {event : OMEvent} (hother : ∀ turn : Turn, ¬ turn.Of m a)
      (hfrom : a = .deliver m event ∨ (∃ k, a = .enqueue k) ∨ a = .proceed) :
    Changes m o a (o.enqueue event)
  | popped : Changes m o (.pop m) o.pop
  | finished {env : Env} {gateway : GatewayAnswers} :
    Changes m o (.finish m env gateway) (o.finish env gateway)
  | loopEnded : Changes m o (.endLoop m) o.endLoop
  | stopped {a : Action} (hother : ∀ turn : Turn, ¬ turn.Of m a) : Changes m o a o.stop
  | joined {a : Action} (hother : ∀ turn : Turn, ¬ turn.Of m a) (hended : o.phase = .ended) :
    Changes m o a o.destroy

namespace TradingEngine

variable {e : TradingEngine} {m : ManagerId} {o : Managed}

/-- An order manager that is not changed, or is. -/
lemma objects_modify_of_some (ho : e.objects[m]? = some o) (m' : ManagerId)
    (f : Managed → Managed) :
    (e.modify m' f).objects[m]? = some (if m' = m then f o else o) := by
  rw [objects_modify, ho, Option.map_some]

/-- A step that is none of its dispatch thread. -/
lemma changes_of_other (ho : e.objects[m]? = some o) {a : Action}
    (hother : ∀ turn : Turn, ¬ turn.Of m a) :
    ∃ o', (e.step a).objects[m]? = some o' ∧ o.Changes m a o' := by
  have henqueue : ∀ (m' : ManagerId) (event : OMEvent),
      a = .deliver m' event ∨ (∃ k, a = .enqueue k) ∨ a = .proceed →
      ∃ o', (e.modify m' (Managed.enqueue · event)).objects[m]? = some o' ∧ o.Changes m a o' := by
    intro m' event hfrom
    refine ⟨_, objects_modify_of_some ho m' _, ?_⟩
    split_ifs with hm
    · exact .enqueued hother (hm ▸ hfrom)
    · exact .same hother
  have hstep := e.steps_step a
  generalize e.step a = e' at hstep ⊢
  cases hstep with
  | registered _ _ =>
    refine ⟨o, ?_, .same hother⟩
    exact (List.getElem?_append_left (List.getElem?_eq_some_iff.mp ho).1).trans ho
  | found _ _ | stopBegun _ _ | haltBegun _ _ | awaited _ _ _ | returned _ _ | idle =>
    exact ⟨o, ho, .same hother⟩
  | enqueued _ => exact henqueue _ _ (Or.inr (Or.inl ⟨_, rfl⟩))
  | delivered => exact henqueue _ _ (Or.inl rfl)
  | cancelled _ _ => exact henqueue _ _ (Or.inr (Or.inr rfl))
  | @popped m' =>
    have hm : m' ≠ m := fun hm => hother .pop (congrArg Action.pop hm)
    exact ⟨o, by rw [objects_modify_of_some ho m', if_neg hm], .same hother⟩
  | @finished m' env gateway =>
    have hm : m' ≠ m := fun hm => hother .finish ⟨env, gateway, by rw [hm]⟩
    exact ⟨o, by rw [objects_modify_of_some ho m', if_neg hm], .same hother⟩
  | @loopEnded m' =>
    have hm : m' ≠ m := fun hm => hother .endLoop (congrArg Action.endLoop hm)
    exact ⟨o, by rw [objects_modify_of_some ho m', if_neg hm], .same hother⟩
  | @stopped kill m' rest _ _ =>
    refine ⟨_, objects_modify_of_some ho m' _, ?_⟩
    split_ifs
    · exact .stopped hother
    · exact .same hother
  | @joined kill m' rest _ _ hended =>
    refine ⟨_, objects_modify_of_some ho m' _, ?_⟩
    split_ifs with hm
    · rw [hm, ho] at hended
      exact .joined hother (Option.some.inj hended)
    · exact .same hother

/-- **Step lemma.**  A step keeps an order manager or changes it in one of these ways. -/
theorem changes_step (ho : e.objects[m]? = some o) (a : Action) :
    ∃ o', (e.step a).objects[m]? = some o' ∧ o.Changes m a o' := by
  by_cases hother : ∀ turn : Turn, ¬ turn.Of m a
  · exact changes_of_other ho hother
  push Not at hother
  obtain ⟨turn, hturn⟩ := hother
  cases turn with
  | pop =>
    obtain rfl : a = .pop m := hturn
    exact ⟨o.pop, by rw [step, objects_modify_of_some ho, if_pos rfl], .popped⟩
  | finish =>
    obtain ⟨env, gateway, rfl⟩ := hturn
    exact ⟨o.finish env gateway, by rw [step, objects_modify_of_some ho, if_pos rfl], .finished⟩
  | endLoop =>
    obtain rfl : a = .endLoop m := hturn
    exact ⟨o.endLoop, by rw [step, objects_modify_of_some ho, if_pos rfl], .loopEnded⟩

end TradingEngine

/-! ## Progress of one order manager -/

namespace Managed

variable {o o' : Managed} {m : ManagerId} {a : Action} {events left : List OMEvent}
  {replies : List Reply}

/-- What a step makes of an order manager with waiting events: it takes its turn and has less to do,
or it has as much to do and the turn was not taken. -/
lemma Answering.changes (h : Answering events replies left o) (hleft : left ≠ [])
    (hchanges : o.Changes m a o') :
    (∃ left', Answering events replies left' o' ∧ stepsLeft left' o' < stepsLeft left o) ∨
      Answering events replies left o' ∧ o'.handling = o.handling ∧ ¬ o.nextTurn.Of m a := by
  cases hchanges with
  | same hother => exact Or.inr ⟨h, rfl, hother _⟩
  | @enqueued a event hother _ =>
    exact Or.inr ⟨h.enqueue event, o.enqueue_handling event, hother _⟩
  | popped =>
    rcases pop_cases h.looping with ⟨hbusy, hsame⟩ | ⟨event, rest, hhandling, hq, hpop⟩
    · refine Or.inr ⟨hsame.symm ▸ h, congrArg handling hsame, ?_⟩
      have hhandling : o.handling ≠ none := by
        intro hnone
        exact h.handling_or_q hleft ⟨hnone, hbusy.resolve_left (not_not_intro hnone)⟩
      unfold nextTurn
      rw [if_neg hhandling]
      simp [Turn.Of]
    · refine Or.inl ⟨left, h.pop, ?_⟩
      unfold stepsLeft
      rw [hpop, hhandling]
      simp
  | @finished env gateway =>
    rcases o.finish_cases env gateway with ⟨hnone, hsame⟩ | ⟨event, hevent, -⟩
    · refine Or.inr ⟨hsame.symm ▸ h, congrArg handling hsame, ?_⟩
      unfold nextTurn
      rw [if_pos hnone]
      simp [Turn.Of]
    · obtain ⟨first, rest, rfl⟩ := List.exists_cons_of_ne_nil hleft
      have hhandling : o.handling ≠ none := by simp [hevent]
      refine Or.inl ⟨rest, h.finish hhandling env gateway, ?_⟩
      unfold stepsLeft
      rw [if_neg hhandling, finish_handling, if_pos rfl, List.length_cons]
      omega
  | loopEnded =>
    rw [h.endLoop hleft]
    refine Or.inr ⟨h, rfl, ?_⟩
    unfold nextTurn
    split_ifs <;> simp [Turn.Of]
  | stopped hother =>
    refine Or.inr ⟨h.stop, ?_, hother _⟩
    rcases o.stop_cases with hsame | ⟨-, hstop⟩
    · rw [hsame]
    · rw [hstop]
  | joined _ hended =>
    rcases h.looping with hrunning | hstopping
    · simp [hrunning] at hended
    · simp [hstopping] at hended

end Managed

/-! ## Runs -/

namespace TradingEngine

/-- Some of the events that waited are left; so much is to be done, and this comes next. -/
def Unanswered (m : ManagerId) (events : List OMEvent) (replies : List Reply) (v : ℕ) (turn : Turn)
    (e : TradingEngine) : Prop :=
  ∃ o left, e.objects[m]? = some o ∧ left ≠ [] ∧ Managed.Answering events replies left o ∧
    Managed.stepsLeft left o = v ∧ o.nextTurn = turn

/-- All of the events that waited have been handled, and nothing else since. -/
def Answered (m : ManagerId) (events : List OMEvent) (replies : List Reply) (e : TradingEngine) :
    Prop :=
  ∃ o, e.objects[m]? = some o ∧ Managed.Answering events replies [] o

variable {e : TradingEngine} {m : ManagerId} {o : Managed} {events : List OMEvent}
  {replies : List Reply}

/-- The events that are left have a rank, or there are none. -/
lemma answered_or_unanswered {left : List OMEvent} (ho : e.objects[m]? = some o)
    (h : Managed.Answering events replies left o) :
    e.Answered m events replies ∨
      e.Unanswered m events replies (Managed.stepsLeft left o) o.nextTurn := by
  rcases eq_or_ne left [] with rfl | hleft
  · exact Or.inl ⟨o, ho, h⟩
  · exact Or.inr ⟨o, left, ho, hleft, h, rfl, rfl⟩

/-- **Step lemma.**  A step answers something, or leaves what is to be done and is not the next step
of the dispatch thread. -/
lemma Unanswered.step {v : ℕ} {turn : Turn} (h : e.Unanswered m events replies v turn)
    (a : Action) :
    (e.step a).Answered m events replies ∨
      (∃ v' turn', v' < v ∧ (e.step a).Unanswered m events replies v' turn') ∨
      (e.step a).Unanswered m events replies v turn ∧ ¬ turn.Of m a := by
  obtain ⟨o, left, ho, hleft, hanswering, rfl, rfl⟩ := h
  obtain ⟨o', ho', hchanges⟩ := changes_step ho a
  rcases hanswering.changes hleft hchanges with
    ⟨left', hanswering', hless⟩ | ⟨hanswering', hhandling, hnot⟩
  · exact (answered_or_unanswered ho' hanswering').imp_right fun h => Or.inl ⟨_, _, hless, h⟩
  · refine Or.inr (Or.inr ⟨⟨o', left, ho', hleft, hanswering', ?_, ?_⟩, hnot⟩)
    · unfold Managed.stepsLeft
      rw [hhandling]
    · unfold Managed.nextTurn
      rw [hhandling]

/-- **No request waits for ever.**  Whatever commands wait at an order manager whose dispatch loop
has not ended, its dispatch thread fulfils all their promises, in their order and each with a value
of its type, whatever the other threads do in the meantime, as long as it takes its own steps again
and again. -/
theorem requests_never_starve (e : TradingEngine) (schedule : ℕ → Action) {m : ManagerId}
    {o : Managed} (ho : e.objects[m]? = some o) (hloop : o.Looping)
    (hfair : DispatchFair m schedule) :
    ∃ n o' answers, (Fairness.state TradingEngine.step e schedule n).objects[m]? = some o' ∧
      List.Forall₂ OMEvent.Takes (o.waiting.filter OMEvent.hasPromise) answers ∧
      o'.replies = o.replies ++ answers := by
  have hgoal : ∃ n, (Fairness.state TradingEngine.step e schedule n).Answered m o.waiting
      o.replies := by
    rcases answered_or_unanswered ho (Managed.answering_start hloop) with hdone | hstart
    · exact ⟨0, hdone⟩
    refine Fairness.eventually_of_ranked (Unanswered m o.waiting o.replies) (fun _ _ => True)
      (fun _ _ => True) (fun turn => turn.Of m) ?_ ?_ ?_ (fun _ => trivial)
      ⟨0, fun _ _ => trivial⟩ hstart
    · intro v turn e a h _
      rcases h.step a with hdone | ⟨v', turn', -, h'⟩ | ⟨h', -⟩
      · exact Or.inl hdone
      · exact Or.inr ⟨v', turn', h'⟩
      · exact Or.inr ⟨v, turn, h'⟩
    · exact fun v turn e a h _ _ => h.step a
    · exact fun v turn e _ => hfair turn
  obtain ⟨n, o', ho', hanswering⟩ := hgoal
  obtain ⟨done, answers, hdone, htakes, hreplies⟩ := hanswering.answered
  rw [List.append_nil] at hdone
  subst hdone
  exact ⟨n, o', answers, ho', htakes, hreplies⟩

/-- A strategy with an order that waits in the queue. -/
def orderWaits : TradingEngine :=
  Trajectory.run TradingEngine.step {}
    [.registerStrategy "S" "ACC" .empty ⟨{}⟩,
      .lookup (.submitSignal
        { strategyId := "S", symbol := "AAPL", side := .buy, targetQuantity := 10 }),
      .enqueue 0]

/-- The dispatch thread goes on and on while reports keep coming in. -/
def reportsComeIn : ℕ → Action :=
  Fairness.repeating
    [.pop 0, .finish 0 .quiet (.accepting "B1"), .endLoop 0,
      .deliver 0 (.executionReport { brokerOrderId := "B2" })] (by decide)

/-- The dispatch thread takes its steps again and again. -/
lemma dispatchFair_reportsComeIn : DispatchFair 0 reportsComeIn := by
  rintro (_ | _ | _)
  · exact Fairness.recurs_repeating _ (i := .pop 0) (by simp) rfl
  · exact Fairness.recurs_repeating _ (i := .finish 0 .quiet (.accepting "B1")) (by simp)
      ⟨_, _, rfl⟩
  · exact Fairness.recurs_repeating _ (i := .endLoop 0) (by simp) rfl

/-- The order is answered although reports never stop coming in. -/
theorem requests_never_starve_reports :
    ∃ o, orderWaits.objects[0]? = some o ∧
      (o.waiting.filter OMEvent.hasPromise).length = 1 ∧
      ∃ n o' answers, (Fairness.state TradingEngine.step orderWaits reportsComeIn n).objects[0]? =
          some o' ∧
        List.Forall₂ OMEvent.Takes (o.waiting.filter OMEvent.hasPromise) answers ∧
        o'.replies = o.replies ++ answers := by
  have hsome : (orderWaits.objects[0]?.map fun o =>
      (decide o.Looping, (o.waiting.filter OMEvent.hasPromise).length)) = some (true, 1) := by
    decide +kernel
  obtain ⟨o, ho, hlooping⟩ := Option.map_eq_some_iff.mp hsome
  obtain ⟨hloop, hlength⟩ := Prod.mk.inj hlooping
  exact ⟨o, ho, hlength, requests_never_starve orderWaits reportsComeIn ho (of_decide_eq_true hloop)
    dispatchFair_reportsComeIn⟩

end TradingEngine

end Quarcc
