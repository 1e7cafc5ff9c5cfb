import QuarccEngine.TradingEngine.Starvation
import Mathlib.Data.Prod.Lex

/-!
# What is left of a kill switch

`stop_strategy` and `halt_all` hold `managers_mu_` while they wait twice for every order manager:
for the promise of their command, and for the end of the dispatch thread.  All requests wait for the
lock in the meantime.

The invariant `Underway` ties the calls that are still to be made to the state of the order
managers:  a promise that is waited for is on its way, and a dispatch thread that is joined was
asked to stop.  What is left to do is measured by the number of the calls, then by the number of
requests that have still to enqueue their command, and then by the work of the dispatch thread that
is waited for.  Every step makes it smaller, or is not the one that has to come next, as long as
nothing comes in for an order manager whose dispatch thread was asked to stop.  The threads of the
gateways, which the destructors wait for as well, are left to `GatewayJoins`.
-/

namespace Quarcc

/-! ## The calls -/

namespace KillStep

/-- The order manager that is called. -/
def manager : KillStep → ManagerId
  | cancelAll m | await m | stop m | join m => m

/-- The two calls may come in this order. -/
def Before : KillStep → KillStep → Prop
  | cancelAll _, _ => True
  | await m, cancelAll m' => m ≠ m'
  | await _, _ => True
  | stop m, stop m' => m ≠ m'
  | stop _, join _ => True
  | join m, stop m' | join m, join m' => m ≠ m'
  | stop _, _ | join _, _ => False

end KillStep

/-- The calls that are still to be made, as a kill switch leaves them. -/
structure KillSwitch.Plan (todo : List KillStep) : Prop where
  order : todo.Pairwise KillStep.Before
  stops : ∀ m, .cancelAll m ∈ todo ∨ .await m ∈ todo → .stop m ∈ todo
  joins : ∀ m, .stop m ∈ todo → .join m ∈ todo

namespace KillSwitch

variable {affected : List ManagerId} {first : KillStep} {rest : List KillStep}

/-- The order managers are called one after the other before they are destroyed. -/
lemma pairwise_cancels (hnodup : affected.Nodup) :
    (affected.flatMap fun m => [KillStep.cancelAll m, .await m]).Pairwise KillStep.Before := by
  induction affected with
  | nil => exact .nil
  | cons m affected ih =>
    obtain ⟨hm, hnodup⟩ := List.nodup_cons.mp hnodup
    refine .cons (fun _ _ => trivial) (.cons (fun call hcall => ?_) (ih hnodup))
    obtain ⟨m', hm', hcall⟩ := List.mem_flatMap.mp hcall
    simp only [List.mem_cons, List.not_mem_nil, or_false] at hcall
    rcases hcall with rfl | rfl
    · exact fun heq => hm (heq ▸ hm')
    · trivial

/-- The order managers are destroyed one after the other. -/
lemma pairwise_destroys (hnodup : affected.Nodup) :
    (affected.flatMap fun m => [KillStep.stop m, .join m]).Pairwise KillStep.Before := by
  induction affected with
  | nil => exact .nil
  | cons m affected ih =>
    obtain ⟨hm, hnodup⟩ := List.nodup_cons.mp hnodup
    have hlater : ∀ call ∈ affected.flatMap fun m => [KillStep.stop m, .join m],
        KillStep.Before (.stop m) call ∧ KillStep.Before (.join m) call := by
      intro call hcall
      obtain ⟨m', hm', hcall⟩ := List.mem_flatMap.mp hcall
      have hne : m ≠ m' := fun heq => hm (heq ▸ hm')
      simp only [List.mem_cons, List.not_mem_nil, or_false] at hcall
      rcases hcall with rfl | rfl
      · exact ⟨hne, hne⟩
      · exact ⟨trivial, hne⟩
    refine .cons (fun call hcall => ?_) (.cons (fun call hcall => (hlater call hcall).2)
      (ih hnodup))
    rcases List.mem_cons.mp hcall with rfl | hcall
    · trivial
    · exact (hlater call hcall).1

/-- The calls at the beginning. -/
lemma plan_calls (hnodup : affected.Nodup) : Plan (calls affected) where
  order := by
    refine List.pairwise_append.mpr
      ⟨pairwise_cancels hnodup, pairwise_destroys hnodup, fun call hcall call' hcall' => ?_⟩
    obtain ⟨m, -, hcall⟩ := List.mem_flatMap.mp hcall
    obtain ⟨m', -, hcall'⟩ := List.mem_flatMap.mp hcall'
    simp only [List.mem_cons, List.not_mem_nil, or_false] at hcall hcall'
    rcases hcall with rfl | rfl <;> rcases hcall' with rfl | rfl <;> trivial
  stops := by simp [calls]
  joins := by simp [calls]

/-- A call has been made. -/
lemma Plan.tail (h : Plan (first :: rest)) : Plan rest where
  order := h.order.tail
  stops := by
    intro m hm
    have hstop := h.stops m (hm.imp (List.mem_cons_of_mem _) (List.mem_cons_of_mem _))
    rcases List.mem_cons.mp hstop with rfl | hstop
    · -- the destructors come last
      rcases hm with hm | hm <;> exact (List.rel_of_pairwise_cons h.order hm).elim
    · exact hstop
  joins := by
    intro m hm
    rcases List.mem_cons.mp (h.joins m (List.mem_cons_of_mem _ hm)) with rfl | hjoin
    · exact absurd rfl (List.rel_of_pairwise_cons h.order hm)
    · exact hjoin

end KillSwitch

/-! ## The order managers -/

namespace Managed

variable {o : Managed}

/-- The command of a kill switch has been handled, is handled now, or waits in the queue. -/
def WillHalt (o : Managed) : Prop := o.halted = true ∨ ∃ event ∈ o.waiting, fulfils event = true

/-- Another event comes in. -/
lemma WillHalt.enqueue (h : o.WillHalt) (event : OMEvent) : (o.enqueue event).WillHalt := by
  rcases o.enqueue_cases event with hsame | ⟨queue, hqueue, hq⟩
  · rwa [hsame]
  · rw [hqueue]
    refine h.imp_right ?_
    rintro ⟨command, hmem, hfulfils⟩
    refine ⟨command, ?_, hfulfils⟩
    unfold waiting at hmem ⊢
    rcases hq with hq | hq
    · simpa [hq] using hmem
    · rw [hq, ← List.append_assoc]
      exact List.mem_append_left _ hmem

/-- The command of a kill switch comes in. -/
lemma willHalt_enqueue (halive : o.phase ≠ .destroyed) (reason initiatedBy : String) :
    (o.enqueue (.cancelAllCommand reason initiatedBy)).WillHalt := by
  refine Or.inr ⟨.cancelAllCommand reason initiatedBy, ?_, rfl⟩
  unfold enqueue
  rw [if_neg halive]
  exact List.mem_append_right _ (List.mem_append_right _ (List.mem_singleton.mpr rfl))

/-- The next event is popped. -/
lemma WillHalt.pop (h : o.WillHalt) : o.pop.WillHalt := by
  by_cases hloop : o.Looping
  · rcases pop_cases hloop with ⟨-, hsame⟩ | ⟨event, rest, hhandling, hq, hpop⟩
    · rwa [hsame]
    · have hwaiting : o.pop.waiting = o.waiting := by
        unfold waiting
        rw [hpop, hhandling, hq]
        rfl
      rw [WillHalt, hwaiting, o.pop_account.2]
      exact h
  · unfold Managed.pop
    rwa [if_neg fun hready => hloop hready.1]

/-- A handler returns. -/
lemma WillHalt.finish (h : o.WillHalt) (env : Env) (gateway : GatewayAnswers) :
    (o.finish env gateway).WillHalt := by
  rcases o.finish_cases env gateway with ⟨-, hsame⟩ | ⟨event, hevent, hfinish⟩
  · rwa [hsame]
  · rw [hfinish]
    rcases h with hhalted | ⟨command, hmem, hfulfils⟩
    · exact Or.inl (by rw [hhalted, Bool.true_or])
    · unfold waiting at hmem
      rw [hevent] at hmem
      rcases List.mem_cons.mp hmem with rfl | hmem
      · exact Or.inl (by rw [hfulfils, Bool.or_true])
      · exact Or.inr ⟨command, hmem, hfulfils⟩

lemma WillHalt.endLoop (h : o.WillHalt) : o.endLoop.WillHalt := by
  rcases o.endLoop_cases with hsame | ⟨-, -, hended⟩
  · rwa [hsame]
  · rw [hended]
    exact h

lemma WillHalt.stop (h : o.WillHalt) : o.stop.WillHalt := by
  rcases o.stop_cases with hsame | ⟨-, hstop⟩
  · rwa [hsame]
  · rw [hstop]
    exact h

/-- The promise stays on its way, whatever a step does. -/
lemma WillHalt.changes {o' : Managed} {m : ManagerId} {a : Action} (h : o.WillHalt)
    (hchanges : o.Changes m a o') : o'.WillHalt := by
  cases hchanges with
  | same _ => exact h
  | enqueued _ _ => exact h.enqueue _
  | popped => exact h.pop
  | finished => exact h.finish _ _
  | loopEnded => exact h.endLoop
  | stopped _ => exact h.stop
  | joined _ _ => exact h

end Managed

/-! ## The work that is waited for -/

namespace Managed

variable {o o' : Managed} {m : ManagerId} {a : Action}

/-- What the dispatch thread has to do next. -/
def lastTurn (o : Managed) : Turn :=
  if o.handling = none then if o.queue.q = [] then .endLoop else .pop else .finish

/-- How many steps the dispatch thread takes until it has handled the command of the kill switch. -/
def untilHalted (o : Managed) : ℕ :=
  2 * o.waiting.findIdx fulfils + if o.handling = none then 1 else 0

/-- How many steps the dispatch thread takes until its loop ends, when nothing comes in. -/
def untilEnded (o : Managed) : ℕ :=
  2 * o.waiting.length + if o.handling = none then 1 else 0

/-- A pop is either the next step of the dispatch thread or none at all. -/
lemma pop_turn (hloop : o.Looping) :
    o.lastTurn ≠ .pop ∧ o.pop = o ∨
      o.handling = none ∧ o.pop.handling ≠ none ∧ o.pop.waiting = o.waiting := by
  rcases pop_cases hloop with ⟨hbusy, hsame⟩ | ⟨event, rest, hhandling, hq, hpop⟩
  · refine Or.inl ⟨?_, hsame⟩
    unfold lastTurn
    rcases hbusy with hhandling | hq
    · simp [hhandling]
    · rw [if_pos hq]
      split_ifs <;> simp
  · refine Or.inr ⟨hhandling, by simp [hpop], ?_⟩
    unfold waiting
    rw [hpop, hhandling, hq]
    rfl

/-- So is the end of a handler. -/
lemma finish_turn (o : Managed) (env : Env) (gateway : GatewayAnswers) :
    o.lastTurn ≠ .finish ∧ o.finish env gateway = o ∨
      ∃ event, o.handling = some event ∧ o.waiting = event :: (o.finish env gateway).waiting ∧
        (o.finish env gateway).halted = (o.halted || fulfils event) := by
  rcases o.finish_cases env gateway with ⟨hnone, hsame⟩ | ⟨event, hevent, hfinish⟩
  · refine Or.inl ⟨?_, hsame⟩
    unfold lastTurn
    rw [if_pos hnone]
    split_ifs <;> simp
  · refine Or.inr ⟨event, hevent, ?_, by rw [hfinish]⟩
    unfold waiting
    rw [hfinish, hevent]
    rfl

/-- Once the promise is fulfilled it stays so. -/
lemma halted_changes (h : o.halted = true) (hchanges : o.Changes m a o') : o'.halted = true := by
  cases hchanges with
  | same _ | joined _ _ => exact h
  | enqueued _ _ => rw [(o.enqueue_account _).2, h]
  | popped => rw [o.pop_account.2, h]
  | finished =>
    rcases o.finish_cases _ _ with ⟨-, hsame⟩ | ⟨event, -, hfinish⟩
    · rw [hsame, h]
    · rw [hfinish, h, Bool.true_or]
  | loopEnded => rw [o.endLoop_account.2, h]
  | stopped _ => rw [o.stop_account.2, h]

/-- A dispatch loop that has ended does not begin again. -/
lemma not_looping_changes (h : ¬ o.Looping) (hchanges : o.Changes m a o') : ¬ o'.Looping := by
  unfold Looping at h ⊢
  cases hchanges with
  | same _ => exact h
  | enqueued _ _ => rwa [o.enqueue_phase]
  | popped => rwa [o.pop_phase]
  | finished => rwa [o.finish_phase]
  | loopEnded =>
    rcases o.endLoop_cases with hsame | ⟨hstopping, -, -⟩
    · rwa [hsame]
    · exact absurd (Or.inr hstopping) h
  | stopped _ =>
    rcases o.stop_cases with hsame | ⟨hrunning, -⟩
    · rwa [hsame]
    · exact absurd (Or.inl hrunning) h
  | joined _ _ => simp [destroy]

/-- Something that waits is handled now or is in the queue. -/
lemma busy_of_waiting {event : OMEvent} (h : event ∈ o.waiting) :
    ¬ (o.handling = none ∧ o.queue.q = []) := by
  rintro ⟨hhandling, hnil⟩
  unfold waiting at h
  simp [hhandling, hnil] at h

/-- What comes in behind the command of the kill switch does not matter. -/
lemma untilHalted_enqueue {command : OMEvent} (hcommand : command ∈ o.waiting)
    (hfulfils : fulfils command = true) (event : OMEvent) :
    (o.enqueue event).untilHalted = o.untilHalted ∧
      (o.enqueue event).lastTurn = o.lastTurn := by
  rcases o.enqueue_cases event with hsame | ⟨queue, hqueue, hq | hq⟩
  · rw [hsame]
    exact ⟨rfl, rfl⟩
  · rw [hqueue]
    unfold untilHalted lastTurn waiting
    rw [hq]
    exact ⟨rfl, rfl⟩
  · have hlt : o.waiting.findIdx fulfils < o.waiting.length :=
      List.findIdx_lt_length.mpr ⟨command, hcommand, hfulfils⟩
    have hfind : (o.waiting ++ [event]).findIdx fulfils = o.waiting.findIdx fulfils := by
      rw [List.findIdx_append, if_pos hlt]
    rw [hqueue]
    unfold untilHalted lastTurn
    constructor
    · rw [← hfind]
      unfold waiting
      rw [hq, ← List.append_assoc]
    · by_cases hhandling : o.handling = none
      · have hne : o.queue.q ≠ [] := fun hnil => busy_of_waiting hcommand ⟨hhandling, hnil⟩
        simp [hhandling, hne, hq]
      · simp [hhandling]

/-- While the promise of the kill switch is waited for, the command comes nearer, or nothing has
changed and the step was not that of the dispatch thread. -/
lemma WillHalt.untilHalted_changes (h : o.WillHalt) (hhalted : o.halted = false)
    (hphase : o.phase = .running) (hchanges : o.Changes m a o') :
    o'.halted = true ∨ o'.untilHalted < o.untilHalted ∨
      o'.halted = false ∧ o'.untilHalted = o.untilHalted ∧ o'.lastTurn = o.lastTurn ∧
        ¬ o.lastTurn.Of m a := by
  have hloop : o.Looping := Or.inl hphase
  obtain ⟨command, hcommand, hfulfils⟩ := h.resolve_left (by simp [hhalted])
  cases hchanges with
  | same hother => exact Or.inr (Or.inr ⟨hhalted, rfl, rfl, hother _⟩)
  | @enqueued a event hother _ =>
    obtain ⟨huntil, hturn⟩ := untilHalted_enqueue hcommand hfulfils event
    exact Or.inr (Or.inr ⟨(o.enqueue_account event).2.trans hhalted, huntil, hturn, hother _⟩)
  | popped =>
    rcases pop_turn hloop with ⟨hturn, hsame⟩ | ⟨hbefore, hafter, hwaiting⟩
    · rw [hsame]
      refine Or.inr (Or.inr ⟨hhalted, rfl, rfl, ?_⟩)
      cases hlast : o.lastTurn with
      | pop => exact absurd hlast hturn
      | finish | endLoop => simp [Turn.Of]
    · refine Or.inr (Or.inl ?_)
      unfold untilHalted
      rw [hwaiting, if_pos hbefore, if_neg hafter]
      omega
  | @finished env gateway =>
    rcases o.finish_turn env gateway with ⟨hturn, hsame⟩ | ⟨event, hevent, hwaiting, hafter⟩
    · rw [hsame]
      refine Or.inr (Or.inr ⟨hhalted, rfl, rfl, ?_⟩)
      cases hlast : o.lastTurn with
      | finish => exact absurd hlast hturn
      | pop | endLoop => simp [Turn.Of]
    · cases hthis : fulfils event with
      | true => exact Or.inl (by rw [hafter, hthis, Bool.or_true])
      | false =>
        refine Or.inr (Or.inl ?_)
        unfold untilHalted
        rw [hwaiting, finish_handling, List.findIdx_cons, hthis, hevent]
        simp
        omega
  | loopEnded =>
    have hsame : o.endLoop = o := by
      refine o.endLoop_cases.resolve_right fun hstopping => ?_
      rw [hphase] at hstopping
      cases hstopping.1
    rw [hsame]
    refine Or.inr (Or.inr ⟨hhalted, rfl, rfl, ?_⟩)
    unfold lastTurn
    split_ifs with hhandling hnil
    · exact absurd ⟨hhandling, hnil⟩ (busy_of_waiting hcommand)
    · simp [Turn.Of]
    · simp [Turn.Of]
  | stopped hother =>
    refine Or.inr (Or.inr ⟨o.stop_account.2.trans hhalted, ?_, ?_, hother _⟩)
    all_goals
      rcases o.stop_cases with hsame | ⟨-, hstop⟩
      · rw [hsame]
      · rw [hstop]
        rfl
  | joined _ hended =>
    rw [hphase] at hended
    cases hended

/-- While the dispatch thread is joined and nothing comes in, its loop comes nearer to its end, or
nothing has changed and the step was not that of the dispatch thread. -/
lemma untilEnded_changes (hphase : o.phase = .stopping) (hchanges : o.Changes m a o')
    (hquiet : ∀ event, a ≠ .deliver m event) (henqueue : ∀ k, a ≠ .enqueue k)
    (hproceed : a ≠ .proceed) :
    ¬ o'.Looping ∨ o'.untilEnded < o.untilEnded ∨
      o'.phase = .stopping ∧ o'.untilEnded = o.untilEnded ∧ o'.lastTurn = o.lastTurn ∧
        ¬ o.lastTurn.Of m a := by
  have hloop : o.Looping := Or.inr hphase
  cases hchanges with
  | same hother => exact Or.inr (Or.inr ⟨hphase, rfl, rfl, hother _⟩)
  | enqueued _ hfrom =>
    rcases hfrom with hdeliver | ⟨k, henq⟩ | hproc
    · exact absurd hdeliver (hquiet _)
    · exact absurd henq (henqueue k)
    · exact absurd hproc hproceed
  | popped =>
    rcases pop_turn hloop with ⟨hturn, hsame⟩ | ⟨hbefore, hafter, hwaiting⟩
    · rw [hsame]
      refine Or.inr (Or.inr ⟨hphase, rfl, rfl, ?_⟩)
      cases hlast : o.lastTurn with
      | pop => exact absurd hlast hturn
      | finish | endLoop => simp [Turn.Of]
    · refine Or.inr (Or.inl ?_)
      unfold untilEnded
      rw [hwaiting, if_pos hbefore, if_neg hafter]
      omega
  | @finished env gateway =>
    rcases o.finish_turn env gateway with ⟨hturn, hsame⟩ | ⟨event, hevent, hwaiting, -⟩
    · rw [hsame]
      refine Or.inr (Or.inr ⟨hphase, rfl, rfl, ?_⟩)
      cases hlast : o.lastTurn with
      | finish => exact absurd hlast hturn
      | pop | endLoop => simp [Turn.Of]
    · refine Or.inr (Or.inl ?_)
      unfold untilEnded
      rw [hwaiting, finish_handling, hevent, List.length_cons]
      simp
      omega
  | loopEnded =>
    rcases o.endLoop_cases with hsame | ⟨-, -, hended⟩
    · rw [hsame]
      refine Or.inr (Or.inr ⟨hphase, rfl, rfl, ?_⟩)
      intro hturn
      unfold Managed.endLoop at hsame
      unfold lastTurn at hturn
      split_ifs at hturn with hhandling hnil
      · rw [if_pos ⟨hphase, hhandling, hnil⟩] at hsame
        have hended := congrArg Managed.phase hsame
        rw [hphase] at hended
        cases hended
      · simp [Turn.Of] at hturn
      · simp [Turn.Of] at hturn
    · exact Or.inl (by rw [hended]; simp [Looping])
  | stopped hother =>
    have hsame : o.stop = o := by
      refine o.stop_cases.resolve_right fun hrunning => ?_
      rw [hphase] at hrunning
      cases hrunning.1
    rw [hsame]
    exact Or.inr (Or.inr ⟨hphase, rfl, rfl, hother _⟩)
  | joined _ hended =>
    rw [hphase] at hended
    cases hended

end Managed

/-! ## The invariant -/

namespace TradingEngine

/-- The order managers are as the calls that are still to be made need them. -/
structure Underway (e : TradingEngine) (todo : List KillStep) : Prop where
  plan : KillSwitch.Plan todo
  /-- Whoever is still to be stopped runs. -/
  running : ∀ m, .stop m ∈ todo → e.phaseOf m = some .running
  /-- Whoever is joined next was asked to stop. -/
  stopping : ∀ m, .join m ∈ todo → .stop m ∉ todo →
    e.phaseOf m = some .stopping ∨ e.phaseOf m = some .ended
  /-- A promise that is waited for is on its way. -/
  halts : ∀ m, .await m ∈ todo → .cancelAll m ∉ todo →
    ∃ o, e.objects[m]? = some o ∧ o.WillHalt

variable {e : TradingEngine} {m : ManagerId} {first : KillStep} {rest todo : List KillStep}

/-- Only the order managers matter. -/
lemma Underway.of_objects (h : e.Underway todo) {e' : TradingEngine}
    (hobjects : e'.objects = e.objects) : e'.Underway todo where
  plan := h.plan
  running := by
    unfold phaseOf
    rw [hobjects]
    exact h.running
  stopping := by
    unfold phaseOf
    rw [hobjects]
    exact h.stopping
  halts := by
    rw [hobjects]
    exact h.halts

/-- The phase of an order manager that is not the one that changes. -/
lemma phaseOf_modify_of_ne {m' : ManagerId} (hm : m' ≠ m) (f : Managed → Managed) :
    (e.modify m f).phaseOf m' = e.phaseOf m' := by
  rw [phaseOf_modify]
  simp only [if_neg hm.symm]
  rfl

/-- The phase of the order manager that changes. -/
lemma phaseOf_modify_self {phase phase' : Phase} (hphase : e.phaseOf m = some phase)
    {f : Managed → Managed} (hf : ∀ o : Managed, o.phase = phase → (f o).phase = phase') :
    (e.modify m f).phaseOf m = some phase' := by
  obtain ⟨o, ho, hphase⟩ := Option.map_eq_some_iff.mp hphase
  rw [phaseOf_modify, ho, Option.map_some, if_pos rfl, hf o hphase]

/-- A promise stays on its way when an order manager changes. -/
lemma exists_willHalt_modify {m' : ManagerId} (h : ∃ o, e.objects[m']? = some o ∧ o.WillHalt)
    {f : Managed → Managed} (hf : ∀ o : Managed, o.WillHalt → (f o).WillHalt) :
    ∃ o, (e.modify m f).objects[m']? = some o ∧ o.WillHalt := by
  obtain ⟨o, ho, hhalt⟩ := h
  refine ⟨_, objects_modify_of_some ho m f, ?_⟩
  split_ifs
  · exact hf o hhalt
  · exact hhalt

/-- A change of an order manager that does not stop it. -/
lemma Underway.modify (h : e.Underway todo) (m : ManagerId) {f : Managed → Managed}
    (hphase : ∀ o : Managed, (f o).phase = o.phase ∨ o.phase = .stopping ∧ (f o).phase = .ended)
    (hhalts : ∀ o : Managed, o.WillHalt → (f o).WillHalt) : (e.modify m f).Underway todo where
  plan := h.plan
  running := by
    intro m' hm'
    have hrunning := h.running m' hm'
    by_cases hm : m' = m
    · subst hm
      refine phaseOf_modify_self hrunning fun o ho => ?_
      rcases hphase o with hsame | ⟨hstopping, -⟩
      · rw [hsame, ho]
      · rw [ho] at hstopping
        cases hstopping
    · rw [phaseOf_modify_of_ne hm, hrunning]
  stopping := by
    intro m' hjoin hstop
    have hstopping := h.stopping m' hjoin hstop
    by_cases hm : m' = m
    · subst hm
      obtain ⟨o, ho, hbefore⟩ : ∃ o, e.objects[m']? = some o ∧
          (o.phase = .stopping ∨ o.phase = .ended) := by
        rcases hstopping with hbefore | hbefore
        · obtain ⟨o, ho, hbefore⟩ := Option.map_eq_some_iff.mp hbefore
          exact ⟨o, ho, Or.inl hbefore⟩
        · obtain ⟨o, ho, hbefore⟩ := Option.map_eq_some_iff.mp hbefore
          exact ⟨o, ho, Or.inr hbefore⟩
      rw [phaseOf_modify, ho, Option.map_some, if_pos rfl, Option.some_inj, Option.some_inj]
      rcases hphase o with hsame | ⟨-, hended⟩
      · rwa [hsame]
      · exact Or.inr hended
    · rwa [phaseOf_modify_of_ne hm]
  halts := fun m' hawait hcancel => exists_willHalt_modify (h.halts m' hawait hcancel) hhalts

/-- `cancel_all` has enqueued its command. -/
lemma Underway.cancelled (h : e.Underway (.cancelAll m :: rest)) (reason initiatedBy : String) :
    (e.modify m (Managed.enqueue · (.cancelAllCommand reason initiatedBy))).Underway rest := by
  have hmodify := h.modify m (f := (Managed.enqueue · (.cancelAllCommand reason initiatedBy)))
    (fun o => Or.inl (o.enqueue_phase _)) fun o ho => ho.enqueue _
  refine
    { plan := h.plan.tail
      running := fun m' hm' => hmodify.running m' (List.mem_cons_of_mem _ hm')
      stopping := fun m' hjoin hstop =>
        hmodify.stopping m' (List.mem_cons_of_mem _ hjoin) (by simpa using hstop)
      halts := fun m' hawait hcancel => ?_ }
  by_cases hm : m' = m
  · subst hm
    have hrunning := h.running m' (h.plan.stops m' (Or.inl List.mem_cons_self))
    obtain ⟨o, ho, hphase⟩ := Option.map_eq_some_iff.mp hrunning
    refine ⟨_, objects_modify_of_some ho m' _, ?_⟩
    rw [if_pos rfl]
    exact Managed.willHalt_enqueue (by simp [hphase]) reason initiatedBy
  · refine hmodify.halts m' (List.mem_cons_of_mem _ hawait) ?_
    simp [hm, hcancel]

/-- The promise was fulfilled. -/
lemma Underway.awaited (h : e.Underway (.await m :: rest)) : e.Underway rest where
  plan := h.plan.tail
  running := fun m' hm' => h.running m' (List.mem_cons_of_mem _ hm')
  stopping := fun m' hjoin hstop =>
    h.stopping m' (List.mem_cons_of_mem _ hjoin) (by simpa using hstop)
  halts := fun m' hawait hcancel =>
    h.halts m' (List.mem_cons_of_mem _ hawait) (by simpa using hcancel)

/-- The destructor of an order manager has begun. -/
lemma Underway.stopped (h : e.Underway (.stop m :: rest)) :
    (e.modify m Managed.stop).Underway rest where
  plan := h.plan.tail
  running := by
    intro m' hm'
    have hne : m' ≠ m := Ne.symm (List.rel_of_pairwise_cons h.plan.order hm')
    rw [phaseOf_modify_of_ne hne]
    exact h.running m' (List.mem_cons_of_mem _ hm')
  stopping := by
    intro m' hjoin hstop
    by_cases hm : m' = m
    · subst hm
      refine Or.inl (phaseOf_modify_self (h.running m' List.mem_cons_self) fun o ho => ?_)
      unfold Managed.stop
      rw [if_pos ho]
    · rw [phaseOf_modify_of_ne hm]
      exact h.stopping m' (List.mem_cons_of_mem _ hjoin) (by simp [hm, hstop])
  halts := fun m' hawait hcancel =>
    exists_willHalt_modify (h.halts m' (List.mem_cons_of_mem _ hawait) (by simpa using hcancel))
      fun _ ho => ho.stop

/-- The dispatch thread of an order manager was joined. -/
lemma Underway.joined (h : e.Underway (.join m :: rest)) :
    (e.modify m Managed.destroy).Underway rest where
  plan := h.plan.tail
  running := by
    intro m' hm'
    have hne : m' ≠ m := Ne.symm (List.rel_of_pairwise_cons h.plan.order hm')
    rw [phaseOf_modify_of_ne hne]
    exact h.running m' (List.mem_cons_of_mem _ hm')
  stopping := by
    intro m' hjoin hstop
    have hne : m' ≠ m := Ne.symm (List.rel_of_pairwise_cons h.plan.order hjoin)
    rw [phaseOf_modify_of_ne hne]
    exact h.stopping m' (List.mem_cons_of_mem _ hjoin) (by simpa using hstop)
  halts := fun m' hawait hcancel =>
    exists_willHalt_modify (h.halts m' (List.mem_cons_of_mem _ hawait) (by simpa using hcancel))
      fun _ ho => ho

/-- A kill switch takes the lock. -/
lemma underway_calls (h : e.Lifetimes) (hnone : e.killSwitch = none) {affected : List ManagerId}
    (hnodup : affected.Nodup) (hregistered : ∀ m ∈ affected, e.Registered m) :
    e.Underway (KillSwitch.calls affected) where
  plan := KillSwitch.plan_calls hnodup
  running := by
    intro m hm
    have haffected : m ∈ affected := by simpa [KillSwitch.calls] using hm
    refine (h.running m (hregistered m haffected)).resolve_right ?_
    rintro ⟨kill, hkill, -⟩
    rw [hnone] at hkill
    cases hkill
  stopping := by
    intro m hjoin hstop
    refine absurd ?_ hstop
    simpa [KillSwitch.calls] using hjoin
  halts := by
    intro m hawait hcancel
    refine absurd ?_ hcancel
    simpa [KillSwitch.calls] using hawait

/-- No order manager is registered twice. -/
lemma Lifetimes.nodup_managers (h : e.Lifetimes) :
    (e.managers.entries.map Sigma.snd).Nodup := by
  have hne := e.managers.nodupKeys.pairwise_ne
  rw [List.Nodup, List.pairwise_map]
  refine hne.imp_of_mem fun {s s'} hs hs' hkeys hvalues => hkeys ?_
  have hlookup := AList.mem_lookup_iff.mpr hs
  rw [hvalues] at hlookup
  exact h.injective s'.2 s'.1 s.1 (AList.mem_lookup_iff.mpr hs') hlookup

/-- The order managers are as they have to be, and as the kill switch needs them. -/
structure Ready (e : TradingEngine) : Prop where
  lifetimes : e.Lifetimes
  underway : ∀ kill, e.killSwitch = some kill → e.Underway kill.todo

lemma ready_start : Ready {} := ⟨lifetimes_start, nofun⟩

/-- **Step lemma.**  Every step keeps the calls of the kill switch possible. -/
theorem Ready.step (h : e.Ready) (a : Action) : (e.step a).Ready := by
  refine ⟨h.lifetimes.step a, ?_⟩
  have henqueue : ∀ m event kill, e.killSwitch = some kill →
      (e.modify m (Managed.enqueue · event)).Underway kill.todo := fun m event kill hkill =>
    (h.underway kill hkill).modify m (fun o => Or.inl (o.enqueue_phase event))
      fun _ ho => ho.enqueue event
  -- the call that is made is the first one of the kill switch that holds the lock
  have hfirst : ∀ {kill kill' first rest}, e.killSwitch = some kill → kill.todo = first :: rest →
      some { kill with todo := rest } = some kill' → e.Underway (first :: rest) ∧
        kill'.todo = rest := by
    intro kill kill' first rest hkill htodo hkill'
    obtain rfl := Option.some.inj hkill'
    exact ⟨htodo ▸ h.underway kill hkill, rfl⟩
  have hstep := e.steps_step a
  generalize e.step a = e' at hstep ⊢
  intro kill' hkill'
  cases hstep with
  | registered hnone _ | found hnone _ =>
    exact absurd (hnone.symm.trans hkill') nofun
  | enqueued _ => exact (henqueue _ _ kill' hkill').of_objects rfl
  | delivered => exact henqueue _ _ kill' hkill'
  | popped =>
    exact (h.underway kill' hkill').modify _ (fun o => Or.inl o.pop_phase) fun _ ho => ho.pop
  | finished =>
    exact (h.underway kill' hkill').modify _ (fun o => Or.inl (o.finish_phase _ _))
      fun _ ho => ho.finish _ _
  | loopEnded =>
    refine (h.underway kill' hkill').modify _ (fun o => ?_) fun _ ho => ho.endLoop
    rcases o.endLoop_cases with hsame | ⟨hstopping, -, hended⟩
    · exact Or.inl (congrArg Managed.phase hsame)
    · exact Or.inr ⟨hstopping, congrArg Managed.phase hended⟩
  | @stopBegun strategyId _ _ m hnone hm =>
    obtain rfl := Option.some.inj hkill'
    refine (underway_calls h.lifetimes hnone (List.nodup_singleton m) fun m' hm' => ?_).of_objects
      rfl
    obtain rfl := List.mem_singleton.mp hm'
    exact ⟨strategyId, hm⟩
  | haltBegun hnone hperm =>
    obtain rfl := Option.some.inj hkill'
    refine (underway_calls h.lifetimes hnone
      (hperm.nodup_iff.mpr h.lifetimes.nodup_managers) fun m hm => ?_).of_objects rfl
    obtain ⟨entry, hentry, rfl⟩ := List.mem_map.mp (hperm.mem_iff.mp hm)
    exact ⟨entry.1, AList.mem_lookup_iff.mpr hentry⟩
  | cancelled hkill htodo =>
    obtain ⟨hunderway, hrest⟩ := hfirst hkill htodo hkill'
    rw [hrest]
    exact (hunderway.cancelled _ _).of_objects rfl
  | awaited hkill htodo _ =>
    obtain ⟨hunderway, hrest⟩ := hfirst hkill htodo hkill'
    rw [hrest]
    exact hunderway.awaited.of_objects rfl
  | stopped hkill htodo =>
    obtain ⟨hunderway, hrest⟩ := hfirst hkill htodo hkill'
    rw [hrest]
    exact hunderway.stopped.of_objects rfl
  | joined hkill htodo _ =>
    obtain ⟨hunderway, hrest⟩ := hfirst hkill htodo hkill'
    rw [hrest]
    exact hunderway.joined.of_objects rfl
  | returned _ _ => cases hkill'
  | idle => exact h.underway kill' hkill'

end TradingEngine

/-! ## What is left to do -/

/-- A step that has to be taken for the kill switch to come nearer to its end. -/
inductive Duty where
  | proceed
  | thread (m : ManagerId) (turn : Turn)

/-- The step is this one. -/
def Duty.Does : Duty → Action → Prop
  | .proceed, a => a = .proceed
  | .thread m turn, a => turn.Of m a

namespace KillStep

/-- How many steps of the dispatch thread the call waits for. -/
def work : KillStep → Managed → ℕ
  | await _, o => if o.halted then 0 else o.untilHalted + 1
  | join _, o => if o.Looping then o.untilEnded + 1 else 0
  | cancelAll _, _ | stop _, _ => 0

/-- What has to be done next for the call. -/
def duty : KillStep → Managed → Duty
  | await m, o => if o.halted then .proceed else .thread m o.lastTurn
  | join m, o => if o.Looping then .thread m o.lastTurn else .proceed
  | cancelAll _, _ | stop _, _ => .proceed

/-- The order manager is as the call needs it. -/
def Fits : KillStep → Managed → Prop
  | await _, o => o.WillHalt ∧ o.phase = .running
  | join _, o => o.phase = .stopping ∨ o.phase = .ended
  | cancelAll _, _ | stop _, _ => True

variable {call : KillStep} {o o' : Managed} {a : Action}

/-- What another thread does to the order manager that is called. -/
lemma work_changes (hfits : call.Fits o) (hchanges : o.Changes call.manager a o')
    (hquiet : o.phase = .stopping → ∀ event, a ≠ .deliver call.manager event)
    (henqueue : ∀ k, a ≠ .enqueue k) (hproceed : a ≠ .proceed) :
    call.work o' < call.work o ∨
      call.work o' = call.work o ∧ call.duty o' = call.duty o ∧ ¬ (call.duty o).Does a := by
  cases call with
  | cancelAll m | stop m => exact Or.inr ⟨rfl, rfl, hproceed⟩
  | await m =>
    obtain ⟨hhalt, hphase⟩ := hfits
    simp only [work, duty]
    by_cases hhalted : o.halted = true
    · rw [if_pos hhalted, if_pos hhalted, if_pos (Managed.halted_changes hhalted hchanges),
        if_pos (Managed.halted_changes hhalted hchanges)]
      exact Or.inr ⟨rfl, rfl, hproceed⟩
    · rw [if_neg hhalted, if_neg hhalted]
      rcases hhalt.untilHalted_changes (Bool.not_eq_true _ ▸ hhalted) hphase hchanges with
        hdone | hless | ⟨hsame, huntil, hturn, hnot⟩
      · rw [if_pos hdone]
        exact Or.inl (Nat.succ_pos _)
      · left
        split_ifs <;> omega
      · have hsame' : ¬ o'.halted = true := by simp [hsame]
        rw [if_neg hsame', if_neg hsame', huntil, hturn]
        exact Or.inr ⟨rfl, rfl, hnot⟩
  | join m =>
    simp only [work, duty]
    by_cases hloop : o.Looping
    · rw [if_pos hloop, if_pos hloop]
      have hphase : o.phase = .stopping := by
        rcases hfits with hstopping | hended
        · exact hstopping
        · rcases hloop with hrunning | hstopping
          · rw [hended] at hrunning
            cases hrunning
          · exact hstopping
      rcases Managed.untilEnded_changes hphase hchanges (hquiet hphase) henqueue hproceed with
        hdone | hless | ⟨hsame, huntil, hturn, hnot⟩
      · rw [if_neg hdone]
        exact Or.inl (Nat.succ_pos _)
      · left
        split_ifs <;> omega
      · have hloop' : o'.Looping := Or.inr hsame
        rw [if_pos hloop', if_pos hloop', huntil, hturn]
        exact Or.inr ⟨rfl, rfl, hnot⟩
    · have hloop' := Managed.not_looping_changes hloop hchanges
      rw [if_neg hloop, if_neg hloop, if_neg hloop', if_neg hloop']
      exact Or.inr ⟨rfl, rfl, hproceed⟩

end KillStep

namespace TradingEngine

variable {e : TradingEngine} {kill : KillSwitch} {affected : List ManagerId}

/-- What the kill switch waits for before it can make its next call. -/
def callWork (e : TradingEngine) : List KillStep → ℕ
  | [] => 0
  | call :: _ => (e.objects[call.manager]?.map call.work).getD 0

/-- What is left to do: the calls, the requests on their way, and the work for the next call. -/
def workLeft (e : TradingEngine) (todo : List KillStep) : ℕ ×ₗ ℕ ×ₗ ℕ :=
  toLex (todo.length, toLex (e.pending.length, e.callWork todo))

/-- What has to be done next. -/
def nextDuty (e : TradingEngine) : List KillStep → Duty
  | [] => .proceed
  | call :: _ => (e.objects[call.manager]?.map call.duty).getD .proceed

/-- The order manager that is called next is there and as the call needs it. -/
lemma Underway.fits {call : KillStep} {rest : List KillStep} (h : e.Underway (call :: rest)) :
    ∃ o, e.objects[call.manager]? = some o ∧ call.Fits o := by
  have hstops : ∀ m, .stop m ∈ call :: rest →
      ∃ o : Managed, e.objects[m]? = some o ∧ o.phase = .running := fun m hm =>
    Option.map_eq_some_iff.mp (h.running m hm)
  cases call with
  | cancelAll m =>
    obtain ⟨o, ho, -⟩ := hstops m (h.plan.stops m (Or.inl List.mem_cons_self))
    exact ⟨o, ho, trivial⟩
  | await m =>
    obtain ⟨o, ho, hphase⟩ := hstops m (h.plan.stops m (Or.inr List.mem_cons_self))
    have hcancel : KillStep.cancelAll m ∉ KillStep.await m :: rest := by
      intro hmem
      rcases List.mem_cons.mp hmem with heq | hmem
      · cases heq
      · exact List.rel_of_pairwise_cons h.plan.order hmem rfl
    obtain ⟨o', ho', hhalt⟩ := h.halts m List.mem_cons_self hcancel
    obtain rfl := Option.some.inj (ho.symm.trans ho')
    exact ⟨o, ho, hhalt, hphase⟩
  | stop m =>
    obtain ⟨o, ho, -⟩ := hstops m List.mem_cons_self
    exact ⟨o, ho, trivial⟩
  | join m =>
    have hstop : KillStep.stop m ∉ KillStep.join m :: rest := by
      intro hmem
      rcases List.mem_cons.mp hmem with heq | hmem
      · cases heq
      · exact List.rel_of_pairwise_cons h.plan.order hmem rfl
    rcases h.stopping m List.mem_cons_self hstop with hphase | hphase
    · obtain ⟨o, ho, hphase⟩ := Option.map_eq_some_iff.mp hphase
      exact ⟨o, ho, Or.inl hphase⟩
    · obtain ⟨o, ho, hphase⟩ := Option.map_eq_some_iff.mp hphase
      exact ⟨o, ho, Or.inr hphase⟩

/-- The thread of the kill switch makes its next call, unless it has to wait for a dispatch thread,
or returns. -/
lemma proceed_cases (hready : e.Ready) (hkill : e.killSwitch = some kill) :
    kill.todo = [] ∨ ∃ call rest, kill.todo = call :: rest ∧
      (e.proceed.killSwitch = some { kill with todo := rest } ∨
        e.proceed = e ∧ ¬ (e.nextDuty kill.todo).Does .proceed) := by
  cases htodo : kill.todo with
  | nil => exact Or.inl rfl
  | cons call rest =>
    right
    refine ⟨call, rest, rfl, ?_⟩
    obtain ⟨o, ho, hfits⟩ := (htodo ▸ hready.underway kill hkill).fits
    have hduty : e.nextDuty (call :: rest) = call.duty o := by
      simp only [nextDuty, ho, Option.map_some, Option.getD_some]
    have hturn : ∀ m (turn : Turn), ¬ (Duty.thread m turn).Does .proceed := by
      rintro m (_ | _ | _) <;> simp [Duty.Does, Turn.Of]
    rw [hduty]
    unfold proceed
    rw [hkill]
    dsimp only
    rw [htodo]
    cases call with
    | cancelAll m | stop m => exact Or.inl rfl
    | await m =>
      simp only [KillStep.manager] at ho
      simp only [KillStep.duty, Halted, ho, Option.map_some, Option.some_inj]
      by_cases hhalted : o.halted = true
      · rw [if_pos hhalted]
        exact Or.inl rfl
      · rw [if_neg hhalted, if_neg hhalted]
        exact Or.inr ⟨rfl, hturn m _⟩
    | join m =>
      simp only [KillStep.manager] at ho
      simp only [KillStep.duty, ho, Option.map_some, Option.some_inj]
      rcases hfits with hphase | hphase
      · have hloop : o.Looping := Or.inr hphase
        rw [if_neg (by rw [hphase]; decide), if_pos hloop]
        exact Or.inr ⟨rfl, hturn m _⟩
      · rw [if_pos hphase]
        exact Or.inl rfl

/-- A step of another thread leaves the kill switch and its calls alone. -/
lemma other_step (hkill : e.killSwitch = some kill) {a : Action} (ha : a ≠ .proceed) :
    (e.step a).killSwitch = some kill ∧
      ((e.step a).pending.length < e.pending.length ∨
        (e.step a).pending = e.pending ∧ ∀ k, a = .enqueue k → e.step a = e) := by
  have hnone : ∀ {p : Prop}, e.killSwitch = none → p := by
    intro p hnone
    rw [hkill] at hnone
    cases hnone
  by_cases henqueue : ∃ k, a = .enqueue k
  · obtain ⟨k, rfl⟩ := henqueue
    unfold step enqueue
    dsimp only
    cases hcall : e.pending[k]? with
    | none => exact ⟨hkill, Or.inr ⟨rfl, fun _ _ => rfl⟩⟩
    | some call =>
      refine ⟨hkill, Or.inl ?_⟩
      have hlt : k < e.pending.length := (List.getElem?_eq_some_iff.mp hcall).1
      have herase : (e.pending.eraseIdx k).length + 1 = e.pending.length :=
        List.length_eraseIdx_add_one hlt
      dsimp only
      omega
  have hother : ∀ k, a = .enqueue k → e.step a = e := fun k hk => absurd ⟨k, hk⟩ henqueue
  have hstep := e.steps_step a
  generalize e.step a = e' at hstep hother ⊢
  cases hstep with
  | registered h _ | found h _ | stopBegun h _ | haltBegun h _ => exact hnone h
  | enqueued _ => exact absurd ⟨_, rfl⟩ henqueue
  | delivered | popped | finished | loopEnded | idle => exact ⟨hkill, Or.inr ⟨rfl, hother⟩⟩
  | cancelled _ _ | awaited _ _ _ | stopped _ _ | joined _ _ _ | returned _ _ => exact absurd rfl ha

/-- The kill switch has returned, and the order managers that it affects are destroyed. -/
def Returned (affected : List ManagerId) (e : TradingEngine) : Prop :=
  e.killSwitch = none ∧ ∀ m ∈ affected, m ∈ e.stopped ∧ e.phaseOf m = some .destroyed

/-- No report and no market data come in for an order manager whose destructor has begun: its
gateway is stopped, and it is not in the tables of the feed registry. -/
def QuietAfterStop (e : TradingEngine) (a : Action) : Prop :=
  ∀ m event, a = .deliver m event → e.phaseOf m ≠ some .stopping

/-- The thread of the kill switch takes a step. -/
lemma held_proceed (hready : e.Ready) (hkill : e.killSwitch = some kill) :
    e.proceed.Returned kill.affected ∨
      (∃ kill', e.proceed.killSwitch = some kill' ∧ kill'.affected = kill.affected ∧
        e.proceed.workLeft kill'.todo < e.workLeft kill.todo) ∨
      e.proceed = e ∧ ¬ (e.nextDuty kill.todo).Does .proceed := by
  rcases proceed_cases hready hkill with htodo | ⟨call, rest, htodo, hcalled | hwaits⟩
  · left
    unfold proceed
    rw [hkill]
    dsimp only
    rw [htodo]
    refine ⟨rfl, fun m hm => ⟨List.mem_append_left _ hm, ?_⟩⟩
    refine (hready.lifetimes.joined kill hkill m hm).resolve_left fun hjoin => ?_
    rw [htodo] at hjoin
    cases hjoin
  · refine Or.inr (Or.inl ⟨_, hcalled, rfl, ?_⟩)
    unfold workLeft
    rw [htodo]
    exact Prod.Lex.toLex_lt_toLex.mpr (Or.inl (Nat.lt_succ_self _))
  · exact Or.inr (Or.inr hwaits)

/-- Another thread takes a step. -/
lemma held_other (hready : e.Ready) (hkill : e.killSwitch = some kill) {a : Action}
    (ha : a ≠ .proceed) (hquiet : e.QuietAfterStop a) :
    (e.step a).workLeft kill.todo < e.workLeft kill.todo ∨
      (e.step a).workLeft kill.todo = e.workLeft kill.todo ∧
        (e.step a).nextDuty kill.todo = e.nextDuty kill.todo ∧
        ¬ (e.nextDuty kill.todo).Does a := by
  unfold workLeft
  rcases (other_step hkill ha).2 with hless | ⟨hpending, hidle⟩
  · left
    refine Prod.Lex.toLex_lt_toLex.mpr (Or.inr ⟨rfl, ?_⟩)
    exact Prod.Lex.toLex_lt_toLex.mpr (Or.inl hless)
  rw [hpending]
  cases htodo : kill.todo with
  | nil => exact Or.inr ⟨rfl, rfl, ha⟩
  | cons call rest =>
    obtain ⟨o, ho, hfits⟩ := (htodo ▸ hready.underway kill hkill).fits
    obtain ⟨o', ho', hchanges⟩ := changes_step ho a
    by_cases henqueue : ∃ k, a = .enqueue k
    · -- there is no such request
      obtain ⟨k, hk⟩ := henqueue
      rw [hidle k hk]
      refine Or.inr ⟨rfl, rfl, ?_⟩
      simp only [nextDuty, ho, Option.map_some, Option.getD_some, hk]
      cases call.duty o with
      | proceed => simp [Duty.Does]
      | thread m turn => cases turn <;> simp [Duty.Does, Turn.Of]
    · have hstopping : o.phase = .stopping → ∀ event, a ≠ .deliver call.manager event := by
        intro hphase event hdeliver
        refine hquiet call.manager event hdeliver ?_
        unfold phaseOf
        rw [ho, Option.map_some, hphase]
      simp only [callWork, nextDuty, ho, ho', Option.map_some, Option.getD_some]
      rcases KillStep.work_changes hfits hchanges hstopping
        (fun k hk => henqueue ⟨k, hk⟩) ha with hless | ⟨hwork, hduty, hnot⟩
      · left
        refine Prod.Lex.toLex_lt_toLex.mpr (Or.inr ⟨rfl, ?_⟩)
        exact Prod.Lex.toLex_lt_toLex.mpr (Or.inr ⟨rfl, hless⟩)
      · exact Or.inr ⟨by rw [hwork], hduty, hnot⟩

end TradingEngine

end Quarcc
