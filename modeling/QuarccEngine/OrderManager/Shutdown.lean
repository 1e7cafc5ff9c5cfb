import QuarccEngine.Gateways.Stopping
import QuarccEngine.OrderManager.Delivery

/-!
# Shutting down an order manager

`~OrderManager` calls `gateway_->stop()`; then the destructor of the dispatch thread asks the
dispatch loop to stop and waits for it.  The gateway's threads pass reports to the fill handler,
which puts them into the queue of the dispatch loop, and other threads put other events there.

If the gateway's threads pass no report after `stop()`, then the loop, which empties the queue
before it ends, handles all reports.  This is so for the paper gateway in every run.
-/

namespace Quarcc

/-- An order manager with the threads of its gateway. -/
structure Shutdown (γ : Type) where
  gateway : γ
  dispatcher : Dispatcher
  /-- The reports that were passed to the fill handler; this is only a record. -/
  reported : List V1.ExecutionReport := []
  /-- Those of them that were passed after `stop()` had returned; this is only a record. -/
  late : List V1.ExecutionReport := []

/-- A step of the gateway's threads or of `stop()`, or one of the dispatch loop, its producers, or
the destructor that asks it to stop. -/
inductive ShutdownAction (ι : Type) where
  | gateway (i : ι)
  | dispatcher (a : DispatchAction)

namespace Shutdown

variable {γ ι : Type} (threads : GatewayThreads γ ι)

/-- The fill handler, which the constructor of the order manager has set. -/
def fillHandler (s : Shutdown γ) (report : V1.ExecutionReport) : Shutdown γ :=
  { s with
    dispatcher := s.dispatcher.enqueue (.executionReport report)
    reported := s.reported ++ [report]
    late := if threads.returned s.gateway then s.late ++ [report] else s.late }

/-- A step.  The dispatch loop is asked to stop after `stop()` has returned. -/
def step (s : Shutdown γ) : ShutdownAction ι → Shutdown γ
  | .gateway i =>
    let (gateway, report?) := threads.step s.gateway i
    { report?.elim s (s.fillHandler threads) with gateway := gateway }
  | .dispatcher .requestStop =>
    if threads.returned s.gateway then { s with dispatcher := s.dispatcher.step .requestStop }
      else s
  | .dispatcher a => { s with dispatcher := s.dispatcher.step a }

/-- No report is passed to the handler after `stop()`, and the dispatch loop ends only when it has
handled every report that was passed to the handler. -/
structure Drained (s : Shutdown γ) : Prop where
  late : s.late = []
  handled : s.dispatcher.position = .ended →
    (s.reported.map OMEvent.executionReport).Sublist s.dispatcher.handled

/-- The condition on the step of the gateway, when the step is one. -/
def Meets (A : γ → ι → Prop) (s : Shutdown γ) : ShutdownAction ι → Prop
  | .gateway i => A s.gateway i
  | .dispatcher _ => True

instance (A : γ → ι → Prop) [∀ g i, Decidable (A g i)] (s : Shutdown γ) :
    DecidablePred (s.Meets A)
  | .gateway i => inferInstanceAs (Decidable (A s.gateway i))
  | .dispatcher _ => isTrue trivial

/-! ## Handling the reports -/

/-- Where the reports are, and in which order things end. -/
structure Ordered (I : γ → Prop) (s : Shutdown γ) : Prop where
  gateway : I s.gateway
  accounts : s.dispatcher.work.Accounts
  accepted : (s.reported.map OMEvent.executionReport).Sublist s.dispatcher.accepted
  stopping : s.dispatcher.stopRequested = true → threads.returned s.gateway = true
  ended : s.dispatcher.position = .ended → s.dispatcher.stopRequested = true
  drained : s.Drained

variable {threads} {I : γ → Prop} {A : γ → ι → Prop} {s : Shutdown γ}

/-- A step of the dispatch loop or of a producer. -/
lemma Ordered.dispatcher (h : s.Ordered threads I) {a : DispatchAction}
    (hstop : (s.dispatcher.step a).stopRequested = true → threads.returned s.gateway = true)
    (hkept : s.dispatcher.stopRequested = true → (s.dispatcher.step a).stopRequested = true) :
    ({ s with dispatcher := s.dispatcher.step a } : Shutdown γ).Ordered threads I := by
  obtain ⟨haccepted, hhandled⟩ := s.dispatcher.records_step a
  refine ⟨h.gateway, Dispatcher.accounts_step h.accounts a, h.accepted.trans haccepted.sublist,
    hstop, fun hended => ?_, h.drained.late, fun hended => ?_⟩
  · by_cases hbefore : s.dispatcher.position = .ended
    · exact hkept (h.ended hbefore)
    · exact hkept (Dispatcher.step_ended hbefore hended).1
  · by_cases hbefore : s.dispatcher.position = .ended
    · exact (h.drained.handled hbefore).trans hhandled.sublist
    · obtain ⟨hall, -⟩ := Dispatcher.handled_of_step_ended h.accounts hbefore hended
      dsimp only
      rw [hall]
      exact h.accepted

/-- A report is passed to the handler before `stop()` has returned. -/
lemma Ordered.fillHandler (h : s.Ordered threads I) (report : V1.ExecutionReport)
    (hreturned : ¬ threads.returned s.gateway = true) :
    (s.fillHandler threads report).Ordered threads I := by
  have hnot : ¬ s.dispatcher.stopRequested = true := fun hstop => hreturned (h.stopping hstop)
  have haccepts : s.dispatcher.queue.accepts (.executionReport report) = true := rfl
  have haccounts := Dispatcher.accounts_step h.accounts (.enqueue (.executionReport report))
  change (s.dispatcher.enqueue (.executionReport report)).work.Accounts at haccounts
  unfold Shutdown.fillHandler
  unfold Dispatcher.enqueue at haccounts ⊢
  rw [if_pos haccepts] at haccounts ⊢
  rw [if_neg hreturned]
  refine ⟨h.gateway, haccounts, ?_, h.stopping, h.ended, h.drained.late, fun hended => ?_⟩
  · rw [List.map_append]
    exact h.accepted.append (List.Sublist.refl _)
  · exact absurd (h.ended hended) hnot

/-- A step of the gateway's threads. -/
lemma Ordered.gatewayStep (h : s.Ordered threads I) {i : ι} (hI : I (threads.step s.gateway i).1)
    (hquiet : threads.returned s.gateway = true → (threads.step s.gateway i).2 = none) :
    (s.step threads (.gateway i)).Ordered threads I := by
  have hmove : ∀ t : Shutdown γ, t.gateway = s.gateway → t.Ordered threads I →
      ({ t with gateway := (threads.step s.gateway i).1 } : Shutdown γ).Ordered threads I := by
    intro t hsame ht
    refine ⟨hI, ht.accounts, ht.accepted, fun hstop => ?_, ht.ended, ht.drained.late,
      ht.drained.handled⟩
    exact threads.stays _ _ (hsame ▸ ht.stopping hstop)
  unfold Shutdown.step
  dsimp only
  cases hreport : (threads.step s.gateway i).2 with
  | none => exact hmove s rfl h
  | some report =>
    have hreturned : ¬ threads.returned s.gateway = true := by
      intro hreturned
      rw [hquiet hreturned] at hreport
      cases hreport
    exact hmove _ rfl (h.fillHandler report hreturned)

/-- **Step lemma.**  When the gateway is quiet after `stop()`, nothing is lost in a step. -/
theorem Ordered.step (h : s.Ordered threads I)
    (hstep : ∀ g i, I g → A g i → I (threads.step g i).1)
    (hquiet : ∀ g i, I g → threads.returned g = true → (threads.step g i).2 = none)
    {a : ShutdownAction ι} (ha : s.Meets A a) : (s.step threads a).Ordered threads I := by
  cases a with
  | gateway i => exact h.gatewayStep (hstep _ _ h.gateway ha) (hquiet _ _ h.gateway)
  | dispatcher a =>
    by_cases hrequest : a = .requestStop
    · subst hrequest
      unfold Shutdown.step
      dsimp only
      split_ifs with hreturned
      · exact h.dispatcher (fun _ => hreturned) fun _ => rfl
      · exact h
    · have hsame := s.dispatcher.stopRequested_step hrequest
      have heq : s.step threads (.dispatcher a) = { s with dispatcher := s.dispatcher.step a } := by
        cases a with
        | requestStop => exact absurd rfl hrequest
        | _ => rfl
      rw [heq]
      exact h.dispatcher (fun hstop => h.stopping (hsame ▸ hstop)) fun hstop => hsame.trans hstop

/-- A new order manager, with a gateway that was just started. -/
def start (gateway : γ) (accountId : String) (orderStore : SQLiteOrderStore)
    (riskManager : RiskManager) : Shutdown γ where
  gateway := gateway
  dispatcher := .start accountId orderStore riskManager

/-- **Nothing is lost** in a run in which the gateway is quiet after `stop()`. -/
theorem everyState_drained (hstep : ∀ g i, I g → A g i → I (threads.step g i).1)
    (hquiet : ∀ g i, I g → threads.returned g = true → (threads.step g i).2 = none) {gateway : γ}
    (hgateway : I gateway) (accountId : String) (orderStore : SQLiteOrderStore)
    (riskManager : RiskManager) {actions : List (ShutdownAction ι)}
    (h : Trajectory.AllSteps (Shutdown.step threads) (Meets A)
      (start gateway accountId orderStore riskManager) actions) :
    Trajectory.EveryState (Shutdown.step threads) Drained
      (start gateway accountId orderStore riskManager) actions := by
  have hstart : (start gateway accountId orderStore riskManager).Ordered threads I := by
    refine ⟨hgateway, WorkQueue.accounts_empty, List.nil_sublist _, nofun, nofun, rfl, nofun⟩
  have hordered : Trajectory.EveryState (Shutdown.step threads) (Ordered threads I)
      (start gateway accountId orderStore riskManager) actions :=
    Trajectory.everyState_of_invariant (fun s a hs ha => hs.step hstep hquiet ha) hstart h
  exact hordered.mono fun s hs => hs.drained

end Shutdown

/-- **Shutdown loses no fill.**  In every run of an order manager on the paper gateway, nothing is
passed to the handler after `stop()`, and all reports are handled before the dispatch loop ends; on
a gateway to an adapter in every run in which the stream thread holds no report when `stop()`
returns, and reads none after that. -/
theorem shutdown_drains (accountId : String) (orderStore : SQLiteOrderStore)
    (riskManager : RiskManager) :
    (∀ actions, Trajectory.EveryState (Shutdown.step PaperStopping.threads) Shutdown.Drained
      (.start {} accountId orderStore riskManager) actions) ∧
    ∀ actions, Trajectory.AllSteps (Shutdown.step GrpcStopping.threads)
        (Shutdown.Meets GrpcStopping.InTime) (.start {} accountId orderStore riskManager) actions →
      Trajectory.EveryState (Shutdown.step GrpcStopping.threads) Shutdown.Drained
        (.start {} accountId orderStore riskManager) actions := by
  constructor
  · intro actions
    have hany : Trajectory.AllSteps (Shutdown.step PaperStopping.threads)
        (Shutdown.Meets fun _ _ => True) (.start {} accountId orderStore riskManager) actions := by
      refine (Trajectory.allSteps_of_forall (A := fun _ => True) fun _ _ => trivial).mono ?_
      intro s a _
      cases a <;> trivial
    refine Shutdown.everyState_drained (I := PaperStopping.Ordered) (fun g i h _ => h.step i) ?_
      PaperStopping.ordered_start accountId orderStore riskManager hany
    exact fun g i h hreturned => h.quiet (of_decide_eq_true hreturned) i
  · intro actions htime
    refine Shutdown.everyState_drained (I := GrpcStopping.Quiet) (fun g i h ha => h.step ha) ?_
      GrpcStopping.quiet_start accountId orderStore riskManager htime
    exact fun g i h hreturned => h.none (of_decide_eq_true hreturned) i

/-- A fill that is passed on before `stop()` is called. -/
def fillBeforeStop : List (ShutdownAction GrpcStoppingAction) :=
  [.gateway (.stream none), .gateway (.stream none),
    .gateway (.stream (some { executionId := "E1" })), .gateway (.stream none),
    .gateway (.stream none), .gateway .stop, .gateway .stop, .gateway .stop,
    .gateway (.stream none), .dispatcher .requestStop, .dispatcher .pop]

/-- The shutdown after a fill. -/
theorem shutdown_drains_fillBeforeStop :
    Trajectory.EveryState (Shutdown.step GrpcStopping.threads) Shutdown.Drained
      (.start {} "ACC" .empty ⟨{}⟩) fillBeforeStop :=
  (shutdown_drains "ACC" .empty ⟨{}⟩).2 fillBeforeStop (by decide +kernel)

/-- A fill that is read before `stop()` and passed on after it, when the dispatch loop has ended. -/
def fillAcrossStop : List (ShutdownAction GrpcStoppingAction) :=
  [.gateway (.stream none), .gateway (.stream none),
    .gateway (.stream (some { executionId := "E1" })),
    .gateway .stop, .gateway .stop, .gateway .stop, .dispatcher .requestStop, .dispatcher .pop,
    .gateway (.stream none), .gateway (.stream none)]

/-- The fill is passed to the handler after `stop()`, and nobody handles it. -/
theorem shutdown_loses_fill :
    let s := Trajectory.run (Shutdown.step GrpcStopping.threads) (.start {} "ACC" .empty ⟨{}⟩)
      fillAcrossStop
    s.late = [{ executionId := "E1" }] ∧ s.dispatcher.position = .ended ∧
      s.dispatcher.handled = [] ∧
      ¬ Trajectory.EveryState (Shutdown.step GrpcStopping.threads) Shutdown.Drained
        (.start {} "ACC" .empty ⟨{}⟩) fillAcrossStop := by
  intro s
  have hlate : s.late = [{ executionId := "E1" }] := by decide +kernel
  refine ⟨hlate, rfl, by decide +kernel, fun h => ?_⟩
  have hnone : s.late = [] := h.last.late
  rw [hlate] at hnone
  cases hnone

end Quarcc
