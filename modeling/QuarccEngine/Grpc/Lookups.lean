import QuarccEngine.Grpc.Streams
import QuarccEngine.Library.Trajectory
import QuarccEngine.TradingEngine.Lifetimes

/-!
# Requests that hold an order manager

A request or the setup of a stream looks up its order manager under the shared lock and calls it
after it has released the lock.  In between a kill switch can destroy the order manager.  The order
managers that are held are alive along a run exactly when no kill switch begins to destroy one of
them, and then every call reaches an order manager that is still in `managers_`.
-/

namespace Quarcc

/-- The order manager is in `managers_`.  An element that is erased is taken out before its
destructor begins. -/
def TradingEngine.Alive (e : TradingEngine) (m : ManagerId) : Prop :=
  m ∈ e.managers.entries.map Sigma.snd ∧ e.phaseOf m = some .running

instance (e : TradingEngine) (m : ManagerId) : Decidable (e.Alive m) :=
  inferInstanceAs (Decidable (_ ∧ _))

/-- The order manager that the handler of a stream has looked up and not called yet. -/
def StreamPhase.held : StreamPhase → Option ManagerId
  | .found m => some m
  | .streaming _ | .returned => none

namespace ExecutionService

/-- A request or the setup of a stream has looked up the order manager and not called it yet. -/
def Holds (g : ExecutionService) (m : ManagerId) : Prop :=
  m ∈ g.engine.pending.map Prod.fst ∨ some m ∈ g.streams.map fun stream => stream.phase.held

instance (g : ExecutionService) (m : ManagerId) : Decidable (g.Holds m) :=
  inferInstanceAs (Decidable (_ ∨ _))

/-- Every order manager that is held is alive. -/
def HeldAlive (g : ExecutionService) : Prop := ∀ m, g.Holds m → g.engine.Alive m

end ExecutionService

/-- The order manager that a request or the setup of a stream calls in this step is in
`managers_`. -/
def ServiceAction.CallsRegistered (g : ExecutionService) : ServiceAction → Prop
  | .engine (.enqueue k) => ∀ call ∈ g.engine.pending[k]?, g.engine.Alive call.1
  | .install k => ∀ stream ∈ g.streams[k]?, ∀ m ∈ stream.phase.held, g.engine.Alive m
  | _ => True

instance (g : ExecutionService) : (a : ServiceAction) → Decidable (a.CallsRegistered g)
  | .engine (.enqueue k) =>
    inferInstanceAs (Decidable (∀ call ∈ g.engine.pending[k]?, g.engine.Alive call.1))
  | .install k =>
    inferInstanceAs
      (Decidable (∀ stream ∈ g.streams[k]?, ∀ m ∈ stream.phase.held, g.engine.Alive m))
  | .engine (.registerStrategy _ _ _ _) | .engine (.lookup _) | .engine (.deliver _ _)
  | .engine (.pop _) | .engine (.finish _ _ _) | .engine (.endLoop _)
  | .engine (.stopStrategy _ _ _) | .engine (.haltAll _ _ _) | .engine .proceed | .setup _ _
  | .clear _ => isTrue trivial

/-- The order manager whose destructor begins with the call. -/
def KillStep.destroys : KillStep → Option ManagerId
  | .stop m => some m
  | .cancelAll _ | .await _ | .join _ => none

/-- No order manager that is held begins to be destroyed in this step. -/
def ServiceAction.DestroysUnheld (g : ExecutionService) : ServiceAction → Prop
  | .engine .proceed =>
    ∀ kill ∈ g.engine.killSwitch, ∀ first ∈ kill.todo.head?, ∀ m ∈ first.destroys, ¬ g.Holds m
  | _ => True

instance (g : ExecutionService) : (a : ServiceAction) → Decidable (a.DestroysUnheld g)
  | .engine .proceed =>
    inferInstanceAs (Decidable (∀ kill ∈ g.engine.killSwitch, ∀ first ∈ kill.todo.head?,
      ∀ m ∈ first.destroys, ¬ g.Holds m))
  | .engine (.registerStrategy _ _ _ _) | .engine (.lookup _) | .engine (.enqueue _)
  | .engine (.deliver _ _) | .engine (.pop _) | .engine (.finish _ _ _) | .engine (.endLoop _)
  | .engine (.stopStrategy _ _ _) | .engine (.haltAll _ _ _) | .setup _ _ | .install _
  | .clear _ => isTrue trivial

namespace TradingEngine

variable {e : TradingEngine} {m : ManagerId}

lemma alive_iff : e.Alive m ↔ e.Registered m ∧ e.phaseOf m = some .running := by
  unfold Alive Registered
  rw [FiniteMap.mem_values_iff]

/-- What a lookup finds is alive. -/
lemma Lifetimes.alive (h : e.Lifetimes) (hfree : e.killSwitch = none) {strategyId : StrategyId}
    (hm : e.managers.lookup strategyId = some m) : e.Alive m := by
  refine alive_iff.mpr ⟨⟨strategyId, hm⟩, (h.running m ⟨strategyId, hm⟩).resolve_right ?_⟩
  rintro ⟨kill, hkill, -⟩
  rw [hfree] at hkill
  cases hkill

/-- A change of an order manager that goes on running. -/
lemma Alive.modify (h : e.Alive m) {m' : ManagerId} {f : Managed → Managed}
    (hf : ∀ o : Managed, o.phase = .running → (f o).phase = .running ∨ m ≠ m') :
    (e.modify m' f).Alive m := by
  obtain ⟨hm, hphase⟩ := h
  refine ⟨hm, ?_⟩
  obtain ⟨o, ho, hrun⟩ := Option.map_eq_some_iff.mp hphase
  rw [phaseOf_modify, ho, Option.map_some]
  by_cases hmm : m' = m
  · rw [if_pos hmm, (hf o hrun).resolve_right (not_not_intro hmm.symm)]
  · rw [if_neg hmm, hrun]

/-- Registering another strategy. -/
lemma Alive.register (h : e.Alive m) {strategyId : StrategyId}
    (hnew : e.managers.lookup strategyId = none) (object : Managed) :
    ({ e with
      managers := e.managers.insert strategyId e.objects.length
      objects := e.objects ++ [object] } : TradingEngine).Alive m := by
  obtain ⟨⟨id, hid⟩, hphase⟩ := alive_iff.mp h
  obtain ⟨o, ho, hrun⟩ := Option.map_eq_some_iff.mp hphase
  have hlt : m < e.objects.length := (List.getElem?_eq_some_iff.mp ho).1
  have hne : id ≠ strategyId := by
    rintro rfl
    rw [hnew] at hid
    cases hid
  refine alive_iff.mpr ⟨⟨id, ?_⟩, ?_⟩
  · dsimp only
    rw [FiniteMap.lookup_insert_eq, if_neg hne, hid]
  · unfold phaseOf
    dsimp only
    rw [List.getElem?_append_left hlt, ho, Option.map_some, hrun]

/-- A kill switch that returns leaves what it has not destroyed. -/
lemma Alive.return (h : e.Alive m) (hlife : e.Lifetimes) {kill : KillSwitch}
    (hkill : e.killSwitch = some kill) (htodo : kill.todo = []) :
    ({ e with
      managers := kill.remaining e.managers
      killSwitch := none
      stopped := kill.affected ++ e.stopped } : TradingEngine).Alive m := by
  obtain ⟨⟨id, hid⟩, hphase⟩ := alive_iff.mp h
  refine alive_iff.mpr ⟨⟨id, (lookup_remaining _ _ _ _).mpr ⟨fun hstops => ?_, hid⟩⟩, hphase⟩
  have haffected := (hlife.affected_iff kill hkill m).mpr ⟨id, hstops, hid⟩
  have hgone := hlife.joined kill hkill m haffected
  rw [htodo] at hgone
  have hgone' := hgone.resolve_left List.not_mem_nil
  cases Option.some.inj (hphase.symm.trans hgone')

/-- A step destroys nothing but the order manager that a call of the kill switch is about. -/
lemma Alive.step (h : e.Alive m) (hlife : e.Lifetimes) (a : Action)
    (hheld : a = .proceed → ∀ kill ∈ e.killSwitch, ∀ first ∈ kill.todo.head?,
      ∀ m' ∈ first.destroys, m ≠ m') : (e.step a).Alive m := by
  have hstep := e.steps_step a
  generalize e.step a = e' at hstep ⊢
  cases hstep with
  | registered hnone hnew => exact h.register hnew _
  | enqueued hcall => exact h.modify fun o ho => Or.inl ((o.enqueue_phase _).trans ho)
  | delivered => exact h.modify fun o ho => Or.inl ((o.enqueue_phase _).trans ho)
  | popped => exact h.modify fun o ho => Or.inl (o.pop_phase.trans ho)
  | finished => exact h.modify fun o ho => Or.inl ((o.finish_phase _ _).trans ho)
  | loopEnded =>
    refine h.modify fun o ho => Or.inl ?_
    obtain heq | ⟨hstopping, -, -⟩ := o.endLoop_cases
    · rw [heq, ho]
    · cases hstopping.symm.trans ho
  | cancelled hkill htodo => exact h.modify fun o ho => Or.inl ((o.enqueue_phase _).trans ho)
  | @stopped kill m' rest hkill htodo =>
    refine h.modify fun o _ => Or.inr ?_
    exact hheld rfl kill hkill (.stop m') (by rw [htodo]; rfl) m' rfl
  | joined hkill htodo hended =>
    refine h.modify fun o _ => Or.inr ?_
    rintro rfl
    cases Option.some.inj (h.2.symm.trans hended)
  | returned hkill htodo => exact h.return hlife hkill htodo
  | found _ _ | stopBegun _ _ | haltBegun _ _ | awaited _ _ _ | idle => exact h

/-- The requests that are under way after a step, and that were not before, hold what is alive. -/
lemma Lifetimes.pending_step (hlife : e.Lifetimes) (a : Action) {call : ManagerId × OMEvent}
    (hcall : call ∈ (e.step a).pending) : call ∈ e.pending ∨ (e.step a).Alive call.1 := by
  have hstep := e.steps_step a
  generalize e.step a = e' at hstep hcall ⊢
  cases hstep with
  | found hnone hm =>
    rcases List.mem_append.mp hcall with hbefore | hnew
    · exact Or.inl hbefore
    · obtain rfl := List.mem_singleton.mp hnew
      exact Or.inr (hlife.alive hnone hm)
  | enqueued hrequest => exact Or.inl (List.mem_of_mem_eraseIdx hcall)
  | _ => exact Or.inl hcall

/-- The kill switch makes no request. -/
lemma pending_proceed (e : TradingEngine) : (e.step .proceed).pending = e.pending := by
  have hstep := e.steps_step .proceed
  generalize e.step .proceed = e' at hstep ⊢
  cases hstep <;> rfl

end TradingEngine

/-- The handlers of the streams keep the account of the lifetimes. -/
lemma TradingEngine.Lifetimes.serviceStep {g : ExecutionService} (h : g.engine.Lifetimes)
    (a : ServiceAction) : (g.step a).engine.Lifetimes := by
  have hstep := g.steps_step a
  generalize g.step a = g' at hstep ⊢
  cases hstep with
  | engine => exact h.step _
  | @installed k kind strategyId m hk =>
    exact h.modify_of_phase (Managed.setSinks_phase · kind k)
      fun o _ ho => (o.setSinks_handling kind k).trans ho
  | @cleared k kind strategyId m hfree hk =>
    dsimp only
    unfold TradingEngine.clearStream
    split
    · exact h.modify_of_phase (Managed.clearSinks_phase · kind) fun _ _ ho => ho
    · exact h
  | found _ _ | notFound | notInstalled _ | notCleared _ => exact h

namespace ExecutionService

variable {g : ExecutionService}

/-- A step of the engine that leaves alive what is held, and lets requests hold only what is
alive. -/
lemma HeldAlive.of_engine (h : g.HeldAlive) {e : TradingEngine}
    (halive : ∀ m, g.Holds m → g.engine.Alive m → e.Alive m)
    (hpending : ∀ call ∈ e.pending, call ∈ g.engine.pending ∨ e.Alive call.1) :
    ({ g with engine := e } : ExecutionService).HeldAlive := by
  rintro m (hm | hm)
  · obtain ⟨call, hcall, rfl⟩ := List.mem_map.mp hm
    rcases hpending call hcall with hbefore | hnew
    · have hheld : g.Holds call.1 := Or.inl (List.mem_map_of_mem hbefore)
      exact halive _ hheld (h _ hheld)
    · exact hnew
  · have hheld : g.Holds m := Or.inr hm
    exact halive m hheld (h m hheld)

/-- A change of one order manager that goes on running. -/
lemma HeldAlive.modify (h : g.HeldAlive) {m : ManagerId} {f : Managed → Managed}
    (hf : ∀ o : Managed, o.phase = .running → (f o).phase = .running) :
    ({ g with engine := g.engine.modify m f } : ExecutionService).HeldAlive :=
  h.of_engine (fun _ _ halive => halive.modify fun o ho => Or.inl (hf o ho))
    fun _ hcall => Or.inl hcall

/-- The handler of a stream has made its call. -/
lemma HeldAlive.setPhase (h : g.HeldAlive) (k : SinkId) (phase : StreamPhase)
    (hphase : phase.held = none) : (g.setPhase k phase).HeldAlive := by
  rintro m (hm | hm)
  · exact h m (Or.inl hm)
  · obtain ⟨stream, hstream, hheld⟩ := List.mem_map.mp hm
    obtain ⟨j, hj⟩ := List.mem_iff_getElem?.mp hstream
    rw [streams_setPhase] at hj
    obtain ⟨before, hbefore, rfl⟩ := Option.map_eq_some_iff.mp hj
    split_ifs at hheld
    · rw [hphase] at hheld
      cases hheld
    · exact h m (Or.inr (List.mem_map.mpr ⟨before, List.mem_of_getElem? hbefore, hheld⟩))

/-- A step of the engine. -/
lemma heldAlive_engine_iff (hlife : g.engine.Lifetimes) (h : g.HeldAlive) (action : Action) :
    ({ g with engine := g.engine.step action } : ExecutionService).HeldAlive ↔
      (ServiceAction.engine action).DestroysUnheld g := by
  constructor
  · intro hafter
    cases action with
    | proceed =>
      intro kill hkill first hfirst m hdestroys hheld
      have hkill' : g.engine.killSwitch = some kill := hkill
      have hstop : first = .stop m := by
        cases first <;> cases hdestroys
        rfl
      obtain ⟨rest, htodo⟩ := List.head?_eq_some_iff.mp hfirst
      have hheld' : ({ g with engine := g.engine.step .proceed } : ExecutionService).Holds m := by
        unfold Holds
        rw [TradingEngine.pending_proceed]
        exact hheld
      have halive := hafter m hheld'
      obtain ⟨o, ho, hrun⟩ := Option.map_eq_some_iff.mp (h m hheld).2
      -- the order manager is running, so the call stops it
      have hphase : (g.engine.step .proceed).phaseOf m = some .stopping := by
        unfold TradingEngine.step TradingEngine.proceed
        rw [hkill']
        dsimp only
        rw [htodo, hstop]
        apply (TradingEngine.phaseOf_modify g.engine m m Managed.stop).trans
        rw [ho, Option.map_some, if_pos rfl]
        unfold Managed.stop
        rw [if_pos hrun]
      cases Option.some.inj (halive.2.symm.trans hphase)
    | _ => exact trivial
  · intro hunheld
    refine h.of_engine (fun m hheld halive => ?_) fun call hcall => hlife.pending_step action hcall
    refine halive.step hlife action fun hproceed kill hkill first hfirst m' hstop => ?_
    subst hproceed
    rintro rfl
    exact hunheld kill hkill first hfirst m hstop hheld

namespace HeldAlive

variable (h : g.HeldAlive)

include h

/-- A stream that is set up holds what it has found. -/
lemma found {kind : StreamKind} {strategyId : StrategyId} {m : ManagerId} (hm : g.engine.Alive m) :
    ({ g with
      streams := g.streams ++ [{ kind := kind, strategyId := strategyId, phase := .found m }] } :
      ExecutionService).HeldAlive := by
  rintro m' (hm' | hm')
  · exact h m' (Or.inl hm')
  · rw [List.map_append, List.mem_append] at hm'
    rcases hm' with hbefore | hnew
    · exact h m' (Or.inr hbefore)
    · obtain rfl : m' = m := Option.some.inj (List.mem_singleton.mp hnew)
      exact hm

/-- A stream that clears its sinks holds nothing any more. -/
lemma cleared (k : SinkId) (kind : StreamKind) (strategyId : StrategyId) :
    ({ g.setPhase k .returned with engine := g.engine.clearStream kind strategyId } :
      ExecutionService).HeldAlive := by
  have hreturned := h.setPhase k .returned rfl
  unfold TradingEngine.clearStream
  split
  · exact hreturned.modify fun o ho => ho
  · exact hreturned

end HeldAlive

/-- **Step lemma.**  A step leaves alive what is held exactly when it does not begin to destroy
it. -/
theorem heldAlive_step_iff (hlife : g.engine.Lifetimes) (h : g.HeldAlive) (a : ServiceAction) :
    (g.step a).HeldAlive ↔ a.DestroysUnheld g := by
  have hstep := g.steps_step a
  generalize g.step a = g' at hstep ⊢
  cases hstep with
  | engine => exact heldAlive_engine_iff hlife h _
  | found hfree hm => exact iff_of_true (h.found (hlife.alive hfree hm)) trivial
  | @installed k kind strategyId m hk =>
    refine iff_of_true ((h.setPhase k (.streaming m) rfl).modify fun o ho => ?_) trivial
    exact (o.setSinks_phase kind k).trans ho
  | cleared hfree hk => exact iff_of_true (h.cleared _ _ _) trivial
  | notFound | notInstalled _ | notCleared _ => exact iff_of_true h trivial

end ExecutionService

/-! ## Runs -/

/-- The requests hold only what is alive, along a run, exactly when no kill switch begins to destroy
an order manager that is held. -/
theorem held_alive_iff (actions : List ServiceAction) :
    Trajectory.EveryState ExecutionService.step ExecutionService.HeldAlive {} actions ↔
      Trajectory.AllSteps ExecutionService.step (fun g a => a.DestroysUnheld g) {} actions := by
  have hstart : ExecutionService.HeldAlive {} := by
    rintro m (hm | hm) <;> cases hm
  have hlife : ∀ (g : ExecutionService) (a : ServiceAction), g.engine.Lifetimes →
      (g.step a).engine.Lifetimes := fun g a h => h.serviceStep a
  exact Trajectory.everyState_iff_of_invariant hlife
    (fun g a h hheld => ExecutionService.heldAlive_step_iff h hheld a)
    TradingEngine.lifetimes_start hstart

/-- **Every call reaches an order manager in `managers_`** in every interleaving of the requests,
the handlers of the streams, the dispatch threads and the kill switches in which no kill switch
begins to destroy an order manager that is held. -/
theorem calls_registered_of_unheld (actions : List ServiceAction)
    (hunheld : Trajectory.AllSteps ExecutionService.step (fun g a => a.DestroysUnheld g) {}
      actions) :
    Trajectory.AllSteps ExecutionService.step (fun g a => a.CallsRegistered g) {} actions := by
  refine ((held_alive_iff actions).mpr hunheld).allSteps fun g a h => ?_
  cases a with
  | engine action =>
    cases action with
    | enqueue k =>
      intro call hcall
      exact h call.1 (Or.inl (List.mem_map_of_mem (List.mem_of_getElem? hcall)))
    | _ => trivial
  | install k =>
    intro stream hstream m hm
    refine h m (Or.inr (List.mem_map.mpr ⟨stream, List.mem_of_getElem? hstream, hm⟩))
  | _ => trivial

/-- The steps in which a strategy is stopped while its dispatch thread has nothing else to do. -/
def stopQuietly : List ServiceAction :=
  [.stopStrategy "S" "test" "operator", .proceed, .pop 0, .finish 0 .quiet (.accepting "B1"),
    .proceed, .proceed, .endLoop 0, .proceed, .proceed].map .engine

/-- A request and the setup of a stream that are over before the strategy is stopped. -/
theorem calls_registered_of_unheld_stop :
    let actions : List ServiceAction :=
      [.engine (.registerStrategy "S" "ACC" .empty ⟨{}⟩),
        .engine (.lookup (.cancelOrder { strategyId := "S", orderId := "X" })),
        .setup .fills "S", .install 0, .engine (.enqueue 0), .engine (.pop 0),
        .engine (.finish 0 .quiet (.accepting "B1"))] ++ stopQuietly
    Trajectory.AllSteps ExecutionService.step (fun g a => a.CallsRegistered g) {} actions := by
  intro actions
  exact calls_registered_of_unheld actions (by decide +kernel)

/-- A request that has looked up its order manager calls it after the strategy was stopped. -/
theorem call_after_stop :
    let actions : List ServiceAction :=
      [.engine (.registerStrategy "S" "ACC" .empty ⟨{}⟩),
        .engine (.lookup (.cancelOrder { strategyId := "S", orderId := "X" }))] ++ stopQuietly ++
        [.engine (.enqueue 0)]
    ¬ Trajectory.AllSteps ExecutionService.step (fun g a => a.CallsRegistered g) {} actions := by
  decide +kernel

end Quarcc
