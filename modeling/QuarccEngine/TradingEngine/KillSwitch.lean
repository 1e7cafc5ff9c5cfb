import QuarccEngine.OrderManager.Tracking
import QuarccEngine.TradingEngine.Lifetimes

/-!
# The kill switch

The kill switch cancels what is open when its command is handled, and the dispatch thread handles
what is still in the queue before the order manager is destroyed.  Once the command has been handled
nothing is mapped, so the only event that makes an order live again is a submit command which was
enqueued behind it.  The main result says that nothing is live after the kill switch has returned if
the gateway accepts no such late order.
-/

namespace Quarcc

/-! ## One order manager -/

/-- The live orders of the order manager are tracked, and it maps nothing once its kill switch
command has been handled. -/
structure Managed.Sound (o : Managed) : Prop where
  tracking : Tracking True o.account.1.idMapper o.account.1.orderStore o.account.2
  unmapped : o.halted = true → ∀ l, o.account.1.idMapper.getBrokerId l = none

/-- The order manager handles a submit command after its kill switch command, and the gateway
accepts the order. -/
def Managed.AcceptsLate (o : Managed) (env : Env) (gateway : GatewayAnswers) : Prop :=
  match o.handling with
  | some (.submitCommand signal) =>
    o.halted = true ∧ SubmitSent o.account.1 env signal ∧
      (gateway.submitOrder (o.account.1.orderOfSubmit env signal)).isOk = true
  | _ => False

instance (o : Managed) (env : Env) (gateway : GatewayAnswers) :
    Decidable (o.AcceptsLate env gateway) :=
  match h : o.handling with
  | some (.submitCommand signal) =>
    decidable_of_iff (o.halted = true ∧ SubmitSent o.account.1 env signal ∧
      (gateway.submitOrder (o.account.1.orderOfSubmit env signal)).isOk = true)
      (by simp [Managed.AcceptsLate, h])
  | some (.bar _) | some (.tick _) | some (.executionReport _) | some (.cancelCommand _)
  | some (.replaceCommand _) | some (.cancelAllCommand _ _) | none =>
    isFalse (by simp [Managed.AcceptsLate, h])

/-- Every call on the store succeeds while the order manager handles the event that it has
popped. -/
def Managed.StoreSucceeds (o : Managed) (env : Env) (gateway : GatewayAnswers) : Prop :=
  match o.handling with
  | some event => Quarcc.StoreSucceeds o.account.1 ⟨event, env, gateway⟩
  | none => True

instance (o : Managed) (env : Env) (gateway : GatewayAnswers) :
    Decidable (o.StoreSucceeds env gateway) :=
  match h : o.handling with
  | some event =>
    decidable_of_iff (Quarcc.StoreSucceeds o.account.1 ⟨event, env, gateway⟩)
      (by simp [Managed.StoreSucceeds, h])
  | none => isTrue (by simp [Managed.StoreSucceeds, h])

/-- When the order manager handles its kill switch command, no mapped broker id has a zero byte. -/
def Managed.ReadsWhole (o : Managed) : Prop :=
  match o.handling with
  | some (.cancelAllCommand _ _) => o.account.1.idMapper.NoZeroBytes
  | _ => True

instance (o : Managed) : Decidable o.ReadsWhole :=
  match h : o.handling with
  | some (.cancelAllCommand _ _) =>
    decidable_of_iff o.account.1.idMapper.NoZeroBytes (by simp [Managed.ReadsWhole, h])
  | some (.bar _) | some (.tick _) | some (.executionReport _) | some (.submitCommand _)
  | some (.cancelCommand _) | some (.replaceCommand _) | none =>
    isTrue (by simp [Managed.ReadsWhole, h])

namespace Managed

variable {o : Managed}

/-- A change that does not touch the books, the account and the promise. -/
lemma Sound.of_eq (h : o.Sound) {o' : Managed} (haccount : o'.account = o.account)
    (hhalted : o'.halted = o.halted) : o'.Sound := by
  constructor
  · rw [haccount]
    exact h.tracking
  · rw [haccount, hhalted]
    exact h.unmapped

/-- An order manager that was just created. -/
lemma sound_start (accountId : String) (store : SQLiteOrderStore) (riskManager : RiskManager) :
    ({ account := .start accountId store riskManager } : Managed).Sound where
  tracking := .start store
  unmapped := by simp

/-- Nothing is live once the kill switch command has been handled. -/
lemma Sound.not_live (h : o.Sound) (hhalted : o.halted = true) (broker : BrokerOrderId) :
    o.account.2 broker = none := by
  apply h.tracking.not_live
  cases hlocal : o.account.1.idMapper.getLocalId broker with
  | none => rfl
  | some l =>
    have hmapped := (h.tracking.inverse l broker).mp hlocal
    rw [h.unmapped hhalted l] at hmapped
    cases hmapped

/-- A promise that was fulfilled stays so. -/
lemma finish_halted (o : Managed) (env : Env) (gateway : GatewayAnswers)
    (h : o.halted = true) : (o.finish env gateway).halted = true := by
  unfold finish
  cases o.handling with
  | none => exact h
  | some event => simp [h]

/-- Handling an event keeps the order manager sound, unless the gateway accepts a late order or the
kill switch reads a broker id that was cut. -/
lemma Sound.finish (h : o.Sound) {env : Env} {gateway : GatewayAnswers}
    (hcancel : ∀ broker, gateway.cancelOrder broker = .ok ())
    (hok : o.StoreSucceeds env gateway) (hlate : ¬ o.AcceptsLate env gateway)
    (hwhole : o.ReadsWhole) : (o.finish env gateway).Sound := by
  unfold Managed.StoreSucceeds at hok
  unfold AcceptsLate at hlate
  unfold Managed.ReadsWhole at hwhole
  unfold Managed.finish
  cases hhandling : o.handling with
  | none => exact h
  | some event =>
    rw [hhandling] at hok hlate hwhole
    have hreads : Input.ReadsWhole o.account.1 ⟨event, env, gateway⟩ := by
      rintro reason initiatedBy rfl
      exact hwhole
    refine ⟨h.tracking.dispatch (Or.inl ⟨trivial, hok⟩) hreads, fun hhalted => ?_⟩
    by_cases hbefore : o.halted = true
    · -- only a late order could be mapped
      apply (dispatch_move _ _).getBrokerId_eq_none h.tracking.inverse (h.unmapped hbefore)
      intro signal hevent hsent broker haccept
      obtain rfl : event = .submitCommand signal := hevent
      refine hlate ⟨hbefore, hsent, ?_⟩
      rw [haccept]
      rfl
    · -- the command of the kill switch is handled just now
      cases event with
      | cancelAllCommand reason initiatedBy =>
        exact getBrokerId_killSwitch h.tracking.carried hok rfl fun _ broker _ =>
          hcancel (cStr broker)
      | _ => simp [hbefore, fulfils] at hhalted

end Managed

/-! ## The engine -/

namespace TradingEngine

variable {e : TradingEngine} {m : ManagerId}

/-- The order managers are sound, and the promise of every order manager whose kill switch has
returned, or has waited for it, is fulfilled. -/
structure Sound (e : TradingEngine) : Prop where
  objects : ∀ (m : ManagerId) (o : Managed), e.objects[m]? = some o → o.Sound
  waited : ∀ kill, e.killSwitch = some kill → ∀ m ∈ kill.affected,
    KillStep.await m ∈ kill.todo ∨ e.Halted m
  stopped : ∀ m ∈ e.stopped, e.Halted m

/-- An engine without strategies. -/
lemma sound_start : Sound {} where
  objects := by simp
  waited := by simp
  stopped := by simp

/-- A promise that was fulfilled stays so. -/
lemma Halted.modify {f : Managed → Managed}
    (hf : ∀ o : Managed, o.halted = true → (f o).halted = true)
    (h : e.Halted m) (m' : ManagerId) : (e.modify m' f).Halted m := by
  unfold Halted at h ⊢
  rw [objects_modify]
  obtain ⟨o, ho, hhalted⟩ := Option.map_eq_some_iff.mp h
  rw [ho]
  by_cases hm : m' = m
  · simp [hm, hf o hhalted]
  · simp [hm, hhalted]

/-- A change of one order manager that keeps it sound. -/
lemma Sound.modify (h : e.Sound) {f : Managed → Managed}
    (hsound : ∀ o, e.objects[m]? = some o → o.Sound → (f o).Sound)
    (hhalted : ∀ o : Managed, o.halted = true → (f o).halted = true) : (e.modify m f).Sound where
  objects := by
    intro m' o ho
    rw [objects_modify] at ho
    obtain ⟨o', ho', rfl⟩ := Option.map_eq_some_iff.mp ho
    have hbefore := h.objects m' o' ho'
    by_cases hm : m = m'
    · rw [if_pos hm]
      exact hsound o' (hm ▸ ho') hbefore
    · rw [if_neg hm]
      exact hbefore
  waited := fun kill hkill m' hm' => (h.waited kill hkill m' hm').imp_right (·.modify hhalted m)
  stopped := fun m' hm' => (h.stopped m' hm').modify hhalted m

/-- A change of one order manager that leaves its account and its promise alone. -/
lemma Sound.modify_of_eq (h : e.Sound) {f : Managed → Managed}
    (hf : ∀ o : Managed, (f o).account = o.account ∧ (f o).halted = o.halted) :
    (e.modify m f).Sound :=
  h.modify (fun o _ ho => ho.of_eq (hf o).1 (hf o).2) fun o ho => (hf o).2.trans ho

/-- The kill switch has made a call other than waiting for a promise that is not fulfilled. -/
lemma Sound.advance (h : e.Sound) {kill : KillSwitch} {first : KillStep} {rest : List KillStep}
    (hkill : e.killSwitch = some kill) (htodo : kill.todo = first :: rest)
    (hfirst : ∀ m, first = .await m → e.Halted m) :
    ({ e with killSwitch := some { kill with todo := rest } } : TradingEngine).Sound where
  objects := h.objects
  waited := by
    intro kill' hkill' m hm
    obtain rfl := Option.some.inj hkill'
    rcases h.waited kill hkill m hm with hawait | hhalted
    · rw [htodo] at hawait
      rcases List.mem_cons.mp hawait with hhead | hrest
      · exact Or.inr (hfirst m hhead.symm)
      · exact Or.inl hrest
    · exact Or.inr hhalted
  stopped := h.stopped

/-- A kill switch that takes the lock has still to wait for every order manager. -/
lemma Sound.begin (h : e.Sound) (target : Option StrategyId) (affected : List ManagerId)
    (reason initiatedBy : String) :
    ({ e with
      killSwitch := some
        { target := target, affected := affected, reason := reason, initiatedBy := initiatedBy
          todo := KillSwitch.calls affected } } : TradingEngine).Sound where
  objects := h.objects
  waited := by
    intro kill hkill m hm
    obtain rfl := Option.some.inj hkill
    left
    refine List.mem_append_left _ (List.mem_flatMap.mpr ⟨m, hm, ?_⟩)
    simp
  stopped := h.stopped

/-- Registering a strategy. -/
lemma Sound.register (h : e.Sound) (managers : AList fun _ : StrategyId => ManagerId)
    (accountId : String) (store : SQLiteOrderStore) (riskManager : RiskManager) :
    ({ e with
      managers := managers
      objects := e.objects ++ [{ account := .start accountId store riskManager }] } :
      TradingEngine).Sound := by
  have hkeep : ∀ m, e.Halted m → ∀ new : Managed, (e.objects ++ [new])[m]?.map Managed.halted =
      some true := by
    intro m hm new
    obtain ⟨o, ho, hhalted⟩ := Option.map_eq_some_iff.mp hm
    have hlt : m < e.objects.length := (List.getElem?_eq_some_iff.mp ho).1
    rw [List.getElem?_append_left hlt, ho, Option.map_some, hhalted]
  constructor
  · intro m o ho
    rcases List.mem_append.mp (List.mem_of_getElem? ho) with hold | hnew
    · obtain ⟨m', hm'⟩ := List.mem_iff_getElem?.mp hold
      exact h.objects m' o hm'
    · obtain rfl := List.mem_singleton.mp hnew
      exact Managed.sound_start accountId store riskManager
  · exact fun kill hkill m hm => (h.waited kill hkill m hm).imp_right (hkeep m · _)
  · exact fun m hm => hkeep m (h.stopped m hm) _

/-- The return of the kill switch. -/
lemma Sound.return (h : e.Sound) {kill : KillSwitch} (hkill : e.killSwitch = some kill)
    (htodo : kill.todo = []) (managers : AList fun _ : StrategyId => ManagerId) :
    ({ e with
      managers := managers
      killSwitch := none
      stopped := kill.affected ++ e.stopped } : TradingEngine).Sound where
  objects := h.objects
  waited := by simp
  stopped := by
    intro m hm
    rcases List.mem_append.mp hm with haffected | hstopped
    · have hwaited := h.waited kill hkill m haffected
      rw [htodo] at hwaited
      exact hwaited.resolve_left List.not_mem_nil
    · exact h.stopped m hstopped

end TradingEngine

/-! ## Runs -/

/-- The gateway accepts every cancel that it is asked for in this step. -/
def Action.AcceptsCancels : Action → Prop
  | .finish _ _ gateway => ∀ broker, gateway.cancelOrder broker = .ok ()
  | _ => True

/-- Every call on the store succeeds in this step. -/
def Action.StoreSucceeds (e : TradingEngine) : Action → Prop
  | .finish m env gateway =>
    match e.objects[m]? with
    | some o => o.StoreSucceeds env gateway
    | none => True
  | _ => True

instance (e : TradingEngine) : (a : Action) → Decidable (a.StoreSucceeds e)
  | .finish m env gateway =>
    match h : e.objects[m]? with
    | some o => decidable_of_iff (o.StoreSucceeds env gateway) (by simp [Action.StoreSucceeds, h])
    | none => isTrue (by simp [Action.StoreSucceeds, h])
  | .registerStrategy _ _ _ _ | .lookup _ | .enqueue _ | .deliver _ _ | .pop _ | .endLoop _
  | .stopStrategy _ _ _ | .haltAll _ _ _ | .proceed => isTrue trivial

/-- This step accepts no late order. -/
def Action.AcceptsNoLateOrder (e : TradingEngine) : Action → Prop
  | .finish m env gateway =>
    match e.objects[m]? with
    | some o => ¬ o.AcceptsLate env gateway
    | none => True
  | _ => True

instance (e : TradingEngine) : (a : Action) → Decidable (a.AcceptsNoLateOrder e)
  | .finish m env gateway =>
    match h : e.objects[m]? with
    | some o =>
      decidable_of_iff (¬ o.AcceptsLate env gateway) (by simp [Action.AcceptsNoLateOrder, h])
    | none => isTrue (by simp [Action.AcceptsNoLateOrder, h])
  | .registerStrategy _ _ _ _ | .lookup _ | .enqueue _ | .deliver _ _ | .pop _ | .endLoop _
  | .stopStrategy _ _ _ | .haltAll _ _ _ | .proceed => isTrue trivial

/-- A kill switch command that is handled in this step finds the broker ids of the mapped orders
whole in the store. -/
def Action.ReadsWhole (e : TradingEngine) : Action → Prop
  | .finish m _ _ =>
    match e.objects[m]? with
    | some o => o.ReadsWhole
    | none => True
  | _ => True

instance (e : TradingEngine) : (a : Action) → Decidable (a.ReadsWhole e)
  | .finish m _ _ =>
    match h : e.objects[m]? with
    | some o => decidable_of_iff o.ReadsWhole (by simp [Action.ReadsWhole, h])
    | none => isTrue (by simp [Action.ReadsWhole, h])
  | .registerStrategy _ _ _ _ | .lookup _ | .enqueue _ | .deliver _ _ | .pop _ | .endLoop _
  | .stopStrategy _ _ _ | .haltAll _ _ _ | .proceed => isTrue trivial

/-- No order of an order manager whose kill switch has returned is live. -/
def TradingEngine.StoppedIsFinal (e : TradingEngine) : Prop :=
  ∀ m ∈ e.stopped, ∀ o, e.objects[m]? = some o → ∀ broker, o.account.2 broker = none

namespace TradingEngine

/-- **Step lemma.**  Every step keeps the engine sound, unless it accepts a late order or a kill
switch reads a broker id that was cut. -/
theorem Sound.step {e : TradingEngine} (h : e.Sound) (a : Action) (hcancel : a.AcceptsCancels)
    (hok : a.StoreSucceeds e) (hlate : a.AcceptsNoLateOrder e) (hwhole : a.ReadsWhole e) :
    (e.step a).Sound := by
  have hstep := e.steps_step a
  generalize e.step a = e' at hstep ⊢
  cases hstep with
  | registered hnone hnew => exact h.register _ _ _ _
  | found hnone hm => exact ⟨h.objects, h.waited, h.stopped⟩
  | @enqueued k m command hcall =>
    have hmodify : (e.modify m (Managed.enqueue · command)).Sound :=
      h.modify_of_eq (Managed.enqueue_account · _)
    exact ⟨hmodify.objects, hmodify.waited, hmodify.stopped⟩
  | delivered => exact h.modify_of_eq (Managed.enqueue_account · _)
  | popped => exact h.modify_of_eq Managed.pop_account
  | @finished m env gateway =>
    refine h.modify (fun o ho hsound => ?_) fun o ho => o.finish_halted env gateway ho
    unfold Action.StoreSucceeds at hok
    unfold Action.AcceptsNoLateOrder at hlate
    unfold Action.ReadsWhole at hwhole
    dsimp only at hok hlate hwhole
    rw [ho] at hok hlate hwhole
    exact hsound.finish hcancel hok hlate hwhole
  | loopEnded => exact h.modify_of_eq Managed.endLoop_account
  | stopBegun hnone hm => exact h.begin _ _ _ _
  | haltBegun hnone horder => exact h.begin _ _ _ _
  | cancelled hkill htodo =>
    exact (h.modify_of_eq (Managed.enqueue_account · _)).advance hkill htodo (by simp)
  | awaited hkill htodo hhalted =>
    exact h.advance hkill htodo fun m' hm' => by cases hm'; exact hhalted
  | stopped hkill htodo =>
    exact (h.modify_of_eq Managed.stop_account).advance hkill htodo (by simp)
  | joined hkill htodo hended =>
    exact (h.modify_of_eq (f := Managed.destroy) fun _ => ⟨rfl, rfl⟩).advance hkill htodo (by simp)
  | returned hkill htodo => exact h.return hkill htodo _
  | idle => exact h

/-- A sound engine has no live order in an order manager whose kill switch has returned. -/
lemma Sound.stoppedIsFinal {e : TradingEngine} (h : e.Sound) : e.StoppedIsFinal := by
  intro m hm o ho broker
  have hhalted := h.stopped m hm
  unfold Halted at hhalted
  rw [ho] at hhalted
  exact (h.objects m o ho).not_live (Option.some.inj hhalted) broker

end TradingEngine

/-- **The kill switch is final.**  In every interleaving of the requests, the dispatch threads and
the kill switches in which the gateways accept every cancel, the stores succeed, no gateway accepts
a late order and no kill switch reads a broker id that was cut, no order manager whose kill switch
has returned has a live order. -/
theorem kill_switch_final (actions : List Action)
    (hcancel : ∀ a ∈ actions, a.AcceptsCancels)
    (hok : Trajectory.AllSteps TradingEngine.step (fun e a => a.StoreSucceeds e) {} actions)
    (hlate : Trajectory.AllSteps TradingEngine.step
      (fun e a => a.AcceptsNoLateOrder e ∧ a.ReadsWhole e) {} actions) :
    Trajectory.EveryState TradingEngine.step TradingEngine.StoppedIsFinal {} actions := by
  have hinv : Trajectory.EveryState TradingEngine.step TradingEngine.Sound {} actions := by
    have hcancel' : Trajectory.AllSteps TradingEngine.step (fun _ a => a.AcceptsCancels) {}
        actions := Trajectory.allSteps_of_forall hcancel
    refine Trajectory.everyState_of_invariant ?_ TradingEngine.sound_start
      (Trajectory.allSteps_and.mpr ⟨hcancel', Trajectory.allSteps_and.mpr ⟨hok, hlate⟩⟩)
    rintro e a h ⟨hcancel, hok, hlate, hwhole⟩
    exact h.step a hcancel hok hlate hwhole
  exact hinv.mono fun e h => h.stoppedIsFinal

/-- A request for an order of the strategy that the runs below register. -/
def requestBuy : Request :=
  .submitSignal { strategyId := "S", symbol := "AAPL", side := .buy, targetQuantity := 10 }

/-- The dispatch thread pops an event and handles it, the gateway naming a new order `broker`. -/
def handleNext (broker : BrokerOrderId) : List Action :=
  [.pop 0, .finish 0 .quiet (.accepting broker)]

/-- A run in which the strategy is stopped after its order was accepted. -/
def stopAfterOrder : List Action :=
  [.registerStrategy "S" "ACC" .empty ⟨{}⟩, .lookup requestBuy, .enqueue 0] ++ handleNext "B1" ++
    [.stopStrategy "S" "test" "operator", .proceed] ++ handleNext "B2" ++
    [.proceed, .proceed, .endLoop 0, .proceed, .proceed]

/-- Nothing is live after the strategy was stopped. -/
theorem kill_switch_final_order :
    Trajectory.EveryState TradingEngine.step TradingEngine.StoppedIsFinal {} stopAfterOrder := by
  refine kill_switch_final stopAfterOrder ?_ (by decide +kernel) (by decide +kernel)
  simp [stopAfterOrder, handleNext, Action.AcceptsCancels, GatewayAnswers.accepting]

/-- A run in which a request has looked up the order manager before the strategy is stopped, and
enqueues its command behind the command of the kill switch. -/
def orderBehindStop : List Action :=
  [.registerStrategy "S" "ACC" .empty ⟨{}⟩, .lookup requestBuy,
    .stopStrategy "S" "test" "operator", .proceed, .enqueue 0] ++ handleNext "B1" ++ [.proceed] ++
    handleNext "B1" ++ [.proceed, .endLoop 0, .proceed, .proceed]

/-- The order that was enqueued behind the command of the kill switch is live after the kill switch
has returned, although the gateway accepts every cancel and the store succeeds. -/
theorem order_behind_stop_live :
    (∀ a ∈ orderBehindStop, a.AcceptsCancels) ∧
      Trajectory.AllSteps TradingEngine.step (fun e a => a.StoreSucceeds e) {} orderBehindStop ∧
      ¬ Trajectory.EveryState TradingEngine.step TradingEngine.StoppedIsFinal {}
        orderBehindStop := by
  refine ⟨?_, by decide +kernel, fun h => ?_⟩
  · simp [orderBehindStop, handleNext, Action.AcceptsCancels, GatewayAnswers.accepting]
  · have hstopped : 0 ∈ (Trajectory.run TradingEngine.step {} orderBehindStop).stopped := by
      decide +kernel
    have hlive : ((Trajectory.run TradingEngine.step {} orderBehindStop).objects[0]?.map
        fun o => (o.account.2 "B1").isSome) = some true := by
      decide +kernel
    obtain ⟨o, ho, hsome⟩ := Option.map_eq_some_iff.mp hlive
    rw [h.last 0 hstopped o ho "B1"] at hsome
    cases hsome

end Quarcc
