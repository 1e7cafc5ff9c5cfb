import QuarccEngine.Gateways.GatewayThreads
import QuarccEngine.TradingEngine.Completion

/-!
# The kill switch returns

`~OrderManager` calls `stop()` of its gateway before it joins the dispatch thread, and destroys the
gateway afterwards, so that a kill switch waits for the threads of the gateways as well, with
`managers_mu_` held.  The main result says that a kill switch which has taken the lock returns.

The engine is the one of `TradingEngine`, and every step of it here is a step there or none.  What
is left of the calls is ranked before what the next call waits for in the gateway.  The gateways are
sound as long as their stops are in time; otherwise one of their threads may wait for ever, and the
kill switch with it.
-/

namespace Quarcc

/-! ## The engine with its gateways -/

/-- The call that the kill switch makes next, if one holds the lock. -/
def TradingEngine.nextCall? (e : TradingEngine) : Option KillStep :=
  e.killSwitch.bind fun kill => kill.todo.head?

/-- The engine and the gateways of its order managers, with their threads. -/
structure ThreadedEngine where
  engine : TradingEngine := {}
  gateways : ManagerId → Gateway

/-- A step of one of the threads: of the engine, or of the gateway of an order manager. -/
inductive ThreadedAction where
  | engine (a : Action)
  | gateway (m : ManagerId) (a : GatewayAction)

namespace ThreadedEngine

/-- An engine without strategies.  The order managers will get gateways of the given kinds. -/
def start (kinds : ManagerId → GatewayKind) : ThreadedEngine where
  gateways := fun m => Gateway.start (kinds m)

/-- A gateway is changed. -/
def setGateway (e : ThreadedEngine) (m : ManagerId) (g : Gateway) : ThreadedEngine :=
  { e with gateways := Function.update e.gateways m g }

/-- The kill switch goes on.  The destructor of an order manager begins with `gateway_->stop()`, and
after the join of the dispatch thread it destroys the gateway. -/
def proceed (e : ThreadedEngine) : ThreadedEngine :=
  match e.engine.nextCall? with
  | some (.stop m) =>
    if (e.gateways m).Returned then { e with engine := e.engine.proceed }
    else e.setGateway m (e.gateways m).callStop
  | some (.join m) => if (e.gateways m).Ended then { e with engine := e.engine.proceed } else e
  | some (.cancelAll _) | some (.await _) | none => { e with engine := e.engine.proceed }

/-- A thread of the gateway of an order manager takes a step.  The fill handler enqueues the report
that it gets. -/
def gatewayStep (e : ThreadedEngine) (m : ManagerId) (a : GatewayAction) : ThreadedEngine :=
  if m < e.engine.objects.length then
    let e' := e.setGateway m ((e.gateways m).step a)
    match (e.gateways m).passes a with
    | some report => { e' with engine := e.engine.deliver m (.executionReport report) }
    | none => e'
  else e

/-- A step.  Reports come from the gateways only. -/
def step (e : ThreadedEngine) : ThreadedAction → ThreadedEngine
  | .engine .proceed => e.proceed
  | .engine (.deliver _ (.executionReport _)) => e
  | .engine a => { e with engine := e.engine.step a }
  | .gateway m a => e.gatewayStep m a

/-- The kill switch has returned, the order managers that it affects are destroyed then, and the
threads of their gateways have ended. -/
def Returned (affected : List ManagerId) (e : ThreadedEngine) : Prop :=
  e.engine.Returned affected ∧ ∀ m ∈ affected, (e.gateways m).Ended

/-- When the next call is that of `gateway_->stop()`, it goes on in time. -/
def StopsInTime (e : ThreadedEngine) : Option KillStep → Prop
  | some (.stop m) => ¬ (e.gateways m).Returned → (e.gateways m).StopsInTime
  | some (.cancelAll _) | some (.await _) | some (.join _) | none => True

instance (e : ThreadedEngine) : DecidablePred e.StopsInTime
  | some (.stop m) =>
    inferInstanceAs (Decidable (¬ (e.gateways m).Returned → (e.gateways m).StopsInTime))
  | some (.cancelAll _) | some (.await _) | some (.join _) | none => isTrue trivial

/-- The stops of the gateways are in time, and nothing comes in for an order manager whose dispatch
loop has ended, as its queue is destroyed next. -/
def InTime (e : ThreadedEngine) : ThreadedAction → Prop
  | .engine .proceed => e.StopsInTime e.engine.nextCall?
  | .engine (.deliver m _) => e.engine.phaseOf m ≠ some .ended
  | .engine _ => True
  | .gateway m a => e.engine.phaseOf m = some .ended → ¬ (e.gateways m).Reads a

instance (e : ThreadedEngine) : DecidablePred e.InTime
  | .engine .proceed => inferInstanceAs (Decidable (e.StopsInTime e.engine.nextCall?))
  | .engine (.deliver m _) => inferInstanceAs (Decidable (e.engine.phaseOf m ≠ some .ended))
  | .engine (.registerStrategy _ _ _ _) | .engine (.lookup _) | .engine (.enqueue _)
  | .engine (.pop _) | .engine (.finish _ _ _) | .engine (.endLoop _)
  | .engine (.stopStrategy _ _ _) | .engine (.haltAll _ _ _) => isTrue trivial
  | .gateway m a =>
    inferInstanceAs
      (Decidable (e.engine.phaseOf m = some .ended → ¬ (e.gateways m).Reads a))

/-- Nothing comes in for an order manager whose dispatch thread was asked to stop, and no dispatcher
wakes up spuriously while its gateway is stopped. -/
def Calm (e : ThreadedEngine) : ThreadedAction → Prop
  | .engine a => e.engine.QuietAfterStop a
  | .gateway m a =>
    ¬ (e.gateways m).Wakes a ∧ (e.engine.phaseOf m = some .stopping → ¬ (e.gateways m).Reads a)

/-! ## What a step can do -/

/-- The steps, each with what it needs and what it leaves. -/
inductive Steps (e : ThreadedEngine) : ThreadedAction → ThreadedEngine → Prop
  | called : (∀ m, e.engine.nextCall? = some (.stop m) → (e.gateways m).Returned) →
    (∀ m, e.engine.nextCall? = some (.join m) → (e.gateways m).Ended) →
    Steps e (.engine .proceed) { e with engine := e.engine.proceed }
  | stopped {m : ManagerId} : e.engine.nextCall? = some (.stop m) → ¬ (e.gateways m).Returned →
    Steps e (.engine .proceed) (e.setGateway m (e.gateways m).callStop)
  | waits {m : ManagerId} : e.engine.nextCall? = some (.join m) → ¬ (e.gateways m).Ended →
    Steps e (.engine .proceed) e
  | other {a : Action} : a ≠ .proceed → Steps e (.engine a) { e with engine := e.engine.step a }
  /-- A report that comes from no gateway. -/
  | ignored {m : ManagerId} {event : OMEvent} : Steps e (.engine (.deliver m event)) e
  | passed {m : ManagerId} {a : GatewayAction} {report : V1.ExecutionReport} :
    m < e.engine.objects.length → (e.gateways m).passes a = some report →
    Steps e (.gateway m a)
      { e.setGateway m ((e.gateways m).step a) with
        engine := e.engine.step (.deliver m (.executionReport report)) }
  | moved {m : ManagerId} {a : GatewayAction} : m < e.engine.objects.length →
    Steps e (.gateway m a) (e.setGateway m ((e.gateways m).step a))
  /-- There is no such order manager yet. -/
  | absent {m : ManagerId} {a : GatewayAction} : ¬ m < e.engine.objects.length →
    Steps e (.gateway m a) e

/-- **Inversion.**  A step does one of these things. -/
theorem steps_step (e : ThreadedEngine) (a : ThreadedAction) : e.Steps a (e.step a) := by
  cases a with
  | engine a =>
    cases a with
    | proceed =>
      unfold step proceed
      cases hnext : e.engine.nextCall? with
      | none => exact .called (by simp [hnext]) (by simp [hnext])
      | some call =>
        cases call with
        | cancelAll m | await m => exact .called (by simp [hnext]) (by simp [hnext])
        | stop m =>
          dsimp only
          split_ifs with hreturned
          · refine .called (fun m' hm' => ?_) (by simp [hnext])
            cases hnext.symm.trans hm'
            exact hreturned
          · exact .stopped hnext hreturned
        | join m =>
          dsimp only
          split_ifs with hended
          · refine .called (by simp [hnext]) fun m' hm' => ?_
            cases hnext.symm.trans hm'
            exact hended
          · exact .waits hnext hended
    | deliver m event =>
      cases event with
      | executionReport report => exact .ignored
      | _ => exact .other nofun
    | _ => exact .other nofun
  | gateway m a =>
    unfold step gatewayStep
    dsimp only
    split_ifs with hm
    · cases hpasses : (e.gateways m).passes a with
      | none => exact .moved hm
      | some report => exact .passed hm hpasses
    · exact .absent hm

/-- **Refinement.**  A step is a step of the engine without its gateways, or leaves that engine
alone.  A call of the kill switch waits for the gateway. -/
lemma engine_step (e : ThreadedEngine) (a : ThreadedAction) :
    (∃ b, (e.step a).engine = e.engine.step b ∧
      (b = .proceed →
        (∀ m, e.engine.nextCall? = some (.stop m) → (e.gateways m).Returned) ∧
          ∀ m, e.engine.nextCall? = some (.join m) → (e.gateways m).Ended)) ∨
      (e.step a).engine = e.engine := by
  have hstep := e.steps_step a
  generalize e.step a = e' at hstep ⊢
  cases hstep with
  | called hreturned hended => exact Or.inl ⟨.proceed, rfl, fun _ => ⟨hreturned, hended⟩⟩
  | other ha => exact Or.inl ⟨_, rfl, fun hproceed => absurd hproceed ha⟩
  | @passed m _ report _ _ => exact Or.inl ⟨.deliver m (.executionReport report), rfl, nofun⟩
  | stopped _ _ | waits _ _ | ignored | moved _ | absent _ => exact Or.inr rfl

/-- A gateway is left alone, one of its threads takes a step, or its `stop()` goes on. -/
lemma gateways_step (e : ThreadedEngine) (a : ThreadedAction) (m : ManagerId) :
    (e.step a).gateways m = e.gateways m ∨
      (∃ b, (e.step a).gateways m = (e.gateways m).step b) ∨
      ¬ (e.gateways m).Returned ∧ (e.InTime a → (e.gateways m).StopsInTime) ∧
        (e.step a).gateways m = (e.gateways m).callStop := by
  have hset : ∀ (m' : ManagerId) (g : Gateway),
      (e.setGateway m' g).gateways m = if m = m' then g else e.gateways m :=
    fun m' g => Function.update_apply e.gateways m' g m
  have hstep := e.steps_step a
  generalize e.step a = e' at hstep ⊢
  cases hstep with
  | called _ _ | waits _ _ | other _ | ignored | absent _ => exact Or.inl rfl
  | @stopped m' hnext hreturned =>
    rw [hset]
    split_ifs with hm
    · subst hm
      refine Or.inr (Or.inr ⟨hreturned, fun hintime => ?_, rfl⟩)
      change e.StopsInTime e.engine.nextCall? at hintime
      rw [hnext] at hintime
      exact hintime hreturned
    · exact Or.inl rfl
  | @passed m' b _ _ _ | @moved m' b _ =>
    change (e.setGateway m' _).gateways m = _ ∨
      (∃ b, (e.setGateway m' _).gateways m = _) ∨ _ ∧ _ ∧ (e.setGateway m' _).gateways m = _
    rw [hset]
    split_ifs with hm
    · subst hm
      exact Or.inr (Or.inl ⟨b, rfl⟩)
    · exact Or.inl rfl

end ThreadedEngine

/-! ## The phases of the order managers -/

namespace TradingEngine

variable {e : TradingEngine}

/-- What a change of an order manager does to the phases. -/
lemma phaseOf_modify_cases (e : TradingEngine) (m m' : ManagerId) (f : Managed → Managed) :
    (e.modify m' f).phaseOf m = e.phaseOf m ∨
      ∃ o, m' = m ∧ e.phaseOf m = some o.phase ∧ (e.modify m' f).phaseOf m = some (f o).phase := by
  by_cases hm : m' = m
  · subst hm
    rw [phaseOf_modify]
    unfold phaseOf
    cases ho : e.objects[m']? with
    | none => exact Or.inl rfl
    | some o => exact Or.inr ⟨o, rfl, rfl, by rw [Option.map_some, if_pos rfl]⟩
  · exact Or.inl (phaseOf_modify_of_ne (Ne.symm hm) f)

/-- What a step does to the phase of an order manager. -/
lemma phaseOf_step (e : TradingEngine) (a : Action) (m : ManagerId) :
    (e.step a).phaseOf m = e.phaseOf m ∨ (e.step a).phaseOf m = some .running ∨
      e.phaseOf m = some .stopping ∧ (e.step a).phaseOf m = some .ended ∨
      a = .proceed ∧ e.nextCall? = some (.stop m) ∧ (e.step a).phaseOf m = some .stopping ∨
      a = .proceed ∧ e.nextCall? = some (.join m) ∧ e.phaseOf m = some .ended := by
  have hkeeps : ∀ (m' : ManagerId) (f : Managed → Managed), (∀ o, (f o).phase = o.phase) →
      (e.modify m' f).phaseOf m = e.phaseOf m := by
    intro m' f hf
    rcases e.phaseOf_modify_cases m m' f with hsame | ⟨o, -, hbefore, hafter⟩
    · exact hsame
    · rw [hafter, hf, hbefore]
  have hnext : ∀ {kill : KillSwitch} {call : KillStep} {rest : List KillStep},
      e.killSwitch = some kill → kill.todo = call :: rest → e.nextCall? = some call := by
    intro kill call rest hkill htodo
    unfold nextCall?
    rw [hkill, Option.bind_some, htodo, List.head?_cons]
  have hstep := e.steps_step a
  generalize e.step a = e' at hstep ⊢
  cases hstep with
  | registered _ _ =>
    unfold phaseOf
    dsimp only
    rw [List.getElem?_append]
    split_ifs with hlt
    · exact Or.inl rfl
    · rw [List.getElem?_singleton]
      split_ifs
      · exact Or.inr (Or.inl rfl)
      · exact Or.inl (congrArg _ (List.getElem?_eq_none (not_lt.mp hlt)).symm)
  | found _ _ | stopBegun _ _ | haltBegun _ _ | awaited _ _ _ | returned _ _ | idle =>
    exact Or.inl rfl
  | enqueued _ | delivered | cancelled _ _ => exact Or.inl (hkeeps _ _ fun o => o.enqueue_phase _)
  | popped => exact Or.inl (hkeeps _ _ fun o => o.pop_phase)
  | finished => exact Or.inl (hkeeps _ _ fun o => o.finish_phase _ _)
  | @loopEnded m' =>
    rcases e.phaseOf_modify_cases m m' Managed.endLoop with hsame | ⟨o, -, hbefore, hafter⟩
    · exact Or.inl hsame
    · rw [hafter, hbefore]
      rcases o.endLoop_cases with hsame | ⟨hstopping, -, hended⟩
      · exact Or.inl (by rw [hsame])
      · exact Or.inr (Or.inr (Or.inl ⟨by rw [hstopping], by rw [hended]⟩))
  | @stopped kill m' rest hkill htodo =>
    rcases e.phaseOf_modify_cases m m' Managed.stop with hsame | ⟨o, rfl, hbefore, hafter⟩
    · exact Or.inl hsame
    · rcases o.stop_cases with hsame | ⟨-, hstopping⟩
      · exact Or.inl (hafter.trans (by rw [hsame, hbefore]))
      · refine Or.inr (Or.inr (Or.inr (Or.inl ⟨rfl, hnext hkill htodo, hafter.trans ?_⟩)))
        rw [hstopping]
  | @joined kill m' rest hkill htodo hended =>
    rcases e.phaseOf_modify_cases m m' Managed.destroy with hsame | ⟨o, rfl, -, -⟩
    · exact Or.inl hsame
    · exact Or.inr (Or.inr (Or.inr (Or.inr ⟨rfl, hnext hkill htodo, hended⟩)))

end TradingEngine

/-! ## The invariant -/

namespace ThreadedEngine

/-- The engine and its gateways are as a kill switch needs them. -/
structure Ready (e : ThreadedEngine) : Prop where
  engine : e.engine.Ready
  sound : ∀ m, (e.gateways m).Sound
  /-- A dispatch thread is asked to stop when `stop()` of the gateway has returned. -/
  returned : ∀ m phase, e.engine.phaseOf m = some phase → phase ≠ .running →
    (e.gateways m).Returned
  /-- An order manager is destroyed with its gateway. -/
  ended : ∀ m, e.engine.phaseOf m = some .destroyed → (e.gateways m).Ended

variable {e : ThreadedEngine} {a : ThreadedAction} {m : ManagerId}

lemma ready_start (kinds : ManagerId → GatewayKind) : (start kinds).Ready where
  engine := TradingEngine.ready_start
  sound := fun m => Gateway.sound_start (kinds m)
  returned := nofun
  ended := nofun

/-- A `stop()` that has returned stays so. -/
lemma returned_step (h : (e.gateways m).Returned) (a : ThreadedAction) :
    ((e.step a).gateways m).Returned := by
  rcases e.gateways_step a m with hsame | ⟨b, hstep⟩ | ⟨hreturned, -⟩
  · rwa [hsame]
  · rw [hstep]
    exact (Gateway.returned_step _ b).mpr h
  · exact absurd h hreturned

/-- Threads that have ended do not begin again. -/
lemma ended_step (h : (e.gateways m).Ended) (a : ThreadedAction) :
    ((e.step a).gateways m).Ended := by
  rcases e.gateways_step a m with hsame | ⟨b, hstep⟩ | ⟨hreturned, -, hcall⟩
  · rwa [hsame]
  · rw [hstep]
    exact h.step b
  · rw [hcall]
    exact h.callStop hreturned

/-- **Step lemma.**  Every step that is in time keeps the kill switch and its gateways possible. -/
theorem Ready.step (h : e.Ready) (hintime : e.InTime a) : (e.step a).Ready where
  engine := by
    rcases e.engine_step a with ⟨b, hstep, -⟩ | hsame
    · rw [hstep]
      exact h.engine.step b
    · rw [hsame]
      exact h.engine
  sound := by
    intro m
    rcases e.gateways_step a m with hsame | ⟨b, hstep⟩ | ⟨-, hstops, hcall⟩
    · rw [hsame]
      exact h.sound m
    · rw [hstep]
      exact (h.sound m).step b
    · rw [hcall]
      exact (h.sound m).callStop (hstops hintime)
  returned := by
    intro m phase hphase hrunning
    apply returned_step
    rcases e.engine_step a with ⟨b, hstep, hcalled⟩ | hsame
    · rw [hstep] at hphase
      rcases e.engine.phaseOf_step b m with
        hkept | hruns | ⟨hstopping, -⟩ | ⟨hproceed, hnext, -⟩ | ⟨-, -, hended⟩
      · exact h.returned m phase (hkept.symm.trans hphase) hrunning
      · exact absurd (Option.some.inj (hphase.symm.trans hruns)) hrunning
      · exact h.returned m .stopping hstopping nofun
      · exact (hcalled hproceed).1 m hnext
      · exact h.returned m .ended hended nofun
    · rw [hsame] at hphase
      exact h.returned m phase hphase hrunning
  ended := by
    intro m hphase
    apply ended_step
    rcases e.engine_step a with ⟨b, hstep, hcalled⟩ | hsame
    · rw [hstep] at hphase
      rcases e.engine.phaseOf_step b m with
        hkept | hruns | ⟨-, hended⟩ | ⟨-, -, hstopping⟩ | ⟨hproceed, hnext, -⟩
      · exact h.ended m (hkept.symm.trans hphase)
      · exact absurd (hruns.symm.trans hphase) nofun
      · exact absurd (hended.symm.trans hphase) nofun
      · exact absurd (hstopping.symm.trans hphase) nofun
      · exact (hcalled hproceed).2 m hnext
    · rw [hsame] at hphase
      exact h.ended m hphase

end ThreadedEngine

/-! ## What is left to do -/

namespace KillStep

/-- What the call waits for in the gateway of its order manager. -/
def gatewayWork : KillStep → Gateway → ℕ ×ₗ ℕ
  | stop _, g => g.stopWork
  | join _, g => g.joinWork
  | cancelAll _, _ | await _, _ => toLex (0, 0)

/-- The thread of the gateway that it waits for. -/
def gatewayThread : KillStep → Gateway → Option GatewayThread
  | stop _, g => g.stopThread
  | join _, g => g.joinThread
  | cancelAll _, _ | await _, _ => none

variable {call : KillStep} {g : Gateway} {a : GatewayAction}

/-- What a thread of the gateway does for the call. -/
lemma gatewayWork_step (hsound : g.Sound) (hwakes : ¬ g.Wakes a)
    (hjoin : ∀ m, call = .join m → g.Returned ∧ ¬ g.Reads a) :
    call.gatewayWork (g.step a) < call.gatewayWork g ∨
      call.gatewayWork (g.step a) = call.gatewayWork g ∧
        call.gatewayThread (g.step a) = call.gatewayThread g ∧
        ∀ t, call.gatewayThread g = some t → ¬ t.Does a := by
  cases call with
  | cancelAll m | await m => exact Or.inr ⟨rfl, rfl, nofun⟩
  | stop m => exact hsound.stopWork_step hwakes
  | join m =>
    obtain ⟨hreturned, hreads⟩ := hjoin m rfl
    exact hsound.joinWork_step hreturned hreads

end KillStep

/-- A step that has to be taken for the kill switch to come nearer to its end. -/
inductive JoinDuty where
  | engine (duty : Duty)
  | gateway (m : ManagerId) (thread : GatewayThread)

/-- The step is this one. -/
def JoinDuty.Does : JoinDuty → ThreadedAction → Prop
  | .engine duty, .engine a => duty.Does a
  | .gateway m thread, .gateway m' a => m' = m ∧ thread.Does a
  | .engine _, .gateway _ _ | .gateway _ _, .engine _ => False

namespace ThreadedEngine

/-- What the next call waits for in a gateway. -/
def gatewayWork (e : ThreadedEngine) : List KillStep → ℕ ×ₗ ℕ
  | [] => toLex (0, 0)
  | call :: _ => call.gatewayWork (e.gateways call.manager)

/-- The thread of a gateway that the next call waits for. -/
def gatewayThread (e : ThreadedEngine) : List KillStep → Option (ManagerId × GatewayThread)
  | [] => none
  | call :: _ => (call.gatewayThread (e.gateways call.manager)).map (call.manager, ·)

/-- What is left to do: in the engine, and in the gateway that the next call waits for. -/
def workLeft (e : ThreadedEngine) (todo : List KillStep) : (ℕ ×ₗ ℕ ×ₗ ℕ) ×ₗ (ℕ ×ₗ ℕ) :=
  toLex (e.engine.workLeft todo, e.gatewayWork todo)

/-- What has to be done next. -/
def nextDuty (e : ThreadedEngine) (todo : List KillStep) : JoinDuty :=
  match e.engine.nextDuty todo, e.gatewayThread todo with
  | .proceed, some (m, thread) => .gateway m thread
  | duty, _ => .engine duty

variable {e e' : ThreadedEngine} {todo : List KillStep} {kill : KillSwitch}

lemma nextDuty_congr (hengine : e'.engine.nextDuty todo = e.engine.nextDuty todo)
    (hgateway : e'.gatewayThread todo = e.gatewayThread todo) :
    e'.nextDuty todo = e.nextDuty todo := by
  unfold nextDuty
  rw [hengine, hgateway]

/-- A step of the engine that has to be taken next. -/
lemma does_engine {a : Action} (h : (e.nextDuty todo).Does (.engine a)) :
    (e.engine.nextDuty todo).Does a ∧ (a = .proceed → e.gatewayThread todo = none) := by
  unfold nextDuty at h
  cases hduty : e.engine.nextDuty todo with
  | proceed =>
    cases hthread : e.gatewayThread todo with
    | none =>
      rw [hduty, hthread] at h
      exact ⟨h, fun _ => rfl⟩
    | some thread =>
      rw [hduty, hthread] at h
      exact h.elim
  | thread m turn =>
    rw [hduty] at h
    refine ⟨h, ?_⟩
    rintro rfl
    cases turn <;> simp [JoinDuty.Does, Duty.Does, Turn.Of] at h

/-- A step of a gateway that has to be taken next. -/
lemma does_gateway {m : ManagerId} {a : GatewayAction}
    (h : (e.nextDuty todo).Does (.gateway m a)) :
    ∃ thread, e.gatewayThread todo = some (m, thread) ∧ thread.Does a := by
  unfold nextDuty at h
  cases hduty : e.engine.nextDuty todo with
  | proceed =>
    cases hthread : e.gatewayThread todo with
    | none =>
      rw [hduty, hthread] at h
      exact h.elim
    | some thread =>
      rw [hduty, hthread] at h
      obtain ⟨rfl, hdoes⟩ := h
      exact ⟨thread.2, rfl, hdoes⟩
  | thread m turn =>
    rw [hduty] at h
    exact h.elim

/-- The call that comes next, with what is left of the others. -/
lemma todo_of_nextCall? {call : KillStep} (hkill : e.engine.killSwitch = some kill)
    (hnext : e.engine.nextCall? = some call) : ∃ rest, kill.todo = call :: rest := by
  unfold TradingEngine.nextCall? at hnext
  rw [hkill, Option.bind_some] at hnext
  cases htodo : kill.todo with
  | nil =>
    rw [htodo] at hnext
    cases hnext
  | cons first rest =>
    rw [htodo, List.head?_cons] at hnext
    obtain rfl := Option.some.inj hnext
    exact ⟨rest, rfl⟩

/-- Who is joined next was asked to stop. -/
lemma Ready.joins {m : ManagerId} {rest : List KillStep} (h : e.Ready)
    (hkill : e.engine.killSwitch = some kill) (htodo : kill.todo = .join m :: rest) :
    (e.gateways m).Returned ∧
      (e.engine.phaseOf m = some .stopping ∨ e.engine.phaseOf m = some .ended) := by
  obtain ⟨o, ho, hfits⟩ := (htodo ▸ h.engine.underway kill hkill).fits
  have hphase : e.engine.phaseOf m = some .stopping ∨ e.engine.phaseOf m = some .ended := by
    unfold TradingEngine.phaseOf
    change e.engine.objects[m]? = some o at ho
    rw [ho]
    exact hfits.imp (congrArg some) (congrArg some)
  refine ⟨?_, hphase⟩
  rcases hphase with hstopping | hended
  · exact h.returned m .stopping hstopping nofun
  · exact h.returned m .ended hended nofun

/-- The thread of the kill switch takes a step. -/
lemma held_proceed (h : e.Ready) (hkill : e.engine.killSwitch = some kill)
    (hintime : e.InTime (.engine .proceed)) :
    (e.step (.engine .proceed)).Returned kill.affected ∨
      (∃ kill', (e.step (.engine .proceed)).engine.killSwitch = some kill' ∧
        kill'.affected = kill.affected ∧
        (e.step (.engine .proceed)).workLeft kill'.todo < e.workLeft kill.todo) ∨
      e.step (.engine .proceed) = e ∧ ¬ (e.nextDuty kill.todo).Does (.engine .proceed) := by
  have hready' := h.step hintime
  have hstep := e.steps_step (.engine .proceed)
  generalize e.step (.engine .proceed) = e' at hstep hready' ⊢
  cases hstep with
  | other ha => exact absurd rfl ha
  | called _ _ =>
    rcases TradingEngine.held_proceed h.engine hkill with
      hreturned | ⟨kill', hkill', haffected, hless⟩ | ⟨hsame, hnot⟩
    · exact Or.inl ⟨hreturned, fun m hm => hready'.ended m (hreturned.2 m hm).2⟩
    · refine Or.inr (Or.inl ⟨kill', hkill', haffected, ?_⟩)
      exact Prod.Lex.toLex_lt_toLex.mpr (Or.inl hless)
    · refine Or.inr (Or.inr ⟨?_, fun hdoes => hnot (does_engine hdoes).1⟩)
      rw [hsame]
  | @stopped m hnext hreturned =>
    obtain ⟨rest, htodo⟩ := todo_of_nextCall? hkill hnext
    right
    rcases Gateway.stopWork_callStop hreturned with hless | ⟨hsame, hwaits⟩
    · refine Or.inl ⟨kill, hkill, rfl, Prod.Lex.toLex_lt_toLex.mpr (Or.inr ⟨rfl, ?_⟩)⟩
      rw [htodo]
      simp only [gatewayWork, KillStep.gatewayWork, KillStep.manager, setGateway,
        Function.update_self]
      exact hless
    · refine Or.inr ⟨?_, fun hdoes => hwaits ?_⟩
      · rw [hsame, setGateway, Function.update_eq_self]
      · have hnone := (does_engine hdoes).2 rfl
        rw [htodo] at hnone
        exact Option.map_eq_none_iff.mp hnone
  | @waits m hnext hended =>
    obtain ⟨rest, htodo⟩ := todo_of_nextCall? hkill hnext
    refine Or.inr (Or.inr ⟨rfl, fun hdoes => ?_⟩)
    have hnone := (does_engine hdoes).2 rfl
    rw [htodo] at hnone
    exact Gateway.joinThread_ne_none (h.joins hkill htodo).1 hended
      (Option.map_eq_none_iff.mp hnone)

/-- A thread of a gateway takes a step, whatever it does to the engine. -/
lemma gateway_other (h : e.Ready) (hkill : e.engine.killSwitch = some kill) {m : ManagerId}
    {a : GatewayAction} (hintime : e.InTime (.gateway m a)) (hcalm : e.Calm (.gateway m a))
    (hgateways : e'.gateways = (e.setGateway m ((e.gateways m).step a)).gateways) :
    e'.gatewayWork kill.todo < e.gatewayWork kill.todo ∨
      e'.gatewayWork kill.todo = e.gatewayWork kill.todo ∧
        e'.gatewayThread kill.todo = e.gatewayThread kill.todo ∧
        ¬ (e.nextDuty kill.todo).Does (.gateway m a) := by
  have hgateway : ∀ m', e'.gateways m' =
      if m' = m then (e.gateways m).step a else e.gateways m' := by
    intro m'
    rw [hgateways]
    exact Function.update_apply e.gateways m _ m'
  cases htodo : kill.todo with
  | nil =>
    refine Or.inr ⟨rfl, rfl, fun hdoes => ?_⟩
    obtain ⟨thread, hthread, -⟩ := does_gateway hdoes
    cases hthread
  | cons call rest =>
    simp only [gatewayWork, gatewayThread]
    by_cases hm : call.manager = m
    · subst hm
      rw [hgateway, if_pos rfl]
      refine (KillStep.gatewayWork_step (h.sound _) hcalm.1 ?_).imp_right ?_
      · rintro m rfl
        obtain ⟨hreturned, hphase⟩ := h.joins hkill htodo
        exact ⟨hreturned, hphase.elim hcalm.2 hintime⟩
      · rintro ⟨hwork, hthread, hnot⟩
        refine ⟨hwork, by rw [hthread], fun hdoes => ?_⟩
        obtain ⟨thread, hnext, hdoes⟩ := does_gateway hdoes
        obtain ⟨thread', hcall, hsame⟩ := Option.map_eq_some_iff.mp hnext
        obtain rfl : thread' = thread := congrArg Prod.snd hsame
        exact hnot thread' hcall hdoes
    · rw [hgateway, if_neg hm]
      refine Or.inr ⟨rfl, rfl, fun hdoes => ?_⟩
      obtain ⟨thread, hnext, -⟩ := does_gateway hdoes
      obtain ⟨thread', -, hsame⟩ := Option.map_eq_some_iff.mp hnext
      exact hm (congrArg Prod.fst hsame)

/-- A report that a gateway passes on is not for an order manager whose dispatch thread was asked to
stop. -/
lemma Ready.quietAfterStop (h : e.Ready) {m : ManagerId} {a : GatewayAction}
    (hcalm : e.Calm (.gateway m a)) {report : V1.ExecutionReport}
    (hpasses : (e.gateways m).passes a = some report) :
    e.engine.QuietAfterStop (.deliver m (.executionReport report)) := by
  rintro m' event hdeliver hstopping
  obtain ⟨rfl, -⟩ := Action.deliver.inj hdeliver
  have hquiet := (h.sound m).quiet (h.returned m .stopping hstopping nofun) (hcalm.2 hstopping)
  rw [hpasses] at hquiet
  cases hquiet

/-- Another thread takes a step. -/
lemma held_other (h : e.Ready) (hkill : e.engine.killSwitch = some kill) {a : ThreadedAction}
    (ha : a ≠ .engine .proceed) (hintime : e.InTime a) (hcalm : e.Calm a) :
    (e.step a).workLeft kill.todo < e.workLeft kill.todo ∨
      (e.step a).workLeft kill.todo = e.workLeft kill.todo ∧
        (e.step a).nextDuty kill.todo = e.nextDuty kill.todo ∧
        ¬ (e.nextDuty kill.todo).Does a := by
  -- what is left in the engine counts before what is left in the gateway
  have hlex : ∀ {e' : ThreadedEngine} {p : Prop},
      e'.engine.workLeft kill.todo < e.engine.workLeft kill.todo ∨
        e'.engine.workLeft kill.todo = e.engine.workLeft kill.todo ∧
          e'.engine.nextDuty kill.todo = e.engine.nextDuty kill.todo →
      (e'.gatewayWork kill.todo < e.gatewayWork kill.todo ∨
        e'.gatewayWork kill.todo = e.gatewayWork kill.todo ∧
          e'.gatewayThread kill.todo = e.gatewayThread kill.todo ∧ p) →
      e'.workLeft kill.todo < e.workLeft kill.todo ∨
        e'.workLeft kill.todo = e.workLeft kill.todo ∧
          e'.nextDuty kill.todo = e.nextDuty kill.todo ∧ p := by
    intro e' p hengine hgateway
    unfold workLeft
    rcases hengine with hless | ⟨hwork, hduty⟩
    · exact Or.inl (Prod.Lex.toLex_lt_toLex.mpr (Or.inl hless))
    · rcases hgateway with hless | ⟨hgatewayWork, hthread, hp⟩
      · exact Or.inl (Prod.Lex.toLex_lt_toLex.mpr (Or.inr ⟨hwork, hless⟩))
      · exact Or.inr ⟨by rw [hwork, hgatewayWork], nextDuty_congr hduty hthread, hp⟩
  have hstep := e.steps_step a
  generalize e.step a = e' at hstep ⊢
  cases hstep with
  | called _ _ | stopped _ _ | waits _ _ => exact absurd rfl ha
  | @other b hb =>
    rcases TradingEngine.held_other h.engine hkill hb hcalm with hless | ⟨hwork, hduty, hnot⟩
    · exact Or.inl (Prod.Lex.toLex_lt_toLex.mpr (Or.inl hless))
    · exact hlex (Or.inr ⟨hwork, hduty⟩)
        (Or.inr ⟨rfl, rfl, fun hdoes => hnot (does_engine hdoes).1⟩)
  | @ignored m event =>
    refine Or.inr ⟨rfl, rfl, fun hdoes => ?_⟩
    have hduty := (does_engine hdoes).1
    cases hthis : e.engine.nextDuty kill.todo with
    | proceed =>
      rw [hthis] at hduty
      cases hduty
    | thread m turn =>
      rw [hthis] at hduty
      cases turn <;> simp [Duty.Does, Turn.Of] at hduty
  | @passed m _ report _ hpasses =>
    refine hlex ?_ (gateway_other h hkill hintime hcalm rfl)
    have hdeliver : Action.deliver m (.executionReport report) ≠ .proceed :=
      fun hproceed => Action.noConfusion hproceed
    refine (TradingEngine.held_other h.engine hkill hdeliver
      (h.quietAfterStop hcalm hpasses)).imp_right fun hsame => ?_
    exact ⟨hsame.1, hsame.2.1⟩
  | moved _ => exact hlex (Or.inr ⟨rfl, rfl⟩) (gateway_other h hkill hintime hcalm rfl)
  | @absent m b hm =>
    refine Or.inr ⟨rfl, rfl, fun hdoes => ?_⟩
    obtain ⟨thread, hnext, -⟩ := does_gateway hdoes
    cases htodo : kill.todo with
    | nil =>
      rw [htodo] at hnext
      cases hnext
    | cons call rest =>
      -- the order manager that is called is there
      obtain ⟨o, ho, -⟩ := (htodo ▸ h.engine.underway kill hkill).fits
      rw [htodo] at hnext
      obtain ⟨thread', -, hsame⟩ := Option.map_eq_some_iff.mp hnext
      obtain rfl : call.manager = m := congrArg Prod.fst hsame
      exact hm (List.getElem?_eq_some_iff.mp ho).1

/-- The kill switch keeps the lock while another thread takes a step. -/
lemma killSwitch_other (hkill : e.engine.killSwitch = some kill) {a : ThreadedAction}
    (ha : a ≠ .engine .proceed) : (e.step a).engine.killSwitch = some kill := by
  have hstep := e.steps_step a
  generalize e.step a = e' at hstep ⊢
  cases hstep with
  | called _ _ | stopped _ _ | waits _ _ => exact absurd rfl ha
  | other hb => exact (TradingEngine.other_step hkill hb).1
  | passed _ _ => exact (TradingEngine.other_step hkill (a := .deliver _ _) nofun).1
  | ignored | moved _ | absent _ => exact hkill

/-- A gateway keeps its threads. -/
lemma threads_step (e : ThreadedEngine) (a : ThreadedAction) (m : ManagerId) :
    ((e.step a).gateways m).threads = (e.gateways m).threads := by
  rcases e.gateways_step a m with hsame | ⟨b, hstep⟩ | ⟨-, -, hcall⟩
  · rw [hsame]
  · rw [hstep, Gateway.threads_step]
  · rw [hcall, Gateway.threads_callStop]

/-! ## The run -/

/-- The thread of a kill switch, the dispatch threads of the order managers that it affects, and the
threads of their gateways take their steps again and again. -/
structure Fair (kinds : ManagerId → GatewayKind) (affected : List ManagerId)
    (schedule : ℕ → ThreadedAction) : Prop where
  proceed : Fairness.Recurs (JoinDuty.engine .proceed).Does schedule
  dispatch : ∀ m ∈ affected, ∀ turn,
    Fairness.Recurs (JoinDuty.engine (.thread m turn)).Does schedule
  gateway : ∀ m ∈ affected, ∀ thread ∈ (Gateway.start (kinds m)).threads,
    Fairness.Recurs (JoinDuty.gateway m thread).Does schedule

/-- The kill switch holds the lock. -/
structure Holds (kinds : ManagerId → GatewayKind) (kill : KillSwitch) (e : ThreadedEngine) :
    Prop where
  ready : e.Ready
  threads : ∀ m, (e.gateways m).threads = (Gateway.start (kinds m)).threads
  killSwitch : e.engine.killSwitch = some kill

variable {kinds : ManagerId → GatewayKind} {affected : List ManagerId}
  {left : (ℕ ×ₗ ℕ ×ₗ ℕ) ×ₗ (ℕ ×ₗ ℕ)} {duty : JoinDuty} {a : ThreadedAction}

/-- **Step lemma.**  The kill switch returns or keeps the lock; and a step that brings nothing new
leaves less to do, or leaves everything and is not the next one. -/
theorem Holds.step (h : Holds kinds kill e) (hintime : e.InTime a) :
    (e.step a).Returned kill.affected ∨
      ∃ kill', Holds kinds kill' (e.step a) ∧ kill'.affected = kill.affected ∧
        (e.Calm a → (e.step a).workLeft kill'.todo < e.workLeft kill.todo ∨
          (e.step a).workLeft kill'.todo = e.workLeft kill.todo ∧
            (e.step a).nextDuty kill'.todo = e.nextDuty kill.todo ∧
            ¬ (e.nextDuty kill.todo).Does a) := by
  have hholds : ∀ kill', (e.step a).engine.killSwitch = some kill' →
      Holds kinds kill' (e.step a) := fun kill' hkill' =>
    ⟨h.ready.step hintime, fun m => (e.threads_step a m).trans (h.threads m), hkill'⟩
  by_cases ha : a = .engine .proceed
  · subst ha
    rcases held_proceed h.ready h.killSwitch hintime with
      hdone | ⟨kill', hkill', haffected, hless⟩ | ⟨hsame, hnot⟩
    · exact Or.inl hdone
    · exact Or.inr ⟨kill', hholds kill' hkill', haffected, fun _ => Or.inl hless⟩
    · rw [hsame]
      exact Or.inr ⟨kill, h, rfl, fun _ => Or.inr ⟨rfl, rfl, hnot⟩⟩
  · exact Or.inr ⟨kill, hholds kill (killSwitch_other h.killSwitch ha), rfl,
      held_other h.ready h.killSwitch ha hintime⟩

/-- Two strategies are registered, a report is generated for the first, the second reads from its
adapter, and all are halted. -/
def haltBegun : List ThreadedAction :=
  [.engine (.registerStrategy "S" "ACC" .empty ⟨{}⟩),
    .engine (.registerStrategy "T" "ACC" .empty ⟨{}⟩),
    .gateway 0 (.simulate [{ brokerOrderId := "B1" }]), .gateway 1 (.stream none),
    .gateway 1 (.stream none), .gateway 1 (.stream none),
    .engine (.haltAll [0, 1] "test" "operator")]

end ThreadedEngine

end Quarcc
