import QuarccEngine.Library.Trajectory
import QuarccEngine.TradingEngine.Lifetimes

/-!
# After `halt_all`

`halt_all` destroys every order manager before it returns, and then tells the main thread to shut
the server down.  Until that thread acts the server goes on serving requests.  Those that look an
order manager up find none, but `RegisterStrategy` makes a new one, which sends orders like any
other.
-/

namespace Quarcc

/-- The call sends an order to the gateway. -/
def GatewayCall.sendsOrder : GatewayCall → Bool
  | submitOrder _ | replaceOrder _ _ => true
  | cancelOrder _ => false

/-- The orders that are sent to the gateway in the rest of the handler. -/
def Managed.ordersSent (o : Managed) (env : Env) (gateway : GatewayAnswers) : List GatewayCall :=
  match o.handling with
  | some event =>
    ((exchanges o.account.1 ⟨event, env, gateway⟩).map Program.Exchange.call).filter
      GatewayCall.sendsOrder
  | none => []

/-- The engine, and what has happened since a `halt_all` has returned. -/
structure HaltedEngine where
  engine : TradingEngine := {}
  /-- A `halt_all` has returned. -/
  haltReturned : Bool := false
  /-- The calls of `submit_order` and `replace_order` since then. -/
  sent : List GatewayCall := []

namespace HaltedEngine

/-- The step is the return of a `halt_all`. -/
def ReturnsHalt (e : TradingEngine) : Action → Bool
  | .proceed => e.killSwitch.any fun kill => kill.target.isNone && kill.todo.isEmpty
  | _ => false

/-- The orders that are sent to a gateway in the step. -/
def ordersSent (e : TradingEngine) : Action → List GatewayCall
  | .finish m env gateway => e.objects[m]?.elim [] fun o => o.ordersSent env gateway
  | _ => []

/-- A step of one of the threads. -/
def step (s : HaltedEngine) (a : Action) : HaltedEngine where
  engine := s.engine.step a
  haltReturned := s.haltReturned || ReturnsHalt s.engine a
  sent := if s.haltReturned then s.sent ++ ordersSent s.engine a else s.sent

/-- A `RegisterStrategy` that is served after `halt_all` has returned creates no order manager. -/
def RegistersNone (s : HaltedEngine) : Action → Prop
  | .registerStrategy strategyId _ _ _ =>
    s.haltReturned = true → s.engine.killSwitch.isNone → s.engine.managers.lookup strategyId ≠ none
  | _ => True

instance (s : HaltedEngine) : DecidablePred s.RegistersNone
  | .registerStrategy strategyId _ _ _ => inferInstanceAs (Decidable (s.haltReturned = true →
      s.engine.killSwitch.isNone → s.engine.managers.lookup strategyId ≠ none))
  | .lookup _ | .enqueue _ | .deliver _ _ | .pop _ | .finish _ _ _ | .endLoop _
  | .stopStrategy _ _ _ | .haltAll _ _ _ | .proceed => isTrue trivial

variable {s : HaltedEngine}

/-- After `halt_all` nothing is registered, and nothing was sent. -/
structure Halted (s : HaltedEngine) : Prop where
  lifetimes : s.engine.Lifetimes
  empty : s.haltReturned = true → s.engine.managers = ∅
  sent : s.sent = []

/-- When nothing is registered, no dispatch thread sends an order. -/
lemma ordersSent_of_empty {e : TradingEngine} (h : e.Lifetimes) (hempty : e.managers = ∅)
    (a : Action) : ordersSent e a = [] := by
  cases a with
  | finish m env gateway =>
    unfold ordersSent
    dsimp only
    cases ho : e.objects[m]? with
    | none => rfl
    | some o =>
      have hdestroyed : o.phase = .destroyed := by
        by_contra hne
        have hphase : e.phaseOf m = some o.phase := by
          unfold TradingEngine.phaseOf
          rw [ho]
          rfl
        obtain ⟨strategyId, hid⟩ := h.registered m o.phase hphase hne
        rw [hempty] at hid
        cases hid
      have hidle := h.idle m o ho (Or.inr hdestroyed)
      rw [Option.elim_some]
      unfold Managed.ordersSent
      rw [hidle]
  | _ => rfl

/-- Nothing is registered after the return of `halt_all`. -/
lemma managers_of_returnsHalt {e : TradingEngine} {a : Action} (h : ReturnsHalt e a = true) :
    (e.step a).managers = ∅ := by
  cases a with
  | proceed =>
    unfold ReturnsHalt at h
    cases hkill : e.killSwitch with
    | none =>
      rw [hkill] at h
      cases h
    | some kill =>
      rw [hkill, Option.any_some, Bool.and_eq_true, List.isEmpty_iff,
        Option.isNone_iff_eq_none] at h
      unfold TradingEngine.step TradingEngine.proceed
      simp only [hkill, h.1, h.2]
  | _ => cases h

/-- Nothing is registered again by a step that registers none. -/
lemma managers_step {e : TradingEngine} (hempty : e.managers = ∅) {a : Action}
    (hnone : ∀ strategyId accountId store riskManager,
      a = .registerStrategy strategyId accountId store riskManager → e.killSwitch ≠ none) :
    (e.step a).managers = ∅ := by
  have hstep := e.steps_step a
  generalize e.step a = e' at hstep ⊢
  cases hstep with
  | registered hfree hnew => exact absurd hfree (hnone _ _ _ _ rfl)
  | @returned kill hkill htodo =>
    change kill.remaining e.managers = ∅
    unfold KillSwitch.remaining
    cases kill.target with
    | none => rfl
    | some target =>
      dsimp only
      rw [hempty]
      rfl
  | _ => exact hempty

/-- **Step lemma.**  A step that registers no strategy after `halt_all` sends nothing after it. -/
theorem Halted.step (h : s.Halted) {a : Action} (ha : s.RegistersNone a) : (s.step a).Halted := by
  refine ⟨h.lifetimes.step a, fun hreturned => ?_, ?_⟩
  · by_cases hbefore : s.haltReturned = true
    · refine managers_step (h.empty hbefore)
        fun strategyId accountId store riskManager heq hlock => ?_
      subst heq
      apply ha hbefore (Option.isNone_iff_eq_none.mpr hlock)
      rw [h.empty hbefore]
      rfl
    · have hreturns : ReturnsHalt s.engine a = true := by
        have hor : (s.haltReturned || ReturnsHalt s.engine a) = true := hreturned
        rw [Bool.eq_false_iff.mpr hbefore, Bool.false_or] at hor
        exact hor
      exact managers_of_returnsHalt hreturns
  · change (if s.haltReturned then s.sent ++ ordersSent s.engine a else s.sent) = []
    split_ifs with hbefore
    · rw [h.sent, ordersSent_of_empty h.lifetimes (h.empty hbefore)]
      rfl
    · exact h.sent

end HaltedEngine

end Quarcc
