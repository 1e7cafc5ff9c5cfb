import QuarccEngine.Core.TradingEngine
import QuarccEngine.OrderManager.Limits

/-!
# The orders at an adapter

The strategies of one account share an adapter process.  Each strategy has a `GrpcGateway` of its
own, which passes the calls of its order manager on as RPCs, and the adapter remembers in
`_order_routing` to which strategy the fills of an order belong.  An RPC can fail before the adapter
has seen it, and it can fail when the adapter has handled it already; the gateway cannot tell one
from the other.

A broker id of a mapped order is never routed to another strategy, provided that the venue gives no
broker id twice.  It is routed to its own strategy as long as no answer to a replacement gets lost:
then the adapter knows the new order only, and the engine the old one only.
-/

namespace Quarcc

/-! ## The venue and the RPCs -/

/-- What `_cancel_order` returns, and `_submit_order` and `_replace_order` beside the broker id. -/
structure VenueVerdict where
  accepted : Bool
  reason : String

/-- What `_submit_order` and `_replace_order` return. -/
structure VenueAnswer extends VenueVerdict where
  brokerOrderId : BrokerOrderId

/-- How an RPC ends for the gateway that has made it. -/
inductive RpcOutcome where
  | answered
  /-- The status is not OK, and the adapter has not seen the request. -/
  | requestLost (message : String)
  /-- The status is not OK, but the adapter has handled the request. -/
  | answerLost (message : String)
  deriving DecidableEq

/-- The adapter has handled the request. -/
def RpcOutcome.reaches : RpcOutcome → Bool
  | .answered | .answerLost _ => true
  | .requestLost _ => false

/-- What the calls of one handler meet at the adapter. -/
structure AdapterEnv where
  submitOrder : V1.Order → VenueAnswer × RpcOutcome
  cancelOrder : BrokerOrderId → VenueVerdict × RpcOutcome
  replaceOrder : BrokerOrderId → V1.Order → VenueAnswer × RpcOutcome

/-! ## The gateway -/

/-- The end of `submit_order`, `cancel_order` and `replace_order`: the status comes first, then the
field `accepted`. -/
def GrpcGateway.resultOf {α : Type} (method : String) (verdict : VenueVerdict)
    (outcome : RpcOutcome) (value : α) : Result α :=
  match outcome with
  | .requestLost message | .answerLost message =>
    .error ⟨method ++ " RPC failed: " ++ message, .error⟩
  | .answered => if verdict.accepted then .ok value else .error ⟨verdict.reason, .failedOrder⟩

/-- The three methods of `GrpcGateway` that make a call on the adapter. -/
def AdapterEnv.answers (env : AdapterEnv) : GatewayAnswers where
  submitOrder := fun order =>
    GrpcGateway.resultOf "SubmitOrder" (env.submitOrder order).1.toVenueVerdict
      (env.submitOrder order).2 (env.submitOrder order).1.brokerOrderId
  cancelOrder := fun broker =>
    GrpcGateway.resultOf "CancelOrder" (env.cancelOrder broker).1 (env.cancelOrder broker).2 ()
  replaceOrder := fun broker newOrder =>
    GrpcGateway.resultOf "ReplaceOrder" (env.replaceOrder broker newOrder).1.toVenueVerdict
      (env.replaceOrder broker newOrder).2 (env.replaceOrder broker newOrder).1.brokerOrderId

/-! ## The adapter -/

/-- `_order_routing` of `BaseAdapter`. -/
abbrev OrderRouting := AList fun _ : BrokerOrderId => StrategyId

namespace OrderRouting

/-- `SubmitOrder`. -/
def submitOrder (routing : OrderRouting) (strategyId : StrategyId) (answer : VenueAnswer) :
    OrderRouting :=
  if answer.accepted then routing.insert answer.brokerOrderId strategyId else routing

/-- `ReplaceOrder`. -/
def replaceOrder (routing : OrderRouting) (strategyId : StrategyId) (broker : BrokerOrderId)
    (answer : VenueAnswer) : OrderRouting :=
  if answer.accepted then (routing.erase broker).insert answer.brokerOrderId strategyId
  else routing

/-- What a call of the gateway of a strategy does to the routing. -/
def handle (env : AdapterEnv) (strategyId : StrategyId) (routing : OrderRouting) :
    GatewayCall → OrderRouting
  | .submitOrder order =>
    if (env.submitOrder order).2.reaches then
      routing.submitOrder strategyId (env.submitOrder order).1
    else routing
  | .cancelOrder _ => routing
  | .replaceOrder broker newOrder =>
    if (env.replaceOrder broker newOrder).2.reaches then
      routing.replaceOrder strategyId broker (env.replaceOrder broker newOrder).1
    else routing

end OrderRouting

/-- The broker id that the venue gives out in a call. -/
def AdapterEnv.given? (env : AdapterEnv) : GatewayCall → Option BrokerOrderId
  | .submitOrder order =>
    if (env.submitOrder order).2.reaches && (env.submitOrder order).1.accepted then
      some (env.submitOrder order).1.brokerOrderId
    else none
  | .cancelOrder _ => none
  | .replaceOrder broker newOrder =>
    if (env.replaceOrder broker newOrder).2.reaches &&
        (env.replaceOrder broker newOrder).1.accepted then
      some (env.replaceOrder broker newOrder).1.brokerOrderId
    else none

/-- The call replaces an order at the venue, and its answer gets lost. -/
def AdapterEnv.losesReplacement (env : AdapterEnv) : GatewayCall → Bool
  | .replaceOrder broker newOrder =>
    (env.given? (.replaceOrder broker newOrder)).isSome &&
      (env.replaceOrder broker newOrder).2 != .answered
  | .submitOrder _ | .cancelOrder _ => false

/-! ## What one event does to the mapper -/

/-- No two orders are mapped to one broker id. -/
def OrderIdMapper.Injective (mapper : OrderIdMapper) : Prop :=
  ∀ l l' broker, mapper.getBrokerId l = some broker → mapper.getBrokerId l' = some broker → l = l'

/-- The broker id of a mapped order is that of before, and not of an order that was replaced, or the
order is the only one that is newly mapped and the gateway has just named it. -/
lemma Move.mapped {s : OrderManager} {i : Input} {ok : Prop} {done : List GatewayEffect} {b : Books}
    (hmove : Move s i ok done b) (hinj : s.idMapper.Injective) :
    ∃ new, ∀ l broker, b.idMapper.getBrokerId l = some broker →
      (s.idMapper.getBrokerId l = some broker ∧
        ∀ broker' order, .moved broker broker' order ∉ done) ∨
      l = new ∧ ((∃ order, .opened broker order ∈ done) ∨
        ∃ old order, .moved old broker order ∈ done) := by
  -- an order that is unmapped, and replaced if the gateway replaces anything
  have hremoved : ∀ {l₀ old : String}, s.idMapper.getBrokerId l₀ = some old →
      ∀ l broker, (s.idMapper.removeMapping l₀).getBrokerId l = some broker →
        s.idMapper.getBrokerId l = some broker ∧ broker ≠ old := by
    intro l₀ old hold l broker hmapped
    rw [OrderIdMapper.getBrokerId_removeMapping] at hmapped
    split_ifs at hmapped with hl
    refine ⟨hmapped, ?_⟩
    rintro rfl
    exact hl (hinj l l₀ broker hmapped hold)
  cases hmove with
  | stay _ | skip _ _ | refuse _ _ _ _ _ | lose _ _ _ _ _ _ _ =>
    exact ⟨"", fun l broker hmapped => Or.inl ⟨hmapped, by simp⟩⟩
  | @accept signal named row store carried _ _ _ _ _ _ =>
    refine ⟨row.localId, fun l broker hmapped => ?_⟩
    have hadd := (OrderIdMapper.getBrokerId_addMapping ..).symm.trans hmapped
    split_ifs at hadd with hl
    · obtain rfl := Option.some.inj hadd
      exact Or.inr ⟨hl, Or.inl ⟨_, List.mem_cons_self⟩⟩
    · exact Or.inl ⟨hadd, by simp⟩
  | cancel _ hold _ | unmap _ hold _ =>
    exact ⟨"", fun l broker hmapped => Or.inl ⟨(hremoved hold l broker hmapped).1, by simp⟩⟩
  | forget _ hold _ _ _ | retire _ hold _ _ _ =>
    refine ⟨"", fun l broker hmapped => Or.inl ?_⟩
    obtain ⟨hbefore, hne⟩ := hremoved hold l broker hmapped
    exact ⟨hbefore, by simp [hne]⟩
  | @replace signal old named row store _ hold _ _ _ =>
    refine ⟨row.localId, fun l broker hmapped => ?_⟩
    have hadd := (OrderIdMapper.getBrokerId_addMapping ..).symm.trans hmapped
    split_ifs at hadd with hl
    · obtain rfl := Option.some.inj hadd
      exact Or.inr ⟨hl, Or.inr ⟨_, _, List.mem_cons_self⟩⟩
    · obtain ⟨hbefore, hne⟩ := hremoved hold l broker hadd
      exact Or.inl ⟨hbefore, by simp [hne]⟩
  | killSwitch _ _ _ _ =>
    refine ⟨"", fun l broker hmapped => Or.inl ?_⟩
    rw [Books.getBrokerId_kills] at hmapped
    split_ifs at hmapped
    exact ⟨hmapped, by simp [Input.killEffects]⟩
  | close _ _ _ _ _ =>
    refine ⟨"", fun l broker hmapped => Or.inl ?_⟩
    rw [Books.close_idMapper, OrderIdMapper.getBrokerId_removeMapping] at hmapped
    split_ifs at hmapped
    exact ⟨hmapped, by simp⟩
  | fill _ _ _ _ _ _ =>
    refine ⟨"", fun l broker hmapped => Or.inl ⟨?_, by simp⟩⟩
    rw [Books.fill_idMapper] at hmapped
    split_ifs at hmapped with hfull
    · rw [OrderIdMapper.getBrokerId_removeMapping] at hmapped
      split_ifs at hmapped
      exact hmapped
    · exact hmapped

/-- A replace command that replaces nothing leaves the mapper alone. -/
lemma Move.idMapper_of_replace {s : OrderManager} {i : Input} {ok : Prop} {b : Books}
    (hmove : Move s i ok [] b) {signal : V1.ReplaceSignal}
    (hevent : i.event = .replaceCommand signal) : b.idMapper = s.idMapper := by
  generalize hdone : ([] : List GatewayEffect) = done at hmove
  cases hmove with
  | stay _ | skip _ _ => rfl
  | forget _ _ _ _ _ | retire _ _ _ _ _ | replace _ _ _ _ _ => cases hdone
  | refuse hevent' | lose hevent' | accept hevent' | cancel hevent' | unmap hevent'
  | killSwitch hevent' | close hevent' | fill hevent' =>
    simp [hevent] at hevent'

/-! ## The calls of one event -/

/-- An exchange holds the answer of the environment. -/
lemma Program.answer_of_mem {C : Type*} {A : C → Type*} {σ : Type*} {answer : (c : C) → A c}
    (p : Program C A σ) {x : Program.Exchange C A σ} (hx : x ∈ p.exchanges answer) :
    x.answer = answer x.call := by
  induction p with
  | done s => cases hx
  | call s c next ih =>
    rcases List.mem_cons.mp hx with rfl | hx
    · rfl
    · exact ih _ hx

/-- A submit command makes one call at most. -/
lemma length_exchanges_submit (s : OrderManager) (i : Input) {signal : V1.StrategySignal}
    (hevent : i.event = .submitCommand signal) : (exchanges s i).length ≤ 1 := by
  obtain ⟨createdAt, hts⟩ := timestampToString_ok i.env.now
  unfold exchanges OrderManager.handle
  simp only [hevent, s.handleSubmitCommand_eq i.env signal hts]
  rcases (s.beginSubmit i.env signal).storeOrder i.env (s.rowOfSubmit i.env signal createdAt) with
    ⟨s', e | u⟩
  · simp
  · dsimp only
    cases s'.checkSubmit signal with
    | error e => simp
    | ok u =>
      dsimp only [Program.exchanges_call, GatewayAnswers.answer]
      cases i.gateway.submitOrder (s.orderOfSubmit i.env signal) <;> simp

/-- An event cancels orders only, or makes one call that submits or replaces an order. -/
lemma exchanges_cases (s : OrderManager) (i : Input) :
    (∀ x ∈ exchanges s i, ∃ broker, x.call = .cancelOrder broker) ∨
      (∃ s' order, exchanges s i = [⟨s', .submitOrder order, i.gateway.submitOrder order⟩]) ∨
      ∃ signal broker s' order, i.event = .replaceCommand signal ∧
        s.idMapper.getBrokerId signal.orderId = some broker ∧
        exchanges s i =
          [⟨s', .replaceOrder broker order, i.gateway.replaceOrder broker order⟩] := by
  have hanswer : ∀ x ∈ exchanges s i, x.answer = i.gateway.answer x.call :=
    fun x hx => Program.answer_of_mem _ hx
  cases hevent : i.event with
  | bar _ | tick _ | executionReport _ =>
    left
    simp [exchanges, OrderManager.handle, hevent]
  | cancelCommand signal => exact Or.inl fun x hx => exchanges_cancel s i hevent hx
  | cancelAllCommand reason initiatedBy =>
    exact Or.inl fun x hx => exchanges_cancelAll s i hevent hx
  | submitCommand signal =>
    have hlength := length_exchanges_submit s i hevent
    cases hexchanges : exchanges s i with
    | nil => exact Or.inl fun x hx => absurd hx List.not_mem_nil
    | cons x rest =>
      rw [hexchanges] at hlength hanswer
      obtain rfl : rest = [] := by simpa using hlength
      have hcall := (exchanges_submit s i hevent (hexchanges ▸ List.mem_cons_self)).1
      have hx := hanswer x List.mem_cons_self
      obtain ⟨s', call, answer⟩ := x
      subst hcall
      dsimp only at hx
      subst hx
      exact Or.inr (Or.inl ⟨s', _, rfl⟩)
  | replaceCommand signal =>
    rcases exchanges_replace s i hevent with
      ⟨-, hnil⟩ | ⟨broker, x, hmapped, hexchanges, hcall, -, -⟩
    · exact Or.inl fun x hx => by simp [hnil] at hx
    · have hx := hanswer x (hexchanges ▸ List.mem_cons_self)
      obtain ⟨s', call, answer⟩ := x
      subst hcall
      dsimp only at hx
      subst hx
      exact Or.inr (Or.inr ⟨signal, broker, s', _, rfl, hmapped, hexchanges⟩)

namespace AdapterEnv

variable (env : AdapterEnv) (strategyId : StrategyId) (routing : OrderRouting)

/-- A submit call is accepted, which the gateway may not come to know, or changes nothing. -/
lemma submit_cases (order : V1.Order) :
    (∃ broker, env.given? (.submitOrder order) = some broker ∧
      routing.handle env strategyId (.submitOrder order) = routing.insert broker strategyId ∧
      (env.answers.submitOrder order = .ok broker ∨
        ∃ e, env.answers.submitOrder order = .error e)) ∨
    env.given? (.submitOrder order) = none ∧
      routing.handle env strategyId (.submitOrder order) = routing ∧
      ∃ e, env.answers.submitOrder order = .error e := by
  simp only [given?, OrderRouting.handle, answers]
  generalize env.submitOrder order = response
  obtain ⟨⟨⟨accepted, reason⟩, broker⟩, outcome⟩ := response
  cases accepted <;> cases outcome <;>
    simp [RpcOutcome.reaches, OrderRouting.submitOrder, GrpcGateway.resultOf]

/-- A replace call is accepted, and its answer comes in or gets lost, or it changes nothing. -/
lemma replace_cases (old : BrokerOrderId) (newOrder : V1.Order) :
    (∃ broker, env.given? (.replaceOrder old newOrder) = some broker ∧
      routing.handle env strategyId (.replaceOrder old newOrder) =
        (routing.erase old).insert broker strategyId ∧
      (env.answers.replaceOrder old newOrder = .ok broker ∧
          env.losesReplacement (.replaceOrder old newOrder) = false ∨
        (∃ e, env.answers.replaceOrder old newOrder = .error e) ∧
          env.losesReplacement (.replaceOrder old newOrder) = true)) ∨
    env.given? (.replaceOrder old newOrder) = none ∧
      routing.handle env strategyId (.replaceOrder old newOrder) = routing ∧
      env.losesReplacement (.replaceOrder old newOrder) = false ∧
      ∃ e, env.answers.replaceOrder old newOrder = .error e := by
  simp only [losesReplacement, given?, OrderRouting.handle, answers]
  generalize env.replaceOrder old newOrder = response
  obtain ⟨⟨⟨accepted, reason⟩, broker⟩, outcome⟩ := response
  cases accepted <;> cases outcome <;>
    simp [RpcOutcome.reaches, OrderRouting.replaceOrder, GrpcGateway.resultOf]

end AdapterEnv

/-- Cancels do not touch the routing. -/
lemma OrderRouting.foldl_handle_cancels (env : AdapterEnv) (strategyId : StrategyId)
    (routing : OrderRouting) {calls : List GatewayCall}
    (h : ∀ call ∈ calls, ∃ broker, call = .cancelOrder broker) :
    calls.foldl (OrderRouting.handle env strategyId) routing = routing := by
  induction calls with
  | nil => rfl
  | cons call calls ih =>
    obtain ⟨broker, rfl⟩ := h call List.mem_cons_self
    exact ih fun call hcall => h call (List.mem_cons_of_mem _ hcall)

/-! ## The strategies of an adapter -/

/-- The order managers behind one adapter, with the routing of the adapter. -/
structure RoutedStrategies where
  managers : AList fun _ : StrategyId => OrderManager := ∅
  orderRouting : OrderRouting := ∅
  /-- A record of the broker ids that the venue has given out, and for which strategy. -/
  given : OrderRouting := ∅

/-- A step: a strategy is registered, if its id is free, or stopped, or its order manager handles an
event. -/
inductive RoutingAction where
  | register (strategyId : StrategyId) (accountId : String) (store : SQLiteOrderStore)
      (riskManager : RiskManager)
  | stop (strategyId : StrategyId)
  | handle (strategyId : StrategyId) (event : OMEvent) (env : Env) (adapter : AdapterEnv)

namespace RoutedStrategies

/-- The calls on the adapter that a handler makes. -/
def calls (manager : OrderManager) (event : OMEvent) (env : Env) (adapter : AdapterEnv) :
    List GatewayCall :=
  (exchanges manager ⟨event, env, adapter.answers⟩).map Program.Exchange.call

/-- A step of the strategies. -/
def step (s : RoutedStrategies) : RoutingAction → RoutedStrategies
  | .register strategyId accountId store riskManager =>
    match s.managers.lookup strategyId with
    | some _ => s
    | none =>
      { s with
        managers := s.managers.insert strategyId (createOrderManager accountId store riskManager) }
  | .stop strategyId => { s with managers := s.managers.erase strategyId }
  | .handle strategyId event env adapter =>
    match s.managers.lookup strategyId with
    | none => s
    | some manager =>
      { managers := s.managers.insert strategyId (dispatch manager ⟨event, env, adapter.answers⟩)
        orderRouting :=
          (calls manager event env adapter).foldl (OrderRouting.handle adapter strategyId)
            s.orderRouting
        given :=
          ((calls manager event env adapter).filterMap adapter.given?).foldl
            (fun given broker => given.insert broker strategyId) s.given }

/-- The calls on the adapter that the event of a strategy leads to. -/
def callsOf (s : RoutedStrategies) (strategyId : StrategyId) (event : OMEvent) (env : Env)
    (adapter : AdapterEnv) : List GatewayCall :=
  match s.managers.lookup strategyId with
  | none => []
  | some manager => calls manager event env adapter

/-- Every broker id that the venue gives out in the step is new. -/
def GivesFresh (s : RoutedStrategies) : RoutingAction → Prop
  | .handle strategyId event env adapter =>
    ∀ broker ∈ (s.callsOf strategyId event env adapter).filterMap adapter.given?,
      s.given.lookup broker = none
  | .register .. | .stop _ => True

instance (s : RoutedStrategies) : (a : RoutingAction) → Decidable (s.GivesFresh a)
  | .handle .. => inferInstanceAs (Decidable (∀ broker ∈ _, _))
  | .register .. | .stop _ => isTrue trivial

/-- No answer to a replacement gets lost in the step. -/
def AnswersReplacements (s : RoutedStrategies) : RoutingAction → Prop
  | .handle strategyId event env adapter =>
    ∀ call ∈ s.callsOf strategyId event env adapter, adapter.losesReplacement call = false
  | .register .. | .stop _ => True

instance (s : RoutedStrategies) : (a : RoutingAction) → Decidable (s.AnswersReplacements a)
  | .handle .. => inferInstanceAs (Decidable (∀ call ∈ _, _))
  | .register .. | .stop _ => isTrue trivial

/-- The broker id of every mapped order is routed to its strategy. -/
def RoutesMapped (s : RoutedStrategies) : Prop :=
  ∀ strategyId manager localId broker, s.managers.lookup strategyId = some manager →
    manager.idMapper.getBrokerId localId = some broker →
    s.orderRouting.lookup broker = some strategyId

/-- The broker id of no mapped order is routed to another strategy. -/
def NeverMisroutes (s : RoutedStrategies) : Prop :=
  ∀ strategyId manager localId broker, s.managers.lookup strategyId = some manager →
    manager.idMapper.getBrokerId localId = some broker →
    s.orderRouting.lookup broker = none ∨ s.orderRouting.lookup broker = some strategyId

/-! ## One event -/

/-- What an event of a strategy changes: the mapper of its order manager, the routing of the
adapter, and the broker id that the venue gives out.  The flag says that no answer to a replacement
was lost. -/
inductive Served (before after : OrderIdMapper) (strategyId : StrategyId) (routing : OrderRouting) :
    Option BrokerOrderId → Bool → OrderRouting → Prop
  | nothing
      (hkept : ∀ l broker, after.getBrokerId l = some broker → before.getBrokerId l = some broker) :
      Served before after strategyId routing none true routing
  | submitted {named : BrokerOrderId}
      (hmapped : ∃ new, ∀ l broker, after.getBrokerId l = some broker →
        before.getBrokerId l = some broker ∨ l = new ∧ broker = named) :
      Served before after strategyId routing (some named) true (routing.insert named strategyId)
  | replaced {old named : BrokerOrderId} {localId : LocalOrderId}
      (hold : before.getBrokerId localId = some old)
      (hmapped : ∃ new, ∀ l broker, after.getBrokerId l = some broker →
        before.getBrokerId l = some broker ∧ broker ≠ old ∨ l = new ∧ broker = named) :
      Served before after strategyId routing (some named) true
        ((routing.erase old).insert named strategyId)
  | lost {old named : BrokerOrderId} {localId : LocalOrderId}
      (hold : before.getBrokerId localId = some old) (hsame : after = before) :
      Served before after strategyId routing (some named) false
        ((routing.erase old).insert named strategyId)

variable {manager : OrderManager} {event : OMEvent} {env : Env} {adapter : AdapterEnv}
  {strategyId : StrategyId}

/-- An event that makes one call only. -/
lemma calls_of_exchange {x : GatewayExchange}
    (hexchanges : exchanges manager ⟨event, env, adapter.answers⟩ = [x]) :
    calls manager event env adapter = [x.call] := by
  unfold calls
  rw [hexchanges]
  rfl

/-- The gateway has carried out the only call of an event, or nothing. -/
lemma effects_of_exchange {s : OrderManager} {i : Input}
    {x : GatewayExchange}
    (hexchanges : exchanges s i = [x]) : effects s i = (effectOf x).toList := by
  unfold effects
  rw [hexchanges, List.filterMap_cons, List.filterMap_nil]
  cases effectOf x <;> rfl

/-- Cancels leave the routing and every mapping that stays. -/
lemma served_of_cancels (hinj : manager.idMapper.Injective) (strategyId : StrategyId)
    (routing : OrderRouting)
    (hcancels : ∀ x ∈ exchanges manager ⟨event, env, adapter.answers⟩,
      ∃ broker, x.call = .cancelOrder broker) :
    Served manager.idMapper (dispatch manager ⟨event, env, adapter.answers⟩).idMapper strategyId
        routing none true
        ((calls manager event env adapter).foldl (OrderRouting.handle adapter strategyId) routing) ∧
      (calls manager event env adapter).filterMap adapter.given? = [] ∧
      ∀ call ∈ calls manager event env adapter, adapter.losesReplacement call = false := by
  have hcalls : ∀ call ∈ calls manager event env adapter, ∃ broker, call = .cancelOrder broker := by
    intro call hcall
    obtain ⟨x, hx, rfl⟩ := List.mem_map.mp hcall
    exact hcancels x hx
  have hclosed : ∀ effect ∈ effects manager ⟨event, env, adapter.answers⟩,
      ∃ broker, effect = .closed broker := by
    intro effect heffect
    obtain ⟨⟨s', call, answer⟩, hx, heffect⟩ := List.mem_filterMap.mp heffect
    obtain ⟨broker, rfl⟩ := hcancels _ hx
    cases answer with
    | error e => cases heffect
    | ok u => exact ⟨broker, (Option.some.inj heffect).symm⟩
  refine ⟨?_, ?_, ?_⟩
  · rw [OrderRouting.foldl_handle_cancels adapter strategyId routing hcalls]
    obtain ⟨new, hnew⟩ := (dispatch_move manager ⟨event, env, adapter.answers⟩).mapped hinj
    refine .nothing fun l broker hmapped => ?_
    rcases hnew l broker hmapped with ⟨hbefore, -⟩ | ⟨-, ⟨order, hmem⟩ | ⟨old, order, hmem⟩⟩
    · exact hbefore
    · obtain ⟨broker', h⟩ := hclosed _ hmem
      cases h
    · obtain ⟨broker', h⟩ := hclosed _ hmem
      cases h
  · refine List.filterMap_eq_nil_iff.mpr fun call hcall => ?_
    obtain ⟨broker, rfl⟩ := hcalls call hcall
    rfl
  · intro call hcall
    obtain ⟨broker, rfl⟩ := hcalls call hcall
    rfl

/-- A submit call routes the order that the venue has accepted, whether the answer comes in or
not. -/
lemma served_of_submit (hinj : manager.idMapper.Injective) (strategyId : StrategyId)
    (routing : OrderRouting) {s' : OrderManager} {order : V1.Order}
    (hexchanges : exchanges manager ⟨event, env, adapter.answers⟩ =
      [⟨s', .submitOrder order, adapter.answers.submitOrder order⟩]) :
    ∃ named,
      Served manager.idMapper (dispatch manager ⟨event, env, adapter.answers⟩).idMapper strategyId
        routing named true
        ((calls manager event env adapter).foldl (OrderRouting.handle adapter strategyId) routing) ∧
      (calls manager event env adapter).filterMap adapter.given? = named.toList ∧
      ∀ call ∈ calls manager event env adapter, adapter.losesReplacement call = false := by
  obtain ⟨new, hnew⟩ := (dispatch_move manager ⟨event, env, adapter.answers⟩).mapped hinj
  rw [effects_of_exchange hexchanges] at hnew
  rw [calls_of_exchange hexchanges]
  rcases adapter.submit_cases strategyId routing order with
    ⟨named, hgiven, hhandle, hanswer⟩ | ⟨hgiven, hhandle, e, hanswer⟩
  · refine ⟨some named, ?_, by simp [hgiven], by simp [AdapterEnv.losesReplacement]⟩
    rw [List.foldl_cons, hhandle]
    refine .submitted ⟨new, fun l broker hmapped => ?_⟩
    rcases hanswer with hanswer | ⟨e, hanswer⟩
    · rw [hanswer] at hnew
      rcases hnew l broker hmapped with ⟨hbefore, -⟩ | ⟨hl, ⟨order', hmem⟩ | ⟨old, order', hmem⟩⟩
      · exact Or.inl hbefore
      · obtain ⟨rfl, -⟩ : broker = named ∧ order' = order := by simpa [effectOf] using hmem
        exact Or.inr ⟨hl, rfl⟩
      · simp [effectOf] at hmem
    · rw [hanswer] at hnew
      rcases hnew l broker hmapped with ⟨hbefore, -⟩ | ⟨-, ⟨order', hmem⟩ | ⟨old, order', hmem⟩⟩
      · exact Or.inl hbefore
      · cases hmem
      · cases hmem
  · refine ⟨none, ?_, by simp [hgiven], by simp [AdapterEnv.losesReplacement]⟩
    rw [List.foldl_cons, hhandle]
    rw [hanswer] at hnew
    refine .nothing fun l broker hmapped => ?_
    rcases hnew l broker hmapped with ⟨hbefore, -⟩ | ⟨-, ⟨order', hmem⟩ | ⟨old, order', hmem⟩⟩
    · exact hbefore
    · cases hmem
    · cases hmem

/-- A replace call moves the route to the new order, and the mapping with it unless the answer gets
lost. -/
lemma served_of_replace (hinj : manager.idMapper.Injective) (strategyId : StrategyId)
    (routing : OrderRouting) {s' : OrderManager} {signal : V1.ReplaceSignal} {old : BrokerOrderId}
    {order : V1.Order} (hevent : event = .replaceCommand signal)
    (hold : manager.idMapper.getBrokerId signal.orderId = some old)
    (hexchanges : exchanges manager ⟨event, env, adapter.answers⟩ =
      [⟨s', .replaceOrder old order, adapter.answers.replaceOrder old order⟩]) :
    ∃ named answered,
      Served manager.idMapper (dispatch manager ⟨event, env, adapter.answers⟩).idMapper strategyId
        routing named answered
        ((calls manager event env adapter).foldl (OrderRouting.handle adapter strategyId) routing) ∧
      (calls manager event env adapter).filterMap adapter.given? = named.toList ∧
      ((∀ call ∈ calls manager event env adapter, adapter.losesReplacement call = false) ↔
        answered = true) := by
  have hmove := dispatch_move manager ⟨event, env, adapter.answers⟩
  rw [effects_of_exchange hexchanges] at hmove
  rw [calls_of_exchange hexchanges]
  rcases adapter.replace_cases strategyId routing old order with
    ⟨named, hgiven, hhandle, ⟨hanswer, hlost⟩ | ⟨⟨e, hanswer⟩, hlost⟩⟩ |
      ⟨hgiven, hhandle, hlost, e, hanswer⟩ <;> rw [hanswer] at hmove
  · refine ⟨some named, true, ?_, by simp [hgiven], by simp [hlost]⟩
    rw [List.foldl_cons, hhandle]
    obtain ⟨new, hnew⟩ := hmove.mapped hinj
    refine .replaced hold ⟨new, fun l broker hmapped => ?_⟩
    rcases hnew l broker hmapped with
      ⟨hbefore, hkept⟩ | ⟨hl, ⟨order', hmem⟩ | ⟨old', order', hmem⟩⟩
    · refine Or.inl ⟨hbefore, ?_⟩
      rintro rfl
      exact hkept named order List.mem_cons_self
    · simp [effectOf] at hmem
    · obtain ⟨-, rfl, -⟩ : old' = old ∧ broker = named ∧ order' = order := by
        simpa [effectOf] using hmem
      exact Or.inr ⟨hl, rfl⟩
  · refine ⟨some named, false, ?_, by simp [hgiven], by simp [hlost]⟩
    rw [List.foldl_cons, hhandle]
    exact .lost hold (hmove.idMapper_of_replace hevent)
  · refine ⟨none, true, ?_, by simp [hgiven], by simp [hlost]⟩
    rw [List.foldl_cons, hhandle]
    have hsame : (dispatch manager ⟨event, env, adapter.answers⟩).idMapper = manager.idMapper :=
      hmove.idMapper_of_replace hevent
    refine .nothing fun l broker hmapped => ?_
    rw [hsame] at hmapped
    exact hmapped

/-- An event serves the strategy in one of these ways. -/
lemma exists_served (hinj : manager.idMapper.Injective) (event : OMEvent) (env : Env)
    (adapter : AdapterEnv) (strategyId : StrategyId) (routing : OrderRouting) :
    ∃ named answered,
      Served manager.idMapper (dispatch manager ⟨event, env, adapter.answers⟩).idMapper strategyId
        routing named answered
        ((calls manager event env adapter).foldl (OrderRouting.handle adapter strategyId) routing) ∧
      (calls manager event env adapter).filterMap adapter.given? = named.toList ∧
      ((∀ call ∈ calls manager event env adapter, adapter.losesReplacement call = false) ↔
        answered = true) := by
  rcases exchanges_cases manager ⟨event, env, adapter.answers⟩ with
    hcancels | ⟨s', order, hexchanges⟩ | ⟨signal, old, s', order, hevent, hold, hexchanges⟩
  · obtain ⟨hserved, hgiven, hkept⟩ := served_of_cancels hinj strategyId routing hcancels
    exact ⟨none, true, hserved, hgiven, iff_of_true hkept rfl⟩
  · obtain ⟨named, hserved, hgiven, hkept⟩ := served_of_submit hinj strategyId routing hexchanges
    exact ⟨named, true, hserved, hgiven, iff_of_true hkept rfl⟩
  · exact served_of_replace hinj strategyId routing hevent hold hexchanges

namespace Served

variable {before after : OrderIdMapper} {routing routing' given : OrderRouting}
  {named : Option BrokerOrderId} {answered : Bool}

/-- What is mapped after the event was mapped before, or is what the venue has given out. -/
lemma mapped_cases (h : Served before after strategyId routing named answered routing')
    {l : LocalOrderId} {broker : BrokerOrderId} (hmapped : after.getBrokerId l = some broker) :
    before.getBrokerId l = some broker ∨ named = some broker := by
  cases h with
  | nothing hkept => exact Or.inl (hkept l broker hmapped)
  | submitted hnew =>
    obtain ⟨new, hnew⟩ := hnew
    exact (hnew l broker hmapped).imp_right fun h => by rw [h.2]
  | replaced _ hnew =>
    obtain ⟨new, hnew⟩ := hnew
    exact (hnew l broker hmapped).imp And.left fun h => by rw [h.2]
  | lost _ hsame =>
    rw [hsame] at hmapped
    exact Or.inl hmapped

/-- A broker id that is given out for the first time is mapped to one order only. -/
lemma injective (h : Served before after strategyId routing named answered routing')
    (hinj : before.Injective)
    (hfresh : ∀ broker, named = some broker → ∀ l, before.getBrokerId l ≠ some broker) :
    after.Injective := by
  intro l l' broker hl hl'
  cases h with
  | nothing hkept => exact hinj l l' broker (hkept l broker hl) (hkept l' broker hl')
  | lost _ hsame =>
    rw [hsame] at hl hl'
    exact hinj l l' broker hl hl'
  | submitted hnew =>
    obtain ⟨new, hnew⟩ := hnew
    rcases hnew l broker hl with hbefore | ⟨rfl, rfl⟩
    · rcases hnew l' broker hl' with hbefore' | ⟨-, rfl⟩
      · exact hinj l l' broker hbefore hbefore'
      · exact absurd hbefore (hfresh _ rfl l)
    · rcases hnew l' broker hl' with hbefore' | ⟨rfl, -⟩
      · exact absurd hbefore' (hfresh _ rfl l')
      · rfl
  | replaced _ hnew =>
    obtain ⟨new, hnew⟩ := hnew
    rcases hnew l broker hl with ⟨hbefore, -⟩ | ⟨rfl, rfl⟩
    · rcases hnew l' broker hl' with ⟨hbefore', -⟩ | ⟨-, rfl⟩
      · exact hinj l l' broker hbefore hbefore'
      · exact absurd hbefore (hfresh _ rfl l)
    · rcases hnew l' broker hl' with ⟨hbefore', -⟩ | ⟨rfl, -⟩
      · exact absurd hbefore' (hfresh _ rfl l')
      · rfl

/-- What is routed after the event was routed before, or is what the venue has given out. -/
lemma routed_cases (h : Served before after strategyId routing named answered routing')
    {broker : BrokerOrderId} {owner : StrategyId} (hrouted : routing'.lookup broker = some owner) :
    routing.lookup broker = some owner ∨ named = some broker ∧ owner = strategyId := by
  cases h with
  | nothing _ => exact Or.inl hrouted
  | @submitted name _ =>
    rw [FiniteMap.lookup_insert_eq] at hrouted
    split_ifs at hrouted with hbroker
    · exact Or.inr ⟨by rw [hbroker], (Option.some.inj hrouted).symm⟩
    · exact Or.inl hrouted
  | @replaced old name _ _ _ | @lost old name _ _ _ =>
    rw [FiniteMap.lookup_insert_eq, FiniteMap.lookup_erase_eq] at hrouted
    split_ifs at hrouted with hbroker
    · exact Or.inr ⟨by rw [hbroker], (Option.some.inj hrouted).symm⟩
    · exact Or.inl hrouted

/-- The routes of the other strategies stay. -/
lemma lookup_other (h : Served before after strategyId routing named answered routing')
    {broker : BrokerOrderId} (hnamed : named ≠ some broker)
    (hother : ∀ l, before.getBrokerId l ≠ some broker) :
    routing'.lookup broker = routing.lookup broker := by
  cases h with
  | nothing _ => rfl
  | @submitted name _ =>
    rw [FiniteMap.lookup_insert_eq, if_neg fun hbroker => hnamed (by rw [hbroker])]
  | @replaced old name l hold _ | @lost old name l hold _ =>
    have hne : broker ≠ old := by
      rintro rfl
      exact hother l hold
    rw [FiniteMap.lookup_insert_eq, if_neg fun hbroker => hnamed (by rw [hbroker]),
      FiniteMap.lookup_erase_eq, if_neg hne]

/-- The mapped orders stay routed exactly when no answer to a replacement gets lost. -/
lemma routes_iff (h : Served before after strategyId routing named answered routing')
    (hfresh : ∀ broker, named = some broker → ∀ l, before.getBrokerId l ≠ some broker)
    (hroutes : ∀ l broker, before.getBrokerId l = some broker →
      routing.lookup broker = some strategyId) :
    (∀ l broker, after.getBrokerId l = some broker →
      routing'.lookup broker = some strategyId) ↔ answered = true := by
  cases h with
  | nothing hkept =>
    exact iff_of_true (fun l broker hmapped => hroutes l broker (hkept l broker hmapped)) rfl
  | submitted hnew =>
    obtain ⟨new, hnew⟩ := hnew
    refine iff_of_true (fun l broker hmapped => ?_) rfl
    rw [FiniteMap.lookup_insert_eq]
    split_ifs with hbroker
    · rfl
    · rcases hnew l broker hmapped with hbefore | ⟨-, hbroker'⟩
      · exact hroutes l broker hbefore
      · exact absurd hbroker' hbroker
  | replaced _ hnew =>
    obtain ⟨new, hnew⟩ := hnew
    refine iff_of_true (fun l broker hmapped => ?_) rfl
    rw [FiniteMap.lookup_insert_eq, FiniteMap.lookup_erase_eq]
    split_ifs with hbroker hold
    · rfl
    · rcases hnew l broker hmapped with ⟨-, hne⟩ | ⟨-, hbroker'⟩
      · exact absurd hold hne
      · exact absurd hbroker' hbroker
    · rcases hnew l broker hmapped with ⟨hbefore, -⟩ | ⟨-, hbroker'⟩
      · exact hroutes l broker hbefore
      · exact absurd hbroker' hbroker
  | @lost old name l hold hsame =>
    -- the old order is still mapped, and its route is gone
    refine iff_of_false (fun hall => ?_) (by simp)
    have hne : old ≠ name := by
      rintro rfl
      exact hfresh old rfl l hold
    have hrouted := hall l old (by rw [hsame, hold])
    rw [FiniteMap.lookup_insert_eq, if_neg hne, FiniteMap.lookup_erase_eq, if_pos rfl] at hrouted
    cases hrouted

end Served

/-! ## Runs -/

/-- The broker ids of the mapped orders and of the routes were given out for their strategies. -/
structure Sound (s : RoutedStrategies) : Prop where
  injective : ∀ strategyId manager, s.managers.lookup strategyId = some manager →
    manager.idMapper.Injective
  mapped_given : ∀ strategyId manager l broker, s.managers.lookup strategyId = some manager →
    manager.idMapper.getBrokerId l = some broker → s.given.lookup broker = some strategyId
  routed_given : ∀ broker strategyId, s.orderRouting.lookup broker = some strategyId →
    s.given.lookup broker = some strategyId

variable {s : RoutedStrategies}

lemma sound_start : ({} : RoutedStrategies).Sound where
  injective := by simp
  mapped_given := by simp
  routed_given := by simp

/-- No mapped order is routed to another strategy. -/
lemma Sound.neverMisroutes (h : s.Sound) : s.NeverMisroutes := by
  intro strategyId manager l broker hmanager hmapped
  cases hrouted : s.orderRouting.lookup broker with
  | none => exact Or.inl rfl
  | some owner =>
    have howner := h.routed_given broker owner hrouted
    rw [h.mapped_given strategyId manager l broker hmanager hmapped] at howner
    exact Or.inr howner.symm

/-- A step that registers or stops a strategy, so that every order manager is one of before or maps
nothing. -/
lemma step_of_managers {managers : AList fun _ : StrategyId => OrderManager} (h : s.Sound)
    (hmanagers : ∀ strategyId manager, managers.lookup strategyId = some manager →
      s.managers.lookup strategyId = some manager ∨
        ∀ l, manager.idMapper.getBrokerId l = none) :
    ({ s with managers := managers } : RoutedStrategies).Sound ∧
      (s.RoutesMapped → ({ s with managers := managers } : RoutedStrategies).RoutesMapped) := by
  refine ⟨⟨?_, ?_, h.routed_given⟩, ?_⟩
  · intro strategyId manager hmanager l l' broker hl hl'
    rcases hmanagers strategyId manager hmanager with hbefore | hnone
    · exact h.injective strategyId manager hbefore l l' broker hl hl'
    · simp [hnone] at hl
  · intro strategyId manager l broker hmanager hmapped
    rcases hmanagers strategyId manager hmanager with hbefore | hnone
    · exact h.mapped_given strategyId manager l broker hbefore hmapped
    · simp [hnone] at hmapped
  · intro hroutes strategyId manager l broker hmanager hmapped
    rcases hmanagers strategyId manager hmanager with hbefore | hnone
    · exact hroutes strategyId manager l broker hbefore hmapped
    · simp [hnone] at hmapped

/-- The record after a broker id was given out. -/
lemma lookup_record (given : OrderRouting) (named : Option BrokerOrderId) (strategyId : StrategyId)
    (broker : BrokerOrderId) :
    (named.toList.foldl (fun given broker => given.insert broker strategyId) given).lookup broker =
      if named = some broker then some strategyId else given.lookup broker := by
  cases named with
  | none => simp
  | some name =>
    rw [Option.toList_some, List.foldl_cons, List.foldl_nil, FiniteMap.lookup_insert_eq]
    by_cases hname : broker = name
    · rw [if_pos hname, if_pos (by rw [hname])]
    · rw [if_neg hname, if_neg fun h => hname (Option.some.inj h).symm]

section served

variable {manager manager' : OrderManager} {named : Option BrokerOrderId} {answered : Bool}
  {routing' : OrderRouting}

/-- A broker id that is given out for the first time is not mapped. -/
lemma Sound.getBrokerId_ne (h : s.Sound) (hlookup : s.managers.lookup strategyId = some manager)
    (hnew : ∀ broker, named = some broker → s.given.lookup broker = none) :
    ∀ broker, named = some broker → ∀ l, manager.idMapper.getBrokerId l ≠ some broker := by
  intro broker hnamed l hmapped
  have hnone := hnew broker hnamed
  rw [h.mapped_given strategyId manager l broker hlookup hmapped] at hnone
  cases hnone

/-- The order managers after an event of one of them. -/
lemma lookup_managers {owner : StrategyId} {found : OrderManager}
    (hfound : (s.managers.insert strategyId manager').lookup owner = some found) :
    owner = strategyId ∧ found = manager' ∨
      owner ≠ strategyId ∧ s.managers.lookup owner = some found := by
  rw [FiniteMap.lookup_insert_eq] at hfound
  split_ifs at hfound with howner
  · exact Or.inl ⟨howner, (Option.some.inj hfound).symm⟩
  · exact Or.inr ⟨howner, hfound⟩

/-- An event keeps the record right. -/
lemma Sound.of_served (h : s.Sound) (hlookup : s.managers.lookup strategyId = some manager)
    (hserved : Served manager.idMapper manager'.idMapper strategyId s.orderRouting named answered
      routing')
    (hnew : ∀ broker, named = some broker → s.given.lookup broker = none) :
    ({ managers := s.managers.insert strategyId manager'
       orderRouting := routing'
       given := named.toList.foldl (fun given broker => given.insert broker strategyId) s.given } :
      RoutedStrategies).Sound := by
  -- what was given out before keeps its owner
  have hkept : ∀ {broker owner}, s.given.lookup broker = some owner → named ≠ some broker := by
    intro broker owner howner hnamed
    rw [hnew broker hnamed] at howner
    cases howner
  refine ⟨?_, ?_, ?_⟩
  · intro owner found hfound
    rcases lookup_managers hfound with ⟨rfl, rfl⟩ | ⟨-, hbefore⟩
    · exact hserved.injective (h.injective _ _ hlookup) (h.getBrokerId_ne hlookup hnew)
    · exact h.injective owner found hbefore
  · intro owner found l broker hfound hmapped
    rw [lookup_record]
    rcases lookup_managers hfound with ⟨rfl, rfl⟩ | ⟨-, hbefore⟩
    · split_ifs with hnamed
      · rfl
      · rcases hserved.mapped_cases hmapped with hbefore | hnamed'
        · exact h.mapped_given owner manager l broker hlookup hbefore
        · exact absurd hnamed' hnamed
    · have howner := h.mapped_given owner found l broker hbefore hmapped
      rw [if_neg (hkept howner), howner]
  · intro broker owner hrouted
    rw [lookup_record]
    rcases hserved.routed_cases hrouted with hbefore | ⟨hnamed, rfl⟩
    · have howner := h.routed_given broker owner hbefore
      rw [if_neg (hkept howner), howner]
    · rw [if_pos hnamed]

/-- An event keeps the mapped orders routed exactly when no answer to a replacement gets lost. -/
lemma Sound.routesMapped_iff_of_served (h : s.Sound)
    (hlookup : s.managers.lookup strategyId = some manager)
    (hserved : Served manager.idMapper manager'.idMapper strategyId s.orderRouting named answered
      routing')
    (hnew : ∀ broker, named = some broker → s.given.lookup broker = none)
    (hroutes : s.RoutesMapped) (given : OrderRouting) :
    ({ managers := s.managers.insert strategyId manager', orderRouting := routing',
       given := given } : RoutedStrategies).RoutesMapped ↔ answered = true := by
  have hown := hserved.routes_iff (h.getBrokerId_ne hlookup hnew) fun l broker hmapped =>
    hroutes strategyId manager l broker hlookup hmapped
  rw [← hown]
  constructor
  · intro hall l broker hmapped
    exact hall strategyId _ l broker (AList.lookup_insert _) hmapped
  · intro hall owner found l broker hfound hmapped
    rcases lookup_managers hfound with ⟨rfl, rfl⟩ | ⟨howner, hbefore⟩
    · exact hall l broker hmapped
    · -- the order of another strategy keeps its route
      have hgivenTo := h.mapped_given owner found l broker hbefore hmapped
      refine (hserved.lookup_other ?_ ?_).trans (hroutes owner found l broker hbefore hmapped)
      · intro hnamed
        rw [hnew broker hnamed] at hgivenTo
        cases hgivenTo
      · intro l' hmapped'
        rw [h.mapped_given strategyId manager l' broker hlookup hmapped'] at hgivenTo
        exact howner (Option.some.inj hgivenTo).symm

end served

/-- An event of a strategy. -/
lemma Sound.handle (h : s.Sound) {manager : OrderManager} {strategyId : StrategyId}
    (hlookup : s.managers.lookup strategyId = some manager) {event : OMEvent} {env : Env}
    {adapter : AdapterEnv} (hfresh : s.GivesFresh (.handle strategyId event env adapter)) :
    (s.step (.handle strategyId event env adapter)).Sound ∧
      (s.RoutesMapped → ((s.step (.handle strategyId event env adapter)).RoutesMapped ↔
        s.AnswersReplacements (.handle strategyId event env adapter))) := by
  obtain ⟨named, answered, hserved, hgiven, hanswered⟩ :=
    exists_served (h.injective _ _ hlookup) event env adapter strategyId s.orderRouting
  have hcalls : s.callsOf strategyId event env adapter = calls manager event env adapter := by
    simp only [callsOf, hlookup]
  have hnew : ∀ broker, named = some broker → s.given.lookup broker = none := by
    rintro broker rfl
    refine hfresh broker ?_
    rw [hcalls, hgiven]
    exact List.mem_singleton_self broker
  have hanswers : s.AnswersReplacements (.handle strategyId event env adapter) ↔
      answered = true := by
    rw [← hcalls] at hanswered
    exact hanswered
  simp only [RoutedStrategies.step, hlookup, hgiven]
  refine ⟨h.of_served hlookup hserved hnew, fun hroutes => ?_⟩
  rw [hanswers]
  exact h.routesMapped_iff_of_served hlookup hserved hnew hroutes _

/-- **Step lemma.**  A step in which the venue gives out new broker ids only keeps the record right,
and it keeps the mapped orders routed exactly when no answer to a replacement gets lost in it. -/
lemma Sound.step (h : s.Sound) {a : RoutingAction} (hfresh : s.GivesFresh a) :
    (s.step a).Sound ∧
      (s.RoutesMapped → ((s.step a).RoutesMapped ↔ s.AnswersReplacements a)) := by
  cases a with
  | register strategyId accountId store riskManager =>
    cases hlookup : s.managers.lookup strategyId with
    | some manager =>
      have hsame : s.step (.register strategyId accountId store riskManager) = s := by
        simp [RoutedStrategies.step, hlookup]
      rw [hsame]
      exact ⟨h, fun hroutes => iff_of_true hroutes trivial⟩
    | none =>
      have hstep : s.step (.register strategyId accountId store riskManager) =
          { s with managers := s.managers.insert strategyId
                    (createOrderManager accountId store riskManager) } := by
        simp [RoutedStrategies.step, hlookup]
      rw [hstep]
      refine (step_of_managers h ?_).imp_right fun hkeeps hroutes =>
        iff_of_true (hkeeps hroutes) trivial
      intro owner manager hmanager
      rw [FiniteMap.lookup_insert_eq] at hmanager
      split_ifs at hmanager
      · obtain rfl := Option.some.inj hmanager
        exact Or.inr fun l => rfl
      · exact Or.inl hmanager
  | stop strategyId =>
    refine (step_of_managers h ?_).imp_right fun hkeeps hroutes =>
      iff_of_true (hkeeps hroutes) trivial
    intro owner manager hmanager
    rw [FiniteMap.lookup_erase_eq] at hmanager
    split_ifs at hmanager
    exact Or.inl hmanager
  | handle strategyId event env adapter =>
    cases hlookup : s.managers.lookup strategyId with
    | none =>
      have hsame : s.step (.handle strategyId event env adapter) = s := by
        simp [RoutedStrategies.step, hlookup]
      rw [hsame]
      refine ⟨h, fun hroutes => iff_of_true hroutes ?_⟩
      intro call hcall
      simp [callsOf, hlookup] at hcall
    | some manager => exact h.handle hlookup hfresh

end RoutedStrategies

/-- **Orders are routed to the strategies that they belong to.**  Provided that the venue gives no
broker id twice, no mapped order of a strategy is ever routed to another one, whatever RPCs fail;
and every mapped order is routed to its own strategy in every state exactly when no answer to a
replacement that the venue has accepted gets lost. -/
theorem orders_routed_to_owner (actions : List RoutingAction)
    (hfresh : Trajectory.AllSteps RoutedStrategies.step RoutedStrategies.GivesFresh {} actions) :
    Trajectory.EveryState RoutedStrategies.step RoutedStrategies.NeverMisroutes {} actions ∧
      (Trajectory.EveryState RoutedStrategies.step RoutedStrategies.RoutesMapped {} actions ↔
        Trajectory.AllSteps RoutedStrategies.step RoutedStrategies.AnswersReplacements {}
          actions) := by
  constructor
  · have hsound : Trajectory.EveryState RoutedStrategies.step RoutedStrategies.Sound {} actions :=
      Trajectory.everyState_of_invariant (fun s a h ha => (h.step ha).1)
        RoutedStrategies.sound_start hfresh
    exact hsound.mono fun s h => h.neverMisroutes
  · have hroutes : ({} : RoutedStrategies).RoutesMapped := by
      simp [RoutedStrategies.RoutesMapped]
    exact Trajectory.everyState_iff_allSteps (fun s a h ha => (h.step ha).1)
      (fun s a h ha => (h.step ha).2) RoutedStrategies.sound_start hroutes hfresh

/-- A venue that accepts every order under the given broker id, with the outcome of the RPC. -/
def acceptingVenue (broker : BrokerOrderId) (outcome : RpcOutcome) : AdapterEnv where
  submitOrder := fun _ => (⟨⟨true, ""⟩, broker⟩, outcome)
  cancelOrder := fun _ => (⟨true, ""⟩, outcome)
  replaceOrder := fun _ _ => (⟨⟨true, ""⟩, broker⟩, outcome)

/-- Two strategies submit an order each, and the first one replaces its order; the answer to this
gets lost. -/
def lostReplacement : List RoutingAction :=
  let buy : OMEvent := .submitCommand { symbol := "AAPL", side := .buy, targetQuantity := 10 }
  let more : OMEvent :=
    .replaceCommand
      { orderId := "ORD_0_000000", symbol := "AAPL", side := .buy, targetQuantity := 20 }
  [.register "alpha" "ACC" .empty ⟨{}⟩, .register "beta" "ACC" .empty ⟨{}⟩,
    .handle "alpha" buy .quiet (acceptingVenue "B1" .answered),
    .handle "beta" buy .quiet (acceptingVenue "B2" .answered),
    .handle "alpha" more .quiet (acceptingVenue "B3" (.answerLost "Socket closed"))]

/-- The strategy whose replacement was lost has an order that is not routed to it. -/
theorem orders_routed_to_owner_lost :
    Trajectory.EveryState RoutedStrategies.step RoutedStrategies.NeverMisroutes {}
        lostReplacement ∧
      ¬ Trajectory.EveryState RoutedStrategies.step RoutedStrategies.RoutesMapped {}
        lostReplacement := by
  obtain ⟨hnever, hiff⟩ := orders_routed_to_owner lostReplacement (by decide +kernel)
  have hlost : ¬ Trajectory.AllSteps RoutedStrategies.step RoutedStrategies.AnswersReplacements {}
      lostReplacement := by
    decide +kernel
  exact ⟨hnever, fun hroutes => hlost (hiff.mp hroutes)⟩

end Quarcc
