import QuarccEngine.OrderManager.Constraints
import QuarccEngine.OrderManager.Delivery
import QuarccEngine.PaperTrading.Conservation

/-!
# Paper trading is serial

The handlers of an order manager stop at every call on the gateway, and the simulation thread, the
dispatcher of the gateway and the threads of the requests move in between.  Here it is shown that
nothing of this can be seen in the order manager: whatever the threads do, its states are those of a
run of `dispatch`, one event after the other, over the events in the order in which they arrived.

The answers of the gateway have to be known as a function for this.  A paper gateway accepts every
cancel, and the handlers make at most one other call, as the last one, so that there is always such
a function.  Its broker ids come from one counter, so that the run meets no refusal of the order
table.
-/

namespace Quarcc

/-! ## Threads -/

/-- A step of one of the threads; a request may also enqueue a replace command. -/
inductive TradingAction where
  | paper (action : PaperAction)
  | replace (signal : V1.ReplaceSignal)

namespace PaperTrading

/-- A step of one of the threads. -/
def trade (p : PaperTrading) : TradingAction → PaperTrading
  | .paper action => p.step action
  | .replace signal => { p with queue := p.queue.enqueue (.replaceCommand signal) }

/-- The event that a step enqueues for the order manager. -/
def enqueued (p : PaperTrading) : TradingAction → Option OMEvent
  | .paper .deliver => p.delivering.map .executionReport
  | .paper (.command command) => some command.event
  | .paper (.bar bar) => some (.bar bar)
  | .paper (.tick tick) => some (.tick tick)
  | .replace signal => some (.replaceCommand signal)
  | .paper (.poll _) | .paper .enqueueReport | .paper .take | .paper (.pop _)
  | .paper (.call _ _) | .paper .finish => none

/-- The events that the queue of the order manager takes along a run, in their order. -/
def arrivals : PaperTrading → List TradingAction → List OMEvent
  | _, [] => []
  | p, a :: rest => (p.enqueued a).toList.filter p.queue.accepts ++ arrivals (p.trade a) rest

/-- The event whose handler waits for the gateway. -/
def running (p : PaperTrading) : Option OMEvent :=
  match p.handler with
  | .call _ _ _ => p.handling
  | .done _ => none

end PaperTrading

/-! ## Handlers -/

/-- The code makes at most one call that is no cancel, and makes it last; its cancels are
accepted. -/
inductive OpensLast : Handler → Prop
  /-- The code is through. -/
  | done (s : OrderManager) : OpensLast (.done s)
  /-- An order is submitted or replaced. -/
  | opening {s : OrderManager} {c : GatewayCall} {next : c.Answer → Handler}
      (hcall : ∀ broker, c ≠ .cancelOrder broker) (hlast : ∀ answer, ∃ s', next answer = .done s') :
      OpensLast (.call s c next)
  /-- An order is cancelled. -/
  | cancel {s : OrderManager} {broker : BrokerOrderId} {next : Result Unit → Handler}
      (hnext : OpensLast (next (.ok ()))) : OpensLast (.call s (.cancelOrder broker) next)

namespace OpensLast

/-- The handler of a submit command. -/
lemma handleSubmit (s : OrderManager) (env : Env) (signal : V1.StrategySignal) :
    OpensLast (s.handleSubmitCommand env signal) := by
  obtain ⟨createdAt, hts⟩ := timestampToString_ok env.now
  rw [s.handleSubmitCommand_eq env signal hts]
  cases (s.beginSubmit env signal).storeOrder env (s.rowOfSubmit env signal createdAt) with
  | mk s' stored =>
    cases stored with
    | error e => exact .done _
    | ok u =>
      dsimp only
      cases s'.checkSubmit signal with
      | error e => exact .done _
      | ok u =>
        refine .opening nofun fun answer => ?_
        cases answer with
        | error e => exact ⟨_, rfl⟩
        | ok broker => exact ⟨_, rfl⟩

/-- The handler of a replace command. -/
lemma handleReplace (s : OrderManager) (env : Env) (signal : V1.ReplaceSignal) :
    OpensLast (s.handleReplaceCommand env signal) := by
  cases hmapped : s.idMapper.getBrokerId signal.orderId with
  | none =>
    unfold OrderManager.handleReplaceCommand
    simp only [hmapped]
    exact .done _
  | some broker =>
    rw [s.handleReplaceCommand_eq env signal hmapped]
    refine .opening nofun fun answer => ?_
    cases answer with
    | error e => exact ⟨_, rfl⟩
    | ok newBroker => exact ⟨_, rfl⟩

/-- The loop of the kill switch. -/
lemma cancelOpenOrders (env : Env) (orders : List StoredOrder) (s : OrderManager) :
    OpensLast (OrderManager.cancelOpenOrders env orders s) := by
  induction orders generalizing s with
  | nil => exact .done _
  | cons stored rest ih =>
    unfold OrderManager.cancelOpenOrders
    cases stored.brokerId with
    | none => exact ih s
    | some broker => exact .cancel (ih _)

/-- **Every handler** keeps to the form. -/
lemma handle (s : OrderManager) (env : Env) (event : OMEvent) : OpensLast (s.handle env event) := by
  cases event with
  | bar bar => exact .done _
  | tick tick => exact .done _
  | executionReport fill => exact .done _
  | submitCommand signal => exact handleSubmit s env signal
  | replaceCommand signal => exact handleReplace s env signal
  | cancelCommand signal =>
    unfold OrderManager.handle OrderManager.handleCancelCommand
    dsimp only
    cases s.idMapper.getBrokerId signal.orderId with
    | none => exact .done _
    | some broker => exact .cancel (.done _)
  | cancelAllCommand reason initiatedBy => exact cancelOpenOrders env _ _

end OpensLast

/-- The broker ids that the gateway gives out while the code runs to its end. -/
def Handler.issued (handler : Handler) (gateway : GatewayAnswers) : List BrokerOrderId :=
  ((handler.exchanges gateway.answer).filterMap effectOf).filterMap GatewayEffect.issued

/-- The answers of a gateway that accepts every cancel. -/
def GatewayAnswers.answering (answer : Result BrokerOrderId) : GatewayAnswers where
  submitOrder _ := answer
  cancelOrder _ := .ok ()
  replaceOrder _ _ := answer

/-- The handler is on its way to the state in which `dispatch` leaves the order manager `s`,
whatever the gateway answers to the calls that are left. -/
structure Suspended (s : OrderManager) (event : OMEvent) (env : Env) (handler : Handler) :
    Prop where
  opensLast : OpensLast handler
  run_eq : ∀ gateway : GatewayAnswers, (∀ broker, gateway.cancelOrder broker = .ok ()) →
    handler.run gateway.answer = dispatch s ⟨event, env, gateway⟩ ∧
      handler.issued gateway = issued s ⟨event, env, gateway⟩

namespace Suspended

variable {s s' : OrderManager} {event : OMEvent} {env : Env}

/-- A handler that has just begun. -/
lemma handle (s : OrderManager) (event : OMEvent) (env : Env) :
    Suspended s event env (s.handle env event) where
  opensLast := .handle s env event
  run_eq := fun _ _ => ⟨rfl, rfl⟩

/-- A handler that is through. -/
lemma through (h : Suspended s event env (.done s')) :
    ∃ gateway, s' = dispatch s ⟨event, env, gateway⟩ ∧ issued s ⟨event, env, gateway⟩ = [] := by
  obtain ⟨hrun, hissued⟩ := h.run_eq (.answering (.ok "")) fun _ => rfl
  exact ⟨_, hrun, hissued.symm⟩

/-- The gateway has cancelled the order. -/
lemma cancelled {broker : BrokerOrderId} {next : Result Unit → Handler}
    (h : Suspended s event env (.call s' (.cancelOrder broker) next)) :
    Suspended s event env (next (.ok ())) := by
  constructor
  · cases h.opensLast with
    | opening hcall _ => exact absurd rfl (hcall broker)
    | cancel hnext => exact hnext
  · intro gateway hcancel
    obtain ⟨hrun, hissued⟩ := h.run_eq gateway hcancel
    have hanswer : gateway.answer (.cancelOrder broker) = .ok () := hcancel broker
    rw [Program.run_call, hanswer] at hrun
    refine ⟨hrun, ?_⟩
    rw [← hissued]
    unfold Handler.issued
    rw [Program.exchanges_call, hanswer]
    rfl

/-- The gateway has answered to the last call. -/
lemma answered {c : GatewayCall} {next : c.Answer → Handler}
    (h : Suspended s event env (.call s' c next)) (hcall : ∀ broker, c ≠ .cancelOrder broker)
    (gateway : GatewayAnswers) (hcancel : ∀ broker, gateway.cancelOrder broker = .ok ()) :
    next (gateway.answer c) = .done (dispatch s ⟨event, env, gateway⟩) ∧
      issued s ⟨event, env, gateway⟩ =
        ((effectOf ⟨s', c, gateway.answer c⟩).bind GatewayEffect.issued).toList := by
  obtain ⟨hrun, hissued⟩ := h.run_eq gateway hcancel
  cases h.opensLast with
  | cancel _ => exact absurd rfl (hcall _)
  | opening _ hlast =>
    obtain ⟨s'', hdone⟩ := hlast (gateway.answer c)
    rw [Program.run_call, hdone, Program.run_done] at hrun
    rw [hdone, hrun, ← hissued]
    refine ⟨rfl, ?_⟩
    unfold Handler.issued
    rw [Program.exchanges_call, hdone, Program.exchanges_done]
    cases heffect : effectOf ⟨s', c, gateway.answer c⟩ with
    | none => simp [heffect]
    | some effect => cases hid : effect.issued <;> simp [heffect, hid]

end Suspended

/-- The broker id that is given out for an order that was submitted. -/
lemma issued_opened (s : OrderManager) (order : V1.Order) (answer : Result BrokerOrderId) :
    ((effectOf ⟨s, .submitOrder order, answer⟩).bind GatewayEffect.issued).toList =
      answer.toOption.toList := by
  cases answer <;> rfl

/-- The broker id that is given out for an order that was replaced. -/
lemma issued_moved (s : OrderManager) (broker : BrokerOrderId) (order : V1.Order)
    (answer : Result BrokerOrderId) :
    ((effectOf ⟨s, .replaceOrder broker order, answer⟩).bind GatewayEffect.issued).toList =
      answer.toOption.toList := by
  cases answer <;> rfl

/-! ## The invariant -/

/-- The broker ids of a run come one after the other. -/
lemma issuedAll_append (s : OrderManager) (is js : List Input) :
    issuedAll s (is ++ js) = issuedAll s is ++ issuedAll (Trajectory.run dispatch s is) js := by
  induction is generalizing s with
  | nil => rfl
  | cons i is ih => rw [List.cons_append, issuedAll, issuedAll, ih, Trajectory.run_cons,
      List.append_assoc]

/-- What the queue holds after an event was enqueued. -/
lemma EventQueue.q_enqueue (queue : EventQueue OMEvent) (event : OMEvent) :
    (queue.enqueue event).q = queue.q ++ [event].filter queue.accepts := by
  cases haccepts : queue.accepts event with
  | true =>
    rw [EventQueue.enqueue_of_accepts haccepts, List.filter_cons_of_pos haccepts]
    rfl
  | false =>
    obtain ⟨-, -, hsame⟩ := EventQueue.enqueue_of_not_accepts haccepts
    rw [hsame, List.filter_cons_of_neg (by simp [haccepts])]
    exact (List.append_nil _).symm

/-- Where the dispatch thread is, when the events before it have taken the order manager to `s`. -/
inductive PaperTrading.Between (p : PaperTrading) (s : OrderManager) : Prop
  /-- No handler runs. -/
  | handlers (hhandler : p.handler = .done s)
  /-- A handler waits for the gateway. -/
  | calls {event : OMEvent} {env : Env} (hfault : env.NoFault) (hhandling : p.handling = some event)
      (hcall : p.running = some event) (hsuspended : Suspended s event env p.handler)

/-- The order manager has handled `inputs`, and what has arrived besides is handled or waits. -/
structure Serial (m : OrderManager) (p : PaperTrading) (inputs : List Input)
    (arrived : List OMEvent) : Prop where
  between : p.Between (Trajectory.run dispatch m inputs)
  arrived_eq : inputs.map Input.event ++ p.running.toList ++ p.queue.q = arrived
  noFault : ∀ i ∈ inputs, i.env.NoFault
  nodup : (issuedAll m inputs).Nodup
  plain : ∀ broker ∈ issuedAll m inputs, NoZeroByte broker
  serials : ∀ broker ∈ issuedAll m inputs, serialOf broker < p.gateway.idGen.counter.toNat
  plainIds : p.gateway.PlainIds

namespace Serial

variable {m : OrderManager} {p p' : PaperTrading} {inputs : List Input} {arrived : List OMEvent}

/-- A step that leaves the dispatch thread alone. -/
lemma of_same (h : Serial m p inputs arrived) (hhandler : p'.handler = p.handler)
    (hhandling : p'.handling = p.handling) (hgen : p'.gateway.idGen = p.gateway.idGen)
    {new : List OMEvent} (hq : p'.queue.q = p.queue.q ++ new) :
    Serial m p' inputs (arrived ++ new) := by
  have hrunning : p'.running = p.running := by
    unfold PaperTrading.running
    rw [hhandler, hhandling]
  constructor
  · cases h.between with
    | handlers hdone => exact .handlers (hhandler.trans hdone)
    | calls hfault hhandling' hcall hsuspended =>
      exact .calls hfault (hhandling.trans hhandling') (hrunning.trans hcall)
        (hhandler ▸ hsuspended)
  · rw [hrunning, hq, ← List.append_assoc, h.arrived_eq]
  · exact h.noFault
  · exact h.nodup
  · exact h.plain
  · rw [hgen]
    exact h.serials
  · unfold PaperGateway.PlainIds
    rw [hgen]
    exact h.plainIds

/-- The handler of an event has come to its end. -/
lemma of_dispatch (h : Serial m p inputs arrived) {i : Input} (hfault : i.env.NoFault)
    (hhandler : p'.handler = .done (dispatch (Trajectory.run dispatch m inputs) i))
    (harrived : inputs.map Input.event ++ i.event :: p'.queue.q = arrived)
    (hids : ∀ broker ∈ issued (Trajectory.run dispatch m inputs) i,
      p.gateway.idGen.counter.toNat ≤ serialOf broker ∧
        serialOf broker < p'.gateway.idGen.counter.toNat ∧ NoZeroByte broker)
    (hcounter : p.gateway.idGen.counter.toNat ≤ p'.gateway.idGen.counter.toNat)
    (hplainIds : p'.gateway.PlainIds) :
    Serial m p' (inputs ++ [i]) arrived := by
  have hissued : issuedAll m (inputs ++ [i]) =
      issuedAll m inputs ++ issued (Trajectory.run dispatch m inputs) i := by
    rw [issuedAll_append, issuedAll, issuedAll, List.append_nil]
  constructor
  · rw [Trajectory.run, List.foldl_append]
    exact .handlers hhandler
  · have hrunning : p'.running = none := by
      unfold PaperTrading.running
      rw [hhandler]
    rw [hrunning, ← harrived]
    simp
  · intro j hj
    rcases List.mem_append.mp hj with hold | hnew
    · exact h.noFault j hold
    · rw [List.mem_singleton.mp hnew]
      exact hfault
  · rw [hissued]
    refine List.nodup_append'.mpr ⟨h.nodup, (dispatch_move _ i).nodup_issued.of_map, ?_⟩
    intro broker hold hnew
    have hlt := h.serials broker hold
    have hle := (hids broker hnew).1
    omega
  · rw [hissued]
    intro broker hbroker
    rcases List.mem_append.mp hbroker with hold | hnew
    · exact h.plain broker hold
    · exact (hids broker hnew).2.2
  · rw [hissued]
    intro broker hbroker
    rcases List.mem_append.mp hbroker with hold | hnew
    · exact lt_of_lt_of_le (h.serials broker hold) hcounter
    · exact (hids broker hnew).2.1
  · exact hplainIds

/-- The handler of an event has begun, or its last call was a cancel. -/
lemma of_suspended (h : Serial m p inputs arrived) {event : OMEvent} {env : Env}
    (hfault : env.NoFault) (hhandling : p'.handling = some event)
    (hsuspended : Suspended (Trajectory.run dispatch m inputs) event env p'.handler)
    (harrived : inputs.map Input.event ++ event :: p'.queue.q = arrived)
    (hgen : p'.gateway.idGen = p.gateway.idGen) : ∃ inputs', Serial m p' inputs' arrived := by
  have hplainIds : p'.gateway.PlainIds := by
    unfold PaperGateway.PlainIds
    rw [hgen]
    exact h.plainIds
  cases hhandler : p'.handler with
  | done s' =>
    rw [hhandler] at hsuspended
    obtain ⟨gateway, rfl, hissued⟩ := hsuspended.through
    refine ⟨inputs ++ [⟨event, env, gateway⟩],
      h.of_dispatch hfault hhandler harrived ?_ ?_ hplainIds⟩
    · rw [hissued]
      exact nofun
    · rw [hgen]
  | call s' c next =>
    have hrunning : p'.running = some event := by
      unfold PaperTrading.running
      rw [hhandler]
      exact hhandling
    refine ⟨inputs, .calls hfault hhandling hrunning hsuspended, ?_, h.noFault,
      h.nodup, h.plain, ?_,
      hplainIds⟩
    · rw [hrunning, ← harrived]
      simp
    · rw [hgen]
      exact h.serials

/-- The dispatch thread pops an event. -/
lemma pop (h : Serial m p inputs arrived) {env : Env} (hfault : env.NoFault) :
    ∃ inputs', Serial m (p.pop env) inputs' arrived := by
  unfold PaperTrading.pop
  cases hhandling : p.handling with
  | some event => exact ⟨inputs, h⟩
  | none =>
    cases hpop : p.queue.pop with
    | none => exact ⟨inputs, h⟩
    | some popped =>
      obtain ⟨event, rest⟩ := popped
      obtain ⟨tail, hq, rfl⟩ := EventQueue.pop_eq_some_iff.mp hpop
      cases h.between with
      | calls _ hbusy _ _ =>
        rw [hhandling] at hbusy
        cases hbusy
      | handlers hdone =>
        have harrived := h.arrived_eq
        have hrunning : p.running = none := by
          unfold PaperTrading.running
          rw [hdone]
        have hmanager : p.manager = Trajectory.run dispatch m inputs := by
          unfold PaperTrading.manager
          rw [hdone, Program.state_done]
        rw [hrunning, hq] at harrived
        refine h.of_suspended hfault rfl ?_ (by simpa using harrived) rfl
        rw [← hmanager]
        exact .handle p.manager event env

/-- The gateway has answered to the last call of the handler: it has given out the next broker id or
none. -/
lemma answered (h : Serial m p inputs arrived) {event : OMEvent} {env : Env} (hfault : env.NoFault)
    (hrunning : p.running = some event) {g : PaperGateway} {answer : Result BrokerOrderId}
    {clockMs : ℤ} (hcounter : p.gateway.idGen.counter.toNat + 1 < 2 ^ 64)
    (hcases : (g.idGen = p.gateway.idGen ∧ ∃ e, answer = .error e) ∨
      (g.idGen = (p.gateway.idGen.generate clockMs).2 ∧
        answer = .ok (p.gateway.idGen.generate clockMs).1))
    {handler : Handler}
    (hdone : handler = .done (dispatch (Trajectory.run dispatch m inputs)
      ⟨event, env, .answering answer⟩))
    (hissued : issued (Trajectory.run dispatch m inputs) ⟨event, env, .answering answer⟩ =
      answer.toOption.toList) :
    ∃ inputs', Serial m { p with gateway := g, handler := handler } inputs' arrived := by
  have harrived : inputs.map Input.event ++ event :: p.queue.q = arrived := by
    rw [← h.arrived_eq, hrunning]
    simp
  refine ⟨inputs ++ [⟨event, env, .answering answer⟩],
    h.of_dispatch hfault hdone harrived ?_ ?_ ?_⟩
  · rw [hissued]
    rcases hcases with ⟨-, e, rfl⟩ | ⟨hgen, rfl⟩
    · exact nofun
    · intro broker hbroker
      obtain rfl := List.mem_singleton.mp hbroker
      dsimp only
      rw [hgen, OrderIdGenerator.serialOf_generate, OrderIdGenerator.counter_generate,
        Nat.mod_eq_of_lt hcounter]
      exact ⟨le_rfl, Nat.lt_succ_self _, OrderIdGenerator.noZeroByte_generate h.plainIds clockMs⟩
  · dsimp only
    rcases hcases with ⟨hgen, -⟩ | ⟨hgen, -⟩
    · rw [hgen]
    · rw [hgen, OrderIdGenerator.counter_generate, Nat.mod_eq_of_lt hcounter]
      exact Nat.le_succ _
  · unfold PaperGateway.PlainIds
    dsimp only
    rcases hcases with ⟨hgen, -⟩ | ⟨hgen, -⟩
    · rw [hgen]
      exact h.plainIds
    · rw [hgen]
      exact h.plainIds

/-- The gateway is called. -/
lemma call (h : Serial m p inputs arrived) (draw : ℚ) (clockMs : ℤ)
    (hcounter : p.gateway.idGen.counter.toNat + 1 < 2 ^ 64) :
    ∃ inputs', Serial m (p.call draw clockMs) inputs' arrived := by
  unfold PaperTrading.call
  cases hhandler : p.handler with
  | done s => exact ⟨inputs, h⟩
  | call s c next =>
    cases h.between with
    | handlers hdone =>
      rw [hhandler] at hdone
      cases hdone
    | @calls event env hfault hhandling hrunning hsuspended =>
      rw [hhandler] at hsuspended
      cases c with
      | cancelOrder broker =>
        refine h.of_suspended hfault hhandling hsuspended.cancelled ?_ rfl
        rw [← h.arrived_eq, hrunning]
        simp
      | submitOrder order =>
        obtain ⟨hdone, hissued⟩ := hsuspended.answered nofun
          (.answering (p.gateway.submitOrder draw clockMs order).2) fun _ => rfl
        refine h.answered hfault hrunning hcounter
          (p.gateway.submitOrder_cases draw clockMs order) hdone (hissued.trans ?_)
        exact issued_opened _ _ _
      | replaceOrder broker order =>
        obtain ⟨hdone, hissued⟩ := hsuspended.answered nofun
          (.answering (p.gateway.replaceOrder draw clockMs broker order).2) fun _ => rfl
        refine h.answered hfault hrunning hcounter
          (p.gateway.replaceOrder_cases draw clockMs broker order) hdone (hissued.trans ?_)
        exact issued_moved _ _ _ _

/-- The dispatch thread is through with an event. -/
lemma finish (h : Serial m p inputs arrived) : Serial m p.finish inputs arrived := by
  unfold PaperTrading.finish
  cases hhandling : p.handling with
  | none => exact h
  | some event =>
    cases hhandler : p.handler with
    | call s c next => exact h
    | done s =>
      have hrunning : p.running = none := by
        unfold PaperTrading.running
        rw [hhandler]
      have harrived := h.arrived_eq
      rw [hrunning] at harrived
      constructor
      · cases h.between with
        | handlers hdone => exact .handlers (hhandler.symm.trans hdone)
        | calls _ _ hcall _ =>
          rw [hrunning] at hcall
          cases hcall
      · unfold PaperTrading.running
        exact harrived
      · exact h.noFault
      · exact h.nodup
      · exact h.plain
      · exact h.serials
      · exact h.plainIds

/-- **Step lemma.**  Whatever a thread does, the order manager goes on as if it were alone. -/
theorem trade (h : Serial m p inputs arrived) (a : TradingAction)
    (hfault : ∀ env, a = .paper (.pop env) → env.NoFault)
    (hcounter : p.gateway.idGen.counter.toNat + 1 < 2 ^ 64) :
    ∃ inputs', Serial m (p.trade a) inputs'
      (arrived ++ (p.enqueued a).toList.filter p.queue.accepts) := by
  -- a step that enqueues nothing
  have hquiet : p.enqueued a = none → (∃ inputs', Serial m (p.trade a) inputs' arrived) →
      ∃ inputs', Serial m (p.trade a) inputs'
        (arrived ++ (p.enqueued a).toList.filter p.queue.accepts) := by
    intro hnone hserial
    rw [hnone]
    simpa using hserial
  -- a step that leaves the dispatch thread and its queue alone
  have hsame : ∀ {p'}, p'.handler = p.handler → p'.handling = p.handling →
      p'.gateway.idGen = p.gateway.idGen → p'.queue = p.queue →
      ∃ inputs', Serial m p' inputs' arrived := by
    intro p' hhandler hhandling hgen hq
    have hserial : Serial m p' inputs (arrived ++ []) :=
      h.of_same hhandler hhandling hgen (by rw [hq, List.append_nil])
    rw [List.append_nil] at hserial
    exact ⟨inputs, hserial⟩
  -- an event that arrives
  have harrive : ∀ {p'} event, p'.handler = p.handler → p'.handling = p.handling →
      p'.gateway = p.gateway → p'.queue = p.queue.enqueue event →
      ∃ inputs', Serial m p' inputs' (arrived ++ [event].filter p.queue.accepts) := by
    intro p' event hhandler hhandling hgateway hq
    exact ⟨inputs, h.of_same hhandler hhandling (by rw [hgateway]) (by rw [hq, p.queue.q_enqueue])⟩
  cases a with
  | replace signal => exact harrive (.replaceCommand signal) rfl rfl rfl rfl
  | paper action =>
    cases action with
    | command command => exact harrive command.event rfl rfl rfl rfl
    | bar bar => exact harrive (.bar bar) rfl rfl rfl rfl
    | tick tick => exact harrive (.tick tick) rfl rfl rfl rfl
    | pop env => exact hquiet rfl (h.pop (hfault env rfl))
    | call draw clockMs => exact hquiet rfl (h.call draw clockMs hcounter)
    | finish => exact hquiet rfl ⟨inputs, h.finish⟩
    | poll poll =>
      refine hquiet rfl ?_
      change ∃ inputs', Serial m (p.simulateFills poll) inputs' arrived
      unfold PaperTrading.simulateFills
      split_ifs
      · exact hsame rfl rfl (p.gateway.simulateFills_idGen poll) rfl
      · exact ⟨inputs, h⟩
    | enqueueReport =>
      refine hquiet rfl ?_
      change ∃ inputs', Serial m p.enqueueReport inputs' arrived
      unfold PaperTrading.enqueueReport
      cases p.generatedFills with
      | nil => exact ⟨inputs, h⟩
      | cons report rest => exact hsame rfl rfl rfl rfl
    | take =>
      refine hquiet rfl ?_
      change ∃ inputs', Serial m p.take inputs' arrived
      unfold PaperTrading.take
      cases p.delivering with
      | some report => exact ⟨inputs, h⟩
      | none =>
        cases p.reportsQueue with
        | nil => exact ⟨inputs, h⟩
        | cons report rest => exact hsame rfl rfl rfl rfl
    | deliver =>
      change ∃ inputs', Serial m p.deliver inputs' (arrived ++
        (p.delivering.map OMEvent.executionReport).toList.filter p.queue.accepts)
      unfold PaperTrading.deliver
      cases hdelivering : p.delivering with
      | none => exact ⟨inputs, (List.append_nil arrived).symm ▸ h⟩
      | some report => exact harrive (.executionReport report) rfl rfl rfl rfl

/-- A step generates one broker id or none. -/
lemma counter_trade (a : TradingAction) (hcounter : p.gateway.idGen.counter.toNat + 1 < 2 ^ 64) :
    (p.trade a).gateway.idGen.counter.toNat ≤ p.gateway.idGen.counter.toNat + 1 := by
  have hcall : ∀ {g : PaperGateway} {answer : Result BrokerOrderId} {clockMs : ℤ},
      (g.idGen = p.gateway.idGen ∧ ∃ e, answer = .error e) ∨
        (g.idGen = (p.gateway.idGen.generate clockMs).2 ∧
          answer = .ok (p.gateway.idGen.generate clockMs).1) →
      g.idGen.counter.toNat ≤ p.gateway.idGen.counter.toNat + 1 := by
    rintro g answer clockMs (⟨hgen, -⟩ | ⟨hgen, -⟩)
    · rw [hgen]
      exact Nat.le_succ _
    · rw [hgen, OrderIdGenerator.counter_generate, Nat.mod_eq_of_lt hcounter]
  have hkeep : (p.trade a).gateway.idGen = p.gateway.idGen →
      (p.trade a).gateway.idGen.counter.toNat ≤ p.gateway.idGen.counter.toNat + 1 := by
    intro hgen
    rw [hgen]
    exact Nat.le_succ _
  cases a with
  | replace signal => exact hkeep rfl
  | paper action =>
    by_cases hmoves : action.Moves
    · exact hkeep (congrArg PaperGateway.idGen (p.moved_step hmoves).gateway_eq)
    cases action with
    | poll poll =>
      refine hkeep ?_
      change (p.simulateFills poll).gateway.idGen = _
      rcases p.simulateFills_cases poll with hsame | ⟨-, hgateway, -⟩
      · rw [hsame]
      · rw [hgateway, p.gateway.simulateFills_idGen]
    | pop env =>
      refine hkeep ?_
      change (p.pop env).gateway.idGen = _
      rcases p.pop_cases env with hsame | ⟨_, _, -, -, -, hgateway, -⟩
      · rw [hsame]
      · rw [hgateway]
    | call draw clockMs =>
      change (p.call draw clockMs).gateway.idGen.counter.toNat ≤ _
      unfold PaperTrading.call
      cases p.handler with
      | done s => exact Nat.le_succ _
      | call s c next =>
        cases c with
        | cancelOrder broker => exact Nat.le_succ _
        | submitOrder order => exact hcall (p.gateway.submitOrder_cases draw clockMs order)
        | replaceOrder broker order =>
          exact hcall (p.gateway.replaceOrder_cases draw clockMs broker order)
    | _ => exact absurd trivial hmoves

/-- A run of the threads. -/
lemma run (h : Serial m p inputs arrived) (actions : List TradingAction)
    (hfault : ∀ env, .paper (.pop env) ∈ actions → env.NoFault)
    (hcounter : p.gateway.idGen.counter.toNat + actions.length < 2 ^ 64) :
    ∃ inputs', Serial m (Trajectory.run PaperTrading.trade p actions) inputs'
      (arrived ++ p.arrivals actions) := by
  induction actions generalizing p inputs arrived with
  | nil => exact ⟨inputs, (List.append_nil arrived).symm ▸ h⟩
  | cons a actions ih =>
    rw [List.length_cons] at hcounter
    have hone : p.gateway.idGen.counter.toNat + 1 < 2 ^ 64 := by omega
    obtain ⟨inputs', h'⟩ := h.trade a
      (fun env ha => hfault env (ha ▸ List.mem_cons_self)) hone
    have hnext := counter_trade (p := p) a hone
    rw [Trajectory.run_cons, PaperTrading.arrivals, ← List.append_assoc]
    exact ih h' (fun env henv => hfault env (List.mem_cons_of_mem a henv)) (by omega)

/-- Each step makes one event arrive at most. -/
lemma length_arrivals (p : PaperTrading) (actions : List TradingAction) :
    (p.arrivals actions).length ≤ actions.length := by
  induction actions generalizing p with
  | nil => exact le_rfl
  | cons a actions ih =>
    have hone : ((p.enqueued a).toList.filter p.queue.accepts).length ≤ 1 :=
      (List.length_filter_le _ _).trans (by cases p.enqueued a <;> simp)
    have hrest := ih (p.trade a)
    rw [PaperTrading.arrivals, List.length_append, List.length_cons]
    omega

end Serial

/-- **Paper trading is serial.**  Whatever the threads do, and as long as SQLite has no faults, the
order manager is, whenever no handler runs, in the state in which `dispatch` leaves it after the
events that have arrived and do not wait, one after the other and in the order of their arrival;
every call on the order store succeeds on the way, and the mapper and the store agree. -/
theorem paper_trading_serial (accountId : String) (riskManager : RiskManager)
    (config : PaperGatewayConfig) (actions : List TradingAction)
    (hfault : ∀ env, .paper (.pop env) ∈ actions → env.NoFault)
    (hlength : actions.length < 2 ^ 64) :
    ∃ inputs : List Input,
      inputs.map Input.event ++
          (Trajectory.run PaperTrading.trade (.start accountId .empty riskManager config)
            actions).running.toList ++
          (Trajectory.run PaperTrading.trade (.start accountId .empty riskManager config)
            actions).queue.q =
        PaperTrading.arrivals (.start accountId .empty riskManager config) actions ∧
      (∀ s, (Trajectory.run PaperTrading.trade (.start accountId .empty riskManager config)
          actions).handler = .done s →
        s = Trajectory.run dispatch (createOrderManager accountId .empty riskManager) inputs) ∧
      Trajectory.AllSteps dispatch StoreSucceeds (createOrderManager accountId .empty riskManager)
        inputs ∧
      Trajectory.EveryState dispatch MapperMatchesStore
        (createOrderManager accountId .empty riskManager) inputs := by
  have hstart : Serial (createOrderManager accountId .empty riskManager)
      (.start accountId .empty riskManager config) [] [] :=
    ⟨.handlers rfl, rfl, by simp, List.nodup_nil, by simp [issuedAll], by simp [issuedAll],
      PaperGateway.plainIds_start config⟩
  have hgenerator : (PaperTrading.start accountId .empty riskManager
      config).gateway.idGen.counter.toNat = 0 := rfl
  obtain ⟨inputs, hserial⟩ := hstart.run actions hfault (by rwa [hgenerator, Nat.zero_add])
  rw [List.nil_append] at hserial
  have harrived := congrArg List.length hserial.arrived_eq
  have hle := Serial.length_arrivals (.start accountId .empty riskManager config) actions
  simp only [List.length_append, List.length_map] at harrived
  have hids : (createOrderManager accountId .empty riskManager).idGenerator.counter.toNat +
      inputs.length < 2 ^ 64 := by
    have hzero : (createOrderManager accountId .empty riskManager).idGenerator.counter.toNat = 0 :=
      rfl
    omega
  -- what is bound of the broker ids is distinct, as the ids are
  have hbound : ((issuedAll (createOrderManager accountId .empty riskManager) inputs).map
      cStr).Nodup := by
    refine hserial.nodup.map_on fun broker hbroker broker' hbroker' heq => ?_
    rwa [(hserial.plain broker hbroker).cStr_eq, (hserial.plain broker' hbroker').cStr_eq] at heq
  have hok := ((Unbroken.start accountId riskManager).run_iff List.nodup_nil inputs
    hserial.noFault hids).mpr hbound
  refine ⟨inputs, hserial.arrived_eq, fun s hs => ?_, hok, ?_⟩
  · cases hserial.between with
    | handlers hdone => exact Program.done.inj (hs.symm.trans hdone)
    | calls _ _ hcall _ =>
      unfold PaperTrading.running at hcall
      rw [hs] at hcall
      cases hcall
  · exact (mapperMatchesStore_iff accountId riskManager hok).mpr
      (allSteps_issuesNoZeroByte_iff.mpr hserial.plain)

/-- An order is replaced while its submission still waits for the gateway; both commands are handled
as if the second one had come later. -/
theorem paper_trading_serial_replace :
    let buy : V1.StrategySignal := { symbol := "AAPL", side := .buy, targetQuantity := 10 }
    let more : V1.ReplaceSignal :=
      { orderId := "ORD_0_000000", symbol := "AAPL", side := .buy, targetQuantity := 20 }
    ∃ inputs : List Input,
      inputs.map Input.event = [.submitCommand buy, .replaceCommand more] ∧
      Trajectory.AllSteps dispatch StoreSucceeds (createOrderManager "ACC" .empty ⟨{}⟩) inputs := by
  intro buy more
  let actions : List TradingAction :=
    [.paper (.command (.submit buy)), .paper (.pop .quiet), .replace more, .paper (.call 1 5),
      .paper .finish, .paper (.pop .quiet), .paper (.call 1 4), .paper .finish]
  have hfault : ∀ env, .paper (.pop env) ∈ actions → env.NoFault := by
    intro env henv
    obtain rfl : env = .quiet := by simpa [actions] using henv
    exact ⟨fun _ => rfl, rfl⟩
  obtain ⟨inputs, harrived, -, hok, -⟩ :=
    paper_trading_serial "ACC" ⟨{}⟩ {} actions hfault (by decide)
  refine ⟨inputs, ?_, hok⟩
  have hdone : (Trajectory.run PaperTrading.trade (.start "ACC" .empty ⟨{}⟩ {})
      actions).running.toList ++
        (Trajectory.run PaperTrading.trade (.start "ACC" .empty ⟨{}⟩ {}) actions).queue.q = [] := by
    decide +kernel
  rw [List.append_assoc, hdone, List.append_nil] at harrived
  rw [harrived]
  decide +kernel

end Quarcc
