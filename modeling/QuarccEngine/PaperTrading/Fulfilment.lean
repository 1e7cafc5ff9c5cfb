import Mathlib.Data.Prod.Lex
import QuarccEngine.Library.Fairness
import QuarccEngine.PaperTrading.Refinement
import QuarccEngine.PaperTrading.Serial

/-!
# Paper orders are filled

Every order that the paper gateway accepts is at last `FILLED` in the order store, for its whole
quantity, if every thread is scheduled again and again and the simulation thread again and again
draws a fill of it.

The rank of an order that is not filled says what is left to be done.  While the order is pending it
is the number of shares that the gateway may still fill, as a poll fills at least one share or all
that remains.  Then it is the number of reports in flight up to the last one of the order, and for
each the way that is left to its handler.
-/

namespace Quarcc

/-! ## A poll that fills an order -/

namespace PaperGateway

/-- A poll fills one share at least, or all that remains. -/
lemma le_fillQuantity (remaining : ℚ) (draws : FillDraws) :
    min 1 remaining ≤ fillQuantity remaining draws := by
  unfold fillQuantity
  refine le_min ?_ (min_le_right _ _)
  by_cases hfull : draws.full < 7 / 10
  · rw [if_pos hfull]
    exact min_le_right _ _
  · rw [if_neg hfull]
    dsimp only
    split_ifs with hone
    · exact min_le_left _ _
    · exact (min_le_left _ _).trans (not_lt.mp hone)

/-- A market order is filled when the draw says so. -/
lemma fillOf_market {config : PaperGatewayConfig} (broker : BrokerOrderId) {sim : SimulatedOrder}
    (ps : PriceState) {draws : FillDraws} (hmarket : sim.order.type ≠ .limit)
    (hdraw : draws.fill ≤ config.fillProbability) :
    ∃ r, fillOf config broker sim ps draws = some r ∧ r.brokerOrderId = broker ∧
      r.filledQuantity = fillQuantity (sim.order.quantity - sim.cumulativeFilled) draws := by
  refine ⟨_, if_pos ⟨?_, ?_⟩, rfl, rfl⟩
  · simp [fillable, hmarket]
  · rw [fillProbability, if_neg hmarket]
    exact hdraw

@[simp] lemma initPrice_config (g : PaperGateway) (symbol : String) :
    (g.initPrice symbol).config = g.config := by
  unfold initPrice
  split_ifs <;> rfl

/-- A visit leaves the configuration alone and takes no report back. -/
lemma visitOrder_kept (poll : Poll) (p : PollState) (broker : BrokerOrderId) :
    (visitOrder poll p broker).gateway.config = p.gateway.config ∧
      p.generatedFills ⊆ (visitOrder poll p broker).generatedFills := by
  unfold visitOrder
  cases p.gateway.pendingOrders.lookup broker with
  | none => exact ⟨rfl, List.Subset.refl _⟩
  | some sim =>
    dsimp only
    cases fillOf (p.gateway.initPrice sim.order.symbol).config broker sim
        ((p.gateway.initPrice sim.order.symbol).priceOf sim.order.symbol) (poll.draws broker) with
    | none => exact ⟨p.gateway.initPrice_config sim.order.symbol, List.Subset.refl _⟩
    | some report =>
      exact ⟨p.gateway.initPrice_config sim.order.symbol, List.subset_append_left _ _⟩

/-- So does the loop. -/
lemma foldl_visitOrder_kept (poll : Poll) (todo : List BrokerOrderId) (p : PollState) :
    (todo.foldl (visitOrder poll) p).gateway.config = p.gateway.config ∧
      p.generatedFills ⊆ (todo.foldl (visitOrder poll) p).generatedFills := by
  induction todo generalizing p with
  | nil => exact ⟨rfl, List.Subset.refl _⟩
  | cons broker todo ih =>
    obtain ⟨hconfig, hsub⟩ := visitOrder_kept poll p broker
    obtain ⟨hconfig', hsub'⟩ := ih (visitOrder poll p broker)
    exact ⟨hconfig'.trans hconfig, fun r hr => hsub' (hsub hr)⟩

/-- A visit that fills the order generates its report. -/
lemma mem_visitOrder {poll : Poll} {p : PollState} {broker : BrokerOrderId} {sim : SimulatedOrder}
    {r : V1.ExecutionReport} (hsim : p.gateway.pendingOrders.lookup broker = some sim)
    (hfill : fillOf (p.gateway.initPrice sim.order.symbol).config broker sim
      ((p.gateway.initPrice sim.order.symbol).priceOf sim.order.symbol)
        (poll.draws broker) = some r) :
    r ∈ (visitOrder poll p broker).generatedFills := by
  unfold visitOrder
  simp only [hsim, hfill]
  exact List.mem_append_right _ List.mem_cons_self

/-- **A poll that draws a fill of a market order** fills one share at least, or all that remains. -/
lemma le_filledBy_simulateFills (g : PaperGateway) (poll : Poll) (hnodup : poll.visit.Nodup)
    (hopen : ∀ broker sim, g.pendingOrders.lookup broker = some sim →
      sim.cumulativeFilled < sim.order.quantity)
    {broker : BrokerOrderId} {sim : SimulatedOrder}
    (hsim : g.pendingOrders.lookup broker = some sim)
    (hvisit : broker ∈ poll.visit) (hmarket : sim.order.type ≠ .limit)
    (hdraw : (poll.draws broker).fill ≤ g.config.fillProbability) :
    min 1 (sim.order.quantity - sim.cumulativeFilled) ≤
      filledBy (g.simulateFills poll).2 broker := by
  have hreports := (g.simulateFills_spec poll hnodup hopen).1
  obtain ⟨before, after, hsplit⟩ := List.append_of_mem hvisit
  have hnotin : broker ∉ before := by
    rw [hsplit] at hnodup
    exact fun hmem => List.disjoint_of_nodup_append hnodup hmem List.mem_cons_self
  -- when the order is visited it is as before the poll
  let start : PollState := { gateway := g.advancePrices poll.shock }
  have hvisited : (before.foldl (visitOrder poll) start).Visited g.pendingOrders before := by
    have hstart : start.Visited g.pendingOrders [] :=
      PollState.Visited.start (g.advancePrices poll.shock) hopen
    have hbefore : before.Nodup := by
      rw [hsplit] at hnodup
      exact hnodup.of_append_left
    exact hstart.foldl before (by simpa using hbefore) hopen poll
  have hlookup : (before.foldl (visitOrder poll) start).gateway.pendingOrders.lookup broker =
      some sim := by
    rw [hvisited.lookup_eq, hvisited.filledBy_of_not_mem hnotin, hsim]
    simp
  have hconfig : (before.foldl (visitOrder poll) start).gateway.config = g.config :=
    (foldl_visitOrder_kept poll before start).1
  obtain ⟨r, hfill, hbroker, hquantity⟩ := fillOf_market broker
    (((before.foldl (visitOrder poll) start).gateway.initPrice sim.order.symbol).priceOf
      sim.order.symbol) hmarket
    (hdraw.trans (le_of_eq (congrArg PaperGatewayConfig.fillProbability
      ((initPrice_config _ sim.order.symbol).trans hconfig).symm)))
  have hmem : r ∈ (g.simulateFills poll).2 := by
    have hlater := (foldl_visitOrder_kept poll after _).2 (mem_visitOrder hlookup hfill)
    unfold simulateFills
    rw [hsplit, List.foldl_append, List.foldl_cons]
    exact hlater
  have hone := le_filledBy (fun r' hr' => (hreports r' hr').1.quantity_pos) hmem
  rw [hbroker, hquantity] at hone
  exact (le_fillQuantity _ _).trans hone

/-- A pending order was pending before the call, or it is the submitted one. -/
lemma lookup_submitOrder {g : PaperGateway} {draw : ℚ} {clockMs : ℤ} {order : V1.Order}
    {broker : BrokerOrderId} {sim : SimulatedOrder}
    (hsim : (g.submitOrder draw clockMs order).1.pendingOrders.lookup broker = some sim) :
    g.pendingOrders.lookup broker = some sim ∨ sim.order = order ∧ sim.cumulativeFilled = 0 := by
  unfold submitOrder at hsim
  split_ifs at hsim with hdraw
  · exact Or.inl hsim
  dsimp only [getOrInitPrice] at hsim
  rw [FiniteMap.lookup_insert_eq, initPrice_pendingOrders] at hsim
  split_ifs at hsim with hbroker
  · obtain rfl := Option.some.inj hsim
    exact Or.inr ⟨rfl, rfl⟩
  · exact Or.inl hsim

end PaperGateway

/-! ## What stays true -/

/-- An order as the order manager makes it of a signal. -/
structure V1.Order.IsMarket (order : V1.Order) : Prop where
  not_limit : order.type ≠ .limit
  quantity_pos : 0 < order.quantity

/-- The order that the handler submits next, when it does, is a market order. -/
def Handler.SubmitsMarket : Handler → Prop
  | .call _ (.submitOrder order) _ => order.IsMarket
  | _ => True

/-- The handler goes to its end with any answer of the gateway. -/
lemma OrderManager.answerSubmit_through (s : OrderManager) (env : Env) (localId : LocalOrderId)
    (answer : Result BrokerOrderId) : ∃ s', s.answerSubmit env localId answer = .done s' := by
  cases answer with
  | error e => exact ⟨_, rfl⟩
  | ok broker => exact ⟨_, rfl⟩

/-- The orders of the signals are market orders. -/
lemma OrderManager.handle_submitsMarket (s : OrderManager) (env : Env) {event : OMEvent}
    (hevent : event.Submits) : (s.handle env event).SubmitsMarket := by
  cases event with
  | bar bar => trivial
  | tick tick => trivial
  | executionReport fill => trivial
  | cancelCommand signal => exact hevent.elim
  | replaceCommand signal => exact hevent.elim
  | cancelAllCommand reason initiatedBy => exact hevent.elim
  | submitCommand signal =>
    obtain ⟨createdAt, hts⟩ := timestampToString_ok env.now
    change (s.handleSubmitCommand env signal).SubmitsMarket
    rw [s.handleSubmitCommand_eq env signal hts]
    cases (s.beginSubmit env signal).storeOrder env (s.rowOfSubmit env signal createdAt) with
    | mk s' stored =>
      cases stored with
      | error e => trivial
      | ok u =>
        dsimp only
        cases s'.checkSubmit signal with
        | error e => trivial
        | ok u =>
          exact ⟨V1.OrderType.noConfusion, hevent⟩

namespace PaperThreads

/-- What the run keeps, beside what is booked: an answer takes the handler to its end, and all
orders are market orders. -/
structure Regular (initial : SQLiteOrderStore) (p : PaperThreads) : Prop where
  staged : p.Staged
  mirrored : ∃ booked, Mirrored initial p.current booked
  through : ∀ handler, p.answered = some handler → ∃ s, handler = .done s
  market_pending : ∀ broker sim, p.gateway.pendingOrders.lookup broker = some sim →
    sim.order.IsMarket
  market_next : p.handler.SubmitsMarket

/-- The handler does not go on, or goes on with the answer. -/
lemma resume_cases (p : PaperThreads) :
    p.answered = none ∧ p.resume = p ∨
      ∃ handler, p.answered = some handler ∧
        p.resume = { p with handler := handler, answered := none } := by
  unfold resume
  cases hanswered : p.answered with
  | none => exact Or.inl ⟨rfl, rfl⟩
  | some handler => exact Or.inr ⟨handler, rfl, rfl⟩

namespace Regular

variable {initial : SQLiteOrderStore} {p : PaperThreads}

/-- A new order manager with a gateway that has no orders. -/
lemma start (accountId : String) (store : SQLiteOrderStore) (riskManager : RiskManager)
    (config : PaperGatewayConfig) :
    (PaperThreads.start accountId store riskManager config).Regular store where
  staged := .start accountId store riskManager config
  mirrored := ⟨_, .start accountId store riskManager config⟩
  through := by
    intro handler h
    cases h
  market_pending := by
    intro broker sim h
    cases h
  market_next := trivial

/-- The pending orders are not filled yet. -/
lemma pending_open (h : p.Regular initial) (broker : BrokerOrderId) (sim : SimulatedOrder)
    (hsim : p.gateway.pendingOrders.lookup broker = some sim) :
    sim.cumulativeFilled < sim.order.quantity ∧
      sim.cumulativeFilled = filledBy p.generated broker := by
  obtain ⟨booked, hmirrored⟩ := h.mirrored
  obtain ⟨hlt, hfilled, -⟩ := hmirrored.accounted.pending_booked broker sim hsim
  exact ⟨hlt, hfilled⟩

/-- The only calls on the gateway submit an order, and go to their end with the answer. -/
lemma submits_of_call (h : p.Regular initial) (hanswered : p.answered = none) {s : OrderManager}
    {c : GatewayCall} {next : c.Answer → Handler} (hhandler : p.handler = .call s c next) :
    (∃ order, c = .submitOrder order) ∧ ∀ answer, ∃ s', next answer = .done s' := by
  obtain ⟨booked, hmirrored⟩ := h.mirrored
  rw [current_of_answered_none hanswered] at hmirrored
  cases hmirrored.submitting with
  | done hp =>
    rw [hhandler] at hp
    cases hp
  | @submit s' env order row base hp hpos hrow hins hnew =>
    rw [hhandler] at hp
    cases hp
    exact ⟨⟨order, rfl⟩, s.answerSubmit_through env order.id⟩

/-- A step of `PaperTrading` that leaves the handler and the gateway alone. -/
lemma of_kept (h : p.Regular initial) {p' : PaperThreads} (hstaged : p'.Staged)
    (hmirrored : ∃ booked, Mirrored initial p'.current booked)
    (hanswered : p'.answered = p.answered)
    (hgateway : p'.gateway = p.gateway) (hhandler : p'.handler = p.handler) :
    p'.Regular initial where
  staged := hstaged
  mirrored := hmirrored
  through := by
    rw [hanswered]
    exact h.through
  market_pending := by
    rw [hgateway]
    exact h.market_pending
  market_next := by
    rw [hhandler]
    exact h.market_next

/-- **Step lemma.** -/
lemma step (h : p.Regular initial) {a : ThreadAction} (hsubmits : a.Submits)
    (hok : p.StoreSucceeds a) : (p.step a).Regular initial := by
  obtain ⟨hstaged, hmirrored⟩ := mirrored_step initial p a ⟨h.staged, h.mirrored⟩ ⟨hsubmits, hok⟩
  have hmoves : ∀ action : PaperAction, action.Moves → a = .run action →
      (p.step (.run action)).Regular initial := by
    rintro action haction rfl
    have hmoved := p.toPaperTrading.moved_step haction
    have hstep : p.step (.run action) =
        { p with toPaperTrading := p.toPaperTrading.step action } := by
      cases action <;> first | rfl | exact haction.elim
    rw [hstep] at hstaged hmirrored ⊢
    exact h.of_kept hstaged hmirrored rfl hmoved.gateway_eq hmoved.handler_eq
  cases a with
  | resume =>
    rcases p.resume_cases with ⟨-, hresume⟩ | ⟨handler, hanswered, hresume⟩
    · exact h.of_kept hstaged hmirrored (congrArg answered hresume)
        (congrArg (fun q => q.gateway) hresume) (congrArg (fun q => q.handler) hresume)
    · have hstep : p.step .resume = _ := hresume
      rw [hstep] at hstaged hmirrored ⊢
      obtain ⟨s, rfl⟩ := h.through handler hanswered
      exact ⟨hstaged, hmirrored, fun _ hsome => (by cases hsome), h.market_pending, trivial⟩
  | run action =>
    cases action with
    | poll poll =>
      rcases p.toPaperTrading.simulateFills_cases poll with
        hidle | ⟨hnodup, hgateway, hhandler, -, -, -⟩
      · exact h.of_kept hstaged hmirrored rfl (congrArg PaperTrading.gateway hidle)
          (congrArg PaperTrading.handler hidle)
      · refine ⟨hstaged, hmirrored, h.through, fun broker sim' hsim' => ?_, ?_⟩
        · have hsim'' : (p.gateway.simulateFills poll).1.pendingOrders.lookup broker =
            some sim' := by
            rw [← hgateway]
            exact hsim'
          obtain ⟨-, -, hkept⟩ := p.gateway.simulateFills_spec poll hnodup fun b sim hsim =>
            (h.pending_open b sim hsim).1
          obtain ⟨sim, hsim, horder, -⟩ := hkept broker sim' hsim''
          rw [horder]
          exact h.market_pending broker sim hsim
        · change (p.toPaperTrading.simulateFills poll).handler.SubmitsMarket
          rw [hhandler]
          exact h.market_next
    | pop env =>
      rcases p.toPaperTrading.pop_cases env with
        hidle | ⟨event, tail, -, hq, hhandler, hgateway, -, -, -⟩
      · exact h.of_kept hstaged hmirrored rfl (congrArg PaperTrading.gateway hidle)
          (congrArg PaperTrading.handler hidle)
      · refine ⟨hstaged, hmirrored, h.through, ?_, ?_⟩
        · change ∀ broker sim, (p.toPaperTrading.pop env).gateway.pendingOrders.lookup broker =
            some sim → sim.order.IsMarket
          rw [hgateway]
          exact h.market_pending
        · change (p.toPaperTrading.pop env).handler.SubmitsMarket
          rw [hhandler]
          obtain ⟨booked, hbooked⟩ := h.mirrored
          exact p.manager.handle_submitsMarket env
            (hbooked.expected event (hq ▸ List.mem_cons_self))
    | call draw clockMs =>
      rcases p.call_cases draw clockMs with ⟨hcall, -⟩ | ⟨s, c, next, hanswered, hhandler, hcall⟩
      · exact h.of_kept hstaged hmirrored (congrArg answered hcall)
          (congrArg (fun q => q.gateway) hcall) (congrArg (fun q => q.handler) hcall)
      · obtain ⟨⟨order, rfl⟩, hthrough⟩ := h.submits_of_call hanswered hhandler
        have hstep : p.step (.run (.call draw clockMs)) = _ := hcall
        rw [hstep] at hstaged hmirrored ⊢
        have hmarket : order.IsMarket := by
          have hnext := h.market_next
          rw [hhandler] at hnext
          exact hnext
        refine ⟨hstaged, hmirrored, fun handler hsome => ?_, fun broker sim hsim => ?_,
          h.market_next⟩
        · obtain rfl := Option.some.inj hsome
          exact hthrough _
        · rcases PaperGateway.lookup_submitOrder hsim with hold | ⟨hnew, -⟩
          · exact h.market_pending broker sim hold
          · rw [hnew]
            exact hmarket
    | enqueueReport => exact hmoves _ trivial rfl
    | take => exact hmoves _ trivial rfl
    | deliver => exact hmoves _ trivial rfl
    | finish => exact hmoves _ trivial rfl
    | command command => exact hmoves _ trivial rfl
    | bar bar => exact hmoves _ trivial rfl
    | tick tick => exact hmoves _ trivial rfl

end Regular

end PaperThreads

/-! ## The duties -/

/-- The step that has to be taken next. -/
inductive FillDuty where
  | poll | enqueueReport | take | deliver | pop | call | resume | finish

/-- The duty is done.  A poll does it when it draws a fill of the order: the reports of the last
poll have been enqueued, and all pending orders are walked. -/
def FillDuty.Does (broker : BrokerOrderId) : FillDuty → PaperThreads → ThreadAction → Prop
  | poll, p, a => ∃ poll : Poll, a = .run (.poll poll) ∧ p.generatedFills = [] ∧
      poll.visit.Perm p.gateway.pendingOrders.keys ∧
      (poll.draws broker).fill ≤ p.gateway.config.fillProbability
  | enqueueReport, _, a => a = .run .enqueueReport
  | take, _, a => a = .run .take
  | deliver, _, a => a = .run .deliver
  | pop, _, a => ∃ env, a = .run (.pop env)
  | call, _, a => ∃ draw clockMs, a = .run (.call draw clockMs)
  | resume, _, a => a = .resume
  | finish, _, a => a = .run .finish

namespace PaperThreads

/-- How many steps the dispatch thread takes before it pops an event, and which one is next. -/
inductive HandlerTurn (p : PaperThreads) : ℕ → FillDuty → Prop
  | idle (hhandling : p.handling = none) : HandlerTurn p 0 .pop
  | through (hhandling : p.handling ≠ none) (hanswered : p.answered = none) {s : OrderManager}
      (hhandler : p.handler = .done s) : HandlerTurn p 1 .finish
  | answered (hhandling : p.handling ≠ none) (hanswered : p.answered ≠ none) :
      HandlerTurn p 2 .resume
  | calling (hhandling : p.handling ≠ none) (hanswered : p.answered = none)
      (hcalling : Calling p.toPaperTrading) : HandlerTurn p 3 .call

/-- How far the first report in flight has come: the part of its way, the number of steps that the
dispatch thread takes before it pops the report, and the next step. -/
inductive Leads (p : PaperThreads) : ℕ → ℕ → FillDuty → Prop
  | generated (hqueue : p.queue.q.filterMap OMEvent.report = []) (hdelivering : p.delivering = none)
      (hreports : p.reportsQueue = []) (hfills : p.generatedFills ≠ []) : Leads p 3 0 .enqueueReport
  | waiting (hqueue : p.queue.q.filterMap OMEvent.report = []) (hdelivering : p.delivering = none)
      (hreports : p.reportsQueue ≠ []) : Leads p 2 0 .take
  | delivering (hqueue : p.queue.q.filterMap OMEvent.report = [])
    (hdelivering : p.delivering ≠ none) :
      Leads p 1 0 .deliver
  | queued {before after : List OMEvent} {r : V1.ExecutionReport} {steps : ℕ} {duty : FillDuty}
      (hqueue : p.queue.q = before ++ .executionReport r :: after)
      (hbefore : ∀ event ∈ before, event.report = none) (hturn : p.HandlerTurn steps duty) :
      Leads p 0 (4 * before.length + steps) duty

variable {p p' : PaperThreads} {initial : SQLiteOrderStore} {a : ThreadAction}

/-- The dispatch thread always has a next step. -/
lemma exists_handlerTurn (p : PaperThreads) : ∃ steps ≤ 3, ∃ duty, p.HandlerTurn steps duty := by
  by_cases hhandling : p.handling = none
  · exact ⟨0, by omega, _, .idle hhandling⟩
  cases hanswered : p.answered with
  | some handler => exact ⟨2, by omega, _, .answered hhandling (by simp [hanswered])⟩
  | none =>
    cases hhandler : p.handler with
    | done s => exact ⟨1, by omega, _, .through hhandling hanswered hhandler⟩
    | call s c next => exact ⟨3, by omega, _, .calling hhandling hanswered ⟨s, c, next, hhandler⟩⟩

/-- The first report of a queue, and the events before it. -/
lemma exists_first_report {events : List OMEvent} (h : events.filterMap OMEvent.report ≠ []) :
    ∃ before r after, events = before ++ .executionReport r :: after ∧
      ∀ event ∈ before, event.report = none := by
  induction events with
  | nil => exact absurd rfl h
  | cons event events ih =>
    by_cases hreport : event.report = none
    · rw [List.filterMap_cons_none hreport] at h
      obtain ⟨before, r, after, rfl, hbefore⟩ := ih h
      exact ⟨event :: before, r, after, rfl, List.forall_mem_cons.mpr ⟨hreport, hbefore⟩⟩
    · cases event with
      | executionReport r => exact ⟨[], r, events, rfl, fun _ hmem => absurd hmem List.not_mem_nil⟩
      | _ => exact absurd rfl hreport

/-- A report in flight has a way to go. -/
lemma exists_leads (h : p.inFlight ≠ []) : ∃ part steps duty, p.Leads part steps duty := by
  by_cases hqueue : p.queue.q.filterMap OMEvent.report = []
  swap
  · obtain ⟨before, r, after, hq, hbefore⟩ := exists_first_report hqueue
    obtain ⟨steps, -, duty, hturn⟩ := p.exists_handlerTurn
    exact ⟨0, _, duty, .queued hq hbefore hturn⟩
  by_cases hdelivering : p.delivering = none
  swap
  · exact ⟨1, 0, _, .delivering hqueue hdelivering⟩
  by_cases hreports : p.reportsQueue = []
  swap
  · exact ⟨2, 0, _, .waiting hqueue hdelivering hreports⟩
  refine ⟨3, 0, _, .generated hqueue hdelivering hreports fun hfills => h ?_⟩
  unfold PaperTrading.inFlight
  rw [hqueue, hdelivering, hreports, hfills]
  rfl

/-- The turn depends on the handler only. -/
lemma HandlerTurn.congr {steps : ℕ} {duty : FillDuty} (h : p.HandlerTurn steps duty)
    (hhandling : p'.handling = p.handling) (hanswered : p'.answered = p.answered)
    (hhandler : p'.handler = p.handler) : p'.HandlerTurn steps duty := by
  cases h with
  | idle hnone => exact .idle (hhandling.trans hnone)
  | through hsome hnone hdone =>
    exact .through (hhandling.trans_ne hsome) (hanswered.trans hnone) (hhandler.trans hdone)
  | answered hsome hsome' =>
    exact .answered (hhandling.trans_ne hsome) (hanswered.trans_ne hsome')
  | calling hsome hnone hcalling =>
    refine .calling (hhandling.trans_ne hsome) (hanswered.trans hnone) ?_
    obtain ⟨s, c, next, hcall⟩ := hcalling
    exact ⟨s, c, next, hhandler.trans hcall⟩

end PaperThreads

/-! ## The way of a report -/

/-- A step of the simulation thread or of the dispatcher of the gateway. -/
def ThreadAction.OfGateway : ThreadAction → Prop
  | .run (.poll _) | .run .enqueueReport | .run .take | .run .deliver => True
  | _ => False

/-- A step that brings no new event. -/
def ThreadAction.AddsNothing : ThreadAction → Prop
  | .run (.command _) | .run (.bar _) | .run (.tick _) => False
  | _ => True

namespace PaperThreads

/-- A step that changes nothing of the coarser system changes nothing at all. -/
lemma self_of_eq {p : PaperThreads} {q : PaperTrading} (h : q = p.toPaperTrading) :
    ({ p with toPaperTrading := q } : PaperThreads) = p := by
  subst h
  rfl

/-- Without an event there is no end of one. -/
lemma finish_of_idle {p : PaperTrading} (h : p.handling = none) : p.finish = p := by
  unfold PaperTrading.finish
  rw [h]

/-- The end of an event. -/
lemma finish_of_through {p : PaperTrading} {s : OrderManager} (h : p.handler = .done s) :
    p.finish.handling = none := by
  unfold PaperTrading.finish
  rw [h]
  cases hhandling : p.handling with
  | none => exact hhandling
  | some event => rfl

/-- The dispatch thread goes on, or its turn is as before and was not taken. -/
lemma HandlerTurn.step {steps : ℕ} {duty : FillDuty} (h : p.HandlerTurn steps duty)
    (hregular : p.Regular initial) (a : ThreadAction)
    (hpop : ∀ env, a = .run (.pop env) → p.handling ≠ none) (broker : BrokerOrderId) :
    (∃ steps' duty', steps' < steps ∧ (p.step a).HandlerTurn steps' duty') ∨
      (p.step a).HandlerTurn steps duty ∧ ¬ duty.Does broker p a := by
  have hforeign : ∀ action, Foreign action → a = .run action →
      p.step a = { p with toPaperTrading := p.toPaperTrading.step action } →
      (p.step a).HandlerTurn steps duty ∧ ¬ duty.Does broker p a := by
    rintro action haction rfl hstep
    obtain ⟨hhandling, hhandler, -⟩ := foreign_step haction p.toPaperTrading p.handler
    refine ⟨hstep ▸ h.congr hhandling rfl hhandler, ?_⟩
    cases h <;> cases action <;> first | exact haction.elim | simp [FillDuty.Does]
  cases a with
  | resume =>
    rcases p.resume_cases with ⟨hnone, hresume⟩ | ⟨handler, hanswered, hresume⟩
    · have hsame : p.step .resume = p := hresume
      rw [hsame]
      refine Or.inr ⟨h, ?_⟩
      cases h with
      | answered _ hsome => exact absurd hnone hsome
      | _ => simp [FillDuty.Does]
    · have hstep : p.step .resume = _ := hresume
      obtain ⟨s, rfl⟩ := hregular.through handler hanswered
      have hhandling := hregular.staged.handling_of_calling
        (hregular.staged.calling_of_answered (by simp [hanswered]))
      rw [hstep]
      cases h with
      | idle hnone => exact absurd hnone hhandling
      | through _ hnone _ => simp [hnone] at hanswered
      | calling _ hnone _ => simp [hnone] at hanswered
      | answered _ _ => exact Or.inl ⟨1, _, by omega, .through hhandling rfl rfl⟩
  | run action =>
    cases action with
    | pop env =>
      have hhandling := hpop env rfl
      have hsame : p.step (.run (.pop env)) = p := self_of_eq (pop_of_handling hhandling env)
      rw [hsame]
      refine Or.inr ⟨h, ?_⟩
      cases h with
      | idle hnone => exact absurd hnone hhandling
      | _ => simp [FillDuty.Does]
    | call draw clockMs =>
      rcases p.call_cases draw clockMs with
        ⟨hcall, hdone⟩ | ⟨s, c, next, hanswered, hhandler, hcall⟩
      · have hsame : p.step (.run (.call draw clockMs)) = p := hcall
        rw [hsame]
        refine Or.inr ⟨h, ?_⟩
        cases h with
        | calling _ hnone hcalling =>
          obtain ⟨s, hs⟩ := hdone hnone
          obtain ⟨s', c, next, hs'⟩ := hcalling
          rw [hs] at hs'
          cases hs'
        | _ => simp [FillDuty.Does]
      · have hstep : p.step (.run (.call draw clockMs)) = _ := hcall
        have hhandling := hregular.staged.handling_of_calling ⟨s, c, next, hhandler⟩
        rw [hstep]
        cases h with
        | idle hnone => exact absurd hnone hhandling
        | answered _ hsome => exact absurd hanswered hsome
        | through _ _ hdone =>
          rw [hhandler] at hdone
          cases hdone
        | calling _ _ _ => exact Or.inl ⟨2, _, by omega, .answered hhandling (by simp)⟩
    | finish =>
      cases h with
      | idle hnone =>
        have hsame : p.step (.run .finish) = p := self_of_eq (finish_of_idle hnone)
        rw [hsame]
        exact Or.inr ⟨.idle hnone, by simp [FillDuty.Does]⟩
      | through hhandling hanswered hdone =>
        refine Or.inl ⟨0, _, by omega, .idle ?_⟩
        change p.toPaperTrading.finish.handling = none
        exact finish_of_through hdone
      | answered hhandling hanswered =>
        have hsame : p.step (.run .finish) = p :=
          self_of_eq (finish_of_calling (hregular.staged.calling_of_answered hanswered))
        rw [hsame]
        exact Or.inr ⟨.answered hhandling hanswered, by simp [FillDuty.Does]⟩
      | calling hhandling hanswered hcalling =>
        have hsame : p.step (.run .finish) = p := self_of_eq (finish_of_calling hcalling)
        rw [hsame]
        exact Or.inr ⟨.calling hhandling hanswered hcalling, by simp [FillDuty.Does]⟩
    | poll poll => exact Or.inr (hforeign (.poll poll) trivial rfl rfl)
    | enqueueReport => exact Or.inr (hforeign .enqueueReport trivial rfl rfl)
    | take => exact Or.inr (hforeign .take trivial rfl rfl)
    | deliver => exact Or.inr (hforeign .deliver trivial rfl rfl)
    | command command => exact Or.inr (hforeign (.command command) trivial rfl rfl)
    | bar bar => exact Or.inr (hforeign (.bar bar) trivial rfl rfl)
    | tick tick => exact Or.inr (hforeign (.tick tick) trivial rfl rfl)

/-- What the pop of an event leaves alone. -/
lemma pop_pipeline (p : PaperTrading) (env : Env) :
    (p.pop env).delivering = p.delivering ∧ (p.pop env).reportsQueue = p.reportsQueue ∧
      (p.pop env).generatedFills = p.generatedFills := by
  unfold PaperTrading.pop
  cases p.handling with
  | some event => exact ⟨rfl, rfl, rfl⟩
  | none =>
    cases p.queue.pop with
    | none => exact ⟨rfl, rfl, rfl⟩
    | some next => exact ⟨rfl, rfl, rfl⟩

/-- What the end of an event leaves alone. -/
lemma finish_pipeline (p : PaperTrading) :
    p.finish.delivering = p.delivering ∧ p.finish.reportsQueue = p.reportsQueue ∧
      p.finish.generatedFills = p.generatedFills ∧ p.finish.queue.q = p.queue.q := by
  unfold PaperTrading.finish
  cases p.handling with
  | none => exact ⟨rfl, rfl, rfl, rfl⟩
  | some event =>
    cases p.handler with
    | call s c next => exact ⟨rfl, rfl, rfl, rfl⟩
    | done s => exact ⟨rfl, rfl, rfl, rfl⟩

/-- The other threads do not touch what is on its way at the gateway, and bring no report. -/
lemma pipeline_step (p : PaperThreads) {a : ThreadAction} (ha : ¬ a.OfGateway) :
    (p.step a).delivering = p.delivering ∧ (p.step a).reportsQueue = p.reportsQueue ∧
      (p.step a).generatedFills = p.generatedFills ∧
      (p.queue.q.filterMap OMEvent.report = [] →
        (p.step a).queue.q.filterMap OMEvent.report = []) := by
  cases a with
  | resume =>
    rcases p.resume_cases with ⟨-, hresume⟩ | ⟨handler, -, hresume⟩
    · rw [show p.step .resume = p from hresume]
      exact ⟨rfl, rfl, rfl, id⟩
    · rw [show p.step .resume = _ from hresume]
      exact ⟨rfl, rfl, rfl, id⟩
  | run action =>
    cases action with
    | poll poll => exact absurd trivial ha
    | enqueueReport => exact absurd trivial ha
    | take => exact absurd trivial ha
    | deliver => exact absurd trivial ha
    | command command =>
      have hreport : command.event.report = none := by
        cases command <;> rfl
      exact ⟨rfl, rfl, rfl, fun h => (filterMap_report_enqueue hreport).trans h⟩
    | bar bar =>
      have hreport : (OMEvent.bar bar).report = none := rfl
      exact ⟨rfl, rfl, rfl, fun h => (filterMap_report_enqueue hreport).trans h⟩
    | tick tick =>
      have hreport : (OMEvent.tick tick).report = none := rfl
      exact ⟨rfl, rfl, rfl, fun h => (filterMap_report_enqueue hreport).trans h⟩
    | pop env =>
      obtain ⟨hdelivering, hreports, hfills⟩ := pop_pipeline p.toPaperTrading env
      refine ⟨hdelivering, hreports, hfills, fun h => ?_⟩
      rcases p.toPaperTrading.pop_cases env with hidle | ⟨event, tail, -, hq, -, -, htail, -, -⟩
      · change (p.toPaperTrading.pop env).queue.q.filterMap OMEvent.report = []
        rw [hidle]
        exact h
      · change (p.toPaperTrading.pop env).queue.q.filterMap OMEvent.report = []
        rw [htail]
        rw [hq] at h
        exact List.filterMap_eq_nil_iff.mpr fun e he =>
          List.filterMap_eq_nil_iff.mp h e (List.mem_cons_of_mem event he)
    | call draw clockMs =>
      rcases p.call_cases draw clockMs with ⟨hcall, -⟩ | ⟨s, c, next, -, -, hcall⟩
      · rw [show p.step (.run (.call draw clockMs)) = p from hcall]
        exact ⟨rfl, rfl, rfl, id⟩
      · rw [show p.step (.run (.call draw clockMs)) = _ from hcall]
        exact ⟨rfl, rfl, rfl, id⟩
    | finish =>
      obtain ⟨hdelivering, hreports, hfills, hq⟩ := finish_pipeline p.toPaperTrading
      refine ⟨hdelivering, hreports, hfills, fun h => ?_⟩
      change p.toPaperTrading.finish.queue.q.filterMap OMEvent.report = []
      rw [hq]
      exact h

/-- A poll leaves the reports of the one before alone. -/
lemma simulateFills_pipeline (p : PaperTrading) (poll : Poll) :
    (p.simulateFills poll).queue = p.queue ∧ (p.simulateFills poll).delivering = p.delivering ∧
      (p.simulateFills poll).reportsQueue = p.reportsQueue ∧
      (p.generatedFills ≠ [] → (p.simulateFills poll).generatedFills = p.generatedFills) := by
  unfold PaperTrading.simulateFills
  split_ifs with hpoll
  · exact ⟨rfl, rfl, rfl, fun hfills => absurd hpoll.1 hfills⟩
  · exact ⟨rfl, rfl, rfl, fun _ => rfl⟩

/-- A report is put on the queue of the gateway, behind the others. -/
lemma enqueueReport_pipeline (p : PaperTrading) :
    p.enqueueReport.queue = p.queue ∧ p.enqueueReport.delivering = p.delivering ∧
      (p.reportsQueue ≠ [] ∨ p.generatedFills ≠ [] → p.enqueueReport.reportsQueue ≠ []) := by
  unfold PaperTrading.enqueueReport
  cases hfills : p.generatedFills with
  | nil => simp
  | cons report rest => simp

/-- The dispatcher of the gateway takes a report when it has none and there is one. -/
lemma take_pipeline (p : PaperTrading) :
    p.take.queue = p.queue ∧ p.take.generatedFills = p.generatedFills ∧
      (p.delivering ≠ none ∨ p.reportsQueue ≠ [] → p.take.delivering ≠ none) ∧
      (p.delivering = none → p.reportsQueue = [] → p.take = p) := by
  unfold PaperTrading.take
  cases hdelivering : p.delivering with
  | some report => simp [hdelivering]
  | none =>
    cases hreports : p.reportsQueue with
    | nil => simp [hdelivering]
    | cons report rest => simp

/-- The dispatcher of the gateway has nothing to deliver, or puts its report on the queue. -/
lemma deliver_cases (p : PaperTrading) :
    p.delivering = none ∧ p.deliver = p ∨
      ∃ report, p.delivering = some report ∧
        p.deliver.queue.q = p.queue.q ++ [.executionReport report] ∧
        p.deliver.handler = p.handler ∧ p.deliver.handling = p.handling := by
  unfold PaperTrading.deliver
  cases hdelivering : p.delivering with
  | none => exact Or.inl ⟨rfl, rfl⟩
  | some report =>
    exact Or.inr ⟨report, rfl, EventQueue.push_q p.queue (.executionReport report), rfl, rfl⟩

/-- A report that has not reached the queue of the order manager goes on, or is where it was and its
next step was not taken. -/
lemma Leads.step_gateway {part steps : ℕ} {duty : FillDuty} (h : p.Leads part steps duty)
    (hpart : part ≠ 0) (a : ThreadAction) (broker : BrokerOrderId) :
    (∃ part' steps' duty', part' < part ∧ (p.step a).Leads part' steps' duty') ∨
      (p.step a).Leads part steps duty ∧ ¬ duty.Does broker p a := by
  by_cases ha : a.OfGateway
  swap
  · -- the order manager does not touch the report
    obtain ⟨hdelivering, hreports, hfills, hqueue⟩ := p.pipeline_step ha
    right
    cases h with
    | generated hq hd hr hf =>
      refine ⟨.generated (hqueue hq) (hdelivering.trans hd) (hreports.trans hr)
        (hfills.trans_ne hf),
        fun hdoes => ha ?_⟩
      rw [hdoes]
      trivial
    | waiting hq hd hr =>
      refine ⟨.waiting (hqueue hq) (hdelivering.trans hd) (hreports.trans_ne hr),
        fun hdoes => ha ?_⟩
      rw [hdoes]
      trivial
    | delivering hq hd =>
      refine ⟨.delivering (hqueue hq) (hdelivering.trans_ne hd), fun hdoes => ha ?_⟩
      rw [hdoes]
      trivial
    | queued _ _ _ => exact absurd rfl hpart
  cases a with
  | resume => exact ha.elim
  | run action =>
    cases action with
    | poll poll =>
      obtain ⟨hqueue, hdelivering, hreports, hfills⟩ := simulateFills_pipeline p.toPaperTrading poll
      have hevents := congrArg (fun queue => queue.q.filterMap OMEvent.report) hqueue
      right
      cases h with
      | generated hq hd hr hf =>
        exact ⟨.generated (hevents.trans hq) (hdelivering.trans hd) (hreports.trans hr)
          ((hfills hf).trans_ne hf), by simp [FillDuty.Does]⟩
      | waiting hq hd hr =>
        exact ⟨.waiting (hevents.trans hq) (hdelivering.trans hd) (hreports.trans_ne hr),
          by simp [FillDuty.Does]⟩
      | delivering hq hd =>
        exact ⟨.delivering (hevents.trans hq) (hdelivering.trans_ne hd), by simp [FillDuty.Does]⟩
      | queued _ _ _ => exact absurd rfl hpart
    | enqueueReport =>
      obtain ⟨hqueue, hdelivering, hreports⟩ := enqueueReport_pipeline p.toPaperTrading
      have hevents := congrArg (fun queue => queue.q.filterMap OMEvent.report) hqueue
      cases h with
      | generated hq hd hr hf =>
        exact Or.inl ⟨2, 0, _, by omega,
          .waiting (hevents.trans hq) (hdelivering.trans hd) (hreports (Or.inr hf))⟩
      | waiting hq hd hr =>
        exact Or.inr ⟨.waiting (hevents.trans hq) (hdelivering.trans hd) (hreports (Or.inl hr)),
          by simp [FillDuty.Does]⟩
      | delivering hq hd =>
        exact Or.inr ⟨.delivering (hevents.trans hq) (hdelivering.trans_ne hd),
          by simp [FillDuty.Does]⟩
      | queued _ _ _ => exact absurd rfl hpart
    | take =>
      obtain ⟨hqueue, hfills, htaken, hidle⟩ := take_pipeline p.toPaperTrading
      have hevents := congrArg (fun queue => queue.q.filterMap OMEvent.report) hqueue
      cases h with
      | generated hq hd hr hf =>
        have hsame : p.step (.run .take) = p := self_of_eq (hidle hd hr)
        rw [hsame]
        exact Or.inr ⟨.generated hq hd hr hf, by simp [FillDuty.Does]⟩
      | waiting hq hd hr =>
        exact Or.inl ⟨1, 0, _, by omega, .delivering (hevents.trans hq) (htaken (Or.inr hr))⟩
      | delivering hq hd =>
        exact Or.inr ⟨.delivering (hevents.trans hq) (htaken (Or.inl hd)), by simp [FillDuty.Does]⟩
      | queued _ _ _ => exact absurd rfl hpart
    | deliver =>
      rcases deliver_cases p.toPaperTrading with
        ⟨hnone, hidle⟩ | ⟨report, -, hq', hhandler, hhandling⟩
      · have hsame : p.step (.run .deliver) = p := self_of_eq hidle
        rw [hsame]
        refine Or.inr ⟨h, ?_⟩
        cases h with
        | delivering hq hd => exact absurd hnone hd
        | queued _ _ _ => exact absurd rfl hpart
        | _ => simp [FillDuty.Does]
      · obtain ⟨steps, -, duty', hturn⟩ := p.exists_handlerTurn
        have hbefore : ∀ event ∈ p.queue.q, event.report = none := by
          cases h with
          | generated hq _ _ _ => exact List.filterMap_eq_nil_iff.mp hq
          | waiting hq _ _ => exact List.filterMap_eq_nil_iff.mp hq
          | delivering hq _ => exact List.filterMap_eq_nil_iff.mp hq
          | queued _ _ _ => exact absurd rfl hpart
        exact Or.inl ⟨0, _, _, Nat.pos_of_ne_zero hpart,
          .queued hq' hbefore (hturn.congr hhandling rfl hhandler)⟩
    | command command => exact ha.elim
    | bar bar => exact ha.elim
    | tick tick => exact ha.elim
    | pop env => exact ha.elim
    | call draw clockMs => exact ha.elim
    | finish => exact ha.elim

/-- Unless an event is popped, the queue of the order manager only grows. -/
lemma queue_step (p : PaperThreads) (a : ThreadAction)
    (hpop : ∀ env, a = .run (.pop env) → p.handling ≠ none) :
    ∃ more, (p.step a).queue.q = p.queue.q ++ more := by
  have hsame : (p.step a).queue.q = p.queue.q → ∃ more, (p.step a).queue.q = p.queue.q ++ more :=
    fun h => ⟨[], h.trans (List.append_nil _).symm⟩
  cases a with
  | resume =>
    rcases p.resume_cases with ⟨-, hresume⟩ | ⟨handler, -, hresume⟩
    · exact hsame (congrArg (fun p => p.queue.q) hresume)
    · exact hsame (congrArg (fun p => p.queue.q) hresume)
  | run action =>
    cases action with
    | poll poll =>
      exact hsame (congrArg EventQueue.q (simulateFills_pipeline p.toPaperTrading poll).1)
    | enqueueReport =>
      exact hsame (congrArg EventQueue.q (enqueueReport_pipeline p.toPaperTrading).1)
    | take => exact hsame (congrArg EventQueue.q (take_pipeline p.toPaperTrading).1)
    | finish => exact hsame (finish_pipeline p.toPaperTrading).2.2.2
    | deliver =>
      rcases deliver_cases p.toPaperTrading with ⟨-, hidle⟩ | ⟨report, -, hq, -, -⟩
      · exact hsame (congrArg (fun p => p.queue.q) hidle)
      · exact ⟨_, hq⟩
    | command command => exact ⟨_, EventQueue.q_enqueue p.queue command.event⟩
    | bar bar => exact ⟨_, EventQueue.q_enqueue p.queue (.bar bar)⟩
    | tick tick => exact ⟨_, EventQueue.q_enqueue p.queue (.tick tick)⟩
    | pop env =>
      exact hsame (congrArg (fun p => p.queue.q) (pop_of_handling (hpop env rfl) env))
    | call draw clockMs =>
      rcases p.call_cases draw clockMs with ⟨hcall, -⟩ | ⟨s, c, next, -, -, hcall⟩
      · exact hsame (congrArg (fun p => p.queue.q) hcall)
      · exact hsame (congrArg (fun p => p.queue.q) hcall)

/-- An idle dispatch thread takes the first event of its queue. -/
lemma pop_of_queue {p : PaperTrading} (hhandling : p.handling = none) {event : OMEvent}
    {tail : List OMEvent} (hq : p.queue.q = event :: tail) (env : Env) :
    (p.pop env).queue.q = tail ∧ p.inFlight = event.report.toList ++ (p.pop env).inFlight := by
  have hpop : p.queue.pop = some (event, { p.queue with q := tail }) :=
    EventQueue.pop_eq_some_iff.mpr ⟨tail, hq, rfl⟩
  rcases p.pop_cases env with hidle | ⟨event', tail', -, hq', -, -, htail, -, hflight⟩
  · have hsome : (p.pop env).handling = some event := by
      unfold PaperTrading.pop
      rw [hhandling, hpop]
    rw [hidle, hhandling] at hsome
    cases hsome
  · rw [hq] at hq'
    obtain ⟨rfl, rfl⟩ := List.cons.inj hq'
    exact ⟨htail, hflight⟩

/-- A report in the queue of the order manager is popped, goes on, or is where it was and its next
step was not taken. -/
lemma Leads.step_queue {steps : ℕ} {duty : FillDuty} (h : p.Leads 0 steps duty)
    (hregular : p.Regular initial) (a : ThreadAction) (broker : BrokerOrderId) :
    (∃ r, p.inFlight = r :: (p.step a).inFlight) ∨
      (∃ steps' duty', steps' < steps ∧ (p.step a).Leads 0 steps' duty') ∨
      (p.step a).Leads 0 steps duty ∧ ¬ duty.Does broker p a := by
  cases h with
  | @queued before after r steps duty hq hbefore hturn =>
    by_cases hpop : ∀ env, a = .run (.pop env) → p.handling ≠ none
    · right
      obtain ⟨more, hmore⟩ := p.queue_step a hpop
      have hq' : (p.step a).queue.q = before ++ .executionReport r :: (after ++ more) := by
        rw [hmore, hq, List.append_assoc, List.cons_append]
      rcases hturn.step hregular a hpop broker with ⟨steps', duty', hless, hturn'⟩ | ⟨hturn', hnot⟩
      · exact Or.inl ⟨_, _, by omega, .queued hq' hbefore hturn'⟩
      · exact Or.inr ⟨.queued hq' hbefore hturn', hnot⟩
    · simp only [not_forall, ne_eq, not_not, exists_prop] at hpop
      obtain ⟨env, rfl, hhandling⟩ := hpop
      cases before with
      | nil => exact Or.inl ⟨r, (pop_of_queue hhandling hq env).2⟩
      | cons event before =>
        have hq' : (p.step (.run (.pop env))).queue.q = before ++ .executionReport r :: after :=
          (pop_of_queue hhandling hq env).1
        obtain ⟨steps', hle, duty', hturn'⟩ := (p.step (.run (.pop env))).exists_handlerTurn
        refine Or.inr (Or.inl ⟨_, _, ?_, .queued hq' (fun other hother =>
          hbefore other (List.mem_cons_of_mem event hother)) hturn'⟩)
        rw [List.length_cons]
        omega

end PaperThreads

/-! ## The rank of an order -/

/-- The order is `FILLED` in the store, for its whole quantity, and is not mapped any more. -/
def PaperTrading.Filled (initial : SQLiteOrderStore) (broker : BrokerOrderId) (quantity : ℚ)
    (p : PaperTrading) : Prop :=
  ∃ l row, p.manager.orderStore.find l = some row ∧ initial.find l = none ∧
    row.brokerId = some broker ∧ row.order.quantity = quantity ∧ row.status = .filled ∧
    row.filledQuantity = quantity ∧ p.manager.idMapper.getBrokerId l = none

/-- An order is filled when all of it was generated and none of its reports is in flight. -/
lemma Mirrored.filled {initial : SQLiteOrderStore} {p : PaperTrading} {booked : Bookings}
    (h : Mirrored initial p booked) {broker : BrokerOrderId} {quantity : ℚ} (hpos : 0 < quantity)
    (hnone : p.gateway.pendingOrders.lookup broker = none)
    (hall : filledBy p.generated broker = quantity)
    (hflight : ∀ r ∈ p.inFlight, r.brokerOrderId ≠ broker) : p.Filled initial broker quantity := by
  have hbooked : booked broker ≠ none := by
    intro hunbooked
    have hzero : filledBy p.generated broker = 0 := filledBy_eq_zero fun r hr heq =>
      h.accounted.generated_booked r hr (heq ▸ hunbooked)
    linarith
  obtain ⟨order, horder⟩ := Option.ne_none_iff_exists'.mp hbooked
  have hquantity := h.accounted.removed_full broker order horder hnone
  have hbalanced := h.accounted.balanced broker order horder
  rw [filledBy_eq_zero hflight, add_zero] at hbalanced
  obtain ⟨l, row, hrow, hnew, hcarried⟩ := h.recorded.row_of_booked broker hbooked
  have hlocal := SQLiteOrderStore.localId_of_find hrow
  cases h.recorded.records l row hrow hnew with
  | refused hunsent _ _ =>
    rw [hunsent] at hcarried
    cases hcarried
  | accepted hbroker hrowBooked _ hfull =>
    rw [hcarried] at hbroker
    obtain rfl := Option.some.inj hbroker
    rw [horder] at hrowBooked
    obtain rfl := Option.some.inj hrowBooked
    dsimp only at hquantity hbalanced
    obtain ⟨hunmapped, hstatus⟩ := hfull (by linarith)
    exact ⟨l, row, hrow, hnew, hcarried, by linarith, hstatus, by linarith, hlocal ▸ hunmapped⟩

namespace PaperThreads

variable {p : PaperThreads} {initial : SQLiteOrderStore}

/-- What is left to be done until the order is filled, and what comes next: shares that the gateway
may still fill, reports in flight up to the last one of the order, and the way of the first one. -/
inductive Unfilled (broker : BrokerOrderId) (quantity : ℚ) (p : PaperThreads) :
    ℕ ×ₗ ℕ ×ₗ ℕ ×ₗ ℕ → FillDuty → Prop
  | pending {sim : SimulatedOrder} (hsim : p.gateway.pendingOrders.lookup broker = some sim)
      (hquantity : sim.order.quantity = quantity) :
      Unfilled broker quantity p
        (toLex (⌈quantity - sim.cumulativeFilled⌉₊, toLex (0, toLex (0, 0)))) .poll
  | inFlight {reports part steps : ℕ} {duty : FillDuty} (hpos : 0 < quantity)
      (hnone : p.gateway.pendingOrders.lookup broker = none)
      (hall : filledBy p.generated broker = quantity)
      (hsome : ∃ r ∈ p.inFlight, r.brokerOrderId = broker)
      (hlast : ∀ r ∈ p.inFlight.drop reports, r.brokerOrderId ≠ broker)
      (hleads : p.Leads part steps duty) :
      Unfilled broker quantity p (toLex (0, toLex (reports, toLex (part, steps)))) duty

/-- The reports that a step generates are those of a poll, and they are in flight behind the others;
or the first report is popped. -/
lemma reports_step (hregular : p.Regular initial) (a : ThreadAction) :
    ∃ new, (p.step a).generated = p.generated ++ new ∧
      (∀ r ∈ new, p.gateway.pendingOrders.lookup r.brokerOrderId ≠ none) ∧
      ((p.step a).inFlight = p.inFlight ++ new ∨
        new = [] ∧ (p.step a).answered = none ∧ ∃ r, p.inFlight = r :: (p.step a).inFlight) := by
  have hsame : (p.step a).generated = p.generated → (p.step a).inFlight = p.inFlight →
      ∃ new, (p.step a).generated = p.generated ++ new ∧
        (∀ r ∈ new, p.gateway.pendingOrders.lookup r.brokerOrderId ≠ none) ∧
        ((p.step a).inFlight = p.inFlight ++ new ∨
          new = [] ∧ (p.step a).answered = none ∧ ∃ r, p.inFlight = r :: (p.step a).inFlight) :=
    fun hgenerated hflight => ⟨[], by rw [hgenerated, List.append_nil],
      fun r hr => absurd hr List.not_mem_nil, Or.inl (by rw [hflight, List.append_nil])⟩
  have hmoves : ∀ action : PaperAction, action.Moves →
      (p.toPaperTrading.step action).generated = p.generated ∧
        (p.toPaperTrading.step action).inFlight = p.inFlight := by
    intro action haction
    have hmoved := p.toPaperTrading.moved_step haction
    exact ⟨hmoved.generated_eq, hmoved.inFlight_eq⟩
  cases a with
  | resume =>
    rcases p.resume_cases with ⟨-, hresume⟩ | ⟨handler, -, hresume⟩
    · exact hsame (congrArg (fun q => q.generated) hresume) (congrArg (fun q => q.inFlight) hresume)
    · exact hsame (congrArg (fun q => q.generated) hresume) (congrArg (fun q => q.inFlight) hresume)
  | run action =>
    cases action with
    | poll poll =>
      rcases p.toPaperTrading.simulateFills_cases poll with
        hidle | ⟨hnodup, -, -, -, hflight, hgenerated⟩
      · exact hsame (congrArg PaperTrading.generated hidle) (congrArg PaperTrading.inFlight hidle)
      · obtain ⟨hreports, -, -⟩ := p.gateway.simulateFills_spec poll hnodup fun b sim hsim =>
          (hregular.pending_open b sim hsim).1
        exact ⟨_, hgenerated, fun r hr => (hreports r hr).2, Or.inl hflight⟩
    | pop env =>
      rcases p.toPaperTrading.pop_cases env with
        hidle | ⟨event, tail, hhandling, -, -, -, -, hgenerated, hflight⟩
      · exact hsame (congrArg PaperTrading.generated hidle) (congrArg PaperTrading.inFlight hidle)
      · cases hreport : event.report with
        | none =>
          rw [hreport] at hflight
          exact hsame hgenerated hflight.symm
        | some r =>
          rw [hreport] at hflight
          exact ⟨[], hgenerated.trans (List.append_nil _).symm,
            fun r hr => absurd hr List.not_mem_nil,
            Or.inr ⟨rfl, hregular.staged.answered_of_idle hhandling, r, hflight⟩⟩
    | call draw clockMs =>
      rcases p.call_cases draw clockMs with ⟨hcall, -⟩ | ⟨s, c, next, -, -, hcall⟩
      · exact hsame (congrArg (fun q => q.generated) hcall) (congrArg (fun q => q.inFlight) hcall)
      · exact hsame (congrArg (fun q => q.generated) hcall) (congrArg (fun q => q.inFlight) hcall)
    | enqueueReport =>
      exact hsame (hmoves .enqueueReport trivial).1 (hmoves .enqueueReport trivial).2
    | take => exact hsame (hmoves .take trivial).1 (hmoves .take trivial).2
    | deliver => exact hsame (hmoves .deliver trivial).1 (hmoves .deliver trivial).2
    | finish => exact hsame (hmoves .finish trivial).1 (hmoves .finish trivial).2
    | command command =>
      exact hsame (hmoves (.command command) trivial).1 (hmoves (.command command) trivial).2
    | bar bar => exact hsame (hmoves (.bar bar) trivial).1 (hmoves (.bar bar) trivial).2
    | tick tick => exact hsame (hmoves (.tick tick) trivial).1 (hmoves (.tick tick) trivial).2

/-- An order that is pending after a step was pending before, or has just been accepted. -/
lemma pending_step (hregular : p.Regular initial) (a : ThreadAction) {broker : BrokerOrderId}
    {sim : SimulatedOrder} (hsim : (p.step a).gateway.pendingOrders.lookup broker = some sim) :
    p.gateway.pendingOrders.lookup broker ≠ none ∨ sim.cumulativeFilled = 0 := by
  have hsame : (p.step a).gateway = p.gateway →
      p.gateway.pendingOrders.lookup broker ≠ none ∨ sim.cumulativeFilled = 0 := by
    intro hgateway
    rw [hgateway] at hsim
    exact Or.inl (by simp [hsim])
  cases a with
  | resume =>
    rcases p.resume_cases with ⟨-, hresume⟩ | ⟨handler, -, hresume⟩
    · exact hsame (congrArg (fun q => q.gateway) hresume)
    · exact hsame (congrArg (fun q => q.gateway) hresume)
  | run action =>
    have hmoves : action.Moves → (p.toPaperTrading.step action).gateway = p.gateway :=
      fun haction => (p.toPaperTrading.moved_step haction).gateway_eq
    cases action with
    | poll poll =>
      rcases p.toPaperTrading.simulateFills_cases poll with hidle | ⟨hnodup, hgateway, -, -, -, -⟩
      · exact hsame (congrArg PaperTrading.gateway hidle)
      · have hsim' : (p.gateway.simulateFills poll).1.pendingOrders.lookup broker = some sim := by
          rw [← hgateway]
          exact hsim
        obtain ⟨-, -, hkept⟩ := p.gateway.simulateFills_spec poll hnodup fun b sim hsim =>
          (hregular.pending_open b sim hsim).1
        obtain ⟨sim', hsim', -⟩ := hkept broker sim hsim'
        exact Or.inl (by simp [hsim'])
    | pop env =>
      rcases p.toPaperTrading.pop_cases env with hidle | ⟨event, tail, -, -, -, hgateway, -, -, -⟩
      · exact hsame (congrArg PaperTrading.gateway hidle)
      · exact hsame hgateway
    | call draw clockMs =>
      rcases p.call_cases draw clockMs with ⟨hcall, -⟩ | ⟨s, c, next, hanswered, hhandler, hcall⟩
      · exact hsame (congrArg (fun q => q.gateway) hcall)
      · obtain ⟨⟨order, rfl⟩, -⟩ := hregular.submits_of_call hanswered hhandler
        rw [show p.step (.run (.call draw clockMs)) = _ from hcall] at hsim
        rcases PaperGateway.lookup_submitOrder hsim with hold | ⟨-, hzero⟩
        · exact Or.inl (by simp [hold])
        · exact Or.inr hzero
    | enqueueReport => exact hsame (hmoves trivial)
    | take => exact hsame (hmoves trivial)
    | deliver => exact hsame (hmoves trivial)
    | finish => exact hsame (hmoves trivial)
    | command command => exact hsame (hmoves trivial)
    | bar bar => exact hsame (hmoves trivial)
    | tick tick => exact hsame (hmoves trivial)

/-- A report that is not popped goes on, or is where it was and its next step was not taken. -/
lemma Leads.step {part steps : ℕ} {duty : FillDuty} (h : p.Leads part steps duty)
    (hregular : p.Regular initial) (a : ThreadAction) (broker : BrokerOrderId) :
    (∃ r, p.inFlight = r :: (p.step a).inFlight) ∨
      (∃ part' steps' duty', toLex (part', steps') < toLex (part, steps) ∧
        (p.step a).Leads part' steps' duty') ∨
      (p.step a).Leads part steps duty ∧ ¬ duty.Does broker p a := by
  by_cases hpart : part = 0
  · subst hpart
    refine (h.step_queue hregular a broker).imp_right (Or.imp_left ?_)
    rintro ⟨steps', duty', hless, h'⟩
    exact ⟨0, steps', duty', Prod.Lex.toLex_lt_toLex.mpr (Or.inr ⟨rfl, hless⟩), h'⟩
  · refine Or.inr ((h.step_gateway hpart a broker).imp_left ?_)
    rintro ⟨part', steps', duty', hless, h'⟩
    exact ⟨part', steps', duty', Prod.Lex.toLex_lt_toLex.mpr (Or.inl hless), h'⟩

/-- A poll that does its duty fills one share of the order at least, or all that remains. -/
lemma le_filledBy_of_does (hregular : p.Regular initial) {a : ThreadAction} {broker : BrokerOrderId}
    {sim : SimulatedOrder} (hsim : p.gateway.pendingOrders.lookup broker = some sim)
    {new : List V1.ExecutionReport} (hnew : (p.step a).generated = p.generated ++ new)
    (hdoes : FillDuty.poll.Does broker p a) :
    min 1 (sim.order.quantity - sim.cumulativeFilled) ≤ filledBy new broker := by
  obtain ⟨poll, rfl, hfills, hperm, hdraw⟩ := hdoes
  have hgenerated : (p.step (.run (.poll poll))).generated =
      p.generated ++ (p.gateway.simulateFills poll).2 := by
    change (p.toPaperTrading.simulateFills poll).generated = _
    unfold PaperTrading.simulateFills
    rw [if_pos ⟨hfills, hperm⟩]
  have hvisit : broker ∈ poll.visit := by
    rw [hperm.mem_iff, ← AList.mem_keys]
    exact AList.lookup_isSome.mp (by simp [hsim])
  rw [List.append_cancel_left (hnew.symm.trans hgenerated)]
  exact p.gateway.le_filledBy_simulateFills poll
    (hperm.nodup_iff.mpr p.gateway.pendingOrders.keys_nodup)
    (fun b sim hsim => (hregular.pending_open b sim hsim).1) hsim hvisit
    (hregular.market_pending broker sim hsim).not_limit hdraw

namespace Unfilled

variable {broker : BrokerOrderId} {quantity : ℚ} {a : ThreadAction}

/-- A step while the order is pending. -/
lemma step_pending (hregular : p.Regular initial) (hok : p.StoreSucceeds a) {sim : SimulatedOrder}
    (hsim : p.gateway.pendingOrders.lookup broker = some sim) :
    (∃ v' duty', v' < toLex (⌈sim.order.quantity - sim.cumulativeFilled⌉₊,
      toLex (0, toLex (0, 0))) ∧
        (p.step a).Unfilled broker sim.order.quantity v' duty') ∨
      (p.step a).Unfilled broker sim.order.quantity
        (toLex (⌈sim.order.quantity - sim.cumulativeFilled⌉₊, toLex (0, toLex (0, 0)))) .poll ∧
        ¬ FillDuty.poll.Does broker p a := by
  obtain ⟨hopen, hfilled⟩ := hregular.pending_open broker sim hsim
  obtain ⟨new, hgenerated, -, hflight⟩ := reports_step hregular a
  have hwithin := p.fillsWithin_step initial a ⟨hregular.staged, hregular.mirrored⟩ hok
  have hnew : p.toPaperTrading.newReports (p.step a).toPaperTrading = new := by
    unfold PaperTrading.newReports
    rw [hgenerated, List.drop_left]
  have hlookup := hwithin.leaves_iff broker sim hsim
  have hle := hwithin.cumulative_le broker sim hsim
  have hnonneg : 0 ≤ filledBy new broker := by
    refine filledBy_nonneg (fun r hr => ?_) broker
    obtain ⟨-, -, hpos, -⟩ := hwithin.report_le r (hnew ▸ hr)
    exact hpos
  rw [hnew] at hlookup hle
  by_cases hall : sim.cumulativeFilled + filledBy new broker = sim.order.quantity
  · -- the order leaves the gateway, and its last report is in flight
    rw [if_pos hall] at hlookup
    have hmem : ∃ r ∈ new, r.brokerOrderId = broker := by
      by_contra hother
      have hzero : filledBy new broker = 0 := filledBy_eq_zero fun r hr heq => hother ⟨r, hr, heq⟩
      linarith
    obtain ⟨r, hr, hbroker⟩ := hmem
    have hflight' : (p.step a).inFlight = p.inFlight ++ new := by
      refine hflight.resolve_right ?_
      rintro ⟨rfl, -⟩
      exact List.not_mem_nil hr
    have hr' : r ∈ (p.step a).inFlight := by
      rw [hflight']
      exact List.mem_append_right _ hr
    obtain ⟨part, steps, duty, hleads⟩ := exists_leads (List.ne_nil_of_mem hr')
    have hlast : ∀ r ∈ (p.step a).inFlight.drop (p.step a).inFlight.length,
        r.brokerOrderId ≠ broker := by
      rw [List.drop_length]
      exact fun _ hnil => absurd hnil List.not_mem_nil
    refine Or.inl ⟨_, duty, ?_, .inFlight ?_ hlookup ?_ ⟨r, hr', hbroker⟩ hlast hleads⟩
    · exact Prod.Lex.toLex_lt_toLex.mpr (Or.inl (Nat.ceil_pos.mpr (sub_pos.mpr hopen)))
    · exact (hregular.market_pending broker sim hsim).quantity_pos
    · rw [hgenerated, filledBy_append, ← hfilled, hall]
  · rw [if_neg hall] at hlookup
    have hstill : sim.cumulativeFilled + filledBy new broker < sim.order.quantity :=
      lt_of_le_of_ne hle hall
    have hrank : (p.step a).Unfilled broker sim.order.quantity
        (toLex (⌈sim.order.quantity - (sim.cumulativeFilled + filledBy new broker)⌉₊,
          toLex (0, toLex (0, 0)))) .poll := .pending hlookup rfl
    have hceil : ⌈sim.order.quantity - (sim.cumulativeFilled + filledBy new broker)⌉₊ ≤
        ⌈sim.order.quantity - sim.cumulativeFilled⌉₊ := Nat.ceil_le_ceil (by linarith)
    by_cases hdoes : FillDuty.poll.Does broker p a
    · -- one share at least is filled, as something remains
      have hone := le_filledBy_of_does hregular hsim hgenerated hdoes
      have hshare : 1 ≤ filledBy new broker := by
        rcases min_le_iff.mp hone with h | h
        · exact h
        · linarith
      refine Or.inl ⟨_, _, Prod.Lex.toLex_lt_toLex.mpr (Or.inl ?_), hrank⟩
      have hpred : ⌈sim.order.quantity - (sim.cumulativeFilled + filledBy new broker)⌉₊ + 1 ≤
          ⌈sim.order.quantity - sim.cumulativeFilled⌉₊ := by
        rw [← Nat.ceil_add_one (by linarith)]
        exact Nat.ceil_le_ceil (by linarith)
      omega
    · rcases hceil.lt_or_eq with hlt | heq
      · exact Or.inl ⟨_, _, Prod.Lex.toLex_lt_toLex.mpr (Or.inl hlt), hrank⟩
      · rw [heq] at hrank
        exact Or.inr ⟨hrank, hdoes⟩

/-- A step while the last reports of the order are in flight. -/
lemma step_inFlight (hregular : p.Regular initial) (hregular' : (p.step a).Regular initial)
    {reports part steps : ℕ} {duty : FillDuty} (hpos : 0 < quantity)
    (hnone : p.gateway.pendingOrders.lookup broker = none)
    (hall : filledBy p.generated broker = quantity)
    (hsome : ∃ r ∈ p.inFlight, r.brokerOrderId = broker)
    (hlast : ∀ r ∈ p.inFlight.drop reports, r.brokerOrderId ≠ broker)
    (hleads : p.Leads part steps duty) :
    (p.step a).toPaperTrading.Filled initial broker quantity ∨
      (∃ v' duty', v' < toLex (0, toLex (reports, toLex (part, steps))) ∧
        (p.step a).Unfilled broker quantity v' duty') ∨
      (p.step a).Unfilled broker quantity (toLex (0, toLex (reports, toLex (part, steps)))) duty ∧
        ¬ duty.Does broker p a := by
  obtain ⟨new, hgenerated, hnew, hflight⟩ := reports_step hregular a
  have hother : ∀ r ∈ new, r.brokerOrderId ≠ broker := by
    rintro r hr rfl
    exact hnew r hr hnone
  have hall' : filledBy (p.step a).generated broker = quantity := by
    rw [hgenerated, filledBy_append, filledBy_eq_zero hother, add_zero, hall]
  have hnone' : (p.step a).gateway.pendingOrders.lookup broker = none := by
    by_contra hpending
    obtain ⟨sim, hsim⟩ := Option.ne_none_iff_exists'.mp hpending
    rcases pending_step hregular a hsim with hold | hzero
    · exact hold hnone
    · -- an order that has just been accepted has no reports
      have hfilled := (hregular'.pending_open broker sim hsim).2
      rw [hzero, hall'] at hfilled
      linarith
  obtain ⟨r, hr, hbroker⟩ := hsome
  rcases hflight with hflight | ⟨rfl, hanswered, next, hflight⟩
  · right
    have hr' : r ∈ (p.step a).inFlight := by
      rw [hflight]
      exact List.mem_append_left _ hr
    have hlast' : ∀ r' ∈ (p.step a).inFlight.drop reports, r'.brokerOrderId ≠ broker := by
      intro r' hr'
      rw [hflight, List.drop_append] at hr'
      rcases List.mem_append.mp hr' with hold | hmore
      · exact hlast r' hold
      · exact hother r' (List.mem_of_mem_drop hmore)
    rcases hleads.step hregular a broker with
      ⟨next, hpopped⟩ | ⟨part', steps', duty', hless, hleads'⟩ | ⟨hleads', hnot⟩
    · -- a report that was popped is not in flight any more
      have hlength := congrArg List.length hpopped
      rw [hflight, List.length_cons, List.length_append] at hlength
      omega
    · refine Or.inl ⟨_, duty', ?_, .inFlight hpos hnone' hall' ⟨r, hr', hbroker⟩ hlast' hleads'⟩
      exact Prod.Lex.toLex_lt_toLex.mpr
        (Or.inr ⟨rfl, Prod.Lex.toLex_lt_toLex.mpr (Or.inr ⟨rfl, hless⟩)⟩)
    · exact Or.inr ⟨.inFlight hpos hnone' hall' ⟨r, hr', hbroker⟩ hlast' hleads', hnot⟩
  · -- the first report is handled
    by_cases hmore : ∃ r ∈ (p.step a).inFlight, r.brokerOrderId = broker
    · right
      left
      cases reports with
      | zero => exact absurd hbroker (hlast r hr)
      | succ reports =>
        rw [hflight, List.drop_succ_cons] at hlast
        obtain ⟨r', hr', hbroker'⟩ := hmore
        obtain ⟨part', steps', duty', hleads'⟩ := exists_leads (List.ne_nil_of_mem hr')
        refine ⟨_, duty', ?_, .inFlight hpos hnone' hall' ⟨r', hr', hbroker'⟩ hlast hleads'⟩
        exact Prod.Lex.toLex_lt_toLex.mpr
          (Or.inr ⟨rfl, Prod.Lex.toLex_lt_toLex.mpr (Or.inl (Nat.lt_succ_self reports))⟩)
    · left
      obtain ⟨booked, hmirrored⟩ := hregular'.mirrored
      rw [current_of_answered_none hanswered] at hmirrored
      exact hmirrored.filled hpos hnone' hall' fun r hr hbroker => hmore ⟨r, hr, hbroker⟩

/-- **Step lemma.** -/
lemma step (hregular : p.Regular initial) (hregular' : (p.step a).Regular initial)
    (hok : p.StoreSucceeds a) {v : ℕ ×ₗ ℕ ×ₗ ℕ ×ₗ ℕ} {duty : FillDuty}
    (h : p.Unfilled broker quantity v duty) :
    (p.step a).toPaperTrading.Filled initial broker quantity ∨
      (∃ v' duty', v' < v ∧ (p.step a).Unfilled broker quantity v' duty') ∨
      (p.step a).Unfilled broker quantity v duty ∧ ¬ duty.Does broker p a := by
  cases h with
  | pending hsim hquantity =>
    subst hquantity
    exact Or.inr (step_pending hregular hok hsim)
  | inFlight hpos hnone hall hsome hlast hleads =>
    exact step_inFlight hregular hregular' hpos hnone hall hsome hlast hleads

end Unfilled

/-! ## Runs -/

/-- Every thread takes its steps again and again, and again and again the simulation thread draws a
fill of the order. -/
def Fair (p : PaperThreads) (broker : BrokerOrderId) (schedule : ℕ → ThreadAction) : Prop :=
  ∀ (duty : FillDuty) (n : ℕ),
    ∃ m, n ≤ m ∧ duty.Does broker (Fairness.state step p schedule m) (schedule m)

/-- **Every order that the paper gateway accepts is filled**, if orders are submitted only, the
calls on the store succeed and the threads are fair to the order: from any moment at which it is
pending there is a later one at which its row is `FILLED` for its whole quantity. -/
theorem paper_orders_filled (accountId : String) (store : SQLiteOrderStore)
    (riskManager : RiskManager) (config : PaperGatewayConfig) (schedule : ℕ → ThreadAction)
    (hsubmits : ∀ n, (schedule n).Submits)
    (hstore : ∀ n, (Fairness.state step (.start accountId store riskManager config) schedule
      n).StoreSucceeds (schedule n))
    {broker : BrokerOrderId}
    (hfair : (PaperThreads.start accountId store riskManager config).Fair broker schedule) {n : ℕ}
    {sim : SimulatedOrder}
    (hsim : (Fairness.state step (.start accountId store riskManager config) schedule
      n).gateway.pendingOrders.lookup broker = some sim) :
    ∃ m, n ≤ m ∧ (Fairness.state step (.start accountId store riskManager config) schedule
      m).toPaperTrading.Filled store broker sim.order.quantity := by
  have hregular : ∀ j, (Fairness.state step (.start accountId store riskManager config) schedule
      j).Regular store := by
    intro j
    induction j with
    | zero => exact .start accountId store riskManager config
    | succ j ih => exact ih.step (hsubmits j) (hstore j)
  refine Fairness.reached_of_ranked
    (fun v duty j => (Fairness.state step (.start accountId store riskManager config)
      schedule j).Unfilled broker sim.order.quantity v duty)
    (fun v duty j h => ?_) hfair (.pending hsim rfl)
  exact h.step (hregular j) (hregular (j + 1)) (hstore j)

/-- Nothing is left to be done. -/
structure AtRest (p : PaperThreads) : Prop where
  queue : p.queue.q = []
  handling : p.handling = none
  delivering : p.delivering = none
  reports : p.reportsQueue = []
  fills : p.generatedFills = []
  pending : p.gateway.pendingOrders.entries = []
  fillable : 0 ≤ p.gateway.config.fillProbability

/-- No order is pending. -/
lemma AtRest.keys_eq (h : p.AtRest) : p.gateway.pendingOrders.keys = [] := by
  unfold AList.keys
  rw [h.pending]
  rfl

/-- The threads that find nothing to do leave the order manager alone. -/
lemma AtRest.step (h : p.AtRest) (hstaged : p.Staged) {a : ThreadAction}
    (ha : a.AddsNothing) :
    (p.step a).AtRest ∧ (p.step a).current.manager = p.current.manager := by
  have hanswered := hstaged.answered_of_idle h.handling
  have hsame : p.step a = p → (p.step a).AtRest ∧ (p.step a).current.manager =
    p.current.manager := by
    intro heq
    rw [heq]
    exact ⟨h, rfl⟩
  have hkept : ∀ q : PaperTrading, q = p.toPaperTrading →
      ({ p with toPaperTrading := q } : PaperThreads) = p := by
    rintro q rfl
    rfl
  cases a with
  | resume =>
    refine hsame ?_
    unfold PaperThreads.step resume
    rw [hanswered]
  | run action =>
    cases action with
    | poll poll =>
      by_cases hpoll : p.generatedFills = [] ∧ poll.visit.Perm p.gateway.pendingOrders.keys
      · have hvisit : poll.visit = [] := (h.keys_eq ▸ hpoll.2).eq_nil
        have hstep : p.step (.run (.poll poll)) =
            { p with
              gateway := p.gateway.advancePrices poll.shock
              generatedFills := []
              generated := p.generated ++ [] } := by
          change
            ({ p with toPaperTrading := p.toPaperTrading.simulateFills poll } : PaperThreads) = _
          unfold PaperTrading.simulateFills PaperGateway.simulateFills
          rw [if_pos hpoll, hvisit]
          rfl
        rw [hstep]
        exact ⟨⟨h.queue, h.handling, h.delivering, h.reports, rfl, h.pending, h.fillable⟩, rfl⟩
      · have hidle : p.toPaperTrading.simulateFills poll = p.toPaperTrading := by
          unfold PaperTrading.simulateFills
          rw [if_neg hpoll]
        exact hsame (hkept _ hidle)
    | pop env =>
      rcases p.toPaperTrading.pop_cases env with hidle | ⟨event, tail, -, hq, -⟩
      · exact hsame (hkept _ hidle)
      · rw [h.queue] at hq
        cases hq
    | call draw clockMs =>
      rcases p.call_cases draw clockMs with ⟨hcall, -⟩ | ⟨s, c, next, -, hhandler, -⟩
      · exact hsame hcall
      · exact absurd h.handling (hstaged.handling_of_calling ⟨s, c, next, hhandler⟩)
    | enqueueReport =>
      have hidle : p.toPaperTrading.enqueueReport = p.toPaperTrading := by
        unfold PaperTrading.enqueueReport
        rw [h.fills]
      exact hsame (hkept _ hidle)
    | take => exact hsame (hkept _ ((take_pipeline p.toPaperTrading).2.2.2 h.delivering h.reports))
    | deliver =>
      rcases deliver_cases p.toPaperTrading with ⟨-, hidle⟩ | ⟨report, hsome, -⟩
      · exact hsame (hkept _ hidle)
      · rw [h.delivering] at hsome
        cases hsome
    | finish => exact hsame (hkept _ (finish_of_idle h.handling))
    | command command => exact ha.elim
    | bar bar => exact ha.elim
    | tick tick => exact ha.elim

/-- The steps that are taken over and over when nothing is left to be done. -/
def restSteps : List ThreadAction :=
  [.run (.poll ⟨[], fun _ => 0, fun _ => ⟨0, 0, 0, ""⟩⟩), .run .enqueueReport, .run .take,
    .run .deliver, .run (.pop .quiet), .run (.call 1 0), .resume, .run .finish]

/-- The first order, of 10 shares, is submitted, and polls fill 5 and 5 of it while its handler
still waits; then the threads go on for ever. -/
def earlyFillThenRest (n : ℕ) : ThreadAction :=
  earlyFill[n]?.getD (Fairness.repeating restSteps (by decide) n)

/-- The paper gateway and the order manager of the run. -/
abbrev earlyFillState (n : ℕ) : PaperThreads :=
  Fairness.state step (.start "ACC" .empty ⟨{}⟩ {}) earlyFillThenRest n

/-- The steps of the second part bring no event. -/
lemma addsNothing_of_mem {a : ThreadAction} (ha : a ∈ restSteps) : a.AddsNothing := by
  unfold restSteps at ha
  simp only [List.mem_cons, List.not_mem_nil, or_false] at ha
  rcases ha with rfl | rfl | rfl | rfl | rfl | rfl | rfl | rfl
  all_goals trivial

/-- After the first part the steps of the second part are taken. -/
lemma earlyFillThenRest_mem {n : ℕ} (hn : 17 ≤ n) : earlyFillThenRest n ∈ restSteps :=
  Fairness.thenRepeating_mem restSteps (by decide) (show earlyFill.length ≤ n from hn)

/-- Calls are made, and answered, while an event is handled. -/
lemma earlyFillState_staged (n : ℕ) : (earlyFillState n).Staged := by
  induction n with
  | zero => exact .start "ACC" .empty ⟨{}⟩ {}
  | succ n ih => exact ih.step _

/-- After the first part nothing is left to be done. -/
lemma earlyFillState_atRest {n : ℕ} (hn : 17 ≤ n) : (earlyFillState n).AtRest := by
  induction n, hn using Nat.le_induction with
  | base =>
    exact ⟨by decide +kernel, by decide +kernel, by decide +kernel, by decide +kernel,
      by decide +kernel, by decide +kernel, by decide +kernel⟩
  | succ n hn ih =>
    exact (ih.step (earlyFillState_staged n) (addsNothing_of_mem (earlyFillThenRest_mem hn))).1

/-- Every call on the store succeeds. -/
lemma earlyFillState_storeSucceeds (n : ℕ) :
    (earlyFillState n).StoreSucceeds (earlyFillThenRest n) := by
  by_cases hn : 17 ≤ n
  · exact congrArg OrderManager.storeFailures ((earlyFillState_atRest hn).step
      (earlyFillState_staged n) (addsNothing_of_mem (earlyFillThenRest_mem hn))).2
  · have hfirst : ∀ n < 17, (earlyFillState n).StoreSucceeds (earlyFillThenRest n) := by
      decide +kernel
    exact hfirst n (not_le.mp hn)

/-- Orders of a positive quantity are submitted. -/
lemma earlyFillThenRest_submits (n : ℕ) : (earlyFillThenRest n).Submits := by
  by_cases hn : 17 ≤ n
  · have hall : ∀ a ∈ restSteps, a.Submits := by
      decide
    exact hall _ (earlyFillThenRest_mem hn)
  · have hfirst : ∀ n < 17, (earlyFillThenRest n).Submits := by
      decide
    exact hfirst n (not_le.mp hn)

/-- Each step of the second part is taken again and again. -/
lemma exists_rest {a : ThreadAction} (ha : a ∈ restSteps) (n : ℕ) :
    ∃ m, n ≤ m ∧ 17 ≤ m ∧ earlyFillThenRest m = a := by
  have hrecurs : Fairness.Recurs (· = a) earlyFillThenRest :=
    Fairness.recurs_thenRepeating (by decide) ha rfl
  obtain ⟨m, hm, hstep⟩ := hrecurs (n + 17)
  exact ⟨m, by omega, by omega, hstep⟩

/-- Every thread takes its steps again and again. -/
lemma fair_earlyFillThenRest (broker : BrokerOrderId) :
    (PaperThreads.start "ACC" .empty ⟨{}⟩ {}).Fair broker earlyFillThenRest := by
  intro duty n
  cases duty with
  | poll =>
    obtain ⟨m, hm, hrest, hstep⟩ := exists_rest
      (a := .run (.poll ⟨[], fun _ => 0, fun _ => ⟨0, 0, 0, ""⟩⟩)) (by simp [restSteps]) n
    have h := earlyFillState_atRest hrest
    exact ⟨m, hm, _, hstep, h.fills, h.keys_eq ▸ List.Perm.nil, h.fillable⟩
  | enqueueReport =>
    obtain ⟨m, hm, -, hstep⟩ := exists_rest (a := .run .enqueueReport) (by simp [restSteps]) n
    exact ⟨m, hm, hstep⟩
  | take =>
    obtain ⟨m, hm, -, hstep⟩ := exists_rest (a := .run .take) (by simp [restSteps]) n
    exact ⟨m, hm, hstep⟩
  | deliver =>
    obtain ⟨m, hm, -, hstep⟩ := exists_rest (a := .run .deliver) (by simp [restSteps]) n
    exact ⟨m, hm, hstep⟩
  | pop =>
    obtain ⟨m, hm, -, hstep⟩ := exists_rest (a := .run (.pop .quiet)) (by simp [restSteps]) n
    exact ⟨m, hm, _, hstep⟩
  | call =>
    obtain ⟨m, hm, -, hstep⟩ := exists_rest (a := .run (.call 1 0)) (by simp [restSteps]) n
    exact ⟨m, hm, _, _, hstep⟩
  | resume =>
    obtain ⟨m, hm, -, hstep⟩ := exists_rest (a := .resume) (by simp [restSteps]) n
    exact ⟨m, hm, hstep⟩
  | finish =>
    obtain ⟨m, hm, -, hstep⟩ := exists_rest (a := .run .finish) (by simp [restSteps]) n
    exact ⟨m, hm, hstep⟩

/-- The order that is filled early is booked in the end. -/
theorem paper_orders_filled_early :
    ∃ m, 3 ≤ m ∧ (earlyFillState m).toPaperTrading.Filled .empty "BROKER_0_000000" 10 := by
  have hpending : ((earlyFillState 3).gateway.pendingOrders.lookup "BROKER_0_000000").map
      (fun sim => sim.order.quantity) = some 10 := by
    decide +kernel
  obtain ⟨sim, hsim, hquantity⟩ := Option.map_eq_some_iff.mp hpending
  rw [← hquantity]
  exact paper_orders_filled "ACC" .empty ⟨{}⟩ {} earlyFillThenRest earlyFillThenRest_submits
    earlyFillState_storeSucceeds (fair_earlyFillThenRest _) hsim

end PaperThreads

end Quarcc
