import QuarccEngine.Gateways.PaperTrading
import QuarccEngine.OrderManager.Tracking

/-!
# No executed quantity is lost

A fill that a poll has generated is in flight until the order manager handles it: it waits in the
simulation thread, in the queue of the gateway, in its dispatcher or in the queue of the order
manager.  The invariant `Conserved` says that what is booked and what is in flight together are what
was generated, and that every order which is pending at the gateway or has fills in flight is live,
so that its fills will be booked.  A cancel that overtakes a fill breaks it; the main result says
that nothing else does.
-/

namespace Quarcc

/-! ## Reports in flight -/

/-- The signed quantity that the reports fill in a symbol. -/
def signedIn (reports : List V1.ExecutionReport) (symbol : String) : ℚ :=
  (reports.map fun r => if r.symbol = symbol then signedFill r.side r.filledQuantity else 0).sum

@[simp] lemma signedIn_nil (symbol : String) : signedIn [] symbol = 0 := rfl

@[simp] lemma signedIn_cons (r : V1.ExecutionReport) (reports : List V1.ExecutionReport)
    (symbol : String) :
    signedIn (r :: reports) symbol =
      (if r.symbol = symbol then signedFill r.side r.filledQuantity else 0) +
        signedIn reports symbol := by
  simp [signedIn]

@[simp] lemma signedIn_append (reports reports' : List V1.ExecutionReport) (symbol : String) :
    signedIn (reports ++ reports') symbol = signedIn reports symbol + signedIn reports' symbol := by
  simp [signedIn]

/-- The report of an event. -/
def OMEvent.report : OMEvent → Option V1.ExecutionReport
  | .executionReport fill => some fill
  | _ => none

/-- The reports that were generated and are not handled yet, the next one first. -/
def PaperTrading.inFlight (p : PaperTrading) : List V1.ExecutionReport :=
  p.queue.q.filterMap OMEvent.report ++ p.delivering.toList ++ p.reportsQueue ++ p.generatedFills

/-- The broker id of the order that the handler cancels at the gateway next, when it does. -/
def PaperTrading.cancelsNext (p : PaperTrading) : Option BrokerOrderId :=
  match p.handler with
  | .call _ (.cancelOrder broker) _ => some broker
  | _ => none

/-- An event that is no report leaves the reports of the queue alone. -/
lemma filterMap_report_enqueue {queue : EventQueue OMEvent} {event : OMEvent}
    (h : event.report = none) :
    (queue.enqueue event).q.filterMap OMEvent.report = queue.q.filterMap OMEvent.report := by
  have hpush : (queue.q ++ [event]).filterMap OMEvent.report =
      queue.q.filterMap OMEvent.report := by
    rw [List.filterMap_append, List.filterMap_cons_none h, List.filterMap_nil, List.append_nil]
  unfold EventQueue.enqueue
  cases event with
  | bar bar =>
    rw [EventQueue.tryPush_q]
    split_ifs
    · rfl
    · exact hpush
  | tick tick =>
    rw [EventQueue.tryPush_q]
    split_ifs
    · rfl
    · exact hpush
  | _ => exact hpush

/-- What is in the queue after an event was enqueued. -/
lemma mem_enqueue {queue : EventQueue OMEvent} {event other : OMEvent}
    (h : other ∈ (queue.enqueue event).q) : other ∈ queue.q ∨ other = event := by
  have hpush : other ∈ queue.q ++ [event] → other ∈ queue.q ∨ other = event := by
    intro hmem
    simpa using hmem
  unfold EventQueue.enqueue at h
  cases event with
  | bar bar =>
    rw [EventQueue.tryPush_q] at h
    split_ifs at h
    · exact Or.inl h
    · exact hpush h
  | tick tick =>
    rw [EventQueue.tryPush_q] at h
    split_ifs at h
    · exact Or.inl h
    · exact hpush h
  | _ => exact hpush h

/-! ## The steps of the threads -/

/-- The events that a step puts on the queue of the order manager. -/
def PaperAction.Adds (a : PaperAction) (event : OMEvent) : Prop :=
  match a with
  | .deliver => ∃ r, event = .executionReport r
  | .command c => event = c.event
  | .bar b => event = .bar b
  | .tick t => event = .tick t
  | _ => False

/-- A step that only moves reports and events on. -/
def PaperAction.Moves : PaperAction → Prop
  | .poll _ | .pop _ | .call _ _ => False
  | _ => True

namespace PaperTrading

/-- Reports and events have moved on; the new events are of the kind `new`. -/
structure Moved (p p' : PaperTrading) (new : OMEvent → Prop) : Prop where
  gateway_eq : p'.gateway = p.gateway
  handler_eq : p'.handler = p.handler
  generated_eq : p'.generated = p.generated
  inFlight_eq : p'.inFlight = p.inFlight
  queue_sub : ∀ event ∈ p'.queue.q, event ∈ p.queue.q ∨ new event

variable (p : PaperTrading)

/-- Nothing has moved. -/
lemma Moved.refl (new : OMEvent → Prop) : Moved p p new :=
  ⟨rfl, rfl, rfl, rfl, fun _ hevent => Or.inl hevent⟩

/-- An event that is no report is enqueued. -/
lemma moved_enqueue (event : OMEvent) (hreport : event.report = none) :
    Moved p { p with queue := p.queue.enqueue event } (· = event) := by
  refine ⟨rfl, rfl, rfl, ?_, fun other hother => mem_enqueue hother⟩
  unfold inFlight
  rw [filterMap_report_enqueue hreport]

/-- A generated report is put on the queue of the gateway. -/
lemma moved_enqueueReport : Moved p p.enqueueReport fun _ => False := by
  unfold enqueueReport
  cases hfills : p.generatedFills with
  | nil => exact .refl p _
  | cons report rest =>
    refine ⟨rfl, rfl, rfl, ?_, fun _ hevent => Or.inl hevent⟩
    unfold inFlight
    rw [hfills]
    simp

/-- The dispatcher of the gateway takes a report. -/
lemma moved_take : Moved p p.take fun _ => False := by
  unfold take
  cases hdelivering : p.delivering with
  | some report => exact .refl p _
  | none =>
    cases hqueue : p.reportsQueue with
    | nil => exact .refl p _
    | cons report rest =>
      refine ⟨rfl, rfl, rfl, ?_, fun _ hevent => Or.inl hevent⟩
      unfold inFlight
      rw [hdelivering, hqueue]
      simp

/-- The dispatcher of the gateway delivers its report. -/
lemma moved_deliver : Moved p p.deliver fun event => ∃ r, event = .executionReport r := by
  unfold deliver
  cases hdelivering : p.delivering with
  | none => exact .refl p _
  | some report =>
    refine ⟨rfl, rfl, rfl, ?_, fun event hevent => ?_⟩
    · unfold inFlight EventQueue.enqueue
      rw [hdelivering, EventQueue.push_q]
      simp [OMEvent.report]
    · exact (mem_enqueue hevent).imp_right fun heq => ⟨report, heq⟩

/-- The dispatch thread is through with an event. -/
lemma moved_finish : Moved p p.finish fun _ => False := by
  unfold finish
  cases hhandling : p.handling with
  | none => exact .refl p _
  | some event =>
    cases hhandler : p.handler with
    | done s => exact ⟨rfl, hhandler.symm, rfl, rfl, fun _ hevent => Or.inl hevent⟩
    | call s c next => exact .refl p _

/-- A step that only moves reports and events on. -/
lemma moved_step {a : PaperAction} (ha : a.Moves) : Moved p (p.step a) a.Adds := by
  cases a with
  | poll poll => exact ha.elim
  | pop env => exact ha.elim
  | call draw clockMs => exact ha.elim
  | enqueueReport => exact p.moved_enqueueReport
  | take => exact p.moved_take
  | deliver => exact p.moved_deliver
  | finish => exact p.moved_finish
  | bar bar => exact p.moved_enqueue (.bar bar) rfl
  | tick tick => exact p.moved_enqueue (.tick tick) rfl
  | command command =>
    have hreport : command.event.report = none := by
      cases command <;> rfl
    exact p.moved_enqueue command.event hreport

/-- A poll while the last reports are not enqueued yet does nothing; else the reports that it
generates are in flight. -/
lemma simulateFills_cases (poll : Poll) :
    p.simulateFills poll = p ∨
      poll.visit.Nodup ∧
        (p.simulateFills poll).gateway = (p.gateway.simulateFills poll).1 ∧
        (p.simulateFills poll).handler = p.handler ∧ (p.simulateFills poll).queue = p.queue ∧
        (p.simulateFills poll).inFlight = p.inFlight ++ (p.gateway.simulateFills poll).2 ∧
        (p.simulateFills poll).generated = p.generated ++ (p.gateway.simulateFills poll).2 := by
  unfold simulateFills
  split_ifs with hpoll
  swap
  · exact Or.inl rfl
  obtain ⟨hempty, hperm⟩ := hpoll
  refine Or.inr ⟨hperm.nodup_iff.mpr p.gateway.pendingOrders.keys_nodup, rfl, rfl, rfl, ?_, rfl⟩
  unfold inFlight
  rw [hempty, List.append_nil]

/-- The dispatch thread takes the next event, when it handles none and there is one. -/
lemma pop_cases (env : Env) :
    p.pop env = p ∨
      ∃ event tail, p.handling = none ∧ p.queue.q = event :: tail ∧
        (p.pop env).handler = p.manager.handle env event ∧ (p.pop env).gateway = p.gateway ∧
        (p.pop env).queue.q = tail ∧ (p.pop env).generated = p.generated ∧
        p.inFlight = event.report.toList ++ (p.pop env).inFlight := by
  unfold pop
  cases hhandling : p.handling with
  | some _ => exact Or.inl rfl
  | none =>
    cases hpop : p.queue.pop with
    | none => exact Or.inl rfl
    | some next =>
      obtain ⟨event, rest⟩ := next
      obtain ⟨tail, hq, rfl⟩ := EventQueue.pop_eq_some_iff.mp hpop
      refine Or.inr ⟨event, tail, rfl, hq, rfl, rfl, rfl, rfl, ?_⟩
      unfold inFlight
      rw [hq, List.filterMap_cons]
      cases event.report <;> rfl

end PaperTrading

/-! ## The gateway and the live orders -/

/-- The pending orders are live, the reports in flight are fills of live orders, and no order is
filled beyond its quantity. -/
structure Covered (pending : AList fun _ : BrokerOrderId => SimulatedOrder)
    (flight : List V1.ExecutionReport) (live : LiveOrders) : Prop where
  /-- What a pending order has filled is reported or in flight, and less than its quantity. -/
  pending_live : ∀ broker sim, pending.lookup broker = some sim →
    sim.cumulativeFilled < sim.order.quantity ∧
      ∃ order, live broker = some order ∧ order.quantity = sim.order.quantity ∧
        order.reported + filledBy flight broker = sim.cumulativeFilled
  flight_live : ∀ r ∈ flight, r.IsFill ∧ live r.brokerOrderId ≠ none
  total_le : ∀ broker order, live broker = some order →
    order.reported + filledBy flight broker ≤ order.quantity

namespace Covered

variable {pending : AList fun _ : BrokerOrderId => SimulatedOrder}
  {flight : List V1.ExecutionReport} {live : LiveOrders} {broker : BrokerOrderId}

/-- An order that is not live has nothing in flight. -/
lemma filledBy_of_not_live (h : Covered pending flight live) (hlive : live broker = none) :
    filledBy flight broker = 0 := by
  refine filledBy_eq_zero fun r hr heq => ?_
  have hne := (h.flight_live r hr).2
  rw [heq] at hne
  exact hne hlive

/-- A poll. -/
lemma poll {g : PaperGateway} (h : Covered g.pendingOrders flight live) (poll : Poll)
    (hnodup : poll.visit.Nodup) :
    Covered (g.simulateFills poll).1.pendingOrders (flight ++ (g.simulateFills poll).2) live := by
  obtain ⟨hreports, hle, hpending⟩ :=
    g.simulateFills_spec poll hnodup fun b sim hsim => (h.pending_live b sim hsim).1
  constructor
  · intro b sim' hsim'
    obtain ⟨sim, hsim, horder, hlt, hfilled⟩ := hpending b sim' hsim'
    obtain ⟨-, order, hlive, hquantity, hreported⟩ := h.pending_live b sim hsim
    refine ⟨horder ▸ hlt, order, hlive, horder ▸ hquantity, ?_⟩
    rw [filledBy_append, hfilled, ← hreported]
    ring
  · intro r hr
    rcases List.mem_append.mp hr with hold | hnew
    · exact h.flight_live r hold
    · obtain ⟨hisFill, hsome⟩ := hreports r hnew
      obtain ⟨sim, hsim⟩ := Option.ne_none_iff_exists'.mp hsome
      obtain ⟨-, order, hlive, -⟩ := h.pending_live _ sim hsim
      exact ⟨hisFill, by simp [hlive]⟩
  · intro b order hlive
    rw [filledBy_append]
    cases hsim : g.pendingOrders.lookup b with
    | none =>
      have hzero : filledBy (g.simulateFills poll).2 b = 0 := by
        refine filledBy_eq_zero fun r hr heq => ?_
        exact (hreports r hr).2 (heq ▸ hsim)
      rw [hzero, add_zero]
      exact h.total_le b order hlive
    | some sim =>
      obtain ⟨-, order', hlive', hquantity, hreported⟩ := h.pending_live b sim hsim
      rw [hlive] at hlive'
      obtain rfl := Option.some.inj hlive'
      have hfull := hle b sim hsim
      rw [hquantity]
      linarith

/-- The gateway accepts an order under a broker id that is not live. -/
lemma submit (h : Covered pending flight live) (hlive : live broker = none) {order : V1.Order}
    (hpos : 0 < order.quantity) (price : ℚ) :
    Covered (pending.insert broker ⟨order, price, 0⟩) flight
      (Function.update live broker (some ⟨order.quantity, 0⟩)) := by
  have hzero := h.filledBy_of_not_live hlive
  constructor
  · intro b sim hsim
    rw [FiniteMap.lookup_insert_eq] at hsim
    by_cases hb : b = broker
    · rw [if_pos hb] at hsim
      obtain rfl := Option.some.inj hsim
      refine ⟨hpos, ⟨order.quantity, 0⟩, ?_, rfl, ?_⟩
      · rw [hb, Function.update_self]
      · rw [hb, hzero, add_zero]
    · rw [if_neg hb] at hsim
      rw [Function.update_of_ne hb]
      exact h.pending_live b sim hsim
  · intro r hr
    obtain ⟨hisFill, hsome⟩ := h.flight_live r hr
    refine ⟨hisFill, ?_⟩
    by_cases hb : r.brokerOrderId = broker
    · exact absurd (hb ▸ hlive) hsome
    · rwa [Function.update_of_ne hb]
  · intro b order' hlive'
    by_cases hb : b = broker
    · rw [hb, Function.update_self] at hlive'
      obtain rfl := Option.some.inj hlive'
      rw [hb, hzero, add_zero]
      exact hpos.le
    · rw [Function.update_of_ne hb] at hlive'
      exact h.total_le b order' hlive'

/-- The gateway cancels an order that has nothing in flight. -/
lemma cancel (h : Covered pending flight live)
    (hsettled : ∀ r ∈ flight, r.brokerOrderId ≠ broker) :
    Covered (pending.erase broker) flight (Function.update live broker none) := by
  constructor
  · intro b sim hsim
    rw [FiniteMap.lookup_erase_eq] at hsim
    split_ifs at hsim with hb
    rw [Function.update_of_ne hb]
    exact h.pending_live b sim hsim
  · intro r hr
    rw [Function.update_of_ne (hsettled r hr)]
    exact h.flight_live r hr
  · intro b order hlive
    have hb : b ≠ broker := by
      rintro rfl
      rw [Function.update_self] at hlive
      cases hlive
    rw [Function.update_of_ne hb] at hlive
    exact h.total_le b order hlive

/-- The next report in flight is handled. -/
lemma report {r : V1.ExecutionReport} (h : Covered pending (r :: flight) live) :
    Covered pending flight (live.report r) := by
  obtain ⟨hisFill, hsome⟩ := h.flight_live r List.mem_cons_self
  obtain ⟨order, hlive⟩ := Option.ne_none_iff_exists'.mp hsome
  have hpos : ∀ r' ∈ flight, 0 < r'.filledQuantity := fun r' hr' =>
    (h.flight_live r' (List.mem_cons_of_mem r hr')).1.quantity_pos
  have hreport : live.report r =
      Function.update live r.brokerOrderId (order.fill r.filledQuantity) := by
    unfold LiveOrders.report
    rw [hisFill.not_terminal, hlive]
    rfl
  have htotal := h.total_le _ order hlive
  rw [filledBy_cons, if_pos rfl] at htotal
  -- the order stays live as long as something of it is pending or in flight
  have hstays : order.reported + r.filledQuantity < order.quantity →
      order.fill r.filledQuantity =
        some { order with reported := order.reported + r.filledQuantity } := by
    intro hlt
    unfold LiveOrder.fill
    rw [if_neg (not_le.mpr hlt)]
  rw [hreport]
  constructor
  · intro b sim hsim
    obtain ⟨hlt, order', hlive', hquantity, hreported⟩ := h.pending_live b sim hsim
    refine ⟨hlt, ?_⟩
    by_cases hb : b = r.brokerOrderId
    · rw [hb, hlive] at hlive'
      obtain rfl := Option.some.inj hlive'
      rw [filledBy_cons, if_pos hb.symm] at hreported
      have hnonneg : 0 ≤ filledBy flight b := filledBy_nonneg hpos b
      rw [hb, Function.update_self, hstays (by linarith)]
      refine ⟨_, rfl, hquantity, ?_⟩
      dsimp only
      rw [← hb]
      linarith
    · rw [filledBy_cons, if_neg (Ne.symm hb), zero_add] at hreported
      rw [Function.update_of_ne hb]
      exact ⟨order', hlive', hquantity, hreported⟩
  · intro r' hr'
    obtain ⟨hisFill', hsome'⟩ := h.flight_live r' (List.mem_cons_of_mem r hr')
    refine ⟨hisFill', ?_⟩
    by_cases hb : r'.brokerOrderId = r.brokerOrderId
    · have hle := le_filledBy hpos hr'
      have hpos' := hisFill'.quantity_pos
      rw [hb] at hle
      rw [hb, Function.update_self, hstays (by linarith)]
      simp
    · rwa [Function.update_of_ne hb]
  · intro b order' hlive'
    by_cases hb : b = r.brokerOrderId
    · rw [hb, Function.update_self] at hlive'
      unfold LiveOrder.fill at hlive'
      split_ifs at hlive'
      obtain rfl := Option.some.inj hlive'
      rw [hb]
      dsimp only
      linarith
    · rw [Function.update_of_ne hb] at hlive'
      have hother := h.total_le b order' hlive'
      rwa [filledBy_cons, if_neg (Ne.symm hb), zero_add] at hother

end Covered

/-! ## The handlers -/

/-- The continuations with which a handler waits for the gateway. -/
inductive Waiting (live : LiveOrders) (p : Handler) : Prop
  /-- The handler is through. -/
  | done {s : OrderManager} (hp : p = .done s)
  /-- A submit command: the order has been stored. -/
  | submit {s : OrderManager} {env : Env} {order : V1.Order} {row : StoredOrder}
      {base : SQLiteOrderStore}
      (hp : p = .call s (.submitOrder order) fun result : Result BrokerOrderId =>
        match result with
        | .error e => .done (s.rejectSubmit env order.id e)
        | .ok broker => .done (s.acceptSubmit env order.id broker))
      (hpos : 0 < order.quantity) (hrow : row.IsNew order .pendingSubmission none)
      (hins : SQLiteOrderStore.Inserted base row s.orderStore)
      (hbase : Tracking True s.idMapper base live)
  /-- A cancel command: the order is mapped. -/
  | cancel {s : OrderManager} {env : Env} {localId : LocalOrderId} {broker : BrokerOrderId}
      (hp : p = .call s (.cancelOrder broker) fun result : Result Unit =>
        match result with
        | .ok () => .done (s.acceptCancel env localId)
        | .error e => .done (s.setValue (.cancelled (.error e))))
      (hmapped : s.idMapper.getBrokerId localId = some broker)
  /-- The kill switch: the orders that are left and mapped carry their broker ids. -/
  | kill {s : OrderManager} {env : Env} {orders : List StoredOrder}
      (hp : p = OrderManager.cancelOpenOrders env orders s)
      (horders : ∀ row ∈ orders, ∀ broker, s.idMapper.getBrokerId row.localId = some broker →
        row.brokerId = some broker)

/-- The loop of the kill switch is through, or it cancels the next order that has a broker id. -/
lemma OrderManager.cancelOpenOrders_cases (env : Env) (orders : List StoredOrder)
    (s : OrderManager) :
    cancelOpenOrders env orders s = .done (s.setValue .done) ∨
    ∃ stored rest broker, stored ∈ orders ∧ (∀ row ∈ rest, row ∈ orders) ∧
      stored.brokerId = some broker ∧
      cancelOpenOrders env orders s =
        .call s (.cancelOrder broker) fun result : Result Unit =>
          match result with
          | .ok () => cancelOpenOrders env rest (s.killOrder env stored.localId)
          | .error e =>
            cancelOpenOrders env rest
              (s.log .errorOccurred ("Failed to cancel during kill switch: " ++ e.message)
                stored.localId) := by
  induction orders with
  | nil => exact Or.inl rfl
  | cons stored rest ih =>
    cases hbroker : stored.brokerId with
    | none =>
      have hskip : cancelOpenOrders env (stored :: rest) s = cancelOpenOrders env rest s := by
        rw [cancelOpenOrders, hbroker]
      rw [hskip]
      apply ih.imp_right
      rintro ⟨next, rest', broker, hnext, hrest, hcarried, hcall⟩
      exact ⟨next, rest', broker, List.mem_cons_of_mem _ hnext,
        fun row hrow => List.mem_cons_of_mem _ (hrest row hrow), hcarried, hcall⟩
    | some broker =>
      right
      refine ⟨stored, rest, broker, List.mem_cons_self,
        fun row hrow => List.mem_cons_of_mem _ hrow, hbroker, ?_⟩
      cases stored
      dsimp only at hbroker
      subst hbroker
      rfl

/-- The loop of the kill switch starts in the state that it is given. -/
lemma OrderManager.cancelOpenOrders_state (env : Env) (orders : List StoredOrder)
    (s : OrderManager) :
    (cancelOpenOrders env orders s).state.toBooks = s.toBooks ∧
      (cancelOpenOrders env orders s).state.storeFailures = s.storeFailures := by
  rcases cancelOpenOrders_cases env orders s with h | ⟨stored, rest, broker, -, -, -, h⟩
  · rw [h]
    exact ⟨rfl, rfl⟩
  · rw [h]
    exact ⟨rfl, rfl⟩

/-- What a step of the dispatch thread has made of the handler, the order manager and the live
orders, when nothing was booked. -/
structure Waiting.Advanced (pending : AList fun _ : BrokerOrderId => SimulatedOrder)
    (flight : List V1.ExecutionReport) (s : OrderManager) (p : Handler) (live : LiveOrders) :
    Prop where
  tracking : Tracking True p.state.idMapper p.state.orderStore live
  whole : p.state.idMapper.NoZeroBytes
  covered : Covered pending flight live
  waiting : Waiting live p
  keeper_eq : p.state.positionKeeper = s.positionKeeper

namespace Waiting

variable {pending : AList fun _ : BrokerOrderId => SimulatedOrder}
  {flight : List V1.ExecutionReport} {live : LiveOrders} {s : OrderManager}

/-- A handler that ends with other books, which are tracked. -/
lemma advanced_done {s' : OrderManager} {b : Books} (hbooks : s'.toBooks = b)
    (htracking : Tracking True b.idMapper b.orderStore live) (hwhole : b.idMapper.NoZeroBytes)
    (hcovered : Covered pending flight live) (hkeeper : b.positionKeeper = s.positionKeeper) :
    Advanced pending flight s (.done s') live := by
  subst hbooks
  exact ⟨htracking, hwhole, hcovered, .done rfl, hkeeper⟩

/-- The gateway has answered a submit command. -/
lemma advanced_submit {env : Env} {order : V1.Order} {row : StoredOrder}
    {base : SQLiteOrderStore} (hpos : 0 < order.quantity)
    (hrow : row.IsNew order .pendingSubmission none)
    (hins : SQLiteOrderStore.Inserted base row s.orderStore)
    (hbase : Tracking True s.idMapper base live) (hwhole : s.idMapper.NoZeroBytes)
    (g : PaperGateway) (draw : ℚ) (clockMs : ℤ) (hplain : g.PlainIds)
    (hcovered : Covered g.pendingOrders flight live)
    {next : Result BrokerOrderId → Handler} (hnext : next = fun result : Result BrokerOrderId =>
      match result with
      | .error e => .done (s.rejectSubmit env order.id e)
      | .ok broker => .done (s.acceptSubmit env order.id broker))
    (hok : (next (g.submitOrder draw clockMs order).2).state.storeFailures = s.storeFailures) :
    ∃ live', Advanced (g.submitOrder draw clockMs order).1.pendingOrders flight s
      (next (g.submitOrder draw clockMs order).2) live' := by
  subst hnext
  unfold PaperGateway.submitOrder at hok ⊢
  by_cases hdraw : draw < g.config.rejectionProbability
  · -- the gateway rejects the order
    rw [if_pos hdraw] at hok ⊢
    dsimp only at hok ⊢
    refine ⟨live, ?_⟩
    rcases s.rejectSubmit_cases env order.id
        ⟨"Simulated order submittion rejection", .failedOrder⟩ with ⟨hb, -⟩ | ⟨-, hf⟩
    · refine advanced_done hb ?_ hwhole hcovered rfl
      have hrejected := hins.setStatus .rejected env.sqliteNow
      rw [hrow.localId_eq] at hrejected
      exact hbase.insert hrejected
    · rw [Program.state_done] at hok
      omega
  · rw [if_neg hdraw] at hok ⊢
    dsimp only [PaperGateway.getOrInitPrice] at hok ⊢
    rw [PaperGateway.initPrice_pendingOrders]
    have hbroker : NoZeroByte (g.idGen.generate clockMs).1 :=
      OrderIdGenerator.noZeroByte_generate hplain clockMs
    generalize (g.idGen.generate clockMs).1 = broker at hok hbroker ⊢
    rw [Program.state_done] at hok
    rcases s.acceptSubmit_cases env hins hrow broker with
      ⟨-, -, hf⟩ | ⟨row', store, carried, hrow', hins', hb, hcarried⟩
    · omega
    rcases hcarried with ⟨rfl, -⟩ | ⟨-, -, hf⟩
    swap
    · omega
    have hlive : live broker = none := by
      cases hlive : live broker with
      | none => rfl
      | some order' =>
        obtain ⟨l, -, hl, -⟩ := hbase.recorded broker order' hlive
        obtain ⟨other, hother, hcarried, -⟩ := hbase.carried l broker hl
        exact absurd (SQLiteOrderStore.carries_iff.mpr ⟨l, other, hother, hcarried⟩)
          (hins'.broker_fresh (cStr broker) hrow'.brokerId_eq)
    refine ⟨_, advanced_done hb ?_ (hwhole.addMapping _ hbroker)
      (hcovered.submit hlive hpos _) rfl⟩
    have hadd := hbase.add hins' hrow'.brokerId_eq (by rw [hrow'.status_eq]; rfl)
      hrow'.filledQuantity_eq
    rw [hrow'.order_eq] at hadd
    exact hadd

/-- The gateway has answered a cancel command. -/
lemma advanced_cancel (env : Env) {localId : LocalOrderId} {broker : BrokerOrderId}
    (htracking : Tracking True s.idMapper s.orderStore live) (hwhole : s.idMapper.NoZeroBytes)
    (hmapped : s.idMapper.getBrokerId localId = some broker)
    (hcovered : Covered pending flight live) (hsettled : ∀ r ∈ flight, r.brokerOrderId ≠ broker) :
    Advanced (pending.erase broker) flight s (.done (s.acceptCancel env localId))
      (Function.update live broker none) := by
  rcases s.acceptCancel_cases env localId with ⟨hb, -⟩ | ⟨hb, -⟩
  · exact advanced_done hb (htracking.drop hmapped fun _ _ => rfl) (hwhole.removeMapping localId)
      (hcovered.cancel hsettled) rfl
  · exact advanced_done hb
      (htracking.drop hmapped fun _ hl => SQLiteOrderStore.find_setStatus_of_ne hl _ _)
      (hwhole.removeMapping localId) (hcovered.cancel hsettled) rfl

/-- The gateway has answered the kill switch. -/
lemma advanced_kill (env : Env) {stored : StoredOrder} {rest : List StoredOrder}
    {broker : BrokerOrderId} (htracking : Tracking True s.idMapper s.orderStore live)
    (hwhole : s.idMapper.NoZeroBytes) (hcovered : Covered pending flight live)
    (hsettled : ∀ r ∈ flight, r.brokerOrderId ≠ broker)
    (hstored : ∀ b, s.idMapper.getBrokerId stored.localId = some b → b = broker)
    (hrest : ∀ row ∈ rest, ∀ b, s.idMapper.getBrokerId row.localId = some b →
      row.brokerId = some b)
    (hok : (OrderManager.cancelOpenOrders env rest
      (s.killOrder env stored.localId)).state.storeFailures = s.storeFailures) :
    Advanced (pending.erase broker) flight s
      (OrderManager.cancelOpenOrders env rest (s.killOrder env stored.localId))
      (Function.update live broker none) := by
  obtain ⟨hstate, hfailures⟩ := OrderManager.cancelOpenOrders_state env rest
    (s.killOrder env stored.localId)
  rcases s.killOrder_cases env stored.localId with ⟨-, hf⟩ | ⟨hb, -⟩
  · omega
  rw [hb] at hstate
  constructor
  · rw [hstate]
    exact htracking.forget hstored fun _ hl => SQLiteOrderStore.find_setStatus_of_ne hl _ _
  · rw [hstate]
    exact hwhole.removeMapping stored.localId
  · exact hcovered.cancel hsettled
  · refine .kill rfl fun row hrow b hmapped => hrest row hrow b ?_
    have hmapper : (s.killOrder env stored.localId).idMapper =
        s.idMapper.removeMapping stored.localId := congrArg Books.idMapper hb
    rw [hmapper, OrderIdMapper.getBrokerId_removeMapping] at hmapped
    split_ifs at hmapped
    exact hmapped
  · rw [hstate]
    rfl

/-- The dispatch thread starts to handle a submit command. -/
lemma advanced_handleSubmit {env : Env} {signal : V1.StrategySignal}
    (htracking : Tracking True s.idMapper s.orderStore live) (hwhole : s.idMapper.NoZeroBytes)
    (hcovered : Covered pending flight live) (hpos : 0 < signal.targetQuantity)
    (hok : (s.handleSubmitCommand env signal).state.storeFailures = s.storeFailures) :
    Advanced pending flight s (s.handleSubmitCommand env signal) live := by
  obtain ⟨createdAt, hts⟩ := timestampToString_ok env.now
  rw [s.handleSubmitCommand_eq env signal hts] at hok ⊢
  rcases (s.beginSubmit env signal).storeOrder_cases env (s.rowOfSubmit env signal createdAt)
    with ⟨-, e, hstore⟩ | ⟨-, store, hins, hstore⟩
  · -- the row is not stored
    rw [hstore, Program.state_done] at hok
    have hfailed : s.storeFailures + 1 = s.storeFailures := hok
    omega
  rw [hstore] at hok ⊢
  dsimp only at hok ⊢
  generalize hs' : ({ s.beginSubmit env signal with orderStore := store } : OrderManager) = s'
    at hok ⊢
  have hbooks : s'.toBooks = { s.toBooks with orderStore := store } := by
    rw [← hs']
    rfl
  have hfailures : s'.storeFailures = s.storeFailures := by
    rw [← hs']
    rfl
  have hins' : SQLiteOrderStore.Inserted s.orderStore (s.rowOfSubmit env signal createdAt).bound
      s'.orderStore := by
    rw [← hs']
    exact hins
  have hmapper : s'.idMapper = s.idMapper := by
    rw [hbooks]
  have hkeeper : s'.positionKeeper = s.positionKeeper := by
    rw [hbooks]
  cases hrisk : s'.checkSubmit signal with
  | error e =>
    -- the risk manager rejects the order
    rw [hrisk] at hok
    dsimp only at hok ⊢
    rcases s'.rejectSubmit_cases env (s.orderOfSubmit env signal).id e with ⟨hb, -⟩ | ⟨-, hf⟩
    · refine advanced_done hb ?_ (hmapper ▸ hwhole) hcovered hkeeper
      have hinsert := htracking.insert (hins'.setStatus .rejected env.sqliteNow)
      rw [← hmapper] at hinsert
      exact hinsert
    · rw [Program.state_done] at hok
      omega
  | ok u =>
    dsimp only
    refine ⟨?_, hmapper ▸ hwhole, hcovered, ?_, hkeeper⟩
    · have hinsert := htracking.insert hins'
      rw [← hmapper] at hinsert
      exact hinsert
    · refine .submit rfl hpos (StoredOrder.IsNew.bound ⟨rfl, rfl, rfl, rfl, rfl, rfl⟩) hins' ?_
      rw [hmapper]
      exact htracking

/-- The dispatch thread starts to handle a cancel command. -/
lemma advanced_handleCancel {env : Env} {signal : V1.CancelSignal}
    (htracking : Tracking True s.idMapper s.orderStore live) (hwhole : s.idMapper.NoZeroBytes)
    (hcovered : Covered pending flight live) :
    Advanced pending flight s (s.handleCancelCommand env signal) live := by
  unfold OrderManager.handleCancelCommand
  cases hmapped : s.idMapper.getBrokerId signal.orderId with
  | none => exact ⟨htracking, hwhole, hcovered, .done rfl, rfl⟩
  | some broker => exact ⟨htracking, hwhole, hcovered, .cancel rfl hmapped, rfl⟩

/-- The dispatch thread starts to handle a kill switch command. -/
lemma advanced_handleCancelAll {env : Env} {reason initiatedBy : String}
    (htracking : Tracking True s.idMapper s.orderStore live) (hwhole : s.idMapper.NoZeroBytes)
    (hcovered : Covered pending flight live) :
    Advanced pending flight s (s.handleCancelAllCommand env reason initiatedBy) live := by
  have hloop : ∀ s' : OrderManager, s'.toBooks = s.toBooks →
      Advanced pending flight s
        (OrderManager.cancelOpenOrders env (s.orderStore.getOpenOrders env.openOrdersRead) s')
        live := by
    intro s' hbooks
    obtain ⟨hstate, -⟩ := OrderManager.cancelOpenOrders_state env
      (s.orderStore.getOpenOrders env.openOrdersRead) s'
    rw [hbooks] at hstate
    refine ⟨?_, ?_, hcovered, .kill rfl fun row hrow broker hmapped => ?_, ?_⟩
    · rw [hstate]
      exact htracking
    · rw [hstate]
      exact hwhole
    · have hmapper : s'.idMapper = s.idMapper := congrArg Books.idMapper hbooks
      rw [hmapper] at hmapped
      obtain ⟨other, hother, hbroker, -⟩ := htracking.carried row.localId broker hmapped
      rw [SQLiteOrderStore.find_of_mem (SQLiteOrderStore.mem_getOpenOrders hrow).1] at hother
      obtain rfl := Option.some.inj hother
      rwa [(hwhole row.localId broker hmapped).cStr_eq] at hbroker
    · rw [hstate]
  unfold OrderManager.handleCancelAllCommand OrderManager.getOpenOrders
  cases hread : env.openOrdersRead with
  | none =>
    rw [hread] at hloop
    exact hloop _ rfl
  | some n =>
    rw [hread] at hloop
    exact hloop _ rfl

end Waiting

/-! ## The invariant -/

/-- The commands and the other events that the order manager gets here: orders have a positive
quantity and nothing is replaced. -/
def OMEvent.Expected : OMEvent → Prop
  | .submitCommand signal => 0 < signal.targetQuantity
  | .replaceCommand _ => False
  | _ => True

/-- What is booked and what is in flight together are what was generated, and every order that can
still be filled or has fills in flight is live and tracked. -/
structure Conserved (p : PaperTrading) (live : LiveOrders) : Prop where
  plain : p.gateway.PlainIds
  tracking : Tracking True p.manager.idMapper p.manager.orderStore live
  whole : p.manager.idMapper.NoZeroBytes
  covered : Covered p.gateway.pendingOrders p.inFlight live
  waiting : Waiting live p.handler
  expected : ∀ event ∈ p.queue.q, event.Expected
  balanced : ∀ symbol, (p.manager.positionKeeper.positionOf symbol).quantity +
    signedIn p.inFlight symbol = signedIn p.generated symbol

namespace Conserved

variable {p p' : PaperTrading} {live live' : LiveOrders}

/-- A new order manager with a gateway that has no orders. -/
lemma start (accountId : String) (store : SQLiteOrderStore) (riskManager : RiskManager)
    (config : PaperGatewayConfig) :
    Conserved (.start accountId store riskManager config) fun _ => none where
  plain := PaperGateway.plainIds_start config
  tracking := .start store
  whole := nofun
  covered :=
    { pending_live := by
        intro broker sim hsim
        cases hsim
      flight_live := by
        intro r hr
        cases hr
      total_le := by simp }
  waiting := .done rfl
  expected := by
    intro event hevent
    cases hevent
  balanced := by
    intro symbol
    exact add_zero 0

/-- A step that moves a report or an event on. -/
lemma of_moved (h : Conserved p live) {new : OMEvent → Prop} (hmoved : p.Moved p' new)
    (hnew : ∀ event, new event → event.Expected) : Conserved p' live := by
  have hmanager : p'.manager = p.manager := congrArg Program.state hmoved.handler_eq
  constructor
  · rw [hmoved.gateway_eq]
    exact h.plain
  · rw [hmanager]
    exact h.tracking
  · rw [hmanager]
    exact h.whole
  · rw [hmoved.gateway_eq, hmoved.inFlight_eq]
    exact h.covered
  · rw [hmoved.handler_eq]
    exact h.waiting
  · intro event hevent
    exact (hmoved.queue_sub event hevent).elim (h.expected event) (hnew event)
  · rw [hmanager, hmoved.inFlight_eq, hmoved.generated_eq]
    exact h.balanced

/-- A step of the dispatch thread that books nothing. -/
lemma of_advanced (h : Conserved p live) (hplain : p'.gateway.PlainIds)
    (hadvanced : Waiting.Advanced p'.gateway.pendingOrders p.inFlight p.manager p'.handler live')
    (hgenerated : p'.generated = p.generated) (hflight : p'.inFlight = p.inFlight)
    (hexpected : ∀ event ∈ p'.queue.q, event.Expected) : Conserved p' live' where
  plain := hplain
  tracking := hadvanced.tracking
  whole := hadvanced.whole
  covered := by
    rw [hflight]
    exact hadvanced.covered
  waiting := hadvanced.waiting
  expected := hexpected
  balanced := by
    have hkeeper : p'.manager.positionKeeper = p.manager.positionKeeper := hadvanced.keeper_eq
    rw [hkeeper, hflight, hgenerated]
    exact h.balanced

/-- The simulation thread polls. -/
lemma simulateFills (h : Conserved p live) (poll : Poll) :
    Conserved (p.simulateFills poll) live := by
  rcases p.simulateFills_cases poll with
    hidle | ⟨hnodup, hgateway, hhandler, hqueue, hflight, hgenerated⟩
  · rw [hidle]
    exact h
  have hmanager : (p.simulateFills poll).manager = p.manager := congrArg Program.state hhandler
  constructor
  · rw [hgateway]
    exact h.plain.simulateFills poll
  · rw [hmanager]
    exact h.tracking
  · rw [hmanager]
    exact h.whole
  · rw [hgateway, hflight]
    exact h.covered.poll poll hnodup
  · rw [hhandler]
    exact h.waiting
  · rw [hqueue]
    exact h.expected
  · intro symbol
    rw [hmanager, hflight, hgenerated, signedIn_append, signedIn_append, ← h.balanced symbol]
    exact (add_assoc _ _ _).symm

/-- The dispatch thread handles a report. -/
lemma handleFill (h : Conserved p live) {env : Env} {r : V1.ExecutionReport}
    (hok : (p.manager.handleFill env r).storeFailures = p.manager.storeFailures)
    (hhandler : p'.handler = .done (p.manager.handleFill env r)) (hgateway : p'.gateway = p.gateway)
    (hgenerated : p'.generated = p.generated) (hflight : p.inFlight = r :: p'.inFlight)
    (hexpected : ∀ event ∈ p'.queue.q, event.Expected) : Conserved p' (live.report r) := by
  have hcovered := h.covered
  rw [hflight] at hcovered
  obtain ⟨hisFill, hlive⟩ := hcovered.flight_live r List.mem_cons_self
  obtain ⟨order, horder⟩ := Option.ne_none_iff_exists'.mp hlive
  obtain ⟨localId, -, hmapped, -⟩ := h.tracking.recorded _ order horder
  let i : Input := ⟨.executionReport r, env, .accepting ""⟩
  have hdispatch : dispatch p.manager i = p.manager.handleFill env r := rfl
  have hmanager : p'.manager = dispatch p.manager i := congrArg Program.state hhandler
  have htracking := h.tracking.dispatch (i := i) (Or.inl ⟨trivial, hok⟩) nofun
  have hwhole : (dispatch p.manager i).idMapper.NoZeroBytes :=
    (dispatch_move p.manager i).noZeroBytes h.whole fun broker hbroker =>
      absurd hbroker List.not_mem_nil
  obtain ⟨row, -, hbooks⟩ := (dispatch_move p.manager i).of_fill hok rfl
    ((h.tracking.inverse _ _).mpr hmapped) hisFill.not_terminal
  have hbooked := congrArg Books.positionKeeper hbooks
  rw [Books.fill_positionKeeper, ← hmanager] at hbooked
  rw [← hmanager] at htracking hwhole
  refine ⟨hgateway ▸ h.plain, htracking, hwhole, ?_, .done hhandler, hexpected, fun symbol => ?_⟩
  · rw [hgateway]
    exact hcovered.report
  · have hbalanced := h.balanced symbol
    have hquantity : (if symbol = r.symbol ∧ 0 < r.filledQuantity then
        signedFill r.side r.filledQuantity else 0) =
        if r.symbol = symbol then signedFill r.side r.filledQuantity else 0 := by
      simp [hisFill.quantity_pos, eq_comm]
    rw [hflight, signedIn_cons] at hbalanced
    rw [hbooked, PositionKeeper.quantity_onFill, hquantity, hgenerated, add_assoc]
    exact hbalanced

/-- The dispatch thread takes an event. -/
lemma pop (h : Conserved p live) {env : Env}
    (hok : (p.pop env).manager.storeFailures = p.manager.storeFailures) :
    ∃ live', Conserved (p.pop env) live' := by
  rcases p.pop_cases env with
    hidle | ⟨event, tail, -, hq, hhandler, hgateway, hqueue, hgenerated, hflight⟩
  · rw [hidle]
    exact ⟨live, h⟩
  have hevent : event.Expected := h.expected event (by simp [hq])
  have htail : ∀ other ∈ (p.pop env).queue.q, other.Expected := by
    rw [hqueue]
    exact fun other hother => h.expected other (by simp [hq, hother])
  have hok' : (p.manager.handle env event).state.storeFailures = p.manager.storeFailures := by
    rw [← hhandler]
    exact hok
  -- an event that is no report, and whose handler books nothing
  have hadvance : event.report = none →
      Waiting.Advanced p.gateway.pendingOrders p.inFlight p.manager (p.manager.handle env event)
        live → ∃ live', Conserved (p.pop env) live' := by
    intro hreport hadvanced
    rw [hreport] at hflight
    rw [← hhandler, ← hgateway] at hadvanced
    exact ⟨live, h.of_advanced (hgateway ▸ h.plain) hadvanced hgenerated hflight.symm htail⟩
  cases event with
  | executionReport r =>
    exact ⟨_, h.handleFill hok' hhandler hgateway hgenerated hflight htail⟩
  | bar bar =>
    exact hadvance rfl (Waiting.advanced_done (p.manager.handleBar_toBooks bar) h.tracking
      h.whole h.covered rfl)
  | tick tick =>
    exact hadvance rfl (Waiting.advanced_done (p.manager.handleTick_toBooks tick) h.tracking
      h.whole h.covered rfl)
  | submitCommand signal =>
    exact hadvance rfl (Waiting.advanced_handleSubmit h.tracking h.whole h.covered hevent hok')
  | cancelCommand signal =>
    exact hadvance rfl (Waiting.advanced_handleCancel h.tracking h.whole h.covered)
  | replaceCommand signal => exact hevent.elim
  | cancelAllCommand reason initiatedBy =>
    exact hadvance rfl (Waiting.advanced_handleCancelAll h.tracking h.whole h.covered)

/-- The handler makes its next call on the gateway. -/
lemma call (h : Conserved p live) {draw : ℚ} {clockMs : ℤ}
    (hok : (p.call draw clockMs).manager.storeFailures = p.manager.storeFailures)
    (hsettled : ∀ r ∈ p.inFlight, p.cancelsNext ≠ some r.brokerOrderId) :
    ∃ live', Conserved (p.call draw clockMs) live' := by
  have hcalls : ∀ {s : OrderManager} {c : GatewayCall} {next : c.Answer → Handler},
      p.handler = .call s c next → p.manager = s ∧ p.call draw clockMs =
        { p with
          gateway := (p.gateway.call draw clockMs c).1
          handler := next (p.gateway.call draw clockMs c).2 } := by
    intro s c next hp
    constructor
    · exact congrArg Program.state hp
    · unfold PaperTrading.call
      rw [hp]
  have hplain : ∀ c : GatewayCall, (p.gateway.call draw clockMs c).1.PlainIds :=
    h.plain.call draw clockMs
  have hcancels : ∀ {s : OrderManager} {broker : BrokerOrderId} {next : Result Unit → Handler},
      p.handler = .call s (.cancelOrder broker) next →
        ∀ r ∈ p.inFlight, r.brokerOrderId ≠ broker := by
    intro s broker next hp r hr hbroker
    apply hsettled r hr
    unfold PaperTrading.cancelsNext
    rw [hp, hbroker]
  have hdone : ∀ {s : OrderManager}, p.handler = .done s → p.call draw clockMs = p := by
    intro s hp
    unfold PaperTrading.call
    rw [hp]
  cases h.waiting with
  | done hp =>
    rw [hdone hp]
    exact ⟨live, h⟩
  | submit hp hpos hrow hins hbase =>
    obtain ⟨rfl, hcall⟩ := hcalls hp
    rw [hcall] at hok ⊢
    obtain ⟨live', hadvanced⟩ := Waiting.advanced_submit hpos hrow hins hbase h.whole p.gateway draw
      clockMs h.plain h.covered rfl hok
    exact ⟨live', h.of_advanced (hplain _) hadvanced rfl rfl h.expected⟩
  | @cancel _ env _ _ hp hmapped =>
    obtain ⟨rfl, hcall⟩ := hcalls hp
    have hadvanced := Waiting.advanced_cancel env h.tracking h.whole hmapped h.covered
      (hcancels hp)
    rw [hcall]
    exact ⟨_, h.of_advanced (hplain _) hadvanced rfl rfl h.expected⟩
  | @kill s env orders hp horders =>
    rcases OrderManager.cancelOpenOrders_cases env orders s with
      hloop | ⟨stored, rest, broker, hstored, hrest, hbroker, hloop⟩
    · rw [hloop] at hp
      rw [hdone hp]
      exact ⟨live, h⟩
    · rw [hloop] at hp
      obtain ⟨rfl, hcall⟩ := hcalls hp
      rw [hcall] at hok ⊢
      have hkilled : ∀ b, p.manager.idMapper.getBrokerId stored.localId = some b → b = broker := by
        intro b hmapped
        have hcarried := horders stored hstored b hmapped
        rw [hbroker] at hcarried
        exact (Option.some.inj hcarried).symm
      have hadvanced := Waiting.advanced_kill env h.tracking h.whole h.covered (hcancels hp)
        hkilled
        (fun row hrow => horders row (hrest row hrow)) hok
      exact ⟨_, h.of_advanced (hplain _) hadvanced rfl rfl h.expected⟩

end Conserved

/-! ## Runs -/

/-- Every call on the store succeeds in the step. -/
def PaperTrading.StoreSucceeds (p : PaperTrading) (a : PaperAction) : Prop :=
  (p.step a).manager.storeFailures = p.manager.storeFailures

instance PaperTrading.decidableStoreSucceeds (p : PaperTrading) (a : PaperAction) :
    Decidable (p.StoreSucceeds a) :=
  inferInstanceAs (Decidable ((p.step a).manager.storeFailures = p.manager.storeFailures))

/-- An order that is submitted has a positive quantity. -/
def PaperAction.Positive : PaperAction → Prop
  | .command (.submit signal) => 0 < signal.targetQuantity
  | _ => True

instance PaperAction.decidablePositive : (a : PaperAction) → Decidable a.Positive
  | .command (.submit signal) => inferInstanceAs (Decidable (0 < signal.targetQuantity))
  | .command (.cancel _) | .command (.cancelAll _ _) | .poll _ | .enqueueReport | .take | .deliver
  | .bar _ | .tick _ | .pop _ | .call _ _ | .finish => isTrue trivial

/-- When the order manager cancels an order at the gateway, no report of the order is in flight. -/
def PaperTrading.Settled (p : PaperTrading) : PaperAction → Prop
  | .call _ _ => ∀ r ∈ p.inFlight, p.cancelsNext ≠ some r.brokerOrderId
  | _ => True

instance PaperTrading.decidableSettled (p : PaperTrading) :
    (a : PaperAction) → Decidable (p.Settled a)
  | .call _ _ =>
    inferInstanceAs (Decidable (∀ r ∈ p.inFlight, p.cancelsNext ≠ some r.brokerOrderId))
  | .poll _ | .enqueueReport | .take | .deliver | .command _ | .bar _ | .tick _ | .pop _
  | .finish =>
    isTrue trivial

/-- Both queues are empty and no report is on its way between them or handled. -/
structure PaperTrading.Quiescent (p : PaperTrading) : Prop where
  generatedFills_eq : p.generatedFills = []
  reportsQueue_eq : p.reportsQueue = []
  delivering_eq : p.delivering = none
  queue_eq : p.queue.q = []
  handling_eq : p.handling.bind OMEvent.report = none

/-- Nothing is in flight when the queues are empty. -/
lemma PaperTrading.Quiescent.inFlight_eq {p : PaperTrading} (h : p.Quiescent) :
    p.inFlight = [] := by
  unfold PaperTrading.inFlight
  rw [h.queue_eq, h.delivering_eq, h.reportsQueue_eq, h.generatedFills_eq]
  rfl

/-- What was generated is booked when nothing is in flight. -/
def PaperTrading.QuantityKept (p : PaperTrading) : Prop :=
  p.Quiescent → ∀ symbol,
    (p.manager.positionKeeper.positionOf symbol).quantity = signedIn p.generated symbol

namespace Conserved

variable {p : PaperTrading} {live : LiveOrders}

/-- **Step lemma.** -/
lemma step (h : Conserved p live) {a : PaperAction} (hok : p.StoreSucceeds a) (hpos : a.Positive)
    (hsettled : p.Settled a) : ∃ live', Conserved (p.step a) live' := by
  have hmoves : a.Moves → (∀ event, a.Adds event → event.Expected) →
      ∃ live', Conserved (p.step a) live' :=
    fun ha hnew => ⟨live, h.of_moved (p.moved_step ha) hnew⟩
  cases a with
  | poll poll => exact ⟨live, h.simulateFills poll⟩
  | pop env => exact h.pop hok
  | call draw clockMs => exact h.call hok hsettled
  | enqueueReport | take | finish => exact hmoves trivial fun _ hadds => hadds.elim
  | deliver =>
    refine hmoves trivial fun event hadds => ?_
    obtain ⟨r, rfl⟩ := hadds
    trivial
  | bar bar =>
    refine hmoves trivial fun event hadds => ?_
    obtain rfl := hadds
    trivial
  | tick tick =>
    refine hmoves trivial fun event hadds => ?_
    obtain rfl := hadds
    trivial
  | command command =>
    refine hmoves trivial fun event hadds => ?_
    obtain rfl := hadds
    cases command with
    | submit signal => exact hpos
    | cancel signal => trivial
    | cancelAll reason initiatedBy => trivial

/-- When nothing is in flight, all that was generated is booked. -/
lemma quantityKept (h : Conserved p live) : p.QuantityKept := by
  intro hquiescent symbol
  have hbalanced := h.balanced symbol
  rw [hquiescent.inFlight_eq, signedIn_nil, add_zero] at hbalanced
  exact hbalanced

end Conserved

/-- **No executed quantity is lost** in a run in which the calls on the store succeed and no order
is cancelled at the gateway while a report of it is in flight. -/
theorem executed_quantity_kept (accountId : String) (store : SQLiteOrderStore)
    (riskManager : RiskManager) (config : PaperGatewayConfig) (actions : List PaperAction)
    (hpositive : ∀ a ∈ actions, a.Positive)
    (hstore : Trajectory.AllSteps PaperTrading.step PaperTrading.StoreSucceeds
      (.start accountId store riskManager config) actions)
    (hsettled : Trajectory.AllSteps PaperTrading.step PaperTrading.Settled
      (.start accountId store riskManager config) actions) :
    Trajectory.EveryState PaperTrading.step PaperTrading.QuantityKept
      (.start accountId store riskManager config) actions := by
  have hsteps := Trajectory.allSteps_and.mpr
    ⟨Trajectory.allSteps_of_forall hpositive, Trajectory.allSteps_and.mpr ⟨hstore, hsettled⟩⟩
  have hinv : Trajectory.EveryState PaperTrading.step (fun p => ∃ live, Conserved p live)
      (.start accountId store riskManager config) actions := by
    refine Trajectory.everyState_of_invariant ?_ ⟨_, .start accountId store riskManager config⟩
      hsteps
    rintro p a ⟨live, h⟩ ⟨hpos, hok, hsettled⟩
    exact h.step hok hpos hsettled
  apply hinv.mono
  rintro p ⟨live, h⟩
  exact h.quantityKept

/-- The first order, of 10 shares, is submitted, and a poll with the draw generates the report of a
fill. -/
def fillFirst (full : ℚ) : List PaperAction :=
  [.command (.submit { symbol := "AAPL", side := .buy, targetQuantity := 10 }), .pop .quiet,
    .call 1 0, .finish,
    .poll ⟨["BROKER_0_000000"], fun _ => 0, fun _ => ⟨0, full, 1 / 2, "1970-01-01T00:00:01Z"⟩⟩]

/-- The generated report is delivered and handled. -/
def deliverFirst : List PaperAction :=
  [.enqueueReport, .take, .deliver, .pop .quiet, .finish]

/-- The first order is cancelled. -/
def cancelFirst : List PaperAction :=
  [.command (.cancel { orderId := "ORD_0_000000" }), .pop .quiet, .call 1 0, .finish]

/-- Half of the order is filled, and this is handled before the gateway cancels the rest. -/
theorem executed_quantity_kept_first :
    Trajectory.EveryState PaperTrading.step PaperTrading.QuantityKept (.start "ACC" .empty ⟨{}⟩ {})
        (fillFirst 1 ++ deliverFirst ++ cancelFirst) ∧
      (Trajectory.run PaperTrading.step (.start "ACC" .empty ⟨{}⟩ {})
        (fillFirst 1 ++ deliverFirst)).gateway.pendingOrders.keys = ["BROKER_0_000000"] ∧
      (Trajectory.run PaperTrading.step (.start "ACC" .empty ⟨{}⟩ {})
        (fillFirst 1 ++ deliverFirst ++ cancelFirst)).gateway.pendingOrders.keys = [] :=
  ⟨executed_quantity_kept "ACC" .empty ⟨{}⟩ {} _ (by decide +kernel) (by decide +kernel)
    (by decide +kernel), by decide +kernel, by decide +kernel⟩

/-- The order is cancelled before its fill is handled.  Every call on the store succeeds, and the 10
shares that were executed are in no position. -/
theorem fill_in_flight_lost :
    (∀ a ∈ fillFirst 0 ++ cancelFirst ++ deliverFirst, a.Positive) ∧
      Trajectory.AllSteps PaperTrading.step PaperTrading.StoreSucceeds
        (.start "ACC" .empty ⟨{}⟩ {}) (fillFirst 0 ++ cancelFirst ++ deliverFirst) ∧
      ¬ Trajectory.EveryState PaperTrading.step PaperTrading.QuantityKept
        (.start "ACC" .empty ⟨{}⟩ {}) (fillFirst 0 ++ cancelFirst ++ deliverFirst) := by
  refine ⟨by decide +kernel, by decide +kernel, fun h => ?_⟩
  have hkept := h.last ⟨by decide +kernel, by decide +kernel, by decide +kernel, by decide +kernel,
    by decide +kernel⟩ "AAPL"
  revert hkept
  decide +kernel

end Quarcc
