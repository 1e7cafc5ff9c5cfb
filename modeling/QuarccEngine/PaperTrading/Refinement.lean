import QuarccEngine.Gateways.PaperThreads
import QuarccEngine.PaperTrading.Bookings

/-!
# Paper trading refines to the stored orders

The rows of the order manager and its mapper record the bookings of `Bookings.lean`, in every state
of a system that gets submit commands only.  A report is booked when it is handled, and the mapping
that this needs is there: events are handled one after the other, so that the submit command, of
which the report knows the broker id, has been handled before.
-/

namespace Quarcc

/-! ## The rows -/

/-- What the row of an order says that was stored in this session.  The gateway has not accepted the
order, or the row records the booking, and the order is mapped until it is filled. -/
inductive StoredOrder.Records (row : StoredOrder) (mapper : OrderIdMapper) (booked : Bookings) :
    Prop
  | refused (hbroker : row.brokerId = none) (hfilled : row.filledQuantity = 0)
      (hstatus : row.status ≠ .filled)
  | accepted {broker : BrokerOrderId} (hbroker : row.brokerId = some broker)
      (hbooked : booked broker = some ⟨row.order.quantity, row.filledQuantity⟩)
      (hopen : row.filledQuantity < row.order.quantity →
        mapper.getBrokerId row.localId = some broker ∧ row.status ≠ .filled)
      (hfull : row.order.quantity ≤ row.filledQuantity →
        mapper.getBrokerId row.localId = none ∧ row.status = .filled)

/-- What a row says depends on the mapping and on the booking of its own order. -/
lemma StoredOrder.Records.congr {row : StoredOrder} {mapper mapper' : OrderIdMapper}
    {booked booked' : Bookings} (h : row.Records mapper booked)
    (hmapper : mapper'.getBrokerId row.localId = mapper.getBrokerId row.localId)
    (hbooked : ∀ broker, row.brokerId = some broker → booked' broker = booked broker) :
    row.Records mapper' booked' := by
  cases h with
  | refused hbroker hfilled hstatus => exact .refused hbroker hfilled hstatus
  | accepted hbroker hold hopen hfull =>
    refine .accepted hbroker ((hbooked _ hbroker).trans hold) ?_ ?_
    · rw [hmapper]
      exact hopen
    · rw [hmapper]
      exact hfull

/-- The row of an order that is filled records the booking of the fill. -/
lemma StoredOrder.Records.of_fill {b : Books} {booked : Bookings} {row : StoredOrder}
    {report : V1.ExecutionReport} (now : String)
    (hcarried : row.brokerId = some report.brokerOrderId)
    (hmapped : b.idMapper.getBrokerId row.localId = some report.brokerOrderId)
    (hbooked : booked report.brokerOrderId = some ⟨row.order.quantity, row.filledQuantity⟩) :
    (row.withFill report.filledQuantity report.avgFillPrice (Books.fillStatus row report)
      now).Records (b.fill row.localId row report now true).idMapper (booked.fill report) := by
  have hnow : booked.fill report report.brokerOrderId =
      some ⟨row.order.quantity, row.filledQuantity + report.filledQuantity⟩ := by
    unfold Bookings.fill
    rw [Function.update_self, hbooked]
    rfl
  refine .accepted hcarried hnow (fun hopen => ?_) fun hfull => ?_
  · have hopen' : ¬ row.order.quantity ≤ row.filledQuantity + report.filledQuantity :=
      not_le.mpr hopen
    rw [Books.fill_idMapper, if_neg hopen']
    refine ⟨hmapped, ?_⟩
    simp [StoredOrder.withFill, Books.fillStatus, hopen']
  · have hfull' : row.order.quantity ≤ row.filledQuantity + report.filledQuantity := hfull
    rw [Books.fill_idMapper, if_pos hfull', OrderIdMapper.getBrokerId_removeMapping]
    refine ⟨if_pos rfl, ?_⟩
    simp [StoredOrder.withFill, Books.fillStatus, hfull']

/-- The rows that were not in the store at the start record the bookings. -/
structure Recorded (initial : SQLiteOrderStore) (mapper : OrderIdMapper) (store : SQLiteOrderStore)
    (booked : Bookings) : Prop where
  inverse : mapper.Inverse
  kept : ∀ l, initial.find l ≠ none → store.find l ≠ none
  records : ∀ l row, store.find l = some row → initial.find l = none → row.Records mapper booked
  row_of_booked : ∀ broker, booked broker ≠ none →
    ∃ l row, store.find l = some row ∧ initial.find l = none ∧ row.brokerId = some broker
  row_of_mapped : ∀ l broker, mapper.getBrokerId l = some broker →
    ∃ row, store.find l = some row ∧ row.brokerId = some broker

namespace Recorded

variable {initial store store' base : SQLiteOrderStore} {mapper : OrderIdMapper}
  {booked : Bookings} {row row' : StoredOrder} {broker : BrokerOrderId}

/-- An order manager that was just created. -/
lemma start (store : SQLiteOrderStore) : Recorded store {} store fun _ => none where
  inverse := OrderIdMapper.inverse_empty
  kept := fun _ h => h
  records := by
    intro l row hrow hnew
    rw [hnew] at hrow
    cases hrow
  row_of_booked := by simp
  row_of_mapped := by simp

/-- An order that the gateway has not accepted is stored. -/
lemma insert (h : Recorded initial mapper store booked)
    (hins : SQLiteOrderStore.Inserted store row store') (hbroker : row.brokerId = none)
    (hfilled : row.filledQuantity = 0) (hstatus : row.status ≠ .filled) :
    Recorded initial mapper store' booked where
  inverse := h.inverse
  kept := fun l hl => hins.find_ne_none (h.kept l hl)
  records := by
    intro l other hother hnew
    rw [hins.find] at hother
    split_ifs at hother with hl
    · obtain rfl := Option.some.inj hother
      exact .refused hbroker hfilled hstatus
    · exact h.records l other hother hnew
  row_of_booked := by
    intro b hb
    obtain ⟨l, other, hother, hnew, hcarried⟩ := h.row_of_booked b hb
    exact ⟨l, other, hins.find_of_find hother, hnew, hcarried⟩
  row_of_mapped := by
    intro l b hl
    obtain ⟨other, hother, hcarried⟩ := h.row_of_mapped l b hl
    exact ⟨other, hins.find_of_find hother, hcarried⟩

/-- No row carries the broker id that the row which was stored last can be given. -/
lemma not_carried (hins : SQLiteOrderStore.Inserted base row store) (hnone : row.brokerId = none)
    (hfresh : ¬ base.Carries broker) {l : LocalOrderId} {other : StoredOrder}
    (hother : store.find l = some other) : other.brokerId ≠ some broker := by
  intro hcarried
  rw [hins.find] at hother
  split_ifs at hother
  · obtain rfl := Option.some.inj hother
    rw [hnone] at hcarried
    cases hcarried
  · exact hfresh (SQLiteOrderStore.carries_iff.mpr ⟨l, other, hother, hcarried⟩)

/-- An order that the gateway has not accepted is rejected. -/
lemma reject (h : Recorded initial mapper store booked) {localId : LocalOrderId}
    (hrow : store.find localId = some row) (hnone : row.brokerId = none) (now : String) :
    Recorded initial mapper (store.setStatus localId .rejected now) booked := by
  have hkeep : ∀ l other, store.find l = some other → other.brokerId ≠ none →
      (store.setStatus localId .rejected now).find l = some other := by
    intro l other hother hcarries
    rw [SQLiteOrderStore.find_setStatus, if_neg, hother]
    rintro rfl
    rw [hrow] at hother
    obtain rfl := Option.some.inj hother
    exact hcarries hnone
  refine ⟨h.inverse, fun l hl => ?_, fun l other hother hl => ?_, fun b hb => ?_, fun l b hl => ?_⟩
  · exact SQLiteOrderStore.find_setStatus_ne_none .rejected now (h.kept l hl)
  · rw [SQLiteOrderStore.find_setStatus] at hother
    split_ifs at hother with hll
    · rw [hll, hrow] at hother
      obtain rfl := Option.some.inj hother
      cases h.records l row (hll ▸ hrow) hl with
      | refused _ hf _ => exact .refused hnone hf (by simp [StoredOrder.withStatus])
      | accepted hb _ _ _ =>
        rw [hnone] at hb
        cases hb
    · exact h.records l other hother hl
  · obtain ⟨l, other, hother, hl, hcarries⟩ := h.row_of_booked b hb
    exact ⟨l, other, hkeep l other hother (by simp [hcarries]), hl, hcarries⟩
  · obtain ⟨other, hother, hcarries⟩ := h.row_of_mapped l b hl
    exact ⟨other, hkeep l other hother (by simp [hcarries]), hcarries⟩

/-- The gateway has accepted the order of the row that was stored last. -/
lemma accept (h : Recorded initial mapper store booked)
    (hins : SQLiteOrderStore.Inserted base row store) (hnone : row.brokerId = none)
    (hnew : initial.find row.localId = none) (hins' : SQLiteOrderStore.Inserted base row' store')
    (hid : row'.localId = row.localId) (hbroker : row'.brokerId = some broker)
    (hfilled : row'.filledQuantity = 0) (hstatus : row'.status ≠ .filled)
    (hpos : 0 < row'.order.quantity) :
    booked broker = none ∧ Recorded initial (mapper.addMapping row'.localId broker) store'
      (booked.accept broker row'.order.quantity) := by
  have hcarried : ∀ l other, store.find l = some other → other.brokerId ≠ some broker :=
    fun _ _ => not_carried hins hnone (hins'.broker_fresh broker hbroker)
  have hbooked : booked broker = none := by
    by_contra hsome
    obtain ⟨l, other, hother, -, hb⟩ := h.row_of_booked broker hsome
    exact hcarried l other hother hb
  have hne : ∀ b, booked b ≠ none → b ≠ broker := by
    rintro b hb rfl
    exact hb hbooked
  have hself : store'.find row'.localId = some row' := by
    rw [hins'.find, if_pos rfl]
  have hkeep : ∀ l, l ≠ row'.localId → store'.find l = store.find l := by
    intro l hl
    rw [hins'.find, if_neg hl, hins.find, if_neg (hid ▸ hl)]
  have hunmapped : mapper.getBrokerId row'.localId = none := by
    by_contra hsome
    obtain ⟨b, hb⟩ := Option.ne_none_iff_exists'.mp hsome
    obtain ⟨other, hother, hcarries⟩ := h.row_of_mapped _ b hb
    rw [hid, hins.find, if_pos rfl] at hother
    obtain rfl := Option.some.inj hother
    rw [hnone] at hcarries
    cases hcarries
  refine ⟨hbooked, ?_, ?_, ?_, ?_, ?_⟩
  · apply h.inverse.addMapping hunmapped
    by_contra hsome
    obtain ⟨l, hl⟩ := Option.ne_none_iff_exists'.mp hsome
    obtain ⟨other, hother, hcarries⟩ := h.row_of_mapped l broker ((h.inverse l broker).mp hl)
    exact hcarried l other hother hcarries
  · intro l hl
    by_cases hll : l = row'.localId
    · rw [hll, hself]
      simp
    · rw [hkeep l hll]
      exact h.kept l hl
  · intro l other hother hl
    unfold Bookings.accept
    by_cases hll : l = row'.localId
    · rw [hll, hself] at hother
      obtain rfl := Option.some.inj hother
      refine .accepted hbroker ?_ (fun _ => ⟨?_, hstatus⟩) fun hfull => ?_
      · rw [Function.update_self, hfilled]
      · rw [OrderIdMapper.getBrokerId_addMapping, if_pos rfl]
      · rw [hfilled] at hfull
        exact absurd hpos (not_lt.mpr hfull)
    · rw [hkeep l hll] at hother
      have hlocal := SQLiteOrderStore.localId_of_find hother
      refine (h.records l other hother hl).congr ?_ fun b hb => Function.update_of_ne ?_ _ _
      · rw [OrderIdMapper.getBrokerId_addMapping, if_neg (hlocal ▸ hll)]
      · rintro rfl
        exact hcarried l other hother hb
  · intro b hb
    by_cases hbb : b = broker
    · exact ⟨row'.localId, row', hself, hid ▸ hnew, hbb ▸ hbroker⟩
    · unfold Bookings.accept at hb
      rw [Function.update_of_ne hbb] at hb
      obtain ⟨l, other, hother, hl, hcarries⟩ := h.row_of_booked b hb
      have hll : l ≠ row'.localId := by
        rintro rfl
        rw [hid, hins.find, if_pos rfl] at hother
        obtain rfl := Option.some.inj hother
        rw [hnone] at hcarries
        cases hcarries
      exact ⟨l, other, (hkeep l hll).trans hother, hl, hcarries⟩
  · intro l b hl
    rw [OrderIdMapper.getBrokerId_addMapping] at hl
    by_cases hll : l = row'.localId
    · rw [if_pos hll] at hl
      exact ⟨row', hll ▸ hself, hbroker.trans hl⟩
    · rw [if_neg hll] at hl
      obtain ⟨other, hother, hcarries⟩ := h.row_of_mapped l b hl
      exact ⟨other, (hkeep l hll).trans hother, hcarries⟩

/-- A fill of a mapped order is booked. -/
lemma fill {b : Books} (h : Recorded initial b.idMapper b.orderStore booked)
    {report : V1.ExecutionReport} {localId : LocalOrderId} (now : String)
    (hrow : b.orderStore.find localId = some row)
    (hcarried : row.brokerId = some report.brokerOrderId)
    (hmapped : b.idMapper.getBrokerId localId = some report.brokerOrderId)
    (hbooked : booked report.brokerOrderId = some ⟨row.order.quantity, row.filledQuantity⟩) :
    Recorded initial (b.fill localId row report now true).idMapper
      (b.fill localId row report now true).orderStore (booked.fill report) := by
  have hlocal := SQLiteOrderStore.localId_of_find hrow
  have hfind : ∀ l, (b.fill localId row report now true).orderStore.find l =
      if l = localId then some (row.withFill report.filledQuantity report.avgFillPrice
        (Books.fillStatus row report) now) else b.orderStore.find l := by
    intro l
    rw [Books.fill_orderStore, if_pos rfl]
    exact SQLiteOrderStore.find_addFill_of_find hrow _ _ _ _ l
  -- the rows keep their broker ids
  have hkeep : ∀ l other, b.orderStore.find l = some other →
      ∃ other', (b.fill localId row report now true).orderStore.find l = some other' ∧
        other'.brokerId = other.brokerId := by
    intro l other hother
    rw [hfind]
    by_cases hl : l = localId
    · rw [hl, hrow] at hother
      obtain rfl := Option.some.inj hother
      exact ⟨_, if_pos hl, rfl⟩
    · exact ⟨other, by rw [if_neg hl, hother], rfl⟩
  refine ⟨?_, fun l hl => ?_, fun l other hother hl => ?_, fun broker hb => ?_,
    fun l broker hl => ?_⟩
  · rw [Books.fill_idMapper]
    split_ifs
    · exact h.inverse.removeMapping localId
    · exact h.inverse
  · obtain ⟨other, hother⟩ := Option.ne_none_iff_exists'.mp (h.kept l hl)
    obtain ⟨other', hother', -⟩ := hkeep l other hother
    rw [hother']
    exact Option.some_ne_none other'
  · rw [hfind] at hother
    by_cases hll : l = localId
    · rw [if_pos hll] at hother
      obtain rfl := Option.some.inj hother
      subst hlocal
      exact .of_fill now hcarried hmapped hbooked
    · rw [if_neg hll] at hother
      have hlocal' := SQLiteOrderStore.localId_of_find hother
      refine (h.records l other hother hl).congr ?_ fun broker hb => Function.update_of_ne ?_ _ _
      · rw [Books.fill_idMapper]
        split_ifs
        · rw [OrderIdMapper.getBrokerId_removeMapping, if_neg (hlocal' ▸ hll)]
        · rfl
      · rintro rfl
        exact hll (SQLiteOrderStore.eq_of_brokerId hother hrow hb hcarried)
  · have hold : booked broker ≠ none := by
      unfold Bookings.fill at hb
      by_cases hbb : broker = report.brokerOrderId
      · rw [hbb, hbooked]
        simp
      · rwa [Function.update_of_ne hbb] at hb
    obtain ⟨l, other, hother, hl, hcarries⟩ := h.row_of_booked broker hold
    obtain ⟨other', hother', hsame⟩ := hkeep l other hother
    exact ⟨l, other', hother', hl, hsame.trans hcarries⟩
  · have hold : b.idMapper.getBrokerId l = some broker := by
      rw [Books.fill_idMapper] at hl
      split_ifs at hl
      · rw [OrderIdMapper.getBrokerId_removeMapping] at hl
        split_ifs at hl
        exact hl
      · exact hl
    obtain ⟨other, hother, hcarries⟩ := h.row_of_mapped l broker hold
    obtain ⟨other', hother', hsame⟩ := hkeep l other hother
    exact ⟨other', hother', hsame.trans hcarries⟩

end Recorded

/-! ## The handlers -/

/-- The end of `handle_submit_command`, when the gateway has answered. -/
def OrderManager.answerSubmit (s : OrderManager) (env : Env) (localId : LocalOrderId) :
    Result BrokerOrderId → Handler
  | .error e => .done (s.rejectSubmit env localId e)
  | .ok broker => .done (s.acceptSubmit env localId broker)

/-- The handler is through, or it has stored a new order and submits it. -/
inductive Submitting (initial : SQLiteOrderStore) (p : Handler) : Prop
  | done {s : OrderManager} (hp : p = .done s)
  | submit {s : OrderManager} {env : Env} {order : V1.Order} {row : StoredOrder}
      {base : SQLiteOrderStore}
      (hp : p = .call s (.submitOrder order) (s.answerSubmit env order.id))
      (hpos : 0 < order.quantity) (hrow : row.IsNew order .pendingSubmission none)
      (hins : SQLiteOrderStore.Inserted base row s.orderStore)
      (hnew : initial.find row.localId = none)

/-- What the dispatch thread has made of the handler and the order manager, when it has handled no
report. -/
structure Submitting.Advanced (initial : SQLiteOrderStore)
    (pending : AList fun _ : BrokerOrderId => SimulatedOrder)
    (flight generated : List V1.ExecutionReport) (p : Handler) (booked : Bookings) : Prop where
  recorded : Recorded initial p.state.idMapper p.state.orderStore booked
  accounted : Accounted pending flight generated booked
  submitting : Submitting initial p

namespace Submitting

variable {initial : SQLiteOrderStore} {pending : AList fun _ : BrokerOrderId => SimulatedOrder}
  {flight generated : List V1.ExecutionReport} {s : OrderManager} {booked : Bookings}

/-- A handler that ends with other books, which record the bookings. -/
lemma advanced_done {s' : OrderManager} {b : Books} (hbooks : s'.toBooks = b)
    (hrecorded : Recorded initial b.idMapper b.orderStore booked)
    (haccounted : Accounted pending flight generated booked) :
    Advanced initial pending flight generated (.done s') booked := by
  subst hbooks
  exact ⟨hrecorded, haccounted, .done rfl⟩

/-- A new order is rejected by the risk manager or by the gateway. -/
lemma advanced_reject {env : Env} {base : SQLiteOrderStore} {row : StoredOrder} {order : V1.Order}
    {e : Error} (hrecorded : Recorded initial s.idMapper s.orderStore booked)
    (haccounted : Accounted pending flight generated booked)
    (hrow : row.IsNew order .pendingSubmission none)
    (hins : SQLiteOrderStore.Inserted base row s.orderStore)
    (hok : (s.rejectSubmit env order.id e).storeFailures = s.storeFailures) :
    Advanced initial pending flight generated (.done (s.rejectSubmit env order.id e)) booked := by
  rcases s.rejectSubmit_cases env order.id e with ⟨hb, -⟩ | ⟨-, hf⟩
  swap
  · omega
  have hfind : s.orderStore.find order.id = some row := by
    rw [hins.find, if_pos hrow.localId_eq.symm]
  exact advanced_done hb (hrecorded.reject hfind hrow.brokerId_eq env.sqliteNow) haccounted

/-- The gateway has answered a submit command; it has kept the orders that were pending. -/
lemma advanced_submit {env : Env} {order : V1.Order} {row : StoredOrder}
    {base : SQLiteOrderStore} (hpos : 0 < order.quantity)
    (hrow : row.IsNew order .pendingSubmission none)
    (hins : SQLiteOrderStore.Inserted base row s.orderStore)
    (hnew : initial.find row.localId = none)
    (hrecorded : Recorded initial s.idMapper s.orderStore booked) (g : PaperGateway) (draw : ℚ)
    (clockMs : ℤ) (hplain : g.PlainIds)
    (haccounted : Accounted g.pendingOrders flight generated booked)
    (hok : (s.answerSubmit env order.id (g.submitOrder draw clockMs order).2).state.storeFailures =
      s.storeFailures) :
    (∃ booked', Advanced initial (g.submitOrder draw clockMs order).1.pendingOrders flight generated
      (s.answerSubmit env order.id (g.submitOrder draw clockMs order).2) booked') ∧
    ∀ broker sim, g.pendingOrders.lookup broker = some sim →
      (g.submitOrder draw clockMs order).1.pendingOrders.lookup broker = some sim := by
  unfold PaperGateway.submitOrder at hok ⊢
  by_cases hdraw : draw < g.config.rejectionProbability
  · -- the gateway rejects the order
    rw [if_pos hdraw] at hok ⊢
    exact ⟨⟨booked, advanced_reject hrecorded haccounted hrow hins hok⟩, fun _ _ hsim => hsim⟩
  rw [if_neg hdraw] at hok ⊢
  dsimp only [PaperGateway.getOrInitPrice] at hok ⊢
  rw [PaperGateway.initPrice_pendingOrders]
  have hbroker : NoZeroByte (g.idGen.generate clockMs).1 :=
    OrderIdGenerator.noZeroByte_generate hplain clockMs
  generalize (g.idGen.generate clockMs).1 = broker at hok hbroker ⊢
  unfold OrderManager.answerSubmit at hok ⊢
  rw [Program.state_done] at hok
  rcases s.acceptSubmit_cases env hins hrow broker with
    ⟨-, -, hf⟩ | ⟨row', store, carried, hrow', hins', hb, hcarried⟩
  · omega
  rcases hcarried with ⟨rfl, -⟩ | ⟨-, -, hf⟩
  swap
  · omega
  rw [hbroker.cStr_eq] at hrow'
  have hquantity : row'.order.quantity = order.quantity := by
    rw [hrow'.order_eq]
  obtain ⟨hfresh, haccept⟩ := hrecorded.accept hins hrow.brokerId_eq hnew hins'
    (hrow'.localId_eq.trans hrow.localId_eq.symm) hrow'.brokerId_eq hrow'.filledQuantity_eq
    (by simp [hrow'.status_eq]) (hquantity ▸ hpos)
  rw [hquantity] at haccept
  refine ⟨⟨_, advanced_done hb haccept (haccounted.accept hfresh hpos _)⟩, fun b sim hsim => ?_⟩
  have hne : b ≠ broker := by
    rintro rfl
    obtain ⟨-, -, order', hbooked, -⟩ := haccounted.pending_booked b sim hsim
    rw [hfresh] at hbooked
    cases hbooked
  rw [FiniteMap.lookup_insert_eq, if_neg hne, hsim]

/-- The dispatch thread starts to handle a submit command. -/
lemma advanced_handleSubmit {env : Env} {signal : V1.StrategySignal}
    (hrecorded : Recorded initial s.idMapper s.orderStore booked)
    (haccounted : Accounted pending flight generated booked) (hpos : 0 < signal.targetQuantity)
    (hok : (s.handleSubmitCommand env signal).state.storeFailures = s.storeFailures) :
    Advanced initial pending flight generated (s.handleSubmitCommand env signal) booked := by
  obtain ⟨createdAt, hts⟩ := timestampToString_ok env.now
  rw [s.handleSubmitCommand_eq env signal hts] at hok ⊢
  rcases (s.beginSubmit env signal).storeOrder_cases env (s.rowOfSubmit env signal createdAt)
    with ⟨-, e, hstore⟩ | ⟨-, store, hins, hstore⟩
  · -- the row is not stored
    rw [hstore, Program.state_done] at hok
    have hfailed : s.storeFailures + 1 = s.storeFailures := hok
    omega
  rw [hstore] at hok ⊢
  dsimp only at hok ⊢
  generalize hs' : ({ s.beginSubmit env signal with orderStore := store } : OrderManager) = s'
    at hok ⊢
  have hmapper : s'.idMapper = s.idMapper := by
    rw [← hs']
    rfl
  have hfailures : s'.storeFailures = s.storeFailures := by
    rw [← hs']
    rfl
  have hins' : SQLiteOrderStore.Inserted s.orderStore (s.rowOfSubmit env signal createdAt).bound
      s'.orderStore := by
    rw [← hs']
    exact hins
  have hrow : (s.rowOfSubmit env signal createdAt).bound.IsNew (s.orderOfSubmit env signal)
      .pendingSubmission none := StoredOrder.IsNew.bound ⟨rfl, rfl, rfl, rfl, rfl, rfl⟩
  have hnew : initial.find (s.rowOfSubmit env signal createdAt).bound.localId = none := by
    by_contra hold
    exact hrecorded.kept _ hold hins'.fresh
  have hstored : Recorded initial s'.idMapper s'.orderStore booked := by
    rw [hmapper]
    exact hrecorded.insert hins' rfl rfl (by simp [OrderManager.rowOfSubmit, StoredOrder.bound])
  cases hrisk : s'.checkSubmit signal with
  | error e =>
    -- the risk manager rejects the order
    rw [hrisk] at hok
    exact advanced_reject hstored haccounted hrow hins' (hok.trans hfailures.symm)
  | ok u => exact ⟨hstored, haccounted, .submit rfl hpos hrow hins' hnew⟩

end Submitting

/-! ## The invariant -/

/-- The events that the order manager gets here: orders of a positive quantity are submitted, and
nothing is cancelled or replaced. -/
def OMEvent.Submits : OMEvent → Prop
  | .submitCommand signal => 0 < signal.targetQuantity
  | .cancelCommand _ | .replaceCommand _ | .cancelAllCommand _ _ => False
  | _ => True

/-- Orders of a positive quantity are submitted, and nothing is cancelled. -/
def PaperAction.Submits : PaperAction → Prop
  | .command (.submit signal) => 0 < signal.targetQuantity
  | .command _ => False
  | _ => True

/-- The rows mirror what the gateway has generated: they record the bookings, which account for
it. -/
structure Mirrored (initial : SQLiteOrderStore) (p : PaperTrading) (booked : Bookings) : Prop where
  plain : p.gateway.PlainIds
  recorded : Recorded initial p.manager.idMapper p.manager.orderStore booked
  accounted : Accounted p.gateway.pendingOrders p.inFlight p.generated booked
  submitting : Submitting initial p.handler
  expected : ∀ event ∈ p.queue.q, event.Submits

namespace Mirrored

variable {initial : SQLiteOrderStore} {p p' : PaperTrading} {booked : Bookings}

/-- A new order manager with a gateway that has no orders. -/
lemma start (accountId : String) (store : SQLiteOrderStore) (riskManager : RiskManager)
    (config : PaperGatewayConfig) :
    Mirrored store (.start accountId store riskManager config) fun _ => none where
  plain := PaperGateway.plainIds_start config
  recorded := .start store
  accounted := .start
  submitting := .done rfl
  expected := by
    intro event hevent
    cases hevent

/-- A step that moves a report or an event on. -/
lemma of_moved (h : Mirrored initial p booked) {new : OMEvent → Prop} (hmoved : p.Moved p' new)
    (hnew : ∀ event, new event → event.Submits) : Mirrored initial p' booked := by
  have hmanager : p'.manager = p.manager := congrArg Program.state hmoved.handler_eq
  constructor
  · rw [hmoved.gateway_eq]
    exact h.plain
  · rw [hmanager]
    exact h.recorded
  · rw [hmoved.gateway_eq, hmoved.inFlight_eq, hmoved.generated_eq]
    exact h.accounted
  · rw [hmoved.handler_eq]
    exact h.submitting
  · intro event hevent
    exact (hmoved.queue_sub event hevent).elim (h.expected event) (hnew event)

/-- The simulation thread polls. -/
lemma simulateFills (h : Mirrored initial p booked) (poll : Poll) :
    Mirrored initial (p.simulateFills poll) booked := by
  rcases p.simulateFills_cases poll with
    hidle | ⟨hnodup, hgateway, hhandler, hqueue, hflight, hgenerated⟩
  · rw [hidle]
    exact h
  have hmanager : (p.simulateFills poll).manager = p.manager := congrArg Program.state hhandler
  constructor
  · rw [hgateway]
    exact h.plain.simulateFills poll
  · rw [hmanager]
    exact h.recorded
  · rw [hgateway, hflight, hgenerated]
    exact h.accounted.poll poll hnodup
  · rw [hhandler]
    exact h.submitting
  · rw [hqueue]
    exact h.expected

/-- The order of the next report in flight has a row, is mapped and is not filled. -/
lemma row_of_next (h : Mirrored initial p booked) {r : V1.ExecutionReport}
    {flight : List V1.ExecutionReport} (hflight : p.inFlight = r :: flight) :
    ∃ row, p.manager.orderStore.find row.localId = some row ∧
      row.brokerId = some r.brokerOrderId ∧
      p.manager.idMapper.getBrokerId row.localId = some r.brokerOrderId ∧
      booked r.brokerOrderId = some ⟨row.order.quantity, row.filledQuantity⟩ := by
  have haccounted := h.accounted
  rw [hflight] at haccounted
  obtain ⟨hisFill, hbooked⟩ := haccounted.flight_booked r List.mem_cons_self
  obtain ⟨l, row, hrow, hnew, hcarried⟩ := h.recorded.row_of_booked _ hbooked
  have hlocal := SQLiteOrderStore.localId_of_find hrow
  cases h.recorded.records l row hrow hnew with
  | refused hnone _ _ =>
    rw [hnone] at hcarried
    cases hcarried
  | accepted hb hbooked' hopen _ =>
    rw [hcarried] at hb
    obtain rfl := Option.some.inj hb
    have hle := haccounted.filled_le hbooked'
    have hpos := hisFill.quantity_pos
    have hlt : row.filledQuantity < row.order.quantity := lt_of_lt_of_le (by simpa using hpos) hle
    exact ⟨row, hlocal ▸ hrow, hcarried, (hopen hlt).1, hbooked'⟩

/-- The dispatch thread handles a report. -/
lemma handleFill (h : Mirrored initial p booked) {env : Env} {r : V1.ExecutionReport}
    (hok : (p.manager.handleFill env r).storeFailures = p.manager.storeFailures)
    (hhandler : p'.handler = .done (p.manager.handleFill env r)) (hgateway : p'.gateway = p.gateway)
    (hgenerated : p'.generated = p.generated) (hflight : p.inFlight = r :: p'.inFlight)
    (hexpected : ∀ event ∈ p'.queue.q, event.Submits) :
    Mirrored initial p' (booked.fill r) := by
  have haccounted := h.accounted
  rw [hflight] at haccounted
  obtain ⟨row, hrow, hcarried, hmapped, hbooked⟩ := h.row_of_next hflight
  obtain ⟨hisFill, -⟩ := haccounted.flight_booked r List.mem_cons_self
  let i : Input := ⟨.executionReport r, env, .accepting ""⟩
  have hmanager : p'.manager = dispatch p.manager i := congrArg Program.state hhandler
  obtain ⟨row', hrow', hbooks⟩ := (dispatch_move p.manager i).of_fill hok rfl
    ((h.recorded.inverse _ _).mpr hmapped) hisFill.not_terminal
  rw [hrow] at hrow'
  obtain rfl := Option.some.inj hrow'
  refine ⟨hgateway ▸ h.plain, ?_, ?_, .done hhandler, hexpected⟩
  · rw [hmanager, hbooks]
    exact h.recorded.fill env.sqliteNow hrow hcarried hmapped hbooked
  · rw [hgateway, hgenerated]
    exact haccounted.report

/-- The dispatch thread takes an event. -/
lemma pop (h : Mirrored initial p booked) {env : Env}
    (hok : (p.pop env).manager.storeFailures = p.manager.storeFailures) :
    ∃ booked', Mirrored initial (p.pop env) booked' := by
  rcases p.pop_cases env with
    hidle | ⟨event, tail, -, hq, hhandler, hgateway, hqueue, hgenerated, hflight⟩
  · rw [hidle]
    exact ⟨booked, h⟩
  have hevent : event.Submits := h.expected event (by simp [hq])
  have htail : ∀ other ∈ (p.pop env).queue.q, other.Submits := by
    rw [hqueue]
    exact fun other hother => h.expected other (by simp [hq, hother])
  have hok' : (p.manager.handle env event).state.storeFailures = p.manager.storeFailures := by
    rw [← hhandler]
    exact hok
  -- an event that is no report
  have hadvance : event.report = none →
      Submitting.Advanced initial p.gateway.pendingOrders p.inFlight p.generated
        (p.manager.handle env event) booked → ∃ booked', Mirrored initial (p.pop env) booked' := by
    intro hreport hadvanced
    rw [hreport] at hflight
    rw [← hhandler, ← hgateway, ← hgenerated, hflight] at hadvanced
    exact ⟨booked, hgateway ▸ h.plain, hadvanced.recorded, hadvanced.accounted,
      hadvanced.submitting, htail⟩
  cases event with
  | executionReport r =>
    exact ⟨_, h.handleFill hok' hhandler hgateway hgenerated hflight htail⟩
  | bar bar =>
    exact hadvance rfl (Submitting.advanced_done (p.manager.handleBar_toBooks bar) h.recorded
      h.accounted)
  | tick tick =>
    exact hadvance rfl (Submitting.advanced_done (p.manager.handleTick_toBooks tick) h.recorded
      h.accounted)
  | submitCommand signal =>
    exact hadvance rfl (Submitting.advanced_handleSubmit h.recorded h.accounted hevent hok')
  | cancelCommand signal => exact hevent.elim
  | replaceCommand signal => exact hevent.elim
  | cancelAllCommand reason initiatedBy => exact hevent.elim

/-- The gateway answers the call of the handler; it keeps the orders that are pending. -/
lemma call (h : Mirrored initial p booked) {draw : ℚ} {clockMs : ℤ}
    (hok : (p.call draw clockMs).manager.storeFailures = p.manager.storeFailures) :
    (∃ booked', Mirrored initial (p.call draw clockMs) booked') ∧
      ∀ broker sim, p.gateway.pendingOrders.lookup broker = some sim →
        (p.call draw clockMs).gateway.pendingOrders.lookup broker = some sim := by
  unfold PaperTrading.call PaperTrading.manager at hok
  unfold PaperTrading.call
  cases h.submitting with
  | done hp =>
    rw [hp]
    exact ⟨⟨booked, h⟩, fun _ _ hsim => hsim⟩
  | @submit s env order row base hp hpos hrow hins hnew =>
    rw [hp] at hok ⊢
    have hrecorded := h.recorded
    unfold PaperTrading.manager at hrecorded
    rw [hp] at hrecorded
    obtain ⟨⟨booked', hadvanced⟩, hkept⟩ := Submitting.advanced_submit hpos hrow hins hnew hrecorded
      p.gateway draw clockMs h.plain h.accounted hok
    exact ⟨⟨booked', h.plain.call draw clockMs _, hadvanced.recorded, hadvanced.accounted,
      hadvanced.submitting, h.expected⟩,
      hkept⟩

end Mirrored

/-! ## Runs -/

namespace PaperTrading

/-- The reports that are generated between the two states. -/
def newReports (p p' : PaperTrading) : List V1.ExecutionReport :=
  p'.generated.drop p.generated.length

/-- Between the two states the pending orders are filled with what remains of them at most, and they
leave the gateway when nothing remains. -/
structure FillsWithin (p p' : PaperTrading) : Prop where
  report_le : ∀ r ∈ p.newReports p', ∃ sim,
    p.gateway.pendingOrders.lookup r.brokerOrderId = some sim ∧
      0 < r.filledQuantity ∧ r.filledQuantity ≤ sim.order.quantity - sim.cumulativeFilled
  cumulative_le : ∀ broker sim, p.gateway.pendingOrders.lookup broker = some sim →
    sim.cumulativeFilled + filledBy (p.newReports p') broker ≤ sim.order.quantity
  leaves_iff : ∀ broker sim, p.gateway.pendingOrders.lookup broker = some sim →
    p'.gateway.pendingOrders.lookup broker =
      if sim.cumulativeFilled + filledBy (p.newReports p') broker = sim.order.quantity then none
      else some { sim with
        cumulativeFilled := sim.cumulativeFilled + filledBy (p.newReports p') broker }

/-- The broker id of the report that is handled next is known. -/
def NextReportKnown (p : PaperTrading) : Prop :=
  ∀ r tail, p.handling = none → p.queue.q = .executionReport r :: tail →
    p.manager.idMapper.getLocalId r.brokerOrderId ≠ none

/-- The row and the gateway agree on what was filled of the order, and on whether this is all. -/
structure RowAgrees (p : PaperTrading) (row : StoredOrder) : Prop where
  filled_eq : row.filledQuantity = row.brokerId.elim 0 (filledBy p.generated)
  removed_iff : row.status = .filled ∧ p.manager.idMapper.getBrokerId row.localId = none ↔
    ∃ broker, row.brokerId = some broker ∧ p.gateway.pendingOrders.lookup broker = none

/-- The rows that were stored in this session agree with the gateway, and every order that the
gateway has or has filled is in one of them. -/
structure RowsAgree (initial : SQLiteOrderStore) (p : PaperTrading) : Prop where
  agrees : ∀ l row, p.manager.orderStore.find l = some row → initial.find l = none → p.RowAgrees row
  row_of_filled : ∀ r ∈ p.generated, ∃ l row, p.manager.orderStore.find l = some row ∧
    initial.find l = none ∧ row.brokerId = some r.brokerOrderId
  row_of_pending : ∀ broker, p.gateway.pendingOrders.lookup broker ≠ none →
    ∃ l row, p.manager.orderStore.find l = some row ∧ initial.find l = none ∧
      row.brokerId = some broker

end PaperTrading

namespace Mirrored

variable {initial : SQLiteOrderStore} {p p' : PaperTrading} {booked : Bookings}

/-- **Step lemma.** -/
lemma step (h : Mirrored initial p booked) {a : PaperAction} (hok : p.StoreSucceeds a)
    (hsubmits : a.Submits) : ∃ booked', Mirrored initial (p.step a) booked' := by
  have hmoves : a.Moves → (∀ event, a.Adds event → event.Submits) →
      ∃ booked', Mirrored initial (p.step a) booked' :=
    fun ha hnew => ⟨booked, h.of_moved (p.moved_step ha) hnew⟩
  cases a with
  | poll poll => exact ⟨booked, h.simulateFills poll⟩
  | pop env => exact h.pop hok
  | call draw clockMs => exact (h.call hok).1
  | enqueueReport | take | finish => exact hmoves trivial fun _ hadds => hadds.elim
  | deliver =>
    refine hmoves trivial fun event hadds => ?_
    obtain ⟨r, rfl⟩ := hadds
    trivial
  | bar bar =>
    refine hmoves trivial fun event hadds => ?_
    obtain rfl := hadds
    trivial
  | tick tick =>
    refine hmoves trivial fun event hadds => ?_
    obtain rfl := hadds
    trivial
  | command command =>
    refine hmoves trivial fun event hadds => ?_
    obtain rfl := hadds
    cases command with
    | submit signal => exact hsubmits
    | cancel signal => exact hsubmits.elim
    | cancelAll reason initiatedBy => exact hsubmits.elim

/-- When nothing is in flight the rows agree with the gateway. -/
lemma rowsAgree (h : Mirrored initial p booked) (hflight : p.inFlight = []) :
    p.RowsAgree initial := by
  have haccounted := h.accounted
  rw [hflight] at haccounted
  refine ⟨fun l row hrow hnew => ?_, fun r hr => ?_, fun broker hpending => ?_⟩
  · cases h.recorded.records l row hrow hnew with
    | refused hb hf hs =>
      constructor
      · rw [hb, hf]
        rfl
      · simp [hb, hs]
    | @accepted broker hb hbooked hopen hfull =>
      obtain ⟨hfilled, hremoved⟩ := haccounted.settled hbooked
      constructor
      · rw [hb]
        exact hfilled
      · simp only [hb, Option.some.injEq, exists_eq_left']
        rw [hremoved]
        constructor
        · rintro ⟨hstatus, -⟩
          by_contra hlt
          exact (hopen (not_le.mp hlt)).2 hstatus
        · intro hle
          exact ⟨(hfull hle).2, (hfull hle).1⟩
  · exact h.recorded.row_of_booked _ (h.accounted.generated_booked r hr)
  · obtain ⟨sim, hsim⟩ := Option.ne_none_iff_exists'.mp hpending
    obtain ⟨-, -, order, hbooked, -⟩ := h.accounted.pending_booked broker sim hsim
    exact h.recorded.row_of_booked broker (by simp [hbooked])

/-- The order manager knows the broker id of the report that it handles next. -/
lemma nextReportKnown (h : Mirrored initial p booked) : p.NextReportKnown := by
  intro r tail _ hq
  have hflight : p.inFlight = r :: (tail.filterMap OMEvent.report ++ p.delivering.toList ++
      p.reportsQueue ++ p.generatedFills) := by
    unfold PaperTrading.inFlight
    rw [hq, List.filterMap_cons]
    rfl
  obtain ⟨row, -, -, hmapped, -⟩ := h.row_of_next hflight
  rw [(h.recorded.inverse _ _).mpr hmapped]
  simp

/-- When nothing is generated and the pending orders stay, no order is filled. -/
lemma fillsWithin_of_kept (h : Mirrored initial p booked) (hgenerated : p'.generated = p.generated)
    (hkept : ∀ broker sim, p.gateway.pendingOrders.lookup broker = some sim →
      p'.gateway.pendingOrders.lookup broker = some sim) : p.FillsWithin p' := by
  have hnew : p.newReports p' = [] := by
    unfold PaperTrading.newReports
    rw [hgenerated, List.drop_length]
  constructor
  · rw [hnew]
    simp
  · intro broker sim hsim
    rw [hnew, filledBy_nil, add_zero]
    exact (h.accounted.pending_booked broker sim hsim).1.le
  · intro broker sim hsim
    rw [hnew, filledBy_nil, add_zero, if_neg (h.accounted.pending_booked broker sim hsim).1.ne]
    exact hkept broker sim hsim

/-- A poll fills what remains of the pending orders at most. -/
lemma fillsWithin_poll (h : Mirrored initial p booked) (poll : Poll) :
    p.FillsWithin (p.simulateFills poll) := by
  rcases p.simulateFills_cases poll with hidle | ⟨hnodup, hgateway, -, -, -, hgenerated⟩
  · rw [hidle]
    exact h.fillsWithin_of_kept rfl fun _ _ hsim => hsim
  have hopen : ∀ b sim, p.gateway.pendingOrders.lookup b = some sim →
      sim.cumulativeFilled < sim.order.quantity :=
    fun b sim hsim => (h.accounted.pending_booked b sim hsim).1
  obtain ⟨hreports, hle, -⟩ := p.gateway.simulateFills_spec poll hnodup hopen
  have hnew : p.newReports (p.simulateFills poll) = (p.gateway.simulateFills poll).2 := by
    unfold PaperTrading.newReports
    rw [hgenerated, List.drop_left]
  constructor
  · rw [hnew]
    intro r hr
    obtain ⟨hisFill, hpending⟩ := hreports r hr
    obtain ⟨sim, hsim⟩ := Option.ne_none_iff_exists'.mp hpending
    have hone := le_filledBy (fun r' hr' => (hreports r' hr').1.quantity_pos) hr
    have htotal := hle _ sim hsim
    exact ⟨sim, hsim, hisFill.quantity_pos, by linarith⟩
  · rw [hnew]
    exact hle
  · intro broker sim hsim
    rw [hnew, hgateway, p.gateway.lookup_simulateFills poll hnodup hopen, hsim, Option.bind_some]
    have hbound := hle broker sim hsim
    by_cases hfull : sim.order.quantity ≤
        sim.cumulativeFilled + filledBy (p.gateway.simulateFills poll).2 broker
    · rw [if_pos hfull, if_pos (le_antisymm hbound hfull)]
    · rw [if_neg hfull, if_neg fun heq => hfull heq.ge]

/-- No step fills a pending order beyond what remains of it. -/
lemma fillsWithin_step (h : Mirrored initial p booked) {a : PaperAction}
    (hok : p.StoreSucceeds a) : p.FillsWithin (p.step a) := by
  have hmoves : a.Moves → p.FillsWithin (p.step a) := by
    intro ha
    have hmoved := p.moved_step ha
    refine h.fillsWithin_of_kept hmoved.generated_eq fun broker sim hsim => ?_
    rw [hmoved.gateway_eq]
    exact hsim
  cases a with
  | poll poll => exact h.fillsWithin_poll poll
  | call draw clockMs =>
    refine h.fillsWithin_of_kept ?_ (h.call hok).2
    unfold PaperTrading.step PaperTrading.call
    cases p.handler <;> rfl
  | pop env =>
    rcases p.pop_cases env with hidle | ⟨event, tail, -, -, -, hgateway, -, hgenerated, -⟩
    · rw [PaperTrading.step, hidle]
      exact h.fillsWithin_of_kept rfl fun _ _ hsim => hsim
    · refine h.fillsWithin_of_kept hgenerated fun broker sim hsim => ?_
      rw [PaperTrading.step, hgateway]
      exact hsim
  | enqueueReport | take | deliver | finish | command | bar | tick => exact hmoves trivial

end Mirrored

namespace PaperThreads

/-- Every call on the store succeeds in the step.  The calls that a handler makes with the answer of
the gateway count for the step in which the gateway answers. -/
def StoreSucceeds (p : PaperThreads) (a : ThreadAction) : Prop :=
  (p.step a).current.manager.storeFailures = p.current.manager.storeFailures

instance decidableStoreSucceeds (p : PaperThreads) (a : ThreadAction) :
    Decidable (p.StoreSucceeds a) :=
  inferInstanceAs
    (Decidable ((p.step a).current.manager.storeFailures = p.current.manager.storeFailures))

end PaperThreads

/-- Orders of a positive quantity are submitted, and nothing is cancelled. -/
def ThreadAction.Submits : ThreadAction → Prop
  | .run action => action.Submits
  | .resume => True

instance PaperAction.decidableSubmits : (a : PaperAction) → Decidable a.Submits
  | .command (.submit signal) => inferInstanceAs (Decidable (0 < signal.targetQuantity))
  | .command (.cancel _) | .command (.cancelAll _ _) => isFalse not_false
  | .poll _ | .enqueueReport | .take | .deliver | .bar _ | .tick _ | .pop _ | .call _ _ | .finish =>
    isTrue trivial

instance ThreadAction.decidableSubmits : (a : ThreadAction) → Decidable a.Submits
  | .run action => inferInstanceAs (Decidable action.Submits)
  | .resume => isTrue trivial

/-- **Step lemma** of the finer system. -/
lemma PaperThreads.mirrored_step (initial : SQLiteOrderStore) (p : PaperThreads) (a : ThreadAction)
    (h : p.Staged ∧ ∃ booked, Mirrored initial p.current booked)
    (ha : a.Submits ∧ p.StoreSucceeds a) :
    (p.step a).Staged ∧ ∃ booked, Mirrored initial (p.step a).current booked := by
  refine refines_paperTrading.invariant (A := fun p a => a.Submits ∧ p.StoreSucceeds a)
    (B := fun p a => a.Submits ∧ p.StoreSucceeds a)
    (I := fun p => ∃ booked, Mirrored initial p booked) ?_ ?_ p a h ha
  · rintro p a ⟨booked, hmirrored⟩ ⟨hsubmits, hok⟩
    exact hmirrored.step hok hsubmits
  · rintro p a k hstaged ⟨hsubmits, hok⟩ hk
    have hstep := refines_paperTrading.step_eq p a hstaged
    rw [hk, Option.elim_some] at hstep
    obtain rfl := eq_run_of_seenAs hk
    refine ⟨hsubmits, ?_⟩
    unfold StoreSucceeds at hok
    rw [hstep] at hok
    exact hok

/-- No step of the finer system fills a pending order beyond what remains of it. -/
lemma PaperThreads.fillsWithin_step (initial : SQLiteOrderStore) (p : PaperThreads)
    (a : ThreadAction) (h : p.Staged ∧ ∃ booked, Mirrored initial p.current booked)
    (hok : p.StoreSucceeds a) : p.toPaperTrading.FillsWithin (p.step a).toPaperTrading := by
  obtain ⟨hstaged, booked, hmirrored⟩ := h
  have hstep := refines_paperTrading.step_eq p a hstaged
  -- the handler, in which the two views differ, is not looked at
  have hcurrent : p.current.FillsWithin (p.step a).current := by
    cases hk : p.seenAs a with
    | none =>
      rw [hk, Option.elim_none] at hstep
      rw [hstep]
      exact hmirrored.fillsWithin_of_kept rfl fun _ _ hsim => hsim
    | some k =>
      rw [hk, Option.elim_some] at hstep
      unfold StoreSucceeds at hok
      rw [hstep] at hok ⊢
      exact hmirrored.fillsWithin_step hok
  exact ⟨hcurrent.report_le, hcurrent.cumulative_le, hcurrent.leaves_iff⟩

/-- **Paper trading refines to the stored orders.**  In every run of submit commands in which the
calls on the store succeed, the gateway fills what remains of its orders at most, the order manager
knows the broker id of every report that it handles, and whenever no report is on its way and no
event is handled, the rows agree with the gateway. -/
theorem paper_trading_refines (accountId : String) (store : SQLiteOrderStore)
    (riskManager : RiskManager) (config : PaperGatewayConfig) (actions : List ThreadAction)
    (hsubmits : ∀ a ∈ actions, a.Submits)
    (hstore : Trajectory.AllSteps PaperThreads.step PaperThreads.StoreSucceeds
      (.start accountId store riskManager config) actions) :
    Trajectory.AllSteps PaperThreads.step
        (fun p a => p.toPaperTrading.FillsWithin (p.step a).toPaperTrading)
        (.start accountId store riskManager config) actions ∧
      Trajectory.EveryState PaperThreads.step
        (fun p => p.NextReportKnown ∧ (p.Quiescent → p.handling = none → p.RowsAgree store))
        (.start accountId store riskManager config) actions := by
  have hsteps := Trajectory.allSteps_and.mpr
    ⟨Trajectory.allSteps_of_forall hsubmits, hstore⟩
  have hstart : (PaperThreads.start accountId store riskManager config).Staged ∧
      ∃ booked, Mirrored store (PaperThreads.start accountId store riskManager config).current
        booked :=
    ⟨.start accountId store riskManager config, _, .start accountId store riskManager config⟩
  refine ⟨Trajectory.allSteps_of_invariant (PaperThreads.mirrored_step store)
    (fun p a h ha => p.fillsWithin_step store a h ha.2) hstart hsteps, ?_⟩
  refine (Trajectory.everyState_of_invariant (PaperThreads.mirrored_step store) hstart hsteps).mono
    ?_
  rintro p ⟨hstaged, booked, h⟩
  -- between two events no answer is waiting
  have hidle : p.handling = none → p.current = p.toPaperTrading := fun hnone =>
    PaperThreads.current_of_answered_none (hstaged.answered_of_idle hnone)
  constructor
  · intro r tail hnone hq
    rw [hidle hnone] at h
    exact h.nextReportKnown r tail hnone hq
  · intro hquiescent hnone
    rw [hidle hnone] at h
    exact h.rowsAgree hquiescent.inFlight_eq

/-- The first order, of 10 shares, is submitted, and polls fill 5 and 5 of it while its handler
still waits; the reports are delivered and handled after it. -/
def earlyFill : List ThreadAction :=
  [.run (.command (.submit { symbol := "AAPL", side := .buy, targetQuantity := 10 })),
    .run (.pop .quiet), .run (.call 1 0),
    .run (.poll ⟨["BROKER_0_000000"], fun _ => 0,
      fun _ => ⟨0, 1, 1 / 2, "1970-01-01T00:00:01Z"⟩⟩),
    .run .enqueueReport, .run .take, .run .deliver,
    .run (.poll ⟨["BROKER_0_000000"], fun _ => 0,
      fun _ => ⟨0, 0, 0, "1970-01-01T00:00:02Z"⟩⟩),
    .run .enqueueReport, .run .take, .run .deliver,
    .resume, .run .finish, .run (.pop .quiet), .run .finish, .run (.pop .quiet), .run .finish]

/-- The reports wait until the submit command has gone on, and are booked. -/
theorem paper_trading_refines_early_fill :
    Trajectory.AllSteps PaperThreads.step
        (fun p a => p.toPaperTrading.FillsWithin (p.step a).toPaperTrading)
        (.start "ACC" .empty ⟨{}⟩ {}) earlyFill ∧
      Trajectory.EveryState PaperThreads.step
        (fun p => p.NextReportKnown ∧ (p.Quiescent → p.handling = none → p.RowsAgree .empty))
        (.start "ACC" .empty ⟨{}⟩ {}) earlyFill :=
  paper_trading_refines "ACC" .empty ⟨{}⟩ {} _ (by decide +kernel) (by decide +kernel)

end Quarcc
