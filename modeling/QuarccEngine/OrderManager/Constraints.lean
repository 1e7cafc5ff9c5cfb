import QuarccEngine.OrderManager.Agreement
import QuarccEngine.Utils.UniqueIds

/-!
# The constraints of the order table

The table `orders` refuses a row whose local id or broker id is taken, and the handlers log such a
refusal and go on with books that no longer agree.  The local ids come from the generator of the
order manager, the broker ids from the gateway, and the table has what was bound of them.  The main
result says exactly when a run meets no refusal: SQLite itself does not fail, and the gateway gives
out no two broker ids that agree up to their first zero byte.
-/

namespace Quarcc

/-! ## Broker ids -/

/-- The broker ids that the gateway gives out along a run. -/
def issuedAll : OrderManager → List Input → List BrokerOrderId
  | _, [] => []
  | s, i :: is => issued s i ++ issuedAll (dispatch s i) is

/-- The broker ids of a run have no zero byte when those of its steps have none. -/
lemma allSteps_issuesNoZeroByte_iff {s : OrderManager} {inputs : List Input} :
    Trajectory.AllSteps dispatch IssuesNoZeroByte s inputs ↔
      ∀ broker ∈ issuedAll s inputs, NoZeroByte broker := by
  induction inputs generalizing s with
  | nil => simp [issuedAll]
  | cons i inputs ih =>
    rw [Trajectory.allSteps_cons, ih, issuedAll, List.forall_mem_append]
    rfl

/-- SQLite runs every statement. -/
structure Env.NoFault (env : Env) : Prop where
  storeFault : ∀ call, env.storeFault call = none
  openOrdersRead : env.openOrdersRead = none

namespace Move

variable {s : OrderManager} {i : Input} {ok : Prop} {done : List GatewayEffect} {b : Books}

/-- At most one broker id is given out while an event is handled. -/
lemma nodup_issued (hmove : Move s i ok done b) :
    ((done.filterMap GatewayEffect.issued).map cStr).Nodup := by
  cases hmove with
  | killSwitch _ _ _ _ =>
    rw [issued_killEffects]
    exact List.nodup_nil
  | stay _ | skip _ _ | refuse _ _ _ _ _ | cancel _ _ _ | unmap _ _ _ | close _ _ _ _ _
  | fill _ _ _ _ _ _ => exact List.nodup_nil
  | lose _ _ _ _ _ _ _ | accept _ _ _ _ _ _ | forget _ _ _ _ _ | retire _ _ _ _ _
  | replace _ _ _ _ _ => exact List.nodup_singleton _

/-- When every call on the store succeeds, a broker id that is given out is carried by no row. -/
lemma issued_fresh (hmove : Move s i ok done b) (hok : ok) :
    ∀ broker ∈ done.filterMap GatewayEffect.issued, ¬ s.orderStore.Carries (cStr broker) := by
  cases hmove with
  | killSwitch _ _ _ _ => simp [issued_killEffects]
  | stay _ | skip _ _ | refuse _ _ _ _ _ | cancel _ _ _ | unmap _ _ _ | close _ _ _ _ _
  | fill _ _ _ _ _ _ => simp [GatewayEffect.issued]
  | lose _ _ _ _ _ _ hfail | forget _ _ _ _ hfail | retire _ _ _ _ hfail => exact absurd hok hfail
  | @accept signal broker row store carried _ _ _ hrow hcarried hstore =>
    intro broker' hmem
    obtain rfl : broker' = broker := by simpa [GatewayEffect.issued] using hmem
    obtain rfl : carried = some (cStr broker') := hcarried.resolve_right fun h => h.2.1 hok
    exact hstore.broker_fresh (cStr broker') hrow.brokerId_eq
  | @replace signal broker newBroker row store _ _ _ hrow hstore =>
    intro broker' hmem
    obtain rfl : broker' = newBroker := by simpa [GatewayEffect.issued] using hmem
    have hfresh := hstore.broker_fresh (cStr broker') hrow.brokerId_eq
    rwa [SQLiteOrderStore.carries_setStatus] at hfresh

end Move

/-- An inserted row adds its broker id. -/
lemma SQLiteOrderStore.Inserted.carries {store store' : SQLiteOrderStore} {row : StoredOrder}
    (h : SQLiteOrderStore.Inserted store row store') (broker : BrokerOrderId) :
    store'.Carries broker ↔ store.Carries broker ∨ row.brokerId = some broker := by
  unfold SQLiteOrderStore.Carries
  rw [h.rows_eq]
  simp [or_and_right, exists_or]

/-- The kill switch keeps the broker ids. -/
lemma Books.carries_kills (now : String) (b : Books) (killed : List LocalOrderId)
    (broker : BrokerOrderId) :
    (killed.foldl (Books.kill now) b).orderStore.Carries broker ↔ b.orderStore.Carries broker := by
  induction killed generalizing b with
  | nil => rfl
  | cons localId killed ih =>
    rw [List.foldl_cons, ih]
    exact SQLiteOrderStore.carries_setStatus localId .cancelled now broker

/-- When every call on the store succeeds, the rows carry the broker ids that were given out. -/
lemma Move.carries_iff {s : OrderManager} {i : Input} {ok : Prop} {done : List GatewayEffect}
    {b : Books} (hmove : Move s i ok done b) (hok : ok) (broker : BrokerOrderId) :
    b.orderStore.Carries broker ↔
      s.orderStore.Carries broker ∨
        broker ∈ (done.filterMap GatewayEffect.issued).map cStr := by
  cases hmove with
  | stay _ => simp
  | skip _ hfail | lose _ _ _ _ _ _ hfail | unmap _ _ hfail | forget _ _ _ _ hfail
  | retire _ _ _ _ hfail =>
    exact absurd hok hfail
  | refuse _ _ hrow _ hstore =>
    rw [hstore.carries, hrow.brokerId_eq]
    simp
  | @accept signal broker' row store carried _ _ _ hrow hcarried hstore =>
    obtain rfl : carried = some (cStr broker') := hcarried.resolve_right fun h => h.2.1 hok
    change store.Carries broker ↔ _
    rw [hstore.carries, hrow.brokerId_eq]
    simp [GatewayEffect.issued, eq_comm]
  | cancel _ _ _ =>
    refine (SQLiteOrderStore.carries_setStatus (s := s.orderStore) _ .cancelled _ broker).trans ?_
    simp [GatewayEffect.issued]
  | @replace signal broker' newBroker row store _ _ _ hrow hstore =>
    change store.Carries broker ↔ _
    rw [hstore.carries, hrow.brokerId_eq, SQLiteOrderStore.carries_setStatus]
    simp [GatewayEffect.issued, eq_comm]
  | killSwitch _ _ _ _ =>
    rw [issued_killEffects, Books.carries_kills]
    simp
  | @close report localId status updated _ _ _ _ _ =>
    rw [Books.close_orderStore]
    cases updated <;> simp
  | @fill report localId row applied _ _ _ _ _ _ =>
    rw [Books.fill_orderStore]
    cases applied <;> simp

/-! ## Local ids -/

namespace OrderManager

variable (s : OrderManager)

/-- The generator of local ids after the event of `i` was handled. -/
def nextGenerator (i : Input) : OrderIdGenerator :=
  match i.event with
  | .submitCommand _ => (s.idGenerator.generate i.env.idClock).2
  | .replaceCommand signal =>
    match s.idMapper.getBrokerId signal.orderId with
    | some _ => (s.idGenerator.generate i.env.idClock).2
    | none => s.idGenerator
  | .bar _ | .tick _ | .executionReport _ | .cancelCommand _ | .cancelAllCommand _ _ =>
    s.idGenerator

/-- The generator of local ids, and the number of calls on the store that have failed. -/
def counters : OrderIdGenerator × ℕ := (s.idGenerator, s.storeFailures)

variable {env : Env} (hfault : env.NoFault) (localId : LocalOrderId)

@[simp] lemma counters_log (event : Event) (data correlationId : String) :
    (s.log event data correlationId).counters = s.counters := rfl

@[simp] lemma counters_setValue (reply : Reply) : (s.setValue reply).counters = s.counters := rfl

@[simp] lemma counters_logFailure (result : Result Unit) :
    (s.logFailure result localId).counters = s.counters := by
  cases result <;> rfl

@[simp] lemma counters_removeMapping : (s.removeMapping localId).counters = s.counters := rfl

@[simp] lemma counters_addMapping (broker : BrokerOrderId) :
    (s.addMapping localId broker).counters = s.counters := rfl

@[simp] lemma counters_addOpenOrders (n : ℤ) : (s.addOpenOrders n).counters = s.counters := rfl

@[simp] lemma counters_onFill (fill : V1.ExecutionReport) : (s.onFill fill).counters = s.counters :=
  rfl

@[simp] lemma counters_notifyFillSink (fill : V1.ExecutionReport) :
    (s.notifyFillSink fill).counters = s.counters := by
  unfold notifyFillSink
  cases s.fillSink <;> rfl

section NoFault

include hfault

/-- `update_order_status` takes effect. -/
lemma updateOrderStatus_of_noFault (status : OrderStatus) :
    s.updateOrderStatus env localId status =
      ({ s with orderStore := s.orderStore.setStatus localId status env.sqliteNow }, .ok ()) := by
  rcases s.updateOrderStatus_cases env localId status with ⟨hfail, -⟩ | ⟨-, h⟩
  · exact absurd (hfault.storeFault _) hfail
  · exact h

/-- A rejected order. -/
lemma counters_rejectSubmit (e : Error) : (s.rejectSubmit env localId e).counters = s.counters := by
  unfold rejectSubmit
  dsimp only
  rw [updateOrderStatus_of_noFault _ hfault]
  rfl

/-- An accepted order whose broker id is new. -/
lemma counters_acceptSubmit {base : SQLiteOrderStore} {row : StoredOrder}
    (hins : SQLiteOrderStore.Inserted base row s.orderStore) (hid : row.localId = localId)
    {broker : BrokerOrderId} (hfresh : ¬ base.Carries (cStr broker)) :
    (s.acceptSubmit env localId broker).counters = s.counters := by
  unfold acceptSubmit
  rw [s.updateOrderStatus_of_noFault hfault]
  dsimp only
  subst hid
  have hins' := hins.setStatus .submitted env.sqliteNow
  rcases updateBrokerId_cases
      (({ s with
        orderStore := s.orderStore.setStatus row.localId .submitted env.sqliteNow } :
          OrderManager).addMapping row.localId broker |>.addOpenOrders 1)
      env row.localId hins' rfl broker with ⟨hrefused, -⟩ | ⟨store, -, hb⟩
  · rcases hrefused with hfail | hcarries
    · exact absurd (hfault.storeFault _) hfail
    · exact absurd hcarries hfresh
  · rw [hb]
    rfl

/-- A cancelled order. -/
lemma counters_acceptCancel : (s.acceptCancel env localId).counters = s.counters := by
  unfold acceptCancel
  dsimp only
  rw [updateOrderStatus_of_noFault _ hfault]
  rfl

/-- A replaced order, when the ids of the new one are new. -/
lemma counters_acceptReplace {newId : LocalOrderId} {newOrder : V1.Order}
    {newBroker : BrokerOrderId} (hnew : s.orderStore.find newId = none)
    (hfresh : ¬ s.orderStore.Carries (cStr newBroker)) :
    (s.acceptReplace env localId newId newOrder newBroker).counters = s.counters := by
  unfold acceptReplace
  dsimp only
  rw [updateOrderStatus_of_noFault _ hfault]
  obtain ⟨createdAt, hts⟩ := timestampToString_ok env.now
  rw [hts]
  dsimp only
  rcases OrderManager.storeOrder_cases
      { s.removeMapping localId with
        orderStore := (s.removeMapping localId).orderStore.setStatus localId .replaced
          env.sqliteNow }
      env
      { order := newOrder, localId := newId, brokerId := some newBroker, status := .submitted
        createdAt := createdAt } with ⟨hrefused, -⟩ | ⟨-, store, -, hstore⟩
  · rcases hrefused with hfail | htaken | ⟨broker, hbroker, hcarries⟩
    · exact absurd (hfault.storeFault _) hfail
    · refine absurd ?_ htaken
      change (s.orderStore.setStatus _ _ _).find newId = none
      rw [SQLiteOrderStore.find_setStatus, hnew, Option.map_none, ite_self]
    · obtain rfl := Option.some.inj hbroker
      exact absurd ((SQLiteOrderStore.carries_setStatus (s := s.orderStore) _ _ _ _).mp hcarries)
        hfresh
  · rw [hstore]
    rfl

/-- The loop of the kill switch. -/
lemma counters_cancelOpenOrders (answer : (c : GatewayCall) → c.Answer) (orders : List StoredOrder)
    (s : OrderManager) :
    ((cancelOpenOrders env orders s).run answer).counters = s.counters := by
  induction orders generalizing s with
  | nil => rfl
  | cons stored rest ih =>
    unfold cancelOpenOrders
    cases stored.brokerId with
    | none => exact ih s
    | some broker =>
      rw [Program.run_call]
      cases answer (.cancelOrder broker) with
      | error e => exact ih _
      | ok u =>
        refine (ih _).trans ?_
        unfold killOrder
        rw [s.updateOrderStatus_of_noFault hfault]
        rfl

/-- A fill of an order that was read. -/
lemma counters_recordFill (row : StoredOrder) (fill : V1.ExecutionReport) :
    (s.recordFill env localId row fill).counters = s.counters := by
  unfold recordFill
  dsimp only
  rcases s.applyFill_cases env localId fill.filledQuantity fill.avgFillPrice
      (if decide (row.order.quantity ≤ row.filledQuantity + fill.filledQuantity) = true then
        .filled else .partiallyFilled) with ⟨hfail, -⟩ | ⟨-, h⟩
  · exact absurd (hfault.storeFault _) hfail
  · rw [h, counters_notifyFillSink]
    dsimp only
    split_ifs <;> rfl

/-- A report of an order that is stored when it is mapped. -/
lemma counters_handleFill (fill : V1.ExecutionReport)
    (hstored : ∀ localId, s.idMapper.getLocalId fill.brokerOrderId = some localId →
      s.orderStore.find localId ≠ none) :
    (s.handleFill env fill).counters = s.counters := by
  unfold handleFill
  cases hmapped : s.idMapper.getLocalId fill.brokerOrderId with
  | none => rfl
  | some localId =>
    dsimp only
    split_ifs
    · unfold closeOrder
      dsimp only
      rw [s.updateOrderStatus_of_noFault hfault, counters_notifyFillSink]
      rfl
    · rcases s.getOrder_cases env localId with ⟨hrefused, -⟩ | ⟨-, row, -, hrow⟩
      · rcases hrefused with hfail | hnone
        · exact absurd (hfault.storeFault _) hfail
        · exact absurd hnone (hstored localId hmapped)
      · rw [hrow]
        exact s.counters_recordFill hfault localId row fill

end NoFault

/-- A submit command whose local id is not taken. -/
lemma counters_submit {i : Input} (hfault : i.env.NoFault) {signal : V1.StrategySignal}
    (hevent : i.event = .submitCommand signal)
    (hnew : s.orderStore.find (s.generate i.env).1 = none)
    (hfresh : ∀ broker ∈ issued s i, ¬ s.orderStore.Carries (cStr broker)) :
    (dispatch s i).counters = (s.nextGenerator i, s.storeFailures) := by
  obtain ⟨createdAt, hts⟩ := timestampToString_ok i.env.now
  have hnext : (s.nextGenerator i, s.storeFailures) = (s.beginSubmit i.env signal).counters := by
    unfold nextGenerator
    rw [hevent]
    rfl
  rw [hnext]
  unfold issued effects exchanges handle at hfresh
  unfold dispatch handle
  simp only [hevent, s.handleSubmitCommand_eq i.env signal hts] at hfresh ⊢
  rcases (s.beginSubmit i.env signal).storeOrder_cases i.env
      (s.rowOfSubmit i.env signal createdAt) with ⟨hrefused, -⟩ | ⟨-, store, hins, hstore⟩
  · rcases hrefused with hfail | htaken | ⟨broker, hbroker, -⟩
    · exact absurd (hfault.storeFault _) hfail
    · exact absurd hnew htaken
    · cases hbroker
  simp only [hstore] at hfresh ⊢
  generalize hs' : ({ s.beginSubmit i.env signal with orderStore := store } : OrderManager) = s'
    at hfresh ⊢
  have hcounters : s'.counters = (s.beginSubmit i.env signal).counters := by
    rw [← hs']
    rfl
  have hins' : SQLiteOrderStore.Inserted s.orderStore (s.rowOfSubmit i.env signal createdAt)
      s'.orderStore := by
    rw [← hs']
    exact hins
  rw [← hcounters]
  cases hrisk : s'.checkSubmit signal with
  | error e => exact s'.counters_rejectSubmit hfault _ e
  | ok u =>
    simp only [hrisk, Program.run_call, Program.exchanges_call, GatewayAnswers.answer]
      at hfresh ⊢
    cases haccept : i.gateway.submitOrder (s.orderOfSubmit i.env signal) with
    | error e => exact s'.counters_rejectSubmit hfault _ e
    | ok broker =>
      simp only [haccept, Program.exchanges_done, List.filterMap_cons, effectOf,
        GatewayEffect.issued, List.filterMap_nil, List.mem_singleton, forall_eq] at hfresh
      exact s'.counters_acceptSubmit hfault _ hins' rfl hfresh

/-- A replace command for an order that is mapped, when the next local id is not taken. -/
lemma counters_replace {i : Input} (hfault : i.env.NoFault) {signal : V1.ReplaceSignal}
    (hevent : i.event = .replaceCommand signal)
    (hnew : s.orderStore.find (s.generate i.env).1 = none)
    (hfresh : ∀ broker ∈ issued s i, ¬ s.orderStore.Carries (cStr broker)) :
    (dispatch s i).counters = (s.nextGenerator i, s.storeFailures) := by
  unfold issued effects exchanges handle at hfresh
  unfold dispatch handle nextGenerator
  simp only [hevent] at hfresh ⊢
  cases hmapped : s.idMapper.getBrokerId signal.orderId with
  | none =>
    unfold handleReplaceCommand
    simp only [hmapped]
    rfl
  | some broker =>
    simp only [s.handleReplaceCommand_eq i.env signal hmapped, Program.run_call,
      Program.exchanges_call, GatewayAnswers.answer] at hfresh ⊢
    cases haccept : i.gateway.replaceOrder broker (s.orderOfReplace i.env signal) with
    | error e => rfl
    | ok newBroker =>
      simp only [haccept, Program.exchanges_done, List.filterMap_cons, effectOf,
        GatewayEffect.issued, List.filterMap_nil, List.mem_singleton, forall_eq] at hfresh
      exact (s.beginReplace i.env signal).counters_acceptReplace hfault _ hnew hfresh

/-- The handler of an event counts no failure, when SQLite does not fail, the next local id is not
taken and the gateway gives out no broker id that a row carries. -/
lemma counters_dispatch {i : Input} (hfault : i.env.NoFault)
    (hagree : Agree s.idMapper s.orderStore)
    (hnew : s.orderStore.find (s.generate i.env).1 = none)
    (hfresh : ∀ broker ∈ issued s i, ¬ s.orderStore.Carries (cStr broker)) :
    (dispatch s i).counters = (s.nextGenerator i, s.storeFailures) := by
  have hkeep : s.nextGenerator i = s.idGenerator →
      (s.nextGenerator i, s.storeFailures) = s.counters := by
    intro hsame
    rw [hsame]
    rfl
  cases hevent : i.event with
  | submitCommand signal => exact s.counters_submit hfault hevent hnew hfresh
  | replaceCommand signal => exact s.counters_replace hfault hevent hnew hfresh
  | bar bar =>
    rw [hkeep (by unfold nextGenerator; rw [hevent])]
    unfold dispatch handle handleBar
    rw [hevent, Program.run_done]
    cases s.barSink <;> rfl
  | tick tick =>
    rw [hkeep (by unfold nextGenerator; rw [hevent])]
    unfold dispatch handle handleTick
    rw [hevent, Program.run_done]
    cases s.tickSink <;> rfl
  | executionReport fill =>
    rw [hkeep (by unfold nextGenerator; rw [hevent])]
    unfold dispatch handle
    rw [hevent, Program.run_done]
    refine s.counters_handleFill hfault fill fun localId hmapped hnone => ?_
    rw [hagree.inverse] at hmapped
    obtain ⟨row, hrow, -⟩ := hagree.carriedBy localId _ hmapped
    rw [hnone] at hrow
    cases hrow
  | cancelCommand signal =>
    rw [hkeep (by unfold nextGenerator; rw [hevent])]
    unfold dispatch handle
    simp only [hevent]
    unfold handleCancelCommand
    cases s.idMapper.getBrokerId signal.orderId with
    | none => rfl
    | some broker =>
      simp only [Program.run_call, GatewayAnswers.answer]
      cases i.gateway.cancelOrder broker with
      | error e => rfl
      | ok u => exact s.counters_acceptCancel hfault signal.orderId
  | cancelAllCommand reason initiatedBy =>
    rw [hkeep (by unfold nextGenerator; rw [hevent])]
    unfold dispatch handle handleCancelAllCommand getOpenOrders
    rw [hevent, hfault.openOrdersRead]
    exact counters_cancelOpenOrders hfault _ _ _

/-- The generator advances by one or not at all. -/
lemma nextGenerator_cases (i : Input) :
    s.nextGenerator i = s.idGenerator ∨
      s.nextGenerator i = (s.idGenerator.generate i.env.idClock).2 := by
  unfold nextGenerator
  cases i.event with
  | submitCommand signal => exact Or.inr rfl
  | replaceCommand signal =>
    dsimp only
    cases s.idMapper.getBrokerId signal.orderId with
    | none => exact Or.inl rfl
    | some broker => exact Or.inr rfl
  | _ => exact Or.inl rfl

end OrderManager

/-- A new row has the local id that the generator gives next. -/
lemma Move.stored {s : OrderManager} {i : Input} {ok : Prop} {done : List GatewayEffect} {b : Books}
    (hmove : Move s i ok done b) {l : LocalOrderId} (hl : b.orderStore.find l ≠ none) :
    s.orderStore.find l ≠ none ∨
      l = (s.generate i.env).1 ∧
        s.nextGenerator i = (s.idGenerator.generate i.env.idClock).2 := by
  have hstatus : ∀ {store : SQLiteOrderStore} {localId : LocalOrderId} {status : OrderStatus},
      (store.setStatus localId status i.env.sqliteNow).find l ≠ none → store.find l ≠ none := by
    intro store localId status hl hnone
    rw [SQLiteOrderStore.find_setStatus, hnone, Option.map_none, ite_self] at hl
    exact hl rfl
  have hinsert : ∀ {store store' : SQLiteOrderStore} {row : StoredOrder},
      SQLiteOrderStore.Inserted store row store' → store'.find l ≠ none →
      store.find l ≠ none ∨ l = row.localId := by
    intro store store' row hins hl
    rw [hins.find] at hl
    by_cases hrow : l = row.localId
    · exact Or.inr hrow
    · rw [if_neg hrow] at hl
      exact Or.inl hl
  have hsubmit : ∀ {signal}, i.event = .submitCommand signal →
      s.nextGenerator i = (s.idGenerator.generate i.env.idClock).2 := by
    intro signal hevent
    unfold OrderManager.nextGenerator
    rw [hevent]
  cases hmove with
  | stay _ | skip _ _ | unmap _ _ _ | forget _ _ _ _ _ => exact Or.inl hl
  | refuse hevent _ hrow _ hstore | lose hevent _ _ hrow hstore _ _
  | accept hevent _ _ hrow _ hstore =>
    refine (hinsert hstore hl).imp_right fun heq => ⟨?_, hsubmit hevent⟩
    rw [heq, hrow.localId_eq]
    rfl
  | cancel _ _ _ | retire _ _ _ _ _ => exact Or.inl (hstatus hl)
  | replace hevent hmapped _ hrow hstore =>
    rcases hinsert hstore hl with hold | hnew
    · exact Or.inl (hstatus hold)
    · refine Or.inr ⟨?_, ?_⟩
      · rw [hnew, hrow.localId_eq]
        rfl
      · unfold OrderManager.nextGenerator
        simp only [hevent, hmapped]
  | killSwitch _ _ _ _ =>
    refine Or.inl fun hnone => hl ?_
    rw [Books.find_kills, hnone, Option.map_none, ite_self]
  | @close report localId status updated _ _ _ _ _ =>
    rw [Books.close_orderStore] at hl
    cases updated with
    | true => exact Or.inl (hstatus hl)
    | false => exact Or.inl hl
  | @fill report localId row applied _ _ _ _ _ _ =>
    rw [Books.fill_orderStore] at hl
    cases applied with
    | true =>
      refine Or.inl fun hnone => hl ?_
      rw [if_pos rfl, SQLiteOrderStore.find_addFill, hnone, Option.map_none, ite_self]
    | false => exact Or.inl hl

/-! ## Runs -/

/-- The books of an order manager that has met no refusal: the rows carry what was bound of the
broker ids that were given out, and their local ids come from the generator. -/
structure Unbroken (s : OrderManager) (given : List BrokerOrderId) : Prop where
  agree : Agree s.idMapper s.orderStore
  carries : ∀ broker, s.orderStore.Carries broker ↔ broker ∈ given
  serials : ∀ localId, s.orderStore.find localId ≠ none →
    serialOf localId < s.idGenerator.counter.toNat

namespace Unbroken

variable {s : OrderManager} {i : Input} {given : List BrokerOrderId}

/-- A new order manager on an empty store. -/
lemma start (accountId : String) (riskManager : RiskManager) :
    Unbroken (createOrderManager accountId .empty riskManager) [] where
  agree := .empty
  carries := by simp [createOrderManager, SQLiteOrderStore.Carries, SQLiteOrderStore.empty]
  serials := by simp [createOrderManager]

/-- The next local id is not taken. -/
lemma next_free (h : Unbroken s given) (env : Env) :
    s.orderStore.find (s.generate env).1 = none := by
  by_contra htaken
  have hlt := h.serials _ htaken
  rw [show serialOf (s.generate env).1 = _ from s.idGenerator.serialOf_generate env.idClock] at hlt
  exact lt_irrefl _ hlt

/-- The next counter, as long as the counter has values left. -/
lemma counter_next (s : OrderManager) (i : Input) (h : s.idGenerator.counter.toNat + 1 < 2 ^ 64) :
    (s.nextGenerator i).counter.toNat = s.idGenerator.counter.toNat ∨
      (s.nextGenerator i).counter.toNat = s.idGenerator.counter.toNat + 1 := by
  rcases s.nextGenerator_cases i with hsame | hnext
  · exact Or.inl (by rw [hsame])
  · right
    rw [hnext, OrderIdGenerator.counter_generate, Nat.mod_eq_of_lt h]

/-- **Step lemma.**  Without a fault of SQLite, every call on the store succeeds exactly when the
gateway gives out no broker id that is bound as an earlier one, and the books stay unbroken then. -/
theorem step (h : Unbroken s given) (hfault : i.env.NoFault)
    (hcounter : s.idGenerator.counter.toNat + 1 < 2 ^ 64) :
    (StoreSucceeds s i ↔ ∀ broker ∈ issued s i, cStr broker ∉ given) ∧
      (StoreSucceeds s i → Unbroken (dispatch s i) (given ++ (issued s i).map cStr) ∧
        (dispatch s i).idGenerator.counter.toNat ≤ s.idGenerator.counter.toNat + 1) := by
  have hmove := dispatch_move s i
  have hfresh : StoreSucceeds s i → ∀ broker ∈ issued s i, ¬ s.orderStore.Carries (cStr broker) :=
    fun hok => hmove.issued_fresh hok
  have hcounters : (∀ broker ∈ issued s i, ¬ s.orderStore.Carries (cStr broker)) →
      (dispatch s i).counters = (s.nextGenerator i, s.storeFailures) :=
    s.counters_dispatch hfault h.agree (h.next_free i.env)
  constructor
  · simp only [← h.carries]
    refine ⟨hfresh, fun hnot => ?_⟩
    exact congrArg Prod.snd (hcounters hnot)
  · intro hok
    have hgenerator : (dispatch s i).idGenerator = s.nextGenerator i :=
      congrArg Prod.fst (hcounters (hfresh hok))
    have hnext := counter_next s i hcounter
    rw [← hgenerator] at hnext
    refine ⟨⟨h.agree.dispatch hok, fun broker => ?_, fun l hl => ?_⟩, by omega⟩
    · rw [hmove.carries_iff hok, h.carries, List.mem_append]
      rfl
    · rcases hmove.stored hl with hold | ⟨hnew, hadvanced⟩
      · have hlt := h.serials l hold
        omega
      · rw [hgenerator, hadvanced, OrderIdGenerator.counter_generate, Nat.mod_eq_of_lt hcounter,
          hnew]
        rw [show serialOf (s.generate i.env).1 = _ from
          s.idGenerator.serialOf_generate i.env.idClock]
        exact Nat.lt_succ_self _

/-- Every call on the store succeeds along a run exactly when the gateway gives out no two broker
ids that are bound alike. -/
lemma run_iff (h : Unbroken s given) (hnodup : given.Nodup) (inputs : List Input)
    (hfault : ∀ i ∈ inputs, i.env.NoFault)
    (hcounter : s.idGenerator.counter.toNat + inputs.length < 2 ^ 64) :
    Trajectory.AllSteps dispatch StoreSucceeds s inputs ↔
      (given ++ (issuedAll s inputs).map cStr).Nodup := by
  induction inputs generalizing s given with
  | nil => simpa [issuedAll] using hnodup
  | cons i inputs ih =>
    rw [List.length_cons] at hcounter
    obtain ⟨hiff, hstep⟩ := h.step (hfault i List.mem_cons_self) (by omega)
    have happ : given ++ (issuedAll s (i :: inputs)).map cStr =
        given ++ (issued s i).map cStr ++ (issuedAll (dispatch s i) inputs).map cStr := by
      rw [issuedAll, List.map_append, List.append_assoc]
    rw [Trajectory.allSteps_cons, happ]
    by_cases hok : StoreSucceeds s i
    · obtain ⟨hunbroken, hle⟩ := hstep hok
      have hnodup' : (given ++ (issued s i).map cStr).Nodup := by
        refine List.nodup_append'.mpr ⟨hnodup, (dispatch_move s i).nodup_issued, ?_⟩
        intro bound hgiven hbound
        obtain ⟨broker, hissued, rfl⟩ := List.mem_map.mp hbound
        exact hiff.mp hok broker hissued hgiven
      rw [and_iff_right hok]
      exact ih hunbroken hnodup' (fun j hj => hfault j (List.mem_cons_of_mem i hj)) (by omega)
    · refine iff_of_false (fun hall => hok hall.1) fun hall => hok (hiff.mpr ?_)
      have hdisjoint := (List.nodup_append'.mp (List.nodup_append'.mp hall).1).2.2
      exact fun broker hissued hgiven => hdisjoint hgiven (List.mem_map_of_mem hissued)

end Unbroken

/-- **The constraints of the table are never broken** in a run from an empty store without faults of
SQLite exactly when the gateway gives out no two broker ids that are bound alike; and then the
mapper and the store agree in every state exactly when no broker id has a zero byte. -/
theorem constraints_kept_iff (accountId : String) (riskManager : RiskManager) (inputs : List Input)
    (hfault : ∀ i ∈ inputs, i.env.NoFault) (hlength : inputs.length < 2 ^ 64) :
    (Trajectory.AllSteps dispatch StoreSucceeds (createOrderManager accountId .empty riskManager)
        inputs ↔
      ((issuedAll (createOrderManager accountId .empty riskManager) inputs).map cStr).Nodup) ∧
    (((issuedAll (createOrderManager accountId .empty riskManager) inputs).map cStr).Nodup →
      (Trajectory.EveryState dispatch MapperMatchesStore
          (createOrderManager accountId .empty riskManager) inputs ↔
        Trajectory.AllSteps dispatch IssuesNoZeroByte
          (createOrderManager accountId .empty riskManager) inputs)) := by
  have hiff := (Unbroken.start accountId riskManager).run_iff List.nodup_nil inputs hfault
    (by simpa [createOrderManager] using hlength)
  rw [List.nil_append] at hiff
  exact ⟨hiff, fun hnodup => mapperMatchesStore_iff accountId riskManager (hiff.mpr hnodup)⟩

/-- The gateway names the replacement of an order as it has named the order. -/
theorem constraints_kept_iff_reused :
    let buy : OMEvent := .submitCommand { symbol := "AAPL", side := .buy, targetQuantity := 10 }
    let more : OMEvent :=
      .replaceCommand
        { orderId := "ORD_0_000000", symbol := "AAPL", side := .buy, targetQuantity := 20 }
    ¬ Trajectory.AllSteps dispatch StoreSucceeds (createOrderManager "ACC" .empty ⟨{}⟩)
      [buy.quietly "B1", more.quietly "B1"] := by
  intro buy more hall
  have hfault : ∀ i ∈ [buy.quietly "B1", more.quietly "B1"], i.env.NoFault := by
    intro i hi
    simp only [List.mem_cons, List.not_mem_nil, or_false] at hi
    rcases hi with rfl | rfl <;> exact ⟨fun _ => rfl, rfl⟩
  have hnodup := (constraints_kept_iff "ACC" ⟨{}⟩ _ hfault (by decide)).1.mp hall
  revert hnodup
  decide +kernel

end Quarcc
