import QuarccEngine.OrderManager.Frozen

/-!
# The orders of earlier sessions

The database of a strategy outlives its order manager.  After a restart of the engine, and when a
stopped strategy is registered again, a new order manager opens the file and finds the rows that
the earlier ones have left, but its mapper, its positions and its count of open orders start empty,
and it reads nothing back.  A `Session` is the life of one order manager, and a history of the
strategy is a run of `Session.close` over its sessions.

The only event that reaches an order of an earlier session is the kill switch, because it goes by
the open rows and not by the mapper.  `OrderManager.struck` says which rows it cancels, with failed
reads and failed updates taken into account.  The invariant is `Apart`: what is mapped was stored in
the current session.
-/

namespace Quarcc

/-! ## What the kill switch cancels -/

/-- The kill switch of `i` cancels the order with the row `row` at the gateway and records it. -/
def Input.strikes (i : Input) (row : StoredOrder) : Bool :=
  (i.killedBroker row).isSome &&
    (i.env.storeFault (.updateOrderStatus row.localId .cancelled)).isNone

/-- The rows that the event of `i` cancels when it is a kill switch. -/
def OrderManager.struck (s : OrderManager) (i : Input) : List StoredOrder :=
  match i.event with
  | .cancelAllCommand _ _ =>
    (s.orderStore.getOpenOrders i.env.openOrdersRead).filter i.strikes
  | _ => []

/-- Only open rows of the store are cancelled. -/
lemma OrderManager.of_mem_struck {s : OrderManager} {i : Input} {row : StoredOrder}
    (h : row ∈ s.struck i) :
    s.orderStore.find row.localId = some row ∧ row.status.isOpen = true := by
  unfold struck at h
  split at h
  · obtain ⟨hmem, hopen⟩ := SQLiteOrderStore.mem_getOpenOrders (List.mem_filter.mp h).1
    exact ⟨SQLiteOrderStore.find_of_mem hmem, hopen⟩
  · cases h

/-- The row of an order that is not open is not cancelled. -/
lemma OrderManager.notMem_struck {s : OrderManager} {i : Input} {localId : LocalOrderId}
    {row : StoredOrder} (hrow : s.orderStore.find localId = some row)
    (hclosed : row.status.isOpen = false) : localId ∉ (s.struck i).map StoredOrder.localId := by
  intro hmem
  obtain ⟨other, hother, rfl⟩ := List.mem_map.mp hmem
  obtain ⟨hfind, hopen⟩ := of_mem_struck hother
  obtain rfl := Option.some.inj (hfind.symm.trans hrow)
  rw [hclosed] at hopen
  cases hopen

/-- The loop of the kill switch, whatever fails on the way. -/
lemma cancelOpenOrders_struck (i : Input) (orders : List StoredOrder) (s : OrderManager) :
    ((OrderManager.cancelOpenOrders i.env orders s).run i.gateway.answer).toBooks =
      ((orders.filter i.strikes).map StoredOrder.localId).foldl (Books.kill i.env.sqliteNow)
        s.toBooks := by
  induction orders generalizing s with
  | nil => rfl
  | cons stored rest ih =>
    unfold OrderManager.cancelOpenOrders
    cases hbroker : stored.brokerId with
    | none =>
      have hnot : i.strikes stored = false := by simp [Input.strikes, Input.killedBroker, hbroker]
      rw [List.filter_cons_of_neg (by simp [hnot])]
      exact ih s
    | some broker =>
      simp only [Program.run_call, GatewayAnswers.answer]
      cases haccept : i.gateway.cancelOrder broker with
      | error e =>
        have hnot : i.strikes stored = false := by
          simp [Input.strikes, Input.killedBroker, hbroker, Option.filter, haccept]
        rw [List.filter_cons_of_neg (by simp [hnot])]
        exact ih _
      | ok u =>
        have hkilled : i.killedBroker stored = some broker := by
          simp [Input.killedBroker, hbroker, Option.filter, haccept]
        dsimp only
        rw [ih]
        unfold OrderManager.killOrder
        rcases s.updateOrderStatus_cases i.env stored.localId .cancelled with
          ⟨hfault, e, h⟩ | ⟨hfault, h⟩
        · -- the status update failed: the row stays as it is
          have hnot : i.strikes stored = false := by
            simpa [Input.strikes, Option.isSome_iff_ne_none] using fun _ => hfault
          rw [h, List.filter_cons_of_neg (by simp [hnot])]
          rfl
        · have hstrikes : i.strikes stored = true := by simp [Input.strikes, hkilled, hfault]
          rw [h, List.filter_cons_of_pos hstrikes]
          rfl

/-- The books after a kill switch. -/
lemma dispatch_struck (s : OrderManager) {i : Input} {reason initiatedBy : String}
    (hevent : i.event = .cancelAllCommand reason initiatedBy) :
    (dispatch s i).toBooks =
      ((s.struck i).map StoredOrder.localId).foldl (Books.kill i.env.sqliteNow) s.toBooks := by
  unfold dispatch OrderManager.handle OrderManager.handleCancelAllCommand OrderManager.struck
  simp only [hevent, OrderManager.getOpenOrders]
  cases hread : i.env.openOrdersRead with
  | none => exact cancelOpenOrders_struck i _ _
  | some n => exact cancelOpenOrders_struck i _ _

/-! ## One session -/

/-- A row is inserted under an id that no other row has. -/
lemma SQLiteOrderStore.Inserted.ne {store store' : SQLiteOrderStore} {row other : StoredOrder}
    {localId : LocalOrderId} (h : SQLiteOrderStore.Inserted store row store')
    (hother : store.find localId = some other) : localId ≠ row.localId := by
  rintro rfl
  rw [h.fresh] at hother
  cases hother

/-- What is mapped was stored in the current session, which has begun with the rows of `store`. -/
structure Apart (store : SQLiteOrderStore) (s : OrderManager) : Prop where
  guarded : Guarded s.idMapper s.orderStore
  /-- The rows of the earlier sessions are still there. -/
  kept : ∀ l, store.find l ≠ none → s.orderStore.find l ≠ none
  /-- The orders of the earlier sessions are not mapped. -/
  unmapped : ∀ l, store.find l ≠ none → s.idMapper.getBrokerId l = none

namespace Apart

variable {store : SQLiteOrderStore} {s : OrderManager} {i : Input} {localId : LocalOrderId}

lemma start (accountId : String) (store : SQLiteOrderStore) (riskManager : RiskManager) :
    Apart store (createOrderManager accountId store riskManager) where
  guarded := .start store
  kept := fun _ h => h
  unmapped := fun _ _ => rfl

/-- No report reaches an order of an earlier session. -/
lemma unreached (h : Apart store s) (hstored : store.find localId ≠ none)
    (broker : BrokerOrderId) : s.idMapper.getLocalId broker ≠ some localId := by
  intro hlocal
  have hmapped := h.guarded.back localId broker hlocal
  rw [h.unmapped localId hstored] at hmapped
  cases hmapped

/-- No event but the kill switch reaches an order of an earlier session. -/
lemma find_of_move {ok : Prop} {done : List GatewayEffect} {b : Books} (h : Apart store s)
    (hmove : Move s i ok done b)
    (hother : ∀ reason initiatedBy, i.event ≠ .cancelAllCommand reason initiatedBy)
    (hstored : store.find localId ≠ none) :
    b.idMapper.getBrokerId localId = none ∧
      b.orderStore.find localId = s.orderStore.find localId := by
  have hnone := h.unmapped localId hstored
  obtain ⟨row₀, hrow₀⟩ := Option.ne_none_iff_exists'.mp (h.kept localId hstored)
  rw [hrow₀]
  have hne : ∀ {l broker}, s.idMapper.getBrokerId l = some broker → localId ≠ l := by
    rintro l broker hmapped rfl
    rw [hnone] at hmapped
    cases hmapped
  have hremoved : ∀ l, (s.idMapper.removeMapping l).getBrokerId localId = none := by
    intro l
    rw [OrderIdMapper.getBrokerId_removeMapping, hnone, ite_self]
  have hkept : ∀ {l broker} status, s.idMapper.getBrokerId l = some broker →
      (s.orderStore.setStatus l status i.env.sqliteNow).find localId = some row₀ :=
    fun status hmapped =>
      (SQLiteOrderStore.find_setStatus_of_ne (hne hmapped) status _).trans hrow₀
  cases hmove with
  | stay _ | skip _ _ => exact ⟨hnone, hrow₀⟩
  | refuse _ _ _ _ hstore | lose _ _ _ _ hstore _ _ => exact ⟨hnone, hstore.find_of_find hrow₀⟩
  | accept _ _ _ _ _ hstore =>
    refine ⟨(OrderIdMapper.getBrokerId_addMapping ..).trans ?_, hstore.find_of_find hrow₀⟩
    rw [if_neg (hstore.ne hrow₀), hnone]
  | cancel _ hmapped _ | retire _ hmapped _ _ _ => exact ⟨hremoved _, hkept _ hmapped⟩
  | unmap _ _ _ | forget _ _ _ _ _ => exact ⟨hremoved _, hrow₀⟩
  | replace _ hmapped _ _ hstore =>
    have hold := hkept .replaced hmapped
    refine ⟨(OrderIdMapper.getBrokerId_addMapping ..).trans ?_, hstore.find_of_find hold⟩
    rw [if_neg (hstore.ne hold)]
    exact hremoved _
  | killSwitch hevent _ _ _ => exact absurd hevent (hother _ _)
  | @close report l status updated _ hmapped _ _ _ =>
    rw [Books.close_idMapper, Books.close_orderStore]
    refine ⟨hremoved l, ?_⟩
    cases updated with
    | true => exact hkept status (h.guarded.back l _ hmapped)
    | false => exact hrow₀
  | @fill report l row applied _ hmapped _ _ _ _ =>
    have hl := hne (h.guarded.back l _ hmapped)
    rw [Books.fill_idMapper, Books.fill_orderStore]
    constructor
    · split_ifs
      · exact hremoved l
      · exact hnone
    · cases applied with
      | true => exact (SQLiteOrderStore.find_addFill_of_ne hl ..).trans hrow₀
      | false => exact hrow₀

/-- **Step lemma.**  An order of an earlier session stays unmapped, and its row changes only when a
kill switch cancels it. -/
lemma dispatch_find (h : Apart store s) (i : Input) (hstored : store.find localId ≠ none) :
    (dispatch s i).idMapper.getBrokerId localId = none ∧
      (dispatch s i).orderStore.find localId =
        if localId ∈ (s.struck i).map StoredOrder.localId then
          (s.orderStore.find localId).map (StoredOrder.withStatus .cancelled i.env.sqliteNow)
        else s.orderStore.find localId := by
  cases hevent : i.event with
  | cancelAllCommand reason initiatedBy =>
    rw [dispatch_struck s hevent, Books.getBrokerId_kills, Books.find_kills,
      h.unmapped localId hstored, ite_self]
    exact ⟨rfl, rfl⟩
  | bar _ | tick _ | executionReport _ | submitCommand _ | cancelCommand _ | replaceCommand _ =>
    have hstruck : s.struck i = [] := by
      unfold OrderManager.struck
      rw [hevent]
    rw [hstruck, List.map_nil, if_neg List.not_mem_nil]
    refine h.find_of_move (dispatch_move s i) ?_ hstored
    simp [hevent]

/-- **Step lemma.**  The sessions stay apart, whatever happens. -/
lemma step (h : Apart store s) (i : Input) : Apart store (dispatch s i) where
  guarded := (h.guarded.of_move (dispatch_move s i)).1
  kept := by
    intro l hstored
    rw [(h.dispatch_find i hstored).2]
    have hkept := h.kept l hstored
    split_ifs
    · rwa [Ne, Option.map_eq_none_iff]
    · exact hkept
  unmapped := fun _ hstored => (h.dispatch_find i hstored).1

/-- **Run lemma.**  An order of an earlier session that is not open keeps its row. -/
lemma run_find_of_closed (h : Apart store s) (hstored : store.find localId ≠ none)
    {row : StoredOrder} (hrow : s.orderStore.find localId = some row)
    (hclosed : row.status.isOpen = false) (inputs : List Input) :
    (Trajectory.run dispatch s inputs).orderStore.find localId = some row := by
  have hevery : Trajectory.EveryState dispatch
      (fun s => Apart store s ∧ s.orderStore.find localId = some row) s inputs := by
    refine Trajectory.everyState_of_step ?_ ⟨h, hrow⟩
    rintro s i ⟨h, hrow⟩
    refine ⟨h.step i, ?_⟩
    rw [(h.dispatch_find i hstored).2, if_neg (OrderManager.notMem_struck hrow hclosed)]
    exact hrow
  exact hevery.last.2

/-- **Run lemma.**  The row of an earlier session either stays as it is, when no kill switch
cancels it, or it is open and some kill switch cancels it once and for all. -/
lemma run_find (h : Apart store s) (hstored : store.find localId ≠ none) {row : StoredOrder}
    (hrow : s.orderStore.find localId = some row) (inputs : List Input) :
    let spared := Trajectory.AllSteps dispatch
      (fun s i => localId ∉ (s.struck i).map StoredOrder.localId) s inputs
    let row' := (Trajectory.run dispatch s inputs).orderStore.find localId
    spared ∧ row' = some row ∨
      ¬ spared ∧ row.status.isOpen = true ∧ ∃ now, row' = some (row.withStatus .cancelled now) := by
  induction inputs generalizing s with
  | nil => exact Or.inl ⟨trivial, hrow⟩
  | cons i inputs ih =>
    have hfind := (h.dispatch_find i hstored).2
    dsimp only at ih ⊢
    rw [Trajectory.allSteps_cons, Trajectory.run_cons]
    by_cases hstruck : localId ∈ (s.struck i).map StoredOrder.localId
    · -- the first kill switch that cancels the order is the last event to change its row
      rw [if_pos hstruck, hrow, Option.map_some] at hfind
      have hopen : row.status.isOpen = true := by
        by_contra hclosed
        exact OrderManager.notMem_struck hrow (by simpa using hclosed) hstruck
      refine Or.inr ⟨fun hspared => hspared.1 hstruck, hopen, i.env.sqliteNow, ?_⟩
      exact (h.step i).run_find_of_closed hstored hfind rfl inputs
    · rw [if_neg hstruck, hrow] at hfind
      rcases ih (h.step i) hfind with ⟨hspared, hrow'⟩ | ⟨hspared, hcancelled⟩
      · exact Or.inl ⟨⟨hstruck, hspared⟩, hrow'⟩
      · exact Or.inr ⟨fun hall => hspared hall.2, hcancelled⟩

end Apart

/-! ## Sessions -/

/-- The life of one order manager: what it is created with, and what it handles. -/
structure Session where
  accountId : String
  riskManager : RiskManager
  inputs : List Input

namespace Session

/-- The order manager with which the session begins, on the database it finds. -/
def manager (store : SQLiteOrderStore) (session : Session) : OrderManager :=
  createOrderManager session.accountId store session.riskManager

/-- The database when the session has ended. -/
def close (store : SQLiteOrderStore) (session : Session) : SQLiteOrderStore :=
  (Trajectory.run dispatch (session.manager store) session.inputs).orderStore

/-- No kill switch of the session cancels the order. -/
def Spares (localId : LocalOrderId) (store : SQLiteOrderStore) (session : Session) : Prop :=
  Trajectory.AllSteps dispatch (fun s i => localId ∉ (s.struck i).map StoredOrder.localId)
    (session.manager store) session.inputs

instance (localId : LocalOrderId) (store : SQLiteOrderStore) (session : Session) :
    Decidable (session.Spares localId store) :=
  inferInstanceAs (Decidable (Trajectory.AllSteps ..))

/-- The order is not mapped and no broker id leads to it, from the beginning of the session to its
end. -/
def Ignores (localId : LocalOrderId) (store : SQLiteOrderStore) (session : Session) : Prop :=
  Trajectory.EveryState dispatch
    (fun s => s.idMapper.getBrokerId localId = none ∧
      ∀ broker, s.idMapper.getLocalId broker ≠ some localId)
    (session.manager store) session.inputs

variable {store : SQLiteOrderStore} {localId : LocalOrderId} {row : StoredOrder}

lemma apart (store : SQLiteOrderStore) (session : Session) :
    Apart store (session.manager store) :=
  .start session.accountId store session.riskManager

/-- What a session does to the row of an order that was stored before it. -/
lemma close_find (hrow : store.find localId = some row) (session : Session) :
    session.Spares localId store ∧ (session.close store).find localId = some row ∨
      ¬ session.Spares localId store ∧ row.status.isOpen = true ∧
        ∃ now, (session.close store).find localId = some (row.withStatus .cancelled now) := by
  refine (session.apart store).run_find ?_ hrow session.inputs
  rw [hrow]
  exact Option.some_ne_none row

/-- A session keeps the row exactly when it spares the order. -/
lemma close_find_iff (hrow : store.find localId = some row) (session : Session) :
    (session.close store).find localId = some row ↔ session.Spares localId store := by
  rcases close_find hrow session with ⟨hspared, hrow'⟩ | ⟨hspared, hopen, now, hrow'⟩
  · exact iff_of_true hrow' hspared
  · refine iff_of_false ?_ hspared
    intro hsame
    have hstatus : row.withStatus .cancelled now = row :=
      Option.some.inj (hrow'.symm.trans hsame)
    rw [← hstatus] at hopen
    cases hopen

/-- A session ignores the orders that were stored before it. -/
lemma ignores (hstored : store.find localId ≠ none) (session : Session) :
    session.Ignores localId store := by
  have hevery : Trajectory.EveryState dispatch (Apart store) (session.manager store)
      session.inputs :=
    Trajectory.everyState_of_step (fun s i h => h.step i) (session.apart store)
  exact hevery.mono fun s h => ⟨h.unmapped localId hstored, h.unreached hstored⟩

end Session

/-- **The orders of earlier sessions.**  Whatever later sessions do and whatever fails in them, the
row of a stored order stays exactly as it is until a kill switch cancels it, which happens at most
once and only to an open row; and no later session ever maps the order, so that no command and no
report reaches it. -/
theorem earlier_orders_only_cancelled (store : SQLiteOrderStore) (sessions : List Session)
    {localId : LocalOrderId} {row : StoredOrder} (hrow : store.find localId = some row) :
    Trajectory.EveryState Session.close
        (fun store' => store'.find localId = some row ∨
          row.status.isOpen = true ∧
            ∃ now, store'.find localId = some (row.withStatus .cancelled now)) store sessions ∧
      (Trajectory.EveryState Session.close (fun store' => store'.find localId = some row) store
          sessions ↔
        Trajectory.AllSteps Session.close (fun store' session => session.Spares localId store')
          store sessions) ∧
      Trajectory.AllSteps Session.close (fun store' session => session.Ignores localId store')
        store sessions := by
  have hstep : ∀ (store' : SQLiteOrderStore) (session : Session),
      (store'.find localId = some row ∨ row.status.isOpen = true ∧
        ∃ now, store'.find localId = some (row.withStatus .cancelled now)) →
      ((session.close store').find localId = some row ∨ row.status.isOpen = true ∧
        ∃ now, (session.close store').find localId = some (row.withStatus .cancelled now)) := by
    rintro store' session (hrow' | ⟨hopen, now, hrow'⟩)
    · rcases Session.close_find hrow' session with ⟨-, hsame⟩ | ⟨-, hcancelled⟩
      · exact Or.inl hsame
      · exact Or.inr hcancelled
    · rcases Session.close_find hrow' session with ⟨-, hsame⟩ | ⟨-, hopen', -⟩
      · exact Or.inr ⟨hopen, now, hsame⟩
      · cases hopen'
  refine ⟨Trajectory.everyState_of_step hstep (Or.inl hrow), ?_, ?_⟩
  · exact Trajectory.everyState_iff_of_step
      (P := fun store' : SQLiteOrderStore => store'.find localId = some row)
      (fun store' session hrow' => Session.close_find_iff hrow' session) hrow
  · refine Trajectory.allSteps_of_invariant (A := fun _ _ => True)
      (I := fun store' => store'.find localId ≠ none) ?_ ?_ ?_
      (Trajectory.allSteps_of_forall fun _ _ => trivial)
    · intro store' session hstored _
      obtain ⟨row', hrow'⟩ := Option.ne_none_iff_exists'.mp hstored
      rcases Session.close_find hrow' session with ⟨-, hsame⟩ | ⟨-, -, now, hcancelled⟩
      · simp [hsame]
      · simp [hcancelled]
    · exact fun store' session hstored _ => session.ignores hstored
    · rw [hrow]
      exact Option.some_ne_none row

/-- The database after a session in which one order was submitted. -/
def earlierStore : SQLiteOrderStore :=
  let buy : OMEvent := .submitCommand { symbol := "AAPL", side := .buy, targetQuantity := 10 }
  Session.close .empty ⟨"ACC", ⟨{}⟩, [buy.quietly "B1"]⟩

/-- A session that tries to cancel the order and is told of a fill before the kill switch. -/
def laterSession : Session :=
  let cancel : OMEvent := .cancelCommand { orderId := "ORD_0_000000" }
  let filled : OMEvent := .executionReport
    { brokerOrderId := "B1", symbol := "AAPL", side := .buy, filledQuantity := 10 }
  let killSwitch : OMEvent := .cancelAllCommand "restart" "operator"
  ⟨"ACC", ⟨{}⟩, [cancel.quietly "B2", filled.quietly "B2", killSwitch.quietly "B2"]⟩

/-- An order that was left open, and the kill switch of a later session. -/
theorem earlier_orders_only_cancelled_killed :
    ∃ row, earlierStore.find "ORD_0_000000" = some row ∧
      (∃ now, (laterSession.close earlierStore).find "ORD_0_000000" =
        some (row.withStatus .cancelled now)) ∧
      laterSession.Ignores "ORD_0_000000" earlierStore := by
  obtain ⟨row, hrow⟩ := Option.isSome_iff_exists.mp
    (show (earlierStore.find "ORD_0_000000").isSome = true by decide +kernel)
  obtain ⟨hevery, hkept, hignored⟩ := earlier_orders_only_cancelled earlierStore [laterSession] hrow
  have hstruck : ¬ laterSession.Spares "ORD_0_000000" earlierStore := by decide +kernel
  refine ⟨row, hrow, ?_, hignored.1⟩
  rcases hevery.last with hsame | ⟨-, hcancelled⟩
  · exact absurd (hkept.mp ⟨hrow, hsame⟩).1 hstruck
  · exact hcancelled

end Quarcc
