import QuarccEngine.Library.Trajectory
import QuarccEngine.OrderManager.Moves

/-!
# Terminal orders are frozen

Nothing in the store forbids to leave a terminal status.  That it does not happen follows from the
mapper: an order is only touched while it is mapped or listed as open, and the invariant `Guarded`
says that a mapped order never has a terminal status.  Nothing is assumed about the store, the
gateway or the order of the events: calls on the store may fail and broker ids may repeat.
-/

namespace Quarcc

/-- The statuses that an order is not supposed to leave. -/
def OrderStatus.isFinal : OrderStatus → Bool
  | .filled | .cancelled | .replaced | .rejected => true
  | _ => false

/-- An order with an open status is not final. -/
lemma OrderStatus.isFinal_of_isOpen {status : OrderStatus} (h : status.isOpen = true) :
    status.isFinal = false := by
  cases status <;> simp_all [OrderStatus.isOpen, OrderStatus.isFinal]

/-! ## The invariant -/

/-- Only running orders are mapped, and a broker id leads to an order that is mapped to it. -/
structure Guarded (mapper : OrderIdMapper) (store : SQLiteOrderStore) : Prop where
  /-- A broker id is only kept for the order that is mapped to it. -/
  back : ∀ localId broker, mapper.getLocalId broker = some localId →
    mapper.getBrokerId localId = some broker
  /-- A mapped order has a row without a terminal status. -/
  running : ∀ localId broker, mapper.getBrokerId localId = some broker →
    ∃ row, store.find localId = some row ∧ row.status.isFinal = false

/-- The rows with a terminal status are the same in both stores. -/
def Frozen (store store' : SQLiteOrderStore) : Prop :=
  ∀ localId row, store.find localId = some row → row.status.isFinal = true →
    store'.find localId = some row

/-- Nothing is lost when nothing changes. -/
lemma Frozen.refl (store : SQLiteOrderStore) : Frozen store store := fun _ _ h _ => h

/-- Inserting a row changes no other row. -/
lemma Frozen.insert {store store' : SQLiteOrderStore} {row : StoredOrder}
    (hins : SQLiteOrderStore.Inserted store row store') : Frozen store store' := by
  intro l row' hrow _
  exact hins.find_of_find hrow

/-- A store that differs only in the row of an order that is not final. -/
lemma Frozen.of_running {store store' : SQLiteOrderStore} {localId : LocalOrderId}
    {row : StoredOrder} (hrow : store.find localId = some row) (hfinal : row.status.isFinal = false)
    (hkeep : ∀ l, l ≠ localId → store'.find l = store.find l) : Frozen store store' := by
  intro l row' hrow' hfinal'
  have hne : l ≠ localId := by
    intro hl
    rw [hl, hrow] at hrow'
    obtain rfl := Option.some.inj hrow'
    simp [hfinal] at hfinal'
  rw [hkeep l hne, hrow']

/-- Changes of the store that are frozen one after the other. -/
lemma Frozen.trans {s₁ s₂ s₃ : SQLiteOrderStore} (h : Frozen s₁ s₂) (h' : Frozen s₂ s₃) :
    Frozen s₁ s₃ :=
  fun l row hrow hfinal => h' l row (h l row hrow hfinal) hfinal

namespace Guarded

variable {mapper : OrderIdMapper} {store store' : SQLiteOrderStore} {localId : LocalOrderId}
  {broker : BrokerOrderId} {row : StoredOrder}

/-- An order manager that was just created, whatever is in its store. -/
lemma start (store : SQLiteOrderStore) : Guarded {} store where
  back := by simp
  running := by simp

/-- Unmapping an order whose row may change. -/
lemma unmap (h : Guarded mapper store)
    (hkeep : ∀ l, l ≠ localId → store'.find l = store.find l) :
    Guarded (mapper.removeMapping localId) store' where
  back := by
    intro l b hb
    rw [OrderIdMapper.getLocalId_removeMapping] at hb
    split_ifs at hb with hmapped
    have hback := h.back l b hb
    have hne : l ≠ localId := by
      intro hl
      exact hmapped (hl ▸ hback)
    rw [OrderIdMapper.getBrokerId_removeMapping, if_neg hne, hback]
  running := by
    intro l b hl
    rw [OrderIdMapper.getBrokerId_removeMapping] at hl
    split_ifs at hl with hne
    rw [hkeep l hne]
    exact h.running l b hl

/-- A store in which the mapped orders still run. -/
lemma of_running (h : Guarded mapper store)
    (hkeep : ∀ l row, store.find l = some row → row.status.isFinal = false →
      ∃ row', store'.find l = some row' ∧ row'.status.isFinal = false) :
    Guarded mapper store' where
  back := h.back
  running := by
    intro l b hl
    obtain ⟨row, hrow, hfinal⟩ := h.running l b hl
    exact hkeep l row hrow hfinal

/-- Inserting a row. -/
lemma insert (h : Guarded mapper store) (hins : SQLiteOrderStore.Inserted store row store') :
    Guarded mapper store' := by
  refine h.of_running fun l row' hrow hfinal => ?_
  exact ⟨row', hins.find_of_find hrow, hfinal⟩

/-- An order without a row is not mapped. -/
lemma not_mapped (h : Guarded mapper store) (hnone : store.find localId = none) :
    mapper.getBrokerId localId = none := by
  cases hmapped : mapper.getBrokerId localId with
  | none => rfl
  | some b =>
    obtain ⟨row, hrow, -⟩ := h.running localId b hmapped
    rw [hnone] at hrow
    cases hrow

/-- Inserting and mapping an order that runs. -/
lemma insert_mapped (h : Guarded mapper store)
    (hins : SQLiteOrderStore.Inserted store row store') (hfinal : row.status.isFinal = false)
    (broker : BrokerOrderId) : Guarded (mapper.addMapping row.localId broker) store' where
  back := by
    intro l b hb
    rw [OrderIdMapper.getLocalId_addMapping] at hb
    rw [OrderIdMapper.getBrokerId_addMapping]
    split_ifs at hb with hbb
    · obtain rfl := Option.some.inj hb
      rw [if_pos rfl, hbb]
    · have hback := h.back l b hb
      have hne : l ≠ row.localId := by
        intro hl
        rw [hl, h.not_mapped hins.fresh] at hback
        cases hback
      rw [if_neg hne, hback]
  running := by
    intro l b hl
    rw [OrderIdMapper.getBrokerId_addMapping] at hl
    by_cases hne : l = row.localId
    · exact ⟨row, by rw [hins.find, if_pos hne], hfinal⟩
    · rw [if_neg hne] at hl
      obtain ⟨row', hrow', hfinal'⟩ := h.running l b hl
      exact ⟨row', hins.find_of_find hrow', hfinal'⟩

/-- What the kill switch does to the orders that it kills. -/
lemma kills {b : Books} (h : Guarded b.idMapper b.orderStore) (now : String)
    (killed : List LocalOrderId) :
    Guarded (killed.foldl (Books.kill now) b).idMapper
      (killed.foldl (Books.kill now) b).orderStore := by
  induction killed generalizing b with
  | nil => exact h
  | cons localId killed ih =>
    exact ih (h.unmap fun _ hl => SQLiteOrderStore.find_setStatus_of_ne hl _ _)

/-- **Step lemma.**  A move keeps the invariant and every row with a terminal status, whether calls
on the store fail or not. -/
theorem of_move {s : OrderManager} {i : Input} {ok : Prop} {done : List GatewayEffect} {b : Books}
    (h : Guarded s.idMapper s.orderStore) (hmove : Move s i ok done b) :
    Guarded b.idMapper b.orderStore ∧ Frozen s.orderStore b.orderStore := by
  have hstatus : ∀ l status l', l' ≠ l →
      (s.orderStore.setStatus l status i.env.sqliteNow).find l' = s.orderStore.find l' :=
    fun _ status _ hl => SQLiteOrderStore.find_setStatus_of_ne hl status _
  cases hmove with
  | stay _ | skip _ _ => exact ⟨h, .refl _⟩
  | refuse _ _ _ _ hstore | lose _ _ _ _ hstore _ _ => exact ⟨h.insert hstore, .insert hstore⟩
  | accept _ _ _ hrow _ hstore =>
    exact ⟨h.insert_mapped hstore (by rw [hrow.status_eq]; rfl) _, .insert hstore⟩
  | cancel _ hmapped _ =>
    obtain ⟨row, hrow, hfinal⟩ := h.running _ _ hmapped
    exact ⟨h.unmap (hstatus _ _), .of_running hrow hfinal (hstatus _ _)⟩
  | unmap _ _ _ | forget _ _ _ _ _ => exact ⟨h.unmap fun _ _ => rfl, .refl _⟩
  | retire _ hmapped _ _ _ =>
    obtain ⟨row, hrow, hfinal⟩ := h.running _ _ hmapped
    exact ⟨h.unmap (hstatus _ _), .of_running hrow hfinal (hstatus _ _)⟩
  | replace _ hmapped _ hrow hstore =>
    obtain ⟨old, hold, hfinal⟩ := h.running _ _ hmapped
    have hretired := Frozen.of_running hold hfinal (hstatus _ .replaced)
    exact ⟨(h.unmap (hstatus _ _)).insert_mapped hstore (by rw [hrow.status_eq]; rfl) _,
      hretired.trans (.insert hstore)⟩
  | @killSwitch _ _ killed _ hsub _ _ =>
    refine ⟨h.kills _ _, fun l row hrow hfinal => ?_⟩
    rw [Books.find_kills, if_neg, hrow]
    intro hmem
    obtain ⟨row', hrow', rfl⟩ := List.mem_map.mp hmem
    obtain ⟨hrows, hopen⟩ := SQLiteOrderStore.mem_getOpenOrders (hsub.subset hrow')
    have hfind := SQLiteOrderStore.find_of_mem hrows
    rw [hfind] at hrow
    obtain rfl := Option.some.inj hrow
    simp [OrderStatus.isFinal_of_isOpen hopen] at hfinal
  | @close report localId status updated _ hmapped _ _ _ =>
    obtain ⟨row, hrow, hfinal⟩ := h.running _ _ (h.back _ _ hmapped)
    unfold Books.close
    by_cases hupdated : updated = true
    · rw [if_pos hupdated]
      exact ⟨h.unmap (hstatus _ _), .of_running hrow hfinal (hstatus _ _)⟩
    · rw [if_neg hupdated]
      exact ⟨h.unmap fun _ _ => rfl, .refl _⟩
  | @fill report localId row applied _ hmapped _ hrow _ _ =>
    have hmapped' := h.back _ _ hmapped
    obtain ⟨row', hrow', hfinal⟩ := h.running _ _ hmapped'
    obtain rfl : row = row' := Option.some.inj (hrow.symm.trans hrow')
    have hkeep : ∀ status l, l ≠ localId →
        (s.orderStore.addFill localId report.filledQuantity report.avgFillPrice status
          i.env.sqliteNow).find l = s.orderStore.find l :=
      fun status _ hl => SQLiteOrderStore.find_addFill_of_ne hl _ _ status _
    unfold Books.fill Books.fillStatus
    dsimp only
    by_cases hfull : row.order.quantity ≤ row.filledQuantity + report.filledQuantity
    · -- the order is unmapped, its row being `FILLED` or left as it was
      rw [if_pos hfull, if_pos hfull]
      cases applied with
      | true => exact ⟨h.unmap (hkeep _), .of_running hrow hfinal (hkeep _)⟩
      | false => exact ⟨h.unmap fun _ _ => rfl, .refl _⟩
    · rw [if_neg hfull, if_neg hfull]
      cases applied with
      | true =>
        refine ⟨h.of_running fun l row' hrow' hfinal' => ?_, .of_running hrow hfinal (hkeep _)⟩
        by_cases hl : l = localId
        · rw [hl] at hrow' ⊢
          refine ⟨row'.withFill report.filledQuantity report.avgFillPrice .partiallyFilled
            i.env.sqliteNow, ?_, rfl⟩
          rw [if_pos rfl, SQLiteOrderStore.find_addFill, if_pos rfl, hrow', Option.map_some]
        · exact ⟨row', (hkeep _ l hl).trans hrow', hfinal'⟩
      | false => exact ⟨⟨h.back, h.running⟩, .refl _⟩

end Guarded

/-! ## Runs -/

/-- A run keeps the rows with a terminal status. -/
lemma frozen_run {s : OrderManager} (h : Guarded s.idMapper s.orderStore) (inputs : List Input) :
    Trajectory.EveryState dispatch (fun s' => Frozen s.orderStore s'.orderStore) s inputs := by
  have hinv : Trajectory.EveryState dispatch
      (fun s' => Guarded s'.idMapper s'.orderStore ∧ Frozen s.orderStore s'.orderStore)
      s inputs := by
    refine Trajectory.everyState_of_step ?_ ⟨h, .refl _⟩
    rintro s' i ⟨hguarded, hfrozen⟩
    obtain ⟨hguarded', hfrozen'⟩ := hguarded.of_move (dispatch_move s' i)
    exact ⟨hguarded', hfrozen.trans hfrozen'⟩
  exact hinv.mono fun _ h => h.2

/-- The mapper of every state that a fresh order manager reaches is guarded. -/
lemma guarded_run (accountId : String) (store : SQLiteOrderStore) (riskManager : RiskManager)
    (inputs : List Input) :
    Guarded (Trajectory.run dispatch (createOrderManager accountId store riskManager)
        inputs).idMapper
      (Trajectory.run dispatch (createOrderManager accountId store riskManager)
        inputs).orderStore := by
  have hinv : Trajectory.EveryState dispatch (fun s => Guarded s.idMapper s.orderStore)
      (createOrderManager accountId store riskManager) inputs :=
    Trajectory.everyState_of_step (fun s i h => (h.of_move (dispatch_move s i)).1) (.start store)
  exact hinv.last

/-- **Terminal orders are frozen.**  Once the row of an order has a terminal status, no later event
changes its status, its filled quantity or its average price, whatever the store, the gateway and
the order of the events. -/
theorem terminal_orders_frozen (accountId : String) (store : SQLiteOrderStore)
    (riskManager : RiskManager) (before after : List Input) {localId : LocalOrderId}
    {row : StoredOrder}
    (hrow : (Trajectory.run dispatch (createOrderManager accountId store riskManager)
      before).orderStore.find localId = some row)
    (hfinal : row.status = .filled ∨ row.status = .cancelled ∨ row.status = .replaced ∨
      row.status = .rejected) :
    Trajectory.EveryState dispatch
      (fun s => ∃ row', s.orderStore.find localId = some row' ∧ row'.status = row.status ∧
        row'.filledQuantity = row.filledQuantity ∧ row'.avgFillPrice = row.avgFillPrice)
      (Trajectory.run dispatch (createOrderManager accountId store riskManager) before) after := by
  have hisFinal : row.status.isFinal = true := by
    rcases hfinal with h | h | h | h <;> rw [h] <;> rfl
  have hrun := frozen_run (guarded_run accountId store riskManager before) after
  exact hrun.mono fun s h => ⟨row, h localId row hrow hisFinal, rfl, rfl, rfl⟩

/-- The row of a cancelled order, when the gateway reuses the broker id and a report for it comes
in. -/
theorem terminal_orders_frozen_reused :
    let buy : OMEvent := .submitCommand { symbol := "AAPL", side := .buy, targetQuantity := 10 }
    let cancel : OMEvent := .cancelCommand { orderId := "ORD_0_000000" }
    let fill : OMEvent :=
      .executionReport
        { brokerOrderId := "B1", symbol := "AAPL", side := .buy, filledQuantity := 10
          avgFillPrice := 100 }
    ∃ row, (Trajectory.run dispatch (createOrderManager "ACC" .empty ⟨{}⟩)
        [buy.quietly "B1", cancel.quietly "B1"]).orderStore.find "ORD_0_000000" = some row ∧
      Trajectory.EveryState dispatch
        (fun s => ∃ row', s.orderStore.find "ORD_0_000000" = some row' ∧
          row'.status = row.status ∧ row'.filledQuantity = row.filledQuantity ∧
          row'.avgFillPrice = row.avgFillPrice)
        (Trajectory.run dispatch (createOrderManager "ACC" .empty ⟨{}⟩)
          [buy.quietly "B1", cancel.quietly "B1"])
        [buy.quietly "B1", fill.quietly "B2"] := by
  intro buy cancel fill
  have hsome : ((Trajectory.run dispatch (createOrderManager "ACC" .empty ⟨{}⟩)
      [buy.quietly "B1", cancel.quietly "B1"]).orderStore.find "ORD_0_000000").map
        StoredOrder.status = some .cancelled := by
    decide +kernel
  obtain ⟨row, hrow, hstatus⟩ := Option.map_eq_some_iff.mp hsome
  exact ⟨row, hrow, terminal_orders_frozen "ACC" .empty ⟨{}⟩ _ _ hrow (Or.inr (Or.inl hstatus))⟩

end Quarcc
