import QuarccEngine.OrderManager.Agreement
import QuarccEngine.OrderManager.Frozen

/-!
# The life of an order

The store accepts every status for every row.  Which statuses an order really goes through follows
from the handlers: `OrderStatus.next` is the diagram, and `StoredOrder.Evolves` says what may differ
between the row of an order at one moment of a run and at a later one.  The diagram is transitive,
so that the same relation describes one event and a whole run.  The invariant behind it is
`OnlyLive`: an order is mapped only while its row says that it is live.  Nothing is assumed about
the calls on the store, the gateway or the broker ids.
-/

namespace Quarcc

/-! ## The diagram -/

/-- The statuses that an order with the given status may have later on. -/
def OrderStatus.next : OrderStatus → List OrderStatus
  | .submitted | .partiallyFilled => [.partiallyFilled, .filled, .cancelled, .replaced, .rejected]
  | .pendingSubmission | .accepted => [.cancelled]
  | .filled | .cancelled | .replaced | .rejected | .expired => []

/-- The diagram is transitive. -/
lemma OrderStatus.next_trans {s₁ s₂ s₃ : OrderStatus} (h : s₂ ∈ s₁.next) (h' : s₃ ∈ s₂.next) :
    s₃ ∈ s₁.next := by
  cases s₁ <;> cases s₂ <;> simp_all [OrderStatus.next]

/-- Only a live order becomes a live one. -/
lemma OrderStatus.isLive_of_next {s₁ s₂ : OrderStatus} (h : s₂ ∈ s₁.next)
    (hlive : s₂.isLive = true) : s₁.isLive = true := by
  cases s₁ <;> cases s₂ <;> simp_all [OrderStatus.next, OrderStatus.isLive]

/-- A live order may be given every status but its first. -/
lemma OrderStatus.mem_next_of_isLive {s₁ s₂ : OrderStatus} (hlive : s₁.isLive = true)
    (h : s₂ = .partiallyFilled ∨ s₂.isFinal = true) : s₂ ∈ s₁.next := by
  cases s₁ <;> cases s₂ <;> simp_all [OrderStatus.next, OrderStatus.isLive, OrderStatus.isFinal]

/-- An open order may be cancelled. -/
lemma OrderStatus.cancelled_mem_next {status : OrderStatus} (h : status.isOpen = true) :
    .cancelled ∈ status.next := by
  cases status <;> simp_all [OrderStatus.next, OrderStatus.isOpen]

/-! ## Rows over time -/

namespace StoredOrder

/-- What may differ between the row of an order and its row later on. -/
structure Evolves (row row' : StoredOrder) : Prop where
  /-- The order, its two ids and the time of its creation stay. -/
  localId_eq : row'.localId = row.localId
  order_eq : row'.order = row.order
  brokerId_eq : row'.brokerId = row.brokerId
  createdAt_eq : row'.createdAt = row.createdAt
  /-- Either nothing has changed or the status has moved along the diagram. -/
  status_next : row' = row ∨ row'.status ∈ row.status.next
  /-- Only a live order is filled. -/
  filled_live : row'.filledQuantity ≠ row.filledQuantity ∨ row'.avgFillPrice ≠ row.avgFillPrice →
    row.status.isLive = true

variable {row row' row'' : StoredOrder}

lemma Evolves.refl (row : StoredOrder) : row.Evolves row where
  localId_eq := rfl
  order_eq := rfl
  brokerId_eq := rfl
  createdAt_eq := rfl
  status_next := Or.inl rfl
  filled_live := by simp

/-- Two changes one after the other. -/
lemma Evolves.trans (h : row.Evolves row') (h' : row'.Evolves row'') : row.Evolves row'' where
  localId_eq := h'.localId_eq.trans h.localId_eq
  order_eq := h'.order_eq.trans h.order_eq
  brokerId_eq := h'.brokerId_eq.trans h.brokerId_eq
  createdAt_eq := h'.createdAt_eq.trans h.createdAt_eq
  status_next := by
    rcases h.status_next with rfl | hnext
    · exact h'.status_next
    · rcases h'.status_next with rfl | hnext'
      · exact Or.inr hnext
      · exact Or.inr (OrderStatus.next_trans hnext hnext')
  filled_live := by
    intro hfilled
    by_cases hsame : row'.filledQuantity = row.filledQuantity ∧
        row'.avgFillPrice = row.avgFillPrice
    · -- the second change fills a live order, which was live before the first one
      rw [← hsame.1, ← hsame.2] at hfilled
      have hlive := h'.filled_live hfilled
      rcases h.status_next with rfl | hnext
      · exact hlive
      · exact OrderStatus.isLive_of_next hnext hlive
    · exact h.filled_live (not_and_or.mp hsame)

/-- A status of the diagram is written. -/
lemma evolves_withStatus {status : OrderStatus} (h : status ∈ row.status.next) (now : String) :
    row.Evolves (row.withStatus status now) where
  localId_eq := rfl
  order_eq := rfl
  brokerId_eq := rfl
  createdAt_eq := rfl
  status_next := Or.inr h
  filled_live := by simp [withStatus]

/-- A fill of a live order is written. -/
lemma evolves_withFill (hlive : row.status.isLive = true) {status : OrderStatus}
    (h : status = .partiallyFilled ∨ status.isFinal = true) (quantity price : ℚ) (now : String) :
    row.Evolves (row.withFill quantity price status now) where
  localId_eq := rfl
  order_eq := rfl
  brokerId_eq := rfl
  createdAt_eq := rfl
  status_next := Or.inr (OrderStatus.mem_next_of_isLive hlive h)
  filled_live := fun _ => hlive

/-- The row of an order that was just stored under its own id: it is submitted, or it does not carry
a broker id, and nothing is filled. -/
structure Newborn (row : StoredOrder) : Prop where
  localId_eq : row.localId = row.order.id
  filledQuantity_eq : row.filledQuantity = 0
  avgFillPrice_eq : row.avgFillPrice = 0
  status_first : row.status = .submitted ∨
    (row.status = .pendingSubmission ∨ row.status = .rejected) ∧ row.brokerId = none

/-- A row that was just stored, with one of the first statuses. -/
lemma IsNew.newborn {order : V1.Order} {status : OrderStatus} {broker : Option BrokerOrderId}
    (h : row.IsNew order status broker)
    (hstatus : status = .submitted ∨
      (status = .pendingSubmission ∨ status = .rejected) ∧ broker = none) : row.Newborn where
  localId_eq := by rw [h.localId_eq, h.order_eq]
  filledQuantity_eq := h.filledQuantity_eq
  avgFillPrice_eq := h.avgFillPrice_eq
  status_first := by rwa [h.status_eq, h.brokerId_eq]

end StoredOrder

/-! ## Stores over time -/

namespace SQLiteOrderStore

/-- Every row of the first store is still there in the second and has only evolved, and every other
row of the second is new. -/
structure Evolves (store store' : SQLiteOrderStore) : Prop where
  keeps : ∀ localId row, store.find localId = some row →
    ∃ row', store'.find localId = some row' ∧ row.Evolves row'
  adds : ∀ localId row', store.find localId = none → store'.find localId = some row' →
    ∃ row : StoredOrder, row.Newborn ∧ row.Evolves row'

variable {store store' store'' : SQLiteOrderStore} {localId : LocalOrderId} {row : StoredOrder}

lemma Evolves.refl (store : SQLiteOrderStore) : store.Evolves store where
  keeps := fun _ row h => ⟨row, h, .refl row⟩
  adds := by simp_all

/-- Two changes one after the other. -/
lemma Evolves.trans (h : store.Evolves store') (h' : store'.Evolves store'') :
    store.Evolves store'' where
  keeps := by
    intro l row hrow
    obtain ⟨row', hrow', hevolves⟩ := h.keeps l row hrow
    obtain ⟨row'', hrow'', hevolves'⟩ := h'.keeps l row' hrow'
    exact ⟨row'', hrow'', hevolves.trans hevolves'⟩
  adds := by
    intro l row'' hnone hrow''
    cases hrow' : store'.find l with
    | none => exact h'.adds l row'' hrow' hrow''
    | some row' =>
      obtain ⟨row, hnew, hevolves⟩ := h.adds l row' hnone hrow'
      obtain ⟨row₂, hrow₂, hevolves'⟩ := h'.keeps l row' hrow'
      obtain rfl : row₂ = row'' := Option.some.inj (hrow₂.symm.trans hrow'')
      exact ⟨row, hnew, hevolves.trans hevolves'⟩

/-- One row is rewritten. -/
lemma evolves_of_find (hrow : store.find localId = some row) {row' : StoredOrder}
    (hevolves : row.Evolves row')
    (hfind : ∀ l, store'.find l = if l = localId then some row' else store.find l) :
    store.Evolves store' where
  keeps := by
    intro l other hother
    rw [hfind]
    by_cases hl : l = localId
    · rw [hl, hrow] at hother
      obtain rfl := Option.some.inj hother
      exact ⟨row', if_pos hl, hevolves⟩
    · exact ⟨other, by rw [if_neg hl, hother], .refl other⟩
  adds := by
    intro l other hnone hother
    have hl : l ≠ localId := by
      rintro rfl
      rw [hrow] at hnone
      cases hnone
    rw [hfind, if_neg hl, hnone] at hother
    cases hother

/-- A status of the diagram is written to a row. -/
lemma evolves_setStatus (hrow : store.find localId = some row) {status : OrderStatus}
    (h : status ∈ row.status.next) (now : String) :
    store.Evolves (store.setStatus localId status now) :=
  evolves_of_find hrow (row.evolves_withStatus h now) (find_setStatus_of_find hrow status now)

/-- A row is inserted. -/
lemma Inserted.evolves (h : Inserted store row store') (hnew : row.Newborn) :
    store.Evolves store' where
  keeps := fun _ other hother => ⟨other, h.find_of_find hother, .refl other⟩
  adds := by
    intro l other hnone hother
    rw [h.find] at hother
    split_ifs at hother
    · obtain rfl := Option.some.inj hother
      exact ⟨_, hnew, .refl _⟩
    · rw [hnone] at hother
      cases hother

end SQLiteOrderStore

/-! ## The invariant -/

/-- An order is mapped only while its row says that it is live. -/
def OnlyLive (mapper : OrderIdMapper) (store : SQLiteOrderStore) : Prop :=
  ∀ localId broker, mapper.getBrokerId localId = some broker →
    ∃ row, store.find localId = some row ∧ row.status.isLive = true

namespace OnlyLive

variable {mapper : OrderIdMapper} {store store' : SQLiteOrderStore} {localId : LocalOrderId}
  {broker : BrokerOrderId} {row : StoredOrder}

/-- An order is unmapped, whatever is written to its row. -/
lemma unmap (h : OnlyLive mapper store) (hkeep : ∀ l, l ≠ localId → store'.find l = store.find l) :
    OnlyLive (mapper.removeMapping localId) store' := by
  intro l broker hmapped
  rw [OrderIdMapper.getBrokerId_removeMapping] at hmapped
  split_ifs at hmapped with hl
  rw [hkeep l hl]
  exact h l broker hmapped

/-- A row is inserted. -/
lemma insert (h : OnlyLive mapper store) (hins : SQLiteOrderStore.Inserted store row store') :
    OnlyLive mapper store' := by
  intro l broker hmapped
  obtain ⟨other, hother, hlive⟩ := h l broker hmapped
  exact ⟨other, hins.find_of_find hother, hlive⟩

/-- The row of a live order is inserted and the order is mapped. -/
lemma insert_mapped (h : OnlyLive mapper store)
    (hins : SQLiteOrderStore.Inserted store row store') (hlive : row.status.isLive = true)
    (broker : BrokerOrderId) : OnlyLive (mapper.addMapping row.localId broker) store' := by
  intro l broker' hmapped
  rw [OrderIdMapper.getBrokerId_addMapping] at hmapped
  by_cases hl : l = row.localId
  · exact ⟨row, by rw [hins.find, if_pos hl], hlive⟩
  · rw [if_neg hl] at hmapped
    exact h.insert hins l broker' hmapped

/-- A mapped order stays live. -/
lemma progress (h : OnlyLive mapper store) (hlive : row.status.isLive = true)
    (hfind : ∀ l, store'.find l = if l = localId then some row else store.find l) :
    OnlyLive mapper store' := by
  intro l broker hmapped
  rw [hfind]
  by_cases hl : l = localId
  · exact ⟨row, if_pos hl, hlive⟩
  · rw [if_neg hl]
    exact h l broker hmapped

/-- The kill switch keeps the invariant, and cancels orders that were open. -/
lemma kills {b : Books} (h : OnlyLive b.idMapper b.orderStore) (now : String)
    (killed : List StoredOrder) (hnodup : (killed.map StoredOrder.localId).Nodup)
    (hopen : ∀ row ∈ killed, b.orderStore.find row.localId = some row ∧
      row.status.isOpen = true) :
    OnlyLive ((killed.map StoredOrder.localId).foldl (Books.kill now) b).idMapper
        ((killed.map StoredOrder.localId).foldl (Books.kill now) b).orderStore ∧
      b.orderStore.Evolves
        ((killed.map StoredOrder.localId).foldl (Books.kill now) b).orderStore := by
  induction killed generalizing b with
  | nil => exact ⟨h, .refl _⟩
  | cons row killed ih =>
    rw [List.map_cons, List.nodup_cons] at hnodup
    obtain ⟨hrow, hstatus⟩ := hopen row List.mem_cons_self
    have hkill : OnlyLive (b.kill now row.localId).idMapper (b.kill now row.localId).orderStore :=
      h.unmap fun l hl => SQLiteOrderStore.find_setStatus_of_ne hl .cancelled now
    have hrest : ∀ other ∈ killed,
        (b.kill now row.localId).orderStore.find other.localId = some other ∧
          other.status.isOpen = true := by
      intro other hother
      obtain ⟨hfind, hother'⟩ := hopen other (List.mem_cons_of_mem row hother)
      have hne : other.localId ≠ row.localId := by
        intro heq
        exact hnodup.1 (heq ▸ List.mem_map_of_mem hother)
      exact ⟨(SQLiteOrderStore.find_setStatus_of_ne hne .cancelled now).trans hfind, hother'⟩
    obtain ⟨honly, hevolves⟩ := ih hkill hnodup.2 hrest
    refine ⟨honly, SQLiteOrderStore.Evolves.trans ?_ hevolves⟩
    exact SQLiteOrderStore.evolves_setStatus hrow (OrderStatus.cancelled_mem_next hstatus) now

/-- **Step lemma.**  A move keeps the invariant, and the rows evolve. -/
theorem of_move {s : OrderManager} {i : Input} {ok : Prop} {done : List GatewayEffect} {b : Books}
    (hguarded : Guarded s.idMapper s.orderStore) (h : OnlyLive s.idMapper s.orderStore)
    (hmove : Move s i ok done b) :
    OnlyLive b.idMapper b.orderStore ∧ s.orderStore.Evolves b.orderStore := by
  have hkeep : ∀ l status l', l' ≠ l →
      (s.orderStore.setStatus l status i.env.sqliteNow).find l' = s.orderStore.find l' :=
    fun _ status _ hl => SQLiteOrderStore.find_setStatus_of_ne hl status _
  -- a mapped order is given a final status and unmapped
  have hfinish : ∀ {l broker status}, s.idMapper.getBrokerId l = some broker →
      status.isFinal = true →
      OnlyLive (s.idMapper.removeMapping l)
          (s.orderStore.setStatus l status i.env.sqliteNow) ∧
        s.orderStore.Evolves (s.orderStore.setStatus l status i.env.sqliteNow) := by
    intro l broker status hmapped hfinal
    obtain ⟨row, hrow, hlive⟩ := h l broker hmapped
    have hnext := OrderStatus.mem_next_of_isLive hlive (Or.inr hfinal)
    exact ⟨h.unmap (hkeep l status), SQLiteOrderStore.evolves_setStatus hrow hnext _⟩
  cases hmove with
  | stay _ | skip _ _ => exact ⟨h, .refl _⟩
  | refuse _ _ hrow hstatus hstore =>
    refine ⟨h.insert hstore, hstore.evolves (hrow.newborn (Or.inr ⟨?_, rfl⟩))⟩
    exact hstatus.elim Or.inr fun hpending => Or.inl hpending.1
  | lose _ _ _ hrow hstore _ _ =>
    exact ⟨h.insert hstore, hstore.evolves (hrow.newborn (Or.inr ⟨Or.inl rfl, rfl⟩))⟩
  | accept _ _ _ hrow _ hstore =>
    refine ⟨h.insert_mapped hstore ?_ _, hstore.evolves (hrow.newborn (Or.inl rfl))⟩
    rw [hrow.status_eq]
    rfl
  | cancel _ hmapped _ => exact hfinish hmapped rfl
  | unmap _ _ _ | forget _ _ _ _ _ => exact ⟨h.unmap fun _ _ => rfl, .refl _⟩
  | retire _ hmapped _ _ _ => exact hfinish hmapped rfl
  | replace _ hmapped _ hrow hstore =>
    obtain ⟨honly, hevolves⟩ :=
      hfinish hmapped (show OrderStatus.replaced.isFinal = true from rfl)
    refine ⟨honly.insert_mapped hstore ?_ _,
      hevolves.trans (hstore.evolves (hrow.newborn (Or.inl rfl)))⟩
    rw [hrow.status_eq]
    rfl
  | @killSwitch _ _ killed _ hsub _ _ =>
    refine h.kills _ killed ?_ fun row hrow => ?_
    · exact (SQLiteOrderStore.getOpenOrders_nodup _).sublist (hsub.map StoredOrder.localId)
    · obtain ⟨hmem, hopen⟩ := SQLiteOrderStore.mem_getOpenOrders (hsub.subset hrow)
      exact ⟨SQLiteOrderStore.find_of_mem hmem, hopen⟩
  | @close report localId status updated _ hmapped _ hstatus _ =>
    rw [Books.close_idMapper, Books.close_orderStore]
    cases updated with
    | true =>
      refine hfinish (hguarded.back _ _ hmapped) ?_
      rcases hstatus with rfl | rfl <;> rfl
    | false => exact ⟨h.unmap fun _ _ => rfl, .refl _⟩
  | @fill report localId row applied _ hmapped _ hrow _ _ =>
    obtain ⟨row', hrow', hlive⟩ := h _ _ (hguarded.back _ _ hmapped)
    obtain rfl : row = row' := Option.some.inj (hrow.symm.trans hrow')
    rw [Books.fill_idMapper, Books.fill_orderStore]
    unfold Books.fillStatus
    by_cases hfull : row.order.quantity ≤ row.filledQuantity + report.filledQuantity
    · rw [if_pos hfull, if_pos hfull]
      cases applied with
      | true =>
        refine ⟨h.unmap fun l hl => SQLiteOrderStore.find_addFill_of_ne hl _ _ _ _, ?_⟩
        exact SQLiteOrderStore.evolves_of_find hrow (row.evolves_withFill hlive (Or.inr rfl) _ _ _)
          (SQLiteOrderStore.find_addFill_of_find hrow _ _ _ _)
      | false => exact ⟨h.unmap fun _ _ => rfl, .refl _⟩
    · rw [if_neg hfull, if_neg hfull]
      cases applied with
      | true =>
        have hfind := SQLiteOrderStore.find_addFill_of_find hrow report.filledQuantity
          report.avgFillPrice .partiallyFilled i.env.sqliteNow
        exact ⟨h.progress rfl hfind, SQLiteOrderStore.evolves_of_find hrow
          (row.evolves_withFill hlive (Or.inl rfl) _ _ _) hfind⟩
      | false => exact ⟨h, .refl _⟩

end OnlyLive

/-! ## Runs -/

/-- **The life of an order.**  Between any two moments of a run, whatever fails on the way, no row
disappears, every row keeps its order, its ids and the time of its creation, its status moves along
the diagram only and only live orders are filled; and every other row is that of an order that was
stored in between, not yet filled, and has evolved in the same way since. -/
theorem orders_follow_diagram (accountId : String) (store : SQLiteOrderStore)
    (riskManager : RiskManager) (before after : List Input) :
    Trajectory.EveryState dispatch
      (fun s => (Trajectory.run dispatch (createOrderManager accountId store riskManager)
        before).orderStore.Evolves s.orderStore)
      (Trajectory.run dispatch (createOrderManager accountId store riskManager) before) after := by
  have hstep : ∀ (s : OrderManager) (i : Input),
      Guarded s.idMapper s.orderStore ∧ OnlyLive s.idMapper s.orderStore →
        (Guarded (dispatch s i).idMapper (dispatch s i).orderStore ∧
          OnlyLive (dispatch s i).idMapper (dispatch s i).orderStore) ∧
        s.orderStore.Evolves (dispatch s i).orderStore := by
    rintro s i ⟨hguarded, honly⟩
    obtain ⟨honly', hevolves⟩ := OnlyLive.of_move hguarded honly (dispatch_move s i)
    exact ⟨⟨(hguarded.of_move (dispatch_move s i)).1, honly'⟩, hevolves⟩
  have hstart : Guarded (createOrderManager accountId store riskManager).idMapper store ∧
      OnlyLive (createOrderManager accountId store riskManager).idMapper store :=
    ⟨.start store, by simp [OnlyLive, createOrderManager]⟩
  have hbefore : Trajectory.EveryState dispatch
      (fun s => Guarded s.idMapper s.orderStore ∧ OnlyLive s.idMapper s.orderStore)
      (createOrderManager accountId store riskManager) before :=
    Trajectory.everyState_of_step (fun s i h => (hstep s i h).1) hstart
  have hafter : Trajectory.EveryState dispatch
      (fun s => (Guarded s.idMapper s.orderStore ∧ OnlyLive s.idMapper s.orderStore) ∧
        (Trajectory.run dispatch (createOrderManager accountId store riskManager)
          before).orderStore.Evolves s.orderStore)
      (Trajectory.run dispatch (createOrderManager accountId store riskManager) before) after :=
    Trajectory.everyState_of_step (fun s i h => ⟨(hstep s i h.1).1, h.2.trans (hstep s i h.1).2⟩)
      ⟨hbefore.last, .refl _⟩
  exact hafter.mono fun _ h => h.2

end Quarcc
