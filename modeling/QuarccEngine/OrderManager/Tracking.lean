import QuarccEngine.Core.LiveOrders
import QuarccEngine.Library.Trajectory
import QuarccEngine.OrderManager.Moves

/-!
# Live orders are tracked

A live order can be reached as long as it is mapped and its row is open and carries its broker id.
The calls on the store that follow the call on the gateway can fail, and then the order is lost
sight of; so it is when the broker id does not fit into its column, and when a row takes its order
for filled that is not.  The main result says that nothing else does it.
-/

namespace Quarcc

/-! ## The invariant -/

/-- The row records the live order: it has not filled more than what was reported. -/
structure LiveOrder.RecordedBy (order : LiveOrder) (row : StoredOrder) : Prop where
  quantity_eq : row.order.quantity = order.quantity
  filled_le : row.filledQuantity ≤ order.reported

/-- A fill keeps the record. -/
lemma LiveOrder.RecordedBy.fill {order order' : LiveOrder} {row row' : StoredOrder} {quantity : ℚ}
    (h : order.RecordedBy row) (hrow : row'.order = row.order)
    (hfilled : row'.filledQuantity = row.filledQuantity + quantity)
    (hlive : order.fill quantity = some order') : order'.RecordedBy row' := by
  have hle := h.filled_le
  unfold LiveOrder.fill at hlive
  split_ifs at hlive
  obtain rfl := Option.some.inj hlive
  refine ⟨?_, ?_⟩
  · rw [hrow]
    exact h.quantity_eq
  · rw [hfilled]
    linarith

/-- Every live order is mapped and stored.  In a run in which no call on the store fails, which
`exact` stands for, the row also records the order. -/
structure Tracking (exact : Prop) (mapper : OrderIdMapper) (store : SQLiteOrderStore)
    (live : LiveOrders) : Prop where
  /-- The two maps are inverse to each other. -/
  inverse : mapper.Inverse
  /-- The row of a mapped order is open and carries what was bound of its broker id. -/
  carried : mapper.CarriedBy store
  /-- The live orders are mapped and recorded. -/
  recorded : ∀ broker order, live broker = some order →
    ∃ localId row, mapper.getBrokerId localId = some broker ∧
      store.find localId = some row ∧ (exact → order.RecordedBy row)

namespace Tracking

variable {exact : Prop} {mapper : OrderIdMapper} {store store' : SQLiteOrderStore}
  {live : LiveOrders} {localId : LocalOrderId} {broker : BrokerOrderId} {row : StoredOrder}

/-- An order manager that was just created, whatever is in its store. -/
lemma start (store : SQLiteOrderStore) : Tracking exact {} store fun _ => none where
  inverse := OrderIdMapper.inverse_empty
  carried := by simp [OrderIdMapper.CarriedBy]
  recorded := by simp

/-- An order that is not mapped is not live. -/
lemma not_live (h : Tracking exact mapper store live) (hmapped : mapper.getLocalId broker = none) :
    live broker = none := by
  cases hlive : live broker with
  | none => rfl
  | some order =>
    obtain ⟨l, -, hl, -⟩ := h.recorded broker order hlive
    rw [← h.inverse, hmapped] at hl
    cases hl

/-- The record of an order that is live and mapped. -/
lemma recorded_of_mapped (h : Tracking exact mapper store live)
    (hmapped : mapper.getBrokerId localId = some broker) (hrow : store.find localId = some row)
    {order : LiveOrder} (hlive : live broker = some order) (hexact : exact) :
    order.RecordedBy row := by
  obtain ⟨l, row', hl, hrow', hrecorded⟩ := h.recorded broker order hlive
  have hsame : l = localId := by
    rw [← h.inverse] at hl hmapped
    exact Option.some.inj (hl.symm.trans hmapped)
  rw [hsame, hrow] at hrow'
  obtain rfl := Option.some.inj hrow'
  exact hrecorded hexact

/-- Storing a row that is not mapped. -/
lemma insert (h : Tracking exact mapper store live)
    (hins : SQLiteOrderStore.Inserted store row store') : Tracking exact mapper store' live where
  inverse := h.inverse
  carried := by
    intro l b hl
    obtain ⟨row', hrow', hcarries⟩ := h.carried l b hl
    exact ⟨row', hins.find_of_find hrow', hcarries⟩
  recorded := by
    intro b order hlive
    obtain ⟨l, row', hl, hrow', hrecorded⟩ := h.recorded b order hlive
    exact ⟨l, row', hl, hins.find_of_find hrow', hrecorded⟩

/-- Unmapping an order that is mapped to a broker id which is no longer live, or not mapped at all;
its row may change. -/
lemma forget (h : Tracking exact mapper store live)
    (hmapped : ∀ b, mapper.getBrokerId localId = some b → b = broker)
    (hkeep : ∀ l, l ≠ localId → store'.find l = store.find l) :
    Tracking exact (mapper.removeMapping localId) store' (Function.update live broker none) where
  inverse := h.inverse.removeMapping localId
  carried := by
    intro l b hl
    rw [OrderIdMapper.getBrokerId_removeMapping] at hl
    split_ifs at hl with hne
    rw [hkeep l hne]
    exact h.carried l b hl
  recorded := by
    intro b order hlive
    have hb : b ≠ broker := by
      rintro rfl
      rw [Function.update_self] at hlive
      cases hlive
    rw [Function.update_of_ne hb] at hlive
    obtain ⟨l, row, hl, hrow, hrecorded⟩ := h.recorded b order hlive
    have hne : l ≠ localId := by
      rintro rfl
      exact hb (hmapped b hl)
    refine ⟨l, row, ?_, ?_, hrecorded⟩
    · rw [OrderIdMapper.getBrokerId_removeMapping, if_neg hne, hl]
    · rw [hkeep l hne, hrow]

/-- Unmapping an order that is no longer live; its row may change. -/
lemma drop (h : Tracking exact mapper store live)
    (hmapped : mapper.getBrokerId localId = some broker)
    (hkeep : ∀ l, l ≠ localId → store'.find l = store.find l) :
    Tracking exact (mapper.removeMapping localId) store' (Function.update live broker none) :=
  h.forget (fun _ hb => Option.some.inj (hb.symm.trans hmapped)) hkeep

/-- Storing and mapping an order that is now live. -/
lemma add (h : Tracking exact mapper store live)
    (hins : SQLiteOrderStore.Inserted store row store')
    (hbroker : row.brokerId = some (cStr broker)) (hopen : row.status.isOpen = true)
    (hfilled : row.filledQuantity = 0) :
    Tracking exact (mapper.addMapping row.localId broker) store'
      (Function.update live broker (some ⟨row.order.quantity, 0⟩)) where
  inverse := by
    refine h.inverse.addMapping ?_ ?_
    · -- a mapped order has a row
      cases hl : mapper.getBrokerId row.localId with
      | none => rfl
      | some b =>
        obtain ⟨row', hrow', -⟩ := h.carried row.localId b hl
        rw [hins.fresh] at hrow'
        cases hrow'
    · -- a mapped broker id is carried by a row
      cases hb : mapper.getLocalId broker with
      | none => rfl
      | some l =>
        rw [h.inverse] at hb
        obtain ⟨row', hrow', hcarried, -⟩ := h.carried l broker hb
        exact absurd (SQLiteOrderStore.carries_iff.mpr ⟨l, row', hrow', hcarried⟩)
          (hins.broker_fresh (cStr broker) hbroker)
  carried := by
    intro l b hl
    rw [OrderIdMapper.getBrokerId_addMapping] at hl
    by_cases hne : l = row.localId
    · rw [if_pos hne] at hl
      obtain rfl := Option.some.inj hl
      exact ⟨row, by rw [hins.find, if_pos hne], hbroker, hopen⟩
    · rw [if_neg hne] at hl
      obtain ⟨row', hrow', hcarries⟩ := h.carried l b hl
      exact ⟨row', hins.find_of_find hrow', hcarries⟩
  recorded := by
    intro b order hlive
    by_cases hb : b = broker
    · rw [hb, Function.update_self] at hlive
      obtain rfl := Option.some.inj hlive
      refine ⟨row.localId, row, ?_, ?_, fun _ => ⟨rfl, hfilled.le⟩⟩
      · rw [OrderIdMapper.getBrokerId_addMapping, if_pos rfl, hb]
      · rw [hins.find, if_pos rfl]
    · rw [Function.update_of_ne hb] at hlive
      obtain ⟨l, row', hl, hrow', hrecorded⟩ := h.recorded b order hlive
      have hne : l ≠ row.localId := by
        rintro rfl
        rw [hins.fresh] at hrow'
        cases hrow'
      refine ⟨l, row', ?_, hins.find_of_find hrow', hrecorded⟩
      rw [OrderIdMapper.getBrokerId_addMapping, if_neg hne, hl]

/-- Changing the row of a mapped order. -/
lemma change (h : Tracking exact mapper store live)
    (hmapped : mapper.getBrokerId localId = some broker) (hrow : store'.find localId = some row)
    (hbroker : row.brokerId = some (cStr broker)) (hopen : row.status.isOpen = true)
    (hkeep : ∀ l, l ≠ localId → store'.find l = store.find l) {now : Option LiveOrder}
    (hnow : exact → ∀ order, now = some order → order.RecordedBy row) :
    Tracking exact mapper store' (Function.update live broker now) where
  inverse := h.inverse
  carried := by
    intro l b hl
    by_cases hne : l = localId
    · rw [hne] at hl ⊢
      obtain rfl := Option.some.inj (hmapped.symm.trans hl)
      exact ⟨row, hrow, hbroker, hopen⟩
    · rw [hkeep l hne]
      exact h.carried l b hl
  recorded := by
    intro b order hlive
    by_cases hb : b = broker
    · rw [hb, Function.update_self] at hlive
      exact ⟨localId, row, hb ▸ hmapped, hrow, fun hexact => hnow hexact order hlive⟩
    · rw [Function.update_of_ne hb] at hlive
      obtain ⟨l, row', hl, hrow', hrecorded⟩ := h.recorded b order hlive
      have hne : l ≠ localId := by
        rintro rfl
        exact hb (Option.some.inj (hl.symm.trans hmapped))
      exact ⟨l, row', hl, (hkeep l hne).trans hrow', hrecorded⟩

/-- What the kill switch does to the orders that it kills, when these are among the orders that it
goes through and it finds their broker ids whole. -/
lemma kills {b : Books} (h : Tracking exact b.idMapper b.orderStore live) {i : Input}
    (hwhole : b.idMapper.NoZeroBytes)
    {orders killed : List StoredOrder} (hrows : ∀ row ∈ orders, row ∈ b.orderStore.rows)
    (hsub : ∀ row ∈ killed, row ∈ orders) (hkills : ∀ row ∈ killed, i.Kills row) (now : String) :
    Tracking exact ((killed.map StoredOrder.localId).foldl (Books.kill now) b).idMapper
      ((killed.map StoredOrder.localId).foldl (Books.kill now) b).orderStore
      ((i.killEffects orders).foldl LiveOrders.effect live) where
  inverse := by
    have hinverse : ∀ (ids : List LocalOrderId) (b : Books), b.idMapper.Inverse →
        (ids.foldl (Books.kill now) b).idMapper.Inverse := by
      intro ids
      induction ids with
      | nil => exact fun _ hb => hb
      | cons localId ids ih => exact fun b hb => ih _ (hb.removeMapping localId)
    exact hinverse _ b h.inverse
  carried := by
    intro l broker hl
    rw [Books.getBrokerId_kills] at hl
    split_ifs at hl with hkilled
    rw [Books.find_kills, if_neg hkilled]
    exact h.carried l broker hl
  recorded := by
    intro broker order hlive
    unfold Input.killEffects at hlive
    rw [LiveOrders.foldl_closed] at hlive
    split_ifs at hlive with hclosed
    obtain ⟨l, row, hl, hrow, hrecorded⟩ := h.recorded broker order hlive
    have hkept : l ∉ killed.map StoredOrder.localId := by
      intro hmem
      obtain ⟨row', hkilled, hid⟩ := List.mem_map.mp hmem
      have hfind := SQLiteOrderStore.find_of_mem (hrows row' (hsub row' hkilled))
      rw [hid, hrow] at hfind
      obtain rfl := Option.some.inj hfind
      obtain ⟨row', hrow', hcarried, -⟩ := h.carried l broker hl
      rw [hrow] at hrow'
      obtain rfl := Option.some.inj hrow'
      rw [(hwhole l broker hl).cStr_eq] at hcarried
      obtain ⟨broker', hbroker, haccept⟩ := hkills row hkilled
      rw [hcarried] at hbroker
      obtain rfl := Option.some.inj hbroker
      refine hclosed (List.mem_filterMap.mpr ⟨row, hsub row hkilled, ?_⟩)
      unfold Input.killedBroker
      simp [hcarried, haccept, Option.filter]
    refine ⟨l, row, ?_, ?_, hrecorded⟩
    · rw [Books.getBrokerId_kills, if_neg hkept, hl]
    · rw [Books.find_kills, if_neg hkept, hrow]

end Tracking

/-! ## One event -/

/-- The calls on the store succeed for the order that the gateway accepts: a new order becomes
`SUBMITTED` and gets its broker id, which no row carries yet, and a replacement is stored.  A report
that completes the row of a live order completes the order. -/
def Input.KeepsTrack (s : OrderManager) (live : LiveOrders) (i : Input) : Prop :=
  match i.event with
  | .submitCommand signal =>
    ∀ broker, SubmitSent s i.env signal →
      i.gateway.submitOrder (s.orderOfSubmit i.env signal) = .ok broker →
        i.env.storeFault (.updateOrderStatus (s.orderOfSubmit i.env signal).id .submitted) = none ∧
          ¬ BrokerIdRefused s i.env (s.orderOfSubmit i.env signal).id broker
  | .replaceCommand signal =>
    ∀ broker newBroker, s.idMapper.getBrokerId signal.orderId = some broker →
      i.gateway.replaceOrder broker (s.orderOfReplace i.env signal) = .ok newBroker →
        i.env.storeFault (.updateOrderStatus signal.orderId .replaced) = none ∧
          ¬ ReplacementRefused s i.env (s.orderOfReplace i.env signal).id newBroker
  | .executionReport report =>
    ∀ localId row order, s.idMapper.getLocalId report.brokerOrderId = some localId →
      report.isTerminal = false → i.env.storeFault (.getOrder localId) = none →
      s.orderStore.find localId = some row →
      row.order.quantity ≤ row.filledQuantity + report.filledQuantity →
      live report.brokerOrderId = some order → order.fill report.filledQuantity = none
  | _ => True

namespace Input.KeepsTrack

variable {s : OrderManager} {live : LiveOrders} {i : Input} (h : i.KeepsTrack s live)

include h

/-- A submit command whose order the gateway accepts. -/
lemma of_submit {signal : V1.StrategySignal} {broker : BrokerOrderId}
    (hevent : i.event = .submitCommand signal) (hsent : SubmitSent s i.env signal)
    (haccept : i.gateway.submitOrder (s.orderOfSubmit i.env signal) = .ok broker) :
    i.env.storeFault (.updateOrderStatus (s.orderOfSubmit i.env signal).id .submitted) = none ∧
      ¬ BrokerIdRefused s i.env (s.orderOfSubmit i.env signal).id broker := by
  unfold KeepsTrack at h
  rw [hevent] at h
  exact h broker hsent haccept

/-- A replace command that the gateway accepts. -/
lemma of_replace {signal : V1.ReplaceSignal} {broker newBroker : BrokerOrderId}
    (hevent : i.event = .replaceCommand signal)
    (hmapped : s.idMapper.getBrokerId signal.orderId = some broker)
    (haccept : i.gateway.replaceOrder broker (s.orderOfReplace i.env signal) = .ok newBroker) :
    i.env.storeFault (.updateOrderStatus signal.orderId .replaced) = none ∧
      ¬ ReplacementRefused s i.env (s.orderOfReplace i.env signal).id newBroker := by
  unfold KeepsTrack at h
  rw [hevent] at h
  exact h broker newBroker hmapped haccept

/-- A report that completes the row of its order. -/
lemma of_complete {report : V1.ExecutionReport} {localId : LocalOrderId} {row : StoredOrder}
    (hevent : i.event = .executionReport report)
    (hmapped : s.idMapper.getLocalId report.brokerOrderId = some localId)
    (hterminal : report.isTerminal = false) (hread : i.env.storeFault (.getOrder localId) = none)
    (hrow : s.orderStore.find localId = some row)
    (hfull : row.order.quantity ≤ row.filledQuantity + report.filledQuantity) {order : LiveOrder}
    (hlive : live report.brokerOrderId = some order) : order.fill report.filledQuantity = none := by
  unfold KeepsTrack at h
  rw [hevent] at h
  exact h localId row order hmapped hterminal hread hrow hfull hlive

end Input.KeepsTrack

namespace Tracking

variable {exact : Prop} {s : OrderManager} {i : Input} {live : LiveOrders}

/-- The report of a fill after which the order of the row `row'` is still mapped. -/
lemma report_change {mapper : OrderIdMapper} {store store' : SQLiteOrderStore}
    (h : Tracking exact mapper store live) {report : V1.ExecutionReport} {localId : LocalOrderId}
    {row row' : StoredOrder} (hterminal : report.isTerminal = false)
    (hmapped : mapper.getLocalId report.brokerOrderId = some localId)
    (hrow : store.find localId = some row) (hrow' : store'.find localId = some row')
    (hkeep : ∀ l, l ≠ localId → store'.find l = store.find l)
    (hbroker : row'.brokerId = row.brokerId) (horder : row'.order = row.order)
    (hopen : row.status.isOpen = true → row'.status.isOpen = true)
    (hfilled : exact → row'.filledQuantity = row.filledQuantity + report.filledQuantity) :
    Tracking exact mapper store' (live.report report) := by
  have hmapped' := (h.inverse _ _).mp hmapped
  obtain ⟨row₀, hrow₀, hcarried, hopen₀⟩ := h.carried _ _ hmapped'
  rw [hrow] at hrow₀
  obtain rfl := Option.some.inj hrow₀
  unfold LiveOrders.report
  rw [hterminal]
  refine h.change hmapped' hrow' (hbroker.trans hcarried) (hopen hopen₀) hkeep
    fun hexact order hnow => ?_
  obtain ⟨order₀, hlive, hfill⟩ := Option.bind_eq_some_iff.mp hnow
  exact (h.recorded_of_mapped hmapped' hrow hlive hexact).fill horder (hfilled hexact) hfill

/-- The report that completes the row of its order: nothing is left of the live order. -/
lemma report_complete {report : V1.ExecutionReport}
    (hdone : ∀ order, live report.brokerOrderId = some order →
      order.fill report.filledQuantity = none) :
    live.report report = Function.update live report.brokerOrderId none := by
  unfold LiveOrders.report
  congr 1
  split_ifs
  · rfl
  cases hlive : live report.brokerOrderId with
  | none => rfl
  | some order => exact hdone order hlive

/-- A live order is complete when the row that records it is. -/
lemma fill_of_exact {mapper : OrderIdMapper} {store : SQLiteOrderStore}
    (h : Tracking exact mapper store live) (hexact : exact) {broker : BrokerOrderId}
    {localId : LocalOrderId} {row : StoredOrder}
    (hmapped : mapper.getLocalId broker = some localId) (hrow : store.find localId = some row)
    {quantity : ℚ} (hfull : row.order.quantity ≤ row.filledQuantity + quantity)
    {order : LiveOrder} (hlive : live broker = some order) : order.fill quantity = none := by
  have hrecorded := h.recorded_of_mapped ((h.inverse _ _).mp hmapped) hrow hlive hexact
  have hle := hrecorded.filled_le
  have hquantity := hrecorded.quantity_eq
  unfold LiveOrder.fill
  rw [if_pos (by linarith)]

/-- **Step lemma.**  A move keeps track of the live orders when no call on the store fails, and also
when those succeed that are made for an order which the gateway accepts; a kill switch does when it
finds the broker ids whole. -/
theorem of_move {ok : Prop} {done : List GatewayEffect} {b : Books}
    (h : Tracking exact s.idMapper s.orderStore live)
    (hcond : exact ∧ ok ∨ ¬ exact ∧ i.KeepsTrack s live)
    (hwhole : i.ReadsWhole s) (hmove : Move s i ok done b) :
    Tracking exact b.idMapper b.orderStore
      ((done.foldl LiveOrders.effect live).event i.event) := by
  have hstatus : ∀ l status l', l' ≠ l →
      (s.orderStore.setStatus l status i.env.sqliteNow).find l' = s.orderStore.find l' :=
    fun _ status _ hl => SQLiteOrderStore.find_setStatus_of_ne hl status _
  have hkeeps : ¬ ok → ¬ exact ∧ i.KeepsTrack s live :=
    fun hfail => hcond.resolve_left fun hok => hfail hok.2
  cases hmove with
  | stay hidle =>
    unfold Input.Idle at hidle
    cases hevent : i.event with
    | executionReport report =>
      rw [hevent] at hidle
      unfold LiveOrders.event
      dsimp only [List.foldl_nil]
      rw [LiveOrders.report_of_not_live (h.not_live hidle)]
      exact h
    | _ => exact h
  | skip hunread hfail =>
    cases hevent : i.event with
    | executionReport report =>
      obtain ⟨hterminal, localId, hmapped, -⟩ := hunread report hevent
      obtain ⟨row, hrow, -⟩ := h.carried _ _ ((h.inverse _ _).mp hmapped)
      exact h.report_change hterminal hmapped hrow hrow (fun _ _ => rfl) rfl rfl id
        fun hexact => absurd hexact (hkeeps hfail).1
    | _ => exact h
  | refuse hevent _ _ _ hstore =>
    rw [hevent]
    exact h.insert hstore
  | lose hevent hsent haccept _ _ hfault hfail =>
    exact absurd ((hkeeps hfail).2.of_submit hevent hsent haccept).1 hfault
  | @accept signal broker row store carried hevent hsent haccept hrow hcarried hstore =>
    rw [hevent]
    have hbroker : carried = some (cStr broker) := by
      apply hcarried.resolve_right
      rintro ⟨-, hfail, hrefused⟩
      exact ((hkeeps hfail).2.of_submit hevent hsent haccept).2 hrefused
    have hadd := h.add hstore (hrow.brokerId_eq.trans hbroker) (by rw [hrow.status_eq]; rfl)
      hrow.filledQuantity_eq
    rw [hrow.order_eq] at hadd
    exact hadd
  | cancel hevent hmapped _ =>
    rw [hevent]
    exact h.drop hmapped (hstatus _ _)
  | unmap hevent hmapped _ =>
    rw [hevent]
    exact h.drop hmapped fun _ _ => rfl
  | forget hevent hmapped haccept hfault hfail =>
    exact absurd ((hkeeps hfail).2.of_replace hevent hmapped haccept).1 hfault
  | retire hevent hmapped haccept hrefused hfail =>
    exact absurd hrefused ((hkeeps hfail).2.of_replace hevent hmapped haccept).2
  | replace hevent hmapped _ hrow hstore =>
    rw [hevent]
    have hadd := (h.drop hmapped (hstatus _ .replaced)).add hstore hrow.brokerId_eq
      (by rw [hrow.status_eq]; rfl) hrow.filledQuantity_eq
    rw [hrow.order_eq] at hadd
    exact hadd
  | killSwitch hevent hsub hkills _ =>
    rw [hevent]
    exact h.kills (hwhole _ _ hevent) (fun row hrow => (SQLiteOrderStore.mem_getOpenOrders hrow).1)
      (fun row hrow => hsub.subset hrow) hkills _
  | @close report localId status updated hevent hmapped hterminal _ _ =>
    rw [hevent]
    have hmapped' := (h.inverse _ _).mp hmapped
    unfold LiveOrders.event LiveOrders.report Books.close
    dsimp only [List.foldl_nil]
    rw [if_pos hterminal]
    cases updated with
    | true => exact h.drop hmapped' (hstatus _ _)
    | false => exact h.drop hmapped' fun _ _ => rfl
  | @fill report localId row applied hevent hmapped hterminal hrow hfault happlied =>
    rw [hevent]
    have hmapped' := (h.inverse _ _).mp hmapped
    have hkeep : ∀ status l, l ≠ localId →
        (s.orderStore.addFill localId report.filledQuantity report.avgFillPrice status
          i.env.sqliteNow).find l = s.orderStore.find l :=
      fun status _ hl => SQLiteOrderStore.find_addFill_of_ne hl _ _ status _
    unfold LiveOrders.event Books.fill Books.fillStatus
    dsimp only [List.foldl_nil]
    by_cases hfull : row.order.quantity ≤ row.filledQuantity + report.filledQuantity
    · -- the order is unmapped, and it is fully filled
      have hdone : ∀ order, live report.brokerOrderId = some order →
          order.fill report.filledQuantity = none := by
        intro order hlive
        rcases hcond with ⟨hexact, -⟩ | ⟨-, hkeeps⟩
        · exact h.fill_of_exact hexact hmapped hrow hfull hlive
        · exact hkeeps.of_complete hevent hmapped hterminal hfault.1 hrow hfull hlive
      rw [if_pos hfull, if_pos hfull, report_complete hdone]
      cases applied with
      | true => exact h.drop hmapped' (hkeep _)
      | false => exact h.drop hmapped' fun _ _ => rfl
    · rw [if_neg hfull, if_neg hfull]
      cases applied with
      | true =>
        have hrow' : (s.orderStore.addFill localId report.filledQuantity report.avgFillPrice
            .partiallyFilled i.env.sqliteNow).find localId =
              some (row.withFill report.filledQuantity report.avgFillPrice .partiallyFilled
                i.env.sqliteNow) := by
          rw [SQLiteOrderStore.find_addFill, if_pos rfl, hrow, Option.map_some]
        exact h.report_change hterminal hmapped hrow hrow' (hkeep _) rfl rfl (fun _ => rfl)
          fun _ => rfl
      | false =>
        have hfail : ¬ ok := fun hok => by simpa using happlied hok
        exact h.report_change hterminal hmapped hrow hrow (fun _ _ => rfl) rfl rfl id
          fun hexact => absurd hexact (hkeeps hfail).1

/-- A round of the dispatch loop keeps track of the live orders. -/
lemma dispatch (h : Tracking exact s.idMapper s.orderStore live)
    (hcond : exact ∧ StoreSucceeds s i ∨ ¬ exact ∧ i.KeepsTrack s live)
    (hwhole : i.ReadsWhole s) :
    Tracking exact (dispatch s i).idMapper (dispatch s i).orderStore (live.after s i) :=
  h.of_move hcond hwhole (dispatch_move s i)

end Tracking

/-! ## Runs -/

/-- The broker id is mapped to a local id whose row is open and carries it. -/
def OrderManager.Tracks (s : OrderManager) (broker : BrokerOrderId) : Prop :=
  ∃ localId row, s.idMapper.getLocalId broker = some localId ∧
    s.idMapper.getBrokerId localId = some broker ∧ s.orderStore.find localId = some row ∧
    row.status.isOpen = true ∧ row.brokerId = some broker

/-- The invariant says that the live orders are tracked. -/
lemma Tracking.tracks {exact : Prop} {s : OrderManager} {live : LiveOrders}
    (h : Tracking exact s.idMapper s.orderStore live) (hwhole : s.idMapper.NoZeroBytes)
    {broker : BrokerOrderId} (hlive : live broker ≠ none) : s.Tracks broker := by
  obtain ⟨order, horder⟩ := Option.ne_none_iff_exists'.mp hlive
  obtain ⟨l, -, hl, -⟩ := h.recorded broker order horder
  obtain ⟨row, hrow, hcarried, hopen⟩ := h.carried l broker hl
  rw [(hwhole l broker hl).cStr_eq] at hcarried
  exact ⟨l, row, (h.inverse l broker).mpr hl, hl, hrow, hopen, hcarried⟩

/-- Every live order is tracked. -/
def Account.Tracked (account : Account) : Prop :=
  ∀ broker, account.2 broker ≠ none → account.1.Tracks broker

/-- **Live orders are tracked** in every state of a run, whatever is in the store at its start, when
the calls on the store succeed that are made for an order which the gateway accepts, the broker ids
have no zero byte and no row is complete before its live order. -/
theorem live_orders_tracked (accountId : String) (store : SQLiteOrderStore)
    (riskManager : RiskManager) (inputs : List Input)
    (hkeeps : Trajectory.AllSteps Account.step
      (fun account i => i.KeepsTrack account.1 account.2 ∧ IssuesNoZeroByte account.1 i)
      (Account.start accountId store riskManager) inputs) :
    Trajectory.EveryState Account.step Account.Tracked
      (Account.start accountId store riskManager) inputs := by
  have hinv : Trajectory.EveryState Account.step
      (fun account => Tracking False account.1.idMapper account.1.orderStore account.2 ∧
        account.1.idMapper.NoZeroBytes)
      (Account.start accountId store riskManager) inputs := by
    refine Trajectory.everyState_of_invariant ?_ ⟨.start store, nofun⟩ hkeeps
    rintro account i ⟨h, hwhole⟩ ⟨hi, hplain⟩
    exact ⟨h.dispatch (Or.inr ⟨not_false, hi⟩) fun _ _ _ => hwhole,
      (dispatch_move account.1 i).noZeroBytes hwhole hplain⟩
  refine hinv.mono fun account h => ?_
  intro broker hlive
  exact h.1.tracks h.2 hlive

/-- The orders that the runs below start with. -/
def buy (quantity : ℚ) : OMEvent :=
  .submitCommand { symbol := "AAPL", side := .buy, targetQuantity := quantity }

/-- A command that replaces the first order. -/
def replaceFirst (quantity : ℚ) : OMEvent :=
  .replaceCommand
    { symbol := "AAPL", side := .buy, targetQuantity := quantity, orderId := "ORD_0_000000" }

/-- The live orders along a run in which an order is submitted and replaced. -/
theorem live_orders_tracked_replaced :
    Trajectory.EveryState Account.step Account.Tracked (Account.start "ACC" .empty ⟨{}⟩)
      [(buy 10).quietly "B1", (replaceFirst 20).quietly "B2"] := by
  refine live_orders_tracked "ACC" .empty ⟨{}⟩ _
    ⟨⟨?_, by decide +kernel⟩, ⟨?_, by decide +kernel⟩, trivial⟩
  · intro broker _ haccept
    obtain rfl : "B1" = broker := Except.ok.inj haccept
    exact ⟨rfl, by decide +kernel⟩
  · intro broker newBroker _ haccept
    obtain rfl : "B2" = newBroker := Except.ok.inj haccept
    exact ⟨rfl, by decide +kernel⟩

/-- A broker that amends in place answers a replace command with the broker id it was given.  The
replacement is not stored, as its broker id is not unique, and is live without being mapped. -/
theorem replaced_in_place_untracked :
    ¬ Trajectory.EveryState Account.step Account.Tracked (Account.start "ACC" .empty ⟨{}⟩)
      [(buy 10).quietly "B1", (replaceFirst 20).quietly "B1"] := by
  intro h
  obtain ⟨localId, row, hmapped, -⟩ := h.last "B1" (by decide +kernel)
  have hnone : (Trajectory.run Account.step (Account.start "ACC" .empty ⟨{}⟩)
      [(buy 10).quietly "B1", (replaceFirst 20).quietly "B1"]).1.idMapper.getLocalId "B1" =
        none := by
    decide +kernel
  rw [hnone] at hmapped
  cases hmapped

end Quarcc
