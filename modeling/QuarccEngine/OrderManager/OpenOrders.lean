import QuarccEngine.OrderManager.Agreement

/-!
# The count of open orders

`open_order_count_` is meant to be the number of orders that are mapped, and the limit on the number
of open orders is checked against it.  `Move.counts` says what an event does to the two numbers.
The kill switch and the terminal reports unmap orders without counting them down, and every other
event keeps the difference; and a submit command is let through when the count has reached the
limit.
-/

namespace Quarcc

/-! ## What an event does to the two numbers -/

/-- The submit command of `i` passes the check and is accepted by the gateway. -/
def Input.Admits (s : OrderManager) (i : Input) : Prop :=
  match i.event with
  | .submitCommand signal =>
    s.checkSubmit signal = .ok () ∧
      ∃ broker, i.gateway.submitOrder (s.orderOfSubmit i.env signal) = .ok broker
  | _ => False

/-- The event of `i` is neither a terminal report of a mapped order nor a kill switch that cancels
an open order. -/
def Input.KeepsCount (s : OrderManager) (i : Input) : Prop :=
  match i.event with
  | .executionReport report =>
    report.isTerminal = true → s.idMapper.getLocalId report.brokerOrderId = none
  | .cancelAllCommand _ _ => ∀ row ∈ s.orderStore.getOpenOrders none, ¬ i.Kills row
  | _ => True

/-- The kill switch leaves the count as it is. -/
lemma Books.kills_openOrderCount (now : String) (b : Books) (killed : List LocalOrderId) :
    (killed.foldl (kill now) b).openOrderCount = b.openOrderCount := by
  induction killed generalizing b with
  | nil => rfl
  | cons localId killed ih => exact ih (b.kill now localId)

/-- The kill switch unmaps what it kills. -/
lemma Books.kills_mappedCount (now : String) (b : Books) (killed : List LocalOrderId)
    (hnodup : killed.Nodup) (hmapped : ∀ l ∈ killed, b.idMapper.getBrokerId l ≠ none) :
    (killed.foldl (kill now) b).idMapper.mappedCount + killed.length =
      b.idMapper.mappedCount := by
  induction killed generalizing b with
  | nil => rfl
  | cons localId killed ih =>
    obtain ⟨hnotMem, hnodup⟩ := List.nodup_cons.mp hnodup
    have hrest : ∀ l ∈ killed, (b.kill now localId).idMapper.getBrokerId l ≠ none := by
      intro l hl
      have hne : l ≠ localId := fun h => hnotMem (h ▸ hl)
      have hkeep : (b.kill now localId).idMapper.getBrokerId l = b.idMapper.getBrokerId l := by
        unfold kill removeMapping setStatus
        rw [OrderIdMapper.getBrokerId_removeMapping, if_neg hne]
      rw [hkeep]
      exact hmapped l (List.mem_cons_of_mem _ hl)
    have hsize := ih (b.kill now localId) hnodup hrest
    obtain ⟨broker, hbroker⟩ :=
      Option.ne_none_iff_exists'.mp (hmapped localId List.mem_cons_self)
    have hone : (b.kill now localId).idMapper.mappedCount + 1 = b.idMapper.mappedCount :=
      OrderIdMapper.mappedCount_removeMapping hbroker
    rw [List.foldl_cons, List.length_cons]
    omega

/-- The kill switch keeps the risk manager. -/
lemma Books.kills_riskManager (now : String) (b : Books) (killed : List LocalOrderId) :
    (killed.foldl (kill now) b).riskManager = b.riskManager := by
  induction killed generalizing b with
  | nil => rfl
  | cons localId killed ih => exact ih (b.kill now localId)

/-- No event changes the risk limits. -/
lemma Move.riskManager_eq {s : OrderManager} {i : Input} {ok : Prop} {done : List GatewayEffect}
    {b : Books} (hmove : Move s i ok done b) : b.riskManager = s.riskManager := by
  cases hmove with
  | killSwitch _ _ _ _ => exact Books.kills_riskManager _ _ _
  | close _ _ _ _ _ => exact Books.close_riskManager _ _ _ _ _
  | fill _ _ _ _ _ _ => exact Books.fill_riskManager _ _ _ _ _ _
  | _ => rfl

/-- How an event has changed the count of open orders and the number of mapped orders: it has
admitted an order, or taken away as many orders from both, or unmapped `n` orders only. -/
inductive CountsChange (s : OrderManager) (i : Input) (b : Books) : Prop
  | admitted (hadmits : i.Admits s) (hcount : b.openOrderCount = s.openOrderCount + 1)
      (hmapped : b.idMapper.mappedCount = s.idMapper.mappedCount + 1)
  | kept (n : ℕ) (hadmits : ¬ i.Admits s) (hkeeps : i.KeepsCount s)
      (hcount : b.openOrderCount = s.openOrderCount - n)
      (hmapped : b.idMapper.mappedCount + n = s.idMapper.mappedCount)
  | drifted (n : ℕ) (hadmits : ¬ i.Admits s) (hdrifts : ¬ i.KeepsCount s) (hpos : 0 < n)
      (hcount : b.openOrderCount = s.openOrderCount)
      (hmapped : b.idMapper.mappedCount + n = s.idMapper.mappedCount)

/-- **Step lemma.**  What a move does to the two numbers when no call on the store fails. -/
theorem Move.counts {s : OrderManager} {i : Input} {ok : Prop} {done : List GatewayEffect}
    {b : Books} (h : Agree s.idMapper s.orderStore) (hok : ok) (hmove : Move s i ok done b) :
    CountsChange s i b := by
  cases hmove with
  | stay hidle =>
    unfold Input.Idle at hidle
    refine .kept 0 ?_ ?_ (by simp) rfl
    · intro hadmits
      unfold Input.Admits at hadmits
      cases hevent : i.event <;> simp_all
    · unfold Input.KeepsCount
      cases hevent : i.event <;> simp_all
  | refuse hevent hrefused _ _ _ =>
    refine .kept 0 ?_ ?_ (by simp) rfl
    · intro hadmits
      unfold Input.Admits at hadmits
      rw [hevent] at hadmits
      obtain ⟨hcheck, broker, haccept⟩ := hadmits
      obtain ⟨e, hreject⟩ := hrefused hcheck
      rw [hreject] at haccept
      cases haccept
    · simp [Input.KeepsCount, hevent]
  | accept hevent hsent haccept _ _ hstore =>
    refine .admitted ?_ rfl ?_
    · unfold Input.Admits
      rw [hevent]
      exact ⟨hsent.2.2, _, haccept⟩
    · refine OrderIdMapper.mappedCount_addMapping ?_ _
      rw [h.getBrokerId_eq_none_iff]
      exact hstore.liveBroker_fresh
  | cancel hevent hmapped _ =>
    refine .kept 1 (by simp [Input.Admits, hevent]) (by simp [Input.KeepsCount, hevent]) rfl ?_
    exact OrderIdMapper.mappedCount_removeMapping hmapped
  | skip _ hfail | lose _ _ _ _ _ _ hfail | unmap _ _ hfail | forget _ _ _ _ hfail
  | retire _ _ _ _ hfail =>
    exact absurd hok hfail
  | @replace signal broker newBroker row store hevent hmapped _ _ hstore =>
    refine .kept 0 (by simp [Input.Admits, hevent]) (by simp [Input.KeepsCount, hevent])
      (by simp [Books.addMapping, Books.removeMapping]) ?_
    have hfresh : (s.idMapper.removeMapping signal.orderId).getBrokerId row.localId = none := by
      have hagree : Agree _ (s.orderStore.setStatus signal.orderId .replaced i.env.sqliteNow) :=
        h.finish rfl rfl signal.orderId i.env.sqliteNow
      rw [hagree.getBrokerId_eq_none_iff]
      exact hstore.liveBroker_fresh
    have hadd := OrderIdMapper.mappedCount_addMapping hfresh newBroker
    have hremove := OrderIdMapper.mappedCount_removeMapping hmapped
    change ((s.idMapper.removeMapping signal.orderId).addMapping row.localId
      newBroker).mappedCount + 0 = _
    omega
  | @killSwitch _ _ killed hevent hsub hkills hall =>
    obtain ⟨hread, hall⟩ := hall hok
    rw [hread] at hsub
    have hnodup : (killed.map StoredOrder.localId).Nodup :=
      (SQLiteOrderStore.getOpenOrders_nodup none).sublist (hsub.map _)
    have hmapped : ∀ l ∈ killed.map StoredOrder.localId, s.idMapper.getBrokerId l ≠ none := by
      intro l hl
      obtain ⟨row, hrow, rfl⟩ := List.mem_map.mp hl
      exact h.mapped_of_open (hsub.subset hrow)
    have hcount := Books.kills_openOrderCount i.env.sqliteNow s.toBooks
      (killed.map StoredOrder.localId)
    have hsize := Books.kills_mappedCount i.env.sqliteNow s.toBooks _ hnodup hmapped
    rw [List.length_map] at hsize
    have hadmits : ¬ i.Admits s := by simp [Input.Admits, hevent]
    cases killed with
    | nil =>
      refine .kept 0 hadmits ?_ (by simp) hsize
      unfold Input.KeepsCount
      rw [hevent]
      intro row hrow hkill
      exact absurd (hall row hrow hkill) List.not_mem_nil
    | cons row killed =>
      refine .drifted _ hadmits ?_ (Nat.succ_pos _) hcount hsize
      intro hkeeps
      unfold Input.KeepsCount at hkeeps
      rw [hevent] at hkeeps
      exact hkeeps row (hsub.subset List.mem_cons_self) (hkills row List.mem_cons_self)
  | close hevent hmapped hterminal _ _ =>
    refine .drifted 1 (by simp [Input.Admits, hevent]) ?_ one_pos ?_ ?_
    · intro hkeeps
      unfold Input.KeepsCount at hkeeps
      rw [hevent] at hkeeps
      have hnone := hkeeps hterminal
      rw [hmapped] at hnone
      cases hnone
    · exact Books.close_openOrderCount _ _ _ _ _
    · rw [Books.close_idMapper]
      exact OrderIdMapper.mappedCount_removeMapping ((h.inverse _ _).mp hmapped)
  | @fill report localId row applied hevent hmapped hterminal _ _ _ =>
    have hkeeps : i.KeepsCount s := by simp [Input.KeepsCount, hevent, hterminal]
    have hadmits : ¬ i.Admits s := by simp [Input.Admits, hevent]
    have hremove := OrderIdMapper.mappedCount_removeMapping ((h.inverse _ _).mp hmapped)
    by_cases hfull : row.order.quantity ≤ row.filledQuantity + report.filledQuantity
    · refine .kept 1 hadmits hkeeps ?_ ?_
      · rw [Books.fill_openOrderCount, if_pos hfull]
        rfl
      · rw [Books.fill_idMapper, if_pos hfull]
        exact hremove
    · refine .kept 0 hadmits hkeeps ?_ ?_
      · rw [Books.fill_openOrderCount, if_neg hfull]
        simp
      · rw [Books.fill_idMapper, if_neg hfull]
        rfl

/-! ## The count is the number of mapped orders -/

/-- The count of open orders is the number of orders that are mapped. -/
def OrderManager.CountsMapped (s : OrderManager) : Prop :=
  s.openOrderCount = s.idMapper.mappedCount

/-- One event keeps the count right exactly when it is no terminal report of a mapped order and no
kill switch that cancels an order. -/
lemma countsMapped_dispatch_iff {s : OrderManager} {i : Input}
    (h : Agree s.idMapper s.orderStore) (hok : StoreSucceeds s i) (hcount : s.CountsMapped) :
    (dispatch s i).CountsMapped ↔ i.KeepsCount s := by
  unfold OrderManager.CountsMapped at hcount ⊢
  rcases (dispatch_move s i).counts h hok with
    ⟨hadmits, hcount', hmapped⟩ | ⟨n, hadmits, hkeeps, hcount', hmapped⟩ |
    ⟨n, hadmits, hdrifts, hpos, hcount', hmapped⟩
  · have hkeeps : i.KeepsCount s := by
      unfold Input.Admits at hadmits
      unfold Input.KeepsCount
      cases hevent : i.event <;> simp_all
    refine ⟨fun _ => hkeeps, fun _ => ?_⟩
    rw [hcount', hmapped, hcount]
    push_cast
    rfl
  · refine ⟨fun _ => hkeeps, fun _ => ?_⟩
    omega
  · refine ⟨fun hcounts => ?_, fun hkeeps => absurd hkeeps hdrifts⟩
    omega

/-- **The count of open orders along a run** that starts with an empty store and in which the store
succeeds: it is the number of mapped orders in every state exactly when no event of the run is a
terminal report of a mapped order or a kill switch that cancels an order. -/
theorem open_order_count_iff (accountId : String) (riskManager : RiskManager)
    (inputs : List Input)
    (hok : Trajectory.AllSteps dispatch StoreSucceeds
      (createOrderManager accountId .empty riskManager) inputs) :
    Trajectory.EveryState dispatch OrderManager.CountsMapped
        (createOrderManager accountId .empty riskManager) inputs ↔
      Trajectory.AllSteps dispatch (fun s i => i.KeepsCount s)
        (createOrderManager accountId .empty riskManager) inputs :=
  Trajectory.everyState_iff_allSteps
    (I := fun s : OrderManager => Agree s.idMapper s.orderStore)
    (fun _ _ h hi => h.dispatch hi) (fun _ _ h hi hs => countsMapped_dispatch_iff h hi hs)
    Agree.empty rfl hok

/-- The order that the runs below start with. -/
def buyTen : OMEvent :=
  .submitCommand { symbol := "AAPL", side := .buy, targetQuantity := 10 }

/-- A report that fills the order `broker` completely. -/
def filledTen (broker : BrokerOrderId) : OMEvent :=
  .executionReport
    { brokerOrderId := broker, symbol := "AAPL", side := .buy, filledQuantity := 10
      avgFillPrice := 100 }

/-- A run in which the count stays right: an order is submitted and filled. -/
theorem open_order_count_iff_filled :
    Trajectory.EveryState dispatch OrderManager.CountsMapped (createOrderManager "ACC" .empty ⟨{}⟩)
      [buyTen.quietly "B1", (filledTen "B1").quietly "B2"] :=
  (open_order_count_iff "ACC" ⟨{}⟩ _ (by decide +kernel)).mpr
    ⟨trivial, fun h => absurd h (by decide), trivial⟩

/-- The count is left behind when the broker reports an order cancelled: one open order is counted
and none is mapped. -/
theorem open_order_count_ne_mapped :
    let cancelled : OMEvent :=
      .executionReport
        { brokerOrderId := "B1", symbol := "AAPL", side := .buy, status := .cancelled }
    let start := createOrderManager "ACC" .empty ⟨{}⟩
    let inputs := [buyTen.quietly "B1", cancelled.quietly "B2"]
    Trajectory.AllSteps dispatch StoreSucceeds start inputs ∧
      (Trajectory.run dispatch start inputs).openOrderCount = 1 ∧
      (Trajectory.run dispatch start inputs).idMapper.mappedCount = 0 := by
  decide +kernel

/-! ## The limit on open orders -/

/-- At most as many orders are mapped as the limit on open orders allows. -/
def OrderManager.WithinOpenLimit (s : OrderManager) : Prop :=
  s.idMapper.mappedCount ≤ s.riskManager.limits.maxOpenOrders

instance (s : OrderManager) : Decidable s.WithinOpenLimit :=
  inferInstanceAs (Decidable (s.idMapper.mappedCount ≤ s.riskManager.limits.maxOpenOrders))

/-- The event of `i` is no submit command that goes through when the limit on open orders has been
reached, by the count and by the number of mapped orders. -/
def Input.BelowOpenLimit (s : OrderManager) (i : Input) : Prop :=
  i.Admits s → ¬ (s.openOrderCount = s.riskManager.limits.maxOpenOrders ∧
    s.idMapper.mappedCount = s.riskManager.limits.maxOpenOrders)

/-- What the runs under a limit keep: the mapper and the store agree, no mapped order goes
uncounted, and the limit is enabled. -/
structure CountsEnough (s : OrderManager) : Prop where
  agree : Agree s.idMapper s.orderStore
  mapped_le : (s.idMapper.mappedCount : ℤ) ≤ s.openOrderCount
  limit_ne : s.riskManager.limits.maxOpenOrders ≠ 0

/-- A submit command that goes through finds the count within the limit. -/
lemma CountsEnough.count_le {s : OrderManager} {i : Input} (h : CountsEnough s)
    (hadmits : i.Admits s) : s.openOrderCount ≤ s.riskManager.limits.maxOpenOrders := by
  have hpos : 0 ≤ s.openOrderCount := le_trans (Int.natCast_nonneg _) h.mapped_le
  unfold Input.Admits at hadmits
  cases hevent : i.event with
  | submitCommand signal =>
    rw [hevent] at hadmits
    have hopen := (RiskManager.check_ok_iff.mp hadmits.1).2.1 h.limit_ne
    unfold sizeT at hopen
    rw [if_pos hpos] at hopen
    omega
  | _ =>
    rw [hevent] at hadmits
    exact hadmits.elim

/-- One event keeps the invariant. -/
lemma CountsEnough.dispatch {s : OrderManager} {i : Input} (h : CountsEnough s)
    (hok : StoreSucceeds s i) : CountsEnough (dispatch s i) where
  agree := h.agree.dispatch hok
  mapped_le := by
    have hle := h.mapped_le
    rcases (dispatch_move s i).counts h.agree hok with
      ⟨-, hcount, hmapped⟩ | ⟨n, -, -, hcount, hmapped⟩ | ⟨n, -, -, -, hcount, hmapped⟩ <;> omega
  limit_ne := by
    rw [(dispatch_move s i).riskManager_eq]
    exact h.limit_ne

/-- One event keeps the number of mapped orders within the limit exactly when it is no submit
command that goes through at the limit. -/
lemma withinOpenLimit_dispatch_iff {s : OrderManager} {i : Input} (h : CountsEnough s)
    (hok : StoreSucceeds s i) (hlimit : s.WithinOpenLimit) :
    (dispatch s i).WithinOpenLimit ↔ i.BelowOpenLimit s := by
  unfold OrderManager.WithinOpenLimit at hlimit ⊢
  rw [(dispatch_move s i).riskManager_eq]
  unfold Input.BelowOpenLimit
  have hle := h.mapped_le
  rcases (dispatch_move s i).counts h.agree hok with
    ⟨hadmits, -, hmapped⟩ | ⟨n, hadmits, -, -, hmapped⟩ | ⟨n, hadmits, -, -, -, hmapped⟩
  · have hcount := h.count_le hadmits
    constructor
    · intro hlimit' _ hboundary
      omega
    · intro hbelow
      have hboundary := hbelow hadmits
      omega
  · exact ⟨fun _ hadmits' => absurd hadmits' hadmits, fun _ => by omega⟩
  · exact ⟨fun _ hadmits' => absurd hadmits' hadmits, fun _ => by omega⟩

/-- **The limit on open orders along a run** that starts with an empty store and in which the store
succeeds: at most `maxOpenOrders` orders are mapped in every state exactly when no submit command
goes through while that many orders are counted and mapped. -/
theorem max_open_orders_iff (accountId : String) (riskManager : RiskManager)
    (inputs : List Input) (hlimit : riskManager.limits.maxOpenOrders ≠ 0)
    (hok : Trajectory.AllSteps dispatch StoreSucceeds
      (createOrderManager accountId .empty riskManager) inputs) :
    Trajectory.EveryState dispatch OrderManager.WithinOpenLimit
        (createOrderManager accountId .empty riskManager) inputs ↔
      Trajectory.AllSteps dispatch (fun s i => i.BelowOpenLimit s)
        (createOrderManager accountId .empty riskManager) inputs :=
  Trajectory.everyState_iff_allSteps (fun _ _ h hi => CountsEnough.dispatch h hi)
    (fun _ _ h hi hs => withinOpenLimit_dispatch_iff h hi hs)
    ⟨Agree.empty, le_rfl, hlimit⟩ (Nat.zero_le _) hok

/-- With a limit of one open order, an order is submitted and filled before the next one. -/
theorem max_open_orders_iff_one :
    Trajectory.EveryState dispatch OrderManager.WithinOpenLimit
      (createOrderManager "ACC" .empty ⟨{ maxOpenOrders := 1 }⟩)
      [buyTen.quietly "B1", (filledTen "B1").quietly "B2"] :=
  (max_open_orders_iff "ACC" ⟨{ maxOpenOrders := 1 }⟩ _ (by decide) (by decide +kernel)).mpr
    ⟨fun _ => by decide, fun h => h.elim, trivial⟩

/-- With a limit of one open order, two orders are open after two submit commands. -/
theorem max_open_orders_exceeded :
    let start := createOrderManager "ACC" .empty ⟨{ maxOpenOrders := 1 }⟩
    let inputs := [buyTen.quietly "B1", buyTen.quietly "B2"]
    Trajectory.AllSteps dispatch StoreSucceeds start inputs ∧
      ¬ (Trajectory.run dispatch start inputs).WithinOpenLimit ∧
      (Trajectory.run dispatch start inputs).idMapper.mappedCount = 2 := by
  decide +kernel

end Quarcc
