import QuarccEngine.Library.Trajectory
import QuarccEngine.OrderManager.Moves

/-!
# The two ledgers of fills

A fill is booked twice: in the row of its order, as filled quantity and running average price, and
in the position of its symbol, under average-cost accounting.  The first part reconciles the two
along runs in which the store succeeds: per symbol, the quantity of the position is the signed sum
of the filled quantities, and the cash of the position is the negative of their cost.  The second
part says for one report, whatever fails, when the two bookings agree.
-/

namespace Quarcc

/-! ## Sums over the rows -/

/-- The filled quantity of a row with the sign of the side of its order. -/
def StoredOrder.signedFilled (row : StoredOrder) : ℚ :=
  signedFill row.order.side row.filledQuantity

namespace SQLiteOrderStore

variable {s store : SQLiteOrderStore} {row : StoredOrder}

/-- The sum of a value over the stored orders of a symbol. -/
def sumIn (s : SQLiteOrderStore) (symbol : String) (value : StoredOrder → ℚ) : ℚ :=
  (s.rows.map fun row => if row.order.symbol = symbol then value row else 0).sum

/-- A status update changes no sum of a value that does not depend on the status. -/
lemma sumIn_setStatus {value : StoredOrder → ℚ} {status : OrderStatus} {now : String}
    (hvalue : ∀ row, value (StoredOrder.withStatus status now row) = value row)
    (localId : LocalOrderId) (symbol : String) :
    (s.setStatus localId status now).sumIn symbol value = s.sumIn symbol value := by
  unfold sumIn
  refine congrArg List.sum (Table.map_modify (f := StoredOrder.withStatus status now) ?_ s.rows
    localId)
  intro row
  have hsymbol : (StoredOrder.withStatus status now row).order.symbol = row.order.symbol := rfl
  rw [hsymbol, hvalue]

/-- Inserting a row adds its value. -/
lemma Inserted.sumIn (h : Inserted s row store) (symbol : String) (value : StoredOrder → ℚ) :
    store.sumIn symbol value =
      s.sumIn symbol value + if row.order.symbol = symbol then value row else 0 := by
  unfold SQLiteOrderStore.sumIn
  rw [h.rows_eq, List.map_append, List.sum_append]
  simp

/-- A fill changes the sum of its symbol by what it changes in the one row. -/
lemma sumIn_addFill {localId : LocalOrderId} (hrow : s.find localId = some row)
    (quantity price : ℚ) (status : OrderStatus) (now : String) (symbol : String)
    (value : StoredOrder → ℚ) :
    (s.addFill localId quantity price status now).sumIn symbol value =
      s.sumIn symbol value +
        if row.order.symbol = symbol then
          value (row.withFill quantity price status now) - value row
        else 0 := by
  have hsum := Table.sum_modify
    (fun row : StoredOrder => if row.order.symbol = symbol then value row else 0)
    s.localId_nodup hrow (StoredOrder.withFill quantity price status now)
  unfold sumIn
  apply Eq.trans hsum
  have hsymbol : (row.withFill quantity price status now).order.symbol = row.order.symbol := rfl
  rw [hsymbol]
  split_ifs <;> ring

end SQLiteOrderStore

/-! ## Reconciliation -/

/-- The signed quantity that the stored orders of a symbol have filled. -/
def SQLiteOrderStore.filledIn (s : SQLiteOrderStore) (symbol : String) : ℚ :=
  s.sumIn symbol StoredOrder.signedFilled

/-- The signed cost of what the stored orders of a symbol have filled. -/
def SQLiteOrderStore.costIn (s : SQLiteOrderStore) (symbol : String) : ℚ :=
  s.sumIn symbol fun row => row.signedFilled * row.avgFillPrice

/-- The position keeper and the store have booked the same fills. -/
structure Reconciled (keeper : PositionKeeper) (store : SQLiteOrderStore) : Prop where
  /-- No order has a negative filled quantity. -/
  filled_nonneg : ∀ localId row, store.find localId = some row → 0 ≤ row.filledQuantity
  /-- The quantity of a symbol. -/
  quantity : ∀ symbol, (keeper.positionOf symbol).quantity = store.filledIn symbol
  /-- The cash of a symbol. -/
  cash : ∀ symbol, (keeper.positionOf symbol).holding.cash = -store.costIn symbol

/-- A report that is booked carries the symbol and the side of its order, a positive quantity and a
positive price. -/
def Input.ReportMatches (s : OrderManager) (i : Input) : Prop :=
  ∀ report, i.event = .executionReport report → report.isTerminal = false →
    ∀ localId, s.idMapper.getLocalId report.brokerOrderId = some localId →
      ∀ row, s.orderStore.find localId = some row →
        report.symbol = row.order.symbol ∧ report.side = row.order.side ∧
          0 < report.filledQuantity ∧ 0 < report.avgFillPrice

/-- `ReportMatches` as a test. -/
def Input.reportMatches (s : OrderManager) (i : Input) : Bool :=
  match i.event with
  | .executionReport report =>
    match s.idMapper.getLocalId report.brokerOrderId with
    | some localId =>
      match s.orderStore.find localId with
      | some row =>
        report.isTerminal || (report.symbol = row.order.symbol && report.side = row.order.side &&
          0 < report.filledQuantity && 0 < report.avgFillPrice)
      | none => true
    | none => true
  | _ => true

/-- The test decides `ReportMatches`. -/
lemma Input.reportMatches_iff {s : OrderManager} {i : Input} :
    i.reportMatches s = true ↔ i.ReportMatches s := by
  unfold Input.reportMatches Input.ReportMatches
  cases hevent : i.event with
  | executionReport report =>
    cases hmapped : s.idMapper.getLocalId report.brokerOrderId with
    | none => simp [hmapped]
    | some localId =>
      cases hrow : s.orderStore.find localId with
      | none => simp [hmapped, hrow]
      | some row =>
        cases hterminal : report.isTerminal <;>
          simp [hmapped, hrow, hterminal, Bool.and_eq_true, and_assoc]
  | _ => simp

instance (s : OrderManager) (i : Input) : Decidable (i.ReportMatches s) :=
  decidable_of_iff _ Input.reportMatches_iff

namespace Reconciled

variable {keeper : PositionKeeper} {store store' : SQLiteOrderStore} {row : StoredOrder}

/-- An order manager that was just created on an empty store. -/
lemma empty : Reconciled {} .empty where
  filled_nonneg := by simp
  quantity := fun _ => rfl
  cash := by
    intro symbol
    simp [SQLiteOrderStore.costIn, SQLiteOrderStore.sumIn, SQLiteOrderStore.empty,
      Position.holding, AverageCost.Holding.cash]

/-- A status update books nothing. -/
lemma setStatus (h : Reconciled keeper store) (localId : LocalOrderId) (status : OrderStatus)
    (now : String) : Reconciled keeper (store.setStatus localId status now) where
  filled_nonneg := by
    intro l row hrow
    rw [SQLiteOrderStore.find_setStatus] at hrow
    split_ifs at hrow
    · obtain ⟨row₀, hrow₀, rfl⟩ := Option.map_eq_some_iff.mp hrow
      exact h.filled_nonneg l row₀ hrow₀
    · exact h.filled_nonneg l row hrow
  quantity := by
    intro symbol
    unfold SQLiteOrderStore.filledIn
    rw [SQLiteOrderStore.sumIn_setStatus fun _ => rfl]
    exact h.quantity symbol
  cash := by
    intro symbol
    unfold SQLiteOrderStore.costIn
    rw [SQLiteOrderStore.sumIn_setStatus fun _ => rfl]
    exact h.cash symbol

/-- A new order books nothing. -/
lemma insert (h : Reconciled keeper store) (hins : SQLiteOrderStore.Inserted store row store')
    (hfilled : row.filledQuantity = 0) : Reconciled keeper store' where
  filled_nonneg := by
    intro l row' hrow
    rw [hins.find] at hrow
    split_ifs at hrow
    · obtain rfl := Option.some.inj hrow
      rw [hfilled]
    · exact h.filled_nonneg l row' hrow
  quantity := by
    intro symbol
    have hzero : row.signedFilled = 0 := by simp [StoredOrder.signedFilled, hfilled]
    unfold SQLiteOrderStore.filledIn
    rw [hins.sumIn, hzero, ite_self, add_zero]
    exact h.quantity symbol
  cash := by
    intro symbol
    have hzero : row.signedFilled = 0 := by simp [StoredOrder.signedFilled, hfilled]
    unfold SQLiteOrderStore.costIn
    rw [hins.sumIn, hzero, zero_mul, ite_self, add_zero]
    exact h.cash symbol

/-- What the kill switch does books nothing. -/
lemma kills {b : Books} (h : Reconciled b.positionKeeper b.orderStore) (now : String)
    (killed : List LocalOrderId) :
    Reconciled (killed.foldl (Books.kill now) b).positionKeeper
      (killed.foldl (Books.kill now) b).orderStore := by
  induction killed generalizing b with
  | nil => exact h
  | cons localId killed ih => exact ih (h.setStatus localId .cancelled now)

/-- A fill is booked in both ledgers. -/
lemma fill (h : Reconciled keeper store) {localId : LocalOrderId}
    (hrow : store.find localId = some row) {quantity price : ℚ} (hqty : 0 < quantity)
    (hprice : 0 < price) (status : OrderStatus) (now : String) :
    Reconciled (keeper.onFill row.order.symbol quantity price row.order.side)
      (store.addFill localId quantity price status now) where
  filled_nonneg := by
    intro l row' hrow'
    rw [SQLiteOrderStore.find_addFill] at hrow'
    split_ifs at hrow'
    · obtain ⟨row₀, hrow₀, rfl⟩ := Option.map_eq_some_iff.mp hrow'
      have hnonneg := h.filled_nonneg l row₀ hrow₀
      exact add_nonneg hnonneg hqty.le
    · exact h.filled_nonneg l row' hrow'
  quantity := by
    intro symbol
    unfold SQLiteOrderStore.filledIn
    rw [PositionKeeper.quantity_onFill, h.quantity, SQLiteOrderStore.sumIn_addFill hrow]
    unfold SQLiteOrderStore.filledIn
    have hdelta : (row.withFill quantity price status now).signedFilled - row.signedFilled =
        signedFill row.order.side quantity := by
      have hadd := signedFill_add row.order.side row.filledQuantity quantity
      change signedFill row.order.side (row.filledQuantity + quantity) -
        signedFill row.order.side row.filledQuantity = _
      linarith
    rw [hdelta]
    by_cases hs : symbol = row.order.symbol
    · rw [if_pos ⟨hs, hqty⟩, if_pos hs.symm]
    · rw [if_neg fun hand => hs hand.1, if_neg (Ne.symm hs)]
  cash := by
    intro symbol
    unfold SQLiteOrderStore.costIn
    rw [PositionKeeper.cash_onFill _ _ _ _ hqty hprice, h.cash,
      SQLiteOrderStore.sumIn_addFill hrow]
    unfold SQLiteOrderStore.costIn
    have hopen : row.filledQuantity = 0 ∨ row.filledQuantity + quantity ≠ 0 := by
      have hnonneg := h.filled_nonneg localId row hrow
      exact Or.inr (by linarith)
    -- the running average of the row is the library's
    have havg : AverageCost.runningAverage row.filledQuantity row.avgFillPrice quantity price *
        (row.filledQuantity + quantity) =
          row.avgFillPrice * row.filledQuantity + price * quantity :=
      AverageCost.runningAverage_mul hopen
    have hdelta : (row.withFill quantity price status now).signedFilled *
          (row.withFill quantity price status now).avgFillPrice -
        row.signedFilled * row.avgFillPrice = signedFill row.order.side quantity * price := by
      change signedFill row.order.side (row.filledQuantity + quantity) *
          AverageCost.runningAverage row.filledQuantity row.avgFillPrice quantity price -
        signedFill row.order.side row.filledQuantity * row.avgFillPrice = _
      rw [signedFill_mul, signedFill_mul, signedFill_mul, mul_comm (row.filledQuantity + quantity),
        havg, signedFill_add, mul_comm price, mul_comm row.avgFillPrice]
      ring
    rw [hdelta]
    by_cases hs : symbol = row.order.symbol
    · rw [if_pos hs, if_pos hs.symm]
      ring
    · rw [if_neg hs, if_neg (Ne.symm hs)]
      ring

/-- **Step lemma.**  A move without a failure of the store keeps the ledgers reconciled. -/
theorem of_move {s : OrderManager} {i : Input} {ok : Prop} {done : List GatewayEffect} {b : Books}
    (h : Reconciled s.positionKeeper s.orderStore) (hok : ok) (hreport : i.ReportMatches s)
    (hmove : Move s i ok done b) : Reconciled b.positionKeeper b.orderStore := by
  cases hmove with
  | stay _ | skip _ _ => exact h
  | refuse _ _ hrow _ hstore | lose _ _ _ hrow hstore _ _ =>
    exact h.insert hstore hrow.filledQuantity_eq
  | accept _ _ _ hrow _ hstore => exact h.insert hstore hrow.filledQuantity_eq
  | cancel _ _ _ => exact h.setStatus _ _ _
  | unmap _ _ _ | forget _ _ _ _ _ => exact h
  | retire _ _ _ _ _ => exact h.setStatus _ _ _
  | replace _ _ _ hrow hstore => exact (h.setStatus _ _ _).insert hstore hrow.filledQuantity_eq
  | killSwitch _ _ _ _ => exact h.kills _ _
  | @close report localId status updated _ _ _ _ _ =>
    rw [Books.close_orderStore, Books.close_positionKeeper]
    split_ifs
    · exact h.setStatus _ _ _
    · exact h
  | @fill report localId row applied hevent hmapped hterminal hrow _ happlied =>
    obtain ⟨hsymbol, hside, hqty, hprice⟩ :=
      hreport report hevent hterminal localId hmapped row hrow
    rw [happlied hok, Books.fill_positionKeeper, Books.fill_orderStore, if_pos rfl, hsymbol, hside]
    exact h.fill hrow hqty hprice _ _

end Reconciled

/-- **The ledgers reconcile.**  Along a run that starts with an empty store, in which the store
succeeds and the reports of mapped orders match their orders, the quantity of every symbol is the
signed sum of what its stored orders have filled, and its realized PnL is the value of the position
at its average price less the signed cost of these fills. -/
theorem ledgers_reconcile (accountId : String) (riskManager : RiskManager) (inputs : List Input)
    (hok : Trajectory.AllSteps dispatch StoreSucceeds
      (createOrderManager accountId .empty riskManager) inputs)
    (hreports : Trajectory.AllSteps dispatch (fun s i => i.ReportMatches s)
      (createOrderManager accountId .empty riskManager) inputs) :
    Trajectory.EveryState dispatch
      (fun s => ∀ symbol,
        (s.positionKeeper.positionOf symbol).quantity = s.orderStore.filledIn symbol ∧
          (s.positionKeeper.positionOf symbol).rPnL =
            (s.positionKeeper.positionOf symbol).quantity *
              (s.positionKeeper.positionOf symbol).avgPrice - s.orderStore.costIn symbol)
      (createOrderManager accountId .empty riskManager) inputs := by
  have hinv := Trajectory.everyState_of_invariant
    (A := fun s i => StoreSucceeds s i ∧ i.ReportMatches s)
    (I := fun s : OrderManager => Reconciled s.positionKeeper s.orderStore)
    (fun s i h hi => h.of_move hi.1 hi.2 (dispatch_move s i)) .empty
    (Trajectory.allSteps_and.mpr ⟨hok, hreports⟩)
  refine hinv.mono fun s h symbol => ⟨h.quantity symbol, ?_⟩
  have hcash := h.cash symbol
  unfold AverageCost.Holding.cash Position.holding at hcash
  dsimp only at hcash
  linarith

/-- The ledgers along a run that buys ten, fills them in two parts and sells four of them. -/
theorem ledgers_reconcile_roundTrip :
    let buy : OMEvent := .submitCommand { symbol := "AAPL", side := .buy, targetQuantity := 10 }
    let sell : OMEvent := .submitCommand { symbol := "AAPL", side := .sell, targetQuantity := 4 }
    let fill (broker : BrokerOrderId) (side : V1.Side) (quantity price : ℚ) : OMEvent :=
      .executionReport
        { brokerOrderId := broker, symbol := "AAPL", side := side, filledQuantity := quantity
          avgFillPrice := price }
    Trajectory.EveryState dispatch
      (fun s => ∀ symbol,
        (s.positionKeeper.positionOf symbol).quantity = s.orderStore.filledIn symbol ∧
          (s.positionKeeper.positionOf symbol).rPnL =
            (s.positionKeeper.positionOf symbol).quantity *
              (s.positionKeeper.positionOf symbol).avgPrice - s.orderStore.costIn symbol)
      (createOrderManager "ACC" .empty ⟨{}⟩)
      [buy.quietly "B1", (fill "B1" .buy 4 100).quietly "", (fill "B1" .buy 6 110).quietly "",
        sell.quietly "B2", (fill "B2" .sell 4 120).quietly ""] := by
  intro buy sell fill
  exact ledgers_reconcile "ACC" ⟨{}⟩ _ (by decide +kernel) (by decide +kernel)

/-! ## One report -/

/-- The filled quantity of the row of an order. -/
def SQLiteOrderStore.filledOf (s : SQLiteOrderStore) (localId : LocalOrderId) : ℚ :=
  ((s.find localId).map StoredOrder.filledQuantity).getD 0

/-- How much `handle_fill` changes the filled quantity in the row of an order. -/
def OrderManager.rowChange (s : OrderManager) (env : Env) (report : V1.ExecutionReport)
    (localId : LocalOrderId) : ℚ :=
  (s.handleFill env report).orderStore.filledOf localId - s.orderStore.filledOf localId

/-- How much `handle_fill` changes the quantity in the position of the symbol of the report. -/
def OrderManager.positionChange (s : OrderManager) (env : Env) (report : V1.ExecutionReport) : ℚ :=
  ((s.handleFill env report).positionKeeper.positionOf report.symbol).quantity -
    (s.positionKeeper.positionOf report.symbol).quantity

/-- The report is booked in both ledgers or in none: it closes the order, it stops at a `get_order`
that fails, it fills nothing, it fills a positive quantity and `apply_fill` succeeds, or it carries
a negative quantity and `apply_fill` fails. -/
def BookedAlike (env : Env) (report : V1.ExecutionReport) (localId : LocalOrderId) : Prop :=
  report.isTerminal = true ∨ env.storeFault (.getOrder localId) ≠ none ∨
    report.filledQuantity = 0 ∨
    (0 < report.filledQuantity ∧ env.storeFault (.applyFill localId) = none) ∨
    (report.filledQuantity < 0 ∧ env.storeFault (.applyFill localId) ≠ none)

namespace OrderManager

variable {s : OrderManager} {env : Env} {report : V1.ExecutionReport} {localId : LocalOrderId}
  {row : StoredOrder}

/-- A terminal report changes neither ledger. -/
lemma changes_of_terminal (s : OrderManager) (env : Env)
    (hmapped : s.idMapper.getLocalId report.brokerOrderId = some localId)
    (hterminal : report.isTerminal = true) :
    s.rowChange env report localId = 0 ∧ s.positionChange env report = 0 := by
  obtain ⟨status, updated, -, hbooks, -⟩ := s.closeOrder_cases env localId report
  have hfill : (s.handleFill env report).toBooks =
      s.toBooks.close localId status env.sqliteNow updated := by
    unfold handleFill
    rw [hmapped]
    dsimp only
    rw [if_pos hterminal]
    exact hbooks
  unfold rowChange positionChange
  rw [hfill, Books.close_orderStore, Books.close_positionKeeper]
  cases updated with
  | true =>
    refine ⟨?_, sub_self _⟩
    unfold SQLiteOrderStore.filledOf
    simp only [if_true, SQLiteOrderStore.find_setStatus, Option.map_map]
    exact sub_self _
  | false => exact ⟨sub_self _, sub_self _⟩

/-- A report whose order cannot be read changes neither ledger. -/
lemma changes_of_getOrder_fault
    (hmapped : s.idMapper.getLocalId report.brokerOrderId = some localId)
    (hterminal : report.isTerminal = false)
    (hfault : env.storeFault (.getOrder localId) ≠ none) :
    s.rowChange env report localId = 0 ∧ s.positionChange env report = 0 := by
  have hfill : (s.handleFill env report).toBooks = s.toBooks :=
    handleFill_unread hmapped hterminal (Or.inl hfault)
  unfold rowChange positionChange
  rw [hfill]
  exact ⟨sub_self _, sub_self _⟩

/-- What a report that gets as far as `apply_fill` changes in the two ledgers. -/
lemma changes_of_fill (hmapped : s.idMapper.getLocalId report.brokerOrderId = some localId)
    (hrow : s.orderStore.find localId = some row) (hterminal : report.isTerminal = false)
    (hread : env.storeFault (.getOrder localId) = none) :
    s.rowChange env report localId =
        (if env.storeFault (.applyFill localId) = none then report.filledQuantity else 0) ∧
      s.positionChange env report =
        if 0 < report.filledQuantity then signedFill report.side report.filledQuantity else 0 := by
  obtain ⟨applied, happlied, hfill⟩ := handleFill_read hmapped hterminal hread hrow
  unfold rowChange positionChange
  rw [hfill, Books.fill_positionKeeper, Books.fill_orderStore, PositionKeeper.quantity_onFill]
  constructor
  · unfold SQLiteOrderStore.filledOf
    by_cases hfault : env.storeFault (.applyFill localId) = none
    · rw [if_pos (happlied.mpr hfault), if_pos hfault, SQLiteOrderStore.find_addFill, if_pos rfl,
        hrow]
      exact add_sub_cancel_left row.filledQuantity report.filledQuantity
    · rw [if_neg fun h => hfault (happlied.mp h), if_neg hfault]
      exact sub_self _
  · rw [add_sub_cancel_left]
    simp

end OrderManager

/-- **One report in both ledgers.**  A report of a mapped order that carries the symbol and side of
the order changes the filled quantity of its row by `x` if and only if it changes the quantity of
the position by `x` with the sign of the side, exactly in the cases of `BookedAlike`; whatever state
the order manager is in and whatever calls on the store fail.  The two sums are exact. -/
theorem fill_booked_alike_iff (s : OrderManager) (env : Env) (report : V1.ExecutionReport)
    (localId : LocalOrderId) (row : StoredOrder)
    (hmapped : s.idMapper.getLocalId report.brokerOrderId = some localId)
    (hrow : s.orderStore.find localId = some row) (hsymbol : report.symbol = row.order.symbol)
    (hside : report.side = row.order.side) :
    (∀ x, s.rowChange env report localId = x ↔
        ((s.handleFill env report).positionKeeper.positionOf row.order.symbol).quantity -
          (s.positionKeeper.positionOf row.order.symbol).quantity =
            signedFill row.order.side x) ↔
      BookedAlike env report localId := by
  have hposition : ((s.handleFill env report).positionKeeper.positionOf row.order.symbol).quantity -
      (s.positionKeeper.positionOf row.order.symbol).quantity = s.positionChange env report := by
    rw [← hsymbol]
    rfl
  have hone : (∀ x, s.rowChange env report localId = x ↔
      s.positionChange env report = signedFill row.order.side x) ↔
      s.positionChange env report = signedFill row.order.side (s.rowChange env report localId) := by
    constructor
    · intro h
      exact (h _).mp rfl
    · intro h x
      rw [h]
      exact signedFill_inj.symm
  rw [hposition, hone]
  unfold BookedAlike
  by_cases hterminal : report.isTerminal = true
  · obtain ⟨hrowChange, hposChange⟩ := s.changes_of_terminal env hmapped hterminal
    rw [hrowChange, hposChange]
    simp [hterminal]
  have hterminal' : report.isTerminal = false := by simpa using hterminal
  by_cases hread : env.storeFault (.getOrder localId) = none
  swap
  · obtain ⟨hrowChange, hposChange⟩ := s.changes_of_getOrder_fault hmapped hterminal' hread
    rw [hrowChange, hposChange]
    simp [hread]
  obtain ⟨hrowChange, hposChange⟩ := s.changes_of_fill hmapped hrow hterminal' hread
  rw [hrowChange, hposChange, hside]
  have hzero : (0 : ℚ) = signedFill row.order.side 0 := (signedFill_zero _).symm
  by_cases hfault : env.storeFault (.applyFill localId) = none
  · rw [if_pos hfault]
    by_cases hpos : 0 < report.filledQuantity
    · simp [hpos, hfault]
    · rw [if_neg hpos, hzero, signedFill_inj]
      have hneg : ¬ (0 < report.filledQuantity) := hpos
      simp [hterminal', hread, hfault, hneg, eq_comm]
  · rw [if_neg hfault]
    rcases lt_trichotomy report.filledQuantity 0 with hlt | heq | hgt
    · rw [if_neg hlt.not_gt]
      simp [hlt, hfault]
    · simp [heq]
    · rw [if_pos hgt, signedFill_inj]
      simp [hterminal', hread, hfault, hgt.ne', hgt.not_gt]

/-- An order manager with one order of ten that the gateway has accepted. -/
def oneOrder : OrderManager :=
  dispatch (createOrderManager "ACC" .empty ⟨{}⟩)
    (OMEvent.quietly (.submitCommand { symbol := "AAPL", side := .buy, targetQuantity := 10 }) "B1")

/-- A report that fills the order completely. -/
def fillTen : V1.ExecutionReport where
  brokerOrderId := "B1"
  symbol := "AAPL"
  side := .buy
  filledQuantity := 10
  avgFillPrice := 100

/-- When the store succeeds the fill is booked in both ledgers. -/
theorem fill_booked_alike_ten :
    ∃ row, oneOrder.orderStore.find "ORD_0_000000" = some row ∧
      ∀ x, oneOrder.rowChange .quiet fillTen "ORD_0_000000" = x ↔
        ((oneOrder.handleFill .quiet fillTen).positionKeeper.positionOf row.order.symbol).quantity -
          (oneOrder.positionKeeper.positionOf row.order.symbol).quantity =
            signedFill row.order.side x := by
  have horder : (oneOrder.orderStore.find "ORD_0_000000").map
      (fun row => (row.order.symbol, row.order.side)) = some ("AAPL", .buy) := by
    decide +kernel
  obtain ⟨row, hrow, hfields⟩ := Option.map_eq_some_iff.mp horder
  obtain ⟨hsymbol, hside⟩ := Prod.mk.inj hfields
  refine ⟨row, hrow, (fill_booked_alike_iff oneOrder .quiet fillTen "ORD_0_000000" row
    (by decide +kernel) hrow hsymbol.symm hside.symm).mpr ?_⟩
  exact Or.inr (Or.inr (Or.inr (Or.inl ⟨by decide +kernel, rfl⟩)))

/-- Quiet surroundings, except that `apply_fill` fails. -/
def Env.applyFillFails : Env :=
  { Env.quiet with
    storeFault := fun call =>
      match call with
      | .applyFill _ => some (.step "database or disk is full")
      | _ => none }

/-- When `apply_fill` fails the position moves by ten and the row by nothing. -/
theorem fill_booked_in_position_only :
    oneOrder.idMapper.getLocalId fillTen.brokerOrderId = some "ORD_0_000000" ∧
      (oneOrder.orderStore.find "ORD_0_000000").map
        (fun row => (row.order.symbol, row.order.side)) = some (fillTen.symbol, fillTen.side) ∧
      oneOrder.rowChange .applyFillFails fillTen "ORD_0_000000" = 0 ∧
      oneOrder.positionChange .applyFillFails fillTen = 10 ∧
      ¬ ∀ x, oneOrder.rowChange .applyFillFails fillTen "ORD_0_000000" = x ↔
        oneOrder.positionChange .applyFillFails fillTen = signedFill fillTen.side x := by
  have hrow : oneOrder.rowChange .applyFillFails fillTen "ORD_0_000000" = 0 := by
    decide +kernel
  have hposition : oneOrder.positionChange .applyFillFails fillTen = 10 := by
    decide +kernel
  refine ⟨by decide +kernel, by decide +kernel, hrow, hposition, fun h => ?_⟩
  have hzero := (h 0).mp hrow
  rw [hposition, signedFill_zero] at hzero
  norm_num at hzero

end Quarcc
