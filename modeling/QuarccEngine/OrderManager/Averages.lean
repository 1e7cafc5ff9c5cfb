import QuarccEngine.Library.Trajectory
import QuarccEngine.OrderManager.Moves

/-!
# The two average prices of an order

A fill moves two average prices: that of the row of its order, in the store, and that of the
position of its symbol, in the position keeper.  When no other order is filled in the symbol, both
are averages of the same fills.  A fill without a price enters them differently: the store averages
it in as a fill at the price 0, the keeper leaves its average as it is.

Both averages are followed along a run through `Entry`, what is stored of an order, and the position
of the symbol.  They agree in every state exactly when no fill without a price comes after one with
a price.
-/

namespace Quarcc

/-! ## One fill -/

/-- The average price of a position after a fill on its side at a positive price. -/
lemma Position.avgPrice_onFill_priced {pos : Position} {side : V1.Side}
    {filled quantity price : ℚ} (hpos : pos.quantity = signedFill side filled)
    (hfilled : 0 ≤ filled)
    (hqty : 0 < quantity) (hprice : 0 < price) :
    (pos.onFill quantity price side).avgPrice =
      (filled * pos.avgPrice + quantity * price) / (filled + quantity) := by
  have hmore : 0 < filled + quantity := add_pos_of_nonneg_of_pos hfilled hqty
  have hopen : signedFill side filled + signedFill side quantity ≠ 0 := by
    rw [← signedFill_add]
    exact signedFill_ne_zero side hmore
  have hsame : 0 ≤ signedFill side filled * signedFill side quantity := by
    unfold signedFill
    split_ifs
    · exact mul_nonneg hfilled hqty.le
    · rw [neg_mul_neg]
      exact mul_nonneg hfilled hqty.le
  rw [onFill_avgPrice pos side hqty hprice]
  unfold AverageCost.Holding.trade Position.holding
  dsimp only
  rw [hpos, if_neg hopen, if_pos hsame, ← signedFill_add]
  unfold signedFill
  split_ifs
  · rfl
  · rw [neg_mul, neg_mul, ← neg_add, neg_div_neg_eq]

/-- Without a price a fill keeps the average price of a position. -/
lemma Position.avgPrice_onFill_unpriced (pos : Position) (quantity : ℚ) {price : ℚ}
    (side : V1.Side) (hprice : price ≤ 0) :
    (pos.onFill quantity price side).avgPrice = pos.avgPrice :=
  if_neg (not_lt.mpr hprice)

/-! ## What is stored of an order -/

/-- What a row says about the fills of its order; an order without a row has no fills. -/
structure Entry where
  filled : ℚ := 0
  signed : ℚ := 0
  avg : ℚ := 0

/-- The entry of a row. -/
def StoredOrder.entry (row : StoredOrder) : Entry where
  filled := row.filledQuantity
  signed := signedFill row.order.side row.filledQuantity
  avg := row.avgFillPrice

/-- The entry of an order in the store. -/
def SQLiteOrderStore.entryOf (s : SQLiteOrderStore) (localId : LocalOrderId) : Entry :=
  (s.find localId).elim {} StoredOrder.entry

namespace SQLiteOrderStore

variable {s s' : SQLiteOrderStore} (localId : LocalOrderId)

/-- A status update leaves the entries alone. -/
lemma entryOf_setStatus (l : LocalOrderId) (status : OrderStatus) (now : String) :
    (s.setStatus l status now).entryOf localId = s.entryOf localId := by
  unfold entryOf
  rw [find_setStatus]
  split_ifs
  · cases s.find localId <;> rfl
  · rfl

/-- A row without fills leaves the entries alone. -/
lemma entryOf_insert {row : StoredOrder} (hins : Inserted s row s')
    (hfilled : row.filledQuantity = 0) (havg : row.avgFillPrice = 0) :
    s'.entryOf localId = s.entryOf localId := by
  unfold entryOf
  rw [hins.find]
  split_ifs with hl
  · rw [hl, hins.fresh, Option.elim_some, Option.elim_none]
    unfold StoredOrder.entry
    rw [hfilled, havg, signedFill]
    simp
  · rfl

/-- The kill switch leaves the entries alone. -/
lemma entryOf_kills (now : String) (b : Books) (killed : List LocalOrderId) :
    (killed.foldl (Books.kill now) b).orderStore.entryOf localId =
      b.orderStore.entryOf localId := by
  unfold entryOf
  rw [Books.find_kills]
  split_ifs
  · cases b.orderStore.find localId <;> rfl
  · rfl

/-- The entry of a row that is found. -/
lemma entryOf_of_find {row : StoredOrder} (hrow : s.find localId = some row) :
    s.entryOf localId = row.entry := by
  unfold entryOf
  rw [hrow, Option.elim_some]

end SQLiteOrderStore

/-! ## The fills of an order -/

/-- The fill of the order that is booked in one round: a report that is not terminal, when the order
is mapped and its row is read. -/
def bookedFill (localId : LocalOrderId) (s : OrderManager) (i : Input) :
    Option V1.ExecutionReport :=
  match i.event with
  | .executionReport report =>
    if report.isTerminal = false ∧ s.idMapper.getLocalId report.brokerOrderId = some localId ∧
        i.env.storeFault (.getOrder localId) = none ∧ s.orderStore.find localId ≠ none then
      some report
    else none
  | _ => none

/-- The fills of the order that are booked along a run. -/
def bookedFills (localId : LocalOrderId) : OrderManager → List Input → List V1.ExecutionReport
  | _, [] => []
  | s, i :: is => (bookedFill localId s i).toList ++ bookedFills localId (dispatch s i) is

/-- The order is the only one that is filled in the symbol: its own reports carry its symbol and its
side, a positive quantity and a price that is not negative, and `apply_fill` succeeds on them; the
reports of other orders carry other symbols. -/
def Input.OnlyOrder (localId : LocalOrderId) (symbol : String) (s : OrderManager) (i : Input) :
    Prop :=
  ∀ report, i.event = .executionReport report → report.isTerminal = false →
    ∀ l, s.idMapper.getLocalId report.brokerOrderId = some l →
      ∀ row, s.orderStore.find l = some row →
        if l = localId then
          row.order.symbol = symbol ∧ report.symbol = symbol ∧ report.side = row.order.side ∧
            0 < report.filledQuantity ∧ 0 ≤ report.avgFillPrice ∧
              i.env.storeFault (.applyFill localId) = none
        else report.symbol ≠ symbol

/-- `OnlyOrder` as a test. -/
def Input.onlyOrder (localId : LocalOrderId) (symbol : String) (s : OrderManager) (i : Input) :
    Bool :=
  match i.event with
  | .executionReport report =>
    match s.idMapper.getLocalId report.brokerOrderId with
    | some l =>
      match s.orderStore.find l with
      | some row =>
        report.isTerminal ||
          if l = localId then
            row.order.symbol = symbol && report.symbol = symbol && report.side = row.order.side &&
              0 < report.filledQuantity && 0 ≤ report.avgFillPrice &&
                i.env.storeFault (.applyFill localId) = none
          else report.symbol ≠ symbol
      | none => true
    | none => true
  | _ => true

/-- The test decides `OnlyOrder`. -/
lemma Input.onlyOrder_iff {localId : LocalOrderId} {symbol : String} {s : OrderManager}
    {i : Input} :
    i.onlyOrder localId symbol s = true ↔ i.OnlyOrder localId symbol s := by
  unfold Input.onlyOrder Input.OnlyOrder
  cases hevent : i.event with
  | executionReport report =>
    cases hmapped : s.idMapper.getLocalId report.brokerOrderId with
    | none => simp [hmapped]
    | some l =>
      cases hrow : s.orderStore.find l with
      | none => simp [hmapped, hrow]
      | some row =>
        by_cases hl : l = localId
        · subst hl
          cases hterminal : report.isTerminal <;>
            simp [hmapped, hrow, hterminal, Bool.and_eq_true, and_assoc]
        · cases hterminal : report.isTerminal <;> simp [hmapped, hrow, hterminal, hl]
  | _ => simp

instance (localId : LocalOrderId) (symbol : String) (s : OrderManager) (i : Input) :
    Decidable (i.OnlyOrder localId symbol s) :=
  decidable_of_iff _ Input.onlyOrder_iff

/-- The position of the symbol after a fill in another symbol. -/
lemma PositionKeeper.positionOf_onFill_of_ne (pk : PositionKeeper) {symbol symbol' : String}
    (h : symbol' ≠ symbol) (quantity price : ℚ) (side : V1.Side) :
    (pk.onFill symbol' quantity price side).positionOf symbol = pk.positionOf symbol := by
  by_cases hqty : 0 < quantity
  · rw [positionOf_onFill pk symbol' symbol price side hqty, if_neg (Ne.symm h)]
  · rw [onFill_of_nonpos pk symbol' price side (not_lt.mp hqty)]

/-! ## One event -/

/-- An event that books no fill leaves the entries and the positions alone. -/
lemma Move.entryOf_of_no_fill {s : OrderManager} {i : Input} {ok : Prop}
    {done : List GatewayEffect} {b : Books} (hmove : Move s i ok done b)
    (hnone : ∀ report, i.event = .executionReport report → report.isTerminal = false →
      s.idMapper.getLocalId report.brokerOrderId = none) (localId : LocalOrderId) :
    b.orderStore.entryOf localId = s.orderStore.entryOf localId ∧
      b.positionKeeper = s.positionKeeper := by
  cases hmove with
  | stay _ | skip _ _ | unmap _ _ _ | forget _ _ _ _ _ => exact ⟨rfl, rfl⟩
  | refuse _ _ hrow _ hstore | lose _ _ _ hrow hstore _ _ | accept _ _ _ hrow _ hstore =>
    refine ⟨?_, rfl⟩
    exact SQLiteOrderStore.entryOf_insert localId hstore hrow.filledQuantity_eq hrow.avgFillPrice_eq
  | cancel _ _ _ | retire _ _ _ _ _ =>
    exact ⟨SQLiteOrderStore.entryOf_setStatus localId _ _ _, rfl⟩
  | replace _ _ _ hrow hstore =>
    have hinsert := SQLiteOrderStore.entryOf_insert localId hstore hrow.filledQuantity_eq
      hrow.avgFillPrice_eq
    exact ⟨hinsert.trans (SQLiteOrderStore.entryOf_setStatus localId _ _ _), rfl⟩
  | killSwitch _ _ _ _ =>
    exact ⟨SQLiteOrderStore.entryOf_kills localId _ _ _, Books.kills_positionKeeper _ _ _⟩
  | @close report l status updated _ _ _ _ _ =>
    rw [Books.close_orderStore, Books.close_positionKeeper]
    split_ifs
    · exact ⟨SQLiteOrderStore.entryOf_setStatus localId _ _ _, rfl⟩
    · exact ⟨rfl, rfl⟩
  | fill hevent hmapped hterminal _ _ _ =>
    rw [hnone _ hevent hterminal] at hmapped
    cases hmapped

section OneEvent

variable {localId : LocalOrderId} {symbol : String} {s : OrderManager} {i : Input}

/-- A fill that is booked, spelled out. -/
lemma bookedFill_eq_some {report : V1.ExecutionReport}
    (h : bookedFill localId s i = some report) :
    i.event = .executionReport report ∧ report.isTerminal = false ∧
      s.idMapper.getLocalId report.brokerOrderId = some localId ∧
      i.env.storeFault (.getOrder localId) = none ∧ s.orderStore.find localId ≠ none := by
  unfold bookedFill at h
  cases hevent : i.event with
  | executionReport report' =>
    rw [hevent] at h
    dsimp only at h
    split_ifs at h with hbooked
    obtain rfl := Option.some.inj h
    exact ⟨rfl, hbooked⟩
  | _ => simp [hevent] at h

/-- A report of the order that is not booked cannot be read. -/
lemma bookedFill_eq_none (h : bookedFill localId s i = none) {report : V1.ExecutionReport}
    (hevent : i.event = .executionReport report) (hterminal : report.isTerminal = false)
    (hmapped : s.idMapper.getLocalId report.brokerOrderId = some localId) :
    i.env.storeFault (.getOrder localId) ≠ none ∨ s.orderStore.find localId = none := by
  by_contra hread
  push Not at hread
  have hbooked : bookedFill localId s i = some report := by
    unfold bookedFill
    rw [hevent]
    exact if_pos ⟨hterminal, hmapped, hread⟩
  rw [h] at hbooked
  cases hbooked

/-- An event that does not fill the order changes neither its entry nor the position. -/
lemma dispatch_of_unbooked (honly : i.OnlyOrder localId symbol s)
    (h : bookedFill localId s i = none) :
    (dispatch s i).orderStore.entryOf localId = s.orderStore.entryOf localId ∧
      (dispatch s i).positionKeeper.positionOf symbol = s.positionKeeper.positionOf symbol := by
  by_cases hfill : ∃ report l, i.event = .executionReport report ∧ report.isTerminal = false ∧
      s.idMapper.getLocalId report.brokerOrderId = some l
  · obtain ⟨report, l, hevent, hterminal, hmapped⟩ := hfill
    have hdispatch : dispatch s i = s.handleFill i.env report := by
      unfold dispatch OrderManager.handle
      rw [hevent]
      rfl
    rw [hdispatch]
    by_cases hread : i.env.storeFault (.getOrder l) ≠ none ∨ s.orderStore.find l = none
    · have hbooks := OrderManager.handleFill_unread hmapped hterminal hread
      rw [hbooks]
      exact ⟨rfl, rfl⟩
    -- the fill of another order
    have hother : l ≠ localId := by
      rintro rfl
      exact hread (bookedFill_eq_none h hevent hterminal hmapped)
    push Not at hread
    obtain ⟨row, hrow⟩ := Option.ne_none_iff_exists'.mp hread.2
    have hsymbol := honly report hevent hterminal l hmapped row hrow
    rw [if_neg hother] at hsymbol
    obtain ⟨applied, -, hbooks⟩ := OrderManager.handleFill_read hmapped hterminal hread.1 hrow
    rw [hbooks, Books.fill_orderStore, Books.fill_positionKeeper]
    refine ⟨?_, PositionKeeper.positionOf_onFill_of_ne _ hsymbol _ _ _⟩
    split_ifs
    · unfold SQLiteOrderStore.entryOf
      rw [SQLiteOrderStore.find_addFill_of_ne (Ne.symm hother)]
    · rfl
  · have hnone : ∀ report, i.event = .executionReport report → report.isTerminal = false →
        s.idMapper.getLocalId report.brokerOrderId = none := by
      intro report hevent hterminal
      by_contra hmapped
      obtain ⟨l, hl⟩ := Option.ne_none_iff_exists'.mp hmapped
      exact hfill ⟨report, l, hevent, hterminal, hl⟩
    obtain ⟨hentry, hkeeper⟩ := (dispatch_move s i).entryOf_of_no_fill hnone localId
    exact ⟨hentry, congrArg (PositionKeeper.positionOf · symbol) hkeeper⟩

/-- A fill of the order moves its row and the position. -/
lemma dispatch_of_booked (honly : i.OnlyOrder localId symbol s) {report : V1.ExecutionReport}
    (h : bookedFill localId s i = some report) :
    ∃ row, s.orderStore.find localId = some row ∧ 0 < report.filledQuantity ∧
      0 ≤ report.avgFillPrice ∧
      (dispatch s i).orderStore.entryOf localId =
        { filled := row.filledQuantity + report.filledQuantity
          signed := signedFill row.order.side (row.filledQuantity + report.filledQuantity)
          avg := AverageCost.runningAverage row.filledQuantity row.avgFillPrice
            report.filledQuantity report.avgFillPrice } ∧
      ((dispatch s i).positionKeeper.positionOf symbol).quantity =
        (s.positionKeeper.positionOf symbol).quantity +
          signedFill row.order.side report.filledQuantity ∧
      ((dispatch s i).positionKeeper.positionOf symbol).avgPrice =
        ((s.positionKeeper.positionOf symbol).onFill report.filledQuantity report.avgFillPrice
          row.order.side).avgPrice := by
  obtain ⟨hevent, hterminal, hmapped, hread, hfound⟩ := bookedFill_eq_some h
  obtain ⟨row, hrow⟩ := Option.ne_none_iff_exists'.mp hfound
  have hmatch := honly report hevent hterminal localId hmapped row hrow
  rw [if_pos rfl] at hmatch
  obtain ⟨-, hsymbol, hside, hqty, hprice, hfault⟩ := hmatch
  obtain ⟨applied, happlied, hbooks⟩ := OrderManager.handleFill_read hmapped hterminal hread hrow
  have hdispatch : (dispatch s i).toBooks = (s.handleFill i.env report).toBooks := by
    unfold dispatch OrderManager.handle
    rw [hevent]
    rfl
  have hposition : (dispatch s i).positionKeeper.positionOf symbol =
      ({ s.positionKeeper.positionOf symbol with symbol := symbol } : Position).onFill
        report.filledQuantity report.avgFillPrice row.order.side := by
    rw [hdispatch, hbooks, Books.fill_positionKeeper, hsymbol, hside,
      PositionKeeper.positionOf_onFill _ symbol symbol _ _ hqty, if_pos rfl]
  have havg := congrArg Position.avgPrice hposition
  refine ⟨row, hrow, hqty, hprice, ?_, congrArg Position.quantity hposition, havg⟩
  · have hstore : (dispatch s i).orderStore.find localId =
        some (row.withFill report.filledQuantity report.avgFillPrice (Books.fillStatus row report)
          i.env.sqliteNow) := by
      rw [hdispatch, hbooks, Books.fill_orderStore, if_pos (happlied.mpr hfault),
        SQLiteOrderStore.find_addFill, if_pos rfl, hrow, Option.map_some]
    rw [SQLiteOrderStore.entryOf_of_find _ hstore]
    rfl

end OneEvent

/-! ## Runs -/

/-- The average prices of the order and of the symbol are the same. -/
def AveragesAgree (localId : LocalOrderId) (symbol : String) (s : OrderManager) : Prop :=
  ∀ row, s.orderStore.find localId = some row →
    row.avgFillPrice = (s.positionKeeper.positionOf symbol).avgPrice

/-- The position of the symbol has the quantity of the order; before the first fill there are no
average prices. -/
structure Tracks (localId : LocalOrderId) (symbol : String) (s : OrderManager) : Prop where
  filled_nonneg : 0 ≤ (s.orderStore.entryOf localId).filled
  quantity : (s.positionKeeper.positionOf symbol).quantity =
    (s.orderStore.entryOf localId).signed
  avg_nonneg : 0 ≤ (s.positionKeeper.positionOf symbol).avgPrice
  unfilled : (s.orderStore.entryOf localId).filled = 0 →
    (s.orderStore.entryOf localId).avg = 0 ∧ (s.positionKeeper.positionOf symbol).avgPrice = 0

namespace Tracks

variable {localId : LocalOrderId} {symbol : String} {s s' : OrderManager} {i : Input}
  (h : Tracks localId symbol s)

/-- An order manager that was just created on an empty store. -/
lemma start (accountId : String) (riskManager : RiskManager) :
    Tracks localId symbol (createOrderManager accountId .empty riskManager) where
  filled_nonneg := le_rfl
  quantity := rfl
  avg_nonneg := le_rfl
  unfilled := fun _ => ⟨rfl, rfl⟩

include h

/-- Whether the averages agree is a matter of the entry. -/
lemma agree_iff :
    AveragesAgree localId symbol s ↔
      (s.orderStore.entryOf localId).avg = (s.positionKeeper.positionOf symbol).avgPrice := by
  unfold AveragesAgree
  cases hrow : s.orderStore.find localId with
  | none =>
    have hentry : s.orderStore.entryOf localId = {} := by
      unfold SQLiteOrderStore.entryOf
      rw [hrow, Option.elim_none]
    obtain ⟨havg, hposition⟩ := h.unfilled (congrArg Entry.filled hentry)
    simp [havg, hposition]
  | some row =>
    rw [SQLiteOrderStore.entryOf_of_find localId hrow]
    simp [StoredOrder.entry]

/-- An event that changes neither the entry nor the position. -/
lemma of_eq (hentry : s'.orderStore.entryOf localId = s.orderStore.entryOf localId)
    (hposition : s'.positionKeeper.positionOf symbol = s.positionKeeper.positionOf symbol) :
    Tracks localId symbol s' where
  filled_nonneg := hentry ▸ h.filled_nonneg
  quantity := hposition ▸ hentry ▸ h.quantity
  avg_nonneg := hposition ▸ h.avg_nonneg
  unfilled := hposition ▸ hentry ▸ h.unfilled

/-- The row of the order is filled as the position says. -/
lemma of_find {row : StoredOrder} (hrow : s.orderStore.find localId = some row) :
    0 ≤ row.filledQuantity ∧ (s.positionKeeper.positionOf symbol).quantity =
      signedFill row.order.side row.filledQuantity := by
  have hentry := SQLiteOrderStore.entryOf_of_find localId hrow
  have hfilled := h.filled_nonneg
  have hquantity := h.quantity
  rw [hentry] at hfilled hquantity
  exact ⟨hfilled, hquantity⟩

/-- A fill of the order, at a price or without one. -/
lemma of_booked (honly : i.OnlyOrder localId symbol s) {report : V1.ExecutionReport}
    (hbooked : bookedFill localId s i = some report) : Tracks localId symbol (dispatch s i) := by
  obtain ⟨row, hrow, hqty, hprice, hentry, hposition, havg⟩ := dispatch_of_booked honly hbooked
  obtain ⟨hfilled, hquantity⟩ := h.of_find hrow
  have hmore : 0 < row.filledQuantity + report.filledQuantity :=
    add_pos_of_nonneg_of_pos hfilled hqty
  constructor
  · rw [hentry]
    exact hmore.le
  · rw [hposition, hentry, hquantity, signedFill_add]
  · rw [havg]
    rcases hprice.lt_or_eq with hpriced | hnone
    · rw [Position.avgPrice_onFill_priced hquantity hfilled hqty hpriced]
      have hnonneg := h.avg_nonneg
      positivity
    · rw [Position.avgPrice_onFill_unpriced _ _ _ hnone.ge]
      exact h.avg_nonneg
  · rw [hentry]
    intro hzero
    exact absurd hzero hmore.ne'

/-- A fill at a price keeps the agreement and leaves an average price. -/
lemma agree_of_priced (honly : i.OnlyOrder localId symbol s) {report : V1.ExecutionReport}
    (hbooked : bookedFill localId s i = some report) (hpriced : 0 < report.avgFillPrice)
    (hagree : AveragesAgree localId symbol s) :
    AveragesAgree localId symbol (dispatch s i) ∧
      ((dispatch s i).positionKeeper.positionOf symbol).avgPrice ≠ 0 := by
  obtain ⟨row, hrow, hqty, -, hentry, -, hkeeper⟩ := dispatch_of_booked honly hbooked
  have hafter := h.of_booked honly hbooked
  obtain ⟨hfilled, hquantity⟩ := h.of_find hrow
  have hmore : 0 < row.filledQuantity + report.filledQuantity :=
    add_pos_of_nonneg_of_pos hfilled hqty
  rw [Position.avgPrice_onFill_priced hquantity hfilled hqty hpriced] at hkeeper
  refine ⟨hafter.agree_iff.mpr ?_, ?_⟩
  · rw [hkeeper, hentry]
    dsimp only
    rw [AverageCost.runningAverage_eq_div _ _ hqty.ne', hagree row hrow,
      mul_comm row.filledQuantity,
      mul_comm report.filledQuantity]
  · have hcost : 0 < row.filledQuantity * (s.positionKeeper.positionOf symbol).avgPrice +
        report.filledQuantity * report.avgFillPrice :=
      add_pos_of_nonneg_of_pos (mul_nonneg hfilled h.avg_nonneg) (mul_pos hqty hpriced)
    rw [hkeeper]
    exact (div_pos hcost hmore).ne'

/-- A fill without a price keeps the agreement only when there is no average price yet. -/
lemma agree_of_unpriced (honly : i.OnlyOrder localId symbol s) {report : V1.ExecutionReport}
    (hbooked : bookedFill localId s i = some report) (hnone : report.avgFillPrice = 0)
    (hagree : AveragesAgree localId symbol s) :
    (AveragesAgree localId symbol (dispatch s i) ↔
      (s.positionKeeper.positionOf symbol).avgPrice = 0) ∧
      ((dispatch s i).positionKeeper.positionOf symbol).avgPrice =
        (s.positionKeeper.positionOf symbol).avgPrice := by
  obtain ⟨row, hrow, hqty, -, hentry, -, hkept⟩ := dispatch_of_booked honly hbooked
  have hafter := h.of_booked honly hbooked
  obtain ⟨hfilled, -⟩ := h.of_find hrow
  have hmore : row.filledQuantity + report.filledQuantity ≠ 0 :=
    (add_pos_of_nonneg_of_pos hfilled hqty).ne'
  rw [Position.avgPrice_onFill_unpriced _ _ _ hnone.le] at hkept
  refine ⟨?_, hkept⟩
  rw [hafter.agree_iff, hkept, hentry]
  dsimp only
  rw [AverageCost.runningAverage_eq_div _ _ hqty.ne', hnone, zero_mul, add_zero, hagree row hrow,
    div_eq_iff hmore, mul_add, left_eq_add, mul_eq_zero, or_iff_left hqty.ne']

end Tracks

/-- No fill without a price comes after one with a price. -/
def PricedAfterPriced (fill fill' : V1.ExecutionReport) : Prop :=
  0 < fill.avgFillPrice → 0 < fill'.avgFillPrice

/-- The averages agree along a run exactly when its fills go on with prices once there is an average
price. -/
lemma averagesAgree_run {localId : LocalOrderId} {symbol : String} {s : OrderManager}
    {inputs : List Input} (h : Tracks localId symbol s) (hagree : AveragesAgree localId symbol s)
    (honly : Trajectory.AllSteps dispatch (fun s i => i.OnlyOrder localId symbol s) s inputs) :
    Trajectory.EveryState dispatch (AveragesAgree localId symbol) s inputs ↔
      ((s.positionKeeper.positionOf symbol).avgPrice ≠ 0 →
        ∀ fill ∈ bookedFills localId s inputs, 0 < fill.avgFillPrice) ∧
        (bookedFills localId s inputs).Pairwise PricedAfterPriced := by
  induction inputs generalizing s with
  | nil => simpa [bookedFills] using hagree
  | cons i inputs ih =>
    obtain ⟨hhere, hrest⟩ := honly
    rw [Trajectory.everyState_cons, and_iff_right hagree]
    unfold bookedFills
    cases hbooked : bookedFill localId s i with
    | none =>
      obtain ⟨hentry, hposition⟩ := dispatch_of_unbooked hhere hbooked
      have hafter := h.of_eq hentry hposition
      have hagree' : AveragesAgree localId symbol (dispatch s i) := by
        rw [hafter.agree_iff, hentry, hposition]
        exact h.agree_iff.mp hagree
      rw [ih hafter hagree' hrest, hposition, Option.toList_none, List.nil_append]
    | some fill =>
      have hafter := h.of_booked hhere hbooked
      obtain ⟨-, -, -, hprice, -⟩ := dispatch_of_booked hhere hbooked
      rw [Option.toList_some, List.singleton_append, List.pairwise_cons, List.forall_mem_cons]
      unfold PricedAfterPriced at ih ⊢
      rcases hprice.lt_or_eq with hpriced | hnone
      · obtain ⟨hagree', havg⟩ := h.agree_of_priced hhere hbooked hpriced hagree
        rw [ih hafter hagree' hrest]
        simp only [havg, hpriced, ne_eq, not_false_eq_true, forall_const, true_and]
        tauto
      · obtain ⟨hiff, hkept⟩ := h.agree_of_unpriced hhere hbooked hnone.symm hagree
        by_cases havg : (s.positionKeeper.positionOf symbol).avgPrice = 0
        · have hagree' := hiff.mpr havg
          rw [ih hafter hagree' hrest, hkept]
          simp [havg, ← hnone]
        · have hno : ¬ Trajectory.EveryState dispatch (AveragesAgree localId symbol) (dispatch s i)
              inputs := fun hevery => havg (hiff.mp hevery.first)
          simp [hno, havg, ← hnone]

/-- **The two average prices.**  When an order is the only one that is filled in its symbol, its
average price in the store is that of the position in every state of a run exactly when no fill
without a price comes after one with a price. -/
theorem averagesAgree_iff_pricedAfterPriced (accountId : String) (riskManager : RiskManager)
    (localId : LocalOrderId) (symbol : String) (inputs : List Input)
    (honly : Trajectory.AllSteps dispatch (fun s i => i.OnlyOrder localId symbol s)
      (createOrderManager accountId .empty riskManager) inputs) :
    Trajectory.EveryState dispatch (AveragesAgree localId symbol)
        (createOrderManager accountId .empty riskManager) inputs ↔
      (bookedFills localId (createOrderManager accountId .empty riskManager) inputs).Pairwise
        PricedAfterPriced := by
  have hstart : Tracks localId symbol (createOrderManager accountId .empty riskManager) :=
    .start accountId riskManager
  have hagree : AveragesAgree localId symbol (createOrderManager accountId .empty riskManager) :=
    hstart.agree_iff.mpr rfl
  rw [averagesAgree_run hstart hagree honly]
  exact and_iff_right fun havg => absurd rfl havg

/-- The averages of an order that is filled without a price at first. -/
theorem averagesAgree_iff_pricedAfterPriced_twoFills :
    let buy : OMEvent := .submitCommand { symbol := "AAPL", side := .buy, targetQuantity := 15 }
    let fill (quantity price : ℚ) : OMEvent :=
      .executionReport
        { brokerOrderId := "B1", symbol := "AAPL", side := .buy, filledQuantity := quantity
          avgFillPrice := price }
    let start := createOrderManager "ACC" .empty ⟨{}⟩
    let inputs := [buy.quietly "B1", (fill 5 0).quietly "", (fill 10 100).quietly ""]
    Trajectory.EveryState dispatch (AveragesAgree "ORD_0_000000" "AAPL") start inputs ↔
      (bookedFills "ORD_0_000000" start inputs).Pairwise PricedAfterPriced := by
  intro buy fill start inputs
  exact averagesAgree_iff_pricedAfterPriced "ACC" ⟨{}⟩ "ORD_0_000000" "AAPL" inputs
    (by decide +kernel)

/-- Ten at the price 100 and then five without a price: the average price is two thirds of 100 in
the store and 100 in the position keeper. -/
theorem averages_disagree :
    ¬ ∀ (accountId : String) (riskManager : RiskManager) (localId : LocalOrderId) (symbol : String)
        (inputs : List Input),
      Trajectory.AllSteps dispatch (fun s i => i.OnlyOrder localId symbol s)
        (createOrderManager accountId .empty riskManager) inputs →
      Trajectory.EveryState dispatch (AveragesAgree localId symbol)
        (createOrderManager accountId .empty riskManager) inputs := by
  intro h
  let buy : OMEvent := .submitCommand { symbol := "AAPL", side := .buy, targetQuantity := 15 }
  let fill (quantity price : ℚ) : OMEvent :=
    .executionReport
      { brokerOrderId := "B1", symbol := "AAPL", side := .buy, filledQuantity := quantity
        avgFillPrice := price }
  let start := createOrderManager "ACC" .empty ⟨{}⟩
  let inputs := [buy.quietly "B1", (fill 10 100).quietly "", (fill 5 0).quietly ""]
  have hevery := h "ACC" ⟨{}⟩ "ORD_0_000000" "AAPL" inputs (by decide +kernel)
  have hlast : AveragesAgree "ORD_0_000000" "AAPL" (Trajectory.run dispatch start inputs) :=
    hevery.last
  have hstored : ((Trajectory.run dispatch start inputs).orderStore.find "ORD_0_000000").map
      StoredOrder.avgFillPrice = some (200 / 3) := by
    decide +kernel
  have hkept : ((Trajectory.run dispatch start inputs).positionKeeper.positionOf "AAPL").avgPrice =
      100 := by
    decide +kernel
  obtain ⟨row, hrow, havg⟩ := Option.map_eq_some_iff.mp hstored
  have hagree := hlast row hrow
  rw [havg, hkept] at hagree
  norm_num at hagree

end Quarcc
