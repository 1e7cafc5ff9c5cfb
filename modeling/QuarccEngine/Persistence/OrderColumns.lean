import QuarccEngine.Persistence.ApplyFill
import QuarccEngine.Persistence.SQLiteJournal

/-!
# The columns of the order store

`sqlite_order_store.cpp`, column by column: what the statements bind, how SQLite computes on the
columns, and how `parse_order` reads a row back.  The order itself is in one column, as the bytes
that protobuf makes of it; the columns that repeat its fields are written once and never read by the
engine.

Texts are bound without a length, so that they end before the first zero byte.  An `avg_fill_price`
that is divided by zero is `NULL`.

The main result is that the columns refine the store of the other modules: they answer every
statement and every query alike, and the columns that repeat a field agree with the order.
-/

namespace Quarcc

/-! ## Values -/

/-- The sum of two `REAL`s, which is `NULL` when one of them is. -/
def sqlAdd (x y : Option ℚ) : Option ℚ := x.bind fun a => y.map fun b => a + b

/-- The product of two `REAL`s. -/
def sqlMul (x y : Option ℚ) : Option ℚ := x.bind fun a => y.map fun b => a * b

/-- The quotient of two `REAL`s. -/
def sqlQuotient (x y : Option ℚ) : Option ℚ := x.bind fun a => y.bind fun b => sqlDiv a b

/-- `static_cast<int>` of a side. -/
def V1.Side.number : V1.Side → ℤ
  | unknownSide => 0
  | buy => 1
  | sell => 2
  | unrecognized n => n

/-- `static_cast<int>` of a type of orders. -/
def V1.OrderType.number : V1.OrderType → ℤ
  | unknownType => 0
  | market => 1
  | limit => 2
  | stop => 3
  | stopLimit => 4

/-- `static_cast<int>` of a time in force. -/
def V1.TimeInForce.number : V1.TimeInForce → ℤ
  | day => 0
  | gtc => 1
  | ioc => 2
  | fok => 3

/-- The bytes that protobuf makes of an order. -/
structure OrderCodec (Blob : Type) where
  /-- `SerializeToString`. -/
  serialize : V1.Order → Blob
  /-- `ParseFromArray`, into an order without fields. -/
  parse : Blob → V1.Order

/-! ## Rows -/

/-- A row of the table `orders`. -/
structure OrderRow (Blob : Type) where
  localId : String
  brokerId : Option String
  symbol : String
  side : ℤ
  quantity : ℚ
  price : ℚ
  orderType : ℤ
  status : String
  timeInForce : ℤ
  accountId : String
  strategyId : String
  createdAt : String
  updatedAt : Option String := none
  filledQuantity : Option ℚ
  avgFillPrice : Option ℚ
  orderProto : Blob

section Columns

variable {Blob : Type} (codec : OrderCodec Blob)

/-- What `store_order` binds. -/
def StoredOrder.columns (stored : StoredOrder) : OrderRow Blob where
  localId := cStr stored.localId
  brokerId := stored.brokerId.map cStr
  symbol := cStr stored.order.symbol
  side := stored.order.side.number
  quantity := stored.order.quantity
  price := stored.order.price
  orderType := stored.order.type.number
  status := orderStatusToString stored.status
  timeInForce := stored.order.timeInForce.number
  accountId := cStr stored.order.accountId
  strategyId := cStr stored.order.strategyId
  createdAt := cStr stored.createdAt
  filledQuantity := some stored.filledQuantity
  avgFillPrice := some stored.avgFillPrice
  orderProto := codec.serialize stored.order

namespace OrderRow

variable (row : OrderRow Blob)

/-- `parse_order`; `sqlite3_column_double` of a `NULL` is zero. -/
def parseOrder : StoredOrder where
  order := codec.parse row.orderProto
  status := orderStatusFromString (some row.status)
  localId := row.localId
  brokerId := row.brokerId
  createdAt := row.createdAt
  updatedAt := row.updatedAt
  filledQuantity := row.filledQuantity.getD 0
  avgFillPrice := row.avgFillPrice.getD 0

/-- The `SET` clause of `update_order_status`. -/
def setStatus (status : OrderStatus) (now : String) : OrderRow Blob :=
  { row with status := orderStatusToString status, updatedAt := some now }

/-- The `SET` clause of `update_broker_id`. -/
def setBrokerId (broker : BrokerOrderId) (now : String) : OrderRow Blob :=
  { row with brokerId := some (cStr broker), updatedAt := some now }

/-- The `SET` clause of `apply_fill`, whose right-hand sides read the old row. -/
def setFill (params : ApplyFillParams) (now : String) : OrderRow Blob :=
  { row with
    avgFillPrice :=
      if row.filledQuantity = some 0 then some params.p1
      else sqlQuotient
        (sqlAdd (sqlMul row.avgFillPrice row.filledQuantity)
          (sqlMul (some params.p2) (some params.p3)))
        (sqlAdd row.filledQuantity (some params.p4))
    filledQuantity := sqlAdd row.filledQuantity (some params.p5)
    status := params.p6
    updatedAt := some now }

end OrderRow

/-- The table `orders`. -/
abbrev OrdersTable (Blob : Type) := List (OrderRow Blob)

/-! ## Statements -/

/-- A call that writes to the store, with the failure of SQLite, if any. -/
inductive StoreWrite where
  | storeOrder (stored : StoredOrder) (fault : Option SqliteFault)
  | updateOrderStatus (localId : LocalOrderId) (newStatus : OrderStatus) (now : String)
    (fault : Option SqliteFault)
  | updateBrokerId (localId : LocalOrderId) (broker : BrokerOrderId) (now : String)
    (fault : Option SqliteFault)
  | applyFill (call : ApplyFill)

namespace OrdersTable

variable (t : OrdersTable Blob)

/-- `store_order`. -/
def storeOrder (stored : StoredOrder) (fault : Option SqliteFault) : Result (OrdersTable Blob) :=
  match fault with
  | some f => .error (f.toError "Failed to prepare insert statement: " "Failed to insert order: ")
  | none =>
    let row := stored.columns codec
    if row.localId ∈ t.map OrderRow.localId then
      .error (SQLiteOrderStore.uniqueFailed "Failed to insert order: " "local_id")
    else if row.brokerId ≠ none ∧ row.brokerId ∈ t.map OrderRow.brokerId then
      .error (SQLiteOrderStore.uniqueFailed "Failed to insert order: " "broker_id")
    else .ok (t ++ [row])

/-- `update_order_status`. -/
def updateOrderStatus (localId : LocalOrderId) (newStatus : OrderStatus) (now : String)
    (fault : Option SqliteFault) : Result (OrdersTable Blob) :=
  match fault with
  | some f =>
    .error (f.toError "Failed to prepare update statement: " "Failed to update order status: ")
  | none =>
    .ok (Table.modify OrderRow.localId t (cStr localId) fun row => row.setStatus newStatus now)

/-- `update_broker_id`. -/
def updateBrokerId (localId : LocalOrderId) (broker : BrokerOrderId) (now : String)
    (fault : Option SqliteFault) : Result (OrdersTable Blob) :=
  match fault with
  | some f =>
    .error (f.toError "Failed to prepare update statement: " "Failed to update broker ID: ")
  | none =>
    if cStr localId ∈ t.map OrderRow.localId ∧
        ∃ row ∈ t, row.localId ≠ cStr localId ∧ row.brokerId = some (cStr broker) then
      .error (SQLiteOrderStore.uniqueFailed "Failed to update broker ID: " "broker_id")
    else
      .ok (Table.modify OrderRow.localId t (cStr localId) fun row => row.setBrokerId broker now)

/-- `apply_fill`. -/
def applyFill (call : ApplyFill) : Result (OrdersTable Blob) :=
  match call.fault with
  | some f => .error (f.toError "Failed to prepare apply_fill statement: " "Failed to apply fill: ")
  | none =>
    .ok (Table.modify OrderRow.localId t (cStr call.params.p7) fun row =>
      row.setFill call.params call.now)

/-- A call that writes to the table. -/
def write : StoreWrite → Result (OrdersTable Blob)
  | .storeOrder stored fault => t.storeOrder codec stored fault
  | .updateOrderStatus localId newStatus now fault =>
    t.updateOrderStatus localId newStatus now fault
  | .updateBrokerId localId broker now fault => t.updateBrokerId localId broker now fault
  | .applyFill call => t.applyFill call

/-- The table after a call, which leaves it alone when it fails. -/
def after (w : StoreWrite) : OrdersTable Blob :=
  match t.write codec w with
  | .ok t' => t'
  | .error _ => t

/-- What a call answers. -/
def answer (w : StoreWrite) : Result Unit := (t.write codec w).map fun _ => ()

/-! ## Queries -/

/-- `get_order`. -/
def getOrder (localId : LocalOrderId) (fault : Option SqliteFault) : Result StoredOrder :=
  match fault with
  | some (.prepare errmsg) => .error ⟨"Failed to prepare select statement: " ++ errmsg, .error⟩
  | some (.step _) => .error ⟨"Order not found: " ++ localId, .error⟩
  | none =>
    match Table.find OrderRow.localId t (cStr localId) with
    | some row => .ok (row.parseOrder codec)
    | none => .error ⟨"Order not found: " ++ localId, .error⟩

/-- `WHERE status IN (…) ORDER BY created_at ASC`, of which so many rows are read before a
failure. -/
def selectByStatus (statuses : List OrderStatus) (readLimit : Option ℕ) : List StoredOrder :=
  let sorted := (t.filter fun row => row.status ∈ statuses.map orderStatusToString).insertionSort
    fun row row' => row.createdAt ≤ row'.createdAt
  match readLimit with
  | none => sorted.map fun row => row.parseOrder codec
  | some n => (sorted.take n).map fun row => row.parseOrder codec

/-- `get_open_orders`. -/
def getOpenOrders (readLimit : Option ℕ) : List StoredOrder :=
  t.selectByStatus codec [.pendingSubmission, .submitted, .accepted, .partiallyFilled] readLimit

/-- `get_orders_by_status`. -/
def getOrdersByStatus (status : OrderStatus) (readLimit : Option ℕ) : List StoredOrder :=
  t.selectByStatus codec [status] readLimit

end OrdersTable

/-! ## The store of the other modules -/

/-- The orders that a call serializes. -/
def StoreWrite.order? : StoreWrite → Option V1.Order
  | .storeOrder stored _ => some stored.order
  | .updateOrderStatus _ _ _ _ | .updateBrokerId _ _ _ _ | .applyFill _ => none

/-- The call with the texts that are bound. -/
def StoreWrite.cut : StoreWrite → StoreWrite
  | .storeOrder stored fault =>
    .storeOrder
      { stored with
        localId := cStr stored.localId, brokerId := stored.brokerId.map cStr
        createdAt := cStr stored.createdAt }
      fault
  | .updateOrderStatus localId newStatus now fault =>
    .updateOrderStatus (cStr localId) newStatus now fault
  | .updateBrokerId localId broker now fault =>
    .updateBrokerId (cStr localId) (cStr broker) now fault
  | .applyFill call => .applyFill { call with localId := cStr call.localId }

namespace SQLiteOrderStore

variable (s : SQLiteOrderStore)

/-- A call that writes to the store. -/
def write : StoreWrite → Result SQLiteOrderStore
  | .storeOrder stored fault => s.storeOrder stored fault
  | .updateOrderStatus localId newStatus now fault =>
    s.updateOrderStatus localId newStatus now fault
  | .updateBrokerId localId broker now fault => s.updateBrokerId localId broker now fault
  | .applyFill call =>
    s.applyFill call.localId call.filledQuantity call.avgPrice call.newStatus call.now call.fault

/-- The store after a call, which leaves it alone when it fails. -/
def after (w : StoreWrite) : SQLiteOrderStore :=
  match s.write w with
  | .ok s' => s'
  | .error _ => s

/-- What a call answers. -/
def answer (w : StoreWrite) : Result Unit := (s.write w).map fun _ => ()

/-- `get_orders_by_status`, by time of creation; a failure ends the reading. -/
def getOrdersByStatus (status : OrderStatus) (readLimit : Option ℕ) : List StoredOrder :=
  let sorted := (s.rows.filter fun row => row.status = status).insertionSort
    fun row row' => row.createdAt ≤ row'.createdAt
  match readLimit with
  | none => sorted
  | some n => sorted.take n

end SQLiteOrderStore

/-! ## What is true of every row -/

namespace OrderRow

/-- The columns that repeat a field of the order agree with it. -/
structure Repeats (row : OrderRow Blob) (order : V1.Order) : Prop where
  symbol : row.symbol = cStr order.symbol
  side : row.side = order.side.number
  quantity : row.quantity = order.quantity
  price : row.price = order.price
  orderType : row.orderType = order.type.number
  timeInForce : row.timeInForce = order.timeInForce.number
  accountId : row.accountId = cStr order.accountId
  strategyId : row.strategyId = cStr order.strategyId

/-- A row that the statements leave. -/
structure Sound (row : OrderRow Blob) : Prop where
  repeated : row.Repeats (codec.parse row.orderProto)
  status : orderStatusToString (orderStatusFromString (some row.status)) = row.status
  filled : row.filledQuantity ≠ none
  /-- An average is only divided by zero when nothing is left of the fills. -/
  average : row.avgFillPrice = none → row.filledQuantity = some 0

variable {codec} {row : OrderRow Blob}

/-- No `UPDATE` sets a column that repeats a field. -/
lemma Repeats.of_update {row' : OrderRow Blob} {order : V1.Order} (h : row.Repeats order)
    (hrow : row' =
      { row with
        brokerId := row'.brokerId, status := row'.status, updatedAt := row'.updatedAt
        filledQuantity := row'.filledQuantity, avgFillPrice := row'.avgFillPrice }) :
    row'.Repeats order := by
  rw [hrow]
  exact ⟨h.symbol, h.side, h.quantity, h.price, h.orderType, h.timeInForce, h.accountId,
    h.strategyId⟩

/-- The row that is inserted, read back. -/
lemma parseOrder_columns {stored : StoredOrder}
    (hcodec : codec.parse (codec.serialize stored.order) = stored.order) :
    (stored.columns codec).parseOrder codec =
      { stored with
        localId := cStr stored.localId, brokerId := stored.brokerId.map cStr
        createdAt := cStr stored.createdAt, updatedAt := none } := by
  unfold parseOrder StoredOrder.columns
  simp only [hcodec, orderStatusFromString_toString, Option.getD_some]

lemma sound_columns {stored : StoredOrder}
    (hcodec : codec.parse (codec.serialize stored.order) = stored.order) :
    (stored.columns codec).Sound codec where
  repeated := by
    have hproto : codec.parse (stored.columns codec).orderProto = stored.order := hcodec
    rw [hproto]
    exact ⟨rfl, rfl, rfl, rfl, rfl, rfl, rfl, rfl⟩
  status := congrArg orderStatusToString (orderStatusFromString_toString stored.status)
  filled := Option.some_ne_none _
  average := fun h => absurd h (Option.some_ne_none _)

/-- A row with a new status, read back. -/
lemma parseOrder_setStatus (status : OrderStatus) (now : String) :
    (row.setStatus status now).parseOrder codec = (row.parseOrder codec).withStatus status now := by
  unfold parseOrder setStatus StoredOrder.withStatus
  simp only [orderStatusFromString_toString]

lemma Sound.setStatus (h : row.Sound codec) (status : OrderStatus) (now : String) :
    (row.setStatus status now).Sound codec where
  repeated := h.repeated.of_update rfl
  status := congrArg orderStatusToString (orderStatusFromString_toString status)
  filled := h.filled
  average := h.average

/-- A row with a broker id, read back. -/
lemma parseOrder_setBrokerId (broker : BrokerOrderId) (now : String) :
    (row.setBrokerId broker now).parseOrder codec =
      (row.parseOrder codec).withBrokerId (cStr broker) now := rfl

lemma Sound.setBrokerId (h : row.Sound codec) (broker : BrokerOrderId) (now : String) :
    (row.setBrokerId broker now).Sound codec where
  repeated := h.repeated.of_update rfl
  status := h.status
  filled := h.filled
  average := h.average

/-- The average of a row that has been filled. -/
lemma setFill_avgFillPrice {quantity : ℚ} (hquantity : row.filledQuantity = some quantity)
    (haverage : row.avgFillPrice = none → quantity = 0) (call : ApplyFill) (now : String) :
    (row.setFill call.params now).avgFillPrice =
      if quantity = 0 then some call.avgPrice
      else sqlDiv (row.avgFillPrice.getD 0 * quantity + call.avgPrice * call.filledQuantity)
        (quantity + call.filledQuantity) := by
  unfold setFill
  dsimp only
  simp only [hquantity, Option.some_inj]
  by_cases hzero : quantity = 0
  · rw [if_pos hzero, if_pos hzero]
    rfl
  · rw [if_neg hzero, if_neg hzero]
    obtain ⟨average, haverage'⟩ := Option.ne_none_iff_exists'.mp fun h => hzero (haverage h)
    rw [haverage']
    rfl

/-- **A fill, read back.**  SQLite divides by zero and reads a `NULL` only where the result is not
used. -/
lemma parseOrder_setFill (h : row.Sound codec) (call : ApplyFill) (now : String) :
    (row.setFill call.params now).parseOrder codec =
      (row.parseOrder codec).withFill call.filledQuantity call.avgPrice call.newStatus now := by
  obtain ⟨quantity, hquantity⟩ := Option.ne_none_iff_exists'.mp h.filled
  have haverage := setFill_avgFillPrice hquantity
    (fun hnone => Option.some_inj.mp (hquantity.symm.trans (h.average hnone))) call now
  have hread : (row.parseOrder codec).filledQuantity = quantity := by
    unfold parseOrder
    rw [hquantity]
    rfl
  have hstatus : orderStatusFromString (some (row.setFill call.params now).status) =
    call.newStatus :=
    orderStatusFromString_toString call.newStatus
  have hfilled : (row.setFill call.params now).filledQuantity =
      some (quantity + call.filledQuantity) := by
    unfold setFill
    rw [hquantity]
    rfl
  unfold StoredOrder.withFill
  rw [hread]
  unfold parseOrder
  rw [haverage, hstatus, hfilled]
  congr 1
  unfold sqlDiv
  by_cases hzero : quantity = 0
  · simp [hzero]
  · by_cases hsum : quantity + call.filledQuantity = 0
    · simp [hzero, hsum]
    · simp [hzero, hsum]

lemma Sound.setFill (h : row.Sound codec) (call : ApplyFill) (now : String) :
    (row.setFill call.params now).Sound codec where
  repeated := h.repeated.of_update rfl
  status := congrArg orderStatusToString (orderStatusFromString_toString call.newStatus)
  filled := by
    obtain ⟨quantity, hquantity⟩ := Option.ne_none_iff_exists'.mp h.filled
    unfold OrderRow.setFill
    rw [hquantity]
    exact Option.some_ne_none _
  average := by
    obtain ⟨quantity, hquantity⟩ := Option.ne_none_iff_exists'.mp h.filled
    rw [setFill_avgFillPrice hquantity
      (fun hnone => Option.some_inj.mp (hquantity.symm.trans (h.average hnone))) call now]
    intro hnone
    unfold OrderRow.setFill
    rw [hquantity]
    unfold sqlDiv at hnone
    split_ifs at hnone with hzero hsum
    exact congrArg some hsum

end OrderRow

/-! ## Refinement -/

/-- The rows of the table, read back, are those of the store. -/
structure Represents (t : OrdersTable Blob) (s : SQLiteOrderStore) : Prop where
  rows_eq : t.map (fun row => row.parseOrder codec) = s.rows
  sound : ∀ row ∈ t, row.Sound codec

namespace Represents

variable {codec} {t : OrdersTable Blob} {s : SQLiteOrderStore}

/-- The column of the local ids. -/
lemma map_localId (h : Represents codec t s) :
    t.map OrderRow.localId = s.rows.map StoredOrder.localId := by
  rw [← h.rows_eq, List.map_map]
  rfl

/-- The column of the broker ids. -/
lemma map_brokerId (h : Represents codec t s) :
    t.map OrderRow.brokerId = s.rows.map StoredOrder.brokerId := by
  rw [← h.rows_eq, List.map_map]
  rfl

/-- An `UPDATE` of one order, when it does to a row what the store does to the order. -/
lemma modify {s' : SQLiteOrderStore} (h : Represents codec t s) {localId : LocalOrderId}
    {f : OrderRow Blob → OrderRow Blob} {f' : StoredOrder → StoredOrder}
    (hs' : s'.rows = Table.modify StoredOrder.localId s.rows localId f')
    (hf : ∀ row, row.Sound codec → (f row).parseOrder codec = f' (row.parseOrder codec))
    (hsound : ∀ row, row.Sound codec → (f row).Sound codec) :
    Represents codec (Table.modify OrderRow.localId t localId f) s' where
  rows_eq := by
    have hview : ∀ row : OrderRow Blob, (row.parseOrder codec).localId = row.localId := fun _ => rfl
    rw [hs', ← h.rows_eq]
    exact Table.map_modify_of_view hview fun row hrow => hf row (h.sound row hrow)
  sound := Table.forall_modify h.sound hsound

/-- The answers agree, and so do the tables after the call. -/
def Step (codec : OrderCodec Blob) (result : Result (OrdersTable Blob))
    (result' : Result SQLiteOrderStore) : Prop :=
  match result, result' with
  | .ok t, .ok s => Represents codec t s
  | .error e, .error e' => e = e'
  | _, _ => False

/-- `store_order`. -/
lemma storeOrder (h : Represents codec t s) {stored : StoredOrder} (fault : Option SqliteFault)
    (hcodec : codec.parse (codec.serialize stored.order) = stored.order) :
    Step codec (t.storeOrder codec stored fault)
      (s.write (StoreWrite.storeOrder stored fault).cut) := by
  let cut : StoredOrder :=
    { stored with
      localId := cStr stored.localId, brokerId := stored.brokerId.map cStr
      createdAt := cStr stored.createdAt }
  have hbound : cut.bound.brokerId = stored.brokerId.map cStr := map_cStr_map_cStr stored.brokerId
  have hread : (stored.columns codec).parseOrder codec = cut.bound := by
    rw [OrderRow.parseOrder_columns hcodec]
    unfold StoredOrder.bound
    rw [map_cStr_map_cStr]
  have hlocal : (stored.columns codec).localId ∈ t.map OrderRow.localId ↔
      cStr stored.localId ∈ s.rows.map StoredOrder.localId := by
    rw [h.map_localId]
    rfl
  have hbroker : ((stored.columns codec).brokerId ≠ none ∧
        (stored.columns codec).brokerId ∈ t.map OrderRow.brokerId) ↔
      ∃ row ∈ s.rows, row.brokerId = cut.bound.brokerId ∧ cut.bound.brokerId ≠ none := by
    rw [h.map_brokerId, List.mem_map, hbound]
    exact ⟨fun ⟨hne, row, hrow, heq⟩ => ⟨row, hrow, heq, hne⟩,
      fun ⟨row, hrow, heq, hne⟩ => ⟨hne, row, hrow, heq⟩⟩
  unfold OrdersTable.storeOrder StoreWrite.cut SQLiteOrderStore.write SQLiteOrderStore.storeOrder
  cases fault with
  | some f => exact rfl
  | none =>
    dsimp only
    by_cases hl : cStr stored.localId ∈ s.rows.map StoredOrder.localId
    · rw [if_pos (hlocal.mpr hl), dif_pos hl]
      exact rfl
    rw [if_neg fun hmem => hl (hlocal.mp hmem), dif_neg hl]
    by_cases hb : ∃ row ∈ s.rows, row.brokerId = cut.bound.brokerId ∧ cut.bound.brokerId ≠ none
    · rw [if_pos (hbroker.mpr hb), dif_pos hb]
      exact rfl
    · rw [if_neg fun hmem => hb (hbroker.mp hmem), dif_neg hb]
      refine ⟨?_, ?_⟩
      · rw [List.map_append, h.rows_eq, List.map_singleton, hread]
      · intro row hrow
        rcases List.mem_append.mp hrow with hrow | hrow
        · exact h.sound row hrow
        · rw [List.mem_singleton.mp hrow]
          exact OrderRow.sound_columns hcodec

/-- `update_order_status`. -/
lemma updateOrderStatus (h : Represents codec t s) (localId : LocalOrderId)
    (newStatus : OrderStatus)
    (now : String) (fault : Option SqliteFault) :
    Step codec (t.updateOrderStatus localId newStatus now fault)
      (s.write (StoreWrite.updateOrderStatus localId newStatus now fault).cut) := by
  cases fault with
  | some f => exact rfl
  | none =>
    exact h.modify rfl (fun row _ => row.parseOrder_setStatus newStatus now)
      fun row hrow => hrow.setStatus newStatus now

/-- `update_broker_id`. -/
lemma updateBrokerId (h : Represents codec t s) (localId : LocalOrderId) (broker : BrokerOrderId)
    (now : String) (fault : Option SqliteFault) :
    Step codec (t.updateBrokerId localId broker now fault)
      (s.write (StoreWrite.updateBrokerId localId broker now fault).cut) := by
  have hused : (cStr localId ∈ t.map OrderRow.localId ∧
        ∃ row ∈ t, row.localId ≠ cStr localId ∧ row.brokerId = some (cStr broker)) ↔
      cStr localId ∈ s.rows.map StoredOrder.localId ∧
        ∃ row ∈ s.rows, row.localId ≠ cStr localId ∧ row.brokerId = some (cStr (cStr broker)) := by
    rw [h.map_localId, ← h.rows_eq, cStr_cStr]
    refine and_congr_right fun _ => ?_
    simp only [List.mem_map, exists_exists_and_eq_and]
    rfl
  unfold OrdersTable.updateBrokerId StoreWrite.cut SQLiteOrderStore.write
    SQLiteOrderStore.updateBrokerId
  cases fault with
  | some f => exact rfl
  | none =>
    dsimp only
    by_cases hu : cStr localId ∈ s.rows.map StoredOrder.localId ∧
        ∃ row ∈ s.rows, row.localId ≠ cStr localId ∧ row.brokerId = some (cStr (cStr broker))
    · rw [if_pos (hused.mpr hu), dif_pos hu]
      exact rfl
    · rw [if_neg fun hmem => hu (hused.mp hmem), dif_neg hu]
      refine h.modify rfl (fun row _ => ?_) fun row hrow => hrow.setBrokerId broker now
      rw [cStr_cStr]
      exact row.parseOrder_setBrokerId broker now

/-- `apply_fill`. -/
lemma applyFill (h : Represents codec t s) (call : ApplyFill) :
    Step codec (t.applyFill call) (s.write (StoreWrite.applyFill call).cut) := by
  unfold OrdersTable.applyFill StoreWrite.cut SQLiteOrderStore.write SQLiteOrderStore.applyFill
  dsimp only
  cases call.fault with
  | some f => exact rfl
  | none =>
    exact h.modify rfl (fun row hrow => OrderRow.parseOrder_setFill hrow call call.now)
      fun row hrow => hrow.setFill call call.now

/-- **Step lemma.**  Every call is answered alike and keeps the table and the store together. -/
lemma step (h : Represents codec t s) {w : StoreWrite}
    (hcodec : ∀ order ∈ w.order?, codec.parse (codec.serialize order) = order) :
    Represents codec (t.after codec w) (s.after w.cut) ∧ t.answer codec w = s.answer w.cut := by
  have hstep : Step codec (t.write codec w) (s.write w.cut) := by
    cases w with
    | storeOrder stored fault => exact h.storeOrder fault (hcodec stored.order rfl)
    | updateOrderStatus localId newStatus now fault =>
      exact h.updateOrderStatus localId newStatus now fault
    | updateBrokerId localId broker now fault => exact h.updateBrokerId localId broker now fault
    | applyFill call => exact h.applyFill call
  unfold OrdersTable.after OrdersTable.answer SQLiteOrderStore.after SQLiteOrderStore.answer
  generalize t.write codec w = result at hstep ⊢
  generalize s.write w.cut = result' at hstep ⊢
  cases result with
  | ok t' =>
    cases result' with
    | ok s' => exact ⟨hstep, rfl⟩
    | error e => exact hstep.elim
  | error e =>
    cases result' with
    | ok s' => exact hstep.elim
    | error e' =>
      obtain rfl : e = e' := hstep
      exact ⟨h, rfl⟩

/-! ### Queries -/

/-- `get_order`. -/
lemma getOrder_eq (h : Represents codec t s) {localId : LocalOrderId} (hid : cStr localId = localId)
    (fault : Option SqliteFault) : t.getOrder codec localId fault = s.getOrder localId fault := by
  have hfind : s.find localId =
      (Table.find OrderRow.localId t localId).map fun row => row.parseOrder codec := by
    have hview : ∀ row : OrderRow Blob, (row.parseOrder codec).localId = row.localId := fun _ => rfl
    unfold SQLiteOrderStore.find
    rw [← h.rows_eq]
    exact Table.find_map hview t localId
  unfold OrdersTable.getOrder SQLiteOrderStore.getOrder
  rw [hid, hfind]
  cases Table.find OrderRow.localId t localId with
  | none => rfl
  | some row => rfl

/-- The rows that are selected by their status. -/
lemma selectByStatus_eq (h : Represents codec t s) (statuses : List OrderStatus)
    (readLimit : Option ℕ) :
    t.selectByStatus codec statuses readLimit =
      let sorted := (s.rows.filter fun row => row.status ∈ statuses).insertionSort
        fun row row' => row.createdAt ≤ row'.createdAt
      match readLimit with
      | none => sorted
      | some n => sorted.take n := by
  have hstatus : ∀ row ∈ t, (row.status ∈ statuses.map orderStatusToString ↔
      (row.parseOrder codec).status ∈ statuses) := by
    intro row hrow
    rw [← (h.sound row hrow).status]
    exact List.mem_map_of_injective
      (Function.LeftInverse.injective (g := fun text => orderStatusFromString (some text))
        orderStatusFromString_toString)
  have hfilter : (s.rows.filter fun row => row.status ∈ statuses) =
      (t.filter fun row => row.status ∈ statuses.map orderStatusToString).map
        fun row => row.parseOrder codec := by
    rw [← h.rows_eq, List.filter_map]
    congr 1
    refine List.filter_congr fun row hrow => ?_
    exact decide_eq_decide.mpr (hstatus row hrow).symm
  have hsorted := List.map_insertionSort
    (r := fun row row' : OrderRow Blob => row.createdAt ≤ row'.createdAt)
    (s := fun row row' : StoredOrder => row.createdAt ≤ row'.createdAt)
    (fun row => row.parseOrder codec)
    (t.filter fun row => row.status ∈ statuses.map orderStatusToString) fun _ _ _ _ => Iff.rfl
  unfold OrdersTable.selectByStatus
  rw [hfilter]
  dsimp only
  rw [← hsorted]
  cases readLimit with
  | none => rfl
  | some n => exact List.map_take

/-- `get_open_orders`. -/
lemma getOpenOrders_eq (h : Represents codec t s) (readLimit : Option ℕ) :
    t.getOpenOrders codec readLimit = s.getOpenOrders readLimit := by
  have hopen : s.openRows = s.rows.filter fun row =>
      row.status ∈ [OrderStatus.pendingSubmission, .submitted, .accepted, .partiallyFilled] := by
    unfold SQLiteOrderStore.openRows
    refine List.filter_congr fun row _ => ?_
    cases row.status <;> rfl
  have hselect := h.selectByStatus_eq [.pendingSubmission, .submitted, .accepted, .partiallyFilled]
    readLimit
  rw [← hopen] at hselect
  exact hselect

/-- `get_orders_by_status`. -/
lemma getOrdersByStatus_eq (h : Represents codec t s) (status : OrderStatus)
    (readLimit : Option ℕ) :
    t.getOrdersByStatus codec status readLimit = s.getOrdersByStatus status readLimit := by
  unfold OrdersTable.getOrdersByStatus SQLiteOrderStore.getOrdersByStatus
  rw [h.selectByStatus_eq]
  simp only [List.mem_singleton]

end Represents

/-- **The columns refine the store.**  From an empty table, and for any calls and failures, when
protobuf reads back the orders that it has serialized: every call is answered as by the store, which
gets the call with its texts cut at the first zero byte; afterwards every query is answered as by
the store; and in every row the columns that repeat a field of the order agree with it. -/
theorem columns_refine_store (codec : OrderCodec Blob) (writes : List StoreWrite)
    (hcodec : ∀ w ∈ writes, ∀ order ∈ w.order?, codec.parse (codec.serialize order) = order) :
    let t := Trajectory.run (OrdersTable.after codec) [] writes
    let s := Trajectory.run SQLiteOrderStore.after .empty (writes.map StoreWrite.cut)
    Trajectory.outputs (OrdersTable.after codec) (OrdersTable.answer codec) [] writes =
        Trajectory.outputs SQLiteOrderStore.after SQLiteOrderStore.answer .empty
          (writes.map StoreWrite.cut) ∧
      (∀ localId fault, cStr localId = localId →
        t.getOrder codec localId fault = s.getOrder localId fault) ∧
      (∀ readLimit, t.getOpenOrders codec readLimit = s.getOpenOrders readLimit) ∧
      (∀ status readLimit,
        t.getOrdersByStatus codec status readLimit = s.getOrdersByStatus status readLimit) ∧
      ∀ row ∈ t, row.Repeats (codec.parse row.orderProto) := by
  have hstart : Represents codec [] .empty := ⟨rfl, fun _ h => absurd h List.not_mem_nil⟩
  obtain ⟨hend, houts⟩ := Trajectory.related_run
    (R := Represents codec)
    (A := fun w : StoreWrite => ∀ order ∈ w.order?, codec.parse (codec.serialize order) = order)
    (fun t s w h hw => Represents.step (w := w) h hw) hstart hcodec
  exact ⟨houts, fun localId fault hid => hend.getOrder_eq hid fault, hend.getOpenOrders_eq,
    hend.getOrdersByStatus_eq, fun row hrow => (hend.sound row hrow).repeated⟩

end Columns

/-- An order to buy ten shares. -/
def tenShares : V1.Order :=
  { id := "A", symbol := "AAPL", side := .buy, quantity := 10, type := .market }

/-- The bytes that protobuf makes of the order. -/
def tenSharesBytes : List UInt8 :=
  [0x0A, 0x01, 0x41, 0x12, 0x04, 0x41, 0x41, 0x50, 0x4C, 0x18, 0x01,
    0x21, 0x00, 0x00, 0x00, 0x00, 0x00, 0x00, 0x24, 0x40, 0x30, 0x01]

/-- Protobuf, on this order and on the one without fields. -/
def tenSharesCodec : OrderCodec (List UInt8) where
  serialize order := if order = tenShares then tenSharesBytes else []
  parse bytes := if bytes = tenSharesBytes then tenShares else {}

/-- The order is stored, gets a broker id with a zero byte, and is filled and reversed. -/
def filledAndReversed : List StoreWrite :=
  [.storeOrder { order := tenShares, status := .pendingSubmission, localId := "A", createdAt := "" }
    none,
    .updateBrokerId "A" "B1\x00B2" "" none,
    .applyFill { localId := "A", filledQuantity := 10, avgPrice := 100, newStatus := .filled },
    .applyFill { localId := "A", filledQuantity := -10, avgPrice := 100, newStatus := .filled }]

/-- The average of the reversed order is `NULL`, and it is read as by the store. -/
theorem columns_refine_store_reversed :
    let t := Trajectory.run (OrdersTable.after tenSharesCodec) [] filledAndReversed
    let s := Trajectory.run SQLiteOrderStore.after .empty (filledAndReversed.map StoreWrite.cut)
    t.map OrderRow.avgFillPrice = [none] ∧ t.map OrderRow.brokerId = [some "B1"] ∧
      t.getOrder tenSharesCodec "A" none = s.getOrder "A" none := by
  intro t s
  exact ⟨by decide +kernel, by decide +kernel,
    (columns_refine_store tenSharesCodec filledAndReversed (by decide +kernel)).2.1 "A" none
      (by decide +kernel)⟩

end Quarcc
