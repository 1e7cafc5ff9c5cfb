import QuarccEngine.Contracts
import QuarccEngine.Library.Table
import QuarccEngine.Persistence.CStrings
import Mathlib.Data.List.Sort
import Mathlib.Data.Rat.Cast.Order

/-!
# The order store

`i_order_store.h` and `sqlite_order_store.cpp`: the table `orders` and the statements run on it.

The schema makes `local_id` the primary key and `broker_id` unique, so both are fields of the
table's type.  A statement either fails, with the text of `sqlite3_errmsg`, and leaves the rows as
they are, or takes effect as SQL specifies; in particular an `UPDATE` that matches no row succeeds.
The columns that only repeat fields of the serialized order are never read and are left out.

Texts are bound up to their first zero byte.  Only of a broker id is this more than a formality
here:  the local ids and the texts of the clocks are the engine's own and have no zero byte.
-/

namespace Quarcc

/-! ## Order status -/

/-- `OrderStatus` of `i_order_store.h`, the status of a stored order. -/
inductive OrderStatus where
  | pendingSubmission
  | submitted
  | accepted
  | partiallyFilled
  | filled
  | cancelled
  | replaced
  | rejected
  | expired
  deriving DecidableEq, Repr

/-- `order_status_to_string`, the text in the column `status`. -/
def orderStatusToString : OrderStatus → String
  | .pendingSubmission => "PENDING_SUBMISSION"
  | .submitted => "SUBMITTED"
  | .accepted => "ACCEPTED"
  | .partiallyFilled => "PARTIALLY_FILLED"
  | .filled => "FILLED"
  | .cancelled => "CANCELLED"
  | .replaced => "REPLACED"
  | .rejected => "REJECTED"
  | .expired => "EXPIRED"

/-- `order_status_from_string`; the argument is `none` for a null pointer. -/
def orderStatusFromString : Option String → OrderStatus
  | none => .pendingSubmission
  | some s =>
    if s = "SUBMITTED" then .submitted
    else if s = "ACCEPTED" then .accepted
    else if s = "PARTIALLY_FILLED" then .partiallyFilled
    else if s = "FILLED" then .filled
    else if s = "CANCELLED" then .cancelled
    else if s = "REPLACED" then .replaced
    else if s = "REJECTED" then .rejected
    else if s = "EXPIRED" then .expired
    else .pendingSubmission

/-- A status survives the way through the text column, so the rows below keep it as it is. -/
theorem orderStatusFromString_toString (status : OrderStatus) :
    orderStatusFromString (some (orderStatusToString status)) = status := by
  cases status <;> decide +kernel

/-- The statuses that `get_open_orders` selects. -/
def OrderStatus.isOpen : OrderStatus → Bool
  | .pendingSubmission | .submitted | .accepted | .partiallyFilled => true
  | .filled | .cancelled | .replaced | .rejected | .expired => false

/-! ## Rows -/

/-- `StoredOrder`, a row of the table. -/
structure StoredOrder where
  order : V1.Order
  status : OrderStatus
  localId : LocalOrderId
  brokerId : Option BrokerOrderId := none
  createdAt : String
  updatedAt : Option String := none
  filledQuantity : ℚ := 0
  avgFillPrice : ℚ := 0
  deriving DecidableEq

namespace StoredOrder

/-- What `update_order_status` writes. -/
def withStatus (status : OrderStatus) (now : String) (row : StoredOrder) : StoredOrder :=
  { row with status := status, updatedAt := some now }

/-- What `update_broker_id` writes. -/
def withBrokerId (broker : BrokerOrderId) (now : String) (row : StoredOrder) : StoredOrder :=
  { row with brokerId := some broker, updatedAt := some now }

/-- What `apply_fill` writes.  The right-hand sides of the `UPDATE` read the old row.  A division by
zero gives `NULL` in SQL, which is read back as zero. -/
def withFill (quantity price : ℚ) (status : OrderStatus) (now : String) (row : StoredOrder) :
    StoredOrder :=
  { row with
    avgFillPrice :=
      if row.filledQuantity = 0 then price
      else (row.avgFillPrice * row.filledQuantity + price * quantity) /
        (row.filledQuantity + quantity)
    filledQuantity := row.filledQuantity + quantity
    status := status
    updatedAt := some now }

/-- The values of the columns that `store_order` writes: a broker id ends before its first zero
byte, and `updated_at` is null. -/
def bound (row : StoredOrder) : StoredOrder :=
  { row with brokerId := row.brokerId.map cStr, updatedAt := none }

end StoredOrder

/-! ## The table -/

/-- The table `orders` of `SQLiteOrderStore`. -/
structure SQLiteOrderStore where
  /-- The rows, in the order of their insertion. -/
  rows : List StoredOrder
  /-- `local_id TEXT PRIMARY KEY`. -/
  localId_nodup : (rows.map StoredOrder.localId).Nodup
  /-- `broker_id TEXT UNIQUE`; null values are not compared. -/
  brokerId_unique : ∀ row ∈ rows, ∀ row' ∈ rows, ∀ broker,
    row.brokerId = some broker → row'.brokerId = some broker → row.localId = row'.localId

/-- A failure of SQLite to prepare or to run a statement, with the text of `sqlite3_errmsg`. -/
inductive SqliteFault where
  | prepare (errmsg : String)
  | step (errmsg : String)
  deriving DecidableEq, Repr

/-- The error a statement reports, given the texts for its two ways to fail. -/
def SqliteFault.toError (prepareText stepText : String) : SqliteFault → Error
  | .prepare errmsg => ⟨prepareText ++ errmsg, .error⟩
  | .step errmsg => ⟨stepText ++ errmsg, .error⟩

namespace SQLiteOrderStore

/-- The table without rows. -/
def empty : SQLiteOrderStore where
  rows := []
  localId_nodup := List.nodup_nil
  brokerId_unique := by simp

/-- The row with the given primary key. -/
def find (s : SQLiteOrderStore) (localId : LocalOrderId) : Option StoredOrder :=
  Table.find StoredOrder.localId s.rows localId

/-- The rows with a status that `get_open_orders` selects. -/
def openRows (s : SQLiteOrderStore) : List StoredOrder :=
  s.rows.filter fun row => row.status.isOpen

/-- A row of the table carries the broker id. -/
def Carries (s : SQLiteOrderStore) (broker : BrokerOrderId) : Prop :=
  ∃ row ∈ s.rows, row.brokerId = some broker

instance (s : SQLiteOrderStore) (broker : BrokerOrderId) : Decidable (s.Carries broker) :=
  inferInstanceAs (Decidable (∃ row ∈ s.rows, row.brokerId = some broker))

@[simp] lemma find_empty (localId : LocalOrderId) : empty.find localId = none := rfl

variable {s s' : SQLiteOrderStore}

lemma localId_of_find {localId : LocalOrderId} {row : StoredOrder}
    (h : s.find localId = some row) : row.localId = localId :=
  Table.key_of_find h

lemma mem_of_find {localId : LocalOrderId} {row : StoredOrder} (h : s.find localId = some row) :
    row ∈ s.rows :=
  Table.mem_of_find h

lemma find_of_mem {row : StoredOrder} (h : row ∈ s.rows) : s.find row.localId = some row :=
  Table.find_of_mem s.localId_nodup h

/-- At most one row carries a given broker id. -/
lemma eq_of_brokerId {l l' : LocalOrderId} {row row' : StoredOrder} {broker : BrokerOrderId}
    (h : s.find l = some row) (h' : s.find l' = some row') (hb : row.brokerId = some broker)
    (hb' : row'.brokerId = some broker) : l = l' := by
  rw [← localId_of_find h, ← localId_of_find h']
  exact s.brokerId_unique row (mem_of_find h) row' (mem_of_find h') broker hb hb'

/-- A broker id is carried exactly when a row found under some local id has it. -/
lemma carries_iff {broker : BrokerOrderId} :
    s.Carries broker ↔ ∃ l row, s.find l = some row ∧ row.brokerId = some broker := by
  constructor
  · rintro ⟨row, hrow, hb⟩
    exact ⟨row.localId, row, find_of_mem hrow, hb⟩
  · rintro ⟨l, row, hrow, hb⟩
    exact ⟨row, mem_of_find hrow, hb⟩

/-! ## Updates -/

/-- An update of the row with the given primary key that touches neither key column. -/
def modify (s : SQLiteOrderStore) (localId : LocalOrderId) (f : StoredOrder → StoredOrder)
    (hl : ∀ row, (f row).localId = row.localId) (hb : ∀ row, (f row).brokerId = row.brokerId) :
    SQLiteOrderStore where
  rows := Table.modify StoredOrder.localId s.rows localId f
  localId_nodup := by
    rw [Table.map_modify hl]
    exact s.localId_nodup
  brokerId_unique := by
    have hkeys : ∀ row ∈ Table.modify StoredOrder.localId s.rows localId f,
        ∃ row₀ ∈ s.rows, row.localId = row₀.localId ∧ row.brokerId = row₀.brokerId := by
      intro row hrow
      rcases Table.mem_modify hrow with ⟨hrow₀, -⟩ | ⟨row₀, hrow₀, -, rfl⟩
      · exact ⟨row, hrow₀, rfl, rfl⟩
      · exact ⟨row₀, hrow₀, hl row₀, hb row₀⟩
    intro row hrow row' hrow' broker h h'
    obtain ⟨row₀, hrow₀, hlocal, hbroker⟩ := hkeys row hrow
    obtain ⟨row₁, hrow₁, hlocal', hbroker'⟩ := hkeys row' hrow'
    rw [hlocal, hlocal']
    exact s.brokerId_unique row₀ hrow₀ row₁ hrow₁ broker (hbroker ▸ h) (hbroker' ▸ h')

/-- Selecting after an update. -/
lemma find_modify {f : StoredOrder → StoredOrder} (hl : ∀ row, (f row).localId = row.localId)
    (hb : ∀ row, (f row).brokerId = row.brokerId) (localId l : LocalOrderId) :
    (s.modify localId f hl hb).find l =
      if l = localId then (s.find l).map f else s.find l :=
  Table.find_modify hl s.rows localId l

/-- An update that touches no key column keeps the broker ids that are carried. -/
lemma carries_modify {f : StoredOrder → StoredOrder} (hl : ∀ row, (f row).localId = row.localId)
    (hb : ∀ row, (f row).brokerId = row.brokerId) (localId : LocalOrderId)
    (broker : BrokerOrderId) :
    (s.modify localId f hl hb).Carries broker ↔ s.Carries broker := by
  have hcolumn : (s.modify localId f hl hb).rows.map StoredOrder.brokerId =
      s.rows.map StoredOrder.brokerId := Table.map_modify hb s.rows localId
  have hmem : ∀ t : SQLiteOrderStore, t.Carries broker ↔
      some broker ∈ t.rows.map StoredOrder.brokerId := by
    intro t
    simp [Carries]
  rw [hmem, hmem, hcolumn]

/-- The table after a successful `update_order_status`. -/
def setStatus (s : SQLiteOrderStore) (localId : LocalOrderId) (status : OrderStatus)
    (now : String) : SQLiteOrderStore :=
  s.modify localId (StoredOrder.withStatus status now) (fun _ => rfl) fun _ => rfl

/-- The table after a successful `apply_fill`. -/
def addFill (s : SQLiteOrderStore) (localId : LocalOrderId) (quantity price : ℚ)
    (status : OrderStatus) (now : String) : SQLiteOrderStore :=
  s.modify localId (StoredOrder.withFill quantity price status now) (fun _ => rfl) fun _ => rfl

@[simp] lemma find_setStatus (localId l : LocalOrderId) (status : OrderStatus) (now : String) :
    (s.setStatus localId status now).find l =
      if l = localId then (s.find l).map (StoredOrder.withStatus status now) else s.find l :=
  find_modify _ _ localId l

/-- `update_order_status` leaves the other rows alone. -/
lemma find_setStatus_of_ne {localId l : LocalOrderId} (hl : l ≠ localId) (status : OrderStatus)
    (now : String) : (s.setStatus localId status now).find l = s.find l := by
  rw [find_setStatus, if_neg hl]

/-- `update_order_status` deletes no row. -/
lemma find_setStatus_ne_none {localId l : LocalOrderId} (status : OrderStatus) (now : String)
    (h : s.find l ≠ none) : (s.setStatus localId status now).find l ≠ none := by
  rw [find_setStatus]
  split_ifs
  · rwa [Ne, Option.map_eq_none_iff]
  · exact h

@[simp] lemma find_addFill (localId l : LocalOrderId) (quantity price : ℚ) (status : OrderStatus)
    (now : String) :
    (s.addFill localId quantity price status now).find l =
      if l = localId then (s.find l).map (StoredOrder.withFill quantity price status now)
      else s.find l :=
  find_modify _ _ localId l

/-- `apply_fill` leaves the other rows alone. -/
lemma find_addFill_of_ne {localId l : LocalOrderId} (hl : l ≠ localId) (quantity price : ℚ)
    (status : OrderStatus) (now : String) :
    (s.addFill localId quantity price status now).find l = s.find l := by
  rw [find_addFill, if_neg hl]

/-- A status update of an order that is stored. -/
lemma find_setStatus_of_find {s : SQLiteOrderStore} {localId : LocalOrderId} {row : StoredOrder}
    (h : s.find localId = some row) (status : OrderStatus) (now : String) (l : LocalOrderId) :
    (s.setStatus localId status now).find l =
      if l = localId then some (row.withStatus status now) else s.find l := by
  rw [find_setStatus]
  by_cases hl : l = localId
  · rw [if_pos hl, if_pos hl, hl, h, Option.map_some]
  · rw [if_neg hl, if_neg hl]

/-- A fill of an order that is stored. -/
lemma find_addFill_of_find {s : SQLiteOrderStore} {localId : LocalOrderId} {row : StoredOrder}
    (h : s.find localId = some row) (quantity price : ℚ) (status : OrderStatus) (now : String)
    (l : LocalOrderId) :
    (s.addFill localId quantity price status now).find l =
      if l = localId then some (row.withFill quantity price status now) else s.find l := by
  rw [find_addFill]
  by_cases hl : l = localId
  · rw [if_pos hl, if_pos hl, hl, h, Option.map_some]
  · rw [if_neg hl, if_neg hl]

/-- `apply_fill` deletes no row. -/
lemma find_addFill_ne_none {localId l : LocalOrderId} (quantity price : ℚ) (status : OrderStatus)
    (now : String) (h : s.find l ≠ none) :
    (s.addFill localId quantity price status now).find l ≠ none := by
  rw [find_addFill]
  split_ifs
  · rwa [Ne, Option.map_eq_none_iff]
  · exact h

@[simp] lemma carries_setStatus (localId : LocalOrderId) (status : OrderStatus) (now : String)
    (broker : BrokerOrderId) :
    (s.setStatus localId status now).Carries broker ↔ s.Carries broker :=
  carries_modify _ _ localId broker

@[simp] lemma carries_addFill (localId : LocalOrderId) (quantity price : ℚ) (status : OrderStatus)
    (now : String) (broker : BrokerOrderId) :
    (s.addFill localId quantity price status now).Carries broker ↔ s.Carries broker :=
  carries_modify _ _ localId broker

/-! ## Statements -/

/-- `UNIQUE constraint failed`, as SQLite words it. -/
def uniqueFailed (text column : String) : Error :=
  ⟨text ++ "UNIQUE constraint failed: orders." ++ column, .error⟩

/-- `store_order`. -/
def storeOrder (s : SQLiteOrderStore) (order : StoredOrder) (fault : Option SqliteFault) :
    Result SQLiteOrderStore :=
  match fault with
  | some f => .error (f.toError "Failed to prepare insert statement: " "Failed to insert order: ")
  | none =>
    if hl : order.localId ∈ s.rows.map StoredOrder.localId then
      .error (uniqueFailed "Failed to insert order: " "local_id")
    else if hb : ∃ row ∈ s.rows, row.brokerId = order.bound.brokerId ∧
        order.bound.brokerId ≠ none then
      .error (uniqueFailed "Failed to insert order: " "broker_id")
    else
      .ok
        { rows := s.rows ++ [order.bound]
          localId_nodup := by
            rw [List.map_append, List.nodup_append']
            refine ⟨s.localId_nodup, by simp, ?_⟩
            simpa [StoredOrder.bound] using hl
          brokerId_unique := by
            have hnew : ∀ row ∈ s.rows, ∀ broker, row.brokerId = some broker →
                order.bound.brokerId ≠ some broker := by
              intro row hrow broker h h'
              exact hb ⟨row, hrow, h.trans h'.symm, by simp [h']⟩
            intro row hrow row' hrow' broker h h'
            rw [List.mem_append, List.mem_singleton] at hrow hrow'
            rcases hrow with hrow | rfl <;> rcases hrow' with hrow' | rfl
            · exact s.brokerId_unique row hrow row' hrow' broker h h'
            · exact absurd h' (hnew row hrow broker h)
            · exact absurd h (hnew row' hrow' broker h')
            · rfl }

/-- `update_order_status`. -/
def updateOrderStatus (s : SQLiteOrderStore) (localId : LocalOrderId) (newStatus : OrderStatus)
    (now : String) (fault : Option SqliteFault) : Result SQLiteOrderStore :=
  match fault with
  | some f =>
    .error (f.toError "Failed to prepare update statement: " "Failed to update order status: ")
  | none => .ok (s.setStatus localId newStatus now)

/-- `update_broker_id`: the unique index refuses an id that another row carries, as it is bound. -/
def updateBrokerId (s : SQLiteOrderStore) (localId : LocalOrderId) (broker : BrokerOrderId)
    (now : String) (fault : Option SqliteFault) : Result SQLiteOrderStore :=
  match fault with
  | some f =>
    .error (f.toError "Failed to prepare update statement: " "Failed to update broker ID: ")
  | none =>
    if h : localId ∈ s.rows.map StoredOrder.localId ∧
        ∃ row ∈ s.rows, row.localId ≠ localId ∧ row.brokerId = some (cStr broker) then
      .error (uniqueFailed "Failed to update broker ID: " "broker_id")
    else
      .ok
        { rows := Table.modify StoredOrder.localId s.rows localId
            (StoredOrder.withBrokerId (cStr broker) now)
          localId_nodup := by
            have hkeep : ∀ row,
                (StoredOrder.withBrokerId (cStr broker) now row).localId = row.localId :=
              fun _ => rfl
            rw [Table.map_modify hkeep]
            exact s.localId_nodup
          brokerId_unique := by
            have hother : ∀ row ∈ s.rows, row.localId ≠ localId → ∀ row₀ ∈ s.rows,
                row₀.localId = localId → row.brokerId ≠ some (cStr broker) := by
              intro row hrow hne row₀ hrow₀ hl hbroker
              exact h ⟨hl ▸ List.mem_map_of_mem hrow₀, row, hrow, hne, hbroker⟩
            intro row hrow row' hrow' b hb hb'
            rcases Table.mem_modify hrow with ⟨hrow, hne⟩ | ⟨row₀, hrow₀, hl, rfl⟩ <;>
              rcases Table.mem_modify hrow' with ⟨hrow', hne'⟩ | ⟨row₁, hrow₁, hl', rfl⟩
            · exact s.brokerId_unique row hrow row' hrow' b hb hb'
            · exact absurd (hb.trans hb'.symm) (hother row hrow hne row₁ hrow₁ hl')
            · exact absurd (hb'.trans hb.symm) (hother row' hrow' hne' row₀ hrow₀ hl)
            · exact hl.trans hl'.symm }

/-- `apply_fill`, with exact sums. -/
def applyFill (s : SQLiteOrderStore) (localId : LocalOrderId) (filledQuantity avgPrice : ℚ)
    (newStatus : OrderStatus) (now : String) (fault : Option SqliteFault) :
    Result SQLiteOrderStore :=
  match fault with
  | some f => .error (f.toError "Failed to prepare apply_fill statement: " "Failed to apply fill: ")
  | none => .ok (s.addFill localId filledQuantity avgPrice newStatus now)

/-- `get_order`: a row that is not there and a failure while reading it are reported alike. -/
def getOrder (s : SQLiteOrderStore) (localId : LocalOrderId) (fault : Option SqliteFault) :
    Result StoredOrder :=
  match fault with
  | some (.prepare errmsg) => .error ⟨"Failed to prepare select statement: " ++ errmsg, .error⟩
  | some (.step _) => .error ⟨"Order not found: " ++ localId, .error⟩
  | none =>
    match s.find localId with
    | some row => .ok row
    | none => .error ⟨"Order not found: " ++ localId, .error⟩

/-- `get_open_orders`, by time of creation; rows created at the same time come in the order of their
insertion.  A failure ends the reading: with `readLimit` only so many rows are returned, none when
the statement could not be prepared. -/
def getOpenOrders (s : SQLiteOrderStore) (readLimit : Option ℕ) : List StoredOrder :=
  let sorted := s.openRows.insertionSort fun row row' => row.createdAt ≤ row'.createdAt
  match readLimit with
  | none => sorted
  | some n => sorted.take n

/-! ## What a successful insertion does -/

/-- The table `s'` is `s` with a row added whose keys are new. -/
structure Inserted (s : SQLiteOrderStore) (row : StoredOrder) (s' : SQLiteOrderStore) : Prop where
  /-- No row has the primary key of the new one. -/
  fresh : s.find row.localId = none
  /-- No row carries the broker id of the new one. -/
  broker_fresh : ∀ broker, row.brokerId = some broker → ¬ s.Carries broker
  /-- The new row comes last. -/
  rows_eq : s'.rows = s.rows ++ [row]

variable {s s₁ s₂ : SQLiteOrderStore} {row : StoredOrder}

/-- A row is not found exactly when its primary key is not in the table. -/
lemma find_eq_none_iff {localId : LocalOrderId} :
    s.find localId = none ↔ localId ∉ s.rows.map StoredOrder.localId :=
  Table.find_eq_none_iff

/-- Selecting after an insertion. -/
lemma Inserted.find (h : Inserted s row s₁) (localId : LocalOrderId) :
    s₁.find localId = if localId = row.localId then some row else s.find localId := by
  unfold SQLiteOrderStore.find
  rw [h.rows_eq]
  exact Table.find_append (find_eq_none_iff.mp h.fresh) localId

/-- An insertion keeps the rows that are there. -/
lemma Inserted.find_of_find (h : Inserted s row s₁) {localId : LocalOrderId} {other : StoredOrder}
    (hother : s.find localId = some other) : s₁.find localId = some other := by
  have hne : localId ≠ row.localId := by
    rintro rfl
    rw [h.fresh] at hother
    cases hother
  rw [h.find, if_neg hne, hother]

/-- An insertion deletes no row. -/
lemma Inserted.find_ne_none (h : Inserted s row s₁) {localId : LocalOrderId}
    (hother : s.find localId ≠ none) : s₁.find localId ≠ none := by
  obtain ⟨other, hfind⟩ := Option.ne_none_iff_exists'.mp hother
  rw [h.find_of_find hfind]
  simp

/-- Updating the row that was inserted last is inserting the updated row. -/
lemma modify_append_last {f : StoredOrder → StoredOrder} (h : Inserted s row s₁) :
    Table.modify StoredOrder.localId s₁.rows row.localId f = s.rows ++ [f row] := by
  have hold := Table.modify_of_find_none h.fresh f
  rw [h.rows_eq]
  unfold Table.modify at hold ⊢
  rw [List.map_append, hold]
  simp

/-- A status update of the row that was inserted last. -/
lemma Inserted.setStatus (h : Inserted s row s₁) (status : OrderStatus) (now : String) :
    Inserted s (row.withStatus status now) (s₁.setStatus row.localId status now) where
  fresh := h.fresh
  broker_fresh := h.broker_fresh
  rows_eq := modify_append_last h

/-- `store_order` succeeds exactly when it is not made to fail and both keys are new. -/
lemma storeOrder_eq_ok {fault : Option SqliteFault} (h : s.storeOrder row fault = .ok s₁) :
    fault = none ∧ Inserted s row.bound s₁ := by
  unfold storeOrder at h
  cases fault with
  | some f => simp at h
  | none =>
    split_ifs at h with hl hb
    have hs := Except.ok.inj h
    refine ⟨rfl, ?_, ?_, ?_⟩
    · exact find_eq_none_iff.mpr hl
    · rintro broker hbroker ⟨other, hother, hcarried⟩
      exact hb ⟨other, hother, hcarried.trans hbroker.symm, by simp [hbroker]⟩
    · rw [← hs]

/-- A statement that is not made to fail inserts a row whose keys are new. -/
lemma storeOrder_of_fresh (hl : s.find row.localId = none)
    (hb : ∀ broker, row.brokerId = some broker → ¬ s.Carries (cStr broker)) :
    ∃ s', s.storeOrder row none = .ok s' := by
  have hb' : ¬ ∃ other ∈ s.rows, other.brokerId = row.bound.brokerId ∧
      row.bound.brokerId ≠ none := by
    rintro ⟨other, hother, heq, hsome⟩
    obtain ⟨bound, hbound⟩ := Option.ne_none_iff_exists'.mp hsome
    obtain ⟨broker, hbroker, rfl⟩ := Option.map_eq_some_iff.mp hbound
    exact hb broker hbroker ⟨other, hother, heq.trans hbound⟩
  unfold storeOrder
  rw [dif_neg (find_eq_none_iff.mp hl), dif_neg hb']
  exact ⟨_, rfl⟩

/-- `update_broker_id` on the row that was inserted last. -/
lemma updateBrokerId_eq_ok {broker : BrokerOrderId} {now : String} {fault : Option SqliteFault}
    (hins : Inserted s row s₁)
    (h : s₁.updateBrokerId row.localId broker now fault = .ok s₂) :
    fault = none ∧ Inserted s (row.withBrokerId (cStr broker) now) s₂ := by
  unfold updateBrokerId at h
  cases fault with
  | some f => simp at h
  | none =>
    split_ifs at h with hused
    have hs := Except.ok.inj h
    refine ⟨rfl, hins.fresh, ?_, ?_⟩
    · rintro b hb ⟨other, hother, hcarried⟩
      obtain rfl : cStr broker = b := Option.some.inj hb
      have hlast : row ∈ s₁.rows := by simp [hins.rows_eq]
      have hold : other ∈ s₁.rows := by simp [hins.rows_eq, hother]
      refine hused ⟨List.mem_map_of_mem hlast, other, hold, ?_, hcarried⟩
      intro heq
      exact find_eq_none_iff.mp hins.fresh (heq ▸ List.mem_map_of_mem hother)
    · rw [← hs]
      exact modify_append_last hins

/-- `update_broker_id` on the row that was inserted last succeeds when no older row carries the
id. -/
lemma updateBrokerId_of_fresh {broker : BrokerOrderId} (now : String) (hins : Inserted s row s₁)
    (hb : ¬ s.Carries (cStr broker)) :
    ∃ s₂, s₁.updateBrokerId row.localId broker now none = .ok s₂ := by
  have hfree : ¬ (row.localId ∈ s₁.rows.map StoredOrder.localId ∧
      ∃ other ∈ s₁.rows, other.localId ≠ row.localId ∧ other.brokerId = some (cStr broker)) := by
    rintro ⟨-, other, hother, hne, hcarried⟩
    rw [hins.rows_eq, List.mem_append, List.mem_singleton] at hother
    rcases hother with hother | rfl
    · exact hb ⟨other, hother, hcarried⟩
    · exact hne rfl
  unfold updateBrokerId
  rw [dif_neg hfree]
  exact ⟨_, rfl⟩

/-- What `get_order` returns is the row with the primary key. -/
lemma getOrder_eq_ok {localId : LocalOrderId} {fault : Option SqliteFault} {order : StoredOrder}
    (h : s.getOrder localId fault = .ok order) : fault = none ∧ s.find localId = some order := by
  unfold getOrder at h
  rcases fault with - | (errmsg | errmsg)
  · cases hrow : s.find localId with
    | none => simp [hrow] at h
    | some row =>
      rw [hrow] at h
      exact ⟨rfl, congrArg some (Except.ok.inj h)⟩
  · simp at h
  · simp at h

/-- The rows that `get_open_orders` returns are rows with an open status. -/
lemma mem_getOpenOrders {readLimit : Option ℕ} {order : StoredOrder}
    (h : order ∈ s.getOpenOrders readLimit) : order ∈ s.rows ∧ order.status.isOpen = true := by
  have hsorted : order ∈ s.openRows.insertionSort fun row row' =>
      row.createdAt ≤ row'.createdAt := by
    unfold getOpenOrders at h
    cases readLimit with
    | none => exact h
    | some n => exact List.mem_of_mem_take h
  rw [List.mem_insertionSort] at hsorted
  exact List.mem_filter.mp hsorted

/-- Without a failure `get_open_orders` returns every row with an open status. -/
lemma mem_getOpenOrders_iff {order : StoredOrder} :
    order ∈ s.getOpenOrders none ↔ order ∈ s.rows ∧ order.status.isOpen = true := by
  refine ⟨mem_getOpenOrders, fun h => ?_⟩
  unfold getOpenOrders
  rw [List.mem_insertionSort]
  exact List.mem_filter.mpr h

/-- `get_open_orders` returns no order twice. -/
lemma getOpenOrders_nodup (readLimit : Option ℕ) :
    ((s.getOpenOrders readLimit).map StoredOrder.localId).Nodup := by
  have hopen : (s.openRows.map StoredOrder.localId).Nodup :=
    s.localId_nodup.sublist (List.filter_sublist.map _)
  have hsorted : ((s.openRows.insertionSort fun row row' =>
      row.createdAt ≤ row'.createdAt).map StoredOrder.localId).Nodup :=
    ((List.perm_insertionSort _ _).map _).nodup_iff.mpr hopen
  unfold getOpenOrders
  cases readLimit with
  | none => exact hsorted
  | some n => exact hsorted.sublist ((List.take_sublist n _).map _)

end SQLiteOrderStore

end Quarcc
