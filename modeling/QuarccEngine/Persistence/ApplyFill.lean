import QuarccEngine.Library.AverageCost
import QuarccEngine.Library.Trajectory
import QuarccEngine.Persistence.OrderStore

/-!
# The statement of `apply_fill`

`apply_fill` of `sqlite_order_store.cpp` is one `UPDATE` with seven parameters, which are bound by
their numbers.  The first part is the statement as it is written: its parameters, what is bound to
them, and the columns that it sets, whose right-hand sides read the old row.  It writes what
`StoredOrder.withFill` says.

The second part follows the row of an order through any calls of `apply_fill`, those on other orders
and those that fail among them: the filled quantity and the cost of the fills are sums, and the
average price is their quotient.
-/

namespace Quarcc

/-! ## The statement -/

/-- The parameters of the `UPDATE`, by their numbers. -/
structure ApplyFillParams where
  p1 : ℚ
  p2 : ℚ
  p3 : ℚ
  p4 : ℚ
  p5 : ℚ
  p6 : String
  p7 : LocalOrderId

/-- The division of SQL, where a quotient by zero is `NULL`. -/
def sqlDiv (x y : ℚ) : Option ℚ := if y = 0 then none else some (x / y)

namespace ApplyFillParams

variable (params : ApplyFillParams) (row : StoredOrder)

/-- The `CASE` expression for `avg_fill_price`. -/
def avgFillPrice : Option ℚ :=
  if row.filledQuantity = 0 then some params.p1
  else sqlDiv (row.avgFillPrice * row.filledQuantity + params.p2 * params.p3)
    (row.filledQuantity + params.p4)

/-- The `SET` clause.  A `NULL` is read back as zero. -/
def set (now : String) : StoredOrder :=
  { row with
    avgFillPrice := (params.avgFillPrice row).getD 0
    filledQuantity := row.filledQuantity + params.p5
    status := orderStatusFromString (some params.p6)
    updatedAt := some now }

/-- The `UPDATE`, which sets the rows with `local_id = ?`. -/
def update (rows : List StoredOrder) (now : String) : List StoredOrder :=
  rows.map fun row => if row.localId = params.p7 then params.set row now else row

end ApplyFillParams

/-- The arguments of a call of `apply_fill`, with its time and the failure of SQLite, if any. -/
structure ApplyFill where
  localId : LocalOrderId
  filledQuantity : ℚ
  avgPrice : ℚ
  newStatus : OrderStatus
  now : String := ""
  fault : Option SqliteFault := none

/-- The parameters that a call binds. -/
def ApplyFill.params (call : ApplyFill) : ApplyFillParams where
  p1 := call.avgPrice
  p2 := call.avgPrice
  p3 := call.filledQuantity
  p4 := call.filledQuantity
  p5 := call.filledQuantity
  p6 := orderStatusToString call.newStatus
  p7 := call.localId

namespace ApplyFill

variable (call : ApplyFill) (row : StoredOrder)

/-- The average price is a running average, except where the statement divides by zero. -/
lemma avgFillPrice_eq :
    call.params.avgFillPrice row =
      if row.filledQuantity ≠ 0 ∧ row.filledQuantity + call.filledQuantity = 0 then none
      else some (AverageCost.runningAverage row.filledQuantity row.avgFillPrice call.filledQuantity
        call.avgPrice) := by
  unfold ApplyFillParams.avgFillPrice AverageCost.runningAverage sqlDiv params
  dsimp only
  by_cases hzero : row.filledQuantity = 0
  · rw [if_pos hzero, if_neg fun h => h.1 hzero, if_pos hzero]
  · rw [if_neg hzero, if_neg hzero]
    by_cases hsum : row.filledQuantity + call.filledQuantity = 0
    · rw [if_pos hsum, if_pos ⟨hzero, hsum⟩]
    · rw [if_neg hsum, if_neg fun h => hsum h.2]

/-- What the statement writes is what `withFill` says. -/
theorem set_params (now : String) :
    call.params.set row now =
      row.withFill call.filledQuantity call.avgPrice call.newStatus now := by
  have hstatus : orderStatusFromString (some call.params.p6) = call.newStatus :=
    orderStatusFromString_toString call.newStatus
  unfold ApplyFillParams.set StoredOrder.withFill
  rw [hstatus, avgFillPrice_eq]
  unfold AverageCost.runningAverage params
  congr 1
  by_cases hzero : row.filledQuantity = 0
  · rw [if_neg fun h => h.1 hzero, if_pos hzero, Option.getD_some]
  · rw [if_neg hzero]
    by_cases hsum : row.filledQuantity + call.filledQuantity = 0
    · rw [if_pos ⟨hzero, hsum⟩, hsum, div_zero, Option.getD_none]
    · rw [if_neg fun h => hsum h.2, Option.getD_some]

/-- The rows that a call of `apply_fill` leaves are those of the statement. -/
lemma rows_applyFill (s : SQLiteOrderStore) (now : String) :
    call.params.update s.rows now =
      (s.addFill call.localId call.filledQuantity call.avgPrice call.newStatus now).rows := by
  have hset : ∀ row, call.params.set row now =
      row.withFill call.filledQuantity call.avgPrice call.newStatus now :=
    fun row => call.set_params row now
  unfold ApplyFillParams.update
  simp only [hset]
  rfl

end ApplyFill

/-! ## Sequences of calls -/

namespace SQLiteOrderStore

/-- The store after a call of `apply_fill`, which leaves it alone when it fails. -/
def applied (s : SQLiteOrderStore) (call : ApplyFill) : SQLiteOrderStore :=
  match s.applyFill call.localId call.filledQuantity call.avgPrice call.newStatus call.now
      call.fault with
  | .ok s' => s'
  | .error _ => s

/-- The rows after the statement of a call, which changes none when it fails. -/
def updated (rows : List StoredOrder) (call : ApplyFill) : List StoredOrder :=
  match call.fault with
  | none => call.params.update rows call.now
  | some _ => rows

/-- **The statement and the store.**  Any calls of `apply_fill` leave the rows that their statements
leave. -/
theorem rows_run_applied (s : SQLiteOrderStore) (calls : List ApplyFill) :
    (Trajectory.run applied s calls).rows = Trajectory.run updated s.rows calls := by
  induction calls generalizing s with
  | nil => rfl
  | cons call calls ih =>
    have hrows : (s.applied call).rows = updated s.rows call := by
      unfold applied applyFill updated
      cases call.fault with
      | some fault => rfl
      | none => exact (call.rows_applyFill s call.now).symm
    rw [Trajectory.run_cons, Trajectory.run_cons, ih, hrows]

end SQLiteOrderStore

/-- The calls that fill an order: those on it that do not fail. -/
def ApplyFill.fillsOf (localId : LocalOrderId) (calls : List ApplyFill) : List ApplyFill :=
  calls.filter fun call => call.localId = localId ∧ call.fault = none

/-- The row `row'` is the row `row` after the given fills. -/
structure StoredOrder.Filled (row row' : StoredOrder) (fills : List ApplyFill) : Prop where
  quantity : row'.filledQuantity = row.filledQuantity + (fills.map ApplyFill.filledQuantity).sum
  cost : row'.avgFillPrice * row'.filledQuantity = row.avgFillPrice * row.filledQuantity +
    (fills.map fun fill => fill.filledQuantity * fill.avgPrice).sum
  status : row'.status = (fills.map ApplyFill.newStatus).getLast?.getD row.status
  others : row' =
    { row with
      avgFillPrice := row'.avgFillPrice
      filledQuantity := row'.filledQuantity
      status := row'.status
      updatedAt := row'.updatedAt }

namespace StoredOrder.Filled

variable {row row' : StoredOrder} {fills : List ApplyFill}

/-- A row without fills. -/
lemma refl : row.Filled row [] where
  quantity := by simp
  cost := by simp
  status := rfl
  others := rfl

/-- A fill of a positive quantity, and then the others. -/
lemma cons {fill : ApplyFill} (hnonneg : 0 ≤ row.filledQuantity) (hqty : 0 < fill.filledQuantity)
    (h : (row.withFill fill.filledQuantity fill.avgPrice fill.newStatus fill.now).Filled row'
      fills) : row.Filled row' (fill :: fills) where
  quantity := by
    rw [h.quantity, List.map_cons, List.sum_cons, ← add_assoc]
    rfl
  cost := by
    have hopen : row.filledQuantity = 0 ∨ row.filledQuantity + fill.filledQuantity ≠ 0 :=
      Or.inr (add_pos_of_nonneg_of_pos hnonneg hqty).ne'
    have hfirst : AverageCost.runningAverage row.filledQuantity row.avgFillPrice
        fill.filledQuantity fill.avgPrice * (row.filledQuantity + fill.filledQuantity) =
          row.avgFillPrice * row.filledQuantity + fill.avgPrice * fill.filledQuantity :=
      AverageCost.runningAverage_mul hopen
    have hrest := h.cost
    change _ = AverageCost.runningAverage row.filledQuantity row.avgFillPrice fill.filledQuantity
      fill.avgPrice * (row.filledQuantity + fill.filledQuantity) + _ at hrest
    rw [hrest, hfirst, List.map_cons, List.sum_cons, mul_comm fill.avgPrice, add_assoc]
  status := by
    rw [h.status, List.map_cons, List.getLast?_cons]
    rfl
  others := h.others

end StoredOrder.Filled

namespace SQLiteOrderStore

variable {s : SQLiteOrderStore} {localId : LocalOrderId}

/-- What a call does to the row of an order. -/
lemma find_applied (call : ApplyFill) (l : LocalOrderId) :
    (s.applied call).find l =
      if call.localId = l ∧ call.fault = none then
        (s.find l).map (StoredOrder.withFill call.filledQuantity call.avgPrice call.newStatus
          call.now)
      else s.find l := by
  unfold applied applyFill
  cases hfault : call.fault with
  | some fault => rw [if_neg fun h => Option.some_ne_none fault h.2]
  | none =>
    dsimp only
    rw [find_addFill]
    by_cases hl : l = call.localId
    · rw [if_pos hl, if_pos ⟨hl.symm, rfl⟩]
    · rw [if_neg hl, if_neg fun h => hl h.1.symm]

/-- The calls follow the row of an order with its fills. -/
lemma find_applieds {row : StoredOrder} {calls : List ApplyFill}
    (hrow : s.find localId = some row) (hnonneg : 0 ≤ row.filledQuantity)
    (hpos : ∀ call ∈ calls, 0 < call.filledQuantity) :
    ∃ row', (Trajectory.run applied s calls).find localId = some row' ∧
      row.Filled row' (ApplyFill.fillsOf localId calls) := by
  induction calls generalizing s row with
  | nil => exact ⟨row, hrow, .refl⟩
  | cons call calls ih =>
    have hqty : 0 < call.filledQuantity := hpos call List.mem_cons_self
    have hrest : ∀ c ∈ calls, 0 < c.filledQuantity := fun c hc =>
      hpos c (List.mem_cons_of_mem call hc)
    have hfind := find_applied (s := s) call localId
    rw [hrow] at hfind
    unfold ApplyFill.fillsOf
    by_cases hhere : call.localId = localId ∧ call.fault = none
    · rw [if_pos hhere] at hfind
      rw [List.filter_cons_of_pos (by simpa using hhere)]
      have hmore : 0 ≤ row.filledQuantity + call.filledQuantity := add_nonneg hnonneg hqty.le
      obtain ⟨row', hrow', hfilled⟩ := ih hfind hmore hrest
      exact ⟨row', hrow', hfilled.cons hnonneg hqty⟩
    · rw [if_neg hhere] at hfind
      rw [List.filter_cons_of_neg (by simpa using hhere)]
      exact ih hfind hnonneg hrest

/-- Rows that no call fills stay as they are. -/
lemma find_applieds_of_notMem {calls : List ApplyFill} {l : LocalOrderId}
    (h : ApplyFill.fillsOf l calls = []) :
    (Trajectory.run applied s calls).find l = s.find l := by
  induction calls generalizing s with
  | nil => rfl
  | cons call calls ih =>
    unfold ApplyFill.fillsOf at h
    rw [List.filter_eq_nil_iff] at h
    have hhere : ¬ (call.localId = l ∧ call.fault = none) := by
      simpa using h call List.mem_cons_self
    have hrest : ApplyFill.fillsOf l calls = [] :=
      List.filter_eq_nil_iff.mpr fun c hc => h c (List.mem_cons_of_mem call hc)
    rw [Trajectory.run_cons, ih hrest, find_applied, if_neg hhere]

/-- The statement finds a quotient for the row of an order. -/
def Divides (localId : LocalOrderId) (s : SQLiteOrderStore) (call : ApplyFill) : Prop :=
  call.localId = localId →
    ∀ row, s.find localId = some row → call.params.avgFillPrice row ≠ none

/-- A row with a filled quantity that is not negative is not divided by zero. -/
lemma divides_of_nonneg {call : ApplyFill}
    (h : ∀ row, s.find localId = some row → 0 ≤ row.filledQuantity)
    (hqty : 0 < call.filledQuantity) : Divides localId s call := by
  intro _ row hrow
  have hsum : 0 < row.filledQuantity + call.filledQuantity :=
    add_pos_of_nonneg_of_pos (h row hrow) hqty
  rw [call.avgFillPrice_eq, if_neg fun hzero => hsum.ne' hzero.2]
  exact Option.some_ne_none _

/-- A call of a positive quantity does not make a filled quantity negative. -/
lemma filledQuantity_applied {call : ApplyFill}
    (h : ∀ row, s.find localId = some row → 0 ≤ row.filledQuantity)
    (hqty : 0 < call.filledQuantity) (row : StoredOrder)
    (hrow : (s.applied call).find localId = some row) : 0 ≤ row.filledQuantity := by
  rw [find_applied] at hrow
  split_ifs at hrow
  · obtain ⟨row₀, hrow₀, rfl⟩ := Option.map_eq_some_iff.mp hrow
    exact add_nonneg (h row₀ hrow₀) hqty.le
  · exact h row hrow

/-- **`apply_fill` keeps a volume-weighted average.**  After any calls with positive quantities, on
whatever orders, the row of an order that was stored without fills has the sum of its fills as
filled quantity, their average as average price and the status of the last one; its other columns
and the rows without fills are as before, and the statement never divides by zero on the row. -/
theorem applyFill_average (s : SQLiteOrderStore) (localId : LocalOrderId) (row : StoredOrder)
    (hrow : s.find localId = some row) (hfresh : row.filledQuantity = 0) (calls : List ApplyFill)
    (hpos : ∀ call ∈ calls, 0 < call.filledQuantity) :
    (∃ row', (Trajectory.run applied s calls).find localId = some row' ∧
      row'.filledQuantity =
        ((ApplyFill.fillsOf localId calls).map ApplyFill.filledQuantity).sum ∧
      row'.avgFillPrice * row'.filledQuantity =
        ((ApplyFill.fillsOf localId calls).map fun fill =>
          fill.filledQuantity * fill.avgPrice).sum ∧
      row'.status =
        ((ApplyFill.fillsOf localId calls).map ApplyFill.newStatus).getLast?.getD row.status ∧
      row' =
        { row with
          avgFillPrice := row'.avgFillPrice
          filledQuantity := row'.filledQuantity
          status := row'.status
          updatedAt := row'.updatedAt }) ∧
      (∀ l, ApplyFill.fillsOf l calls = [] →
        (Trajectory.run applied s calls).find l = s.find l) ∧
      Trajectory.AllSteps applied (Divides localId) s calls := by
  refine ⟨?_, fun l hl => find_applieds_of_notMem hl, ?_⟩
  · obtain ⟨row', hrow', hfilled⟩ := find_applieds hrow hfresh.ge hpos
    have hquantity := hfilled.quantity
    have hcost := hfilled.cost
    rw [hfresh, zero_add] at hquantity
    rw [hfresh, mul_zero, zero_add] at hcost
    exact ⟨row', hrow', hquantity, hcost, hfilled.status, hfilled.others⟩
  · have hstart : ∀ r, s.find localId = some r → 0 ≤ r.filledQuantity := by
      intro r hr
      obtain rfl : row = r := Option.some.inj (hrow.symm.trans hr)
      exact hfresh.ge
    exact Trajectory.allSteps_of_invariant
      (A := fun _ call => 0 < call.filledQuantity)
      (I := fun s => ∀ r, s.find localId = some r → 0 ≤ r.filledQuantity)
      (fun s call h hqty => filledQuantity_applied h hqty)
      (fun s call h hqty => divides_of_nonneg h hqty) hstart
      (Trajectory.allSteps_of_forall hpos)

/-- An order that is stored and then filled in two parts at different prices. -/
theorem applyFill_average_stored :
    let order : StoredOrder :=
      { order := { symbol := "AAPL", side := .buy, quantity := 15 }, status := .submitted
        localId := "L1", createdAt := "" }
    let calls : List ApplyFill :=
      [{ localId := "L1", filledQuantity := 10, avgPrice := 100, newStatus := .partiallyFilled },
        { localId := "L1", filledQuantity := 5, avgPrice := 130, newStatus := .filled }]
    ∃ s, empty.storeOrder order none = .ok s ∧
      (∃ row', (Trajectory.run applied s calls).find "L1" = some row' ∧
        row'.filledQuantity =
          ((ApplyFill.fillsOf "L1" calls).map ApplyFill.filledQuantity).sum ∧
        row'.avgFillPrice * row'.filledQuantity =
          ((ApplyFill.fillsOf "L1" calls).map fun fill =>
            fill.filledQuantity * fill.avgPrice).sum ∧
        row'.status =
          ((ApplyFill.fillsOf "L1" calls).map ApplyFill.newStatus).getLast?.getD order.status ∧
        row' =
          { order with
            avgFillPrice := row'.avgFillPrice
            filledQuantity := row'.filledQuantity
            status := row'.status
            updatedAt := row'.updatedAt }) ∧
        (∀ l, ApplyFill.fillsOf l calls = [] →
          (Trajectory.run applied s calls).find l = s.find l) ∧
        Trajectory.AllSteps applied (Divides "L1") s calls := by
  intro order calls
  obtain ⟨s, hs⟩ := @storeOrder_of_fresh empty order rfl fun _ h => by cases h
  have hfind : s.find "L1" = some order := by
    rw [(storeOrder_eq_ok hs).2.find]
    rfl
  have hpos : ∀ call ∈ calls, 0 < call.filledQuantity := by
    simp [calls]
  exact ⟨s, hs, applyFill_average s "L1" order hfind rfl calls hpos⟩

end SQLiteOrderStore

end Quarcc
