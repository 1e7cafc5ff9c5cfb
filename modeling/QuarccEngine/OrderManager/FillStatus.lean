import QuarccEngine.Library.Trajectory
import QuarccEngine.OrderManager.Moves

/-!
# Status and filled quantity

The status of a stored order and its filled quantity are two columns, written by different
statements.  The first part is a rule for properties of single rows: such a property holds of every
row after an event when it holds of the rows that are stored, is kept by the closing statuses, and
is kept by fills.  The second part applies it to what the statuses say about the filled quantity.

A report that is not terminal is booked as a fill even when it fills nothing.  Such a report gives
an order without fills the status of a partially filled one, and this is the only way in which the
two columns come to contradict each other.
-/

namespace Quarcc

/-! ## Properties of rows -/

/-- Every row of the store has the property. -/
def SQLiteOrderStore.ForAll (s : SQLiteOrderStore) (R : StoredOrder → Prop) : Prop :=
  ∀ row ∈ s.rows, R row

instance (s : SQLiteOrderStore) (R : StoredOrder → Prop) [DecidablePred R] :
    Decidable (s.ForAll R) :=
  inferInstanceAs (Decidable (∀ row ∈ s.rows, R row))

namespace SQLiteOrderStore.ForAll

variable {s s' : SQLiteOrderStore} {R : StoredOrder → Prop} (h : s.ForAll R)

/-- A store without rows. -/
lemma empty : SQLiteOrderStore.empty.ForAll R := fun _ hrow => absurd hrow List.not_mem_nil

include h

/-- A row that is found has the property. -/
lemma of_find {localId : LocalOrderId} {row : StoredOrder} (hrow : s.find localId = some row) :
    R row :=
  h row (mem_of_find hrow)

/-- Inserting a row with the property. -/
lemma insert {row : StoredOrder} (hins : Inserted s row s') (hrow : R row) : s'.ForAll R := by
  intro other hother
  rw [hins.rows_eq, List.mem_append, List.mem_singleton] at hother
  rcases hother with hold | rfl
  · exact h other hold
  · exact hrow

/-- A status update that keeps the property. -/
lemma setStatus (localId : LocalOrderId) {status : OrderStatus} {now : String}
    (hkeep : ∀ row, R row → R (row.withStatus status now)) :
    (s.setStatus localId status now).ForAll R := by
  intro other hother
  rcases Table.mem_modify hother with ⟨hold, -⟩ | ⟨row, hrow, -, rfl⟩
  · exact h other hold
  · exact hkeep row (h row hrow)

/-- A fill that keeps the property of the row that is filled. -/
lemma addFill {localId : LocalOrderId} {row : StoredOrder} (hfind : s.find localId = some row)
    {quantity price : ℚ} {status : OrderStatus} {now : String}
    (hkeep : R row → R (row.withFill quantity price status now)) :
    (s.addFill localId quantity price status now).ForAll R := by
  intro other hother
  rcases Table.mem_modify hother with ⟨hold, -⟩ | ⟨row', hrow', hkey, rfl⟩
  · exact h other hold
  · have hfind' : s.find localId = some row' := hkey ▸ find_of_mem hrow'
    obtain rfl := Option.some.inj (hfind.symm.trans hfind')
    exact hkeep (h row hrow')

/-- The kill switch keeps a property that the status of a cancelled order does not touch. -/
lemma kills {now : String} (hkeep : ∀ row, R row → R (row.withStatus .cancelled now)) {b : Books}
    (hb : b.orderStore = s) (killed : List LocalOrderId) :
    (killed.foldl (Books.kill now) b).orderStore.ForAll R := by
  induction killed generalizing b s with
  | nil => exact hb ▸ h
  | cons localId killed ih =>
    have hone : (b.kill now localId).orderStore = s.setStatus localId .cancelled now := by
      rw [← hb]
      rfl
    exact ih (h.setStatus localId hkeep) hone

end SQLiteOrderStore.ForAll

/-- The row that an event may store: the order of a submit or of a replace command, without
fills. -/
def Input.Stores (s : OrderManager) (i : Input) (row : StoredOrder) : Prop :=
  (∃ signal status broker, i.event = .submitCommand signal ∧
    row.IsNew (s.orderOfSubmit i.env signal) status broker ∧
      (status = .pendingSubmission ∨ status = .submitted ∨ status = .rejected)) ∨
    ∃ signal broker, i.event = .replaceCommand signal ∧
      row.IsNew (s.orderOfReplace i.env signal) .submitted broker

/-- What a property of rows has to meet to be kept by the event of `i`. -/
structure Input.KeepsRows (s : OrderManager) (i : Input) (R : StoredOrder → Prop) : Prop where
  /-- The rows that are stored have it. -/
  stored : ∀ row, i.Stores s row → R row
  /-- Closing an order keeps it. -/
  closed : ∀ row status, status = .rejected ∨ status = .cancelled ∨ status = .replaced →
    R row → R (row.withStatus status i.env.sqliteNow)
  /-- A fill of a mapped order keeps it. -/
  filled : ∀ report localId row, i.event = .executionReport report → report.isTerminal = false →
    s.idMapper.getLocalId report.brokerOrderId = some localId →
      s.orderStore.find localId = some row → R row →
        R (row.withFill report.filledQuantity report.avgFillPrice (Books.fillStatus row report)
          i.env.sqliteNow)

/-- **Rule for properties of rows.** -/
theorem Move.forAll_rows {s : OrderManager} {i : Input} {ok : Prop} {done : List GatewayEffect}
    {b : Books} {R : StoredOrder → Prop} (hmove : Move s i ok done b)
    (h : s.orderStore.ForAll R) (hkeeps : i.KeepsRows s R) : b.orderStore.ForAll R := by
  have hcancelled := fun row => hkeeps.closed row .cancelled (Or.inr (Or.inl rfl))
  have hreplaced := fun row => hkeeps.closed row .replaced (Or.inr (Or.inr rfl))
  cases hmove with
  | stay _ | skip _ _ | unmap _ _ _ | forget _ _ _ _ _ => exact h
  | refuse hevent _ hrow hstatus hstore =>
    refine h.insert hstore (hkeeps.stored _ (Or.inl ⟨_, _, _, hevent, hrow, ?_⟩))
    rcases hstatus with rfl | ⟨rfl, -⟩
    · exact Or.inr (Or.inr rfl)
    · exact Or.inl rfl
  | lose hevent _ _ hrow hstore _ _ =>
    exact h.insert hstore (hkeeps.stored _ (Or.inl ⟨_, _, _, hevent, hrow, Or.inl rfl⟩))
  | accept hevent _ _ hrow _ hstore =>
    exact h.insert hstore
      (hkeeps.stored _ (Or.inl ⟨_, _, _, hevent, hrow, Or.inr (Or.inl rfl)⟩))
  | cancel _ _ _ => exact h.setStatus _ hcancelled
  | retire _ _ _ _ _ => exact h.setStatus _ hreplaced
  | replace hevent _ _ hrow hstore =>
    exact (h.setStatus _ hreplaced).insert hstore
      (hkeeps.stored _ (Or.inr ⟨_, _, hevent, hrow⟩))
  | killSwitch _ _ _ _ => exact h.kills hcancelled rfl _
  | @close report localId status updated _ _ _ hstatus _ =>
    rw [Books.close_orderStore]
    split_ifs
    · refine h.setStatus _ fun row => hkeeps.closed row status ?_
      rcases hstatus with rfl | rfl
      · exact Or.inl rfl
      · exact Or.inr (Or.inl rfl)
    · exact h
  | @fill report localId row applied hevent hmapped hterminal hrow _ _ =>
    rw [Books.fill_orderStore]
    split_ifs
    · exact h.addFill hrow (hkeeps.filled report localId row hevent hterminal hmapped hrow)
    · exact h

/-! ## What the statuses say -/

/-- The status of a row says how much of its order is filled: nothing, a part, or everything. -/
structure StoredOrder.StatusFits (row : StoredOrder) : Prop where
  submitted : row.status = .submitted → row.filledQuantity = 0
  partiallyFilled : row.status = .partiallyFilled →
    0 < row.filledQuantity ∧ row.filledQuantity < row.order.quantity
  filled : row.status = .filled → row.order.quantity ≤ row.filledQuantity

namespace StoredOrder

/-- The status says something about the filled quantity in three cases. -/
lemma statusFits_iff (row : StoredOrder) :
    row.StatusFits ↔ (row.status = .submitted → row.filledQuantity = 0) ∧
      (row.status = .partiallyFilled →
        0 < row.filledQuantity ∧ row.filledQuantity < row.order.quantity) ∧
      (row.status = .filled → row.order.quantity ≤ row.filledQuantity) :=
  ⟨fun h => ⟨h.1, h.2, h.3⟩, fun h => ⟨h.1, h.2.1, h.2.2⟩⟩

instance : DecidablePred StatusFits := fun row => decidable_of_iff _ row.statusFits_iff.symm

/-- An order with a positive quantity, of which no negative quantity is filled. -/
structure Sound (row : StoredOrder) : Prop where
  quantity : 0 < row.order.quantity
  filled : 0 ≤ row.filledQuantity

/-- A fill leaves a status that fits, unless nothing was filled before and nothing is filled now. -/
lemma statusFits_withFill_iff {row : StoredOrder} (hrow : row.Sound) {report : V1.ExecutionReport}
    (hqty : 0 ≤ report.filledQuantity) (price : ℚ) (now : String) :
    (row.withFill report.filledQuantity price (Books.fillStatus row report) now).StatusFits ↔
      ¬ (row.filledQuantity = 0 ∧ report.filledQuantity = 0) := by
  have hquantity := hrow.quantity
  have hfilled := hrow.filled
  rw [statusFits_iff]
  unfold withFill Books.fillStatus
  dsimp only
  by_cases hfull : row.order.quantity ≤ row.filledQuantity + report.filledQuantity
  · rw [if_pos hfull]
    have hmoved : ¬ (row.filledQuantity = 0 ∧ report.filledQuantity = 0) := by
      rintro ⟨hzero, hnone⟩
      linarith
    simp [hfull, hmoved]
  · rw [if_neg hfull]
    have hpart : row.filledQuantity + report.filledQuantity < row.order.quantity :=
      not_le.mp hfull
    have hsum : 0 < row.filledQuantity + report.filledQuantity ↔
        ¬ (row.filledQuantity = 0 ∧ report.filledQuantity = 0) := by
      rw [← add_eq_zero_iff_of_nonneg hfilled hqty]
      exact (add_nonneg hfilled hqty).lt_iff_ne.trans ne_comm
    simp only [reduceCtorEq, false_implies, true_implies, true_and, and_true]
    exact (and_iff_left hpart).trans hsum

end StoredOrder

/-! ## Runs -/

/-- Commands have positive quantities, and no report has a negative one. -/
def OMEvent.WellFormed : OMEvent → Prop
  | .submitCommand signal => 0 < signal.targetQuantity
  | .replaceCommand signal => 0 < signal.targetQuantity
  | .executionReport report => 0 ≤ report.filledQuantity
  | .bar _ | .tick _ | .cancelCommand _ | .cancelAllCommand _ _ => True

/-- A report without a quantity that is not terminal only comes for a mapped order when something of
the order is filled already. -/
def Input.FillsSomething (s : OrderManager) (i : Input) : Prop :=
  ∀ report, i.event = .executionReport report → report.isTerminal = false →
    ∀ localId, s.idMapper.getLocalId report.brokerOrderId = some localId →
      ∀ row, s.orderStore.find localId = some row →
        ¬ (row.filledQuantity = 0 ∧ report.filledQuantity = 0)

/-- The order of a row that is stored is that of a command. -/
lemma Input.Stores.sound {s : OrderManager} {i : Input} {row : StoredOrder} (h : i.Stores s row)
    (hi : i.event.WellFormed) : row.Sound := by
  rcases h with ⟨signal, status, broker, hevent, hrow, -⟩ | ⟨signal, broker, hevent, hrow⟩
  · rw [hevent] at hi
    refine ⟨?_, hrow.filledQuantity_eq.ge⟩
    rw [hrow.order_eq]
    exact hi
  · rw [hevent] at hi
    refine ⟨?_, hrow.filledQuantity_eq.ge⟩
    rw [hrow.order_eq]
    exact hi

/-- A row that is stored has nothing filled, and its status says so. -/
lemma Input.Stores.statusFits {s : OrderManager} {i : Input} {row : StoredOrder}
    (h : i.Stores s row) : row.StatusFits := by
  rcases h with ⟨signal, status, broker, -, hrow, hstatus⟩ | ⟨signal, broker, -, hrow⟩
  · refine ⟨fun _ => hrow.filledQuantity_eq, fun hpart => ?_, fun hfull => ?_⟩
    · rw [hrow.status_eq] at hpart
      rcases hstatus with rfl | rfl | rfl <;> cases hpart
    · rw [hrow.status_eq] at hfull
      rcases hstatus with rfl | rfl | rfl <;> cases hfull
  · refine ⟨fun _ => hrow.filledQuantity_eq, fun hpart => ?_, fun hfull => ?_⟩
    · rw [hrow.status_eq] at hpart
      cases hpart
    · rw [hrow.status_eq] at hfull
      cases hfull

/-- Well-formed events keep the rows sound. -/
lemma Input.keepsRows_sound (s : OrderManager) {i : Input} (hi : i.event.WellFormed) :
    i.KeepsRows s StoredOrder.Sound where
  stored := fun _ hrow => hrow.sound hi
  closed := fun _ _ _ hrow => ⟨hrow.quantity, hrow.filled⟩
  filled := by
    intro report localId row hevent _ _ _ hrow
    rw [hevent] at hi
    have hqty : 0 ≤ report.filledQuantity := hi
    exact ⟨hrow.quantity, add_nonneg hrow.filled hqty⟩

/-- Reports that fill something keep the statuses. -/
lemma Input.keepsRows_statusFits {s : OrderManager} {i : Input} (hi : i.event.WellFormed)
    (hsound : s.orderStore.ForAll StoredOrder.Sound) (hfills : i.FillsSomething s) :
    i.KeepsRows s StoredOrder.StatusFits where
  stored := fun _ hrow => hrow.statusFits
  closed := by
    intro row status hstatus _
    refine ⟨fun h => ?_, fun h => ?_, fun h => ?_⟩ <;>
      rcases hstatus with rfl | rfl | rfl <;> cases h
  filled := by
    intro report localId row hevent hterminal hmapped hrow _
    rw [hevent] at hi
    have hqty : 0 ≤ report.filledQuantity := hi
    apply (StoredOrder.statusFits_withFill_iff (hsound.of_find hrow) hqty _ _).mpr
    exact hfills report hevent hterminal localId hmapped row hrow

/-- **Step lemma.**  When the store succeeds, an event keeps the statuses exactly when it is no
report that fills nothing of an order without fills. -/
lemma statusFits_dispatch_iff {s : OrderManager} {i : Input} (hok : StoreSucceeds s i)
    (hi : i.event.WellFormed) (hsound : s.orderStore.ForAll StoredOrder.Sound)
    (h : s.orderStore.ForAll StoredOrder.StatusFits) :
    (dispatch s i).orderStore.ForAll StoredOrder.StatusFits ↔ i.FillsSomething s := by
  have hmove := dispatch_move s i
  refine ⟨fun hafter report hevent hterminal localId hmapped row hrow => ?_, fun hfills => ?_⟩
  · obtain ⟨row', hrow', hbooks⟩ := hmove.of_fill hok hevent hmapped hterminal
    obtain rfl := Option.some.inj (hrow.symm.trans hrow')
    have hstore : (dispatch s i).orderStore = s.orderStore.addFill localId report.filledQuantity
        report.avgFillPrice (Books.fillStatus row report) i.env.sqliteNow := by
      rw [hbooks, Books.fill_orderStore, if_pos rfl]
    have hfind : (dispatch s i).orderStore.find localId =
        some (row.withFill report.filledQuantity report.avgFillPrice (Books.fillStatus row report)
          i.env.sqliteNow) := by
      rw [hstore, SQLiteOrderStore.find_addFill, if_pos rfl, hrow, Option.map_some]
    rw [hevent] at hi
    have hqty : 0 ≤ report.filledQuantity := hi
    exact (StoredOrder.statusFits_withFill_iff (hsound.of_find hrow) hqty _ _).mp
      (hafter.of_find hfind)
  · exact hmove.forAll_rows h (Input.keepsRows_statusFits hi hsound hfills)

/-- **Status and filled quantity.**  Along a run that starts with an empty store and in which the
store succeeds, the status of every row fits its filled quantity exactly when no report that is not
terminal and fills nothing comes for a mapped order without fills. -/
theorem statusFits_iff_fillsSomething (accountId : String) (riskManager : RiskManager)
    (inputs : List Input)
    (hok : Trajectory.AllSteps dispatch StoreSucceeds
      (createOrderManager accountId .empty riskManager) inputs)
    (hinputs : ∀ i ∈ inputs, i.event.WellFormed) :
    Trajectory.EveryState dispatch (fun s => s.orderStore.ForAll StoredOrder.StatusFits)
        (createOrderManager accountId .empty riskManager) inputs ↔
      Trajectory.AllSteps dispatch (fun s i => i.FillsSomething s)
        (createOrderManager accountId .empty riskManager) inputs := by
  apply Trajectory.everyState_iff_allSteps
    (A := fun s i => StoreSucceeds s i ∧ i.event.WellFormed)
    (I := fun s : OrderManager => s.orderStore.ForAll StoredOrder.Sound)
  · intro s i hsound hi
    exact (dispatch_move s i).forAll_rows hsound (Input.keepsRows_sound s hi.2)
  · intro s i hsound hi h
    exact statusFits_dispatch_iff hi.1 hi.2 hsound h
  · exact .empty
  · exact .empty
  · exact Trajectory.allSteps_and.mpr ⟨hok, Trajectory.allSteps_of_forall hinputs⟩

/-- An order that is bought and filled in two parts. -/
theorem statusFits_iff_fillsSomething_twoFills :
    let buy : OMEvent := .submitCommand { symbol := "AAPL", side := .buy, targetQuantity := 10 }
    let fill (quantity price : ℚ) : OMEvent :=
      .executionReport
        { brokerOrderId := "B1", symbol := "AAPL", side := .buy, filledQuantity := quantity
          avgFillPrice := price }
    let inputs := [buy.quietly "B1", (fill 4 100).quietly "", (fill 6 110).quietly ""]
    Trajectory.EveryState dispatch (fun s => s.orderStore.ForAll StoredOrder.StatusFits)
        (createOrderManager "ACC" .empty ⟨{}⟩) inputs ↔
      Trajectory.AllSteps dispatch (fun s i => i.FillsSomething s)
        (createOrderManager "ACC" .empty ⟨{}⟩) inputs := by
  intro buy fill inputs
  refine statusFits_iff_fillsSomething "ACC" ⟨{}⟩ inputs (by decide +kernel) ?_
  intro i hi
  simp only [inputs, List.mem_cons, List.not_mem_nil, or_false] at hi
  rcases hi with rfl | rfl | rfl <;>
    norm_num [OMEvent.quietly, OMEvent.WellFormed, buy, fill]

/-- An acknowledgement of an order, which fills nothing, makes it a partially filled one. -/
theorem acknowledged_partiallyFilled :
    ¬ ∀ (accountId : String) (riskManager : RiskManager) (inputs : List Input),
      Trajectory.AllSteps dispatch StoreSucceeds
        (createOrderManager accountId .empty riskManager) inputs →
      (∀ i ∈ inputs, i.event.WellFormed) →
      Trajectory.EveryState dispatch (fun s => s.orderStore.ForAll StoredOrder.StatusFits)
        (createOrderManager accountId .empty riskManager) inputs := by
  intro h
  let buy : OMEvent := .submitCommand { symbol := "AAPL", side := .buy, targetQuantity := 10 }
  let acknowledgement : OMEvent :=
    .executionReport
      { brokerOrderId := "B1", symbol := "AAPL", side := .buy, status := .submitted }
  have hevery := h "ACC" ⟨{}⟩ [buy.quietly "B1", acknowledgement.quietly ""] (by decide +kernel) (by
    intro i hi
    simp only [List.mem_cons, List.not_mem_nil, or_false] at hi
    rcases hi with rfl | rfl <;> norm_num [OMEvent.quietly, OMEvent.WellFormed, buy,
      acknowledgement])
  have hlast : ¬ (Trajectory.run dispatch (createOrderManager "ACC" .empty ⟨{}⟩)
      [buy.quietly "B1", acknowledgement.quietly ""]).orderStore.ForAll StoredOrder.StatusFits := by
    decide +kernel
  exact hlast hevery.last

end Quarcc
