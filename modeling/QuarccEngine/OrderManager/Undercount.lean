import QuarccEngine.OrderManager.Constraints
import QuarccEngine.OrderManager.OpenOrders

/-!
# The counter of open orders

However the answers of the store and of the gateway fail or repeat, every order that is counted down
was mapped, so that the count is never below the number of mapped orders.  The counter is an `int`
though, and the orders that are closed by a report or by a kill switch are never counted down: the
main result says that it is too low exactly when it is counted up from the greatest `int`.
-/

namespace Quarcc

/-! ## Every mapped order is counted -/

/-- What holds of the books whatever the store and the gateway answer: the broker ids are backed by
local ids, the mapped orders have a row, and each of them is counted. -/
structure CountCovers (b : Books) : Prop where
  backed : b.idMapper.Backed
  stored : ∀ l, b.idMapper.getBrokerId l ≠ none → b.orderStore.find l ≠ none
  covers : (b.idMapper.mappedCount : ℤ) ≤ b.openOrderCount

namespace CountCovers

variable {b b' : Books} {localId : LocalOrderId}

/-- A change of the store that keeps the rows there. -/
lemma of_stored (h : CountCovers b) (hmapper : b'.idMapper = b.idMapper)
    (hcount : b'.openOrderCount = b.openOrderCount)
    (hstore : ∀ l, b.orderStore.find l ≠ none → b'.orderStore.find l ≠ none) :
    CountCovers b' := by
  refine ⟨?_, fun l hl => ?_, ?_⟩
  · rw [hmapper]
    exact h.backed
  · rw [hmapper] at hl
    exact hstore l (h.stored l hl)
  · rw [hmapper, hcount]
    exact h.covers

/-- Unmapping an order that is not counted down. -/
lemma removeMapping (h : CountCovers b) (localId : LocalOrderId) :
    CountCovers (b.removeMapping localId) := by
  refine ⟨h.backed.removeMapping localId, fun l hl => ?_, ?_⟩
  · refine h.stored l fun hnone => hl ?_
    have hremoved := b.idMapper.getBrokerId_removeMapping localId l
    rw [hnone, ite_self] at hremoved
    exact hremoved
  · have hle := b.idMapper.mappedCount_removeMapping_le localId
    have hcovers := h.covers
    change ((b.idMapper.removeMapping localId).mappedCount : ℤ) ≤ b.openOrderCount
    omega

/-- Unmapping a mapped order and counting it down. -/
lemma removeMapping_addOpenOrders (h : CountCovers b) {broker : BrokerOrderId}
    (hmapped : b.idMapper.getBrokerId localId = some broker) :
    CountCovers ((b.removeMapping localId).addOpenOrders (-1)) := by
  have hremoved := h.removeMapping localId
  refine ⟨hremoved.backed, hremoved.stored, ?_⟩
  have hone := OrderIdMapper.mappedCount_removeMapping hmapped
  have hcovers := h.covers
  change ((b.idMapper.removeMapping localId).mappedCount : ℤ) ≤ b.openOrderCount + (-1)
  omega

/-- Mapping an order that was just inserted and counting it. -/
lemma insert (h : CountCovers b) {row : StoredOrder} {store : SQLiteOrderStore}
    (hins : SQLiteOrderStore.Inserted b.orderStore row store) (broker : BrokerOrderId) :
    CountCovers (({ b with orderStore := store } : Books).addMapping row.localId broker
      |>.addOpenOrders 1) := by
  have hfree : b.idMapper.getBrokerId row.localId = none := by
    by_contra hmapped
    exact h.stored row.localId hmapped hins.fresh
  refine ⟨h.backed.addMapping hfree broker, fun l hl => ?_, ?_⟩
  · change store.find l ≠ none
    rw [hins.find]
    by_cases hll : l = row.localId
    · rw [if_pos hll]
      simp
    · rw [if_neg hll]
      refine h.stored l fun hnone => hl ?_
      have hadded := b.idMapper.getBrokerId_addMapping row.localId l broker
      rw [if_neg hll, hnone] at hadded
      exact hadded
  · have hadd := OrderIdMapper.mappedCount_addMapping hfree broker
    have hcovers := h.covers
    change ((b.idMapper.addMapping row.localId broker).mappedCount : ℤ) ≤ b.openOrderCount + 1
    omega

/-- The kill switch counts nothing down. -/
lemma kills (h : CountCovers b) (now : String) (killed : List LocalOrderId) :
    CountCovers (killed.foldl (Books.kill now) b) := by
  induction killed generalizing b with
  | nil => exact h
  | cons localId killed ih =>
    have hstatus : CountCovers (b.setStatus localId .cancelled now) :=
      h.of_stored rfl rfl fun l => SQLiteOrderStore.find_setStatus_ne_none _ _
    exact ih (hstatus.removeMapping localId)

/-- **Step lemma.**  Every move keeps each mapped order counted, whatever fails on the way. -/
theorem of_move {s : OrderManager} {i : Input} {ok : Prop} {done : List GatewayEffect}
    (h : CountCovers s.toBooks) (hmove : Move s i ok done b) : CountCovers b := by
  cases hmove with
  | stay _ | skip _ _ => exact h
  | refuse _ _ _ _ hins | lose _ _ _ _ hins _ _ =>
    exact h.of_stored rfl rfl fun l => hins.find_ne_none
  | accept _ _ _ _ _ hins => exact h.insert hins _
  | cancel _ hmapped _ =>
    refine (h.removeMapping_addOpenOrders hmapped).of_stored rfl rfl fun l => ?_
    exact SQLiteOrderStore.find_setStatus_ne_none _ _
  | unmap _ _ _ | forget _ _ _ _ _ => exact h.removeMapping _
  | retire _ _ _ _ _ =>
    exact (h.removeMapping _).of_stored rfl rfl fun l =>
      SQLiteOrderStore.find_setStatus_ne_none _ _
  | @replace signal broker newBroker row store _ hmapped _ _ hins =>
    -- the place that the old order leaves in the count is taken by the new one
    have hremoved : CountCovers (((s.toBooks.removeMapping signal.orderId).setStatus signal.orderId
        .replaced i.env.sqliteNow).addOpenOrders (-1)) :=
      (h.removeMapping_addOpenOrders hmapped).of_stored rfl rfl fun l =>
        SQLiteOrderStore.find_setStatus_ne_none _ _
    have hadded := hremoved.insert hins newBroker
    refine hadded.of_stored rfl ?_ fun l hl => hl
    change s.openOrderCount = s.openOrderCount + (-1) + 1
    omega
  | killSwitch _ _ _ _ => exact h.kills _ _
  | close _ _ _ _ _ =>
    refine (h.removeMapping _).of_stored (Books.close_idMapper _ _ _ _ _)
      (Books.close_openOrderCount _ _ _ _ _) fun l hl => ?_
    rw [Books.close_orderStore]
    split_ifs
    · exact SQLiteOrderStore.find_setStatus_ne_none _ _ hl
    · exact hl
  | @fill report localId row applied _ hmapped _ _ _ _ =>
    have hstored : ∀ l, s.orderStore.find l ≠ none →
        (s.toBooks.fill localId row report i.env.sqliteNow applied).orderStore.find l ≠ none := by
      intro l hl
      rw [Books.fill_orderStore]
      split_ifs
      · exact SQLiteOrderStore.find_addFill_ne_none _ _ _ _ hl
      · exact hl
    by_cases hfull : row.order.quantity ≤ row.filledQuantity + report.filledQuantity
    · refine (h.removeMapping_addOpenOrders (h.backed _ _ hmapped)).of_stored ?_ ?_ hstored
      · rw [Books.fill_idMapper, if_pos hfull]
        rfl
      · rw [Books.fill_openOrderCount, if_pos hfull]
        rfl
    · refine h.of_stored ?_ ?_ hstored
      · rw [Books.fill_idMapper, if_neg hfull]
      · rw [Books.fill_openOrderCount, if_neg hfull]

end CountCovers

/-! ## Counting up -/

/-- The submit command of `i` is counted: its order reaches the gateway, which accepts it, and its
row becomes `SUBMITTED`. -/
def Input.CountsUp (s : OrderManager) (i : Input) : Prop :=
  match i.event with
  | .submitCommand signal =>
    SubmitSent s i.env signal ∧
      (i.gateway.submitOrder (s.orderOfSubmit i.env signal)).isOk = true ∧
      i.env.storeFault (.updateOrderStatus (s.orderOfSubmit i.env signal).id .submitted) = none
  | _ => False

/-- The counter is not counted up from the greatest `int`. -/
def Input.CountFits (s : OrderManager) (i : Input) : Prop :=
  i.CountsUp s → s.openOrderCountInt ≠ Int32.maxValue

namespace OrderManager

variable (s : OrderManager) (env : Env)

/-- An order that was rejected is not counted. -/
lemma openOrderCount_rejectSubmit (localId : LocalOrderId) (e : Error) :
    (s.rejectSubmit env localId e).openOrderCount = s.openOrderCount := by
  rcases s.rejectSubmit_cases env localId e with ⟨hb, -⟩ | ⟨hb, -⟩
  · rw [hb]
    rfl
  · rw [hb]

/-- An order that was accepted is counted when its row becomes `SUBMITTED`. -/
lemma openOrderCount_acceptSubmit (localId : LocalOrderId) (broker : BrokerOrderId) :
    (env.storeFault (.updateOrderStatus localId .submitted) = none ∧
        (s.acceptSubmit env localId broker).openOrderCount = s.openOrderCount + 1) ∨
      (env.storeFault (.updateOrderStatus localId .submitted) ≠ none ∧
        (s.acceptSubmit env localId broker).openOrderCount = s.openOrderCount) := by
  unfold acceptSubmit
  rcases s.updateOrderStatus_cases env localId .submitted with ⟨hfault, e, h⟩ | ⟨hfault, h⟩
  · right
    rw [h]
    exact ⟨hfault, rfl⟩
  · left
    rw [h]
    refine ⟨hfault, ?_⟩
    unfold updateBrokerId runStatement
    dsimp only [addMapping, addOpenOrders]
    cases SQLiteOrderStore.updateBrokerId _ localId broker _ _ <;> rfl

/-- A submit command. -/
lemma openOrderCount_submit {i : Input} {signal : V1.StrategySignal}
    (hevent : i.event = .submitCommand signal) :
    (i.CountsUp s ∧ (dispatch s i).openOrderCount = s.openOrderCount + 1) ∨
      (¬ i.CountsUp s ∧ (dispatch s i).openOrderCount = s.openOrderCount) := by
  obtain ⟨createdAt, hts⟩ := timestampToString_ok i.env.now
  unfold Input.CountsUp dispatch handle
  simp only [hevent, s.handleSubmitCommand_eq i.env signal hts]
  rcases (s.beginSubmit i.env signal).storeOrder_cases i.env
      (s.rowOfSubmit i.env signal createdAt) with
    ⟨hrefused, e, hstore⟩ | ⟨hfault, store, hins, hstore⟩
  · -- the row is not stored
    simp only [hstore, Program.run_done]
    refine Or.inr ⟨?_, rfl⟩
    rintro ⟨⟨hfault, hfresh, -⟩, -, -⟩
    rcases hrefused with hrefused | hrefused | ⟨broker, hbroker, -⟩
    · exact hrefused hfault
    · exact hrefused hfresh
    · cases hbroker
  simp only [hstore]
  have hfresh : s.orderStore.find (s.orderOfSubmit i.env signal).id = none := hins.fresh
  generalize hs' : ({ s.beginSubmit i.env signal with orderStore := store } : OrderManager) = s'
  have hcount : s'.openOrderCount = s.openOrderCount := by
    rw [← hs']
    rfl
  have hcheck : s'.checkSubmit signal = s.checkSubmit signal := by
    rw [← hs']
    rfl
  rw [hcheck]
  cases hrisk : s.checkSubmit signal with
  | error e =>
    simp only [Program.run_done]
    refine Or.inr ⟨?_, (s'.openOrderCount_rejectSubmit i.env _ e).trans hcount⟩
    rintro ⟨⟨-, -, hpass⟩, -, -⟩
    rw [hrisk] at hpass
    cases hpass
  | ok u =>
    have hsent : SubmitSent s i.env signal := ⟨hfault, hfresh, hrisk⟩
    simp only [Program.run_call, GatewayAnswers.answer]
    cases haccept : i.gateway.submitOrder (s.orderOfSubmit i.env signal) with
    | error e =>
      simp only [Program.run_done]
      refine Or.inr ⟨?_, (s'.openOrderCount_rejectSubmit i.env _ e).trans hcount⟩
      rintro ⟨-, haccepted, -⟩
      cases haccepted
    | ok broker =>
      simp only [Program.run_done]
      rcases s'.openOrderCount_acceptSubmit i.env (s.orderOfSubmit i.env signal).id broker with
        ⟨hstatus, hadded⟩ | ⟨hstatus, hkept⟩
      · exact Or.inl ⟨⟨hsent, rfl, hstatus⟩, hadded.trans (by rw [hcount])⟩
      · exact Or.inr ⟨fun h => hstatus h.2.2, hkept.trans hcount⟩

end OrderManager

/-- No other event counts an order up. -/
lemma Move.openOrderCount_le {s : OrderManager} {i : Input} {ok : Prop} {done : List GatewayEffect}
    {b : Books} (hmove : Move s i ok done b)
    (hevent : ∀ signal, i.event ≠ .submitCommand signal) : b.openOrderCount ≤ s.openOrderCount := by
  cases hmove with
  | accept hsubmit _ _ _ _ _ | lose hsubmit _ _ _ _ _ _ | refuse hsubmit _ _ _ _ =>
    exact absurd hsubmit (hevent _)
  | stay _ | skip _ _ | unmap _ _ _ | forget _ _ _ _ _ | retire _ _ _ _ _ | replace _ _ _ _ _ =>
    exact le_rfl
  | cancel _ _ _ =>
    change s.openOrderCount + (-1) ≤ s.openOrderCount
    omega
  | killSwitch _ _ _ _ => exact (Books.kills_openOrderCount _ _ _).le
  | close _ _ _ _ _ => exact (Books.close_openOrderCount _ _ _ _ _).le
  | fill _ _ _ _ _ _ =>
    rw [Books.fill_openOrderCount]
    split_ifs
    · omega
    · exact le_rfl

/-- An event counts an order up, or the count does not grow. -/
lemma openOrderCount_dispatch (s : OrderManager) (i : Input) :
    (i.CountsUp s ∧ (dispatch s i).openOrderCount = s.openOrderCount + 1) ∨
      (¬ i.CountsUp s ∧ (dispatch s i).openOrderCount ≤ s.openOrderCount) := by
  by_cases hsubmit : ∃ signal, i.event = .submitCommand signal
  · obtain ⟨signal, hevent⟩ := hsubmit
    exact (s.openOrderCount_submit hevent).imp_right fun h => ⟨h.1, h.2.le⟩
  · have hother : ∀ signal, i.event ≠ .submitCommand signal := fun signal h => hsubmit ⟨signal, h⟩
    refine Or.inr ⟨fun hup => ?_, (dispatch_move s i).openOrderCount_le hother⟩
    unfold Input.CountsUp at hup
    cases hevent : i.event with
    | submitCommand signal => exact hother signal hevent
    | _ =>
      rw [hevent] at hup
      exact hup

/-! ## The counter -/

/-- The counter is at least the number of mapped orders, so that it is not negative and its
conversion for the check of the risk manager does not wrap. -/
structure OrderManager.NeverUndercounts (s : OrderManager) : Prop where
  mapped_le : (s.idMapper.mappedCount : ℤ) ≤ s.openOrderCountInt.toInt
  nonneg : 0 ≤ s.openOrderCountInt.toInt
  sizeT_eq : (sizeT s.openOrderCountInt.toInt : ℤ) = s.openOrderCountInt.toInt

section Counter

variable {s : OrderManager}

/-- A count that fits is what the counter holds, and the counter is not too low. -/
lemma neverUndercounts_of_lt (h : CountCovers s.toBooks) (hlt : s.openOrderCount < 2 ^ 31) :
    s.NeverUndercounts := by
  have hcovers := h.covers
  have hint : s.openOrderCountInt.toInt = s.openOrderCount :=
    Int32.toInt_ofInt_of_le (by omega) hlt
  have hnonneg : 0 ≤ s.openOrderCountInt.toInt := by omega
  refine ⟨hint ▸ hcovers, hnonneg, ?_⟩
  unfold sizeT
  rw [if_pos hnonneg, Int.toNat_of_nonneg hnonneg]

/-- One event leaves a counter that is not too low exactly when it does not count up from the
greatest `int`. -/
lemma neverUndercounts_dispatch_iff {i : Input} (h : CountCovers s.toBooks)
    (hlt : s.openOrderCount < 2 ^ 31) : (dispatch s i).NeverUndercounts ↔ i.CountFits s := by
  have hcovers := h.covers
  have hcovers' : CountCovers (dispatch s i).toBooks := h.of_move (dispatch_move s i)
  have hint : s.openOrderCountInt.toInt = s.openOrderCount :=
    Int32.toInt_ofInt_of_le (by omega) hlt
  rcases openOrderCount_dispatch s i with ⟨hup, hcount⟩ | ⟨hup, hcount⟩
  · by_cases hmax : s.openOrderCountInt = Int32.maxValue
    · -- the counter wraps to the least `int`
      refine iff_of_false (fun hnever => ?_) fun hfits => hfits hup hmax
      have hwraps : (dispatch s i).openOrderCountInt = Int32.minValue := by
        unfold Books.openOrderCountInt at hmax ⊢
        rw [hcount, Int32.ofInt_add, hmax]
        decide
      have hnonneg := hnever.nonneg
      rw [hwraps] at hnonneg
      exact absurd hnonneg (by decide)
    · refine iff_of_true (neverUndercounts_of_lt hcovers' ?_) fun _ => hmax
      have hne : s.openOrderCountInt.toInt ≠ Int32.maxValue.toInt :=
        fun heq => hmax (Int32.toInt_inj.mp heq)
      have hvalue : Int32.maxValue.toInt = 2 ^ 31 - 1 := by decide
      omega
  · exact iff_of_true (neverUndercounts_of_lt hcovers' (by omega)) fun h => absurd h hup

/-- An event that does not overflow the counter keeps the count in its range. -/
lemma openOrderCount_dispatch_lt {i : Input} (h : CountCovers s.toBooks)
    (hlt : s.openOrderCount < 2 ^ 31) (hfits : i.CountFits s) :
    (dispatch s i).openOrderCount < 2 ^ 31 := by
  have hcovers := h.covers
  have hint : s.openOrderCountInt.toInt = s.openOrderCount :=
    Int32.toInt_ofInt_of_le (by omega) hlt
  rcases openOrderCount_dispatch s i with ⟨hup, hcount⟩ | ⟨-, hcount⟩
  · have hne : s.openOrderCountInt.toInt ≠ Int32.maxValue.toInt :=
      fun heq => hfits hup (Int32.toInt_inj.mp heq)
    have hvalue : Int32.maxValue.toInt = 2 ^ 31 - 1 := by decide
    omega
  · omega

end Counter

/-- **When the counter of open orders is never too low**, whatever is in the store at the start,
whatever the gateway answers and whichever calls on the store fail: exactly when it is never counted
up from the greatest `int`.  A local id that is in use is refused by the primary key of the store
before it could be mapped. -/
theorem never_undercounts_iff (accountId : String) (store : SQLiteOrderStore)
    (riskManager : RiskManager) (inputs : List Input) :
    Trajectory.EveryState dispatch OrderManager.NeverUndercounts
        (createOrderManager accountId store riskManager) inputs ↔
      Trajectory.AllSteps dispatch (fun s i => i.CountFits s)
        (createOrderManager accountId store riskManager) inputs := by
  have hstart : CountCovers (createOrderManager accountId store riskManager).toBooks :=
    ⟨OrderIdMapper.backed_empty, fun l hl => absurd rfl hl, le_rfl⟩
  have hzero : (createOrderManager accountId store riskManager).openOrderCount < 2 ^ 31 := by
    change (0 : ℤ) < 2 ^ 31
    norm_num
  refine Trajectory.everyState_iff_of_kept
    (I := fun s : OrderManager => CountCovers s.toBooks ∧ s.openOrderCount < 2 ^ 31) ?_ ?_
    ⟨hstart, hzero⟩ (neverUndercounts_of_lt hstart hzero)
  · rintro s i ⟨h, hlt⟩ hfits
    exact ⟨h.of_move (dispatch_move s i), openOrderCount_dispatch_lt h hlt hfits⟩
  · rintro s i ⟨h, hlt⟩
    exact neverUndercounts_dispatch_iff h hlt

/-! ## A counter that overflows -/

/-- The broker id of the order number `k`. -/
def brokerIdOf (k : ℕ) : BrokerOrderId :=
  (({ idSpecifier := "PAPER", counter := .ofNat k } : OrderIdGenerator).generate 0).1

/-- The report that the order number `k` was cancelled. -/
def cancelledReport (k : ℕ) : V1.ExecutionReport :=
  { brokerOrderId := brokerIdOf k, symbol := "AAPL", side := .buy, status := .cancelled }

/-- A buy order that the gateway accepts and then reports cancelled. -/
def cancelledOrder (k : ℕ) : List Input :=
  [buyTen.quietly (brokerIdOf k), (OMEvent.executionReport (cancelledReport k)).quietly ""]

/-- The first `n` such orders, one after the other. -/
def cancelledOrders (n : ℕ) : List Input :=
  (List.range n).flatMap cancelledOrder

/-- Where `n` such orders lead: each of them is still counted, after `c` local ids at most. -/
structure CountedSoFar (s : OrderManager) (n c : ℕ) : Prop where
  unbroken : ∃ given, Unbroken s given ∧ ∀ broker ∈ given, ∃ k < n, broker = brokerIdOf k
  counted : s.openOrderCount = n
  unlimited : s.riskManager = ⟨{}⟩
  counter_le : s.idGenerator.counter.toNat ≤ c

/-- The broker ids are distinct. -/
lemma brokerIdOf_inj {k n : ℕ} (hk : k < 2 ^ 64) (hn : n < 2 ^ 64)
    (h : brokerIdOf k = brokerIdOf n) : k = n := by
  have hserial := congrArg serialOf h
  unfold brokerIdOf at hserial
  rw [OrderIdGenerator.serialOf_generate, OrderIdGenerator.serialOf_generate] at hserial
  change (UInt64.ofNat k).toNat = (UInt64.ofNat n).toNat at hserial
  rwa [UInt64.toNat_ofNat_of_lt' hk, UInt64.toNat_ofNat_of_lt' hn] at hserial

/-- The broker ids are bound whole. -/
lemma cStr_brokerIdOf (k : ℕ) : cStr (brokerIdOf k) = brokerIdOf k :=
  (OrderIdGenerator.noZeroByte_generate (show NoZeroByte "PAPER" by decide) 0).cStr_eq

/-- A report that the order was cancelled counts nothing. -/
lemma Move.openOrderCount_of_terminal {s : OrderManager} {i : Input} {ok : Prop}
    {done : List GatewayEffect} {b : Books} (hmove : Move s i ok done b)
    {report : V1.ExecutionReport}
    (hevent : i.event = .executionReport report) (hterminal : report.isTerminal = true) :
    b.openOrderCount = s.openOrderCount ∧ done = [] := by
  cases hmove with
  | stay _ | skip _ _ => exact ⟨rfl, rfl⟩
  | close _ _ _ _ _ => exact ⟨Books.close_openOrderCount _ _ _ _ _, rfl⟩
  | fill hfill _ hpartial _ _ _ =>
    rw [hevent] at hfill
    cases hfill
    rw [hterminal] at hpartial
    cases hpartial
  | _ => simp_all

/-- A submit command is given at most the broker id of its answer. -/
lemma Move.issued_of_submit {s : OrderManager} {i : Input} {ok : Prop}
    {done : List GatewayEffect} {b : Books} (hmove : Move s i ok done b)
    {signal : V1.StrategySignal}
    (hevent : i.event = .submitCommand signal) {broker : BrokerOrderId}
    (hbroker : broker ∈ done.filterMap GatewayEffect.issued) :
    ∃ order, i.gateway.submitOrder order = .ok broker := by
  cases hmove with
  | stay _ | skip _ _ | refuse _ _ _ _ _ => exact absurd hbroker List.not_mem_nil
  | lose _ _ haccept _ _ _ _ | accept _ _ haccept _ _ _ =>
    obtain rfl := List.mem_singleton.mp hbroker
    exact ⟨_, haccept⟩
  | _ => simp_all

namespace CountedSoFar

variable {s : OrderManager} {n c : ℕ}

/-- A buy order is accepted and counted. -/
lemma accept (h : CountedSoFar s n c) (hn : n < 2 ^ 31) (hc : c < 2 ^ 33) :
    StoreSucceeds s (buyTen.quietly (brokerIdOf n)) ∧
      CountedSoFar (dispatch s (buyTen.quietly (brokerIdOf n))) (n + 1) (c + 1) := by
  obtain ⟨given, hunbroken, hgiven⟩ := h.unbroken
  have hcounter := h.counter_le
  generalize hi : buyTen.quietly (brokerIdOf n) = i
  have hquiet : i.env.NoFault := hi ▸ ⟨fun _ => rfl, rfl⟩
  have hissued : ∀ broker ∈ issued s i, broker = brokerIdOf n := by
    intro broker hbroker
    obtain ⟨order, haccept⟩ := (dispatch_move s i).issued_of_submit (by rw [← hi]; rfl) hbroker
    rw [← hi] at haccept
    exact (Except.ok.inj haccept).symm
  have hfresh : brokerIdOf n ∉ given := by
    intro hmem
    obtain ⟨k, hk, heq⟩ := hgiven _ hmem
    have hkn := brokerIdOf_inj (by omega) (by omega) heq
    omega
  obtain ⟨hiff, hnext⟩ := hunbroken.step hquiet (by omega)
  have hok : StoreSucceeds s i := by
    refine hiff.mpr fun broker hbroker => ?_
    rw [hissued broker hbroker, cStr_brokerIdOf]
    exact hfresh
  obtain ⟨hunbroken', hcounter'⟩ := hnext hok
  have hup : i.CountsUp s := by
    rw [← hi]
    refine ⟨⟨rfl, hunbroken.next_free _, ?_⟩, rfl, rfl⟩
    rw [OrderManager.checkSubmit, h.unlimited]
    exact RiskManager.check_ok_iff.mpr
      ⟨fun h => absurd rfl h, fun h => absurd rfl h, fun h => absurd rfl h⟩
  refine ⟨hok, ⟨_, hunbroken', fun broker hbroker => ?_⟩, ?_, ?_, by omega⟩
  · rcases List.mem_append.mp hbroker with hbroker | hbroker
    · obtain ⟨k, hk, heq⟩ := hgiven broker hbroker
      exact ⟨k, Nat.lt_succ_of_lt hk, heq⟩
    · obtain ⟨broker, hmem, rfl⟩ := List.mem_map.mp hbroker
      exact ⟨n, Nat.lt_succ_self n, by rw [hissued broker hmem, cStr_brokerIdOf]⟩
  · rcases openOrderCount_dispatch s i with ⟨-, hcount⟩ | ⟨hnot, -⟩
    · rw [hcount, h.counted]
      rfl
    · exact absurd hup hnot
  · exact (dispatch_move s i).riskManager_eq.trans h.unlimited

/-- The report that an order was cancelled does not count it down. -/
lemma report (h : CountedSoFar s n c) (hc : c < 2 ^ 33) {i : Input} (hquiet : i.env.NoFault)
    {report : V1.ExecutionReport} (hevent : i.event = .executionReport report)
    (hterminal : report.isTerminal = true) :
    StoreSucceeds s i ∧ CountedSoFar (dispatch s i) n (c + 1) := by
  obtain ⟨given, hunbroken, hgiven⟩ := h.unbroken
  have hcounter := h.counter_le
  have hmove := dispatch_move s i
  obtain ⟨hcount, hnone⟩ := hmove.openOrderCount_of_terminal hevent hterminal
  have hissued : issued s i = [] := by
    unfold issued
    rw [hnone]
    rfl
  obtain ⟨hiff, hnext⟩ := hunbroken.step hquiet (by omega)
  have hok : StoreSucceeds s i := hiff.mpr (by simp [hissued])
  obtain ⟨hunbroken', hcounter'⟩ := hnext hok
  rw [hissued, List.map_nil, List.append_nil] at hunbroken'
  exact ⟨hok, ⟨given, hunbroken', hgiven⟩, hcount.trans h.counted,
    hmove.riskManager_eq.trans h.unlimited, by omega⟩

end CountedSoFar

/-- The count after `n` orders, each of which was cancelled before the next one. -/
lemma countedSoFar (n : ℕ) (hn : n ≤ 2 ^ 31) :
    Trajectory.AllSteps dispatch StoreSucceeds (createOrderManager "ACC" .empty ⟨{}⟩)
        (cancelledOrders n) ∧
      CountedSoFar (Trajectory.run dispatch (createOrderManager "ACC" .empty ⟨{}⟩)
        (cancelledOrders n)) n (2 * n) := by
  induction n with
  | zero =>
    refine ⟨trivial, ⟨[], .start "ACC" ⟨{}⟩, fun _ h => absurd h List.not_mem_nil⟩, rfl, rfl, ?_⟩
    exact Nat.zero_le _
  | succ n ih =>
    obtain ⟨hsteps, hsoFar⟩ := ih (by omega)
    obtain ⟨hok, haccepted⟩ := hsoFar.accept (by omega) (by omega)
    obtain ⟨hok', hcancelled⟩ := haccepted.report (by omega)
      (i := (OMEvent.executionReport (cancelledReport n)).quietly "") ⟨fun _ => rfl, rfl⟩ rfl rfl
    have hsucc : cancelledOrders (n + 1) = cancelledOrders n ++ cancelledOrder n := by
      unfold cancelledOrders
      rw [List.range_succ, List.flatMap_append, List.flatMap_singleton]
    rw [hsucc, Trajectory.run_append]
    exact ⟨Trajectory.allSteps_append.mpr ⟨hsteps, hok, hok', trivial⟩, hcancelled⟩

/-- The counter overflows when the broker reports `2 ^ 31` orders cancelled, one after the other: no
call on the store fails, no order is open, and the counter is negative. -/
theorem open_order_count_overflows :
    let start := createOrderManager "ACC" .empty ⟨{}⟩
    Trajectory.AllSteps dispatch StoreSucceeds start (cancelledOrders (2 ^ 31)) ∧
      ¬ Trajectory.EveryState dispatch OrderManager.NeverUndercounts start
        (cancelledOrders (2 ^ 31)) := by
  generalize hn : 2 ^ 31 = n
  obtain ⟨hok, hsoFar⟩ := countedSoFar n hn.ge
  refine ⟨hok, fun hevery => ?_⟩
  have hnonneg := hevery.last.nonneg
  unfold Books.openOrderCountInt at hnonneg
  rw [hsoFar.counted, ← hn] at hnonneg
  exact absurd hnonneg (by decide)

end Quarcc
