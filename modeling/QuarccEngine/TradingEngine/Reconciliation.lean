import QuarccEngine.OrderManager.Ledgers
import QuarccEngine.TradingEngine.Aggregation

/-!
# The positions of the engine and its stores

`GetPosition` and `GetAllPositions` add up what the position keepers of the strategies have.  The
database of a strategy outlives its order manager: a strategy that is stopped and registered again
opens a store in which orders are filled already, while its position keeper starts without
positions.  So what the engine reports is what the stores of the registered strategies have been
filled with since they were opened.
-/

namespace Quarcc

open Netting

/-! ## One order manager -/

namespace SQLiteOrderStore

variable {s store : SQLiteOrderStore} {row : StoredOrder}

@[simp] lemma filledIn_setStatus (localId : LocalOrderId) (status : OrderStatus)
    (now symbol : String) :
    (s.setStatus localId status now).filledIn symbol = s.filledIn symbol :=
  sumIn_setStatus (fun _ => rfl) localId symbol

/-- A new order has filled nothing. -/
lemma Inserted.filledIn (h : Inserted s row store) (hrow : row.filledQuantity = 0)
    (symbol : String) : store.filledIn symbol = s.filledIn symbol := by
  have hzero : row.signedFilled = 0 := by simp [StoredOrder.signedFilled, hrow]
  unfold SQLiteOrderStore.filledIn
  rw [h.sumIn, hzero, ite_self, add_zero]

/-- A fill is added to the sum of its symbol. -/
lemma filledIn_addFill {localId : LocalOrderId} (hrow : s.find localId = some row)
    (quantity price : ℚ) (status : OrderStatus) (now symbol : String) :
    (s.addFill localId quantity price status now).filledIn symbol =
      s.filledIn symbol +
        if row.order.symbol = symbol then signedFill row.order.side quantity else 0 := by
  have hdelta : (row.withFill quantity price status now).signedFilled - row.signedFilled =
      signedFill row.order.side quantity := by
    have hadd := signedFill_add row.order.side row.filledQuantity quantity
    change signedFill row.order.side (row.filledQuantity + quantity) -
      signedFill row.order.side row.filledQuantity = _
    linarith
  unfold SQLiteOrderStore.filledIn
  rw [sumIn_addFill hrow, hdelta]

end SQLiteOrderStore

/-- What the kill switch does fills nothing. -/
lemma Books.filledIn_kills (now : String) (b : Books) (killed : List LocalOrderId)
    (symbol : String) :
    (killed.foldl (Books.kill now) b).orderStore.filledIn symbol =
    b.orderStore.filledIn symbol := by
  induction killed generalizing b with
  | nil => rfl
  | cons localId killed ih =>
    rw [List.foldl_cons, ih]
    exact SQLiteOrderStore.filledIn_setStatus localId .cancelled now symbol

/-- The keeper has booked what the orders of the store have been filled with since it was `base`. -/
def BookedSince (base : SQLiteOrderStore) (keeper : PositionKeeper) (store : SQLiteOrderStore) :
    Prop :=
  ∀ symbol, base.filledIn symbol + (keeper.positionOf symbol).quantity = store.filledIn symbol

/-- **Step lemma.**  A move without a failure of the store books its fill in both ledgers. -/
theorem BookedSince.of_move {base : SQLiteOrderStore} {s : OrderManager} {i : Input} {ok : Prop}
    {done : List GatewayEffect} {b : Books} (h : BookedSince base s.positionKeeper s.orderStore)
    (hok : ok) (hreport : i.ReportMatches s) (hmove : Move s i ok done b) :
    BookedSince base b.positionKeeper b.orderStore := by
  intro symbol
  have hsame := h symbol
  cases hmove with
  | stay _ | skip _ _ | unmap _ _ _ | forget _ _ _ _ _ => exact hsame
  | refuse _ _ hrow _ hstore | lose _ _ _ hrow hstore _ _ | accept _ _ _ hrow _ hstore =>
    exact hsame.trans (hstore.filledIn hrow.filledQuantity_eq symbol).symm
  | cancel _ _ _ | retire _ _ _ _ _ =>
    exact hsame.trans (SQLiteOrderStore.filledIn_setStatus _ _ _ symbol).symm
  | replace _ _ _ hrow hstore =>
    have hnew := hstore.filledIn hrow.filledQuantity_eq symbol
    rw [SQLiteOrderStore.filledIn_setStatus] at hnew
    exact hsame.trans hnew.symm
  | killSwitch _ _ _ _ =>
    rw [Books.kills_positionKeeper, Books.filledIn_kills]
    exact hsame
  | @close report localId status updated _ _ _ _ _ =>
    rw [Books.close_orderStore, Books.close_positionKeeper]
    split_ifs
    · rw [SQLiteOrderStore.filledIn_setStatus]
      exact hsame
    · exact hsame
  | @fill report localId row applied hevent hmapped hterminal hrow _ happlied =>
    obtain ⟨hsymbol, hside, hqty, -⟩ := hreport report hevent hterminal localId hmapped row hrow
    rw [happlied hok, Books.fill_positionKeeper, Books.fill_orderStore, if_pos rfl, hsymbol, hside,
      SQLiteOrderStore.filledIn_addFill hrow, PositionKeeper.quantity_onFill, ← hsame]
    by_cases hs : symbol = row.order.symbol
    · rw [if_pos ⟨hs, hqty⟩, if_pos hs.symm]
      ring
    · rw [if_neg fun hand => hs hand.1, if_neg (Ne.symm hs)]
      ring

/-! ## All order managers -/

namespace TradingEngine

/-- The store that the step opens for a new order manager. -/
def opened (e : TradingEngine) : Action → List SQLiteOrderStore
  | .registerStrategy strategyId _ store _ =>
    if e.killSwitch.isNone ∧ e.managers.lookup strategyId = none then [store] else []
  | _ => []

/-- The stores that a run opens, one for each order manager, as they were then. -/
def openedAll : TradingEngine → List Action → List SQLiteOrderStore
  | _, [] => []
  | e, a :: as => opened e a ++ openedAll (e.step a) as

/-- An event is handled without a failure of the store, and a report matches its order. -/
def HandlesCleanly (e : TradingEngine) : Action → Prop
  | .finish m env gateway => ∀ o ∈ e.objects[m]?, ∀ event ∈ o.handling,
    StoreSucceeds o.account.1 ⟨event, env, gateway⟩ ∧
      Input.ReportMatches o.account.1 ⟨event, env, gateway⟩
  | _ => True

instance (e : TradingEngine) : (a : Action) → Decidable (e.HandlesCleanly a)
  | .finish _ _ _ => inferInstanceAs (Decidable (∀ o ∈ _, ∀ event ∈ _, _ ∧ _))
  | .registerStrategy _ _ _ _ | .lookup _ | .enqueue _ | .deliver _ _ | .pop _ | .endLoop _
  | .stopStrategy _ _ _ | .haltAll _ _ _ | .proceed => inferInstanceAs (Decidable True)

/-- Every order manager has booked what its store has been filled with since it was opened. -/
structure BooksSince (objects : List Managed) (bases : List SQLiteOrderStore) : Prop where
  length_eq : bases.length = objects.length
  booked : ∀ (m : ManagerId) (o : Managed) (base : SQLiteOrderStore), objects[m]? = some o →
    bases[m]? = some base → BookedSince base o.account.1.positionKeeper o.account.1.orderStore

namespace BooksSince

variable {e : TradingEngine} {bases : List SQLiteOrderStore}

/-- A change of one order manager that keeps its books in step with the store. -/
lemma modify (h : BooksSince e.objects bases) (m : ManagerId) {f : Managed → Managed}
    (hf : ∀ o base, e.objects[m]? = some o →
      BookedSince base o.account.1.positionKeeper o.account.1.orderStore →
      BookedSince base (f o).account.1.positionKeeper (f o).account.1.orderStore) :
    BooksSince (e.modify m f).objects bases where
  length_eq := h.length_eq.trans (List.length_modify f e.objects m).symm
  booked := by
    intro m' o' base ho' hbase
    rw [objects_modify] at ho'
    obtain ⟨o, ho, rfl⟩ := Option.map_eq_some_iff.mp ho'
    have hbooked := h.booked m' o base ho hbase
    by_cases hm : m = m'
    · rw [if_pos hm]
      exact hf o base (hm ▸ ho) hbooked
    · rw [if_neg hm]
      exact hbooked

/-- A change of one order manager that does not touch its books. -/
lemma modify_of_account (h : BooksSince e.objects bases) (m : ManagerId) {f : Managed → Managed}
    (hf : ∀ o : Managed, (f o).account = o.account) : BooksSince (e.modify m f).objects bases := by
  refine h.modify m fun o base _ hbooked => ?_
  rw [hf o]
  exact hbooked

/-- A new order manager has booked nothing since its store was opened. -/
lemma register (h : BooksSince e.objects bases) (strategyId : StrategyId) (accountId : String)
    (store : SQLiteOrderStore) (riskManager : RiskManager) :
    BooksSince (e.step (.registerStrategy strategyId accountId store riskManager)).objects
      (bases ++ e.opened (.registerStrategy strategyId accountId store riskManager)) := by
  unfold TradingEngine.step registerStrategy opened
  dsimp only
  split_ifs
  swap
  · rwa [List.append_nil]
  constructor
  · rw [List.length_append, List.length_append, h.length_eq]
    rfl
  · intro m o base ho hbase
    dsimp only at ho
    rcases lt_trichotomy m e.objects.length with hlt | heq | hgt
    · rw [List.getElem?_append_left hlt] at ho
      rw [List.getElem?_append_left (h.length_eq ▸ hlt)] at hbase
      exact h.booked m o base ho hbase
    · rw [heq, List.getElem?_concat_length] at ho
      rw [heq, ← h.length_eq, List.getElem?_concat_length] at hbase
      obtain rfl := Option.some.inj ho
      obtain rfl := Option.some.inj hbase
      exact fun symbol => add_zero _
    · have hout : (e.objects ++ [Managed.mk (.start accountId store riskManager) {} none false
          .running]).length ≤ m := by
        rw [List.length_append]
        exact hgt
      rw [List.getElem?_eq_none hout] at ho
      cases ho

/-- An order manager has handled an event. -/
lemma finish (h : BooksSince e.objects bases) (m : ManagerId) (env : Env) (gateway : GatewayAnswers)
    (hclean : e.HandlesCleanly (.finish m env gateway)) :
    BooksSince (e.modify m (Managed.finish · env gateway)).objects bases := by
  refine h.modify m fun o base ho hbooked => ?_
  unfold Managed.finish
  cases hhandling : o.handling with
  | none => exact hbooked
  | some event =>
    obtain ⟨hok, hreport⟩ := hclean o ho event hhandling
    exact hbooked.of_move hok hreport (dispatch_move o.account.1 ⟨event, env, gateway⟩)

/-- **Step lemma.**  A step keeps the books in step with the stores. -/
theorem step (h : BooksSince e.objects bases) (a : Action) (hclean : e.HandlesCleanly a) :
    BooksSince (e.step a).objects (bases ++ e.opened a) := by
  by_cases hregister : ∃ strategyId accountId store riskManager,
      a = .registerStrategy strategyId accountId store riskManager
  · obtain ⟨strategyId, accountId, store, riskManager, rfl⟩ := hregister
    exact h.register strategyId accountId store riskManager
  have hnone : e.opened a = [] := by
    cases a with
    | registerStrategy strategyId accountId store riskManager =>
      exact absurd ⟨_, _, _, _, rfl⟩ hregister
    | _ => rfl
  rw [hnone, List.append_nil]
  have hstep := e.steps_step a
  generalize e.step a = e' at hstep ⊢
  cases hstep with
  | registered _ _ => exact absurd ⟨_, _, _, _, rfl⟩ hregister
  | finished => exact h.finish _ _ _ hclean
  | enqueued _ | delivered => exact h.modify_of_account _ fun o => (o.enqueue_account _).1
  | popped => exact h.modify_of_account _ fun o => o.pop_account.1
  | loopEnded => exact h.modify_of_account _ fun o => o.endLoop_account.1
  | cancelled _ _ => exact h.modify_of_account _ fun o => (o.enqueue_account _).1
  | stopped _ _ => exact h.modify_of_account _ fun o => o.stop_account.1
  | joined _ _ _ => exact h.modify_of_account _ fun o => rfl
  | found _ _ | stopBegun _ _ | haltBegun _ _ | awaited _ _ _ | returned _ _ | idle => exact h

/-- A run keeps the books in step with the stores. -/
lemma run (h : BooksSince e.objects bases) (actions : List Action)
    (hclean : Trajectory.AllSteps TradingEngine.step HandlesCleanly e actions) :
    BooksSince (Trajectory.run TradingEngine.step e actions).objects
      (bases ++ e.openedAll actions) := by
  induction actions generalizing e bases with
  | nil => exact (List.append_nil bases).symm ▸ h
  | cons a actions ih =>
    rw [Trajectory.run_cons, openedAll, ← List.append_assoc]
    exact ih (h.step a hclean.1) hclean.2

end BooksSince

/-! ## The queries -/

/-- What the orders of an order manager have been filled with in a symbol since its store was
opened. -/
def filledSince (e : TradingEngine) (bases : List SQLiteOrderStore) (symbol : String)
    (m : ManagerId) : ℚ :=
  match e.objects[m]?, bases[m]? with
  | some o, some base => o.account.1.orderStore.filledIn symbol - base.filledIn symbol
  | _, _ => 0

/-- The quantity that `GetPosition` reports; without a position there is none. -/
def reportedQuantity (managers : List PositionKeeper) (symbol : String) : ℚ :=
  match getPosition managers symbol with
  | .ok pos => pos.quantity
  | .error _ => 0

/-- The quantity that `GetAllPositions` lists for a symbol. -/
def listedQuantity (managers : List PositionKeeper) (symbol : String) : ℚ :=
  ((entriesOf managers symbol).map V1.Position.quantity).sum

/-- The positions that the strategies have add up to the quantities of their keepers. -/
lemma total_lots (managers : List PositionKeeper) (symbol : String) :
    total (lots managers symbol) =
      (managers.map fun manager => (manager.positionOf symbol).quantity).sum := by
  induction managers with
  | nil => rfl
  | cons manager managers ih =>
    unfold lots at ih ⊢
    rw [held_cons, List.map_append, total_append, ih, List.map_cons, List.sum_cons]
    congr 1
    unfold PositionKeeper.getPosition PositionKeeper.positionOf
    cases manager.positions.lookup symbol with
    | none => rfl
    | some pos => exact add_zero pos.quantity

/-- Both queries report the quantities of the keepers together. -/
lemma reportedQuantity_eq {managers : List PositionKeeper}
    (hkeyed : ∀ manager ∈ managers, manager.Keyed) (symbol : String) :
    reportedQuantity managers symbol = total (lots managers symbol) ∧
      listedQuantity managers symbol = total (lots managers symbol) := by
  unfold reportedQuantity listedQuantity
  cases hheld : held managers symbol with
  | nil =>
    have hnone : total (lots managers symbol) = 0 := by
      unfold lots
      rw [hheld]
      rfl
    rw [getPosition_eq, if_pos hheld, entriesOf_of_held_nil hkeyed hheld, hnone]
    exact ⟨rfl, rfl⟩
  | cons first rest =>
    obtain ⟨pos, hpos, hlot, -⟩ := getPosition_spec (hheld ▸ List.cons_ne_nil first rest)
    obtain ⟨entry, hentry, hlot', -⟩ := entriesOf_spec hkeyed hheld
    have hquantity : pos.quantity = total (lots managers symbol) := by
      have hmerged := quantity_mergeAll lastPrice ⟨0, 0⟩ (lots managers symbol)
      rw [← hlot] at hmerged
      exact hmerged.trans (zero_add _)
    have hquantity' : entry.quantity = total (lots managers symbol) := by
      have hmerged := quantity_mergeAll priceBefore ⟨0, first.avgPrice⟩ (lots managers symbol)
      rw [← hlot'] at hmerged
      exact hmerged.trans (zero_add _)
    rw [hpos, hentry]
    exact ⟨hquantity, (List.sum_singleton ..).trans hquantity'⟩

/-- The keepers of some order managers have booked what the stores were filled with. -/
lemma BooksSince.total_lots {e : TradingEngine} {bases : List SQLiteOrderStore}
    (h : BooksSince e.objects bases) (order : List ManagerId) (symbol : String) :
    total (lots (e.keepers order) symbol) = (order.map (e.filledSince bases symbol)).sum := by
  rw [TradingEngine.total_lots]
  induction order with
  | nil => rfl
  | cons m order ih =>
    unfold keepers filledSince at ih ⊢
    rw [List.map_cons, List.sum_cons, ← ih]
    cases ho : e.objects[m]? with
    | none =>
      rw [List.filterMap_cons_none (by rw [ho]; rfl)]
      exact (zero_add _).symm
    | some o =>
      have hm := (List.getElem?_eq_some_iff.mp ho).1
      have hbase := List.getElem?_eq_getElem (h.length_eq ▸ hm)
      have hbooked := h.booked m o _ ho hbase symbol
      rw [List.filterMap_cons_some (by rw [ho]; rfl), List.map_cons, List.sum_cons]
      simp only [hbase]
      linarith

/-- **The positions of the engine are those of its stores.**  In every run in which the events are
handled without a failure of the stores and the reports match their orders, both queries, in
whatever order they go through the strategies, report in every symbol what the orders in the stores
of the strategies have been filled with since the stores were opened. -/
theorem positions_match_stores (actions : List Action)
    (hclean : Trajectory.AllSteps TradingEngine.step HandlesCleanly {} actions)
    (order : List ManagerId) (symbol : String) :
    reportedQuantity ((Trajectory.run TradingEngine.step {} actions).keepers order) symbol =
        (order.map ((Trajectory.run TradingEngine.step {} actions).filledSince
          (openedAll {} actions) symbol)).sum ∧
      listedQuantity ((Trajectory.run TradingEngine.step {} actions).keepers order) symbol =
        (order.map ((Trajectory.run TradingEngine.step {} actions).filledSince
          (openedAll {} actions) symbol)).sum := by
  have hstart : BooksSince ({} : TradingEngine).objects [] := ⟨rfl, by simp⟩
  have hbooks := hstart.run actions hclean
  have hkeyed := (keyed_everyState actions).last
  have hkeepers : ∀ manager ∈ (Trajectory.run TradingEngine.step {} actions).keepers order,
      manager.Keyed := by
    intro manager hmanager
    obtain ⟨m, -, hm⟩ := List.mem_filterMap.mp hmanager
    obtain ⟨o, ho, rfl⟩ := Option.map_eq_some_iff.mp hm
    exact hkeyed o (List.mem_of_getElem? ho)
  obtain ⟨hreported, hlisted⟩ := reportedQuantity_eq hkeepers symbol
  rw [hreported, hlisted, hbooks.total_lots order symbol]
  exact ⟨rfl, rfl⟩

/-- Of an order for ten shares four are filled. -/
theorem positions_match_stores_partial :
    let buy : V1.StrategySignal :=
      { strategyId := "S", symbol := "AAPL", side := .buy, targetQuantity := 10 }
    let fill : V1.ExecutionReport :=
      { brokerOrderId := "B1", symbol := "AAPL", side := .buy, filledQuantity := 4
        avgFillPrice := 100 }
    let actions : List Action :=
      [.registerStrategy "S" "ACC" .empty ⟨{}⟩, .lookup (.submitSignal buy), .enqueue 0, .pop 0,
        .finish 0 .quiet (.accepting "B1"), .deliver 0 (.executionReport fill), .pop 0,
        .finish 0 .quiet (.accepting "B1")]
    (([0] : List ManagerId).map ((Trajectory.run TradingEngine.step {} actions).filledSince
      (openedAll {} actions) "AAPL")).sum = 4 := by
  intro buy fill actions
  have hmatch := (positions_match_stores actions (by decide +kernel) [0] "AAPL").1
  rw [← hmatch]
  decide +kernel

end TradingEngine

end Quarcc
