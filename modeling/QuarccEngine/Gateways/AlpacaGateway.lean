import Mathlib.Algebra.BigOperators.Group.List.Basic
import Mathlib.Algebra.Order.Ring.Rat
import Mathlib.Data.List.Induction
import QuarccEngine.Contracts
import QuarccEngine.Library.Trajectory
import QuarccEngine.Utils.OrderIds

/-!
# The Alpaca gateway

`alpaca_fix_gateway.cpp`: the handler of the trade updates.  An update carries what its order has
executed so far, a quantity and an average price, and the engine expects what each fill adds.  The
gateway keeps the last quantity and the last cost of every order that is under way, and reports the
differences.

The updates come from the SDK: their fields are modelled as they are after `std::stod` and
`value()`.
-/

namespace Quarcc

/-! ## Updates -/

namespace Alpaca

/-- `alpaca::OrderSide`. -/
inductive OrderSide where
  | buy
  | sell
  deriving DecidableEq

/-- `alpaca::TradeUpdateEvent`, with the events that the gateway does not mention as `other`. -/
inductive TradeUpdateEvent where
  | fill
  | partialFill
  | canceled
  | expired
  | replaced
  | rejected
  | other (name : String)
  deriving DecidableEq

/-- The fields of the order of an update that the gateway reads. -/
structure Order where
  id : BrokerOrderId
  symbol : String
  side : OrderSide
  filledQty : ℚ
  filledAvgPrice : ℚ

/-- `alpaca::TradeUpdate`. -/
structure TradeUpdate where
  event : TradeUpdateEvent
  order : Order

/-- The update is a fill of its order. -/
def TradeUpdate.Fills (u : TradeUpdate) : Prop := u.event = .fill ∨ u.event = .partialFill

instance : DecidablePred TradeUpdate.Fills :=
  fun u => inferInstanceAs (Decidable (u.event = .fill ∨ u.event = .partialFill))

/-- The update is the last one of its order. -/
def TradeUpdate.Ends (u : TradeUpdate) : Prop :=
  u.event = .fill ∨ u.event = .canceled ∨ u.event = .expired ∨ u.event = .replaced

instance : DecidablePred TradeUpdate.Ends := fun u =>
  inferInstanceAs (Decidable
    (u.event = .fill ∨ u.event = .canceled ∨ u.event = .expired ∨ u.event = .replaced))

/-- A fill that does not complete its order is not its last update. -/
lemma TradeUpdate.Fills.not_ends {u : TradeUpdate} (h : u.Fills) (hpart : u.event ≠ .fill) :
    ¬ u.Ends := by
  have hevent : u.event = .partialFill := h.resolve_left hpart
  unfold TradeUpdate.Ends
  rw [hevent]
  decide

end Alpaca

open Alpaca (TradeUpdate)

/-! ## The gateway -/

/-- What `AlpacaGateway` keeps of its orders, and the reports that it has passed to
`enqueue_report`. -/
structure AlpacaGateway where
  cumQty : AList fun _ : BrokerOrderId => ℚ := ∅
  cumCost : AList fun _ : BrokerOrderId => ℚ := ∅
  reports : List V1.ExecutionReport := []

namespace AlpacaGateway

/-- `order_enum_conversion`. -/
def orderEnumConversion : Alpaca.OrderSide → V1.Side
  | .buy => .buy
  | .sell => .sell

/-- What `onUpdate` does with a `fill` or a `partial_fill`. -/
def onFill (g : AlpacaGateway) (u : TradeUpdate) : AlpacaGateway :=
  let newCumQty := u.order.filledQty
  let newCumAvg := u.order.filledAvgPrice
  let newCumCost := newCumQty * newCumAvg
  let prevQty := (g.cumQty.lookup u.order.id).getD 0
  let prevCost := (g.cumCost.lookup u.order.id).getD 0
  let incrQty := newCumQty - prevQty
  let incrPrice := if 0 < incrQty then (newCumCost - prevCost) / incrQty else newCumAvg
  { cumQty :=
      if u.event = .fill then g.cumQty.erase u.order.id else g.cumQty.insert u.order.id newCumQty
    cumCost :=
      if u.event = .fill then g.cumCost.erase u.order.id else g.cumCost.insert u.order.id newCumCost
    reports := g.reports ++
      [{ brokerOrderId := u.order.id
         symbol := u.order.symbol
         side := orderEnumConversion u.order.side
         filledQuantity := incrQty
         avgFillPrice := incrPrice }] }

/-- `onUpdate`. -/
def onUpdate (g : AlpacaGateway) (u : TradeUpdate) : AlpacaGateway :=
  match u.event with
  | .fill | .partialFill => g.onFill u
  | .canceled | .expired | .replaced =>
    { g with cumQty := g.cumQty.erase u.order.id, cumCost := g.cumCost.erase u.order.id }
  | .rejected | .other _ => g

/-- The quantity that was reported for an order. -/
def reportedQty (g : AlpacaGateway) (id : BrokerOrderId) : ℚ :=
  ((g.reports.filter fun r => r.brokerOrderId = id).map V1.ExecutionReport.filledQuantity).sum

/-- The cost that was reported for an order. -/
def reportedCost (g : AlpacaGateway) (id : BrokerOrderId) : ℚ :=
  ((g.reports.filter fun r => r.brokerOrderId = id).map fun r =>
    r.filledQuantity * r.avgFillPrice).sum

end AlpacaGateway

/-! ## Cumulative quantities -/

/-- The last update that was a fill of the order. -/
def lastFill (updates : List TradeUpdate) (id : BrokerOrderId) : Option TradeUpdate :=
  (updates.filter fun u => u.order.id = id ∧ u.Fills).getLast?

/-- An amount of the order as its last fill gives it, zero before the first one. -/
def cumulative (amount : Alpaca.Order → ℚ) (updates : List TradeUpdate) (id : BrokerOrderId) : ℚ :=
  ((lastFill updates id).map fun u => amount u.order).getD 0

/-- The cost of what an order has executed. -/
def Alpaca.Order.cost (order : Alpaca.Order) : ℚ := order.filledQty * order.filledAvgPrice

/-- The updates of each order carry positive quantities that grow, and none comes after a `fill`,
`canceled`, `expired` or `replaced` one. -/
structure Cumulative (updates : List TradeUpdate) : Prop where
  pos : ∀ u ∈ updates, u.Fills → 0 < u.order.filledQty
  grows : updates.Pairwise fun u v =>
    u.order.id = v.order.id → u.Fills → v.Fills → u.order.filledQty < v.order.filledQty
  ends : updates.Pairwise fun u v => u.Ends → u.order.id ≠ v.order.id

/-- The order has had its last update. -/
def Ended (updates : List TradeUpdate) (id : BrokerOrderId) : Prop :=
  ∃ u ∈ updates, u.order.id = id ∧ u.Ends

variable {updates : List TradeUpdate} {u : TradeUpdate} {id : BrokerOrderId}

/-- One update more. -/
lemma lastFill_concat (updates : List TradeUpdate) (u : TradeUpdate) (id : BrokerOrderId) :
    lastFill (updates ++ [u]) id =
      if u.order.id = id ∧ u.Fills then some u else lastFill updates id := by
  unfold lastFill
  rw [List.filter_append]
  split_ifs with h
  · rw [List.filter_cons_of_pos (by simpa using h), List.filter_nil, List.getLast?_concat]
  · rw [List.filter_cons_of_neg (by simpa using h), List.filter_nil, List.append_nil]

lemma ended_concat :
    Ended (updates ++ [u]) id ↔ Ended updates id ∨ (u.order.id = id ∧ u.Ends) := by
  unfold Ended
  simp only [List.mem_append, List.mem_singleton]
  constructor
  · rintro ⟨v, hv | rfl, hend⟩
    · exact Or.inl ⟨v, hv, hend⟩
    · exact Or.inr hend
  · rintro (⟨v, hv, hend⟩ | hend)
    · exact ⟨v, Or.inl hv, hend⟩
    · exact ⟨u, Or.inr rfl, hend⟩

/-- The updates before the last one. -/
lemma Cumulative.init (h : Cumulative (updates ++ [u])) : Cumulative updates where
  pos := fun v hv => h.pos v (List.mem_append_left _ hv)
  grows := (List.pairwise_append.mp h.grows).1
  ends := (List.pairwise_append.mp h.ends).1

/-- An order that gets an update has not had its last one before. -/
lemma Cumulative.not_ended (h : Cumulative (updates ++ [u])) : ¬ Ended updates u.order.id := by
  rintro ⟨v, hv, hid, hend⟩
  exact (List.pairwise_append.mp h.ends).2.2 v hv u List.mem_cons_self hend hid

/-- A fill sets the amounts of its order. -/
lemma cumulative_fill (amount : Alpaca.Order → ℚ) (hfills : u.Fills) (id : BrokerOrderId) :
    cumulative amount (updates ++ [u]) id =
      if u.order.id = id then amount u.order else cumulative amount updates id := by
  unfold cumulative
  rw [lastFill_concat]
  by_cases hid : u.order.id = id
  · rw [if_pos ⟨hid, hfills⟩, if_pos hid]
    rfl
  · rw [if_neg fun h => hid h.1, if_neg hid]

/-- No other update changes an amount. -/
lemma cumulative_of_not_fills (amount : Alpaca.Order → ℚ) (hfills : ¬ u.Fills)
    (id : BrokerOrderId) :
    cumulative amount (updates ++ [u]) id = cumulative amount updates id := by
  unfold cumulative
  rw [lastFill_concat, if_neg fun h => hfills h.2]

/-- A fill adds to the quantity. -/
lemma Cumulative.qty_lt (h : Cumulative (updates ++ [u])) (hfills : u.Fills) :
    cumulative Alpaca.Order.filledQty updates u.order.id < u.order.filledQty := by
  unfold cumulative
  cases hlast : lastFill updates u.order.id with
  | none => exact h.pos u (List.mem_append_right _ List.mem_cons_self) hfills
  | some v =>
    have hmem := List.mem_of_getLast? hlast
    obtain ⟨hv, hboth⟩ := List.mem_filter.mp hmem
    obtain ⟨hid, hvfills⟩ := of_decide_eq_true hboth
    exact (List.pairwise_append.mp h.grows).2.2 v hv u List.mem_cons_self hid hvfills hfills

/-! ## What is kept of an order -/

/-- A map keeps an amount of the orders that have not ended, and nothing of those that have. -/
structure Keeps (kept : AList fun _ : BrokerOrderId => ℚ) (amount : Alpaca.Order → ℚ)
    (updates : List TradeUpdate) : Prop where
  going : ∀ id, ¬ Ended updates id → (kept.lookup id).getD 0 = cumulative amount updates id
  ended : ∀ id, Ended updates id → kept.lookup id = none

namespace Keeps

variable {kept : AList fun _ : BrokerOrderId => ℚ} {amount : Alpaca.Order → ℚ}

lemma nil (amount : Alpaca.Order → ℚ) : Keeps ∅ amount [] where
  going := fun _ _ => rfl
  ended := fun _ ⟨_, hmem, _⟩ => absurd hmem List.not_mem_nil

/-- A partial fill stores the amount. -/
lemma insert (h : Keeps kept amount updates) (hfills : u.Fills) (hends : ¬ u.Ends)
    (hopen : ¬ Ended updates u.order.id) :
    Keeps (kept.insert u.order.id (amount u.order)) amount (updates ++ [u]) := by
  refine ⟨fun id hid => ?_, fun id hid => ?_⟩
  · rw [ended_concat, not_or] at hid
    rw [FiniteMap.lookup_insert_eq, cumulative_fill amount hfills]
    by_cases heq : u.order.id = id
    · rw [if_pos heq, if_pos heq.symm, Option.getD_some]
    · rw [if_neg heq, if_neg (Ne.symm heq)]
      exact h.going id hid.1
  · rcases ended_concat.mp hid with hold | hnew
    · have hne : id ≠ u.order.id := by
        rintro rfl
        exact hopen hold
      rw [FiniteMap.lookup_insert_eq, if_neg hne]
      exact h.ended id hold
    · exact absurd hnew.2 hends

/-- The last update of an order erases the amount. -/
lemma erase (h : Keeps kept amount updates) (hends : u.Ends) :
    Keeps (kept.erase u.order.id) amount (updates ++ [u]) := by
  refine ⟨fun id hid => ?_, fun id hid => ?_⟩
  · rw [ended_concat, not_or] at hid
    have hne : u.order.id ≠ id := fun heq => hid.2 ⟨heq, hends⟩
    have hsame : cumulative amount (updates ++ [u]) id = cumulative amount updates id := by
      unfold cumulative
      rw [lastFill_concat, if_neg fun hboth => hne hboth.1]
    rw [FiniteMap.lookup_erase_eq, if_neg hne.symm, hsame]
    exact h.going id hid.1
  · rw [FiniteMap.lookup_erase_eq]
    rcases ended_concat.mp hid with hold | ⟨rfl, -⟩
    · split_ifs
      · rfl
      · exact h.ended id hold
    · rw [if_pos rfl]

/-- The other updates change nothing. -/
lemma skip (h : Keeps kept amount updates) (hfills : ¬ u.Fills) (hends : ¬ u.Ends) :
    Keeps kept amount (updates ++ [u]) := by
  refine ⟨fun id hid => ?_, fun id hid => ?_⟩
  · rw [ended_concat, not_or] at hid
    rw [cumulative_of_not_fills amount hfills]
    exact h.going id hid.1
  · rcases ended_concat.mp hid with hold | hnew
    · exact h.ended id hold
    · exact absurd hnew.2 hends

end Keeps

/-! ## Increments -/

namespace AlpacaGateway

/-- What the gateway has done with the updates so far: it has reported what they have executed, and
it keeps the quantities and the costs of the orders that have not ended. -/
structure Follows (g : AlpacaGateway) (updates : List TradeUpdate) : Prop where
  qty : ∀ id, g.reportedQty id = cumulative Alpaca.Order.filledQty updates id
  cost : ∀ id, g.reportedCost id = cumulative Alpaca.Order.cost updates id
  cumQty : Keeps g.cumQty Alpaca.Order.filledQty updates
  cumCost : Keeps g.cumCost Alpaca.Order.cost updates

variable {g : AlpacaGateway}

lemma follows_nil : ({} : AlpacaGateway).Follows [] :=
  ⟨fun _ => rfl, fun _ => rfl, Keeps.nil _, Keeps.nil _⟩

/-- The report of a fill adds the increment to its order, when there is one. -/
lemma reported_onFill (g : AlpacaGateway) (u : TradeUpdate)
    (hgrows : (g.cumQty.lookup u.order.id).getD 0 < u.order.filledQty) (id : BrokerOrderId) :
    (g.onFill u).reportedQty id =
        g.reportedQty id +
          (if u.order.id = id then
            u.order.filledQty - (g.cumQty.lookup u.order.id).getD 0 else 0) ∧
      (g.onFill u).reportedCost id =
        g.reportedCost id +
          (if u.order.id = id then
            u.order.cost - (g.cumCost.lookup u.order.id).getD 0 else 0) := by
  have hpos : 0 < u.order.filledQty - (g.cumQty.lookup u.order.id).getD 0 := sub_pos.mpr hgrows
  unfold reportedQty reportedCost onFill
  dsimp only
  rw [List.filter_append, if_pos hpos]
  by_cases hid : u.order.id = id
  · rw [if_pos hid, if_pos hid, List.filter_cons_of_pos (by simpa using hid), List.filter_nil,
      List.map_append, List.map_append, List.sum_append, List.sum_append, List.map_singleton,
      List.map_singleton, List.sum_singleton, List.sum_singleton]
    refine ⟨rfl, ?_⟩
    rw [mul_div_cancel₀ _ hpos.ne']
    rfl
  · rw [if_neg hid, if_neg hid, List.filter_cons_of_neg (by simpa using hid), List.filter_nil,
      List.append_nil, add_zero, add_zero]
    exact ⟨rfl, rfl⟩

/-- A fill is reported as what it adds. -/
lemma Follows.onFill (h : g.Follows updates) (hcum : Cumulative (updates ++ [u]))
    (hfills : u.Fills) : (g.onFill u).Follows (updates ++ [u]) := by
  have hopen := hcum.not_ended
  have hprevQty := h.cumQty.going u.order.id hopen
  have hprevCost := h.cumCost.going u.order.id hopen
  have hlt := hcum.qty_lt hfills
  rw [← hprevQty] at hlt
  have hreported := g.reported_onFill u hlt
  refine ⟨fun id => ?_, fun id => ?_, ?_, ?_⟩
  · -- the quantity before and the increment make up the new quantity
    rw [(hreported id).1, h.qty, hprevQty, cumulative_fill _ hfills]
    split_ifs with hid
    · rw [hid, add_sub_cancel]
    · rw [add_zero]
  · rw [(hreported id).2, h.cost, hprevCost, cumulative_fill _ hfills]
    split_ifs with hid
    · rw [hid, add_sub_cancel]
    · rw [add_zero]
  · unfold AlpacaGateway.onFill
    dsimp only
    split_ifs with hlast
    · exact h.cumQty.erase (Or.inl hlast)
    · exact h.cumQty.insert hfills (hfills.not_ends hlast) hopen
  · unfold AlpacaGateway.onFill
    dsimp only
    split_ifs with hlast
    · exact h.cumCost.erase (Or.inl hlast)
    · exact h.cumCost.insert hfills (hfills.not_ends hlast) hopen

/-- **Step lemma.** -/
lemma Follows.onUpdate (h : g.Follows updates) (hcum : Cumulative (updates ++ [u])) :
    (g.onUpdate u).Follows (updates ++ [u]) := by
  by_cases hfills : u.Fills
  · have heq : g.onUpdate u = g.onFill u := by
      unfold AlpacaGateway.onUpdate
      rcases hfills with hevent | hevent <;> rw [hevent]
    rw [heq]
    exact h.onFill hcum hfills
  · have hqty := fun id => (h.qty id).trans
      (cumulative_of_not_fills Alpaca.Order.filledQty hfills id).symm
    have hcost := fun id => (h.cost id).trans
      (cumulative_of_not_fills Alpaca.Order.cost hfills id).symm
    by_cases hends : u.Ends
    · have heq : g.onUpdate u =
          { g with
            cumQty := g.cumQty.erase u.order.id
            cumCost := g.cumCost.erase u.order.id } := by
        unfold AlpacaGateway.onUpdate
        rcases hends with hevent | hevent | hevent | hevent
        · exact absurd (Or.inl hevent) hfills
        all_goals rw [hevent]
      rw [heq]
      exact ⟨hqty, hcost, h.cumQty.erase hends, h.cumCost.erase hends⟩
    · have heq : g.onUpdate u = g := by
        unfold AlpacaGateway.onUpdate
        cases hevent : u.event with
        | fill => exact absurd (Or.inl hevent) hfills
        | partialFill => exact absurd (Or.inr hevent) hfills
        | canceled => exact absurd (Or.inr (Or.inl hevent)) hends
        | expired => exact absurd (Or.inr (Or.inr (Or.inl hevent))) hends
        | replaced => exact absurd (Or.inr (Or.inr (Or.inr hevent))) hends
        | rejected => rfl
        | other name => rfl
      rw [heq]
      exact ⟨hqty, hcost, h.cumQty.skip hfills hends, h.cumCost.skip hfills hends⟩

/-- After cumulative updates the gateway has reported what they have executed. -/
lemma follows_run (hcum : Cumulative updates) :
    (Trajectory.run onUpdate {} updates).Follows updates := by
  induction updates using List.reverseRecOn with
  | nil => exact follows_nil
  | append_singleton updates u ih =>
    have hrun : Trajectory.run onUpdate {} (updates ++ [u]) =
        (Trajectory.run onUpdate {} updates).onUpdate u := by
      unfold Trajectory.run
      rw [List.foldl_append]
      rfl
    rw [hrun]
    exact (ih hcum.init).onUpdate hcum

/-- **Increments telescope.**  After any updates of any orders, the reports of each order add up to
the quantity and the cost of its last fill, and nothing is kept of an order that has had its last
update. -/
theorem reports_telescope (hcum : Cumulative updates) (id : BrokerOrderId) :
    (Trajectory.run onUpdate {} updates).reportedQty id =
        cumulative Alpaca.Order.filledQty updates id ∧
      (Trajectory.run onUpdate {} updates).reportedCost id =
        cumulative Alpaca.Order.cost updates id ∧
      (Ended updates id →
        (Trajectory.run onUpdate {} updates).cumQty.lookup id = none ∧
          (Trajectory.run onUpdate {} updates).cumCost.lookup id = none) := by
  have h := follows_run hcum
  exact ⟨h.qty id, h.cost id, fun hended => ⟨h.cumQty.ended id hended, h.cumCost.ended id hended⟩⟩

/-- Two orders that are filled in turns, one of them to its end. -/
def twoOrders : List TradeUpdate :=
  [⟨.partialFill, ⟨"A", "AAPL", .buy, 4, 100⟩⟩, ⟨.partialFill, ⟨"B", "MSFT", .sell, 1, 50⟩⟩,
    ⟨.fill, ⟨"A", "AAPL", .buy, 10, 103⟩⟩]

/-- The second report of the first order is 6 at 105. -/
theorem reports_telescope_twoOrders :
    Cumulative twoOrders ∧ Ended twoOrders "A" ∧
      (Trajectory.run onUpdate {} twoOrders).reports.map
          (fun r => (r.brokerOrderId, r.filledQuantity, r.avgFillPrice)) =
        [("A", 4, 100), ("B", 1, 50), ("A", 6, 105)] ∧
      (Trajectory.run onUpdate {} twoOrders).reportedCost "A" =
        cumulative Alpaca.Order.cost twoOrders "A" ∧
      (Trajectory.run onUpdate {} twoOrders).cumQty.lookup "A" = none := by
  have hcum : Cumulative twoOrders := ⟨by decide +kernel, by decide +kernel, by decide +kernel⟩
  have hended : Ended twoOrders "A" :=
    ⟨_, List.mem_cons_of_mem _ (List.mem_cons_of_mem _ List.mem_cons_self), rfl, Or.inl rfl⟩
  obtain ⟨-, hcost, hgone⟩ := reports_telescope hcum "A"
  exact ⟨hcum, hended, by decide +kernel, hcost, (hgone hended).1⟩

end AlpacaGateway

end Quarcc
