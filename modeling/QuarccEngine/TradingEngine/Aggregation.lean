import QuarccEngine.Core.Positions
import QuarccEngine.Core.TradingEngine
import QuarccEngine.Library.Netting
import QuarccEngine.Library.Trajectory
import QuarccEngine.OrderManager.Moves
import QuarccEngine.TradingEngine.Lifetimes

/-!
# The position queries

`GetPosition` and `GetAllPositions` both net the positions of the strategies in a symbol, in the
sense of the library, and differ in the price that a merge gives to a flat result: `GetPosition`
takes the price of the last position, `GetAllPositions` keeps the price before.

Neither price matters, since a flat result has no value; but what was dropped there is missing
later.  The first result says when the queries report the average price of all positions, the second
one when they agree with each other.
-/

namespace Quarcc

open Netting

/-! ## The keepers of the engine -/

/-- A move keeps the positions under their symbols. -/
lemma PositionKeeper.Keyed.of_move {s : OrderManager} {i : Input} {ok : Prop}
    {done : List GatewayEffect} {b : Books} (h : s.positionKeeper.Keyed)
    (hmove : Move s i ok done b) :
    b.positionKeeper.Keyed := by
  cases hmove with
  | stay _ | skip _ _ | refuse _ _ _ _ _ | lose _ _ _ _ _ _ _ | accept _ _ _ _ _ _ => exact h
  | cancel _ _ _ | unmap _ _ _ | forget _ _ _ _ _ | retire _ _ _ _ _ | replace _ _ _ _ _ => exact h
  | killSwitch _ _ _ _ =>
    rw [Books.kills_positionKeeper]
    exact h
  | @close report localId status updated _ _ _ _ _ =>
    rw [Books.close_positionKeeper]
    exact h
  | fill _ _ _ _ _ _ =>
    rw [Books.fill_positionKeeper]
    exact h.onFill _ _ _ _

namespace TradingEngine

/-- The position keepers of the order managers, in the given order. -/
def keepers (e : TradingEngine) (order : List ManagerId) : List PositionKeeper :=
  order.filterMap fun m => e.objects[m]?.map fun o => o.account.1.positionKeeper

/-- All order managers have their positions under their symbols. -/
def Keyed (e : TradingEngine) : Prop :=
  ∀ o ∈ e.objects, o.account.1.positionKeeper.Keyed

variable {e : TradingEngine}

/-- A change of one order manager that keeps its positions under their symbols. -/
lemma Keyed.modify (h : e.Keyed) (m : ManagerId) {f : Managed → Managed}
    (hf : ∀ o : Managed, o.account.1.positionKeeper.Keyed →
      (f o).account.1.positionKeeper.Keyed) : (e.modify m f).Keyed := by
  intro o' ho'
  obtain ⟨m', hm'⟩ := List.getElem?_of_mem ho'
  rw [objects_modify] at hm'
  obtain ⟨o, ho, rfl⟩ := Option.map_eq_some_iff.mp hm'
  have hkeyed := h o (List.mem_of_getElem? ho)
  split_ifs
  · exact hf o hkeyed
  · exact hkeyed

/-- A change of one order manager that does not touch its books. -/
lemma Keyed.modify_of_account (h : e.Keyed) (m : ManagerId) {f : Managed → Managed}
    (hf : ∀ o : Managed, (f o).account = o.account) : (e.modify m f).Keyed := by
  refine h.modify m fun o hkeyed => ?_
  rw [hf o]
  exact hkeyed

/-- **Step lemma.**  A step keeps the positions under their symbols. -/
theorem Keyed.step (h : e.Keyed) (a : Action) : (e.step a).Keyed := by
  have hstep := e.steps_step a
  generalize e.step a = e' at hstep ⊢
  cases hstep with
  | registered hnone hnew =>
    intro o ho
    rcases List.mem_append.mp ho with hold | hnew
    · exact h o hold
    · obtain rfl := List.mem_singleton.mp hnew
      exact PositionKeeper.keyed_empty
  | enqueued hcall => exact h.modify_of_account _ fun o => (o.enqueue_account _).1
  | delivered => exact h.modify_of_account _ fun o => (o.enqueue_account _).1
  | popped => exact h.modify_of_account _ fun o => o.pop_account.1
  | @finished m env gateway =>
    refine h.modify m fun o hkeyed => ?_
    unfold Managed.finish
    cases o.handling with
    | none => exact hkeyed
    | some event => exact hkeyed.of_move (dispatch_move o.account.1 ⟨event, env, gateway⟩)
  | loopEnded => exact h.modify_of_account _ fun o => o.endLoop_account.1
  | cancelled hkill htodo => exact h.modify_of_account _ fun o => (o.enqueue_account _).1
  | stopped hkill htodo => exact h.modify_of_account _ fun o => o.stop_account.1
  | joined hkill htodo hended => exact h.modify_of_account _ fun o => rfl
  | found _ _ | stopBegun _ _ | haltBegun _ _ | awaited _ _ _ | returned _ _ | idle => exact h

/-- In every state of a run, the positions are stored under their symbols. -/
theorem keyed_everyState (actions : List Action) :
    Trajectory.EveryState TradingEngine.step Keyed {} actions := by
  refine Trajectory.everyState_of_step (fun e a h => h.step a) ?_
  intro o ho
  exact absurd ho List.not_mem_nil

end TradingEngine

/-! ## The queries as netting -/

/-- A position as a lot. -/
def V1.Position.lot (pos : V1.Position) : Lot ℚ := ⟨pos.quantity, pos.avgPrice⟩

/-- `GetPosition` gives a flat result the price of the position that was added. -/
def lastPrice (combined pos : Lot ℚ) : ℚ :=
  if pos.quantity = 0 then combined.price else pos.price

/-- `GetAllPositions` leaves a flat result the price before. -/
def priceBefore (existing _ : Lot ℚ) : ℚ := existing.price

/-- A lot of quantity zero keeps the price, in both conventions. -/
lemma lastPrice_of_flat (held lot : Lot ℚ) (h : lot.quantity = 0) :
    lastPrice held lot = held.price :=
  if_pos h

lemma priceBefore_of_flat (held lot : Lot ℚ) (_ : lot.quantity = 0) :
    priceBefore held lot = held.price := rfl

namespace TradingEngine

/-- The positions that the strategies have in a symbol, as lots. -/
def lots (managers : List PositionKeeper) (symbol : String) : List (Lot ℚ) :=
  (held managers symbol).map V1.Position.lot

/-- `GetPosition` merges. -/
lemma lot_combine (combined pos : V1.Position) :
    (combine combined pos).lot = merge lastPrice combined.lot pos.lot := by
  unfold combine merge lastPrice V1.Position.lot Lot.value
  dsimp only
  congr 1
  by_cases hnew : combined.quantity + pos.quantity = 0
  · by_cases hpos : pos.quantity = 0 <;> simp [hnew, hpos]
  · by_cases hold : combined.quantity = 0
    · have hpos : pos.quantity ≠ 0 := by simpa [hold] using hnew
      simp [hold, hpos]
    · simp [hnew, hold]

/-- `GetAllPositions` merges. -/
lemma lot_updateExisting (existing pos : V1.Position) :
    (updateExisting existing pos).lot = merge priceBefore existing.lot pos.lot := by
  unfold updateExisting merge priceBefore V1.Position.lot Lot.value
  dsimp only
  congr 1
  by_cases hnew : existing.quantity + pos.quantity = 0 <;> simp [hnew]

/-- The loop of `GetPosition` merges all positions. -/
lemma lot_foldl_combine (combined : V1.Position) (positions : List V1.Position) :
    (positions.foldl combine combined).lot =
      mergeAll lastPrice combined.lot (positions.map V1.Position.lot) := by
  induction positions generalizing combined with
  | nil => rfl
  | cons pos positions ih =>
    rw [List.foldl_cons, ih, lot_combine, List.map_cons, mergeAll_cons]

/-- The loops of `GetAllPositions` merge all positions. -/
lemma lot_foldl_updateExisting (existing : V1.Position) (positions : List V1.Position) :
    (positions.foldl updateExisting existing).lot =
      mergeAll priceBefore existing.lot (positions.map V1.Position.lot) := by
  induction positions generalizing existing with
  | nil => rfl
  | cons pos positions ih =>
    rw [List.foldl_cons, ih, lot_updateExisting, List.map_cons, mergeAll_cons]

/-- A position that is copied is as good as one that is merged into a flat one. -/
lemma merge_copied (pos : V1.Position) :
    merge priceBefore ⟨0, pos.avgPrice⟩ pos.lot = pos.lot := by
  unfold merge priceBefore V1.Position.lot Lot.value
  dsimp only
  rw [zero_add, zero_mul, zero_add]
  congr 1
  by_cases hpos : pos.quantity = 0
  · rw [if_pos hpos]
  · rw [if_neg hpos, mul_div_cancel_left₀ _ hpos]

variable {managers : List PositionKeeper} {symbol : String}

/-- What `GetPosition` reports, when a strategy has a position in the symbol. -/
lemma getPosition_spec (hheld : held managers symbol ≠ []) :
    ∃ pos, getPosition managers symbol = .ok pos ∧
      pos.lot = mergeAll lastPrice ⟨0, 0⟩ (lots managers symbol) ∧ pos.realizedPnl = 0 := by
  have hpnl : ∀ (positions : List V1.Position) (combined : V1.Position),
      (positions.foldl combine combined).realizedPnl = combined.realizedPnl := by
    intro positions
    induction positions with
    | nil => exact fun _ => rfl
    | cons pos positions ih => exact fun combined => ih (combine combined pos)
  refine ⟨_, (getPosition_eq managers symbol).trans (if_neg hheld), ?_, hpnl _ _⟩
  exact lot_foldl_combine _ _

/-- What `GetAllPositions` reports, when a strategy has a position in the symbol. -/
lemma entriesOf_spec (hkeyed : ∀ manager ∈ managers, manager.Keyed) {first : V1.Position}
    {rest : List V1.Position} (hheld : held managers symbol = first :: rest) :
    ∃ entry, entriesOf managers symbol = [entry] ∧
      entry.lot = mergeAll priceBefore ⟨0, first.avgPrice⟩ (lots managers symbol) ∧
      entry.realizedPnl = first.realizedPnl := by
  have hpnl : ∀ (positions : List V1.Position) (existing : V1.Position),
      (positions.foldl updateExisting existing).realizedPnl = existing.realizedPnl := by
    intro positions
    induction positions with
    | nil => exact fun _ => rfl
    | cons pos positions ih => exact fun existing => ih (updateExisting existing pos)
  have hentries := entriesOf_eq hkeyed symbol
  have hcopy : nextEntry none first = some first := rfl
  rw [hheld, List.foldl_cons, hcopy, foldl_nextEntry, Option.toList_some] at hentries
  refine ⟨_, hentries, ?_, hpnl _ _⟩
  unfold lots
  rw [lot_foldl_updateExisting, hheld, List.map_cons, mergeAll_cons, merge_copied]

/-- Nothing is reported in a symbol in which no strategy has a position. -/
lemma entriesOf_of_held_nil (hkeyed : ∀ manager ∈ managers, manager.Keyed)
    (hheld : held managers symbol = []) : entriesOf managers symbol = [] := by
  have hentries := entriesOf_eq hkeyed symbol
  rw [hheld] at hentries
  exact hentries

end TradingEngine

/-! ## The average price of all positions -/

/-- The position has the quantity and the average price of several lots together. -/
structure V1.Position.IsNet (pos : V1.Position) (lots : List (Lot ℚ)) : Prop where
  quantity_eq : pos.quantity = total lots
  avgPrice_eq : total lots ≠ 0 → pos.avgPrice = value lots / total lots

/-- Both queries report what the strategies have in the symbol together, if they have anything. -/
def TradingEngine.ReportsNet (managers : List PositionKeeper) (symbol : String) : Prop :=
  held managers symbol ≠ [] →
    (∃ pos, getPosition managers symbol = .ok pos ∧ pos.IsNet (lots managers symbol)) ∧
      ∃ entry, entriesOf managers symbol = [entry] ∧ entry.IsNet (lots managers symbol)

/-- A position that was merged has the quantity of the lots, and their average price exactly when no
value was dropped. -/
lemma V1.Position.isNet_iff {pos : V1.Position} {lots : List (Lot ℚ)}
    {flatPrice : Lot ℚ → Lot ℚ → ℚ} {price : ℚ}
    (h : pos.lot = mergeAll flatPrice ⟨0, price⟩ lots) :
    pos.IsNet lots ↔ (total lots ≠ 0 → KeepsValue lots) := by
  have hquantity : pos.quantity = total lots := by
    have hmerged := quantity_mergeAll flatPrice ⟨0, price⟩ lots
    rw [← h] at hmerged
    exact hmerged.trans (zero_add _)
  have hprice : total lots ≠ 0 → (pos.avgPrice = value lots / total lots ↔ KeepsValue lots) := by
    intro hopen
    have hiff := price_mergeAll_eq_iff flatPrice (rfl : (⟨0, price⟩ : Lot ℚ).quantity = 0) hopen
    rw [← h] at hiff
    exact hiff
  constructor
  · intro hnet hopen
    exact (hprice hopen).mp (hnet.avgPrice_eq hopen)
  · intro hkeeps
    exact ⟨hquantity, fun hopen => (hprice hopen).mpr (hkeeps hopen)⟩

/-- **When the queries net the positions.**  Both queries report the sum of the quantities and,
unless it is zero, the average price of all positions, exactly when the positions that have been
gone through have no value together where they cancel for the last time. -/
theorem positions_net_iff (managers : List KeyedKeeper) (symbol : String) :
    TradingEngine.ReportsNet (managers.map Subtype.val) symbol ↔
      (total (TradingEngine.lots (managers.map Subtype.val) symbol) ≠ 0 →
        KeepsValue (TradingEngine.lots (managers.map Subtype.val) symbol)) := by
  have hkeyed : ∀ manager ∈ managers.map Subtype.val, manager.Keyed := by
    intro manager hmanager
    obtain ⟨keeper, -, rfl⟩ := List.mem_map.mp hmanager
    exact keeper.2
  generalize managers.map Subtype.val = managers at hkeyed ⊢
  unfold TradingEngine.ReportsNet
  cases hheld : TradingEngine.held managers symbol with
  | nil =>
    have hlots : TradingEngine.lots managers symbol = [] := by
      unfold TradingEngine.lots
      rw [hheld, List.map_nil]
    rw [hlots]
    exact iff_of_true (fun h => absurd rfl h) fun h => absurd total_nil h
  | cons first rest =>
    have hne : TradingEngine.held managers symbol ≠ [] := by simp [hheld]
    obtain ⟨pos, hpos, hlot, -⟩ := TradingEngine.getPosition_spec hne
    obtain ⟨entry, hentry, hlot', -⟩ := TradingEngine.entriesOf_spec hkeyed hheld
    have hnet := V1.Position.isNet_iff hlot
    have hnet' := V1.Position.isNet_iff hlot'
    constructor
    · intro h
      obtain ⟨⟨pos', hpos', hnetPos⟩, -⟩ := h (by simp)
      obtain rfl := Except.ok.inj (hpos.symm.trans hpos')
      exact hnet.mp hnetPos
    · intro hkeeps _
      exact ⟨⟨pos, hpos, hnet.mpr hkeeps⟩, entry, hentry, hnet'.mpr hkeeps⟩

/-- The keeper of a strategy that has bought ten shares at 100. -/
def boughtTen : KeyedKeeper :=
  ⟨({} : PositionKeeper).onFill "AAPL" 10 100 .buy, PositionKeeper.keyed_empty.onFill _ _ _ _⟩

/-- The keeper of a strategy that has sold ten shares short at 110. -/
def soldTen : KeyedKeeper :=
  ⟨({} : PositionKeeper).onFill "AAPL" 10 110 .sell, PositionKeeper.keyed_empty.onFill _ _ _ _⟩

/-- The keeper of a strategy that has bought five shares at 120. -/
def boughtFive : KeyedKeeper :=
  ⟨({} : PositionKeeper).onFill "AAPL" 5 120 .buy, PositionKeeper.keyed_empty.onFill _ _ _ _⟩

/-- Ten long and ten short cancel and the next five are reported at their own price of 120, although
all positions together have an average of 100. -/
theorem positions_not_net :
    let managers := [boughtTen, soldTen, boughtFive].map Subtype.val
    TradingEngine.getPosition managers "AAPL" =
        .ok { symbol := "AAPL", quantity := 5, avgPrice := 120 } ∧
      value (TradingEngine.lots managers "AAPL") /
        total (TradingEngine.lots managers "AAPL") = 100 ∧
      ¬ TradingEngine.ReportsNet managers "AAPL" := by
  intro managers
  have hreported : TradingEngine.getPosition managers "AAPL" =
      .ok { symbol := "AAPL", quantity := 5, avgPrice := 120 } := by decide +kernel
  have htotal : total (TradingEngine.lots managers "AAPL") = 5 := by decide +kernel
  have haverage : value (TradingEngine.lots managers "AAPL") /
      total (TradingEngine.lots managers "AAPL") = 100 := by decide +kernel
  refine ⟨hreported, haverage, fun h => ?_⟩
  have hheld : TradingEngine.held managers "AAPL" ≠ [] := by decide +kernel
  obtain ⟨⟨pos, hpos, hnet⟩, -⟩ := h hheld
  obtain rfl := Except.ok.inj (hreported.symm.trans hpos)
  have hprice := hnet.avgPrice_eq (by rw [htotal]; norm_num)
  rw [haverage] at hprice
  norm_num at hprice

/-! ## Agreement of the queries -/

namespace TradingEngine

/-- Both queries have a position in the symbol or neither has, and they report the same, with the
realized profit of all strategies. -/
structure QueriesAgree (managers : List PositionKeeper) (symbol : String) : Prop where
  found_iff : (∃ pos, getPosition managers symbol = .ok pos) ↔
    (entriesOf managers symbol).length = 1
  same : ∀ pos entry, getPosition managers symbol = .ok pos → entry ∈ entriesOf managers symbol →
    pos.quantity = entry.quantity ∧ pos.avgPrice = entry.avgPrice ∧
      pos.realizedPnl = ((held managers symbol).map V1.Position.realizedPnl).sum ∧
      entry.realizedPnl = ((held managers symbol).map V1.Position.realizedPnl).sum

/-- The strategies have realized nothing together, and the first one nothing at all. -/
def NothingRealized (positions : List V1.Position) : Prop :=
  (positions.map V1.Position.realizedPnl).sum = 0 ∧
    ∀ first ∈ positions.head?, first.realizedPnl = 0

/-- Where the positions cancel, both conventions give the same price: nothing is open and the first
position has no price, or the position that is the last to be offset, and what it offsets, have no
value together. -/
structure SameFlatPrice (positions : List V1.Position) : Prop where
  unopened : (∀ pos ∈ positions, pos.quantity = 0) →
    ∀ first ∈ positions.head?, first.avgPrice = 0
  offset : ∀ front back lot rest, positions.map V1.Position.lot = front ++ back ++ lot :: rest →
    total front = 0 → NeverFlat back → lot.quantity ≠ 0 → total back + lot.quantity = 0 →
      (∀ lot' ∈ rest, lot'.quantity = 0) → value back + lot.value = 0

/-- At an offset one convention takes the price of the lot, the other one the average before: they
agree when the lot that offsets gives back the value of the lots before. -/
lemma flatPrice_eq_iff_of_offset {lots front back rest : List (Lot ℚ)} {lot : Lot ℚ} {price : ℚ}
    (hsplit : lots = front ++ back ++ lot :: rest) (hfront : total front = 0)
    (hback : NeverFlat back) (hlot : lot.quantity ≠ 0) (hoffset : total back + lot.quantity = 0)
    (hrest : ∀ lot' ∈ rest, lot'.quantity = 0) :
    (mergeAll lastPrice ⟨0, 0⟩ lots).price = (mergeAll priceBefore ⟨0, price⟩ lots).price ↔
      value back + lot.value = 0 := by
  obtain ⟨before, -, hprice⟩ :=
    mergeAll_of_offset ⟨0, 0⟩ lastPrice_of_flat rfl hfront hback hlot hoffset hrest
  obtain ⟨before', hbefore', hprice'⟩ :=
    mergeAll_of_offset ⟨0, price⟩ priceBefore_of_flat rfl hfront hback hlot hoffset hrest
  have hopen : total back = -lot.quantity := eq_neg_of_add_eq_zero_left hoffset
  rw [hsplit, hprice, hprice']
  unfold lastPrice priceBefore
  rw [if_neg hlot, hbefore', hopen, eq_div_iff (neg_ne_zero.mpr hlot)]
  unfold Lot.value
  constructor <;> intro h <;> linarith

/-- When the lots cancel, the two conventions agree exactly under the condition above. -/
lemma flatPrice_eq_iff {first : V1.Position} {rest : List V1.Position}
    (hflat : total ((first :: rest).map V1.Position.lot) = 0) :
    (mergeAll lastPrice ⟨0, 0⟩ ((first :: rest).map V1.Position.lot)).price =
        (mergeAll priceBefore ⟨0, first.avgPrice⟩ ((first :: rest).map V1.Position.lot)).price ↔
      SameFlatPrice (first :: rest) := by
  generalize hpositions : first :: rest = positions at hflat ⊢
  have hhead : ∀ pos ∈ positions.head?, pos = first := by
    subst hpositions
    simp
  have hunopened : (∀ lot ∈ positions.map V1.Position.lot, lot.quantity = 0) ↔
      ∀ pos ∈ positions, pos.quantity = 0 := List.forall_mem_map
  obtain hzero | ⟨before, lot, tail, hsplit, hlot, htail⟩ :=
    exists_lastOpen (positions.map V1.Position.lot)
  · rw [mergeAll_of_flat lastPrice_of_flat rfl hzero,
      mergeAll_of_flat priceBefore_of_flat rfl hzero]
    constructor
    · intro hprice
      refine ⟨fun _ pos hpos => ?_, ?_⟩
      · rw [hhead pos hpos]
        exact hprice.symm
      · intro front back lot tail hsplit _ _ hlot
        refine absurd (hzero lot ?_) hlot
        rw [hsplit]
        simp
    · intro hsame
      refine (hsame.unopened (hunopened.mp hzero) first ?_).symm
      rw [← hpositions]
      rfl
  · have hnot : ¬ ∀ pos ∈ positions, pos.quantity = 0 := by
      rw [← hunopened]
      intro hzero
      refine hlot (hzero lot ?_)
      rw [hsplit]
      simp
    constructor
    · intro hprice
      refine ⟨fun hzero => absurd hzero hnot, ?_⟩
      intro front back lot tail hsplit hfront hback hlot hcancel htail
      exact (flatPrice_eq_iff_of_offset hsplit hfront hback hlot hcancel htail).mp hprice
    · intro hsame
      obtain ⟨front, back, rfl, hfront, hback⟩ := exists_lastFlat before
      have hcancel : total back + lot.quantity = 0 := by
        rw [hsplit, total_append, total_append, hfront, total_cons, total_eq_zero htail] at hflat
        linarith
      apply (flatPrice_eq_iff_of_offset hsplit hfront hback hlot hcancel htail).mpr
      exact hsame.offset front back lot tail hsplit hfront hback hlot hcancel htail

end TradingEngine

/-- **When the queries agree.**  The two queries always have the same symbols.  They report the
same, with the realized profit of all strategies, exactly when nothing was realized, by all
strategies together and by the first one, and the conventions give the same price where the
positions cancel.  The two queries compute the price along different terms, which agree as exact
numbers. -/
theorem queries_agree_iff (managers : List KeyedKeeper) (symbol : String) :
    TradingEngine.QueriesAgree (managers.map Subtype.val) symbol ↔
      TradingEngine.NothingRealized (TradingEngine.held (managers.map Subtype.val) symbol) ∧
        (total (TradingEngine.lots (managers.map Subtype.val) symbol) = 0 →
          TradingEngine.SameFlatPrice (TradingEngine.held (managers.map Subtype.val) symbol)) := by
  have hkeyed : ∀ manager ∈ managers.map Subtype.val, manager.Keyed := by
    intro manager hmanager
    obtain ⟨keeper, -, rfl⟩ := List.mem_map.mp hmanager
    exact keeper.2
  generalize managers.map Subtype.val = managers at hkeyed ⊢
  have hlots : TradingEngine.lots managers symbol =
      (TradingEngine.held managers symbol).map V1.Position.lot := rfl
  cases hheld : TradingEngine.held managers symbol with
  | nil =>
    have hpos := TradingEngine.getPosition_eq managers symbol
    rw [if_pos hheld] at hpos
    have hentries := TradingEngine.entriesOf_of_held_nil hkeyed hheld
    refine iff_of_true ⟨?_, ?_⟩ ⟨⟨rfl, by simp⟩, fun _ => ⟨by simp, ?_⟩⟩
    · rw [hpos, hentries]
      simp
    · intro pos entry hfound
      rw [hpos] at hfound
      cases hfound
    · intro front back lot rest hsplit
      have hlot : lot ∈ [].map V1.Position.lot := by
        rw [hsplit]
        simp
      exact absurd hlot List.not_mem_nil
  | cons first rest =>
    have hne : TradingEngine.held managers symbol ≠ [] := by simp [hheld]
    obtain ⟨pos, hpos, hlot, hpnl⟩ := TradingEngine.getPosition_spec hne
    obtain ⟨entry, hentry, hlot', hpnl'⟩ := TradingEngine.entriesOf_spec hkeyed hheld
    have hquantity : pos.quantity = entry.quantity := by
      have hnet := congrArg Lot.quantity hlot
      have hnet' := congrArg Lot.quantity hlot'
      rw [quantity_mergeAll] at hnet hnet'
      exact hnet.trans hnet'.symm
    have hprice : pos.avgPrice = entry.avgPrice ↔
        (total (TradingEngine.lots managers symbol) = 0 →
          TradingEngine.SameFlatPrice (first :: rest)) := by
      have havg : pos.avgPrice = _ := congrArg Lot.price hlot
      have havg' : entry.avgPrice = _ := congrArg Lot.price hlot'
      rw [havg, havg']
      by_cases hflat : total (TradingEngine.lots managers symbol) = 0
      · rw [hlots, hheld] at hflat ⊢
        rw [TradingEngine.flatPrice_eq_iff hflat]
        exact ⟨fun h _ => h, fun h => h hflat⟩
      · exact iff_of_true (mergeAll_congr rfl rfl hflat) fun h => absurd h hflat
    have hrealized : TradingEngine.NothingRealized (first :: rest) ↔
        pos.realizedPnl = ((first :: rest).map V1.Position.realizedPnl).sum ∧
          entry.realizedPnl = ((first :: rest).map V1.Position.realizedPnl).sum := by
      unfold TradingEngine.NothingRealized
      rw [hpnl, hpnl']
      constructor
      · rintro ⟨hsum, hfirst⟩
        exact ⟨hsum.symm, (hfirst first rfl).trans hsum.symm⟩
      · rintro ⟨hsum, hfirst⟩
        refine ⟨hsum.symm, fun pos hpos => ?_⟩
        obtain rfl := Option.some.inj hpos
        exact hfirst.trans hsum.symm
    rw [hrealized, ← hprice]
    constructor
    · intro h
      obtain ⟨-, havg, hpnlSum⟩ :=
        h.same pos entry hpos (by rw [hentry]; exact List.mem_singleton_self entry)
      rw [hheld] at hpnlSum
      exact ⟨hpnlSum, havg⟩
    · rintro ⟨hpnlSum, havg⟩
      refine ⟨iff_of_true ⟨pos, hpos⟩ (by rw [hentry]; rfl), ?_⟩
      intro pos' entry' hpos' hentry'
      obtain rfl := Except.ok.inj (hpos.symm.trans hpos')
      rw [hentry] at hentry'
      obtain rfl := List.mem_singleton.mp hentry'
      rw [hheld]
      exact ⟨hquantity, havg, hpnlSum⟩

/-- The keeper of a strategy that has bought ten shares at 100 and sold them at 110. -/
def roundTrip : KeyedKeeper :=
  ⟨boughtTen.1.onFill "AAPL" 10 110 .sell, boughtTen.2.onFill _ _ _ _⟩

/-- The profit that a strategy has realized is missing from `GetPosition`. -/
theorem queries_disagree :
    let managers := [roundTrip].map Subtype.val
    TradingEngine.getPosition managers "AAPL" = .ok { symbol := "AAPL" } ∧
      TradingEngine.getAllPositions managers = [{ symbol := "AAPL", realizedPnl := 100 }] ∧
      ¬ TradingEngine.QueriesAgree managers "AAPL" := by
  intro managers
  have hpos : TradingEngine.getPosition managers "AAPL" = .ok { symbol := "AAPL" } := by
    decide +kernel
  have hall : TradingEngine.getAllPositions managers =
      [{ symbol := "AAPL", realizedPnl := 100 }] := by decide +kernel
  refine ⟨hpos, hall, fun h => ?_⟩
  have hentry : { symbol := "AAPL", realizedPnl := 100 } ∈
      TradingEngine.entriesOf managers "AAPL" := by decide +kernel
  obtain ⟨-, -, hpnl, hpnl'⟩ := h.same _ _ hpos hentry
  have hzero : (0 : ℚ) = 100 := hpnl.trans hpnl'.symm
  norm_num at hzero

end Quarcc
