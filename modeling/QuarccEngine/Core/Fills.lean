import Mathlib.Algebra.BigOperators.Group.Finset.Basic
import QuarccEngine.Core.PositionKeeper

/-!
# Sequences of fills

What a position keeper has after a whole sequence of fills.  The fills of a symbol move a quantity
and a cash flow, and both are sums over the fills: the quantity of the position is the sum of the
signed fills, and what was realized less the cost of what is held is the sum of their signed costs.

A fill can also come in two parts at the same price.  The parts may reduce a position and then turn
it over, or close it and then open it again, where the whole turns it over at once.  They leave the
same position in each case.
-/

namespace Quarcc

/-! ## Fills -/

/-- The arguments of `on_fill`. -/
structure Fill where
  symbol : String
  quantity : ℚ
  price : ℚ
  side : V1.Side
  deriving DecidableEq

namespace Fill

/-- A fill of a positive quantity at a positive price. -/
def Priced (fill : Fill) : Prop := 0 < fill.quantity ∧ 0 < fill.price

/-- The quantity of a fill with the sign of its side. -/
def signed (fill : Fill) : ℚ := signedFill fill.side fill.quantity

/-- What a fill costs, with the sign of its side. -/
def cost (fill : Fill) : ℚ := fill.signed * fill.price

end Fill

namespace PositionKeeper

/-- The keeper after a sequence of fills. -/
def onFills (pk : PositionKeeper) (fills : List Fill) : PositionKeeper :=
  fills.foldl (fun pk fill => pk.onFill fill.symbol fill.quantity fill.price fill.side) pk

/-- The fills of a symbol. -/
def fillsOf (symbol : String) (fills : List Fill) : List Fill :=
  fills.filter fun fill => fill.symbol = symbol

variable (pk : PositionKeeper) (symbol : String) (fills : List Fill)

@[simp] lemma onFills_nil : pk.onFills [] = pk := rfl

@[simp] lemma onFills_cons (fill : Fill) :
    pk.onFills (fill :: fills) =
      (pk.onFill fill.symbol fill.quantity fill.price fill.side).onFills fills := rfl

/-- A sum over the fills of a symbol, fill by fill. -/
lemma sum_fillsOf_cons (value : Fill → ℚ) (fill : Fill) :
    ((fillsOf symbol (fill :: fills)).map value).sum =
      (if symbol = fill.symbol then value fill else 0) +
        ((fillsOf symbol fills).map value).sum := by
  unfold fillsOf
  by_cases h : symbol = fill.symbol
  · rw [if_pos h, List.filter_cons_of_pos (by simpa using h.symm), List.map_cons, List.sum_cons]
  · rw [if_neg h, List.filter_cons_of_neg (by simpa using Ne.symm h), zero_add]

/-! ## Quantities and cash flows -/

/-- The quantity of a position is moved by the signed fills of its symbol. -/
lemma quantity_onFills (h : ∀ fill ∈ fills, fill.Priced) :
    ((pk.onFills fills).positionOf symbol).quantity =
      (pk.positionOf symbol).quantity + ((fillsOf symbol fills).map Fill.signed).sum := by
  induction fills generalizing pk with
  | nil => simp [fillsOf]
  | cons fill fills ih =>
    have hqty : 0 < fill.quantity := (h fill List.mem_cons_self).1
    rw [onFills_cons, ih _ fun f hf => h f (List.mem_cons_of_mem fill hf), quantity_onFill,
      sum_fillsOf_cons, add_assoc]
    simp only [hqty, and_true]
    rfl

/-- The cash of a position is moved by the signed costs of the fills of its symbol. -/
lemma cash_onFills (h : ∀ fill ∈ fills, fill.Priced) :
    ((pk.onFills fills).positionOf symbol).holding.cash =
      (pk.positionOf symbol).holding.cash - ((fillsOf symbol fills).map Fill.cost).sum := by
  induction fills generalizing pk with
  | nil => simp [fillsOf]
  | cons fill fills ih =>
    obtain ⟨hqty, hprice⟩ := h fill List.mem_cons_self
    rw [onFills_cons, ih _ fun f hf => h f (List.mem_cons_of_mem fill hf),
      cash_onFill pk fill.symbol symbol fill.side hqty hprice, sum_fillsOf_cons, ← sub_sub]
    rfl

/-! ## The total profit -/

/-- A fill adds its symbol to those that have a position. -/
lemma mem_positions_onFill {fillQty : ℚ} (fillPrice : ℚ) (side : V1.Side) (symbol' : String)
    (h : 0 < fillQty) :
    symbol' ∈ (pk.onFill symbol fillQty fillPrice side).positions ↔
      symbol' = symbol ∨ symbol' ∈ pk.positions := by
  unfold onFill
  rw [if_neg (not_le.mpr h)]
  exact AList.mem_insert _

/-- The symbols with a position are those of the fills. -/
lemma mem_positions_onFills (h : ∀ fill ∈ fills, fill.Priced) :
    symbol ∈ (pk.onFills fills).positions ↔
      symbol ∈ pk.positions ∨ symbol ∈ fills.map Fill.symbol := by
  induction fills generalizing pk with
  | nil => simp
  | cons fill fills ih =>
    have hqty : 0 < fill.quantity := (h fill List.mem_cons_self).1
    rw [onFills_cons, ih _ fun f hf => h f (List.mem_cons_of_mem fill hf),
      mem_positions_onFill pk fill.symbol fill.price fill.side symbol hqty, List.map_cons,
      List.mem_cons]
    tauto

/-- `get_total_pnl` adds up the profits of the symbols that have a position. -/
lemma getTotalPnl_eq_sum :
    pk.getTotalPnl = ∑ symbol ∈ pk.positions.keys.toFinset, (pk.positionOf symbol).rPnL := by
  have hentry : ∀ entry ∈ pk.positions.entries, entry.2.rPnL = (pk.positionOf entry.1).rPnL := by
    intro entry hentry
    have hlookup : pk.positions.lookup entry.1 = some entry.2 := AList.mem_lookup_iff.mpr hentry
    unfold positionOf
    rw [hlookup]
    rfl
  have hnodup : pk.positions.keys.Nodup := pk.positions.keys_nodup
  rw [List.sum_toFinset _ hnodup]
  unfold getTotalPnl AList.keys List.keys
  rw [List.map_map, ← List.foldl_map, ← List.sum_eq_foldl]
  exact congrArg List.sum (List.map_congr_left hentry)

/-- **Cash flow of a keeper.**  After fills at positive prices, what a symbol has realized is the
cost of what it holds less what its fills have cost, it holds the sum of its signed fills, and the
total profit is the sum over the symbols that were filled. -/
theorem rPnL_onFills (h : ∀ fill ∈ fills, fill.Priced) :
    (∀ symbol,
      let pos := (({} : PositionKeeper).onFills fills).positionOf symbol
      pos.rPnL = pos.quantity * pos.avgPrice - ((fillsOf symbol fills).map Fill.cost).sum ∧
        pos.quantity = ((fillsOf symbol fills).map Fill.signed).sum) ∧
      (({} : PositionKeeper).onFills fills).getTotalPnl =
        ∑ symbol ∈ (fills.map Fill.symbol).toFinset,
          ((({} : PositionKeeper).onFills fills).positionOf symbol).rPnL := by
  refine ⟨fun symbol => ⟨?_, ?_⟩, ?_⟩
  · have hcash := cash_onFills {} symbol fills h
    rw [positionOf_empty] at hcash
    unfold Position.holding AverageCost.Holding.cash at hcash
    dsimp only at hcash
    linarith
  · rw [quantity_onFills {} symbol fills h, positionOf_empty]
    exact zero_add _
  · have hkeys : (({} : PositionKeeper).onFills fills).positions.keys.toFinset =
        (fills.map Fill.symbol).toFinset := by
      ext symbol
      have hmem := mem_positions_onFills {} symbol fills h
      rw [List.mem_toFinset, List.mem_toFinset, ← AList.mem_keys, hmem]
      exact or_iff_right (AList.notMem_empty symbol)
    rw [getTotalPnl_eq_sum, hkeys]

/-- Two purchases and a sale that turns the position over. -/
theorem rPnL_onFills_turned :
    let fills : List Fill :=
      [⟨"AAPL", 10, 100, .buy⟩, ⟨"AAPL", 10, 110, .buy⟩, ⟨"AAPL", 30, 120, .sell⟩]
    (∀ symbol,
      let pos := (({} : PositionKeeper).onFills fills).positionOf symbol
      pos.rPnL = pos.quantity * pos.avgPrice - ((fillsOf symbol fills).map Fill.cost).sum ∧
        pos.quantity = ((fillsOf symbol fills).map Fill.signed).sum) ∧
      (({} : PositionKeeper).onFills fills).getTotalPnl =
        ∑ symbol ∈ (fills.map Fill.symbol).toFinset,
          ((({} : PositionKeeper).onFills fills).positionOf symbol).rPnL :=
  rPnL_onFills _ (by simp [Fill.Priced])

end PositionKeeper

/-! ## Fills in parts -/

namespace Position

/-- A position is its holding under a symbol. -/
lemma ext_holding {pos pos' : Position} (hsymbol : pos.symbol = pos'.symbol)
    (hholding : pos.holding = pos'.holding) : pos = pos' := by
  obtain ⟨symbol, quantity, avgPrice, rPnL⟩ := pos
  obtain ⟨symbol', quantity', avgPrice', rPnL'⟩ := pos'
  obtain ⟨rfl, rfl, rfl⟩ := AverageCost.Holding.mk.inj hholding
  exact congrArg (fun symbol => Position.mk symbol quantity avgPrice rPnL) hsymbol

/-- Without a price a fill only moves the quantity. -/
lemma onFill_unpriced (pos : Position) (fillQty : ℚ) {fillPrice : ℚ} (side : V1.Side)
    (hprice : fillPrice ≤ 0) :
    pos.onFill fillQty fillPrice side =
      { pos with quantity := pos.quantity + signedFill side fillQty } := by
  unfold onFill
  dsimp only
  rw [if_neg (not_lt.mpr hprice), if_neg fun h : _ ∧ _ => not_lt.mpr hprice h.1]

/-- A position after the two parts of a fill. -/
lemma onFill_onFill (pos : Position) {q₁ q₂ : ℚ} (fillPrice : ℚ) (side : V1.Side) (h₁ : 0 < q₁)
    (h₂ : 0 < q₂) :
    (pos.onFill q₁ fillPrice side).onFill q₂ fillPrice side =
      pos.onFill (q₁ + q₂) fillPrice side := by
  by_cases hprice : 0 < fillPrice
  · have hside := signedFill_mul_pos side h₁ h₂
    refine ext_holding rfl ?_
    rw [holding_onFill _ side h₂ hprice, holding_onFill _ side h₁ hprice,
      holding_onFill _ side (add_pos h₁ h₂) hprice,
      AverageCost.Holding.trade_trade _ fillPrice hside, signedFill_add]
  · have hnone : fillPrice ≤ 0 := not_lt.mp hprice
    rw [onFill_unpriced _ _ side hnone, onFill_unpriced _ _ side hnone,
      onFill_unpriced _ _ side hnone, signedFill_add, ← add_assoc]

end Position

namespace PositionKeeper

/-- **A fill in two parts** leaves the keeper as the whole fill does, whatever the position, the
side and the price are. -/
theorem onFill_parts (pk : PositionKeeper) (symbol : String) (side : V1.Side) (fillPrice : ℚ)
    {q₁ q₂ : ℚ} (h₁ : 0 < q₁) (h₂ : 0 < q₂) :
    (pk.onFill symbol q₁ fillPrice side).onFill symbol q₂ fillPrice side =
      pk.onFill symbol (q₁ + q₂) fillPrice side := by
  have hfirst := positionOf_onFill pk symbol symbol fillPrice side h₁
  rw [if_pos rfl] at hfirst
  have hkeyed : ∀ pos : Position, pos.symbol = symbol → { pos with symbol := symbol } = pos := by
    rintro ⟨_, quantity, avgPrice, rPnL⟩ rfl
    rfl
  unfold onFill at hfirst ⊢
  rw [if_neg (not_le.mpr h₁)] at hfirst ⊢
  rw [if_neg (not_le.mpr h₂), if_neg (not_le.mpr (add_pos h₁ h₂)), hfirst,
    hkeyed _ rfl, AList.insert_insert, Position.onFill_onFill _ fillPrice side h₁ h₂]

/-- A sale that turns a long position over, in a part that closes it and one that opens the other
side. -/
theorem onFill_parts_turned :
    let pk := ({} : PositionKeeper).onFill "AAPL" 10 100 .buy
    (0 : ℚ) < 10 ∧ (0 : ℚ) < 5 ∧
      (pk.onFill "AAPL" 10 120 .sell).onFill "AAPL" 5 120 .sell =
        pk.onFill "AAPL" (10 + 5) 120 .sell :=
  ⟨by norm_num, by norm_num, onFill_parts _ "AAPL" .sell 120 (by norm_num) (by norm_num)⟩

end PositionKeeper

end Quarcc
