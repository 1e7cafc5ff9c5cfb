import QuarccEngine.Contracts
import QuarccEngine.Library.AverageCost
import QuarccEngine.Library.FiniteMap

/-!
# The position keeper

`position_keeper.cpp`: one position per symbol, moved by the fills of the broker.

At a positive price a position is a holding under average-cost accounting: `Position.onFill` is a
trade of the library.  At the price 0, which a gateway sends when it does not know the price, only
the quantity changes.
-/

namespace Quarcc

/-! ## Positions -/

/-- `PositionKeeper::Position`. -/
structure Position where
  symbol : String := ""
  quantity : ℚ := 0
  avgPrice : ℚ := 0
  rPnL : ℚ := 0
  deriving DecidableEq

/-- The quantity of a fill with the sign of its side: everything that is not a buy counts as a
sell. -/
def signedFill (side : V1.Side) (quantity : ℚ) : ℚ :=
  if side = .buy then quantity else -quantity

/-- What `on_fill` does to the position of the symbol, the fill quantity being positive. -/
def Position.onFill (pos : Position) (fillQty fillPrice : ℚ) (side : V1.Side) : Position :=
  let signed := signedFill side fillQty
  let oldQty := pos.quantity
  let newQty := oldQty + signed
  let rPnL :=
    -- realized PnL only when the fill reduces or closes the position
    if 0 < fillPrice ∧ oldQty ≠ 0 ∧ oldQty * signed < 0 then
      let closedQty := min |oldQty| |signed|
      if 0 < oldQty then pos.rPnL + (fillPrice - pos.avgPrice) * closedQty
      else pos.rPnL + (pos.avgPrice - fillPrice) * closedQty
    else pos.rPnL
  let avgPrice :=
    if 0 < fillPrice then
      if newQty = 0 then 0
      else if oldQty = 0 then fillPrice
      else if (0 < oldQty ∧ newQty < 0) ∨ (oldQty < 0 ∧ 0 < newQty) then fillPrice
      else if (0 < oldQty ∧ 0 < signed) ∨ (oldQty < 0 ∧ signed < 0) then
        (oldQty * pos.avgPrice + signed * fillPrice) / newQty
      else pos.avgPrice
    else pos.avgPrice
  { pos with quantity := newQty, avgPrice := avgPrice, rPnL := rPnL }

/-- A position as a holding. -/
def Position.holding (pos : Position) : AverageCost.Holding ℚ where
  quantity := pos.quantity
  avgPrice := pos.avgPrice
  realized := pos.rPnL

/-- A fill of a positive quantity moves something. -/
lemma signedFill_ne_zero (side : V1.Side) {quantity : ℚ} (h : 0 < quantity) :
    signedFill side quantity ≠ 0 := by
  unfold signedFill
  split_ifs
  · exact h.ne'
  · exact neg_ne_zero.mpr h.ne'

/-- The signed quantities of a side add up. -/
lemma signedFill_add (side : V1.Side) (a b : ℚ) :
    signedFill side (a + b) = signedFill side a + signedFill side b := by
  unfold signedFill
  split_ifs <;> ring

/-- The sign of a side commutes with a price. -/
lemma signedFill_mul (side : V1.Side) (a p : ℚ) :
    signedFill side a * p = signedFill side (a * p) := by
  unfold signedFill
  split_ifs <;> ring

@[simp] lemma signedFill_zero (side : V1.Side) : signedFill side 0 = 0 := by
  unfold signedFill
  split_ifs <;> simp

/-- A side turns equal quantities, and only these, into equal signed quantities. -/
lemma signedFill_inj {side : V1.Side} {a b : ℚ} : signedFill side a = signedFill side b ↔
    a = b := by
  unfold signedFill
  split_ifs
  · exact Iff.rfl
  · exact neg_inj

/-- Two fills of one side have the same sign. -/
lemma signedFill_mul_pos (side : V1.Side) {a b : ℚ} (ha : 0 < a) (hb : 0 < b) :
    0 < signedFill side a * signedFill side b := by
  unfold signedFill
  split_ifs
  · exact mul_pos ha hb
  · rw [neg_mul_neg]
    exact mul_pos ha hb

section Trade

open AverageCost

variable {oldQty signed : ℚ}

/-- The quantity that a fill closes, as `on_fill` computes it for a long position. -/
lemma closedBy_long (hlong : 0 < oldQty) (hsell : oldQty * signed < 0) :
    closedBy oldQty signed = min |oldQty| |signed| := by
  have hneg : signed < 0 := by
    by_contra h
    exact absurd (mul_nonneg hlong.le (not_lt.mp h)) (not_le.mpr hsell)
  unfold closedBy
  rw [if_neg (not_le.mpr hsell), abs_of_pos hlong, abs_of_neg hneg]
  by_cases hpart : -signed < oldQty
  · rw [if_pos hpart, min_eq_right hpart.le]
  · rw [if_neg hpart, min_eq_left (not_lt.mp hpart)]

/-- The quantity that a fill closes, as `on_fill` computes it for a short position. -/
lemma closedBy_short (hshort : oldQty < 0) (hbuy : oldQty * signed < 0) :
    closedBy oldQty signed = -min |oldQty| |signed| := by
  have hpos : 0 < signed := by
    by_contra h
    exact absurd (mul_nonneg_of_nonpos_of_nonpos hshort.le (not_lt.mp h)) (not_le.mpr hbuy)
  unfold closedBy
  rw [if_neg (not_le.mpr hbuy), abs_of_neg hshort, abs_of_pos hpos]
  by_cases hpart : signed < -oldQty
  · rw [if_pos hpart, min_eq_right hpart.le]
  · rw [if_neg hpart, min_eq_left (not_lt.mp hpart), neg_neg]

/-- `on_fill` tells the fills that add to a position by their signs. -/
lemma adds_iff (hopen : oldQty ≠ 0) (hsigned : signed ≠ 0) :
    ((0 < oldQty ∧ 0 < signed) ∨ (oldQty < 0 ∧ signed < 0)) ↔ 0 ≤ oldQty * signed := by
  rw [← mul_pos_iff]
  exact ⟨le_of_lt, fun h => lt_of_le_of_ne h (Ne.symm (mul_ne_zero hopen hsigned))⟩

/-- `on_fill` tells a change of sides by the signs before and after. -/
lemma flips_iff (hflat : oldQty + signed ≠ 0) (hopp : oldQty * signed < 0) :
    ((0 < oldQty ∧ oldQty + signed < 0) ∨ (oldQty < 0 ∧ 0 < oldQty + signed)) ↔
      ¬ |signed| < |oldQty| := by
  rcases lt_trichotomy oldQty 0 with hshort | hzero | hlong
  · have hpos : 0 < signed := by
      by_contra h
      exact absurd (mul_nonneg_of_nonpos_of_nonpos hshort.le (not_lt.mp h)) (not_le.mpr hopp)
    rw [abs_of_neg hshort, abs_of_pos hpos, not_lt]
    constructor
    · rintro (⟨h, -⟩ | ⟨-, h⟩)
      · exact absurd h hshort.not_gt
      · linarith
    · intro h
      exact Or.inr ⟨hshort, lt_of_le_of_ne (by linarith) (Ne.symm hflat)⟩
  · simp [hzero] at hopp
  · have hneg : signed < 0 := by
      by_contra h
      exact absurd (mul_nonneg hlong.le (not_lt.mp h)) (not_le.mpr hopp)
    rw [abs_of_pos hlong, abs_of_neg hneg, not_lt]
    constructor
    · rintro (⟨-, h⟩ | ⟨h, -⟩)
      · linarith
      · exact absurd h hlong.not_gt
    · intro h
      exact Or.inl ⟨hlong, lt_of_le_of_ne (by linarith) hflat⟩

/-- A fill that adds to a position does not change its side. -/
lemma not_flips_of_adds (hadd : 0 ≤ oldQty * signed) :
    ¬ ((0 < oldQty ∧ oldQty + signed < 0) ∨ (oldQty < 0 ∧ 0 < oldQty + signed)) := by
  rintro (⟨hlong, h⟩ | ⟨hshort, h⟩)
  · exact absurd hadd (not_le.mpr (mul_neg_of_pos_of_neg hlong (by linarith)))
  · exact absurd hadd (not_le.mpr (mul_neg_of_neg_of_pos hshort (by linarith)))

end Trade

/-- The realized profit of a fill at a positive price is that of the trade. -/
lemma Position.onFill_rPnL (pos : Position) (fillQty : ℚ) {fillPrice : ℚ} (side : V1.Side)
    (hprice : 0 < fillPrice) :
    (pos.onFill fillQty fillPrice side).rPnL =
      (pos.holding.trade (signedFill side fillQty) fillPrice).realized := by
  unfold Position.onFill AverageCost.Holding.trade Position.holding
  dsimp only
  generalize signedFill side fillQty = x
  by_cases hopp : pos.quantity * x < 0
  · have hopen : pos.quantity ≠ 0 := by
      intro h
      simp [h] at hopp
    rw [if_pos ⟨hprice, hopen, hopp⟩]
    by_cases hlong : 0 < pos.quantity
    · rw [if_pos hlong, closedBy_long hlong hopp]
    · have hshort : pos.quantity < 0 := lt_of_le_of_ne (not_lt.mp hlong) hopen
      rw [if_neg hlong, closedBy_short hshort hopp]
      ring
  · rw [if_neg fun h => hopp h.2.2]
    unfold AverageCost.closedBy
    rw [if_pos (not_lt.mp hopp), mul_zero, add_zero]

/-- The average price after a fill at a positive price is that of the trade. -/
lemma Position.onFill_avgPrice (pos : Position) {fillQty fillPrice : ℚ} (side : V1.Side)
    (hqty : 0 < fillQty) (hprice : 0 < fillPrice) :
    (pos.onFill fillQty fillPrice side).avgPrice =
      (pos.holding.trade (signedFill side fillQty) fillPrice).avgPrice := by
  have hsigned := signedFill_ne_zero side hqty
  unfold Position.onFill AverageCost.Holding.trade Position.holding
  dsimp only
  generalize signedFill side fillQty = x at hsigned ⊢
  rw [if_pos hprice]
  by_cases hflat : pos.quantity + x = 0
  · rw [if_pos hflat, if_pos hflat]
  rw [if_neg hflat, if_neg hflat]
  by_cases hopen : pos.quantity = 0
  · rw [if_pos hopen, hopen, zero_mul, if_pos le_rfl, zero_mul, zero_add, zero_add]
    exact (mul_div_cancel_left₀ fillPrice hsigned).symm
  rw [if_neg hopen]
  by_cases hadd : 0 ≤ pos.quantity * x
  · rw [if_neg (not_flips_of_adds hadd), if_pos ((adds_iff hopen hsigned).mpr hadd), if_pos hadd]
  · rw [if_neg hadd, if_neg (fun h => hadd ((adds_iff hopen hsigned).mp h))]
    have hflips := flips_iff hflat (not_le.mp hadd)
    by_cases hpart : |x| < |pos.quantity|
    · rw [if_pos hpart, if_neg fun h => hflips.mp h hpart]
    · rw [if_neg hpart, if_pos (hflips.mpr hpart)]

/-- **At a positive price a fill is a trade** under average-cost accounting. -/
theorem Position.holding_onFill (pos : Position) {fillQty fillPrice : ℚ} (side : V1.Side)
    (hqty : 0 < fillQty) (hprice : 0 < fillPrice) :
    (pos.onFill fillQty fillPrice side).holding =
      pos.holding.trade (signedFill side fillQty) fillPrice := by
  have hpnl := pos.onFill_rPnL fillQty side hprice
  have havg := pos.onFill_avgPrice side hqty hprice
  unfold Position.holding at hpnl havg ⊢
  rw [hpnl, havg]
  rfl

/-! ## The keeper -/

/-- `PositionKeeper`. -/
structure PositionKeeper where
  positions : AList fun _ : String => Position := ∅

namespace PositionKeeper

/-- `positions_[symbol]`: a symbol that is not there yet has a position of zeros. -/
def positionOf (pk : PositionKeeper) (symbol : String) : Position :=
  (pk.positions.lookup symbol).getD {}

/-- `on_fill`: a quantity that is not positive is ignored.  The sums are exact. -/
def onFill (pk : PositionKeeper) (symbol : String) (fillQty fillPrice : ℚ) (side : V1.Side) :
    PositionKeeper :=
  if fillQty ≤ 0 then pk
  else
    { positions := pk.positions.insert symbol
        ({ pk.positionOf symbol with symbol := symbol }.onFill fillQty fillPrice side) }

/-- `get_position`. -/
def getPosition (pk : PositionKeeper) (symbol : String) : Result V1.Position :=
  match pk.positions.lookup symbol with
  | none => .error ⟨"Position not found", .error⟩
  | some pos =>
    .ok
      { symbol := pos.symbol, quantity := pos.quantity, avgPrice := pos.avgPrice
        realizedPnl := pos.rPnL }

/-- `get_all_positions`. -/
def getAllPositions (pk : PositionKeeper) : List V1.Position :=
  pk.positions.entries.map fun entry =>
    { symbol := entry.2.symbol, quantity := entry.2.quantity, avgPrice := entry.2.avgPrice
      realizedPnl := entry.2.rPnL }

/-- `get_total_pnl`. -/
def getTotalPnl (pk : PositionKeeper) : ℚ :=
  pk.positions.entries.foldl (fun sum entry => sum + entry.2.rPnL) 0

variable (pk : PositionKeeper) (symbol symbol' : String) (fillQty fillPrice : ℚ) (side : V1.Side)

@[simp] lemma positionOf_empty : ({} : PositionKeeper).positionOf symbol = {} := rfl

/-- A fill whose quantity is not positive is ignored. -/
lemma onFill_of_nonpos {fillQty : ℚ} (h : fillQty ≤ 0) :
    pk.onFill symbol fillQty fillPrice side = pk := if_pos h

/-- A fill moves the position of its symbol and no other. -/
lemma positionOf_onFill {fillQty : ℚ} (h : 0 < fillQty) :
    (pk.onFill symbol fillQty fillPrice side).positionOf symbol' =
      if symbol' = symbol then
        { pk.positionOf symbol with symbol := symbol }.onFill fillQty fillPrice side
      else pk.positionOf symbol' := by
  unfold onFill positionOf
  rw [if_neg (not_le.mpr h)]
  dsimp only
  rw [FiniteMap.lookup_insert_eq]
  by_cases hs : symbol' = symbol
  · rw [if_pos hs, if_pos hs]
    rfl
  · rw [if_neg hs, if_neg hs]

/-- What a fill adds to the quantity of a symbol. -/
lemma quantity_onFill :
    ((pk.onFill symbol fillQty fillPrice side).positionOf symbol').quantity =
      (pk.positionOf symbol').quantity +
        if symbol' = symbol ∧ 0 < fillQty then signedFill side fillQty else 0 := by
  by_cases hqty : 0 < fillQty
  · rw [positionOf_onFill pk symbol symbol' fillPrice side hqty]
    by_cases hs : symbol' = symbol
    · rw [if_pos hs, if_pos ⟨hs, hqty⟩, hs]
      rfl
    · rw [if_neg hs, if_neg fun h => hs h.1, add_zero]
  · rw [onFill_of_nonpos pk symbol fillPrice side (not_lt.mp hqty), if_neg fun h => hqty h.2,
      add_zero]

/-- What a fill at a positive price adds to the cash of a symbol. -/
lemma cash_onFill {fillQty fillPrice : ℚ} (hqty : 0 < fillQty) (hprice : 0 < fillPrice) :
    ((pk.onFill symbol fillQty fillPrice side).positionOf symbol').holding.cash =
      (pk.positionOf symbol').holding.cash -
        if symbol' = symbol then signedFill side fillQty * fillPrice else 0 := by
  rw [positionOf_onFill pk symbol symbol' fillPrice side hqty]
  by_cases hs : symbol' = symbol
  · rw [if_pos hs, if_pos hs, hs, Position.holding_onFill _ side hqty hprice,
      AverageCost.Holding.cash_trade]
    rfl
  · rw [if_neg hs, if_neg hs, sub_zero]

end PositionKeeper

end Quarcc
