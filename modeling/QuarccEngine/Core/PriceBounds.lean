import Mathlib.Data.List.MinMax
import QuarccEngine.Core.Fills

/-!
# Bounds of the average price

The average price of a position is an average of prices that were paid for it.  Which ones is a
matter of the history: a position that goes flat has no price, and one that is opened or changes
sides starts again with the fill that does so.  Between these points the average price stays within
the prices of the fills.
-/

namespace Quarcc

/-! ## The fills of the open position -/

/-- The quantity that a sequence of fills adds up to, with the fills since it was last zero or last
changed its sign, after one more fill. -/
def reopen (state : ℚ × List Fill) (fill : Fill) : ℚ × List Fill :=
  let net := state.1 + fill.signed
  (net, AverageCost.sinceOpened state.1 net state.2 fill)

/-- The fills of a sequence that were received since the position was last flat or last changed
sides, the fill that changed them included. -/
def openFills (fills : List Fill) : List Fill := (fills.foldl reopen (0, [])).2

example :
    openFills [⟨"AAPL", 10, 100, .buy⟩, ⟨"AAPL", 4, 90, .sell⟩, ⟨"AAPL", 8, 95, .sell⟩] =
      [⟨"AAPL", 8, 95, .sell⟩] := by
  decide +kernel

/-- A position has the quantity of its fills and a price within those of the open ones. -/
structure Position.Opened (pos : Position) (state : ℚ × List Fill) : Prop where
  quantity : pos.quantity = state.1
  priced : ∀ fill ∈ state.2, 0 < fill.price
  between : pos.holding.Between (state.2.map Fill.price)

namespace Position.Opened

variable {pos : Position} {state : ℚ × List Fill} (h : pos.Opened state)

/-- A position starts flat and without a price. -/
lemma start : ({} : Position).Opened (0, []) where
  quantity := rfl
  priced := fun _ hfill => absurd hfill List.not_mem_nil
  between := ⟨fun _ => rfl, fun hopen => absurd rfl hopen, fun hopen => absurd rfl hopen⟩

include h

/-- The bounds do not depend on the symbol that a position is stored under. -/
lemma withSymbol (symbol : String) : ({ pos with symbol := symbol } : Position).Opened state :=
  ⟨h.quantity, h.priced, h.between⟩

/-- A fill at a positive price keeps the average price within the bounds. -/
lemma onFill {fill : Fill} (hfill : fill.Priced) :
    (pos.onFill fill.quantity fill.price fill.side).Opened (reopen state fill) := by
  obtain ⟨hqty, hprice⟩ := hfill
  have htrade := pos.holding_onFill fill.side hqty hprice
  have hquantity : pos.holding.quantity = state.1 := h.quantity
  constructor
  · have hmoved := congrArg AverageCost.Holding.quantity htrade
    exact hmoved.trans (congrArg (· + fill.signed) hquantity)
  · intro other hother
    rcases AverageCost.mem_sinceOpened hother with hkept | rfl
    · exact h.priced other hkept
    · exact hprice
  · have hmoves : fill.signed ≠ 0 := signedFill_ne_zero fill.side hqty
    have hbetween := h.between.trade fill.price hmoves
    rw [hquantity] at hbetween
    rw [htrade]
    unfold reopen
    rw [AverageCost.map_sinceOpened]
    exact hbetween

/-- The price of a position is zero when it is flat, and only then. -/
lemma avgPrice_eq_zero_iff : pos.avgPrice = 0 ↔ pos.quantity = 0 := by
  refine ⟨fun hzero => ?_, h.between.closed⟩
  by_contra hopen
  obtain ⟨price, hprice, hle⟩ := h.between.lower hopen
  obtain ⟨fill, hfill, rfl⟩ := List.mem_map.mp hprice
  have hpos : 0 < fill.price := h.priced fill hfill
  have havg : pos.holding.avgPrice = 0 := hzero
  linarith

end Position.Opened

namespace PositionKeeper

/-- The bounds along a sequence of fills. -/
lemma opened_onFills {pk : PositionKeeper} {symbol : String} {state : ℚ × List Fill}
    (h : (pk.positionOf symbol).Opened state) {fills : List Fill}
    (hfills : ∀ fill ∈ fills, fill.Priced) :
    ((pk.onFills fills).positionOf symbol).Opened ((fillsOf symbol fills).foldl reopen state) := by
  induction fills generalizing pk state with
  | nil => exact h
  | cons fill fills ih =>
    have hfill : fill.Priced := hfills fill List.mem_cons_self
    have hrest : ∀ f ∈ fills, f.Priced := fun f hf => hfills f (List.mem_cons_of_mem fill hf)
    have hpos := positionOf_onFill pk fill.symbol symbol fill.price fill.side hfill.1
    unfold fillsOf
    by_cases hs : fill.symbol = symbol
    · rw [List.filter_cons_of_pos (by simpa using hs), List.foldl_cons]
      rw [if_pos hs.symm] at hpos
      apply ih _ hrest
      rw [hpos, hs]
      exact (h.withSymbol symbol).onFill hfill
    · rw [List.filter_cons_of_neg (by simpa using hs)]
      rw [if_neg (Ne.symm hs)] at hpos
      apply ih _ hrest
      rw [hpos]
      exact h

/-- **Bounds of the average price.**  After fills at positive prices the average price of a symbol
is zero when the position is flat, and only then; otherwise it lies between the smallest and the
largest price of the fills since the position was last flat or last changed sides. -/
theorem avgPrice_onFills_bounds (fills : List Fill) (h : ∀ fill ∈ fills, fill.Priced)
    (symbol : String) :
    let pos := (({} : PositionKeeper).onFills fills).positionOf symbol
    let prices := (openFills (fillsOf symbol fills)).map Fill.price
    (pos.avgPrice = 0 ↔ pos.quantity = 0) ∧
      (pos.quantity ≠ 0 →
        prices.minimum ≤ (pos.avgPrice : WithTop ℚ) ∧
          (pos.avgPrice : WithBot ℚ) ≤ prices.maximum) := by
  have hopened := @opened_onFills {} symbol _ Position.Opened.start fills h
  refine ⟨hopened.avgPrice_eq_zero_iff, fun hopen => ⟨?_, ?_⟩⟩
  · obtain ⟨lo, hlo, hle⟩ := hopened.between.lower hopen
    exact (List.minimum_le_of_mem' hlo).trans (WithTop.coe_le_coe.mpr hle)
  · obtain ⟨hi, hhi, hge⟩ := hopened.between.upper hopen
    exact (WithBot.coe_le_coe.mpr hge).trans (List.le_maximum_of_mem' hhi)

/-- A position that is bought, turned over and sold on. -/
theorem avgPrice_onFills_bounds_turned :
    let fills : List Fill :=
      [⟨"AAPL", 10, 100, .buy⟩, ⟨"AAPL", 12, 95, .sell⟩, ⟨"AAPL", 2, 85, .sell⟩]
    let pos := (({} : PositionKeeper).onFills fills).positionOf "AAPL"
    let prices := (openFills (fillsOf "AAPL" fills)).map Fill.price
    (pos.avgPrice = 0 ↔ pos.quantity = 0) ∧
      (pos.quantity ≠ 0 →
        prices.minimum ≤ (pos.avgPrice : WithTop ℚ) ∧
          (pos.avgPrice : WithBot ℚ) ≤ prices.maximum) :=
  avgPrice_onFills_bounds _ (by simp [Fill.Priced]) "AAPL"

end PositionKeeper

end Quarcc
