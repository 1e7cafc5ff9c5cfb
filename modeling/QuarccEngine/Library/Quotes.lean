import Mathlib.Algebra.Order.Field.Basic
import Mathlib.Tactic.FieldSimp
import Mathlib.Tactic.Linarith
import Mathlib.Tactic.Ring

/-!
# Quotes around a mid price

A quote is a bid and an ask.  A market maker quotes a fraction of a mid price away from it on either
side, lets the mid price walk by a fraction of itself that may be anything, down to a floor, and
fills market orders at a further fraction of the mid price beyond the quote.

The bid is positive and below the ask for every positive mid price, and what is sold below the bid
still has a positive price when the two fractions are less than one together.
-/

/-- A bid and an ask. -/
structure Quote (K : Type*) where
  bid : K
  ask : K

namespace Quote

variable {K : Type*} [Field K]

/-- The price in the middle. -/
def mid (q : Quote K) : K := (q.bid + q.ask) / 2

/-- The quote around a mid price, a fraction of it away on either side. -/
def around (halfSpread mid : K) : Quote K := ⟨mid - mid * halfSpread, mid + mid * halfSpread⟩

variable [LinearOrder K]

/-- The mid price after it has moved by a fraction of itself, not below the floor. -/
def walk (floor mid move : K) : K := max (mid + mid * move) floor

/-- A quote around a positive mid price. -/
def IsAround (halfSpread : K) (q : Quote K) : Prop := ∃ mid, 0 < mid ∧ q = around halfSpread mid

/-- However far the mid price is pushed down, it is positive. -/
lemma walk_pos {floor : K} (hfloor : 0 < floor) (mid move : K) : 0 < walk floor mid move :=
  hfloor.trans_le (le_max_right _ _)

variable [IsStrictOrderedRing K] {halfSpread slippage : K} {q : Quote K}

/-- The mid price can be read back from the quote. -/
@[simp] lemma mid_around (halfSpread mid : K) : (around halfSpread mid).mid = mid := by
  unfold Quote.mid around
  dsimp only
  field_simp
  ring

namespace IsAround

variable (h : q.IsAround halfSpread)
include h

/-- The bid is positive. -/
lemma bid_pos (hspread : halfSpread < 1) : 0 < q.bid := by
  obtain ⟨mid, hmid, rfl⟩ := h
  have hbid : (around halfSpread mid).bid = mid * (1 - halfSpread) := by
    unfold around
    ring
  rw [hbid]
  exact mul_pos hmid (sub_pos.mpr hspread)

/-- The ask is above the bid. -/
lemma bid_lt_ask (hspread : 0 < halfSpread) : q.bid < q.ask := by
  obtain ⟨mid, hmid, rfl⟩ := h
  have hhalf : 0 < mid * halfSpread := mul_pos hmid hspread
  unfold around
  dsimp only
  linarith

/-- The slippage is positive. -/
lemma slippage_pos (hslippage : 0 < slippage) : 0 < q.mid * slippage := by
  obtain ⟨mid, hmid, rfl⟩ := h
  rw [mid_around]
  exact mul_pos hmid hslippage

/-- **What is sold below the bid has a positive price.** -/
lemma sell_pos (hsum : halfSpread + slippage < 1) : 0 < q.bid - q.mid * slippage := by
  obtain ⟨mid, hmid, rfl⟩ := h
  have hprice : (around halfSpread mid).bid - (around halfSpread mid).mid * slippage =
      mid * (1 - (halfSpread + slippage)) := by
    rw [mid_around]
    unfold around
    ring
  rw [hprice]
  exact mul_pos hmid (sub_pos.mpr hsum)

end IsAround

end Quote
