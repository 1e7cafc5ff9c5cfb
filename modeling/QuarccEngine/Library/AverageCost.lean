import Mathlib.Algebra.Order.Field.Basic
import Mathlib.Tactic.FieldSimp
import Mathlib.Tactic.Linarith
import Mathlib.Tactic.Ring

/-!
# Average-cost accounting

A holding is a signed quantity (long positive, short negative) with the average price of its open
part and the profit realized so far.  A trade of the signed quantity `x` at the price `p` either
extends the holding, and then the average price becomes the weighted average, or it reduces it, and
then the difference to the average price is realized on the closed part; what is left after a change
of sides is held at the price of the trade.

The law of the method is that `realized - quantity * avgPrice`, the cash a holding has earned,
changes by `- x * p` in each of these cases.  Together with the average price the cash says what was
realized, so that a trade in two parts only has to be compared by its prices.  The last part is the
running volume-weighted average of a sequence of fills, whose product with the filled quantity is
additive in the same way.
-/

namespace AverageCost

variable {K : Type*} [Field K] [LinearOrder K]

/-- A holding under average-cost accounting. -/
structure Holding (K : Type*) where
  /-- The signed quantity. -/
  quantity : K
  /-- The average price of the open quantity, zero when nothing is open. -/
  avgPrice : K
  /-- The profit realized so far. -/
  realized : K

/-- The quantity that a trade closes: none when it extends the holding, else the smaller of the
two, with the sign of the holding. -/
def closedBy (quantity x : K) : K :=
  if 0 ≤ quantity * x then 0
  else if |x| < |quantity| then -x
  else quantity

/-- A trade of the signed quantity `x` at the price `p`. -/
def Holding.trade (h : Holding K) (x p : K) : Holding K where
  quantity := h.quantity + x
  avgPrice :=
    if h.quantity + x = 0 then 0
    else if 0 ≤ h.quantity * x then (h.quantity * h.avgPrice + x * p) / (h.quantity + x)
    else if |x| < |h.quantity| then h.avgPrice
    else p
  realized := h.realized + (p - h.avgPrice) * closedBy h.quantity x

/-- The cash that a holding has earned: what was realized less the cost of what is held. -/
def Holding.cash (h : Holding K) : K := h.realized - h.quantity * h.avgPrice

omit [LinearOrder K] in
/-- Two holdings with the same quantity, price and cash are the same. -/
lemma Holding.ext_cash {h h' : Holding K} (hquantity : h.quantity = h'.quantity)
    (hprice : h.avgPrice = h'.avgPrice) (hcash : h.cash = h'.cash) : h = h' := by
  obtain ⟨q, a, r⟩ := h
  obtain ⟨q', a', r'⟩ := h'
  dsimp only at hquantity hprice
  subst hquantity hprice
  have hrealized : r = r' := by
    unfold Holding.cash at hcash
    exact sub_left_injective hcash
  rw [hrealized]

/-! ## The other side -/

/-- The holding of the other party: the same price, everything else with the other sign. -/
def Holding.mirror (h : Holding K) : Holding K where
  quantity := -h.quantity
  avgPrice := h.avgPrice
  realized := -h.realized

omit [LinearOrder K] in
@[simp] lemma Holding.mirror_mirror (h : Holding K) : h.mirror.mirror = h := by
  unfold Holding.mirror
  simp only [neg_neg]

/-- What one party closes, the other party closes with the other sign. -/
lemma closedBy_neg (q x : K) : closedBy (-q) (-x) = -closedBy q x := by
  unfold closedBy
  rw [neg_mul_neg, abs_neg, abs_neg]
  split_ifs
  · exact neg_zero.symm
  · rfl
  · rfl

/-- Both parties of a trade account for it in the same way. -/
theorem Holding.mirror_trade (h : Holding K) (x p : K) :
    (h.trade x p).mirror = h.mirror.trade (-x) p := by
  have hsum : -h.quantity + -x = -(h.quantity + x) := by ring
  have hcost : -h.quantity * h.avgPrice + -x * p = -(h.quantity * h.avgPrice + x * p) := by ring
  unfold Holding.mirror Holding.trade
  dsimp only
  rw [closedBy_neg, hsum, hcost, neg_div_neg_eq]
  simp only [neg_eq_zero, neg_mul_neg, abs_neg]
  congr 1
  ring

/-! ## The cash of a trade -/

variable [IsStrictOrderedRing K]

/-- Two quantities on the same side only cancel when both are zero. -/
lemma eq_zero_of_mul_nonneg {q x : K} (h : 0 ≤ q * x) (hsum : q + x = 0) : q = 0 := by
  have hx : x = -q := (neg_eq_of_add_eq_zero_right hsum).symm
  rw [hx, mul_neg, neg_nonneg] at h
  exact mul_self_eq_zero.mp (le_antisymm h (mul_self_nonneg q))

/-- **Law of average-cost accounting.**  A trade changes the cash by its signed cost. -/
theorem Holding.cash_trade (h : Holding K) (x p : K) : (h.trade x p).cash = h.cash - x * p := by
  unfold Holding.cash Holding.trade closedBy
  by_cases hsame : 0 ≤ h.quantity * x
  · -- the trade extends the holding: nothing is realized
    by_cases hflat : h.quantity + x = 0
    · have hq : h.quantity = 0 := eq_zero_of_mul_nonneg hsame hflat
      have hx : x = 0 := by linarith
      simp [hq, hx]
    · simp only [if_pos hsame, if_neg hflat]
      field_simp
      ring
  · simp only [if_neg hsame]
    by_cases hpart : |x| < |h.quantity|
    · -- the trade closes a part: the average price stays
      have hopen : h.quantity + x ≠ 0 := by
        intro hflat
        have hx : x = -h.quantity := by linarith
        rw [hx, abs_neg] at hpart
        exact lt_irrefl _ hpart
      simp only [if_pos hpart, if_neg hopen]
      ring
    · -- the trade closes everything and may open the other side at its own price
      simp only [if_neg hpart]
      by_cases hflat : h.quantity + x = 0
      · have hx : x = -h.quantity := by linarith
        simp only [hx]
        ring
      · simp only [if_neg hflat]
        ring

/-! ## Trades in parts -/

/-- A purchase extends a holding that is not short. -/
lemma Holding.avgPrice_trade_of_nonneg {h : Holding K} {x : K} (p : K) (hq : 0 ≤ h.quantity)
    (hx : 0 < x) :
    (h.trade x p).avgPrice = (h.quantity * h.avgPrice + x * p) / (h.quantity + x) := by
  have hopen : h.quantity + x ≠ 0 := (add_pos_of_nonneg_of_pos hq hx).ne'
  unfold Holding.trade
  dsimp only
  rw [if_neg hopen, if_pos (mul_nonneg hq hx.le)]

/-- A purchase reduces a short holding, closes it or turns it over. -/
lemma Holding.avgPrice_trade_of_short {h : Holding K} {x : K} (p : K) (hq : h.quantity < 0)
    (hx : 0 < x) :
    (h.trade x p).avgPrice =
      if h.quantity + x = 0 then 0 else if h.quantity + x < 0 then h.avgPrice else p := by
  have hopp : ¬ 0 ≤ h.quantity * x := not_le.mpr (mul_neg_of_neg_of_pos hq hx)
  have hpart : |x| < |h.quantity| ↔ h.quantity + x < 0 := by
    rw [abs_of_pos hx, abs_of_neg hq]
    constructor <;> intro h <;> linarith
  unfold Holding.trade
  dsimp only
  simp only [if_neg hopp, hpart]

/-- The average price does not depend on whether a purchase comes in two parts. -/
lemma Holding.avgPrice_trade_trade (h : Holding K) {x y : K} (p : K) (hx : 0 < x) (hy : 0 < y) :
    ((h.trade x p).trade y p).avgPrice = (h.trade (x + y) p).avgPrice := by
  have hxy : 0 < x + y := add_pos hx hy
  have hquantity : (h.trade x p).quantity = h.quantity + x := rfl
  have hassoc : h.quantity + x + y = h.quantity + (x + y) := add_assoc _ _ _
  by_cases hq : 0 ≤ h.quantity
  · -- all parts extend the holding
    have hopen : h.quantity + x ≠ 0 := (add_pos_of_nonneg_of_pos hq hx).ne'
    rw [avgPrice_trade_of_nonneg p (h := h.trade x p) (add_nonneg hq hx.le) hy, hquantity,
      avgPrice_trade_of_nonneg p hq hx, avgPrice_trade_of_nonneg p hq hxy, hassoc,
      mul_div_cancel₀ _ hopen]
    congr 1
    ring
  have hshort : h.quantity < 0 := not_le.mp hq
  rw [avgPrice_trade_of_short p hshort hxy, ← hassoc]
  by_cases hpart : h.quantity + x < 0
  · -- the first part reduces the holding
    rw [avgPrice_trade_of_short p (h := h.trade x p) hpart hy, hquantity,
      avgPrice_trade_of_short p hshort hx, if_neg hpart.ne, if_pos hpart]
  · -- the first part closes the holding or turns it over, the second one extends what is left
    have hrest : 0 ≤ h.quantity + x := not_lt.mp hpart
    have hopen : h.quantity + x + y ≠ 0 := (add_pos_of_nonneg_of_pos hrest hy).ne'
    have hleft : ¬ h.quantity + x + y < 0 := by linarith
    rw [avgPrice_trade_of_nonneg p (h := h.trade x p) hrest hy, hquantity,
      avgPrice_trade_of_short p hshort hx, if_neg hpart, if_neg hopen, if_neg hleft]
    by_cases hflat : h.quantity + x = 0
    · rw [if_pos hflat, hflat, zero_mul, zero_add, zero_add, mul_div_cancel_left₀ p hy.ne']
    · rw [if_neg hflat, ← add_mul, mul_div_cancel_left₀ p hopen]

/-- A purchase in two parts at one price is the purchase of both. -/
lemma Holding.trade_trade_of_pos (h : Holding K) {x y : K} (p : K) (hx : 0 < x) (hy : 0 < y) :
    (h.trade x p).trade y p = h.trade (x + y) p := by
  apply Holding.ext_cash
  · exact add_assoc h.quantity x y
  · exact avgPrice_trade_trade h p hx hy
  · rw [cash_trade, cash_trade, cash_trade]
    ring

/-- **A trade in two parts** on one side and at one price is the trade of both, whatever the parts
do to the holding. -/
theorem Holding.trade_trade (h : Holding K) {x y : K} (p : K) (hside : 0 < x * y) :
    (h.trade x p).trade y p = h.trade (x + y) p := by
  rcases mul_pos_iff.mp hside with ⟨hx, hy⟩ | ⟨hx, hy⟩
  · exact trade_trade_of_pos h p hx hy
  · have hmirror := trade_trade_of_pos h.mirror p (neg_pos.mpr hx) (neg_pos.mpr hy)
    rw [← mirror_trade, ← mirror_trade, ← neg_add, ← mirror_trade] at hmirror
    have := congrArg Holding.mirror hmirror
    rwa [mirror_mirror, mirror_mirror] at this

/-! ## Bounds of the average price -/

/-- What is kept of the trades of a holding when the quantity goes from `before` to `after`: nothing
when the holding is closed, only the new one when the holding is opened or changes sides. -/
def sinceOpened {α : Type*} (before after : K) (kept : List α) (new : α) : List α :=
  if after = 0 then [] else if 0 < before * after then kept ++ [new] else [new]

omit [IsStrictOrderedRing K] in
lemma map_sinceOpened {α β : Type*} (f : α → β) (before after : K) (kept : List α) (new : α) :
    (sinceOpened before after kept new).map f =
      sinceOpened before after (kept.map f) (f new) := by
  unfold sinceOpened
  split_ifs
  · rfl
  · rw [List.map_append, List.map_singleton]
  · rfl

omit [IsStrictOrderedRing K] in
lemma mem_sinceOpened {α : Type*} {before after : K} {kept : List α} {new x : α}
    (h : x ∈ sinceOpened before after kept new) : x ∈ kept ∨ x = new := by
  unfold sinceOpened at h
  split_ifs at h
  · exact absurd h List.not_mem_nil
  · simpa using h
  · exact Or.inr (List.mem_singleton.mp h)

/-- A closed holding has no price, the price of an open one lies between two of the prices. -/
structure Holding.Between (h : Holding K) (prices : List K) : Prop where
  closed : h.quantity = 0 → h.avgPrice = 0
  lower : h.quantity ≠ 0 → ∃ lo ∈ prices, lo ≤ h.avgPrice
  upper : h.quantity ≠ 0 → ∃ hi ∈ prices, h.avgPrice ≤ hi

/-- The sides before and after a trade that reduces a holding. -/
lemma mul_add_pos_iff {q x : K} (hopp : q * x < 0) : 0 < q * (q + x) ↔ |x| < |q| := by
  have hopen : q ≠ 0 := by
    rintro rfl
    simp at hopp
  have hprod : q * (q + x) = |q| * (|q| - |x|) := by
    rw [mul_sub, abs_mul_abs_self, ← abs_mul, abs_of_neg hopp]
    ring
  rw [hprod, mul_pos_iff_of_pos_left (abs_pos.mpr hopen), sub_pos]

/-- A weighted average is at least what its two parts are at least. -/
lemma le_weighted {q x a p lo : K} (hsame : 0 ≤ q * x) (hsum : q + x ≠ 0) (ha : lo ≤ a)
    (hp : lo ≤ p) : lo ≤ (q * a + x * p) / (q + x) := by
  have hsquare : 0 < (q + x) * (q + x) := mul_self_pos.mpr hsum
  have hq : 0 ≤ q * (q + x) := by
    rw [mul_add]
    exact add_nonneg (mul_self_nonneg q) hsame
  have hx : 0 ≤ x * (q + x) := by
    rw [mul_add, mul_comm x q]
    exact add_nonneg hsame (mul_self_nonneg x)
  have hratio : (q * a + x * p) / (q + x) =
      (q * (q + x) * a + x * (q + x) * p) / ((q + x) * (q + x)) := by
    rw [← mul_div_mul_right _ _ hsum]
    congr 1
    ring
  rw [hratio, le_div_iff₀ hsquare]
  have hqa : q * (q + x) * lo ≤ q * (q + x) * a := mul_le_mul_of_nonneg_left ha hq
  have hxp : x * (q + x) * lo ≤ x * (q + x) * p := mul_le_mul_of_nonneg_left hp hx
  linarith

/-- A weighted average is at most what its two parts are at most. -/
lemma weighted_le {q x a p hi : K} (hsame : 0 ≤ q * x) (hsum : q + x ≠ 0) (ha : a ≤ hi)
    (hp : p ≤ hi) : (q * a + x * p) / (q + x) ≤ hi := by
  have hneg := le_weighted hsame hsum (neg_le_neg ha) (neg_le_neg hp)
  have hflip : (q * -a + x * -p) / (q + x) = -((q * a + x * p) / (q + x)) := by
    rw [← neg_div]
    congr 1
    ring
  rw [hflip] at hneg
  exact neg_le_neg_iff.mp hneg

namespace Holding

variable {h h' : Holding K} {prices : List K}

omit [IsStrictOrderedRing K] in
/-- An open holding at one of the prices. -/
lemma between_of_mem (hopen : h.quantity ≠ 0) (hmem : h.avgPrice ∈ prices) : h.Between prices where
  closed := fun hflat => absurd hflat hopen
  lower := fun _ => ⟨h.avgPrice, hmem, le_rfl⟩
  upper := fun _ => ⟨h.avgPrice, hmem, le_rfl⟩

namespace Between

variable (hb : h.Between prices) (hopened : h.quantity ≠ 0) (hopen : h'.quantity ≠ 0)

include hb hopened hopen

omit [IsStrictOrderedRing K] in
/-- The price stays, and one more price comes. -/
lemma concat (p : K) (havg : h'.avgPrice = h.avgPrice) : h'.Between (prices ++ [p]) := by
  obtain ⟨lo, hlo, hle⟩ := hb.lower hopened
  obtain ⟨hi, hhi, hge⟩ := hb.upper hopened
  refine ⟨fun hflat => absurd hflat hopen, fun _ => ?_, fun _ => ?_⟩
  · exact ⟨lo, List.mem_append_left _ hlo, havg ▸ hle⟩
  · exact ⟨hi, List.mem_append_left _ hhi, havg ▸ hge⟩

/-- The price becomes the weighted average with one more price. -/
lemma weighted {x p : K} (hsame : 0 ≤ h.quantity * x) (hsum : h.quantity + x ≠ 0)
    (havg : h'.avgPrice = (h.quantity * h.avgPrice + x * p) / (h.quantity + x)) :
    h'.Between (prices ++ [p]) := by
  have hnew : p ∈ prices ++ [p] := List.mem_append_right _ (List.mem_singleton_self p)
  obtain ⟨lo, hlo, hle⟩ := hb.lower hopened
  obtain ⟨hi, hhi, hge⟩ := hb.upper hopened
  refine ⟨fun hflat => absurd hflat hopen, fun _ => ?_, fun _ => ?_⟩
  · rw [havg]
    rcases le_total lo p with hp | hp
    · exact ⟨lo, List.mem_append_left _ hlo, le_weighted hsame hsum hle hp⟩
    · exact ⟨p, hnew, le_weighted hsame hsum (hp.trans hle) le_rfl⟩
  · rw [havg]
    rcases le_total p hi with hp | hp
    · exact ⟨hi, List.mem_append_left _ hhi, weighted_le hsame hsum hge hp⟩
    · exact ⟨p, hnew, weighted_le hsame hsum (hge.trans hp) le_rfl⟩

end Between

end Holding

/-- **Bounds of the average price.**  It stays between the prices of the trades since the holding
was opened. -/
theorem Holding.Between.trade {h : Holding K} {prices : List K} (hb : h.Between prices) {x : K}
    (p : K) (hx : x ≠ 0) :
    (h.trade x p).Between (sinceOpened h.quantity (h.quantity + x) prices p) := by
  by_cases hflat : h.quantity + x = 0
  · exact ⟨fun _ => if_pos hflat, fun hopen => absurd hflat hopen, fun hopen => absurd hflat hopen⟩
  have hopen : (h.trade x p).quantity ≠ 0 := hflat
  have havg : (h.trade x p).avgPrice =
      if 0 ≤ h.quantity * x then (h.quantity * h.avgPrice + x * p) / (h.quantity + x)
      else if |x| < |h.quantity| then h.avgPrice
      else p := if_neg hflat
  unfold sinceOpened
  rw [if_neg hflat]
  by_cases hopened : h.quantity = 0
  · -- the trade opens the holding
    have hprice : (h.trade x p).avgPrice = p := by
      rw [havg, hopened, zero_mul, if_pos le_rfl, zero_mul, zero_add, zero_add,
        mul_div_cancel_left₀ p hx]
    rw [if_neg (by rw [hopened, zero_mul]; exact lt_irrefl 0)]
    exact between_of_mem hopen (List.mem_singleton.mpr hprice)
  by_cases hsame : 0 ≤ h.quantity * x
  · -- the trade extends the holding
    have hside : 0 < h.quantity * (h.quantity + x) := by
      have hsquare : 0 < h.quantity * h.quantity := mul_self_pos.mpr hopened
      rw [mul_add]
      exact add_pos_of_pos_of_nonneg hsquare hsame
    rw [if_pos hsame] at havg
    rw [if_pos hside]
    exact hb.weighted hopened hopen hsame hflat havg
  · have hside := mul_add_pos_iff (not_le.mp hsame)
    rw [if_neg hsame] at havg
    by_cases hpart : |x| < |h.quantity|
    · -- the trade reduces the holding
      rw [if_pos hpart] at havg
      rw [if_pos (hside.mpr hpart)]
      exact hb.concat hopened hopen p havg
    · -- the trade turns the holding over
      rw [if_neg hpart] at havg
      rw [if_neg fun h => hpart (hside.mp h)]
      exact between_of_mem hopen (List.mem_singleton.mpr havg)

/-! ## Running averages -/

section RunningAverage

variable {F : Type*} [Field F] [DecidableEq F]

/-- The average price of `filled` units at the average price `avg` and of `x` more at the price
`p`. -/
def runningAverage (filled avg x p : F) : F :=
  if filled = 0 then p else (avg * filled + p * x) / (filled + x)

/-- The running average is a weighted one from the first fill on. -/
lemma runningAverage_eq_div {filled x : F} (avg p : F) (hx : x ≠ 0) :
    runningAverage filled avg x p = (avg * filled + p * x) / (filled + x) := by
  unfold runningAverage
  by_cases hzero : filled = 0
  · rw [if_pos hzero, hzero, mul_zero, zero_add, zero_add, mul_div_cancel_right₀ p hx]
  · rw [if_neg hzero]

/-- The running average times the quantity is additive, as long as the quantity does not return to
zero. -/
theorem runningAverage_mul {filled avg x p : F} (h : filled = 0 ∨ filled + x ≠ 0) :
    runningAverage filled avg x p * (filled + x) = avg * filled + p * x := by
  unfold runningAverage
  by_cases hzero : filled = 0
  · simp [hzero]
  · rw [if_neg hzero]
    exact div_mul_cancel₀ _ (h.resolve_left hzero)

end RunningAverage

end AverageCost
