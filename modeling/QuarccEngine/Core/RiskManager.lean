import QuarccEngine.Contracts
import Mathlib.Algebra.Order.Ring.Rat

/-!
# The risk manager

`risk_manager.h`: the limits of a strategy and the check that a new order has to pass.
-/

namespace Quarcc

/-- The conversion of an `int` to `std::size_t`, which is 64 bits wide. -/
def sizeT (n : ℤ) : ℕ := if 0 ≤ n then n.toNat else (2 ^ 64 + n).toNat

/-- `RiskLimits`; a limit that is zero is disabled. -/
structure RiskLimits where
  /-- Max quantity in a single order. -/
  maxQuantity : ℚ := 0
  /-- Max amount of open orders at the same time. -/
  maxOpenOrders : ℕ := 0
  /-- Accepted daily loss. -/
  dailyPnlLimit : ℚ := 0
  deriving DecidableEq

/-- `RiskManager`. -/
structure RiskManager where
  limits : RiskLimits

/-- `RiskManager::check`, of numbers: a NaN, which fails every comparison, would pass. -/
def RiskManager.check (rm : RiskManager) (qty : ℚ) (openOrder : ℕ) (pnl : ℚ) : Result Unit :=
  if rm.limits.maxQuantity ≠ 0 ∧ rm.limits.maxQuantity < qty then
    .error ⟨"Max quantity limit exceeded", .failedOrder⟩
  else if rm.limits.maxOpenOrders ≠ 0 ∧ rm.limits.maxOpenOrders < openOrder then
    .error ⟨"Max open order amount limit exceeded", .failedOrder⟩
  else if rm.limits.dailyPnlLimit ≠ 0 ∧ pnl < -rm.limits.dailyPnlLimit then
    .error ⟨"Daily loss limit exceeded", .failedOrder⟩
  else .ok ()

variable {rm : RiskManager} {qty pnl : ℚ} {openOrder : ℕ}

/-- The check passes exactly when every enabled limit is met. -/
theorem RiskManager.check_ok_iff :
    rm.check qty openOrder pnl = .ok () ↔
      (rm.limits.maxQuantity ≠ 0 → qty ≤ rm.limits.maxQuantity) ∧
        (rm.limits.maxOpenOrders ≠ 0 → openOrder ≤ rm.limits.maxOpenOrders) ∧
          (rm.limits.dailyPnlLimit ≠ 0 → -rm.limits.dailyPnlLimit ≤ pnl) := by
  unfold RiskManager.check
  split_ifs with hqty hopen hpnl
  · simp only [false_iff, not_and]
    intro h
    exact absurd (h hqty.1) (not_le.mpr hqty.2)
  · simp only [false_iff, not_and]
    intro _ h
    exact absurd (h hopen.1) (not_le.mpr hopen.2)
  · simp only [false_iff, not_and]
    intro _ _ h
    exact absurd (h hpnl.1) (not_le.mpr hpnl.2)
  · simp only [not_and, not_lt] at hqty hopen hpnl
    exact ⟨fun _ => ⟨hqty, hopen, hpnl⟩, fun _ => rfl⟩

end Quarcc
