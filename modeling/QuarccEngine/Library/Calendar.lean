import Mathlib.Order.Monotone.Basic
import Mathlib.Order.SuccPred.IntervalSucc
import Mathlib.Data.Int.SuccPred
import Mathlib.Algebra.Order.Group.Int
import Mathlib.Data.Int.ConditionallyCompleteOrder

/-!
# The calendar

Days of the proleptic Gregorian calendar, counted from the first of March of the year 0.  A year
starts in March, so that the leap day is its last one; the year `y` starts with the day `yearStart
y`, and its months are numbered through, the month `12 * y + m` being the `m`-th one after March.

The days of a month lie between its start and the start of the next one, so that days in order lie
in months in order.  The year of a day can be computed by a division of the day of its era of 400
years, corrected by the leap days.
-/

namespace Calendar

/-- The first day of a year. -/
def yearStart (y : ℤ) : ℤ := 365 * y + y / 4 - y / 100 + y / 400

/-- The first day of a month. -/
def monthStart (k : ℤ) : ℤ := yearStart (k / 12) + (153 * (k % 12) + 2) / 5

/-- The day with the given number in the given month of a year that starts in January. -/
def dayOf (year month day : ℤ) : ℤ := monthStart (12 * year + month - 3) + day - 1

/-- A year has 365 or 366 days. -/
lemma yearStart_succ (y : ℤ) :
    yearStart (y + 1) = yearStart y + 365 ∨ yearStart (y + 1) = yearStart y + 366 := by
  unfold yearStart
  omega

/-- The start of a month in its year. -/
lemma monthStart_eq {y m : ℤ} (h0 : 0 ≤ m) (h12 : m < 12) :
    monthStart (12 * y + m) = yearStart y + (153 * m + 2) / 5 := by
  have hyear : (12 * y + m) / 12 = y := by omega
  have hmonth : (12 * y + m) % 12 = m := by omega
  unfold monthStart
  rw [hyear, hmonth]

/-- The first month of a year starts with the year. -/
lemma monthStart_year (y : ℤ) : monthStart (12 * y) = yearStart y := by
  have h := monthStart_eq (y := y) (le_refl 0) (by omega)
  rw [add_zero] at h
  omega

/-- A month has 28 to 31 days. -/
lemma monthStart_succ (k : ℤ) :
    monthStart k + 28 ≤ monthStart (k + 1) ∧ monthStart (k + 1) ≤ monthStart k + 31 := by
  obtain ⟨y, m, rfl, h0, h12⟩ : ∃ y m : ℤ, k = 12 * y + m ∧ 0 ≤ m ∧ m < 12 :=
    ⟨k / 12, k % 12, by omega, by omega, by omega⟩
  rw [monthStart_eq h0 h12]
  by_cases hlast : m = 11
  · have hnext : 12 * y + m + 1 = 12 * (y + 1) := by omega
    rw [hnext, monthStart_year, hlast]
    rcases yearStart_succ y with h | h <;> omega
  · have hnext : 12 * y + m + 1 = 12 * y + (m + 1) := by omega
    rw [hnext, monthStart_eq (by omega) (by omega)]
    omega

/-- The months come one after the other. -/
lemma strictMono_monthStart : StrictMono monthStart :=
  strictMono_int_of_lt_succ fun k => by
    have h := (monthStart_succ k).1
    omega

/-- The eras of 400 years are alike. -/
lemma yearStart_era (era y : ℤ) : yearStart (era * 400 + y) = era * 146097 + yearStart y := by
  unfold yearStart
  omega

/-! ## The month of a day -/

/-- The month `k` is the one that the day lies in. -/
def InMonth (k z : ℤ) : Prop := monthStart k ≤ z ∧ z < monthStart (k + 1)

instance (k z : ℤ) : Decidable (InMonth k z) := instDecidableAnd

/-- Days in order lie in months in order. -/
lemma InMonth.le {k k' z z' : ℤ} (h : InMonth k z) (h' : InMonth k' z') (hz : z ≤ z') : k ≤ k' := by
  by_contra hlt
  have hmonths : monthStart (k' + 1) ≤ monthStart k :=
    strictMono_monthStart.monotone (by omega)
  have hlast := h'.2
  have hfirst := h.1
  omega

/-- The month of a day of a year. -/
lemma inMonth_of_year {y m z : ℤ} (hy : yearStart y ≤ z) (hy' : z < yearStart (y + 1))
    (hm : m = (5 * (z - yearStart y) + 2) / 153) : InMonth (12 * y + m) z := by
  have hlength := yearStart_succ y
  have h0 : 0 ≤ m := by omega
  have h12 : m < 12 := by omega
  unfold InMonth
  rw [monthStart_eq h0 h12]
  refine ⟨by omega, ?_⟩
  by_cases hlast : m = 11
  · have hnext : 12 * y + m + 1 = 12 * (y + 1) := by omega
    rw [hnext, monthStart_year]
    exact hy'
  · have hnext : 12 * y + m + 1 = 12 * y + (m + 1) := by omega
    rw [hnext, monthStart_eq (by omega) (by omega)]
    omega

/-! ## The year of a day -/

/-- The number of a day of an era without the leap days before it, by which its year is computed. -/
def withoutLeapDays (doe : ℤ) : ℤ := doe - doe / 1460 + doe / 36524 - doe / 146096

/-- Later days have larger numbers. -/
lemma withoutLeapDays_mono {doe doe' : ℤ} (h : doe ≤ doe') :
    withoutLeapDays doe ≤ withoutLeapDays doe' := by
  unfold withoutLeapDays
  omega

/-- The first and the last day of a year of an era belong to that year. -/
lemma withoutLeapDays_year : ∀ n : ℕ, n < 400 → 365 * (n : ℤ) ≤ withoutLeapDays (yearStart n) ∧
    withoutLeapDays (yearStart (n + 1) - 1) < 365 * (n + 1) := by
  decide +kernel

/-- A number that a sequence passes lies between two of its members. -/
lemma exists_between {f : ℕ → ℤ} {z : ℤ} {n : ℕ} (h0 : f 0 ≤ z) (hn : z < f n) :
    ∃ i < n, f i ≤ z ∧ z < f (i + 1) := by
  induction n with
  | zero => omega
  | succ n ih =>
    by_cases hlt : z < f n
    · obtain ⟨i, hi, hbetween⟩ := ih hlt
      exact ⟨i, by omega, hbetween⟩
    · exact ⟨n, by omega, by omega, hn⟩

/-- **The year of a day** of an era of 400 years. -/
lemma year_of_dayOfEra {doe : ℤ} (h0 : 0 ≤ doe) (h1 : doe < 146097) :
    yearStart (withoutLeapDays doe / 365) ≤ doe ∧
      doe < yearStart (withoutLeapDays doe / 365 + 1) ∧
      0 ≤ withoutLeapDays doe / 365 ∧ withoutLeapDays doe / 365 < 400 := by
  have hstart : yearStart ((0 : ℕ) : ℤ) ≤ doe := h0
  have hend : doe < yearStart ((400 : ℕ) : ℤ) := h1
  obtain ⟨n, hn, hfirst, hlast⟩ := exists_between (f := fun n => yearStart n) hstart hend
  obtain ⟨hlow, hhigh⟩ := withoutLeapDays_year n hn
  -- the numbers of the days of the year lie between those of its first and its last day
  have hyear : withoutLeapDays doe / 365 = n := by
    have hle := withoutLeapDays_mono hfirst
    have hge : withoutLeapDays doe ≤ withoutLeapDays (yearStart (n + 1) - 1) := by
      apply withoutLeapDays_mono
      push_cast at hlast
      omega
    omega
  rw [hyear]
  push_cast at hlast
  exact ⟨hfirst, hlast, by omega, by omega⟩

/-! ## Numbers in two parts -/

/-- A number that is taken apart and put together in a larger base, with its first part replaced in
order, stays in order. -/
lemma strictMono_parts {g : ℤ → ℤ} (hg : StrictMono g) {base base' : ℤ} (hpos : 0 < base)
    (hle : base ≤ base') : StrictMono fun n => g (n / base) * base' + n % base := by
  intro n n' hlt
  have hquotient : n / base ≤ n' / base := Int.ediv_le_ediv hpos hlt.le
  have hrest := Int.emod_lt_of_pos n hpos
  have hrest' := Int.emod_nonneg n' hpos.ne'
  dsimp only
  rcases hquotient.lt_or_eq with hless | heq
  · have hstep : (g (n / base) + 1) * base' ≤ g (n' / base) * base' :=
      mul_le_mul_of_nonneg_right (hg hless) (by omega)
    rw [add_mul, one_mul] at hstep
    omega
  · have hn := Int.mul_ediv_add_emod n base
    have hn' := Int.mul_ediv_add_emod n' base
    rw [heq] at hn ⊢
    omega

end Calendar
