import QuarccEngine.Gateways.BarPeriods
import QuarccEngine.Library.Decimals

/-!
# The texts of periods

Which texts `period_to_ns` reads, and as what.  A period is a number from 1 to `2^31 - 1` in
decimal, leading zeros allowed, and the letter of a unit.  Nothing checks that the product of the
two fits into 64 bits: a longer period is read as what the machine arithmetic leaves of it.
-/

namespace Quarcc

/-- The nanoseconds of the unit of a period. -/
def unitNs (letter : Char) : Option ℤ :=
  (unitSeconds letter).map fun seconds => seconds * 10 ^ 9

/-- The text `p` is the number `n` in decimal, followed by the letter of a unit of `unit`
nanoseconds. -/
def IsPeriodText (p : String) (n : ℕ) (unit : ℤ) : Prop :=
  ∃ (digits : List ℕ) (letter : Char),
    p.toList = Decimal.text digits ++ [letter] ∧ digits ≠ [] ∧ (∀ d ∈ digits, d < 10) ∧
      Decimal.value digits = n ∧ 1 ≤ n ∧ n ≤ 2 ^ 31 - 1 ∧ unitNs letter = some unit

/-- The text `p` is a period of `ns` nanoseconds, which fit into 64 bits. -/
def IsPeriod (p : String) (ns : ℤ) : Prop :=
  ∃ (n : ℕ) (unit : ℤ), IsPeriodText p n unit ∧ ns = n * unit ∧ ns < 2 ^ 63

/-! ## Numbers -/

/-- A text of digits is read as its number, when that fits into 32 bits. -/
lemma strToInt_text {digits : List ℕ} (hne : digits ≠ []) (h : ∀ d ∈ digits, d < 10) :
    strToInt (Decimal.text digits) =
      if Decimal.value digits < 2 ^ 31 then some (Decimal.value digits : ℤ) else none := by
  have hread : digitsToNat? (Decimal.text digits) = some (Decimal.value digits) := by
    unfold digitsToNat? digitsToNat
    rw [if_pos ⟨by simpa [Decimal.text] using hne, Decimal.all_isDigit_text h⟩,
      Decimal.foldl_text h]
  unfold strToInt
  split
  · -- a digit is no sign
    rename_i rest hminus
    have hdigit : ('-').isDigit = true := by
      have hall := Decimal.all_isDigit_text h
      rw [hminus, List.all_cons, Bool.and_eq_true] at hall
      exact hall.1
    exact absurd hdigit (by decide)
  · rw [hread]
    rfl

/-- A positive number is read from the digits of a number only. -/
lemma strToInt_eq_some {cs : List Char} {n : ℤ} (h : strToInt cs = some n) (hpos : 0 < n) :
    ∃ digits : List ℕ, cs = Decimal.text digits ∧ digits ≠ [] ∧ (∀ d ∈ digits, d < 10) ∧
      (Decimal.value digits : ℤ) = n ∧ n < 2 ^ 31 := by
  have hlt := strToInt_lt h
  unfold strToInt at h
  split at h
  · -- what follows a minus sign is not positive
    obtain ⟨k, -, hk⟩ := Option.bind_eq_some_iff.mp h
    split_ifs at hk
    obtain rfl := Option.some.inj hk
    omega
  · obtain ⟨k, hk, hn⟩ := Option.bind_eq_some_iff.mp h
    unfold digitsToNat? at hk
    split_ifs at hk with hdigits
    obtain ⟨ds, hds, hcs⟩ := Decimal.exists_text hdigits.2
    refine ⟨ds, hcs, ?_, hds, ?_, hlt⟩
    · rintro rfl
      exact hdigits.1 hcs
    · split_ifs at hn
      rw [← Option.some.inj hn, ← Option.some.inj hk, hcs]
      unfold digitsToNat
      rw [Decimal.foldl_text hds]

/-! ## Periods -/

/-- `period_to_ns` reads a period as what 64 bits leave of its length. -/
lemma IsPeriodText.periodToNs {p : String} {n : ℕ} {unit : ℤ} (h : IsPeriodText p n unit) :
    periodToNs p = .ok (int64 (n * unit)) := by
  obtain ⟨digits, letter, hp, hne, hdigits, rfl, hpos, hbound, hunit⟩ := h
  have hlength : 2 ≤ p.length := by
    have hpositive := List.length_pos_of_ne_nil hne
    rw [← String.length_toList, hp, List.length_append, Decimal.length_text,
      List.length_singleton]
    omega
  obtain ⟨seconds, hseconds, rfl⟩ := Option.map_eq_some_iff.mp hunit
  unfold Quarcc.periodToNs
  rw [if_neg (by omega), hp, List.dropLast_concat, strToInt_text hne hdigits, if_pos (by omega),
    List.getLast?_concat]
  dsimp only
  rw [if_neg (by omega), Option.bind_some, hseconds]

/-- What `period_to_ns` reads is a period. -/
lemma isPeriodText_of_periodToNs {p : String} {ns : ℤ} (h : periodToNs p = .ok ns) :
    ∃ (n : ℕ) (unit : ℤ), IsPeriodText p n unit := by
  obtain ⟨k, letter, seconds, hk, hpos, hletter, hunit, -⟩ := periodToNs_eq_ok h
  obtain ⟨digits, hcs, hne, hdigits, hvalue, hlt⟩ := strToInt_eq_some hk hpos
  refine ⟨Decimal.value digits, seconds * 10 ^ 9, digits, letter, ?_, hne, hdigits, rfl,
    by omega, by omega, ?_⟩
  · rw [← hcs]
    exact (List.dropLast_append_getLast? letter hletter).symm
  · rw [unitNs, hunit, Option.map_some]

/-- Every exception of `period_to_ns` has the same text. -/
lemma periodToNs_error {p : String} {what : String} (h : periodToNs p = .error what) :
    what = "Invalid BarPeriod" := by
  unfold periodToNs at h
  repeat' split at h
  all_goals cases h
  all_goals rfl

/-- A text is the text of one period only. -/
lemma IsPeriodText.unique {p : String} {n n' : ℕ} {unit unit' : ℤ} (h : IsPeriodText p n unit)
    (h' : IsPeriodText p n' unit') : n = n' ∧ unit = unit' := by
  obtain ⟨digits, letter, hp, -, hdigits, rfl, -, -, hunit⟩ := h
  obtain ⟨digits', letter', hp', -, hdigits', rfl, -, -, hunit'⟩ := h'
  rw [hp] at hp'
  obtain ⟨htext, hletter⟩ := List.append_inj' hp' rfl
  constructor
  · rw [← Decimal.foldl_text hdigits, htext, Decimal.foldl_text hdigits']
  · obtain rfl := List.singleton_inj.mp hletter
    exact Option.some.inj (hunit.symm.trans hunit')

/-- A period is longer than nothing. -/
lemma IsPeriodText.pos {p : String} {n : ℕ} {unit : ℤ} (h : IsPeriodText p n unit) :
    0 < (n : ℤ) * unit := by
  obtain ⟨digits, letter, -, -, -, -, hpos, -, hunit⟩ := h
  obtain ⟨seconds, hseconds, rfl⟩ := Option.map_eq_some_iff.mp hunit
  have hsecond : 0 < seconds := by
    unfold unitSeconds at hseconds
    split at hseconds <;> cases hseconds <;> decide
  positivity

/-- A number that fits into 64 bits stays what it is. -/
lemma int64_of_fits {n : ℤ} (h0 : 0 ≤ n) (h1 : n < 2 ^ 63) : int64 n = n := by
  unfold int64
  apply Int.bmod_eq_of_le <;> omega

/-- `period_to_ns` reads `p` as the period that it is, and throws if it is none. -/
def ReadsPeriod (p : String) : Prop :=
  (∀ ns, IsPeriod p ns → periodToNs p = .ok ns ∧ 0 < ns) ∧
    ((¬ ∃ ns, IsPeriod p ns) → periodToNs p = .error "Invalid BarPeriod")

/-- **A text is read as the period that it is, or refused, exactly when it is not a period that is
too long for 64 bits.** -/
theorem readsPeriod_iff_fits (p : String) :
    ReadsPeriod p ↔ ∀ n unit, IsPeriodText p n unit → (n : ℤ) * unit < 2 ^ 63 := by
  constructor
  · rintro ⟨-, hthrows⟩ n unit htext
    by_contra hlong
    have hnone : ¬ ∃ ns, IsPeriod p ns := by
      rintro ⟨ns, n', unit', htext', rfl, hfits⟩
      obtain ⟨rfl, rfl⟩ := htext.unique htext'
      exact hlong hfits
    have hthrown := hthrows hnone
    rw [htext.periodToNs] at hthrown
    cases hthrown
  · intro hfits
    constructor
    · rintro ns ⟨n, unit, htext, rfl, hlt⟩
      rw [htext.periodToNs, int64_of_fits htext.pos.le hlt]
      exact ⟨rfl, htext.pos⟩
    · intro hnone
      cases hread : periodToNs p with
      | error what => rw [periodToNs_error hread]
      | ok ns =>
        obtain ⟨n, unit, htext⟩ := isPeriodText_of_periodToNs hread
        exact absurd ⟨_, n, unit, htext, rfl, hfits n unit htext⟩ hnone

/-- `106752` days are read as a negative number of nanoseconds. -/
theorem long_period_negative : ¬ ∀ p, ReadsPeriod p := by
  intro h
  have htext : IsPeriodText "106752d" 106752 86400000000000 :=
    ⟨[1, 0, 6, 7, 5, 2], 'd', by decide +kernel, by decide, by decide, by decide, by decide,
      by decide, rfl⟩
  have hnone : ¬ ∃ ns, IsPeriod "106752d" ns := by
    rintro ⟨ns, n, unit, htext', rfl, hfits⟩
    obtain ⟨rfl, rfl⟩ := htext.unique htext'
    exact absurd hfits (by decide)
  have hthrows := (h "106752d").2 hnone
  rw [htext.periodToNs] at hthrows
  cases hthrows

end Quarcc
