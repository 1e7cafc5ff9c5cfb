import QuarccEngine.Utils.OrderIds
import Mathlib.Data.List.TakeWhile

/-!
# Texts as they are bound

Both databases bind every text with `c_str()` and without a length, so that SQLite takes the text up
to its first zero byte.  A text without a zero byte comes back as it was bound; the ids that the
engine generates are such texts, an id that comes from a client or from a broker need not be one.
-/

namespace Quarcc

/-- The text at `c_str()`, which is bound without a length: it ends before the first zero byte. -/
def cStr (s : String) : String := String.ofList (s.toList.takeWhile fun c => c ≠ Char.ofNat 0)

/-- The text has no zero byte. -/
def NoZeroByte (s : String) : Prop := Char.ofNat 0 ∉ s.toList

instance (s : String) : Decidable (NoZeroByte s) := inferInstanceAs (Decidable (_ ∉ _))

/-- A text without a zero byte is bound as a whole. -/
lemma NoZeroByte.cStr_eq {s : String} (h : NoZeroByte s) : cStr s = s := by
  have hall : ∀ c ∈ s.toList, decide (c ≠ Char.ofNat 0) = true := by
    intro c hc
    apply decide_eq_true
    rintro rfl
    exact h hc
  unfold cStr
  rw [List.takeWhile_eq_self_iff.mpr hall, String.ofList_toList]

/-- What is bound has no zero byte. -/
lemma noZeroByte_cStr (s : String) : NoZeroByte (cStr s) := by
  unfold NoZeroByte cStr
  rw [String.toList_ofList]
  intro hmem
  simpa using List.mem_takeWhile_imp hmem

/-- What was bound is bound as a whole. -/
@[simp] lemma cStr_cStr (s : String) : cStr (cStr s) = cStr s := (noZeroByte_cStr s).cStr_eq

/-- A column that may be null. -/
@[simp] lemma map_cStr_map_cStr (s : Option String) : (s.map cStr).map cStr = s.map cStr := by
  cases s <;> simp

/-! ## Generated ids -/

/-- The characters of a number. -/
lemma ne_zero_of_isDigit {c : Char} (h : c.isDigit = true) : c ≠ Char.ofNat 0 := by
  rintro rfl
  cases h

/-- The text of an integer has no zero byte. -/
lemma ne_zero_of_mem_toString {z : ℤ} {c : Char} (hc : c ∈ (toString z).toList) :
    c ≠ Char.ofNat 0 := by
  have hnat : ∀ n : ℕ, c ∈ (Nat.repr n).toList → c ≠ Char.ofNat 0 := by
    intro n hn
    rw [Nat.repr, String.toList_ofList] at hn
    exact ne_zero_of_isDigit (Nat.isDigit_of_mem_toDigits (by omega) (by omega) hn)
  cases z with
  | ofNat n => exact hnat n hc
  | negSucc n =>
    have htext : (toString (Int.negSucc n)).toList = '-' :: (Nat.repr (n + 1)).toList := by
      change ("-" ++ Nat.repr (n + 1)).toList = _
      rw [String.toList_append]
      rfl
    rw [htext] at hc
    rcases List.mem_cons.mp hc with rfl | hc
    · decide
    · exact hnat _ hc

/-- Nor has a number that is padded. -/
lemma ne_zero_of_mem_zeroPad {width n : ℕ} {c : Char} (hc : c ∈ (zeroPad width n).toList) :
    c ≠ Char.ofNat 0 := by
  unfold zeroPad at hc
  rw [String.toList_ofList, List.mem_append] at hc
  rcases hc with hc | hc
  · rw [List.eq_of_mem_replicate hc]
    decide
  · exact ne_zero_of_isDigit (Nat.isDigit_of_mem_toDigits (by omega) (by omega) hc)

/-- The ids of a generator have no zero byte when its specifier has none. -/
lemma OrderIdGenerator.noZeroByte_generate {g : OrderIdGenerator} (h : NoZeroByte g.idSpecifier)
    (clockMs : ℤ) : NoZeroByte (g.generate clockMs).1 := by
  unfold NoZeroByte generate
  simp only [String.toList_append, List.mem_append]
  rintro ((((hc | hc) | hc) | hc) | hc)
  · exact h hc
  · revert hc
    decide
  · exact ne_zero_of_mem_toString hc rfl
  · revert hc
    decide
  · exact ne_zero_of_mem_zeroPad hc rfl

end Quarcc
