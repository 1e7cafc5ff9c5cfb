import Mathlib.Algebra.Order.Ring.Int
import QuarccEngine.Library.FiniteMap

/-!
# Reference counts

A finite map that counts: a key that is counted up for the first time gets the count one, and a key
that is counted down to zero is erased.  As long as nothing else is done to the map every stored
count is positive, so that the keys of the map are the keys that are counted more than zero times.
-/

namespace Counters

variable {κ : Type*} [DecidableEq κ]

/-- The count of a key; a key that is not stored counts zero. -/
def count (counts : AList fun _ : κ => ℤ) (key : κ) : ℤ := (counts.lookup key).getD 0

/-- One more for a key. -/
def up (counts : AList fun _ : κ => ℤ) (key : κ) : AList fun _ : κ => ℤ :=
  counts.insert key (count counts key + 1)

/-- One less for a key that is stored; at zero it is erased. -/
def down (counts : AList fun _ : κ => ℤ) (key : κ) : AList fun _ : κ => ℤ :=
  match counts.lookup key with
  | none => counts
  | some n => if n - 1 = 0 then counts.erase key else counts.insert key (n - 1)

/-- Every stored count is positive. -/
def Positive (counts : AList fun _ : κ => ℤ) : Prop :=
  ∀ key n, counts.lookup key = some n → 0 < n

variable {counts : AList fun _ : κ => ℤ}

lemma positive_empty : Positive (∅ : AList fun _ : κ => ℤ) := by
  intro key n h
  cases h

/-- A positive count for a key. -/
lemma Positive.insert (h : Positive counts) (key : κ) {n : ℤ} (hn : 0 < n) :
    Positive (counts.insert key n) := by
  intro key' n' hlookup
  rw [FiniteMap.lookup_insert_eq] at hlookup
  split_ifs at hlookup
  · rwa [← Option.some.inj hlookup]
  · exact h key' n' hlookup

/-- Positive counts are not negative where a key is not stored either. -/
lemma Positive.count_nonneg (h : Positive counts) (key : κ) : 0 ≤ count counts key := by
  unfold count
  cases hkey : counts.lookup key with
  | none => exact Int.le_refl 0
  | some n => exact le_of_lt (h key n hkey)

/-- Counting up keeps the counts positive. -/
lemma Positive.up (h : Positive counts) (key : κ) : Positive (up counts key) := by
  have hnonneg := h.count_nonneg key
  exact h.insert key (by omega)

/-- Counting down keeps the counts positive. -/
lemma Positive.down (h : Positive counts) (key : κ) : Positive (down counts key) := by
  unfold Counters.down
  cases hkey : counts.lookup key with
  | none => exact h
  | some n =>
    have hpos := h key n hkey
    dsimp only
    split_ifs with hlast
    · intro key' n' hlookup
      rw [FiniteMap.lookup_erase_eq] at hlookup
      split_ifs at hlookup
      exact h key' n' hlookup
    · exact h.insert key (by omega)

@[simp] lemma mem_up {key key' : κ} : key' ∈ up counts key ↔ key' = key ∨ key' ∈ counts :=
  AList.mem_insert _

/-- The counts of the other keys stay. -/
lemma count_up (key key' : κ) :
    count (up counts key) key' = count counts key' + if key' = key then 1 else 0 := by
  unfold up count
  rw [FiniteMap.lookup_insert_eq]
  split_ifs with hkey
  · rw [hkey, Option.getD_some]
  · omega

/-- Counting a key down takes away no other key, and the key itself only at its last count. -/
lemma mem_down {key key' : κ} :
    key' ∈ down counts key ↔ key' ∈ counts ∧ ¬ (key' = key ∧ counts.lookup key = some 1) := by
  unfold down
  cases hkey : counts.lookup key with
  | none => simp
  | some n =>
    dsimp only
    by_cases hlast : n - 1 = 0
    · obtain rfl : n = 1 := by omega
      rw [if_pos hlast, AList.mem_erase]
      tauto
    · have hn : n ≠ 1 := by omega
      have hmem : key ∈ counts := FiniteMap.mem_of_lookup hkey
      rw [if_neg hlast, AList.mem_insert, Option.some.injEq]
      constructor
      · rintro (rfl | hold)
        · exact ⟨hmem, fun h => hn h.2⟩
        · exact ⟨hold, fun h => hn h.2⟩
      · exact fun h => Or.inr h.1

end Counters
