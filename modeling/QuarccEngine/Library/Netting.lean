import Mathlib.Algebra.BigOperators.Group.List.Basic
import Mathlib.Algebra.Field.Basic
import Mathlib.Data.List.Induction
import Mathlib.Tactic.Abel
import Mathlib.Tactic.Ring

/-!
# Netting lots

A lot is a signed quantity at a price; its value is the product.  Lots are netted by merging them
into one lot, one after the other: the quantities are added, and the price is the one that keeps the
value.  A flat lot, whose quantity is zero, has no value at any price, so what price it carries is a
matter of convention, which is a parameter here.

A merge that ends flat therefore drops the value so far.  The value of the net lot is the value of
the lots after the last point where the lots so far cancel, and the net price is the average of all
lots exactly when the lots before that point have no value together.
-/

namespace Netting

variable {K : Type*} [Field K]

/-! ## Lots -/

/-- A signed quantity at a price. -/
structure Lot (K : Type*) where
  quantity : K
  price : K

/-- The value of a lot. -/
def Lot.value (lot : Lot K) : K := lot.quantity * lot.price

/-- The quantity of several lots. -/
def total (lots : List (Lot K)) : K := (lots.map Lot.quantity).sum

/-- The value of several lots. -/
def value (lots : List (Lot K)) : K := (lots.map Lot.value).sum

@[simp] lemma total_nil : total ([] : List (Lot K)) = 0 := rfl

@[simp] lemma value_nil : value ([] : List (Lot K)) = 0 := rfl

@[simp] lemma total_cons (lot : Lot K) (lots : List (Lot K)) :
    total (lot :: lots) = lot.quantity + total lots := List.sum_cons

@[simp] lemma value_cons (lot : Lot K) (lots : List (Lot K)) :
    value (lot :: lots) = lot.value + value lots := List.sum_cons

@[simp] lemma total_append (front back : List (Lot K)) :
    total (front ++ back) = total front + total back := by
  simp [total]

@[simp] lemma value_append (front back : List (Lot K)) :
    value (front ++ back) = value front + value back := by
  simp [value]

/-- Lots of quantity zero have no quantity together. -/
lemma total_eq_zero {lots : List (Lot K)} (h : ∀ lot ∈ lots, lot.quantity = 0) :
    total lots = 0 := by
  refine List.sum_eq_zero fun q hq => ?_
  obtain ⟨lot, hlot, rfl⟩ := List.mem_map.mp hq
  exact h lot hlot

/-! ## The last flat point -/

/-- The lots so far never cancel. -/
def NeverFlat (lots : List (Lot K)) : Prop :=
  ∀ front, front ≠ [] → front <+: lots → total front ≠ 0

lemma neverFlat_nil : NeverFlat ([] : List (Lot K)) := by
  intro front hne hpre
  exact absurd (List.prefix_nil.mp hpre) hne

/-- One more lot after which the lots do not cancel. -/
lemma NeverFlat.concat {lots : List (Lot K)} (h : NeverFlat lots) {lot : Lot K}
    (hlot : total (lots ++ [lot]) ≠ 0) : NeverFlat (lots ++ [lot]) := by
  intro front hne hpre
  rcases List.prefix_concat_iff.mp hpre with rfl | hshort
  · exact hlot
  · exact h front hne hshort

/-- The lots before the last one do not cancel either. -/
lemma NeverFlat.of_append {front back : List (Lot K)} (h : NeverFlat (front ++ back)) :
    NeverFlat front :=
  fun part hne hpre => h part hne (hpre.trans (List.prefix_append front back))

/-- There is a last point where the lots so far cancel. -/
lemma exists_lastFlat (lots : List (Lot K)) :
    ∃ front back, lots = front ++ back ∧ total front = 0 ∧ NeverFlat back := by
  induction lots using List.reverseRecOn with
  | nil => exact ⟨[], [], rfl, rfl, neverFlat_nil⟩
  | append_singleton lots lot ih =>
    by_cases hflat : total (lots ++ [lot]) = 0
    · exact ⟨lots ++ [lot], [], (List.append_nil _).symm, hflat, neverFlat_nil⟩
    · obtain ⟨front, back, rfl, hfront, hback⟩ := ih
      refine ⟨front, back ++ [lot], List.append_assoc .., hfront, hback.concat ?_⟩
      have hsplit := total_append front (back ++ [lot])
      rw [← List.append_assoc, hfront, zero_add] at hsplit
      rwa [← hsplit]

/-! ## Merging -/

variable [DecidableEq K] (flatPrice : Lot K → Lot K → K)

/-- A lot is merged into the one that is held.  Unless the result is flat, its price is the
average. -/
def merge (held lot : Lot K) : Lot K where
  quantity := held.quantity + lot.quantity
  price :=
    if held.quantity + lot.quantity = 0 then flatPrice held lot
    else (held.value + lot.value) / (held.quantity + lot.quantity)

/-- The lots are merged into the one that is held, one after the other. -/
def mergeAll (held : Lot K) (lots : List (Lot K)) : Lot K := lots.foldl (merge flatPrice) held

variable {flatPrice} {held : Lot K} {lots front back : List (Lot K)}

@[simp] lemma mergeAll_nil : mergeAll flatPrice held [] = held := rfl

@[simp] lemma mergeAll_cons (lot : Lot K) :
    mergeAll flatPrice held (lot :: lots) = mergeAll flatPrice (merge flatPrice held lot) lots :=
      rfl

lemma mergeAll_append :
    mergeAll flatPrice held (front ++ back) = mergeAll flatPrice (mergeAll flatPrice held front)
      back :=
  List.foldl_append

/-- A merge keeps the value, unless the result is flat. -/
lemma value_merge {lot : Lot K} (h : held.quantity + lot.quantity ≠ 0) :
    (merge flatPrice held lot).value = held.value + lot.value := by
  unfold merge
  rw [if_neg h]
  unfold Lot.value
  exact mul_div_cancel₀ _ h

variable (flatPrice) in
/-- The quantity of the net lot. -/
lemma quantity_mergeAll (held : Lot K) (lots : List (Lot K)) :
    (mergeAll flatPrice held lots).quantity = held.quantity + total lots := by
  induction lots generalizing held with
  | nil => exact (add_zero _).symm
  | cons lot lots ih =>
    rw [mergeAll_cons, ih, total_cons, ← add_assoc]
    rfl

/-- The value of lots that never cancel is kept, when they are merged into a flat lot. -/
lemma value_mergeAll_of_neverFlat (hheld : held.quantity = 0) (hback : NeverFlat back) :
    (mergeAll flatPrice held back).value = value back := by
  induction back using List.reverseRecOn with
  | nil => simp [Lot.value, hheld]
  | append_singleton back lot ih =>
    have hquantity := quantity_mergeAll flatPrice held back
    have hopen : total (back ++ [lot]) ≠ 0 := hback _ (by simp) List.prefix_rfl
    rw [hheld, zero_add] at hquantity
    rw [total_append, total_cons, total_nil, add_zero, ← hquantity] at hopen
    rw [mergeAll_append, mergeAll_cons, mergeAll_nil, value_merge hopen, ih hback.of_append]
    simp

variable (flatPrice) in
/-- The net lot has the value of the lots after the last flat point. -/
lemma value_mergeAll (hheld : held.quantity = 0) (hfront : total front = 0)
    (hback : NeverFlat back) : (mergeAll flatPrice held (front ++ back)).value = value back := by
  rw [mergeAll_append]
  refine value_mergeAll_of_neverFlat ?_ hback
  rw [quantity_mergeAll, hheld, hfront, add_zero]

/-- The price of the net lot, when the lots do not cancel: the average of the lots after the last
flat point. -/
lemma price_mergeAll (hheld : held.quantity = 0) (hfront : total front = 0)
    (hback : NeverFlat back) (hopen : total back ≠ 0) :
    (mergeAll flatPrice held (front ++ back)).price = value back / total back := by
  have hvalue := value_mergeAll flatPrice hheld hfront hback
  have hquantity := quantity_mergeAll flatPrice held (front ++ back)
  rw [hheld, zero_add, total_append, hfront, zero_add] at hquantity
  unfold Lot.value at hvalue
  rw [hquantity] at hvalue
  rw [← hvalue, mul_div_cancel_left₀ _ hopen]

/-- Where the lots so far cancel for the last time, they have no value together. -/
def KeepsValue (lots : List (Lot K)) : Prop :=
  ∀ front back, lots = front ++ back → total front = 0 → NeverFlat back → value front = 0

variable (flatPrice) in
/-- **The net price is the average of all lots** exactly when nothing of value was dropped. -/
theorem price_mergeAll_eq_iff (hheld : held.quantity = 0) (hopen : total lots ≠ 0) :
    (mergeAll flatPrice held lots).price = value lots / total lots ↔ KeepsValue lots := by
  have hprice : ∀ front back, lots = front ++ back → total front = 0 → NeverFlat back →
      ((mergeAll flatPrice held lots).price = value lots / total lots ↔ value front = 0) := by
    rintro front back rfl hfront hback
    have htotal : total (front ++ back) = total back := by rw [total_append, hfront, zero_add]
    rw [htotal] at hopen ⊢
    rw [price_mergeAll hheld hfront hback hopen, div_left_inj' hopen, value_append]
    exact right_eq_add
  constructor
  · intro h front back hsplit hfront hback
    exact (hprice front back hsplit hfront hback).mp h
  · intro h
    obtain ⟨front, back, hsplit, hfront, hback⟩ := exists_lastFlat lots
    exact (hprice front back hsplit hfront hback).mpr (h front back hsplit hfront hback)

/-- What the price of a flat lot was before does not matter. -/
lemma mergeAll_congr {flatPrice' : Lot K → Lot K → K} {held' : Lot K} (hheld : held.quantity = 0)
    (hheld' : held'.quantity = 0) (hopen : total lots ≠ 0) :
    (mergeAll flatPrice held lots).price = (mergeAll flatPrice' held' lots).price := by
  obtain ⟨front, back, rfl, hfront, hback⟩ := exists_lastFlat lots
  rw [total_append, hfront, zero_add] at hopen
  rw [price_mergeAll hheld hfront hback hopen, price_mergeAll hheld' hfront hback hopen]

/-- Lots of quantity zero leave a flat lot as it is, when the convention says so. -/
lemma mergeAll_of_flat (hkeep : ∀ held lot : Lot K, lot.quantity = 0 →
    flatPrice held lot = held.price)
    (hheld : held.quantity = 0) (hlots : ∀ lot ∈ lots, lot.quantity = 0) :
    mergeAll flatPrice held lots = held := by
  induction lots with
  | nil => rfl
  | cons lot lots ih =>
    have hlot := hlots lot List.mem_cons_self
    have hmerge : merge flatPrice held lot = held := by
      unfold merge
      rw [hheld, hlot, add_zero, if_pos rfl, hkeep held lot hlot, ← hheld]
    rw [mergeAll_cons, hmerge]
    exact ih fun lot' hlot' => hlots lot' (List.mem_cons_of_mem lot hlot')

variable (held) in
/-- A lot that cancels the lots so far, and lots of quantity zero after it: the convention decides
on the price, from the average since the last flat point. -/
lemma mergeAll_of_offset
    (hkeep : ∀ held lot : Lot K, lot.quantity = 0 → flatPrice held lot = held.price)
    (hheld : held.quantity = 0) {lot : Lot K} {rest : List (Lot K)} (hfront : total front = 0)
    (hback : NeverFlat back) (hlot : lot.quantity ≠ 0) (hoffset : total back + lot.quantity = 0)
    (hrest : ∀ lot ∈ rest, lot.quantity = 0) :
    ∃ before : Lot K, before.price = value back / total back ∧
      (mergeAll flatPrice held (front ++ back ++ lot :: rest)).price = flatPrice before lot := by
  have hopen : total back ≠ 0 := by
    intro hflat
    rw [hflat, zero_add] at hoffset
    exact hlot hoffset
  refine ⟨mergeAll flatPrice held (front ++ back), price_mergeAll hheld hfront hback hopen, ?_⟩
  have hquantity := quantity_mergeAll flatPrice held (front ++ back)
  rw [hheld, zero_add, total_append, hfront, zero_add] at hquantity
  have hflat : (mergeAll flatPrice held (front ++ back)).quantity + lot.quantity = 0 := by
    rw [hquantity, hoffset]
  rw [mergeAll_append, mergeAll_cons, mergeAll_of_flat hkeep hflat hrest]
  exact if_pos hflat

/-- Unless all lots have quantity zero, there is a last one that has not. -/
lemma exists_lastOpen (lots : List (Lot K)) :
    (∀ lot ∈ lots, lot.quantity = 0) ∨
      ∃ front lot rest, lots = front ++ lot :: rest ∧ lot.quantity ≠ 0 ∧
        ∀ lot' ∈ rest, lot'.quantity = 0 := by
  induction lots with
  | nil => exact Or.inl (by simp)
  | cons first lots ih =>
    obtain hzero | ⟨front, lot, rest, rfl, hlot, hrest⟩ := ih
    · by_cases hfirst : first.quantity = 0
      · exact Or.inl (List.forall_mem_cons.mpr ⟨hfirst, hzero⟩)
      · exact Or.inr ⟨[], first, lots, rfl, hfirst, hzero⟩
    · exact Or.inr ⟨first :: front, lot, rest, rfl, hlot, hrest⟩

end Netting
