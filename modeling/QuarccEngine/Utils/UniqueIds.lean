import Mathlib.Data.Nat.ModEq
import QuarccEngine.Library.Decimals
import QuarccEngine.Utils.OrderIds

/-!
# Unique order ids

An id ends in the counter of its generator, so that the counter can be read back from the id,
whatever the clock says and however many digits the counter has.  A generator whose calls are fewer
than its counter has values gives no id twice.

The counter is atomic: the calls of several threads are a sequence, in the order in which they
advance the counter, and the clock that each of them has read before may go backwards in this
sequence.
-/

namespace Quarcc

/-- The serial number at the end of an order id. -/
def serialOf (id : LocalOrderId) : ℕ := Decimal.trailing id.toList

namespace OrderIdGenerator

/-- The ids of a sequence of calls of `generate`, at the given readings of the clock. -/
def generateAll (g : OrderIdGenerator) : List ℤ → List LocalOrderId
  | [] => []
  | clockMs :: clocks => (g.generate clockMs).1 :: (g.generate clockMs).2.generateAll clocks

/-- **An id carries its counter**, whatever the specifier and the clock are. -/
lemma serialOf_generate (g : OrderIdGenerator) (clockMs : ℤ) :
    serialOf (g.generate clockMs).1 = g.counter.toNat := by
  have hid : (g.generate clockMs).1.toList =
      (g.idSpecifier ++ "_" ++ toString clockMs).toList ++
        '_' :: (List.replicate (6 - (Nat.toDigits 10 g.counter.toNat).length) '0' ++
          Nat.toDigits 10 g.counter.toNat) := by
    unfold generate zeroPad
    simp only [String.toList_append, String.toList_ofList, List.append_assoc]
    rfl
  unfold serialOf
  rw [hid]
  exact Decimal.trailing_padded (by decide) _ _ _

/-- The counter counts the calls, modulo the number of its values. -/
lemma counter_generate (g : OrderIdGenerator) (clockMs : ℤ) :
    (g.generate clockMs).2.counter.toNat = (g.counter.toNat + 1) % 2 ^ 64 :=
  UInt64.toNat_add g.counter 1

/-- The ids of a sequence of calls carry consecutive counters. -/
lemma map_serialOf_generateAll (g : OrderIdGenerator) (clocks : List ℤ) :
    (g.generateAll clocks).map serialOf =
      (List.range clocks.length).map fun k => (g.counter.toNat + k) % 2 ^ 64 := by
  induction clocks generalizing g with
  | nil => rfl
  | cons clockMs clocks ih =>
    have hfirst : g.counter.toNat = (g.counter.toNat + 0) % 2 ^ 64 :=
      (Nat.mod_eq_of_lt g.counter.toNat_lt).symm
    have hnext : ∀ k, ((g.generate clockMs).2.counter.toNat + k) % 2 ^ 64 =
        (g.counter.toNat + (k + 1)) % 2 ^ 64 := by
      intro k
      rw [counter_generate, Nat.mod_add_mod, Nat.add_assoc, Nat.add_comm 1 k]
    rw [generateAll, List.map_cons, serialOf_generate, ih, List.length_cons,
      List.range_succ_eq_map, List.map_cons, List.map_map, ← hfirst]
    congr 1
    exact List.map_congr_left fun k _ => hnext k

/-- Counters that are fewer than the values of the counter are distinct. -/
lemma nodup_counters (start : ℕ) {n : ℕ} (h : n ≤ 2 ^ 64) :
    ((List.range n).map fun k => (start + k) % 2 ^ 64).Nodup := by
  refine List.Nodup.map_on ?_ List.nodup_range
  intro i hi j hj heq
  rw [List.mem_range] at hi hj
  have hmod : i ≡ j [MOD 2 ^ 64] := Nat.ModEq.add_left_cancel' start heq
  exact hmod.eq_of_lt_of_lt (by omega) (by omega)

/-- **Order ids are unique**: fewer calls than the counter has values give pairwise distinct ids, at
any readings of the clock. -/
theorem generated_ids_nodup (g : OrderIdGenerator) (clocks : List ℤ) (h : clocks.length < 2 ^ 64) :
    (g.generateAll clocks).Nodup := by
  apply List.Nodup.of_map serialOf
  rw [map_serialOf_generateAll]
  exact nodup_counters g.counter.toNat h.le

/-- The counter outgrows its padding while the clock stands still and then goes backwards. -/
theorem generated_ids_nodup_outgrown :
    let g : OrderIdGenerator := { counter := 999999 }
    g.generateAll [5, 5, 4] = ["ORD_5_999999", "ORD_5_1000000", "ORD_4_1000001"] ∧
      (g.generateAll [5, 5, 4]).Nodup := by
  intro g
  exact ⟨by decide +kernel, generated_ids_nodup g [5, 5, 4] (by decide)⟩

end OrderIdGenerator

end Quarcc
