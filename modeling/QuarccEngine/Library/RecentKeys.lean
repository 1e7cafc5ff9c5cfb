import Mathlib.Data.Finset.Card
import Mathlib.Data.List.DropRight

/-!
# Recent keys

A filter that drops what carries one of the keys it passed most recently.  It keeps the keys twice:
in a set, which answers whether a key is recent, and in a queue, whose front says which key makes
room for a new one.

`RecentKeys.Holds` relates the two containers to the keys that were passed: the queue is the end of
their list, and the set has the same keys.  From this, one passed key to the next, follows what the
filter lets through.
-/

variable {κ : Type*} [DecidableEq κ]

/-- A set of keys with the queue of their order. -/
structure RecentKeys (κ : Type*) where
  keys : Finset κ := ∅
  order : List κ := []

namespace RecentKeys

/-- A new key is added; when there is no room, the key at the front of the queue makes room for it.
There is nothing to take from the front of an empty queue. -/
def push (capacity : ℕ) (r : RecentKeys κ) (k : κ) : Option (RecentKeys κ) :=
  if capacity ≤ r.keys.card then
    match r.order with
    | [] => none
    | oldest :: rest => some ⟨insert k (r.keys.erase oldest), rest ++ [k]⟩
  else some ⟨insert k r.keys, r.order ++ [k]⟩

/-- Both containers hold the same keys, each of them once, and no more than there is room for. -/
structure InStep (capacity : ℕ) (r : RecentKeys κ) : Prop where
  same : r.keys = r.order.toFinset
  nodup : r.order.Nodup
  length_le : r.order.length ≤ capacity

/-- The containers hold the most recent of the keys that were passed. -/
structure Holds (capacity : ℕ) (r : RecentKeys κ) (passed : List κ) : Prop
    extends InStep capacity r where
  order_eq : r.order = passed.rtake capacity

omit [DecidableEq κ] in
/-- The end of a list after one more element. -/
lemma rtake_concat {l : List κ} {n : ℕ} (hn : 0 < n) (x : κ) :
    (l ++ [x]).rtake n = if n ≤ (l.rtake n).length then (l.rtake n).drop 1 ++ [x]
      else l.rtake n ++ [x] := by
  obtain ⟨m, rfl⟩ := Nat.exists_eq_succ_of_ne_zero hn.ne'
  rw [Nat.succ_eq_add_one, List.rtake_concat_succ]
  unfold List.rtake
  rw [List.length_drop, List.drop_drop]
  split_ifs with hfull
  · congr 2
    omega
  · congr 2
    omega

namespace InStep

variable {capacity : ℕ} {r : RecentKeys κ} (h : r.InStep capacity)

include h

/-- The set has as many keys as the queue. -/
lemma card_eq : r.keys.card = r.order.length := by
  rw [h.same, List.toFinset_card_of_nodup h.nodup]

/-- A key is in the set when it is in the queue. -/
lemma mem_iff (k : κ) : k ∈ r.keys ↔ k ∈ r.order := by
  rw [h.same, List.mem_toFinset]

end InStep

/-- Empty containers hold the keys of an empty list. -/
lemma holds_empty (capacity : ℕ) : ({} : RecentKeys κ).Holds capacity [] where
  same := rfl
  nodup := List.nodup_nil
  length_le := Nat.zero_le capacity
  order_eq := (List.rtake_nil capacity).symm

/-- **Step lemma.**  A key that is not recent can be added, and the containers hold the most recent
keys again. -/
theorem Holds.push {capacity : ℕ} (hcapacity : 0 < capacity) {r : RecentKeys κ} {passed : List κ}
    (h : r.Holds capacity passed) {k : κ} (hnew : k ∉ r.keys) :
    ∃ r', r.push capacity k = some r' ∧ r'.Holds capacity (passed ++ [k]) := by
  have hcard := h.card_eq
  have hnew' : k ∉ r.order := fun hk => hnew ((h.mem_iff k).mpr hk)
  have hend := rtake_concat (l := passed) hcapacity k
  rw [← h.order_eq] at hend
  unfold RecentKeys.push
  by_cases hfull : capacity ≤ r.order.length
  · -- the oldest key makes room
    rw [if_pos hfull] at hend
    rw [if_pos (hcard ▸ hfull)]
    cases horder : r.order with
    | nil =>
      rw [horder, List.length_nil] at hfull
      omega
    | cons oldest rest =>
      have hnodup := h.nodup
      have hlength := h.length_le
      rw [horder] at hnodup hlength hnew' hend
      obtain ⟨holdest, hrest⟩ := List.nodup_cons.mp hnodup
      have hfresh : k ∉ rest := fun hk => hnew' (List.mem_cons_of_mem oldest hk)
      refine ⟨_, rfl, ⟨?_, ?_, ?_⟩, hend.symm⟩
      · ext x
        have hx : x ∈ rest → x ≠ oldest := fun hx heq => holdest (heq ▸ hx)
        simp only [h.same, horder, List.toFinset_cons, Finset.mem_insert, Finset.mem_erase,
          List.mem_toFinset, List.mem_append, List.mem_singleton]
        tauto
      · exact List.nodup_append'.mpr ⟨hrest, List.nodup_singleton k, by simpa using hfresh⟩
      · rw [List.length_append, List.length_singleton]
        exact hlength
  · -- there is room for one more
    rw [if_neg hfull] at hend
    rw [if_neg (hcard ▸ hfull)]
    refine ⟨_, rfl, ⟨?_, ?_, ?_⟩, hend.symm⟩
    · ext x
      simp only [h.same, Finset.mem_insert, List.mem_toFinset, List.mem_append,
        List.mem_singleton]
      tauto
    · exact List.nodup_append'.mpr ⟨h.nodup, List.nodup_singleton k, by simpa using hnew'⟩
    · rw [List.length_append, List.length_singleton]
      omega

/-! ## The filter -/

section Filter

variable {α : Type*} (key : α → Option κ) (capacity : ℕ)

/-- The most recent keys of what was passed. -/
def recent (passed : List α) : List κ := (passed.filterMap key).rtake capacity

/-- An element is passed unless its key, if it has one, is recent. -/
def passNext (passed : List α) (x : α) : List α :=
  if ∀ k ∈ key x, k ∉ recent key capacity passed then passed ++ [x] else passed

/-- What the filter passes of a list. -/
def passOf (xs : List α) : List α := xs.foldl (passNext key capacity) []

example : passOf some 2 [1, 2, 1, 3, 1] = [1, 2, 3, 1] := by decide

variable {key capacity} {r : RecentKeys κ} {passed : List α} {x : α}
  (h : r.Holds capacity (passed.filterMap key))

/-- An element without a key is passed, and the keys stay. -/
lemma passNext_of_none (hx : key x = none) :
    passNext key capacity passed x = passed ++ [x] ∧
      (passed ++ [x]).filterMap key = passed.filterMap key := by
  unfold passNext
  rw [hx]
  refine ⟨if_pos fun k hk => absurd hk (Option.not_mem_none k), ?_⟩
  rw [List.filterMap_append, List.filterMap_cons_none hx, List.filterMap_nil, List.append_nil]

include h

/-- An element with a key in the set is dropped. -/
lemma Holds.passNext_of_mem {k : κ} (hx : key x = some k) (hk : k ∈ r.keys) :
    passNext key capacity passed x = passed := by
  unfold passNext
  rw [hx]
  refine if_neg fun hnot => hnot k rfl ?_
  unfold recent
  rw [← h.order_eq]
  exact (h.mem_iff k).mp hk

/-- An element with a key that is not in the set is passed, and its key comes last. -/
lemma Holds.passNext_of_notMem {k : κ} (hx : key x = some k) (hk : k ∉ r.keys) :
    passNext key capacity passed x = passed ++ [x] ∧
      (passed ++ [x]).filterMap key = passed.filterMap key ++ [k] := by
  unfold passNext
  rw [hx]
  refine ⟨if_pos ?_, ?_⟩
  · intro k' hk' hrecent
    obtain rfl := Option.some.inj hk'
    unfold recent at hrecent
    rw [← h.order_eq] at hrecent
    exact hk ((h.mem_iff k).mpr hrecent)
  · rw [List.filterMap_append, List.filterMap_cons_some hx, List.filterMap_nil]

end Filter

/-! ## Logs that are read again -/

section Log

variable {α : Type*} {key : α → Option κ} {capacity : ℕ} {log : List α} {keys : List κ}
  (hkeys : log.map key = keys.map some)

include hkeys

omit [DecidableEq κ] in
/-- The keys of the first elements of a log. -/
lemma filterMap_take (n : ℕ) : (log.take n).filterMap key = keys.take n := by
  have hmap : (log.take n).filterMap key = ((log.take n).map key).filterMap id := by
    rw [List.filterMap_map, Function.id_comp]
  rw [hmap, List.map_take, hkeys, ← List.map_take, List.filterMap_map, Function.id_comp,
    List.filterMap_some]

omit [DecidableEq κ] in
/-- The key of an element of a log. -/
lemma exists_key {i : ℕ} {x : α} (hx : log[i]? = some x) :
    ∃ k, key x = some k ∧ keys[i]? = some k := by
  have hi := congrArg (·[i]?) hkeys
  simp only [List.getElem?_map, hx, Option.map_some] at hi
  obtain ⟨k, hk, hsome⟩ := Option.map_eq_some_iff.mp hi.symm
  exact ⟨k, hsome.symm, hk⟩

omit [DecidableEq κ] in
/-- When the first `n` elements of a log have been passed, the key at `i` is recent exactly when it
is one of the last `capacity` keys of these. -/
lemma mem_recent_take (hnodup : keys.Nodup) {n : ℕ} (hn : n ≤ log.length) {i : ℕ} {k : κ}
    (hk : keys[i]? = some k) :
    k ∈ recent key capacity (log.take n) ↔ i < n ∧ n ≤ i + capacity := by
  have hlength : keys.length = log.length := by
    simpa using (congrArg List.length hkeys).symm
  have hi : i < keys.length := (List.getElem?_eq_some_iff.mp hk).1
  unfold recent
  rw [filterMap_take hkeys, List.rtake, List.length_take, Nat.min_eq_left (hlength ▸ hn),
    List.mem_iff_getElem?]
  constructor
  · rintro ⟨j, hj⟩
    rw [List.getElem?_drop] at hj
    have hlt : n - capacity + j < n := by
      have hbound := (List.getElem?_eq_some_iff.mp hj).1
      rw [List.length_take] at hbound
      omega
    rw [List.getElem?_take_of_lt hlt, ← hk] at hj
    have heq := (List.getElem?_inj (by omega) hnodup).mp hj
    omega
  · rintro ⟨hlt, hle⟩
    refine ⟨i - (n - capacity), ?_⟩
    rw [List.getElem?_drop, show n - capacity + (i - (n - capacity)) = i by omega,
      List.getElem?_take_of_lt hlt, hk]

/-- **A log that is read again.**  When the first `n` elements of a log have been passed, one of
these is dropped exactly when it is among the last `capacity`. -/
theorem passNext_again (hnodup : keys.Nodup) {n : ℕ} (hn : n ≤ log.length) {i : ℕ} (hi : i < n)
    {x : α} (hx : log[i]? = some x) :
    passNext key capacity (log.take n) x =
      if n ≤ i + capacity then log.take n else log.take n ++ [x] := by
  obtain ⟨k, hkey, hk⟩ := exists_key hkeys hx
  have hrecent : k ∈ recent key capacity (log.take n) ↔ _ := mem_recent_take hkeys hnodup hn hk
  unfold passNext
  rw [hkey]
  by_cases hle : n ≤ i + capacity
  · rw [if_pos hle, if_neg]
    exact fun hnot => hnot k rfl (hrecent.mpr ⟨hi, hle⟩)
  · rw [if_neg hle, if_pos]
    intro k' hk' hmem
    obtain rfl := Option.some.inj hk'
    exact hle (hrecent.mp hmem).2

/-- The next element of a log is passed. -/
theorem passNext_next (hnodup : keys.Nodup) {n : ℕ} {x : α} (hx : log[n]? = some x) :
    passNext key capacity (log.take n) x = log.take (n + 1) := by
  obtain ⟨k, hkey, hk⟩ := exists_key hkeys hx
  have hn : n < log.length := (List.getElem?_eq_some_iff.mp hx).1
  have hrecent : k ∈ recent key capacity (log.take n) ↔ _ :=
    mem_recent_take hkeys hnodup hn.le hk
  unfold passNext
  rw [hkey, if_pos, List.take_add_one, hx]
  · rfl
  · intro k' hk' hmem
    obtain rfl := Option.some.inj hk'
    exact lt_irrefl n (hrecent.mp hmem).1

end Log

end RecentKeys
