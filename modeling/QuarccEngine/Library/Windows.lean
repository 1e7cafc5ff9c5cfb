import Mathlib.Data.List.Dedup
import Mathlib.Data.List.Induction

/-!
# Windows of a stream

A stream falls into windows by a key.  A window is completed when an element of another window
comes, so that after a list of elements all windows but the last one are completed.  `completed`
says this for the whole list at once, each window with all of its elements; the lemmas say what one
more element does to it, which is what an incremental grouping has to follow.
-/

namespace Windows

variable {α κ : Type*} [DecidableEq κ] (key : α → κ)

/-- The keys that occur, in the order of their last occurrences. -/
def windows (xs : List α) : List κ := (xs.map key).dedup

/-- The elements with the key. -/
def members (xs : List α) (w : κ) : List α := xs.filter fun x => key x = w

/-- All windows but the last one, with their elements. -/
def completed (xs : List α) : List (κ × List α) :=
  (windows key xs).dropLast.map fun w => (w, members key xs w)

/-- The last of several occurrences is the one that counts. -/
lemma dedup_concat (l : List κ) (k : κ) :
    (l ++ [k]).dedup = (l.dedup.filter fun k' => k' ≠ k) ++ [k] := by
  induction l with
  | nil => rfl
  | cons a l ih =>
    rw [List.cons_append]
    by_cases hmem : a ∈ l
    · rw [List.dedup_cons_of_mem (List.mem_append_left _ hmem), List.dedup_cons_of_mem hmem, ih]
    rw [List.dedup_cons_of_notMem hmem]
    by_cases heq : a = k
    · subst heq
      have hlast : a ∈ l ++ [a] := List.mem_append_right _ (List.mem_singleton_self a)
      rw [List.dedup_cons_of_mem hlast, ih, List.filter_cons_of_neg (by simp)]
    · have hnew : a ∉ l ++ [k] := by simp [hmem, heq]
      rw [List.dedup_cons_of_notMem hnew, ih, List.filter_cons_of_pos (by simpa using heq),
        List.cons_append]

variable {key} (xs : List α) (x : α)

/-- The windows after one more element, whose own window comes last. -/
lemma windows_concat :
    windows key (xs ++ [x]) = ((windows key xs).filter fun w => w ≠ key x) ++ [key x] := by
  unfold windows
  rw [List.map_append, List.map_singleton, dedup_concat]

/-- The elements of a window after one more element. -/
lemma members_concat (w : κ) :
    members key (xs ++ [x]) w = members key xs w ++ if key x = w then [x] else [] := by
  unfold members
  rw [List.filter_append]
  congr 1
  by_cases hw : key x = w
  · rw [if_pos hw, List.filter_cons_of_pos (by simpa using hw), List.filter_nil]
  · rw [if_neg hw, List.filter_cons_of_neg (by simpa using hw), List.filter_nil]

/-- A window without elements. -/
lemma members_eq_nil {w : κ} (h : w ∉ xs.map key) : members key xs w = [] :=
  List.filter_eq_nil_iff.mpr fun y hy => by
    simpa using fun hw : key y = w => h (hw ▸ List.mem_map_of_mem hy)

/-- The completed windows, when there is an element after them. -/
lemma completed_concat :
    completed key (xs ++ [x]) =
      ((windows key xs).filter fun w => w ≠ key x).map fun w => (w, members key xs w) := by
  unfold completed
  rw [windows_concat, List.dropLast_concat]
  refine List.map_congr_left fun w hw => ?_
  have hother : key x ≠ w := by
    have := (List.mem_filter.mp hw).2
    exact Ne.symm (of_decide_eq_true this)
  rw [members_concat, if_neg hother, List.append_nil]

/-- Another element of the last window completes nothing. -/
lemma completed_concat_same {u : α} (hsame : key x = key u) :
    completed key (xs ++ [u] ++ [x]) = completed key (xs ++ [u]) := by
  rw [completed_concat, windows_concat, List.filter_append, List.filter_filter, hsame]
  unfold completed
  rw [windows_concat, List.dropLast_concat]
  simp

/-- The first element of another window completes the last one. -/
lemma completed_concat_new {u : α} (hnew : key x ∉ (xs ++ [u]).map key) :
    completed key (xs ++ [u] ++ [x]) =
      completed key (xs ++ [u]) ++ [(key u, members key (xs ++ [u]) (key u))] := by
  have hkeep : (windows key (xs ++ [u])).filter (fun w => w ≠ key x) = windows key (xs ++ [u]) := by
    refine List.filter_eq_self.mpr fun w hw => decide_eq_true ?_
    rintro rfl
    exact hnew (List.mem_dedup.mp hw)
  rw [completed_concat, hkeep]
  unfold completed
  rw [windows_concat, List.dropLast_concat, List.map_append, List.map_singleton]

end Windows
