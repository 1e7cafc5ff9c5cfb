import Mathlib.Data.List.Basic
import Mathlib.Data.List.Induction

/-!
# The first element of each key

What is left of a list when an element is dropped as soon as its key has been met before: in an
element further to the front, or among the keys that were there at the start.  An element may have
no key, and is then never dropped.
-/

namespace FirstOfEach

variable {α κ : Type*} [DecidableEq κ] (key : α → Option κ) (there : List (Option κ))

/-- The key of the element was there, or is that of an element before it. -/
def Repeats (before : List α) (a : α) : Prop :=
  key a ≠ none ∧ (key a ∈ there ∨ key a ∈ before.map key)

instance (before : List α) (a : α) : Decidable (Repeats key there before a) :=
  inferInstanceAs (Decidable (_ ∧ _))

/-- The elements that do not repeat a key. -/
def firsts (l : List α) : List α :=
  (l.zipIdx.filter fun p => ¬ Repeats key there (l.take p.2) p.1).map Prod.fst

/-- One more element. -/
lemma firsts_concat (l : List α) (a : α) :
    firsts key there (l ++ [a]) =
      firsts key there l ++ if Repeats key there l a then [] else [a] := by
  have hfront : (l.zipIdx.filter fun p => ¬ Repeats key there ((l ++ [a]).take p.2) p.1) =
      l.zipIdx.filter fun p => ¬ Repeats key there (l.take p.2) p.1 := by
    refine List.filter_congr fun p hp => ?_
    have hle : p.2 ≤ l.length := by
      obtain ⟨-, hlt, -⟩ := List.mem_zipIdx hp
      omega
    rw [List.take_append_of_le_length hle]
  unfold firsts
  rw [List.zipIdx_append, List.filter_append, List.map_append, hfront]
  congr 1
  by_cases hrepeats : Repeats key there l a
  · simp [hrepeats]
  · simp [hrepeats]

/-- What is left was in the list. -/
lemma mem_of_mem_firsts {a : α} {l : List α} (h : a ∈ firsts key there l) : a ∈ l := by
  obtain ⟨⟨b, k⟩, hp, rfl⟩ := List.mem_map.mp h
  exact List.fst_mem_of_mem_zipIdx (List.mem_filter.mp hp).1

/-- The keys that are left are those that were not there. -/
lemma mem_map_firsts {k : Option κ} (hk : k ≠ none) (l : List α) :
    k ∈ there ∨ k ∈ (firsts key there l).map key ↔ k ∈ there ∨ k ∈ l.map key := by
  induction l using List.reverseRecOn with
  | nil => rfl
  | append_singleton l a ih =>
    rw [firsts_concat, List.map_append, List.mem_append, ← or_assoc, ih, List.map_append,
      List.mem_append, ← or_assoc]
    by_cases hrepeats : Repeats key there l a
    · rw [if_pos hrepeats]
      constructor
      · rintro (h | h)
        · exact Or.inl h
        · exact absurd h List.not_mem_nil
      · rintro (h | h)
        · exact Or.inl h
        · obtain rfl := List.mem_singleton.mp h
          exact Or.inl hrepeats.2
    · rw [if_neg hrepeats]

end FirstOfEach
