import Mathlib.Algebra.BigOperators.Group.List.Basic
import Mathlib.Tactic.Abel

/-!
# Tables with a key

A table of a relational store is a list of rows, each row having a key.  `find` selects by key and
`modify` is the `UPDATE … WHERE key = k` of SQL: it rewrites every row with the key and keeps the
others.

The lemmas say how a selection reads an appended row and an update, which columns an update keeps,
and, when no two rows share a key, how an update changes the sum of a column.
-/

namespace Table

variable {κ ρ : Type*} [DecidableEq κ] (key : ρ → κ)

/-- The first row with the given key. -/
def find (rows : List ρ) (k : κ) : Option ρ :=
  rows.find? fun r => decide (key r = k)

/-- Rewrite the rows with the given key. -/
def modify (rows : List ρ) (k : κ) (f : ρ → ρ) : List ρ :=
  rows.map fun r => if key r = k then f r else r

variable {key}

@[simp] lemma find_nil (k : κ) : find key [] k = none := rfl

/-- A row that is found has the key. -/
lemma key_of_find {rows : List ρ} {k : κ} {r : ρ} (h : find key rows k = some r) : key r = k := by
  have h' := List.find?_some h
  exact of_decide_eq_true h'

/-- A row that is found is in the table. -/
lemma mem_of_find {rows : List ρ} {k : κ} {r : ρ} (h : find key rows k = some r) : r ∈ rows :=
  List.mem_of_find?_eq_some h

/-- Nothing is found exactly for the keys that are not in the table. -/
lemma find_eq_none_iff {rows : List ρ} {k : κ} : find key rows k = none ↔ k ∉ rows.map key := by
  simp [find]

/-- When the keys are distinct, every row is found under its key. -/
lemma find_of_mem {rows : List ρ} (hkeys : (rows.map key).Nodup) {r : ρ} (hr : r ∈ rows) :
    find key rows (key r) = some r := by
  induction rows with
  | nil => simp at hr
  | cons row rows ih =>
    rw [List.map_cons, List.nodup_cons] at hkeys
    rcases List.mem_cons.mp hr with rfl | hr'
    · simp [find]
    · have hne : key row ≠ key r := by
        intro heq
        exact hkeys.1 (heq ▸ List.mem_map_of_mem hr')
      have hrest := ih hkeys.2 hr'
      simpa [find, hne] using hrest

/-- Selecting after a row with a new key was appended. -/
lemma find_append {rows : List ρ} {row : ρ} (hnew : key row ∉ rows.map key) (k : κ) :
    find key (rows ++ [row]) k = if k = key row then some row else find key rows k := by
  have hsplit : find key (rows ++ [row]) k = (find key rows k).or (find key [row] k) :=
    List.find?_append
  rw [hsplit]
  by_cases hk : k = key row
  · have hnone : find key rows k = none := find_eq_none_iff.mpr (hk ▸ hnew)
    rw [hnone, if_pos hk]
    simp [find, hk]
  · have hnone : find key [row] k = none := by simp [find, Ne.symm hk]
    rw [hnone, if_neg hk, Option.or_none]

/-- Selecting after an update that keeps the keys. -/
lemma find_modify {f : ρ → ρ} (hf : ∀ r, key (f r) = key r) (rows : List ρ) (k k' : κ) :
    find key (modify key rows k f) k' =
      if k' = k then (find key rows k').map f else find key rows k' := by
  induction rows with
  | nil => simp [modify]
  | cons row rows ih =>
    have hkey : key (if key row = k then f row else row) = key row := by
      split_ifs
      · exact hf row
      · rfl
    unfold find modify at ih ⊢
    rw [List.map_cons, List.find?_cons, List.find?_cons, hkey]
    by_cases hrow : key row = k'
    · subst hrow
      by_cases hk : key row = k <;> simp [hk]
    · simp only [hrow, decide_false]
      exact ih

/-- A column that the update does not touch stays as it is. -/
lemma map_modify {γ : Type*} {g : ρ → γ} {f : ρ → ρ} (hg : ∀ r, g (f r) = g r) (rows : List ρ)
    (k : κ) : (modify key rows k f).map g = rows.map g := by
  unfold modify
  rw [List.map_map]
  refine List.map_congr_left fun r _ => ?_
  by_cases hr : key r = k <;> simp [hr, hg]

/-- An update of a key that is not in the table does nothing. -/
lemma modify_of_find_none {rows : List ρ} {k : κ} (h : find key rows k = none) (f : ρ → ρ) :
    modify key rows k f = rows := by
  have hnot := find_eq_none_iff.mp h
  have hid : ∀ r ∈ rows, (if key r = k then f r else r) = r := by
    intro r hr
    exact if_neg fun hrk : key r = k => hnot (hrk ▸ List.mem_map_of_mem hr)
  unfold modify
  rw [List.map_congr_left hid, List.map_id']

/-- The members of an updated table. -/
lemma mem_modify {rows : List ρ} {k : κ} {f : ρ → ρ} {r : ρ} (h : r ∈ modify key rows k f) :
    (r ∈ rows ∧ key r ≠ k) ∨ ∃ r₀ ∈ rows, key r₀ = k ∧ r = f r₀ := by
  obtain ⟨r₀, hr₀, rfl⟩ := List.mem_map.mp h
  by_cases hk : key r₀ = k
  · exact Or.inr ⟨r₀, hr₀, hk, if_pos hk⟩
  · rw [if_neg hk]
    exact Or.inl ⟨hr₀, hk⟩

/-- When the keys are distinct, an update changes the sum of a column by what it changes in the one
row with the key. -/
lemma sum_modify {M : Type*} [AddCommGroup M] (g : ρ → M) {rows : List ρ}
    (hkeys : (rows.map key).Nodup) {k : κ} {r : ρ} (h : find key rows k = some r) (f : ρ → ρ) :
    ((modify key rows k f).map g).sum = (rows.map g).sum + (g (f r) - g r) := by
  induction rows with
  | nil => simp at h
  | cons row rows ih =>
    rw [List.map_cons, List.nodup_cons] at hkeys
    by_cases hrow : key row = k
    · have hr : row = r := by
        unfold find at h
        rw [List.find?_cons, decide_eq_true hrow] at h
        exact Option.some.inj h
      have hnone : find key rows k = none := find_eq_none_iff.mpr (hrow ▸ hkeys.1)
      have hrest := modify_of_find_none hnone f
      unfold modify at hrest ⊢
      rw [List.map_cons, List.map_cons, if_pos hrow, hrest, List.sum_cons, List.map_cons,
        List.sum_cons, hr]
      abel
    · have hfind : find key rows k = some r := by
        unfold find at h ⊢
        rw [List.find?_cons, decide_eq_false hrow] at h
        exact h
      have hrest := ih hkeys.2 hfind
      unfold modify at hrest ⊢
      rw [List.map_cons, List.map_cons, if_neg hrow, List.sum_cons, hrest, List.map_cons,
        List.sum_cons]
      abel

/-- When the keys are distinct, an update changes the number of rows with a property by what it
changes in the one row with the key. -/
lemma countP_modify (p : ρ → Bool) {rows : List ρ} (hkeys : (rows.map key).Nodup) {k : κ} {r : ρ}
    (h : find key rows k = some r) (f : ρ → ρ) :
    (modify key rows k f).countP p + (if p r then 1 else 0) =
      rows.countP p + (if p (f r) then 1 else 0) := by
  induction rows with
  | nil => simp at h
  | cons row rows ih =>
    rw [List.map_cons, List.nodup_cons] at hkeys
    by_cases hrow : key row = k
    · have hr : row = r := by
        unfold find at h
        rw [List.find?_cons, decide_eq_true hrow] at h
        exact Option.some.inj h
      have hnone : find key rows k = none := find_eq_none_iff.mpr (hrow ▸ hkeys.1)
      have hrest := modify_of_find_none hnone f
      unfold modify at hrest ⊢
      rw [List.map_cons, if_pos hrow, hrest, List.countP_cons, List.countP_cons, hr]
      omega
    · have hfind : find key rows k = some r := by
        unfold find at h ⊢
        rw [List.find?_cons, decide_eq_false hrow] at h
        exact h
      have hrest := ih hkeys.2 hfind
      unfold modify at hrest ⊢
      rw [List.map_cons, if_neg hrow, List.countP_cons, List.countP_cons]
      omega

/-! ## Rows that stand for other rows -/

section View

variable {ρ' : Type*} {key' : ρ' → κ} {view : ρ → ρ'}

/-- Selecting among the rows that the rows stand for. -/
lemma find_map (hkey : ∀ r, key' (view r) = key r) (rows : List ρ) (k : κ) :
    find key' (rows.map view) k = (find key rows k).map view := by
  unfold find
  rw [List.find?_map]
  congr 2
  funext r
  exact congrArg (fun k' => decide (k' = k)) (hkey r)

/-- An update that does to a row what another one does to the row that it stands for. -/
lemma map_modify_of_view (hkey : ∀ r, key' (view r) = key r) {rows : List ρ} {k : κ} {f : ρ → ρ}
    {f' : ρ' → ρ'} (hf : ∀ r ∈ rows, view (f r) = f' (view r)) :
    (modify key rows k f).map view = modify key' (rows.map view) k f' := by
  unfold modify
  rw [List.map_map, List.map_map]
  refine List.map_congr_left fun r hr => ?_
  by_cases hk : key r = k
  · simp [hk, hkey, hf r hr]
  · simp [hk, hkey]

/-- What holds of all rows holds after an update that keeps it. -/
lemma forall_modify {P : ρ → Prop} {rows : List ρ} {k : κ} {f : ρ → ρ} (h : ∀ r ∈ rows, P r)
    (hf : ∀ r, P r → P (f r)) : ∀ r ∈ modify key rows k f, P r := by
  intro r hr
  rcases mem_modify hr with ⟨hr, -⟩ | ⟨r₀, hr₀, -, rfl⟩
  · exact h r hr
  · exact hf r₀ (h r₀ hr₀)

end View

end Table
