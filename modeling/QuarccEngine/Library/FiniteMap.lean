import Mathlib.Data.List.AList

/-!
# Finite maps

Supplements to Mathlib's `AList`, which models the hash maps of the code: how lookups read an
insertion and an erasure at an arbitrary key, and how the number of entries changes.
-/

namespace FiniteMap

variable {κ : Type*} [DecidableEq κ] {β : κ → Type*}

/-- The number of keys of a finite map. -/
def size (m : AList β) : ℕ := m.keys.length

/-- Inserting at a new key adds an entry. -/
lemma size_insert_of_notMem {m : AList β} {k : κ} (hk : k ∉ m) (v : β k) :
    size (m.insert k v) = size m + 1 := by
  have hk' : k ∉ m.keys := fun h => hk (AList.mem_keys.mpr h)
  simp [size, AList.keys_insert, List.erase_of_not_mem hk']

/-- Erasing a key that is present removes an entry. -/
lemma size_erase_of_mem {m : AList β} {k : κ} (hk : k ∈ m) :
    size (m.erase k) + 1 = size m := by
  have hk' : k ∈ m.keys := AList.mem_keys.mp hk
  have hpos : 0 < m.keys.length := List.length_pos_of_mem hk'
  simp only [size, AList.keys_erase, List.length_erase_of_mem hk']
  omega

/-- A key with a value is present. -/
lemma mem_of_lookup {m : AList β} {k : κ} {v : β k} (h : m.lookup k = some v) : k ∈ m :=
  AList.lookup_isSome.mp (by simp [h])

/-- A map that answers every lookup with nothing is empty. -/
lemma eq_empty_of_lookup {m : AList β} (h : ∀ k, m.lookup k = none) : m = ∅ := by
  have hkeys : m.keys = [] := by
    rw [List.eq_nil_iff_forall_not_mem]
    intro k hk
    exact AList.lookup_eq_none.mp (h k) (AList.mem_keys.mpr hk)
  apply AList.ext
  exact List.map_eq_nil_iff.mp hkeys

variable {γ : Type*}

/-- Looking up a key after an insertion. -/
lemma lookup_insert_eq (m : AList fun _ : κ => γ) (k k' : κ) (v : γ) :
    (m.insert k v).lookup k' = if k' = k then some v else m.lookup k' := by
  by_cases h : k' = k
  · subst h; simp
  · rw [AList.lookup_insert_ne h, if_neg h]

/-- Looking up a key after an erasure. -/
lemma lookup_erase_eq (m : AList fun _ : κ => γ) (k k' : κ) :
    (m.erase k).lookup k' = if k' = k then none else m.lookup k' := by
  by_cases h : k' = k
  · subst h; simp
  · rw [AList.lookup_erase_ne h, if_neg h]

/-- Looking up a key after every key of a list was given a value. -/
lemma lookup_foldl_insert (f : κ → γ) (keys : List κ) (m : AList fun _ : κ => γ) (k : κ) :
    (keys.foldl (fun m k => m.insert k (f k)) m).lookup k =
      if k ∈ keys then some (f k) else m.lookup k := by
  induction keys generalizing m with
  | nil => simp
  | cons first rest ih =>
    rw [List.foldl_cons, ih, lookup_insert_eq]
    by_cases hk : k = first
    · simp [hk]
    · simp [hk]

/-- Looking up a key after every key of a list was erased. -/
lemma lookup_foldl_erase (keys : List κ) (m : AList fun _ : κ => γ) (k : κ) :
    (keys.foldl (fun m k => m.erase k) m).lookup k = if k ∈ keys then none else m.lookup k := by
  induction keys generalizing m with
  | nil => simp
  | cons first rest ih =>
    rw [List.foldl_cons, ih, lookup_erase_eq]
    by_cases hk : k = first
    · simp [hk]
    · simp [hk]

/-- The values are what lookups find. -/
lemma mem_values_iff {m : AList fun _ : κ => γ} {v : γ} :
    v ∈ m.entries.map Sigma.snd ↔ ∃ k, m.lookup k = some v := by
  constructor
  · intro h
    obtain ⟨entry, hentry, rfl⟩ := List.mem_map.mp h
    exact ⟨entry.1, AList.mem_lookup_iff.mpr hentry⟩
  · rintro ⟨k, hk⟩
    exact List.mem_map.mpr ⟨⟨k, v⟩, AList.mem_lookup_iff.mp hk, rfl⟩

/-- The values are distinct when no two keys share one. -/
lemma nodup_values {m : AList fun _ : κ => γ}
    (h : ∀ k k' v, m.lookup k = some v → m.lookup k' = some v → k = k') :
    (m.entries.map Sigma.snd).Nodup := by
  refine List.Nodup.map_on ?_ m.nodupKeys.nodup
  rintro ⟨k, v⟩ hk ⟨k', v'⟩ hk' heq
  obtain rfl : v = v' := heq
  rw [h k k' v (AList.mem_lookup_iff.mpr hk) (AList.mem_lookup_iff.mpr hk')]

/-- The values that belong to one key are what a lookup finds. -/
lemma filter_values {δ : Type*} {m : AList fun _ : κ => γ} (f : γ → δ) {p : δ → Prop}
    [DecidablePred p] (k : κ)
    (h : ∀ k' v, m.lookup k' = some v → (p (f v) ↔ k' = k)) :
    (m.entries.map fun entry => f entry.2).filter (fun v => p v) =
      ((m.lookup k).map f).toList := by
  obtain ⟨entries, hnodup⟩ := m
  have hentries : ∀ entry ∈ entries, p (f entry.2) ↔ entry.1 = k := fun entry hentry =>
    h entry.1 entry.2 (List.mem_dlookup hnodup hentry)
  unfold AList.lookup
  dsimp only
  clear h
  induction entries with
  | nil => rfl
  | cons entry entries ih =>
    obtain ⟨hnew, hrest⟩ := List.nodupKeys_cons.mp hnodup
    have hhere := hentries entry List.mem_cons_self
    have hthere : ∀ e ∈ entries, p (f e.2) ↔ e.1 = k := fun e he =>
      hentries e (List.mem_cons_of_mem entry he)
    have ih := ih hrest hthere
    obtain ⟨k', v⟩ := entry
    rw [List.map_cons]
    by_cases hk : k' = k
    · subst hk
      have hnone : entries.dlookup k' = none := List.dlookup_eq_none.mpr hnew
      rw [hnone] at ih
      rw [List.filter_cons_of_pos (by simpa using hhere), ih, List.dlookup_cons_eq]
      rfl
    · rw [List.filter_cons_of_neg (by simpa [hk] using hhere), ih,
        List.dlookup_cons_ne entries ⟨k', v⟩ (Ne.symm hk)]

/-- The finite map with a function applied to its values. -/
def mapValues {δ : Type*} (f : γ → δ) (m : AList fun _ : κ => γ) : AList fun _ : κ => δ where
  entries := m.entries.map fun entry => ⟨entry.1, f entry.2⟩
  nodupKeys := by
    have hkeys : (m.entries.map fun entry => (⟨entry.1, f entry.2⟩ : Sigma fun _ : κ => δ)).keys =
        m.entries.keys := by
      simp [List.keys]
    unfold List.NodupKeys
    rw [hkeys]
    exact m.nodupKeys

/-- Looking up a key after a function was applied to the values. -/
lemma lookup_mapValues {δ : Type*} (f : γ → δ) (m : AList fun _ : κ => γ) (k : κ) :
    (mapValues f m).lookup k = (m.lookup k).map f := by
  obtain ⟨entries, hnodup⟩ := m
  unfold mapValues AList.lookup
  dsimp only
  clear hnodup
  induction entries with
  | nil => rfl
  | cons entry entries ih =>
    obtain ⟨k', v⟩ := entry
    rw [List.map_cons]
    by_cases hk : k = k'
    · subst hk
      rw [List.dlookup_cons_eq, List.dlookup_cons_eq, Option.map_some]
    · have hmapped :
        (entries.map fun entry => (⟨entry.1, f entry.2⟩ : Sigma fun _ : κ => δ)).dlookup
          k = (entries.dlookup k).map f := ih
      refine Eq.trans (List.dlookup_cons_ne _ _ hk) (hmapped.trans ?_)
      rw [List.dlookup_cons_ne entries ⟨k', v⟩ hk]

end FiniteMap
