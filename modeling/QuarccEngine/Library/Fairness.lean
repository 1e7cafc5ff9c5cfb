import Mathlib.Data.List.Basic
import Mathlib.Order.WellFounded

/-!
# Infinite runs and progress

The threads of a program share one state, and a schedule says which of them takes the next step.
That something is reached at last can only be shown for schedules which let every thread take its
steps again and again, `Recurs` below.

The rule at the end is the usual one for such schedules.  Every state up to the goal has a rank and
a duty, the step that has to be taken for the rank to become smaller.  Steps of the other threads
may come in between as long as they do not make the rank larger and leave the duty as it is.  The
rank need not be a function of the state: it may depend on where the run has begun.  What the steps
have to meet is of two kinds: some of it holds all the time, and some from some moment on.
-/

namespace Fairness

variable {σ ι κ V : Type*} {step : σ → ι → σ} {s : σ} {schedule : ℕ → ι}

/-- The state of an infinite run after `n` steps. -/
def state (step : σ → ι → σ) (s : σ) (schedule : ℕ → ι) : ℕ → σ
  | 0 => s
  | n + 1 => step (state step s schedule n) (schedule n)

/-- A step of the given kind is taken again and again. -/
def Recurs (kind : ι → Prop) (schedule : ℕ → ι) : Prop :=
  ∀ n, ∃ m, n ≤ m ∧ kind (schedule m)

@[simp] lemma state_zero : state step s schedule 0 = s := rfl

@[simp] lemma state_succ (n : ℕ) :
    state step s schedule (n + 1) = step (state step s schedule n) (schedule n) := rfl

/-- The schedule that goes through the steps of a list over and over. -/
def repeating (cycle : List ι) (h : 0 < cycle.length) (n : ℕ) : ι :=
  cycle.get ⟨n % cycle.length, Nat.mod_lt n h⟩

/-- Only steps of the list are taken. -/
lemma repeating_mem (cycle : List ι) (h : 0 < cycle.length) (n : ℕ) : repeating cycle h n ∈ cycle :=
  List.get_mem cycle _

/-- Each step of the list is taken again and again. -/
lemma recurs_repeating {kind : ι → Prop} {cycle : List ι} (h : 0 < cycle.length) {i : ι}
    (hi : i ∈ cycle) (hkind : kind i) : Recurs kind (repeating cycle h) := by
  intro n
  obtain ⟨k, hk, rfl⟩ := List.getElem_of_mem hi
  refine ⟨n * cycle.length + k, ?_, ?_⟩
  · exact (Nat.le_mul_of_pos_right n h).trans (Nat.le_add_right _ _)
  · unfold repeating
    simpa [Nat.mul_add_mod', Nat.mod_eq_of_lt hk] using hkind

/-- The schedule that goes through one list first, and then through another over and over. -/
def thenRepeating (first cycle : List ι) (h : 0 < cycle.length) (n : ℕ) : ι :=
  first[n]?.getD (repeating cycle h n)

/-- After the first list only steps of the second are taken. -/
lemma thenRepeating_mem {first : List ι} (cycle : List ι) (h : 0 < cycle.length) {n : ℕ}
    (hn : first.length ≤ n) : thenRepeating first cycle h n ∈ cycle := by
  unfold thenRepeating
  rw [List.getElem?_eq_none hn]
  exact repeating_mem cycle h n

/-- Each step of the second list is taken again and again. -/
lemma recurs_thenRepeating {kind : ι → Prop} {first cycle : List ι} (h : 0 < cycle.length) {i : ι}
    (hi : i ∈ cycle) (hkind : kind i) : Recurs kind (thenRepeating first cycle h) := by
  intro n
  obtain ⟨m, hm, hthis⟩ := recurs_repeating h hi hkind (n + first.length)
  refine ⟨m, (Nat.le_add_right _ _).trans hm, ?_⟩
  unfold thenRepeating
  rwa [List.getElem?_eq_none ((Nat.le_add_left _ _).trans hm)]

/-! ## Progress -/

section Progress

variable {ranked : V → κ → σ → Prop} {goal : σ → Prop} {timely allowed : σ → ι → Prop}
  {does : κ → ι → Prop}

/-- Every state up to the goal has some rank and some duty. -/
lemma reached_or_ranked
    (hkeep : ∀ v k s i, ranked v k s → timely s i →
      goal (step s i) ∨ ∃ v' k', ranked v' k' (step s i))
    (htimely : ∀ n, timely (state step s schedule n) (schedule n))
    {v : V} {k : κ} (hs : ranked v k s) (n : ℕ) :
    (∃ m, goal (state step s schedule m)) ∨ ∃ v k, ranked v k (state step s schedule n) := by
  induction n with
  | zero => exact Or.inr ⟨v, k, hs⟩
  | succ n ih =>
    rcases ih with hgoal | ⟨v, k, hn⟩
    · exact Or.inl hgoal
    · exact (hkeep v k _ (schedule n) hn (htimely n)).imp_left fun hgoal => ⟨n + 1, hgoal⟩

variable [LT V]

/-- Once the duty is done the rank is smaller, unless the goal was reached before. -/
lemma exists_smaller
    (hstep : ∀ v k s i, ranked v k s → timely s i → allowed s i → goal (step s i) ∨
      (∃ v' k', v' < v ∧ ranked v' k' (step s i)) ∨ ranked v k (step s i) ∧ ¬ does k i)
    (htimely : ∀ n, timely (state step s schedule n) (schedule n)) {n m : ℕ} (hnm : n ≤ m)
    (hallowed : ∀ j, n ≤ j → allowed (state step s schedule j) (schedule j))
    {v : V} {k : κ} (hn : ranked v k (state step s schedule n)) (hdoes : does k (schedule m)) :
    ∃ j, n ≤ j ∧ (goal (state step s schedule j) ∨
      ∃ v' k', v' < v ∧ ranked v' k' (state step s schedule j)) := by
  induction hd : m - n generalizing n with
  | zero =>
    obtain rfl : n = m := by omega
    refine ⟨n + 1, by omega, ?_⟩
    rcases hstep v k _ (schedule n) hn (htimely n) (hallowed n le_rfl) with hgoal | hless | ⟨-,
      hnot⟩
    · exact Or.inl hgoal
    · exact Or.inr hless
    · exact absurd hdoes hnot
  | succ d ih =>
    rcases hstep v k _ (schedule n) hn (htimely n)
      (hallowed n le_rfl) with hgoal | hless | ⟨hsame, -⟩
    · exact ⟨n + 1, by omega, Or.inl hgoal⟩
    · exact ⟨n + 1, by omega, Or.inr hless⟩
    · -- nothing has changed: the duty is the same one step later
      obtain ⟨j, hj, hreached⟩ := ih (n := n + 1) (by omega)
        (fun j hj => hallowed j (by omega)) hsame (by omega)
      exact ⟨j, by omega, hreached⟩

variable (ranked timely allowed does) in
/-- **Progress rule.**  If every timely step keeps to the ranked states or reaches the goal, if from
some moment on a step either makes the rank smaller or leaves the rank and the duty and is not the
duty itself, and if every duty is done again and again, then the goal is reached. -/
theorem eventually_of_ranked [WellFoundedLT V]
    (hkeep : ∀ v k s i, ranked v k s → timely s i →
      goal (step s i) ∨ ∃ v' k', ranked v' k' (step s i))
    (hstep : ∀ v k s i, ranked v k s → timely s i → allowed s i → goal (step s i) ∨
      (∃ v' k', v' < v ∧ ranked v' k' (step s i)) ∨ ranked v k (step s i) ∧ ¬ does k i)
    (hfair : ∀ v k s, ranked v k s → Recurs (does k) schedule)
    (htimely : ∀ n, timely (state step s schedule n) (schedule n))
    (hallowed : ∃ n, ∀ j, n ≤ j → allowed (state step s schedule j) (schedule j))
    {v : V} {k : κ} (hs : ranked v k s) : ∃ n, goal (state step s schedule n) := by
  obtain ⟨n, hallowed⟩ := hallowed
  rcases reached_or_ranked hkeep htimely hs n with hgoal | ⟨v, k, hn⟩
  · exact hgoal
  -- by induction on the rank at a moment from which all steps are allowed
  induction v using WellFoundedLT.induction generalizing n k with
  | ind v ih =>
    obtain ⟨m, hnm, hdoes⟩ := hfair v k _ hn n
    obtain ⟨j, hnj, hgoal | ⟨v', k', hless, hj⟩⟩ :=
      exists_smaller hstep htimely hnm hallowed hn hdoes
    · exact ⟨j, hgoal⟩
    · exact ih v' hless j (fun i hi => hallowed i (hnj.trans hi)) k' hj

/-- **Progress rule, moment by moment.**  The rank, the duty and the goal may depend on the moment
of a run, and so may what it takes to do a duty.  Whenever a step either reaches the goal, makes the
rank smaller, or leaves the rank and the duty and does not do the duty, and every duty is done again
and again, the goal is reached. -/
theorem reached_of_ranked [WellFoundedLT V] (ranked : V → κ → ℕ → Prop) {goal : ℕ → Prop}
    {does : κ → ℕ → Prop}
    (hstep : ∀ v k n, ranked v k n → goal (n + 1) ∨
      (∃ v' k', v' < v ∧ ranked v' k' (n + 1)) ∨ ranked v k (n + 1) ∧ ¬ does k n)
    (hfair : ∀ k n, ∃ m, n ≤ m ∧ does k m) {v : V} {k : κ} {n : ℕ} (hn : ranked v k n) :
    ∃ m, n ≤ m ∧ goal m := by
  -- the moment is the state, and it is its own step
  have hstate : ∀ j, state (fun n (_ : ℕ) => n + 1) n (fun j => n + j) j = n + j := by
    intro j
    induction j with
    | zero => rfl
    | succ j ih => rw [state_succ, ih, Nat.add_assoc]
  have hreached : ∃ j, goal (state (fun n (_ : ℕ) => n + 1) n (fun j => n + j) j) := by
    refine eventually_of_ranked ranked (fun n i => n = i) (fun _ _ => True) does ?_ ?_ ?_ hstate
      ⟨0, fun _ _ => trivial⟩ hn
    · rintro v k n _ h rfl
      rcases hstep v k n h with hgoal | ⟨v', k', -, h'⟩ | ⟨h', -⟩
      · exact Or.inl hgoal
      · exact Or.inr ⟨v', k', h'⟩
      · exact Or.inr ⟨v, k, h'⟩
    · rintro v k n _ h rfl -
      exact hstep v k n h
    · intro v k _ _ j
      obtain ⟨m, hm, hdoes⟩ := hfair k (n + j)
      obtain ⟨d, rfl⟩ := Nat.exists_eq_add_of_le (Nat.le_of_add_right_le hm)
      exact ⟨d, Nat.le_of_add_le_add_left hm, hdoes⟩
  obtain ⟨j, hgoal⟩ := hreached
  rw [hstate] at hgoal
  exact ⟨n + j, Nat.le_add_right n j, hgoal⟩

end Progress

end Fairness
