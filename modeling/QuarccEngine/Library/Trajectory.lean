import Mathlib.Data.List.Basic
import Mathlib.Order.Basic

/-!
# Runs of a deterministic system

A system is a step function `step : σ → ι → σ`: a state and an input give the next state.  A run
is the list of its inputs.  Everything that a system leaves open (the order of the events, the
answers of its environment) belongs to the input, so that a statement about all lists of inputs is
a statement about all behaviours.

`AllSteps` says that a relation holds between the state and the input of every step of a run, and
`EveryState` that a property holds of every state the run passes through, the first and the last
included.  The rules at the end turn facts about one step into facts about runs: an invariant rule,
and a rule for properties that hold along a run exactly when every step meets a condition.
-/

namespace Trajectory

variable {σ ι : Type*} {step : σ → ι → σ}

/-- The state a run of the given inputs ends in. -/
def run (step : σ → ι → σ) (s : σ) (inputs : List ι) : σ :=
  inputs.foldl step s

@[simp] lemma run_nil (s : σ) : run step s [] = s := rfl

@[simp] lemma run_cons (s : σ) (i : ι) (is : List ι) :
    run step s (i :: is) = run step (step s i) is := rfl

/-- `A` holds between the state and the input of every step of the run. -/
def AllSteps (step : σ → ι → σ) (A : σ → ι → Prop) : σ → List ι → Prop
  | _, [] => True
  | s, i :: is => A s i ∧ AllSteps step A (step s i) is

/-- `P` holds of every state of the run, from the first to the last. -/
def EveryState (step : σ → ι → σ) (P : σ → Prop) : σ → List ι → Prop
  | s, [] => P s
  | s, i :: is => P s ∧ EveryState step P (step s i) is

/-- Whether a decidable relation holds along a run can be computed. -/
instance AllSteps.decidable (A : σ → ι → Prop) [∀ s i, Decidable (A s i)] :
    (s : σ) → (is : List ι) → Decidable (AllSteps step A s is)
  | _, [] => isTrue trivial
  | s, i :: is =>
    have := AllSteps.decidable A (step s i) is
    inferInstanceAs (Decidable (A s i ∧ AllSteps step A (step s i) is))

@[simp] lemma allSteps_nil {A : σ → ι → Prop} (s : σ) : AllSteps step A s [] := trivial

@[simp] lemma allSteps_cons {A : σ → ι → Prop} {s : σ} {i : ι} {is : List ι} :
    AllSteps step A s (i :: is) ↔ A s i ∧ AllSteps step A (step s i) is := Iff.rfl

@[simp] lemma everyState_nil {P : σ → Prop} {s : σ} : EveryState step P s [] ↔ P s := Iff.rfl

@[simp] lemma everyState_cons {P : σ → Prop} {s : σ} {i : ι} {is : List ι} :
    EveryState step P s (i :: is) ↔ P s ∧ EveryState step P (step s i) is := Iff.rfl

/-- A run of two lists of inputs, one after the other. -/
lemma run_append (s : σ) (is js : List ι) :
    run step s (is ++ js) = run step (run step s is) js :=
  List.foldl_append

/-- A relation holds along a run of two lists of inputs when it holds along both. -/
lemma allSteps_append {A : σ → ι → Prop} {s : σ} {is js : List ι} :
    AllSteps step A s (is ++ js) ↔ AllSteps step A s is ∧ AllSteps step A (run step s is) js := by
  induction is generalizing s with
  | nil => simp
  | cons i is ih => simp only [List.cons_append, allSteps_cons, run_cons, ih, and_assoc]

/-- A property of every state holds of the first one. -/
lemma EveryState.first {P : σ → Prop} {s : σ} {is : List ι} (h : EveryState step P s is) : P s := by
  cases is with
  | nil => exact h
  | cons i is => exact h.1

/-- A property of every state holds of the state the run ends in. -/
lemma EveryState.last {P : σ → Prop} {s : σ} {is : List ι} (h : EveryState step P s is) :
    P (run step s is) := by
  induction is generalizing s with
  | nil => exact h
  | cons i is ih => exact ih h.2

/-- Weakening the property of `EveryState`. -/
lemma EveryState.mono {P Q : σ → Prop} (hPQ : ∀ s, P s → Q s) {s : σ} {is : List ι}
    (h : EveryState step P s is) : EveryState step Q s is := by
  induction is generalizing s with
  | nil => exact hPQ s h
  | cons i is ih => exact ⟨hPQ s h.1, ih h.2⟩

/-- Weakening the relation of `AllSteps`. -/
lemma AllSteps.mono {A B : σ → ι → Prop} (hAB : ∀ s i, A s i → B s i) {s : σ} {is : List ι}
    (h : AllSteps step A s is) : AllSteps step B s is := by
  induction is generalizing s with
  | nil => trivial
  | cons i is ih => exact ⟨hAB _ _ h.1, ih h.2⟩

/-- A property of every state constrains every step. -/
lemma EveryState.allSteps {P : σ → Prop} {B : σ → ι → Prop} (hB : ∀ s i, P s → B s i) {s : σ}
    {is : List ι} (h : EveryState step P s is) : AllSteps step B s is := by
  induction is generalizing s with
  | nil => trivial
  | cons i is ih => exact ⟨hB s i h.1, ih h.2⟩

/-- Relations that are equivalent at every step hold along the same runs. -/
lemma allSteps_congr {A B : σ → ι → Prop} (hAB : ∀ s i, A s i ↔ B s i) {s : σ} {is : List ι} :
    AllSteps step A s is ↔ AllSteps step B s is := by
  constructor
  · exact AllSteps.mono fun s i => (hAB s i).mp
  · exact AllSteps.mono fun s i => (hAB s i).mpr

/-- Two relations hold along a run exactly when both do. -/
lemma allSteps_and {A B : σ → ι → Prop} {s : σ} {is : List ι} :
    AllSteps step (fun s i => A s i ∧ B s i) s is ↔
      AllSteps step A s is ∧ AllSteps step B s is := by
  induction is generalizing s with
  | nil => simp
  | cons i is ih => simp only [allSteps_cons, ih]; tauto

/-- A property of the inputs alone holds along every run of such inputs. -/
lemma allSteps_of_forall {A : ι → Prop} {s : σ} {is : List ι} (h : ∀ i ∈ is, A i) :
    AllSteps step (fun _ i => A i) s is := by
  induction is generalizing s with
  | nil => trivial
  | cons i is ih =>
    exact ⟨h i List.mem_cons_self, ih fun j hj => h j (List.mem_cons_of_mem i hj)⟩

/-- A property of the inputs alone that holds along a run holds of its inputs. -/
lemma forall_of_allSteps {A : ι → Prop} {s : σ} {is : List ι}
    (h : AllSteps step (fun _ i => A i) s is) : ∀ i ∈ is, A i := by
  induction is generalizing s with
  | nil => exact fun i hi => absurd hi List.not_mem_nil
  | cons i is ih => exact List.forall_mem_cons.mpr ⟨h.1, ih h.2⟩

/-! ## Rules -/

/-- **Invariant rule.**  An invariant that every admissible step keeps holds in every state of a
run of admissible steps. -/
theorem everyState_of_invariant {A : σ → ι → Prop} {I : σ → Prop}
    (hstep : ∀ s i, I s → A s i → I (step s i)) {s : σ} {is : List ι}
    (hs : I s) (h : AllSteps step A s is) : EveryState step I s is := by
  induction is generalizing s with
  | nil => exact hs
  | cons i is ih => exact ⟨hs, ih (hstep s i hs h.1) h.2⟩

/-- The invariant rule for an invariant that every step keeps. -/
theorem everyState_of_step {I : σ → Prop} (hstep : ∀ s i, I s → I (step s i)) {s : σ}
    {is : List ι} (hs : I s) : EveryState step I s is := by
  induction is generalizing s with
  | nil => exact hs
  | cons i is ih => exact ⟨hs, ih (hstep s i hs)⟩

/-- A step relation that follows from an invariant holds along every admissible run. -/
theorem allSteps_of_invariant {A B : σ → ι → Prop} {I : σ → Prop}
    (hstep : ∀ s i, I s → A s i → I (step s i)) (hB : ∀ s i, I s → A s i → B s i)
    {s : σ} {is : List ι} (hs : I s) (h : AllSteps step A s is) : AllSteps step B s is := by
  induction is generalizing s with
  | nil => trivial
  | cons i is ih => exact ⟨hB s i hs h.1, ih (hstep s i hs h.1) h.2⟩

/-- **Exact-condition rule.**  If, under an invariant, one step keeps `P` exactly when it meets the
condition `C`, then `P` holds in every state of a run exactly when every step meets `C`. -/
theorem everyState_iff_allSteps {A C : σ → ι → Prop} {I P : σ → Prop}
    (hstep : ∀ s i, I s → A s i → I (step s i))
    (hexact : ∀ s i, I s → A s i → P s → (P (step s i) ↔ C s i))
    {s : σ} {is : List ι} (hs : I s) (hP : P s) (h : AllSteps step A s is) :
    EveryState step P s is ↔ AllSteps step C s is := by
  induction is generalizing s with
  | nil => simpa using hP
  | cons i is ih =>
    have hiff := hexact s i hs h.1 hP
    rw [everyState_cons, allSteps_cons]
    constructor
    · rintro ⟨-, hrest⟩
      have hP' := hrest.first
      exact ⟨hiff.mp hP', (ih (hstep s i hs h.1) hP' h.2).mp hrest⟩
    · rintro ⟨hC, hrest⟩
      have hP' := hiff.mpr hC
      exact ⟨hP, (ih (hstep s i hs h.1) hP' h.2).mpr hrest⟩

/-- The exact-condition rule for an invariant that every step keeps. -/
theorem everyState_iff_of_invariant {C : σ → ι → Prop} {I P : σ → Prop}
    (hstep : ∀ s i, I s → I (step s i)) (hexact : ∀ s i, I s → P s → (P (step s i) ↔ C s i))
    {s : σ} {is : List ι} (hs : I s) (hP : P s) :
    EveryState step P s is ↔ AllSteps step C s is :=
  everyState_iff_allSteps (A := fun _ _ => True) (fun s i h _ => hstep s i h)
    (fun s i h _ => hexact s i h) hs hP (allSteps_of_forall fun _ _ => trivial)

/-- The exact-condition rule for a property that needs no invariant. -/
theorem everyState_iff_of_step {C : σ → ι → Prop} {P : σ → Prop}
    (hexact : ∀ s i, P s → (P (step s i) ↔ C s i)) {s : σ} {is : List ι} (hP : P s) :
    EveryState step P s is ↔ AllSteps step C s is :=
  everyState_iff_of_invariant (I := fun _ => True) (fun _ _ _ => trivial)
    (fun s i _ => hexact s i) trivial hP

/-- The exact-condition rule for an invariant that only the steps which meet the condition keep. -/
theorem everyState_iff_of_kept {C : σ → ι → Prop} {I P : σ → Prop}
    (hkeep : ∀ s i, I s → C s i → I (step s i)) (hexact : ∀ s i, I s → (P (step s i) ↔ C s i))
    {s : σ} {is : List ι} (hs : I s) (hP : P s) :
    EveryState step P s is ↔ AllSteps step C s is := by
  induction is generalizing s with
  | nil => simpa using hP
  | cons i is ih =>
    rw [everyState_cons, allSteps_cons, and_iff_right hP]
    by_cases hC : C s i
    · rw [and_iff_right hC]
      exact ih (hkeep s i hs hC) ((hexact s i hs).mpr hC)
    · exact iff_of_false (fun h => hC ((hexact s i hs).mp h.first)) fun h => hC h.1

/-! ## Steps that can fail -/

/-- **Invariant rule for steps that can fail.**  When no step fails under an invariant, and every
step keeps it, a run does not fail and ends in the invariant. -/
theorem foldlM_ok_of_invariant {ε : Type*} {σ : Type*} {ι : Type*} {step : σ → ι → Except ε σ}
    {I : σ → Prop} {is : List ι}
    (hstep : ∀ s i, I s → i ∈ is → ∃ s', step s i = .ok s' ∧ I s') {s : σ} (hs : I s) :
    ∃ s', is.foldlM step s = .ok s' ∧ I s' := by
  induction is generalizing s with
  | nil => exact ⟨s, rfl, hs⟩
  | cons i is ih =>
    obtain ⟨s', hok, hs'⟩ := hstep s i hs List.mem_cons_self
    rw [List.foldlM_cons, hok]
    exact ih (fun t j ht hj => hstep t j ht (List.mem_cons_of_mem i hj)) hs'

/-- The invariant rule for a run that has not failed. -/
theorem invariant_of_foldlM_ok {ε : Type*} {σ : Type*} {ι : Type*} {step : σ → ι → Except ε σ}
    {I : σ → Prop} {is : List ι} (hstep : ∀ s i s', I s → i ∈ is → step s i = .ok s' → I s')
    {s s' : σ} (hs : I s) (h : is.foldlM step s = .ok s') : I s' := by
  induction is generalizing s with
  | nil =>
    obtain rfl := Except.ok.inj h
    exact hs
  | cons i is ih =>
    rw [List.foldlM_cons] at h
    cases hi : step s i with
    | error e =>
      rw [hi] at h
      cases h
    | ok t =>
      rw [hi] at h
      have ht := hstep s i t hs List.mem_cons_self hi
      exact ih (fun t j t' hj hmem => hstep t j t' hj (List.mem_cons_of_mem i hmem)) ht h

/-! ## Refinement -/

/-- A system refines another one: under the invariant `J`, which every step keeps, what a state is
seen as moves by the step that the input is seen as, or stays when it is seen as none. -/
structure Refines {τ κ : Type*} (step : σ → ι → σ) (stepSeen : τ → κ → τ) (J : σ → Prop)
    (see : σ → τ) (seen : σ → ι → Option κ) : Prop where
  keeps : ∀ s i, J s → J (step s i)
  step_eq : ∀ s i, J s → see (step s i) = (seen s i).elim (see s) (stepSeen (see s))

/-- **Refinement rule.**  An invariant of the coarser system is one of the finer system, when the
admissible steps are seen as admissible steps. -/
theorem Refines.invariant {τ κ : Type*} {stepSeen : τ → κ → τ} {J : σ → Prop} {see : σ → τ}
    {seen : σ → ι → Option κ} (h : Refines step stepSeen J see seen) {A : σ → ι → Prop}
    {B : τ → κ → Prop} {I : τ → Prop} (hstep : ∀ t k, I t → B t k → I (stepSeen t k))
    (hseen : ∀ s i k, J s → A s i → seen s i = some k → B (see s) k) (s : σ) (i : ι)
    (hs : J s ∧ I (see s)) (hA : A s i) : J (step s i) ∧ I (see (step s i)) := by
  refine ⟨h.keeps s i hs.1, ?_⟩
  rw [h.step_eq s i hs.1]
  cases hk : seen s i with
  | none => exact hs.2
  | some k => exact hstep _ k hs.2 (hseen s i k hs.1 hA hk)

/-! ## Simulation -/

/-- What the steps of a run give out. -/
def outputs {ω : Type*} (step : σ → ι → σ) (out : σ → ι → ω) : σ → List ι → List ω
  | _, [] => []
  | s, i :: is => out s i :: outputs step out (step s i) is

/-- **Simulation rule.**  When related states stay related in the steps of related inputs, and give
out the same, the runs give out the same and end in related states. -/
theorem related_run {τ κ ω : Type*} {stepSeen : τ → κ → τ} {out : σ → ι → ω} {outSeen : τ → κ → ω}
    {R : σ → τ → Prop} {seen : ι → κ} {A : ι → Prop}
    (hstep : ∀ s t i, R s t → A i →
      R (step s i) (stepSeen t (seen i)) ∧ out s i = outSeen t (seen i))
    {s : σ} {t : τ} {is : List ι} (hs : R s t) (hA : ∀ i ∈ is, A i) :
    R (run step s is) (run stepSeen t (is.map seen)) ∧
      outputs step out s is = outputs stepSeen outSeen t (is.map seen) := by
  induction is generalizing s t with
  | nil => exact ⟨hs, rfl⟩
  | cons i is ih =>
    obtain ⟨hnext, hout⟩ := hstep s t i hs (hA i List.mem_cons_self)
    obtain ⟨hend, houts⟩ := ih hnext fun j hj => hA j (List.mem_cons_of_mem i hj)
    exact ⟨hend, congrArg₂ List.cons hout houts⟩

end Trajectory
