import QuarccEngine.Library.Trajectory

/-!
# A queue with one consumer

Producers append work to a queue.  One consumer takes work from the front, hands it on, and
acknowledges it after that.  Two counters tell the others how far it is: how much was pushed, and
how much is acknowledged.

The invariant `Accounts` says where the accepted work is and what the counters count.  It is kept by
every move, so a system whose steps are seen as moves of such a queue has it for free
(`Trajectory.Refines`).  What the counters tell follows from it: when they agree, everything has
been handed on.
-/

/-- What the consumer has in its hands. -/
inductive WorkQueue.Hands (α : Type*) where
  | free
  | taken (work : List α)
  | given (work : List α)

/-- The queue, its counters, and a record of the accepted work and of the work handed on. -/
structure WorkQueue (α : Type*) where
  waiting : List α := []
  hands : WorkQueue.Hands α := .free
  pushed : ℕ := 0
  acknowledged : ℕ := 0
  accepted : List α := []
  given : List α := []

namespace WorkQueue

variable {α : Type*}

/-- A move of a producer or of the consumer. -/
inductive Move (α : Type*) where
  | push (a : α)
  | take (n : ℕ)
  | give
  | acknowledge

namespace Hands

/-- The work that is not acknowledged. -/
def work : Hands α → List α
  | free => []
  | taken work => work
  | given work => work

/-- The work that is not handed on. -/
def pending : Hands α → List α
  | free => []
  | taken work => work
  | given _ => []

@[simp] lemma work_free : (free : Hands α).work = [] := rfl

@[simp] lemma work_taken (w : List α) : (taken w).work = w := rfl

@[simp] lemma work_given (w : List α) : (given w).work = w := rfl

@[simp] lemma pending_free : (free : Hands α).pending = [] := rfl

@[simp] lemma pending_taken (w : List α) : (taken w).pending = w := rfl

@[simp] lemma pending_given (w : List α) : (given w).pending = [] := rfl

/-- Work that is not handed on is not acknowledged. -/
lemma length_pending_le (h : Hands α) : h.pending.length ≤ h.work.length := by
  cases h with
  | free => exact Nat.le_refl _
  | taken w => exact Nat.le_refl _
  | given w => exact Nat.zero_le _

end Hands

/-- A move; the consumer makes one only when it has what the move needs. -/
def step (w : WorkQueue α) : Move α → WorkQueue α
  | .push a =>
    { w with waiting := w.waiting ++ [a], pushed := w.pushed + 1, accepted := w.accepted ++ [a] }
  | .take n =>
    match w.hands with
    | .free => { w with waiting := w.waiting.drop n, hands := .taken (w.waiting.take n) }
    | .taken _ | .given _ => w
  | .give =>
    match w.hands with
    | .taken work => { w with hands := .given work, given := w.given ++ work }
    | .free | .given _ => w
  | .acknowledge =>
    match w.hands with
    | .given work => { w with hands := .free, acknowledged := w.acknowledged + work.length }
    | .free | .taken _ => w

/-- Where the accepted work is, and what the counters count. -/
structure Accounts (w : WorkQueue α) : Prop where
  accepted_eq : w.accepted = w.given ++ w.hands.pending ++ w.waiting
  pushed_eq : w.pushed = w.acknowledged + w.hands.work.length + w.waiting.length
  length_accepted : w.accepted.length = w.pushed

/-- A queue to which nothing was pushed. -/
lemma accounts_empty : ({} : WorkQueue α).Accounts := ⟨rfl, rfl, rfl⟩

namespace Accounts

variable {w : WorkQueue α}

/-- **Step lemma.**  Every move keeps the accounts. -/
theorem step (h : w.Accounts) (m : Move α) : (w.step m).Accounts := by
  obtain ⟨waiting, hands, pushed, acknowledged, accepted, given⟩ := w
  obtain ⟨hacc, hpushed, hlength⟩ := h
  dsimp only at hacc hpushed hlength
  unfold WorkQueue.step
  cases m with
  | push a =>
    refine ⟨?_, ?_, ?_⟩
    · dsimp only
      rw [hacc, List.append_assoc]
    · simp only [List.length_append, List.length_singleton]
      omega
    · simp only [List.length_append, List.length_singleton]
      omega
  | take n =>
    cases hands with
    | free =>
      refine ⟨?_, ?_, hlength⟩
      · simp only [Hands.pending_free, List.append_nil] at hacc
        simp only [Hands.pending_taken, List.append_assoc, List.take_append_drop]
        exact hacc
      · simp only [Hands.work_free, List.length_nil] at hpushed
        simp only [Hands.work_taken, List.length_take, List.length_drop]
        omega
    | taken work => exact ⟨hacc, hpushed, hlength⟩
    | given work => exact ⟨hacc, hpushed, hlength⟩
  | give =>
    cases hands with
    | taken work =>
      refine ⟨?_, hpushed, hlength⟩
      simp only [Hands.pending_given, List.append_nil]
      exact hacc
    | free => exact ⟨hacc, hpushed, hlength⟩
    | given work => exact ⟨hacc, hpushed, hlength⟩
  | acknowledge =>
    cases hands with
    | given work =>
      refine ⟨hacc, ?_, hlength⟩
      simp only [Hands.work_given] at hpushed
      simp only [Hands.work_free, List.length_nil]
      omega
    | free => exact ⟨hacc, hpushed, hlength⟩
    | taken work => exact ⟨hacc, hpushed, hlength⟩

/-- Work is handed on in the order in which it was accepted. -/
lemma given_prefix (h : w.Accounts) : w.given <+: w.accepted := by
  rw [h.accepted_eq, List.append_assoc]
  exact List.prefix_append _ _

/-- What is acknowledged has been handed on. -/
lemma acknowledged_le (h : w.Accounts) : w.acknowledged ≤ w.given.length := by
  have hlength := congrArg List.length h.accepted_eq
  have hpending := w.hands.length_pending_le
  have hpushed := h.pushed_eq
  have haccepted := h.length_accepted
  simp only [List.length_append] at hlength
  omega

/-- When everything is acknowledged, everything has been handed on. -/
lemma given_eq_accepted (h : w.Accounts) (hidle : w.pushed ≤ w.acknowledged) :
    w.given = w.accepted := by
  have hle := h.acknowledged_le
  have haccepted := h.length_accepted
  exact h.given_prefix.eq_of_length_le (by omega)

end Accounts

end WorkQueue
