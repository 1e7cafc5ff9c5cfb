import Mathlib.Data.List.Basic

/-!
# The event queue

`event_queue.h`: the queue between the producers of events and the one thread that handles them.
Every method holds the mutex for all it does, so each is one atomic step.
-/

namespace Quarcc

/-- `EventQueue<T>`. -/
structure EventQueue (α : Type*) where
  /-- The events that wait, the next one first. -/
  q : List α := []
  totalPushed : ℕ := 0
  totalProcessed : ℕ := 0
  totalDropped : ℕ := 0

namespace EventQueue

variable {α : Type*}

/-- `push`. -/
def push (queue : EventQueue α) (event : α) : EventQueue α :=
  { queue with q := queue.q ++ [event], totalPushed := queue.totalPushed + 1 }

/-- `try_push`: drops the event when the queue is full, and says whether it took it. -/
def tryPush (queue : EventQueue α) (event : α) (maxDepth : ℕ) : EventQueue α × Bool :=
  if maxDepth ≤ queue.q.length then
    ({ queue with totalDropped := queue.totalDropped + 1 }, false)
  else (queue.push event, true)

/-- `pop`, as far as it does not wait: the next event and the rest. -/
def pop (queue : EventQueue α) : Option (α × EventQueue α) :=
  match queue.q with
  | [] => none
  | event :: rest => some (event, { queue with q := rest })

/-- `mark_processed`. -/
def markProcessed (queue : EventQueue α) : EventQueue α :=
  { queue with totalProcessed := queue.totalProcessed + 1 }

@[simp] lemma push_q (queue : EventQueue α) (event : α) :
    (queue.push event).q = queue.q ++ [event] := rfl

/-- What `try_push` leaves in the queue. -/
lemma tryPush_q (queue : EventQueue α) (event : α) (maxDepth : ℕ) :
    (queue.tryPush event maxDepth).1.q =
      if maxDepth ≤ queue.q.length then queue.q else queue.q ++ [event] := by
  unfold tryPush
  split_ifs <;> rfl

/-- `pop` takes the first event. -/
lemma pop_eq_some_iff {queue rest : EventQueue α} {event : α} :
    queue.pop = some (event, rest) ↔ ∃ tail, queue.q = event :: tail ∧
      rest = { queue with q := tail } := by
  unfold pop
  cases hq : queue.q with
  | nil => simp
  | cons head tail =>
    constructor
    · intro h
      obtain ⟨rfl, rfl⟩ := Prod.mk.inj (Option.some.inj h)
      exact ⟨tail, rfl, rfl⟩
    · rintro ⟨tail', hcons, rfl⟩
      obtain ⟨rfl, rfl⟩ := List.cons.inj hcons
      rfl

end EventQueue

end Quarcc
