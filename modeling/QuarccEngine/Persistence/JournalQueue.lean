import QuarccEngine.Library.WorkQueue
import QuarccEngine.Persistence.SQLiteJournal

/-!
# The queue of the journal

The threads that log, the writer and the calls of `flush` share a queue and two counters, under a
mutex that the writer gives up while it commits.  The journal is an instance of a queue with one
consumer (`WorkQueue`); where the accepted entries are, and what `flush` waits for, follows from its
accounts.
-/

namespace Quarcc

namespace SQLiteJournal

/-- What holds of the queue, the batches and the calls of `flush` in every state. -/
structure Accounted (s : SQLiteJournal) : Prop where
  counters : s.pushed = s.committed + s.writer.inFlight.length + s.writeQueue.length
  inOrder : s.accepted = s.batches.flatten ++ s.writer.unwritten ++ s.writeQueue
  sizes : ∀ batch ∈ s.batches, batch.length ≤ batchSize
  flushed : ∀ flush ∈ s.passedFlushes, flush.before <+: flush.given

/-- The writer exits only after a stop request and with an empty queue. -/
def ExitsEmpty (s : SQLiteJournal) (a : JournalAction) : Prop :=
  s.writer ≠ .exited → (s.step a).writer = .exited → s.stopRequested = true ∧ s.writeQueue = []

/-! ## The queue with one consumer -/

/-- What the writer has in its hands. -/
def hands (s : SQLiteJournal) : WorkQueue.Hands PendingEntry :=
  match s.writer with
  | .waiting | .exited => .free
  | .dequeued batch => .taken batch
  | .written batch => .given batch

/-- The journal as a queue with one consumer. -/
def work (s : SQLiteJournal) : WorkQueue PendingEntry where
  waiting := s.writeQueue
  hands := s.hands
  pushed := s.pushed
  acknowledged := s.committed
  accepted := s.accepted
  given := s.batches.flatten

/-- The move that a step is. -/
def move (s : SQLiteJournal) : JournalAction → Option (WorkQueue.Move PendingEntry)
  | .log call now =>
    if maxQueueDepth ≤ s.writeQueue.length then none else some (.push (call.pending now))
  | .dequeue =>
    match s.writer with
    | .waiting => if s.writeQueue = [] then none else some (.take batchSize)
    | .dequeued _ | .written _ | .exited => none
  | .commitBatch => some .give
  | .acknowledge => some .acknowledge
  | .callFlush | .passFlush _ | .requestStop => none

/-- A call of `flush` that passes changes nothing but the lists of the calls. -/
lemma work_passFlush (s : SQLiteJournal) (i : ℕ) : (s.passFlush i).work = s.work := by
  unfold passFlush
  cases s.waitingFlushes[i]? with
  | none => rfl
  | some before =>
    dsimp only
    split_ifs <;> rfl

variable {s : SQLiteJournal}

/-- **Refinement.**  The journal is a queue with one consumer. -/
theorem refines_workQueue :
    Trajectory.Refines SQLiteJournal.step WorkQueue.step (fun _ => True) work move := by
  refine ⟨fun _ _ _ => trivial, fun s a _ => ?_⟩
  cases a with
  | passFlush i => exact s.work_passFlush i
  | log call now =>
    unfold SQLiteJournal.step log move
    dsimp only
    split_ifs <;> rfl
  | callFlush => rfl
  | requestStop => rfl
  | dequeue =>
    obtain ⟨writeQueue, pushed, committed, writer, stopRequested⟩ := s
    cases writer with
    | waiting =>
      cases writeQueue with
      | nil => cases stopRequested <;> rfl
      | cons e rest => rfl
    | dequeued batch => rfl
    | written batch => rfl
    | exited => rfl
  | commitBatch =>
    obtain ⟨writeQueue, pushed, committed, writer, stopRequested, table, accepted, batches⟩ := s
    cases writer with
    | dequeued batch =>
      have hflatten : (batches ++ [batch]).flatten = batches.flatten ++ batch := by simp
      unfold work
      dsimp only [SQLiteJournal.step]
      rw [hflatten]
      rfl
    | waiting => rfl
    | written batch => rfl
    | exited => rfl
  | acknowledge =>
    obtain ⟨writeQueue, pushed, committed, writer, stopRequested⟩ := s
    cases writer <;> rfl

/-- The accounts of the queue hold after every step. -/
lemma accounts_step (h : s.work.Accounts) (a : JournalAction) : (s.step a).work.Accounts := by
  rw [refines_workQueue.step_eq s a trivial]
  cases s.move a with
  | none => exact h
  | some m => exact h.step m

/-! ## Every state of every run -/

/-- The calls of `flush` and the sizes of the batches, besides the accounts of the queue. -/
structure Flushes (s : SQLiteJournal) : Prop where
  accounts : s.work.Accounts
  sizes : ∀ batch ∈ s.batches, batch.length ≤ batchSize
  unwritten : s.writer.unwritten.length ≤ batchSize
  waiting : ∀ before ∈ s.waitingFlushes, before <+: s.accepted
  passed : ∀ flush ∈ s.passedFlushes, flush.before <+: flush.given

/-- **Step lemma.**  A step keeps the accounts of the queue and the promise of `flush`. -/
theorem Flushes.step (h : s.Flushes) (a : JournalAction) : (s.step a).Flushes := by
  have haccounts := accounts_step h.accounts a
  have hstep := s.steps_step a
  generalize s.step a = s' at haccounts hstep ⊢
  cases hstep with
  | refused hfull => exact h
  | logged hroom =>
    refine ⟨haccounts, h.sizes, h.unwritten, fun before hbefore => ?_, h.passed⟩
    exact (h.waiting before hbefore).trans (List.prefix_append _ _)
  | dequeued hwriter hqueue =>
    exact ⟨haccounts, h.sizes, List.length_take_le _ _, h.waiting, h.passed⟩
  | exited hwriter hstop hqueue =>
    exact ⟨haccounts, h.sizes, Nat.zero_le _, h.waiting, h.passed⟩
  | written hwriter =>
    have hsize := h.unwritten
    rw [hwriter] at hsize
    refine ⟨haccounts, fun other hother => ?_, Nat.zero_le _, h.waiting, h.passed⟩
    obtain hold | hnew := List.mem_append.mp hother
    · exact h.sizes other hold
    · rw [List.mem_singleton.mp hnew]
      exact hsize
  | acknowledged hwriter => exact ⟨haccounts, h.sizes, Nat.zero_le _, h.waiting, h.passed⟩
  | flushCalled =>
    refine ⟨haccounts, h.sizes, h.unwritten, fun before hbefore => ?_, h.passed⟩
    obtain hold | hnew := List.mem_append.mp hbefore
    · exact h.waiting before hold
    · obtain rfl := List.mem_singleton.mp hnew
      exact List.prefix_rfl
  | flushPassed hi hpasses =>
    refine ⟨haccounts, h.sizes, h.unwritten, fun other hother => ?_, fun flush hflush => ?_⟩
    · exact h.waiting other (List.mem_of_mem_eraseIdx hother)
    · obtain hold | hnew := List.mem_append.mp hflush
      · exact h.passed flush hold
      · -- everything is acknowledged, so everything accepted is in the batches
        have hgiven : s.batches.flatten = s.accepted := h.accounts.given_eq_accepted hpasses
        rw [List.mem_singleton.mp hnew, hgiven]
        exact h.waiting _ (List.mem_of_getElem? hi)
  | asked => exact ⟨haccounts, h.sizes, h.unwritten, h.waiting, h.passed⟩
  | idle hidle => exact h

/-- What the accounts of the queue say about the journal. -/
lemma Flushes.accounted (h : s.Flushes) : s.Accounted := by
  have hwork : s.hands.work = s.writer.inFlight ∧ s.hands.pending = s.writer.unwritten := by
    unfold hands
    cases s.writer <;> exact ⟨rfl, rfl⟩
  have hcounters : s.pushed = s.committed + s.hands.work.length + s.writeQueue.length :=
    h.accounts.pushed_eq
  have hinOrder : s.accepted = s.batches.flatten ++ s.hands.pending ++ s.writeQueue :=
    h.accounts.accepted_eq
  rw [hwork.1] at hcounters
  rw [hwork.2] at hinOrder
  exact ⟨hcounters, hinOrder, h.sizes, h.passed⟩

/-- The writer exits when it comes out of its wait and finds no entry. -/
lemma exitsEmpty (s : SQLiteJournal) (a : JournalAction) : s.ExitsEmpty a := by
  intro hbefore hafter
  have hstep := s.steps_step a
  generalize s.step a = s' at hafter hstep
  cases hstep with
  | exited hwriter hstop hqueue => exact ⟨hstop, hqueue⟩
  | dequeued hwriter hqueue => cases hafter
  | written hwriter => cases hafter
  | acknowledged hwriter => cases hafter
  | _ => exact absurd hafter hbefore

/-- A journal that was just opened. -/
lemma flushes_start (table : JournalTable) : ({ table := table } : SQLiteJournal).Flushes := by
  refine ⟨WorkQueue.accounts_empty, ?_, Nat.zero_le _, ?_, ?_⟩
  all_goals exact fun _ h => absurd h List.not_mem_nil

end SQLiteJournal

/-- **The queue of the journal**, in every state of every run of a journal opened on any table; and
the writer exits only with an empty queue. -/
theorem journal_accounted (table : JournalTable) (actions : List JournalAction) :
    Trajectory.EveryState SQLiteJournal.step SQLiteJournal.Accounted { table := table } actions ∧
      Trajectory.AllSteps SQLiteJournal.step SQLiteJournal.ExitsEmpty { table := table }
        actions := by
  have hflushes : Trajectory.EveryState SQLiteJournal.step SQLiteJournal.Flushes
      { table := table } actions :=
    Trajectory.everyState_of_step (fun s a h => h.step a) (SQLiteJournal.flushes_start table)
  refine ⟨hflushes.mono fun s h => h.accounted, ?_⟩
  exact hflushes.allSteps fun s a _ => s.exitsEmpty a

end Quarcc
