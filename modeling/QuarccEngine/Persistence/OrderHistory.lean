import QuarccEngine.Library.FirstOfEach
import QuarccEngine.Persistence.JournalQueue

/-!
# The history of an order

What `get_order_history` reads after a `flush`.  The table ignores an entry whose time stamp (in
milliseconds), event and correlation id are those of a row, so of the entries that agree in these
only the first is kept.  An entry without a correlation id is always kept, and is in no history.
-/

namespace Quarcc

/-! ## What the table keeps -/

namespace PendingEntry

/-- The entry as it is read back. -/
def asRead (e : PendingEntry) : PendingEntry where
  timestamp := cStr e.timestamp
  event := e.event
  data := cStr e.data
  correlationId := cStr e.correlationId

/-- The entry belongs to the history of the order. -/
def HasId (e : PendingEntry) (orderId : String) : Prop :=
  e.correlationId ≠ "" ∧ cStr e.correlationId = cStr orderId

instance (e : PendingEntry) (orderId : String) : Decidable (e.HasId orderId) :=
  inferInstanceAs (Decidable (_ ∧ _))

end PendingEntry

/-- What a row says, apart from its id. -/
def JournalRow.values (row : JournalRow) : JournalRow := { row with id := 0 }

/-- What an entry of a history says, apart from its id. -/
def LogEntry.logged (entry : LogEntry) : PendingEntry where
  timestamp := entry.timestamp
  event := entry.eventType
  data := entry.data
  correlationId := entry.correlationId

namespace JournalTable

variable {table earlier : JournalTable} {entries : List PendingEntry}

/-- The entries that the table takes, when they are inserted in that order: those for which neither
an earlier entry nor a row of the table has the same time stamp, event and correlation id. -/
def kept (table : JournalTable) (entries : List PendingEntry) : List PendingEntry :=
  FirstOfEach.firsts PendingEntry.key (table.rows.map JournalRow.key) entries

/-- An entry conflicts with a table when one of the rows has its key. -/
lemma conflicts_iff {e : PendingEntry}
    (h : table.rows.map JournalRow.values = earlier.rows.map JournalRow.values ++
      (earlier.kept entries).map fun e => e.row 0) :
    table.Conflicts e ↔
      FirstOfEach.Repeats PendingEntry.key (earlier.rows.map JournalRow.key) entries e := by
  have hkeys : table.rows.map JournalRow.key =
      earlier.rows.map JournalRow.key ++ (earlier.kept entries).map PendingEntry.key := by
    have hmap := congrArg (List.map JournalRow.key) h
    rw [List.map_append, List.map_map, List.map_map, List.map_map] at hmap
    exact hmap
  unfold Conflicts FirstOfEach.Repeats
  rw [hkeys, List.mem_append]
  constructor
  · rintro ⟨hkey, hmem⟩
    exact ⟨hkey, (FirstOfEach.mem_map_firsts _ _ hkey entries).mp hmem⟩
  · rintro ⟨hkey, hmem⟩
    exact ⟨hkey, (FirstOfEach.mem_map_firsts _ _ hkey entries).mpr hmem⟩

/-- The rows after the entries were inserted. -/
lemma rows_commitBatch (table : JournalTable) (entries : List PendingEntry) :
    (table.commitBatch entries).rows.map JournalRow.values =
      table.rows.map JournalRow.values ++ (table.kept entries).map fun e => e.row 0 := by
  induction entries using List.reverseRecOn with
  | nil => exact (List.append_nil _).symm
  | append_singleton entries e ih =>
    have hconflicts : (table.commitBatch entries).Conflicts e ↔ _ := conflicts_iff ih
    have hlast : (table.commitBatch (entries ++ [e])).rows =
        ((table.commitBatch entries).insertOrIgnore e).rows := by
      rw [commitBatch_append]
      rfl
    unfold kept at ih ⊢
    rw [hlast, rows_insertOrIgnore, FirstOfEach.firsts_concat,
      List.map_append, ← List.append_assoc, ← ih]
    by_cases hrepeats : FirstOfEach.Repeats PendingEntry.key (table.rows.map JournalRow.key)
      entries e
    · rw [if_pos (hconflicts.mpr hrepeats), if_pos hrepeats]
      exact (List.append_nil _).symm
    · rw [if_neg fun h => hrepeats (hconflicts.mp h), if_neg hrepeats, List.map_append]
      rfl

/-- The history of an order, without the ids of the rows. -/
lemma map_getOrderHistory (table : JournalTable) (orderId : String) :
    (table.getOrderHistory orderId).map LogEntry.logged =
      ((table.rows.map JournalRow.values).filter fun row =>
        row.correlationId = some (cStr orderId)).map fun row => row.entry.logged := by
  unfold getOrderHistory
  rw [List.filter_map, List.map_map, List.map_map]
  rfl

/-- The history of an order, after the entries were inserted. -/
lemma getOrderHistory_commitBatch (table : JournalTable) (entries : List PendingEntry)
    (orderId : String) :
    ((table.commitBatch entries).getOrderHistory orderId).map LogEntry.logged =
      (table.getOrderHistory orderId).map LogEntry.logged ++
        ((table.kept entries).filter fun e => e.HasId orderId).map PendingEntry.asRead := by
  have hid : ∀ e : PendingEntry, (e.row 0).correlationId = some (cStr orderId) ↔
    e.HasId orderId := by
    intro e
    unfold PendingEntry.row PendingEntry.HasId
    dsimp only
    by_cases hempty : e.correlationId = ""
    · simp [hempty]
    · simp [hempty]
  have hread : ∀ e : PendingEntry, e.HasId orderId → (e.row 0).entry.logged = e.asRead := by
    intro e he
    unfold PendingEntry.row JournalRow.entry LogEntry.logged PendingEntry.asRead
    simp [he.1]
  rw [map_getOrderHistory, map_getOrderHistory, rows_commitBatch, List.filter_append,
    List.map_append]
  congr 1
  have hfilter : ((table.kept entries).map fun e => e.row 0).filter
        (fun row => row.correlationId = some (cStr orderId)) =
      ((table.kept entries).filter fun e => e.HasId orderId).map fun e => e.row 0 := by
    rw [List.filter_map]
    congr 1
    refine List.filter_congr fun e _ => ?_
    exact decide_eq_decide.mpr (hid e)
  rw [hfilter, List.map_map]
  refine List.map_congr_left fun e he => ?_
  exact hread e (of_decide_eq_true (List.mem_filter.mp he).2)

end JournalTable

/-! ## After a flush -/

/-- The entries that are logged in a run. -/
def logged (actions : List JournalAction) : List PendingEntry :=
  actions.filterMap JournalAction.logged?

namespace SQLiteJournal

/-- A call of `log` finds room in the queue. -/
def HasRoom (s : SQLiteJournal) : JournalAction → Prop
  | .log _ _ => s.writeQueue.length < maxQueueDepth
  | .dequeue | .commitBatch | .acknowledge | .callFlush | .passFlush _ | .requestStop => True

instance (s : SQLiteJournal) : DecidablePred s.HasRoom
  | .log _ _ => inferInstanceAs (Decidable (s.writeQueue.length < maxQueueDepth))
  | .dequeue | .commitBatch | .acknowledge | .callFlush | .passFlush _ | .requestStop =>
    isTrue trivial

variable {s : SQLiteJournal}

/-- A step that finds room takes the entry that it logs. -/
lemma accepted_step {a : JournalAction} (h : s.HasRoom a) :
    (s.step a).accepted = s.accepted ++ a.logged?.toList := by
  have hstep := s.steps_step a
  generalize s.step a = s' at hstep ⊢
  cases hstep with
  | refused hfull => exact absurd hfull (Nat.not_le_of_lt h)
  | logged hroom => rfl
  | idle hidle =>
    rw [hidle]
    exact (List.append_nil _).symm
  | _ => exact (List.append_nil _).symm

/-- In a run in which no entry is refused, all entries are accepted. -/
lemma accepted_run {actions : List JournalAction}
    (h : Trajectory.AllSteps SQLiteJournal.step HasRoom s actions) :
    (Trajectory.run SQLiteJournal.step s actions).accepted = s.accepted ++ logged actions := by
  induction actions generalizing s with
  | nil => exact (List.append_nil _).symm
  | cons a actions ih =>
    have hlogged : logged (a :: actions) = a.logged?.toList ++ logged actions := by
      unfold logged
      rw [List.filterMap_cons]
      cases a.logged? <;> rfl
    rw [Trajectory.run_cons, ih h.2, accepted_step h.1, hlogged, List.append_assoc]

/-- The table has the batches in it. -/
def Committed (table : JournalTable) (s : SQLiteJournal) : Prop :=
  s.table = table.commitBatch s.batches.flatten

/-- A step keeps the table and the batches together. -/
lemma Committed.step {table : JournalTable} (h : s.Committed table) (a : JournalAction) :
    (s.step a).Committed table := by
  have hstep := s.steps_step a
  generalize s.step a = s' at hstep ⊢
  cases hstep with
  | written hwriter =>
    have htable : s.table = table.commitBatch s.batches.flatten := h
    unfold Committed
    rw [List.flatten_append, JournalTable.commitBatch_append, ← htable, List.flatten_singleton]
  | _ => exact h

/-- **The table after a flush**: all entries that were logged have been inserted, in that order. -/
theorem table_of_flushPasses {table : JournalTable} {actions : List JournalAction}
    (hroom : Trajectory.AllSteps SQLiteJournal.step HasRoom { table := table } actions)
    (hflush : (Trajectory.run SQLiteJournal.step { table := table } actions).FlushPasses) :
    (Trajectory.run SQLiteJournal.step { table := table } actions).table =
      table.commitBatch (logged actions) := by
  have haccepted := accepted_run hroom
  have hflushes : Trajectory.EveryState SQLiteJournal.step Flushes { table := table } actions :=
    Trajectory.everyState_of_step (fun s a h => h.step a) (flushes_start table)
  have hcommitted : Trajectory.EveryState SQLiteJournal.step (Committed table)
      { table := table } actions :=
    Trajectory.everyState_of_step (fun s a h => h.step a) rfl
  have hgiven := hflushes.last.accounts.given_eq_accepted hflush
  have htable := hcommitted.last
  generalize Trajectory.run SQLiteJournal.step { table := table } actions = s at *
  have hbatches : s.batches.flatten = s.accepted := hgiven
  rw [htable, hbatches, haccepted]
  rfl

/-- The histories are those of the logged entries: the journal is complete. -/
def Complete (s : SQLiteJournal) (entries : List PendingEntry) : Prop :=
  ∀ orderId ≠ "", (s.table.getOrderHistory orderId).map LogEntry.logged =
    entries.filter fun e => e.correlationId = orderId

end SQLiteJournal

/-- **The history of an order after a flush.**  In a run in which no entry is refused, it is
extended by the entries that were logged with the id and that do not repeat the time stamp, event
and id of an entry before, each once and in the order in which they were logged. -/
theorem order_history_after_flush (table : JournalTable) (actions : List JournalAction)
    (hroom : Trajectory.AllSteps SQLiteJournal.step SQLiteJournal.HasRoom { table := table }
      actions)
    (hflush : (Trajectory.run SQLiteJournal.step { table := table } actions).FlushPasses)
    (orderId : String) :
    ((Trajectory.run SQLiteJournal.step { table := table } actions).table.getOrderHistory
        orderId).map LogEntry.logged =
      (table.getOrderHistory orderId).map LogEntry.logged ++
        ((table.kept (logged actions)).filter fun e => e.HasId orderId).map
          PendingEntry.asRead := by
  rw [SQLiteJournal.table_of_flushPasses hroom hflush]
  exact table.getOrderHistory_commitBatch (logged actions) orderId

/-- The clock in the millisecond 1700000000.123 and half of it later. -/
def sameMillisecond (half : Bool) : Timestamp :=
  if half then ⟨1700000000123500000, by decide, by decide⟩
  else ⟨1700000000123000000, by decide, by decide⟩

/-- Two fills of an order are logged in one millisecond, and a text with a zero byte for another
order; then they are committed. -/
def twoFills : List JournalAction :=
  [.log ⟨.orderPartiallyFilled, "5@100", "ORD_1"⟩ (sameMillisecond false),
    .log ⟨.orderPartiallyFilled, "5@101", "ORD_1"⟩ (sameMillisecond true),
    .log ⟨.errorOccurred, "one\x00two", "ORD_2"⟩ (sameMillisecond true),
    .dequeue, .commitBatch, .acknowledge]

/-- The history of the order with two fills. -/
theorem order_history_after_flush_twoFills :
    ((Trajectory.run SQLiteJournal.step {} twoFills).table.getOrderHistory "ORD_1").map
        LogEntry.logged =
      (({} : JournalTable).getOrderHistory "ORD_1").map LogEntry.logged ++
        ((({} : JournalTable).kept (logged twoFills)).filter fun e => e.HasId "ORD_1").map
          PendingEntry.asRead :=
  order_history_after_flush {} twoFills (by decide +kernel) (by decide +kernel) "ORD_1"

/-- The second of the two fills is not in the history, and the text ends before the zero byte. -/
theorem order_history_incomplete :
    let s := Trajectory.run SQLiteJournal.step {} twoFills
    Trajectory.AllSteps SQLiteJournal.step SQLiteJournal.HasRoom {} twoFills ∧ s.FlushPasses ∧
      (s.table.getOrderHistory "ORD_1").map LogEntry.data = ["5@100"] ∧
      (s.table.getOrderHistory "ORD_2").map LogEntry.data = ["one"] ∧
      ¬ s.Complete (logged twoFills) := by
  intro s
  have hread : (s.table.getOrderHistory "ORD_1").map LogEntry.data = ["5@100"] := by decide +kernel
  have hcut : (s.table.getOrderHistory "ORD_2").map LogEntry.data = ["one"] := by decide +kernel
  refine ⟨by decide +kernel, by decide +kernel, hread, hcut, fun h => ?_⟩
  have hboth := congrArg (List.map PendingEntry.data) (h "ORD_1" (by decide))
  have hlogged : ((logged twoFills).filter fun e => e.correlationId = "ORD_1").map
      PendingEntry.data = ["5@100", "5@101"] := by decide +kernel
  rw [hlogged, List.map_map] at hboth
  have hone : (s.table.getOrderHistory "ORD_1").map LogEntry.data = ["5@100", "5@101"] := hboth
  rw [hread] at hone
  cases hone

end Quarcc
