import QuarccEngine.Library.Trajectory
import QuarccEngine.Persistence.Timestamps

/-!
# The history of a range of time

`get_history` compares the texts of the time stamps, which are in the order of the milliseconds, so
that it selects the entries that were logged in the range.  The time stamps of the entries that it
returns are decoded from those texts, without the milliseconds.

Times are from 1970 to the end of the year 9999.  A journal is taken with what `log` was called with
for each row; every journal of a run has such a record.
-/

namespace Quarcc

/-! ## The query -/

/-- What the query selects: `timestamp BETWEEN ? AND ?`, and `AND event_type = ?` with a filter. -/
def JournalRow.Selected (fromStr toStr : String) (eventFilter : Option Event) (row : JournalRow) :
    Prop :=
  fromStr ≤ row.timestamp ∧ row.timestamp ≤ toStr ∧
    ∀ event ∈ eventFilter, row.eventType = eventToString event

instance (fromStr toStr : String) (eventFilter : Option Event) (row : JournalRow) :
    Decidable (row.Selected fromStr toStr eventFilter) := instDecidableAnd

/-- `get_history`; the time stamps of the entries are still texts (`LogEntry.time`). -/
def JournalTable.getHistory (table : JournalTable) (fromTime toTime : ℤ)
    (eventFilter : Option Event) :
    Except String (List LogEntry) :=
  match timePointToString fromTime with
  | .error what => .error (what ++ " (Occured when converting timestamp to string : from)")
  | .ok fromStr =>
    match timePointToString toTime with
    | .error what => .error (what ++ " (Occured when converting timestamp to string : to)")
    | .ok toStr =>
      .ok ((table.rows.filter fun row =>
        row.Selected (cStr fromStr) (cStr toStr) eventFilter).map JournalRow.entry)

/-- The field `timestamp` of an entry, decoded from the text in its column. -/
def LogEntry.time (entry : LogEntry) : ℤ := stringToTimestamp entry.timestamp

/-! ## What was logged -/

/-- A time point from 1970 to the end of the year 9999. -/
structure Instant where
  ns : ℤ
  fourDigitYear : FourDigitYear ns

namespace Instant

/-- The time point, truncated to milliseconds. -/
def ms (t : Instant) : ℤ := t.ns / 1000000

lemma ms_nonneg (t : Instant) : 0 ≤ t.ms := by
  have h := t.fourDigitYear.1
  unfold ms
  omega

lemma ms_lt (t : Instant) : t.ms < 253402300800000 := by
  have h := t.fourDigitYear.2
  unfold ms
  omega

/-- The text of a time point. -/
lemma toString_eq (t : Instant) : timePointToString t.ns = .ok (stampText t.ms) :=
  timePointToString_eq t.fourDigitYear

end Instant

/-- A call of `log` with the time at which it was made; there is none when the conversion failed. -/
structure StampedCall extends LogCall where
  loggedAt : Option Instant

namespace StampedCall

/-- The text of the time stamp. -/
def stamp (call : StampedCall) : String :=
  match call.loggedAt with
  | none => "UNKNOWN"
  | some t => stampText t.ms

/-- The entry that `log` makes. -/
def pending (call : StampedCall) : PendingEntry where
  timestamp := call.stamp
  event := call.event
  data := call.data
  correlationId := call.correlationId

/-- The call was made in the range, to the millisecond. -/
def Between (fromTime toTime : Instant) (call : StampedCall) : Prop :=
  ∃ t ∈ call.loggedAt, fromTime.ms ≤ t.ms ∧ t.ms ≤ toTime.ms

instance (fromTime toTime : Instant) (call : StampedCall) :
    Decidable (call.Between fromTime toTime) :=
  match h : call.loggedAt with
  | none => .isFalse (by rintro ⟨t, ht, -⟩; rw [h] at ht; cases ht)
  | some t =>
    decidable_of_iff (fromTime.ms ≤ t.ms ∧ t.ms ≤ toTime.ms) (by
      constructor
      · exact fun hrange => ⟨t, h, hrange⟩
      · rintro ⟨t', ht', hrange⟩
        rw [h] at ht'
        cases ht'
        exact hrange)

/-- The event of the call is the one that is asked for. -/
def Matches (eventFilter : Option Event) (call : StampedCall) : Prop :=
  ∀ event ∈ eventFilter, call.event = event

instance (eventFilter : Option Event) (call : StampedCall) : Decidable (call.Matches eventFilter) :=
  inferInstanceAs (Decidable (∀ event ∈ eventFilter, call.event = event))

/-- The text has no zero byte. -/
lemma cStr_stamp (call : StampedCall) : cStr call.stamp = call.stamp := by
  unfold stamp
  cases call.loggedAt with
  | none => decide +kernel
  | some t => exact cStr_stampText t.ms

end StampedCall

/-- A journal, and the call of `log` that each of its rows comes from. -/
structure LoggedJournal extends JournalTable where
  /-- By the ids of the rows; this is only a record. -/
  logged : ℕ → StampedCall
  written : ∀ row ∈ rows, row = (logged row.id).pending.row row.id

namespace LoggedJournal

/-- A journal without rows. -/
def empty (calls : ℕ → StampedCall) : LoggedJournal where
  logged := calls
  written := fun _ h => absurd h List.not_mem_nil

/-- `INSERT OR IGNORE` of the entry of a call. -/
def insertOrIgnore (journal : LoggedJournal) (call : StampedCall) : LoggedJournal where
  toJournalTable := journal.toJournalTable.insertOrIgnore call.pending
  logged := Function.update journal.logged (journal.sequence + 1) call
  written := by
    intro row hrow
    rw [JournalTable.rows_insertOrIgnore] at hrow
    -- the id of a row that was there before is at most the largest one so far
    have hold : row ∈ journal.rows → row =
        (Function.update journal.logged (journal.sequence + 1) call row.id).pending.row row.id := by
      intro hrow
      have hid := journal.id_le row hrow
      rw [Function.update_of_ne (by omega)]
      exact journal.written row hrow
    split_ifs at hrow with hconflicts
    · exact hold hrow
    · rcases List.mem_append.mp hrow with hrow | hnew
      · exact hold hrow
      · obtain rfl := List.mem_singleton.mp hnew
        change call.pending.row (journal.sequence + 1) =
          (Function.update journal.logged (journal.sequence + 1) call
            (journal.sequence + 1)).pending.row
            (journal.sequence + 1)
        rw [Function.update_self]

/-- `commit_batch` of the entries of calls. -/
def commitBatch (journal : LoggedJournal) (calls : List StampedCall) : LoggedJournal :=
  calls.foldl insertOrIgnore journal

/-- The table is the one that `commit_batch` makes. -/
lemma toJournalTable_commitBatch (journal : LoggedJournal) (calls : List StampedCall) :
    (journal.commitBatch calls).toJournalTable =
      journal.toJournalTable.commitBatch (calls.map StampedCall.pending) := by
  induction calls generalizing journal with
  | nil => rfl
  | cons call calls ih => exact ih (journal.insertOrIgnore call)

/-! ## What is selected -/

variable (journal : LoggedJournal) (fromTime toTime : Instant) (eventFilter : Option Event)

/-- A row is selected when its call was made in the range, and with the event that is asked for. -/
lemma selected_iff {row : JournalRow} (hrow : row ∈ journal.rows) :
    row.Selected (stampText fromTime.ms) (stampText toTime.ms) eventFilter ↔
      (journal.logged row.id).Between fromTime toTime ∧
        (journal.logged row.id).Matches eventFilter := by
  set call := journal.logged row.id with hcall
  have htext : row.timestamp = call.stamp := by
    rw [journal.written row hrow]
    exact call.cStr_stamp
  have hevent : row.eventType = eventToString call.event := by
    rw [journal.written row hrow]
    rfl
  have hinjective : ∀ event, eventToString call.event = eventToString event ↔
    call.event = event := by
    intro event
    constructor
    · intro heq
      rw [← eventFromString_toString call.event, heq, eventFromString_toString]
    · exact congrArg eventToString
  have hrange : stampText fromTime.ms ≤ call.stamp ∧ call.stamp ≤ stampText toTime.ms ↔
      call.Between fromTime toTime := by
    unfold StampedCall.stamp StampedCall.Between
    cases call.loggedAt with
    | none =>
      -- the text of a failed conversion comes after all others
      constructor
      · intro h
        exact absurd h.2 (not_le.mpr (stampText_lt_unknown toTime.ms))
      · rintro ⟨t, ht, -⟩
        cases ht
    | some t =>
      rw [stampText_le_iff fromTime.ms_nonneg fromTime.ms_lt t.ms_nonneg t.ms_lt,
        stampText_le_iff t.ms_nonneg t.ms_lt toTime.ms_nonneg toTime.ms_lt]
      constructor
      · exact fun h => ⟨t, rfl, h⟩
      · rintro ⟨t', ht', h⟩
        cases ht'
        exact h
  unfold JournalRow.Selected StampedCall.Matches
  rw [htext, hevent, ← and_assoc, hrange]
  exact and_congr_right fun _ => forall₂_congr fun event _ => hinjective event

/-- The entries that were logged in the range with the event that is asked for, as they are read, in
the order of their insertion. -/
def history : List LogEntry :=
  (journal.rows.filter fun row =>
    (journal.logged row.id).Between fromTime toTime ∧
      (journal.logged row.id).Matches eventFilter).map JournalRow.entry

/-- The comparison of the texts selects these entries. -/
lemma getHistory_eq :
    journal.getHistory fromTime.ns toTime.ns eventFilter =
      .ok (journal.history fromTime toTime eventFilter) := by
  have hfilter : (journal.rows.filter fun row =>
      row.Selected (stampText fromTime.ms) (stampText toTime.ms) eventFilter) =
      journal.rows.filter fun row => (journal.logged row.id).Between fromTime toTime ∧
        (journal.logged row.id).Matches eventFilter :=
    List.filter_congr fun row hrow =>
      decide_eq_decide.mpr (journal.selected_iff fromTime toTime eventFilter hrow)
  unfold JournalTable.getHistory history
  rw [fromTime.toString_eq, toTime.toString_eq]
  dsimp only
  rw [cStr_stampText, cStr_stampText, hfilter]

variable {journal fromTime toTime eventFilter}

/-- The column of a row holds the text of the time of its call. -/
lemma timestamp_eq {row : JournalRow} (hrow : row ∈ journal.rows) {t : Instant}
    (ht : t ∈ (journal.logged row.id).loggedAt) : row.timestamp = stampText t.ms := by
  have hstamp : (journal.logged row.id).stamp = stampText t.ms := by
    unfold StampedCall.stamp
    rw [Option.mem_def.mp ht]
  rw [← hstamp, ← StampedCall.cStr_stamp, journal.written row hrow]
  rfl

/-- An entry of a history, and the call that it comes from. -/
lemma mem_history_iff {entry : LogEntry} :
    entry ∈ journal.history fromTime toTime eventFilter ↔
      ∃ row ∈ journal.rows, ∃ t ∈ (journal.logged row.id).loggedAt,
        (fromTime.ms ≤ t.ms ∧ t.ms ≤ toTime.ms) ∧ (journal.logged row.id).Matches eventFilter ∧
          row.entry = entry := by
  unfold history
  simp only [List.mem_map, List.mem_filter, decide_eq_true_eq]
  constructor
  · rintro ⟨row, ⟨hrow, ⟨t, ht, hrange⟩, hmatches⟩, hentry⟩
    exact ⟨row, hrow, t, ht, hrange, hmatches, hentry⟩
  · rintro ⟨row, hrow, t, ht, hrange, hmatches, hentry⟩
    exact ⟨row, ⟨hrow, ⟨t, ht, hrange⟩, hmatches⟩, hentry⟩

/-- The time stamp of an entry comes back as the second in which its call was made. -/
lemma time_entry {row : JournalRow} (hrow : row ∈ journal.rows) {t : Instant}
    (ht : t ∈ (journal.logged row.id).loggedAt) : row.entry.time = t.ms / 1000 * 1000000000 := by
  change stringToTimestamp row.timestamp = _
  rw [timestamp_eq hrow ht, stringToTimestamp_stampText t.ms_nonneg t.ms_lt]

variable (journal fromTime toTime eventFilter)

/-- **Range queries are exact.**  `get_history` returns the entries that were logged in the range,
to the millisecond, with the event that is asked for, in the order of their insertion; among them is
none whose time stamp could not be converted. -/
theorem getHistory_exact :
    journal.getHistory fromTime.ns toTime.ns eventFilter =
        .ok (journal.history fromTime toTime eventFilter) ∧
      ∀ entry ∈ journal.history fromTime toTime eventFilter, entry.timestamp ≠ "UNKNOWN" := by
  refine ⟨journal.getHistory_eq fromTime toTime eventFilter, ?_⟩
  intro entry hentry
  obtain ⟨row, hrow, t, ht, -, -, rfl⟩ := mem_history_iff.mp hentry
  change row.timestamp ≠ "UNKNOWN"
  rw [timestamp_eq hrow ht]
  exact (stampText_lt_unknown t.ms).ne

/-! ## What the time stamps come back as -/

/-- The range starts with a second, or no entry of the history was logged in the second that it
starts in. -/
def StartsOnSecond : Prop :=
  fromTime.ms % 1000 = 0 ∨ ∀ row ∈ journal.rows,
    (journal.logged row.id).Between fromTime toTime → (journal.logged row.id).Matches eventFilter →
      ∀ t ∈ (journal.logged row.id).loggedAt, t.ms / 1000 ≠ fromTime.ms / 1000

/-- **The milliseconds are lost on the way back.**  A time point comes back to the millisecond when
it has no milliseconds, and the entries of a history are in its range when the range starts with a
second, or when nothing was logged in the second that it starts in. -/
theorem readBack_iff (t : Instant) :
    ((timePointToString t.ns).map stringToTimestamp = .ok (t.ms * 1000000) ↔ t.ms % 1000 = 0) ∧
      ((∀ entries, journal.getHistory fromTime.ns toTime.ns eventFilter = .ok entries →
          ∀ entry ∈ entries, fromTime.ms * 1000000 ≤ entry.time ∧
            entry.time ≤ toTime.ms * 1000000) ↔
        journal.StartsOnSecond fromTime toTime eventFilter) := by
  constructor
  · rw [t.toString_eq]
    change Except.ok (stringToTimestamp (stampText t.ms)) = _ ↔ _
    rw [stringToTimestamp_stampText t.ms_nonneg t.ms_lt, Except.ok.injEq]
    omega
  · rw [journal.getHistory_eq]
    constructor
    · intro h
      rw [StartsOnSecond, or_iff_not_imp_left]
      intro hms row hrow hbetween hmatches t ht hsecond
      obtain ⟨t', ht', hrange⟩ := hbetween
      obtain rfl : t' = t := Option.mem_unique ht' ht
      -- the entry comes back as the second that the range starts in, which is before the range
      have hentry := mem_history_iff.mpr ⟨row, hrow, t', ht, hrange, hmatches, rfl⟩
      have hge := (h _ rfl row.entry hentry).1
      rw [time_entry hrow ht] at hge
      omega
    · rintro h entries hentries entry hentry
      cases hentries
      obtain ⟨row, hrow, t, ht, hrange, hmatches, rfl⟩ := mem_history_iff.mp hentry
      rw [time_entry hrow ht]
      rcases h with hms | hnone
      · omega
      · have hsecond := hnone row hrow ⟨t, ht, hrange⟩ hmatches t ht
        omega

/-- A time point on a leap day, with milliseconds. -/
def leapDayInstant : Instant := ⟨1709210096789000000, by decide⟩

/-- A call of `log` at that time. -/
def leapDayCall : StampedCall where
  event := .systemStarted
  data := "{}"
  loggedAt := some leapDayInstant

/-- The time point comes back without its milliseconds, and the history from that time on holds an
entry from before it. -/
theorem milliseconds_lost :
    (timePointToString leapDayInstant.ns).map stringToTimestamp ≠
    .ok (leapDayInstant.ms * 1000000) ∧
      ∃ entries, ((empty fun _ => leapDayCall).insertOrIgnore leapDayCall).getHistory
          leapDayInstant.ns leapDayInstant.ns none = .ok entries ∧
        ∃ entry ∈ entries, entry.time < leapDayInstant.ms * 1000000 := by
  refine ⟨by decide +kernel, [⟨1, "2024-02-29 12:34:56.789", .systemStarted, "{}", ""⟩], ?_, ?_⟩
  · decide +kernel
  · decide +kernel

end LoggedJournal

/-! ## The journals of the engine -/

/-- The clock is not before 1970. -/
def JournalAction.Since1970 : JournalAction → Prop
  | .log _ now => 0 ≤ now.ns
  | .dequeue | .commitBatch | .acknowledge | .callFlush | .passFlush _ | .requestStop => True

/-- The entry of a call at a time since 1970; the clock of the engine ends before the year 9999. -/
lemma LogCall.exists_stampedCall (call : LogCall) {now : Timestamp} (h : 0 ≤ now.ns) :
    ∃ stamped : StampedCall, stamped.pending = call.pending now := by
  have hrange : FourDigitYear now.ns := by
    have hlt := now.ns_lt
    exact ⟨h, by omega⟩
  refine ⟨{ call with loggedAt := some ⟨now.ns, hrange⟩ }, ?_⟩
  unfold LogCall.pending
  rw [timestampToString_eq, timePointToString_eq hrange]
  rfl

namespace SQLiteJournal

/-- The table and the entries on their way to it come from calls of `log` with known times. -/
structure Recorded (s : SQLiteJournal) : Prop where
  table : ∃ journal : LoggedJournal, journal.toJournalTable = s.table
  unwritten : ∃ calls : List StampedCall, calls.map StampedCall.pending = s.writer.unwritten
  writeQueue : ∃ calls : List StampedCall, calls.map StampedCall.pending = s.writeQueue

/-- **Step lemma.** -/
lemma Recorded.step {s : SQLiteJournal} (h : s.Recorded) {a : JournalAction} (ha : a.Since1970) :
    (s.step a).Recorded := by
  have hstep := s.steps_step a
  generalize s.step a = s' at hstep ⊢
  obtain ⟨⟨journal, htable⟩, ⟨unwritten, hunwritten⟩, ⟨queued, hqueued⟩⟩ := h
  cases hstep with
  | @logged call now hroom =>
    obtain ⟨stamped, hstamped⟩ := call.exists_stampedCall ha
    refine ⟨⟨journal, htable⟩, ⟨unwritten, hunwritten⟩, ⟨queued ++ [stamped], ?_⟩⟩
    rw [List.map_append, hqueued, List.map_singleton, hstamped]
  | dequeued hwriter hqueue =>
    refine ⟨⟨journal, htable⟩, ⟨queued.take batchSize, ?_⟩, ⟨queued.drop batchSize, ?_⟩⟩
    · rw [List.map_take, hqueued]
      rfl
    · rw [List.map_drop, hqueued]
  | @written batch hwriter =>
    rw [hwriter] at hunwritten
    refine ⟨⟨journal.commitBatch unwritten, ?_⟩, ⟨[], rfl⟩, ⟨queued, hqueued⟩⟩
    rw [journal.toJournalTable_commitBatch, htable, hunwritten]
    rfl
  | exited hwriter hstop hqueue => exact ⟨⟨journal, htable⟩, ⟨[], rfl⟩, ⟨queued, hqueued⟩⟩
  | acknowledged hwriter => exact ⟨⟨journal, htable⟩, ⟨[], rfl⟩, ⟨queued, hqueued⟩⟩
  | _ => exact ⟨⟨journal, htable⟩, ⟨unwritten, hunwritten⟩, ⟨queued, hqueued⟩⟩

/-- The journal of every run of the engine is one whose rows come from calls with known times, so
that its histories are exact. -/
theorem recorded_of_run (journal : LoggedJournal) {actions : List JournalAction}
    (h : ∀ a ∈ actions, a.Since1970) :
    Trajectory.EveryState step Recorded { table := journal.toJournalTable } actions :=
  Trajectory.everyState_of_invariant (fun _ _ hs ha => hs.step ha)
    ⟨⟨journal, rfl⟩, ⟨[], rfl⟩, ⟨[], rfl⟩⟩ (Trajectory.allSteps_of_forall h)

end SQLiteJournal

end Quarcc
