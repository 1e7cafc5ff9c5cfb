import QuarccEngine.Persistence.CStrings
import QuarccEngine.Persistence.Journal

/-!
# The journal of a strategy

`sqlite_journal.cpp`: `log` puts an entry into a queue, and a thread of the journal takes entries
out in batches and inserts them into the table `journal`; `flush` waits until the thread has caught
up.

Every section under `queue_mu_` is one step, and so is `commit_batch`, which runs without that mutex
and of which there is only one at a time.  SQLite executes each statement as it specifies.  An entry
that is read keeps its time stamp as the text in the column; `string_to_timestamp` is in
`Timestamps`, and `get_history` in `History`.
-/

namespace Quarcc

/-! ## Texts -/

/-- `event_to_string`, the text in the column `event_type`. -/
def eventToString : Event → String
  | .orderCreated => "ORDER_CREATED"
  | .orderValidated => "ORDER_VALIDATED"
  | .orderRejected => "ORDER_REJECTED"
  | .orderSubmitted => "ORDER_SUBMITTED"
  | .orderAccepted => "ORDER_ACCEPTED"
  | .orderCancelled => "ORDER_CANCELLED"
  | .orderReplaced => "ORDER_REPLACED"
  | .orderExpired => "ORDER_EXPIRED"
  | .killSwitchActivated => "KILL_SWITCH_ACTIVATED"
  | .systemStarted => "SYSTEM_STARTED"
  | .systemStopped => "SYSTEM_STOPPED"
  | .gatewayConnected => "GATEWAY_CONNECTED"
  | .gatewayDisconnected => "GATEWAY_DISCONNECTED"
  | .errorOccurred => "ERROR_OCCURRED"
  | .signalReceived => "SIGNAL_RECEIVED"
  | .signalProcessed => "SIGNAL_PROCESSED"
  | .signalIgnored => "SIGNAL_IGNORED"
  | .orderFilled => "ORDER_FILLED"
  | .orderPartiallyFilled => "ORDER_PARTIALLY_FILLED"

/-- `event_from_string`, for a column that is not null. -/
def eventFromString (s : String) : Event :=
  if s = "ORDER_CREATED" then .orderCreated
  else if s = "ORDER_VALIDATED" then .orderValidated
  else if s = "ORDER_REJECTED" then .orderRejected
  else if s = "ORDER_SUBMITTED" then .orderSubmitted
  else if s = "ORDER_ACCEPTED" then .orderAccepted
  else if s = "ORDER_CANCELLED" then .orderCancelled
  else if s = "ORDER_REPLACED" then .orderReplaced
  else if s = "ORDER_EXPIRED" then .orderExpired
  else if s = "KILL_SWITCH_ACTIVATED" then .killSwitchActivated
  else if s = "SYSTEM_STARTED" then .systemStarted
  else if s = "SYSTEM_STOPPED" then .systemStopped
  else if s = "GATEWAY_CONNECTED" then .gatewayConnected
  else if s = "GATEWAY_DISCONNECTED" then .gatewayDisconnected
  else if s = "SIGNAL_RECEIVED" then .signalReceived
  else if s = "SIGNAL_PROCESSED" then .signalProcessed
  else if s = "SIGNAL_IGNORED" then .signalIgnored
  else if s = "ORDER_FILLED" then .orderFilled
  else if s = "ORDER_PARTIALLY_FILLED" then .orderPartiallyFilled
  else .errorOccurred

/-- An event survives the way through its column. -/
@[simp] theorem eventFromString_toString (event : Event) :
    eventFromString (eventToString event) = event := by
  cases event <;> decide +kernel

/-! ## The table -/

/-- `PendingEntry`. -/
structure PendingEntry where
  timestamp : String
  event : Event
  data : String
  correlationId : String
  deriving DecidableEq

/-- A row of the table `journal`. -/
structure JournalRow where
  id : ℕ
  timestamp : String
  eventType : String
  data : String
  correlationId : Option String
  deriving DecidableEq

/-- What `UNIQUE(timestamp, correlation_id, event_type)` compares, unless a part is null. -/
def JournalRow.key (row : JournalRow) : Option (String × String × String) :=
  row.correlationId.map fun correlationId => (row.timestamp, correlationId, row.eventType)

/-- The values that `commit_batch` binds, in a row with the given id. -/
def PendingEntry.row (e : PendingEntry) (id : ℕ) : JournalRow where
  id := id
  timestamp := cStr e.timestamp
  eventType := eventToString e.event
  data := cStr e.data
  correlationId := if e.correlationId = "" then none else some (cStr e.correlationId)

/-- The key of the row of an entry. -/
def PendingEntry.key (e : PendingEntry) : Option (String × String × String) := (e.row 0).key

/-- The table `journal`. -/
structure JournalTable where
  /-- The rows, in the order of their insertion. -/
  rows : List JournalRow := []
  /-- The largest id so far, of `AUTOINCREMENT`. -/
  sequence : ℕ := 0
  /-- The order of the insertion is `ORDER BY id ASC`. -/
  ascending : rows.Pairwise fun row row' => row.id < row'.id := by exact .nil
  id_le : ∀ row ∈ rows, row.id ≤ sequence := by exact fun _ h => absurd h List.not_mem_nil
  /-- `UNIQUE(timestamp, correlation_id, event_type)`. -/
  key_unique : rows.Pairwise fun row row' => row.key ≠ none → row.key ≠ row'.key := by exact .nil

namespace JournalTable

/-- The entry breaks the uniqueness. -/
def Conflicts (table : JournalTable) (e : PendingEntry) : Prop :=
  e.key ≠ none ∧ e.key ∈ table.rows.map JournalRow.key

instance (table : JournalTable) (e : PendingEntry) : Decidable (table.Conflicts e) :=
  inferInstanceAs (Decidable (_ ∧ _))

/-- `INSERT OR IGNORE`; the id of a row that is ignored is used up. -/
def insertOrIgnore (table : JournalTable) (e : PendingEntry) : JournalTable :=
  if h : table.Conflicts e then
    { table with
      sequence := table.sequence + 1
      id_le := fun row hrow => Nat.le_succ_of_le (table.id_le row hrow) }
  else
    { rows := table.rows ++ [e.row (table.sequence + 1)]
      sequence := table.sequence + 1
      ascending := by
        refine List.pairwise_append.mpr ⟨table.ascending, List.pairwise_singleton _ _, ?_⟩
        intro row hrow row' hrow'
        rw [List.mem_singleton.mp hrow']
        exact Nat.lt_succ_of_le (table.id_le row hrow)
      id_le := by
        intro row hrow
        obtain hold | hnew := List.mem_append.mp hrow
        · exact Nat.le_succ_of_le (table.id_le row hold)
        · rw [List.mem_singleton.mp hnew]
          exact Nat.le_refl _
      key_unique := by
        refine List.pairwise_append.mpr ⟨table.key_unique, List.pairwise_singleton _ _, ?_⟩
        intro row hrow row' hrow' hkey hsame
        rw [List.mem_singleton.mp hrow'] at hsame
        have hentry : row.key = e.key := hsame
        exact h ⟨hentry ▸ hkey, hentry ▸ List.mem_map_of_mem hrow⟩ }

/-- The rows after an insertion. -/
lemma rows_insertOrIgnore (table : JournalTable) (e : PendingEntry) :
    (table.insertOrIgnore e).rows =
      if table.Conflicts e then table.rows else table.rows ++ [e.row (table.sequence + 1)] := by
  unfold insertOrIgnore
  by_cases h : table.Conflicts e
  · rw [dif_pos h, if_pos h]
  · rw [dif_neg h, if_neg h]

/-- `commit_batch`. -/
def commitBatch (table : JournalTable) (batch : List PendingEntry) : JournalTable :=
  batch.foldl insertOrIgnore table

/-- Two batches, one after the other. -/
lemma commitBatch_append (table : JournalTable) (batch batch' : List PendingEntry) :
    table.commitBatch (batch ++ batch') = (table.commitBatch batch).commitBatch batch' :=
  List.foldl_append

end JournalTable

/-- `LogEntry`, with the text of its time stamp. -/
structure LogEntry where
  id : ℕ
  timestamp : String
  eventType : Event
  data : String
  correlationId : String
  deriving DecidableEq

/-- A row as it is read. -/
def JournalRow.entry (row : JournalRow) : LogEntry where
  id := row.id
  timestamp := row.timestamp
  eventType := eventFromString row.eventType
  data := row.data
  correlationId := row.correlationId.getD ""

/-- `get_order_history`. -/
def JournalTable.getOrderHistory (table : JournalTable) (orderId : String) : List LogEntry :=
  (table.rows.filter fun row => row.correlationId = some (cStr orderId)).map JournalRow.entry

/-! ## The queue and the writer -/

/-- `MAX_QUEUE_DEPTH`. -/
def maxQueueDepth : ℕ := 4096

/-- `BATCH_SIZE`. -/
def batchSize : ℕ := 64

/-- Where the writer thread is in `writer_loop`. -/
inductive WriterPosition where
  /-- Before or in `wait_for`. -/
  | waiting
  /-- It has a batch out of the queue. -/
  | dequeued (batch : List PendingEntry)
  /-- `commit_batch` has returned. -/
  | written (batch : List PendingEntry)
  /-- The loop has ended. -/
  | exited

/-- The batch in flight. -/
def WriterPosition.inFlight : WriterPosition → List PendingEntry
  | waiting | exited => []
  | dequeued batch | written batch => batch

/-- The batch that is not yet given to `commit_batch`. -/
def WriterPosition.unwritten : WriterPosition → List PendingEntry
  | waiting | exited | written _ => []
  | dequeued batch => batch

/-- A call of `flush` that has passed its wait. -/
structure PassedFlush where
  /-- The entries that had been accepted when it was called. -/
  before : List PendingEntry
  /-- The entries that had been given to `commit_batch` when it passed. -/
  given : List PendingEntry

/-- `SQLiteJournal`. -/
structure SQLiteJournal where
  writeQueue : List PendingEntry := []
  pushed : ℕ := 0
  committed : ℕ := 0
  writer : WriterPosition := .waiting
  stopRequested : Bool := false
  table : JournalTable := {}
  /-- The entries that `log` has put into the queue, in that order; this is only a record. -/
  accepted : List PendingEntry := []
  /-- The batches that were given to `commit_batch`; this is only a record. -/
  batches : List (List PendingEntry) := []
  /-- The calls of `flush` that wait, each with the entries accepted before it. -/
  waitingFlushes : List (List PendingEntry) := []
  /-- The calls of `flush` that have passed; this is only a record. -/
  passedFlushes : List PassedFlush := []

/-- A step of a thread that logs or flushes, of the writer, or of the thread that stops it. -/
inductive JournalAction where
  | log (call : LogCall) (now : Timestamp)
  | dequeue
  | commitBatch
  | acknowledge
  | callFlush
  | passFlush (i : ℕ)
  | requestStop

/-- The entry that `log` makes. -/
def LogCall.pending (call : LogCall) (now : Timestamp) : PendingEntry where
  timestamp :=
    match timestampToString now with
    | .ok text => text
    | .error _ => "UNKNOWN"
  event := call.event
  data := call.data
  correlationId := call.correlationId

/-- The entry that a step logs. -/
def JournalAction.logged? : JournalAction → Option PendingEntry
  | .log call now => some (call.pending now)
  | .dequeue | .commitBatch | .acknowledge | .callFlush | .passFlush _ | .requestStop => none

namespace SQLiteJournal

/-- `log`, from the lock on. -/
def log (s : SQLiteJournal) (e : PendingEntry) : SQLiteJournal :=
  if maxQueueDepth ≤ s.writeQueue.length then s
  else
    { s with
      writeQueue := s.writeQueue ++ [e], pushed := s.pushed + 1, accepted := s.accepted ++ [e] }

/-- The writer comes out of its wait. -/
def dequeue (s : SQLiteJournal) : SQLiteJournal :=
  if s.writeQueue = [] then
    if s.stopRequested then { s with writer := .exited } else s
  else
    { s with
      writeQueue := s.writeQueue.drop batchSize, writer := .dequeued (s.writeQueue.take batchSize) }

/-- A call of `flush` may pass its wait. -/
def FlushPasses (s : SQLiteJournal) : Prop := s.pushed ≤ s.committed

instance (s : SQLiteJournal) : Decidable s.FlushPasses :=
  inferInstanceAs (Decidable (s.pushed ≤ s.committed))

/-- The `i`-th waiting call of `flush` passes, when it may. -/
def passFlush (s : SQLiteJournal) (i : ℕ) : SQLiteJournal :=
  match s.waitingFlushes[i]? with
  | none => s
  | some before =>
    if s.FlushPasses then
      { s with
        waitingFlushes := s.waitingFlushes.eraseIdx i
        passedFlushes := s.passedFlushes ++ [⟨before, s.batches.flatten⟩] }
    else s

/-- A step. -/
def step (s : SQLiteJournal) : JournalAction → SQLiteJournal
  | .log call now => s.log (call.pending now)
  | .dequeue =>
    match s.writer with
    | .waiting => s.dequeue
    | .dequeued _ | .written _ | .exited => s
  | .commitBatch =>
    match s.writer with
    | .dequeued batch =>
      { s with
        table := s.table.commitBatch batch, writer := .written batch
        batches := s.batches ++ [batch] }
    | .waiting | .written _ | .exited => s
  | .acknowledge =>
    match s.writer with
    | .written batch =>
      { s with committed := s.committed + batch.length, writer := .waiting }
    | .waiting | .dequeued _ | .exited => s
  | .callFlush => { s with waitingFlushes := s.waitingFlushes ++ [s.accepted] }
  | .passFlush i => s.passFlush i
  | .requestStop => { s with stopRequested := true }

/-! ## What a step can do -/

/-- The steps, each with what it needs and what it leaves. -/
inductive Steps (s : SQLiteJournal) : JournalAction → SQLiteJournal → Prop
  | refused {call : LogCall} {now : Timestamp} : maxQueueDepth ≤ s.writeQueue.length →
    s.Steps (.log call now) s
  | logged {call : LogCall} {now : Timestamp} : ¬ maxQueueDepth ≤ s.writeQueue.length →
    s.Steps (.log call now)
      { s with
        writeQueue := s.writeQueue ++ [call.pending now], pushed := s.pushed + 1
        accepted := s.accepted ++ [call.pending now] }
  | dequeued : s.writer = .waiting → s.writeQueue ≠ [] →
    s.Steps .dequeue
      { s with
        writeQueue := s.writeQueue.drop batchSize
        writer := .dequeued (s.writeQueue.take batchSize) }
  | exited : s.writer = .waiting → s.stopRequested = true → s.writeQueue = [] →
    s.Steps .dequeue { s with writer := .exited }
  | written {batch : List PendingEntry} : s.writer = .dequeued batch →
    s.Steps .commitBatch
      { s with
        table := s.table.commitBatch batch, writer := .written batch
        batches := s.batches ++ [batch] }
  | acknowledged {batch : List PendingEntry} : s.writer = .written batch →
    s.Steps .acknowledge { s with committed := s.committed + batch.length, writer := .waiting }
  | flushCalled : s.Steps .callFlush { s with waitingFlushes := s.waitingFlushes ++ [s.accepted] }
  | flushPassed {i : ℕ} {before : List PendingEntry} : s.waitingFlushes[i]? = some before →
    s.FlushPasses →
    s.Steps (.passFlush i)
      { s with
        waitingFlushes := s.waitingFlushes.eraseIdx i
        passedFlushes := s.passedFlushes ++ [⟨before, s.batches.flatten⟩] }
  | asked : s.Steps .requestStop { s with stopRequested := true }
  /-- The writer is elsewhere, or a wait goes on. -/
  | idle {a : JournalAction} : a.logged? = none → s.Steps a s

/-- **Inversion.**  A step does one of these things. -/
theorem steps_step (s : SQLiteJournal) (a : JournalAction) : s.Steps a (s.step a) := by
  cases a with
  | log call now =>
    unfold step log
    dsimp only
    split_ifs with hfull
    · exact .refused hfull
    · exact .logged hfull
  | dequeue =>
    unfold step dequeue
    cases hwriter : s.writer with
    | waiting =>
      dsimp only
      split_ifs with hqueue hstop
      · exact .exited hwriter hstop hqueue
      · exact .idle rfl
      · exact .dequeued hwriter hqueue
    | _ => exact .idle rfl
  | commitBatch =>
    unfold step
    cases hwriter : s.writer with
    | dequeued batch => exact .written hwriter
    | _ => exact .idle rfl
  | acknowledge =>
    unfold step
    cases hwriter : s.writer with
    | written batch => exact .acknowledged hwriter
    | _ => exact .idle rfl
  | callFlush => exact .flushCalled
  | passFlush i =>
    unfold step passFlush
    dsimp only
    cases hbefore : s.waitingFlushes[i]? with
    | none => exact .idle rfl
    | some before =>
      dsimp only
      split_ifs with hpasses
      · exact .flushPassed hbefore hpasses
      · exact .idle rfl
  | requestStop => exact .asked

end SQLiteJournal

end Quarcc
