import QuarccEngine.OrderManager.ClosingEvents
import QuarccEngine.OrderManager.Constraints
import QuarccEngine.Persistence.OrderHistory

/-!
# What the two databases of a strategy say

A strategy keeps its orders in one database and its audit trail in another one.  On the way to the
second one a call on the journal goes through a queue and a thread of its own; ids are bound without
a length, and a row that repeats a time stamp, an event and an id is dropped.

The main result is that the two agree after a `flush`: the closing events in the history of an order
are the one that its status asks for.  None of the ids is empty or cut, as they come from the
generator, and a row that is dropped has a twin with the same event.
-/

namespace Quarcc

/-! ## The histories -/

/-- Entries with one key have one event, and belong to the same histories. -/
lemma PendingEntry.eq_of_key {e e' : PendingEntry} (hid : e.correlationId ≠ "")
    (hkey : e'.key = e.key) :
    e'.event = e.event ∧ ∀ orderId, e.HasId orderId → e'.HasId orderId := by
  unfold key JournalRow.key row at hkey
  by_cases hid' : e'.correlationId = ""
  · simp [hid, hid'] at hkey
  · simp only [hid, hid', if_false, Option.map_some, Option.some.injEq, Prod.mk.injEq] at hkey
    obtain ⟨-, hcorrelation, htext⟩ := hkey
    refine ⟨?_, fun orderId h => ⟨hid', hcorrelation.trans h.2⟩⟩
    rw [← eventFromString_toString e'.event, htext, eventFromString_toString]

/-- **What a history tells**: every event that was logged with the id, whatever was dropped. -/
lemma JournalTable.mem_history_iff (entries : List PendingEntry) (orderId : String)
    (event : Event) :
    event ∈ ((({} : JournalTable).commitBatch entries).getOrderHistory orderId).map
        LogEntry.eventType ↔
      ∃ e ∈ entries, e.HasId orderId ∧ e.event = event := by
  have hread : ((({} : JournalTable).commitBatch entries).getOrderHistory orderId).map
      LogEntry.eventType =
      ((({} : JournalTable).kept entries).filter fun e => e.HasId orderId).map
        PendingEntry.event := by
    have hhistory := congrArg (List.map PendingEntry.event)
      (getOrderHistory_commitBatch {} entries orderId)
    rw [List.map_map, List.map_append, List.map_map, List.map_map] at hhistory
    exact hhistory
  rw [hread, List.mem_map]
  constructor
  · rintro ⟨e, he, rfl⟩
    obtain ⟨hkept, hid⟩ := List.mem_filter.mp he
    exact ⟨e, FirstOfEach.mem_of_mem_firsts _ _ hkept, of_decide_eq_true hid, rfl⟩
  · rintro ⟨e, he, hid, rfl⟩
    have hkey : e.key ≠ none := by
      unfold PendingEntry.key JournalRow.key PendingEntry.row
      simp [hid.1]
    have hmem := (FirstOfEach.mem_map_firsts PendingEntry.key [] hkey entries).mpr
      (Or.inr (List.mem_map_of_mem he))
    obtain ⟨e', hkept, hsame⟩ := List.mem_map.mp (hmem.resolve_left List.not_mem_nil)
    obtain ⟨hevent, hids⟩ := PendingEntry.eq_of_key hid.1 hsame
    exact ⟨e', List.mem_filter.mpr ⟨hkept, decide_eq_true (hids orderId hid)⟩, hevent⟩

/-! ## Ids that are read as they are bound -/

/-- The text is not empty, and SQLite reads it back as it was bound. -/
structure Plain (id : String) : Prop where
  ne_empty : id ≠ ""
  cStr_eq : cStr id = id

/-- The ids of a generator of local ids are plain. -/
lemma OrderIdGenerator.plain_generate (g : OrderIdGenerator) (hspecifier : g.idSpecifier = "ORD")
    (clockMs : ℤ) : Plain (g.generate clockMs).1 := by
  constructor
  · intro hempty
    have hlength := congrArg String.length hempty
    unfold generate at hlength
    rw [hspecifier] at hlength
    simp at hlength
  · refine (OrderIdGenerator.noZeroByte_generate ?_ clockMs).cStr_eq
    rw [hspecifier]
    decide

/-! ## The specifier of the generator -/

namespace OrderManager

variable (s : OrderManager) (env : Env) (localId : LocalOrderId)

/-- The specifier of the local ids. -/
def specifier : String := s.idGenerator.idSpecifier

@[simp] lemma specifier_log (event : Event) (data correlationId : String) :
    (s.log event data correlationId).specifier = s.specifier := rfl

@[simp] lemma specifier_setValue (reply : Reply) : (s.setValue reply).specifier = s.specifier := rfl

@[simp] lemma specifier_addMapping (broker : BrokerOrderId) :
    (s.addMapping localId broker).specifier = s.specifier := rfl

@[simp] lemma specifier_removeMapping : (s.removeMapping localId).specifier = s.specifier := rfl

@[simp] lemma specifier_addOpenOrders (n : ℤ) : (s.addOpenOrders n).specifier = s.specifier := rfl

@[simp] lemma specifier_onFill (fill : V1.ExecutionReport) :
    (s.onFill fill).specifier = s.specifier := rfl

@[simp] lemma specifier_notifyFillSink (fill : V1.ExecutionReport) :
    (s.notifyFillSink fill).specifier = s.specifier := by
  unfold notifyFillSink
  cases s.fillSink <;> rfl

@[simp] lemma specifier_logFailure (result : Result Unit) :
    (s.logFailure result localId).specifier = s.specifier := by
  cases result <;> rfl

lemma specifier_runStatement (result : Result SQLiteOrderStore) :
    (s.runStatement result).1.specifier = s.specifier := by
  cases result <;> rfl

@[simp] lemma specifier_storeOrder (stored : StoredOrder) :
    (s.storeOrder env stored).1.specifier = s.specifier :=
  s.specifier_runStatement _

@[simp] lemma specifier_updateOrderStatus (status : OrderStatus) :
    (s.updateOrderStatus env localId status).1.specifier = s.specifier :=
  s.specifier_runStatement _

@[simp] lemma specifier_updateBrokerId (broker : BrokerOrderId) :
    (s.updateBrokerId env localId broker).1.specifier = s.specifier :=
  s.specifier_runStatement _

@[simp] lemma specifier_applyFill (quantity price : ℚ) (status : OrderStatus) :
    (s.applyFill env localId quantity price status).1.specifier = s.specifier :=
  s.specifier_runStatement _

lemma specifier_rejectSubmit (e : Error) :
    (s.rejectSubmit env localId e).specifier = s.specifier := by
  unfold rejectSubmit
  simp

lemma specifier_acceptSubmit (broker : BrokerOrderId) :
    (s.acceptSubmit env localId broker).specifier = s.specifier := by
  have hupdate := s.specifier_updateOrderStatus env localId .submitted
  unfold acceptSubmit
  generalize s.updateOrderStatus env localId .submitted = update at hupdate ⊢
  obtain ⟨s₁, e | u⟩ := update
  · exact hupdate
  · simpa using hupdate

lemma specifier_acceptCancel : (s.acceptCancel env localId).specifier = s.specifier := by
  have hupdate := ((s.log .orderCancelled "Cancelled" localId).removeMapping
    localId).specifier_updateOrderStatus env localId .cancelled
  unfold acceptCancel
  dsimp only
  generalize ((s.log .orderCancelled "Cancelled" localId).removeMapping
    localId).updateOrderStatus env localId .cancelled = update at hupdate ⊢
  obtain ⟨s₁, e | u⟩ := update
  · exact hupdate
  · exact hupdate

lemma specifier_killOrder : (s.killOrder env localId).specifier = s.specifier := by
  have hupdate := s.specifier_updateOrderStatus env localId .cancelled
  unfold killOrder
  generalize s.updateOrderStatus env localId .cancelled = update at hupdate ⊢
  obtain ⟨s₁, e | u⟩ := update
  · exact hupdate
  · exact hupdate

lemma specifier_acceptReplace (newId : LocalOrderId) (newOrder : V1.Order)
    (newBroker : BrokerOrderId) :
    (s.acceptReplace env localId newId newOrder newBroker).specifier = s.specifier := by
  have hupdate := (s.removeMapping localId).specifier_updateOrderStatus env localId .replaced
  unfold acceptReplace
  dsimp only
  generalize (s.removeMapping localId).updateOrderStatus env localId .replaced = update
    at hupdate ⊢
  obtain ⟨s₁, e | u⟩ := update
  · exact hupdate
  dsimp only at hupdate ⊢
  cases timestampToString env.now with
  | error what => exact hupdate
  | ok createdAt =>
    have hstore := s₁.specifier_storeOrder env
      { order := newOrder, localId := newId, brokerId := some newBroker, status := .submitted
        createdAt := createdAt }
    dsimp only
    generalize s₁.storeOrder env _ = stored at hstore ⊢
    obtain ⟨s₂, e | u⟩ := stored
    · exact hstore.trans hupdate
    · exact hstore.trans hupdate

lemma specifier_handleSubmitCommand (answer : (c : GatewayCall) → c.Answer)
    (signal : V1.StrategySignal) :
    ((s.handleSubmitCommand env signal).run answer).specifier = s.specifier := by
  obtain ⟨createdAt, hts⟩ := timestampToString_ok env.now
  have hbegin : (s.beginSubmit env signal).specifier = s.specifier := rfl
  rw [s.handleSubmitCommand_eq env signal hts]
  have hstored := (s.beginSubmit env signal).specifier_storeOrder env
    (s.rowOfSubmit env signal createdAt)
  generalize (s.beginSubmit env signal).storeOrder env _ = stored at hstored ⊢
  obtain ⟨s₂, e | u⟩ := stored
  · exact hstored.trans hbegin
  dsimp only at hstored ⊢
  split
  · exact (s₂.specifier_rejectSubmit env _ _).trans (hstored.trans hbegin)
  · rw [Program.run_call]
    split
    · exact (s₂.specifier_rejectSubmit env _ _).trans (hstored.trans hbegin)
    · exact (s₂.specifier_acceptSubmit env _ _).trans (hstored.trans hbegin)

lemma specifier_handleCancelAllCommand (answer : (c : GatewayCall) → c.Answer)
    (reason initiatedBy : String) :
    ((s.handleCancelAllCommand env reason initiatedBy).run answer).specifier = s.specifier := by
  have hloop : ∀ (orders : List StoredOrder) (s₁ : OrderManager),
      ((cancelOpenOrders env orders s₁).run answer).specifier = s₁.specifier := by
    intro orders
    induction orders with
    | nil => exact fun _ => rfl
    | cons stored rest ih =>
      intro s₁
      unfold cancelOpenOrders
      split
      · exact ih s₁
      · rw [Program.run_call]
        split
        · exact (ih _).trans (s₁.specifier_killOrder env _)
        · exact ih _
  unfold handleCancelAllCommand getOpenOrders
  dsimp only
  cases env.openOrdersRead with
  | none => exact hloop _ _
  | some k => exact hloop _ _

lemma specifier_handleFill (fill : V1.ExecutionReport) :
    (s.handleFill env fill).specifier = s.specifier := by
  unfold handleFill
  split
  · rfl
  next localId _ =>
    split_ifs
    · unfold closeOrder
      simp
    · unfold getOrder
      split
      · next heq =>
        split at heq
        · simp at heq
        · obtain ⟨rfl, -⟩ := Prod.mk.inj heq
          rfl
      · next heq =>
        split at heq
        · obtain ⟨rfl, -⟩ := Prod.mk.inj heq
          unfold recordFill
          dsimp only
          split_ifs <;> simp
        · simp at heq

/-- No handler changes the specifier. -/
lemma specifier_dispatch (i : Input) : (dispatch s i).specifier = s.specifier := by
  unfold dispatch handle
  cases i.event with
  | bar bar =>
    dsimp only [Program.run_done]
    unfold handleBar
    cases s.barSink <;> rfl
  | tick tick =>
    dsimp only [Program.run_done]
    unfold handleTick
    cases s.tickSink <;> rfl
  | executionReport report => exact s.specifier_handleFill i.env report
  | submitCommand signal => exact s.specifier_handleSubmitCommand i.env _ signal
  | cancelCommand signal =>
    dsimp only
    unfold handleCancelCommand
    split
    · rfl
    · rw [Program.run_call]
      split
      · exact s.specifier_acceptCancel i.env _
      · rfl
  | replaceCommand signal =>
    dsimp only
    unfold handleReplaceCommand
    dsimp only
    split
    · rfl
    · rw [Program.run_call]
      split
      · rfl
      · exact specifier_acceptReplace _ i.env _ _ _ _
  | cancelAllCommand reason initiatedBy =>
    exact s.specifier_handleCancelAllCommand i.env _ reason initiatedBy

end OrderManager

/-! ## The ids of the orders -/

/-- Only a new order is logged as rejected. -/
lemma logs_rejected {s : OrderManager} {i : Input} {localId : LocalOrderId}
    (hlogged : (.orderRejected, localId) ∈ i.logs s) : localId = (s.generate i.env).1 := by
  unfold Input.logs at hlogged
  cases hevent : i.event with
  | bar _ | tick _ =>
    rw [hevent] at hlogged
    simp at hlogged
  | executionReport report =>
    rw [hevent] at hlogged
    dsimp only at hlogged
    split at hlogged
    · simp at hlogged
    · split_ifs at hlogged
      · simp at hlogged
      · obtain ⟨row, -, hrow⟩ := Option.map_eq_some_iff.mp (Option.mem_toList.mp hlogged)
        unfold fillEvent at hrow
        split_ifs at hrow <;> cases hrow
  | submitCommand signal =>
    have hnew : localId = (s.orderOfSubmit i.env signal).id → localId = (s.generate i.env).1 := id
    rw [hevent] at hlogged
    dsimp only at hlogged
    split at hlogged
    · exact hnew (by simpa using hlogged)
    split at hlogged
    · exact hnew (by simpa using hlogged)
    · simp at hlogged
  | cancelCommand signal =>
    rw [hevent] at hlogged
    dsimp only at hlogged
    split at hlogged
    · simp at hlogged
    split at hlogged <;> simp at hlogged
  | replaceCommand signal =>
    have hnew : localId = (s.orderOfReplace i.env signal).id → localId = (s.generate i.env).1 := id
    rw [hevent] at hlogged
    dsimp only at hlogged
    split at hlogged
    · simp at hlogged
    split at hlogged
    · exact hnew (by simpa using hlogged)
    · simp at hlogged
  | cancelAllCommand reason initiatedBy =>
    rw [hevent] at hlogged
    have hkill := (List.mem_cons.mp hlogged).resolve_left (by simp)
    cases ((mem_killLogs rfl).mp hkill).1

/-- The ids that are stored, or logged with a closing event, are plain. -/
structure PlainIds (s : OrderManager) : Prop where
  specifier : s.specifier = "ORD"
  stored : ∀ localId, s.orderStore.find localId ≠ none → Plain localId
  logged : ∀ event : Event, event.isClosing = true → ∀ localId,
    (event, localId) ∈ s.logged → Plain localId

namespace PlainIds

variable {s : OrderManager}

/-- The next id is plain. -/
lemma next (h : PlainIds s) (env : Env) : Plain (s.generate env).1 :=
  s.idGenerator.plain_generate h.specifier env.idClock

/-- A new order manager on an empty store. -/
lemma start (accountId : String) (riskManager : RiskManager) :
    PlainIds (createOrderManager accountId .empty riskManager) where
  specifier := rfl
  stored := fun _ hsome => absurd rfl hsome
  logged := fun _ _ _ hmem => absurd hmem List.not_mem_nil

/-- **Step lemma.**  A handler stores and closes only orders with plain ids. -/
lemma dispatch {i : Input} (h : PlainIds s) (hagree : Agree s.idMapper s.orderStore)
    (hok : StoreSucceeds s i) : PlainIds (dispatch s i) where
  specifier := (s.specifier_dispatch i).trans h.specifier
  stored := by
    intro localId hsome
    rcases (dispatch_move s i).stored hsome with hold | ⟨rfl, -⟩
    · exact h.stored localId hold
    · exact h.next i.env
  logged := by
    intro event hclosing localId hmem
    rw [dispatch_logged hok, List.mem_append] at hmem
    rcases hmem with hold | hnew
    · exact h.logged event hclosing localId hold
    obtain rfl | rfl | rfl := Event.eq_of_isClosing hclosing
    · exact h.stored localId (logs_stored hagree i (Or.inl hnew))
    · exact h.stored localId (logs_stored hagree i (Or.inr hnew))
    · rw [logs_rejected hnew]
      exact h.next i.env

end PlainIds

/-! ## The main result -/

/-- The audit trail agrees with a status when it has the one closing event that the status asks
for. -/
lemma MatchesTrail.mem_iff {status : OrderStatus} {trail : List (Event × LocalOrderId)}
    {localId : LocalOrderId} (h : MatchesTrail status trail localId) :
    ∀ event : Event, event.isClosing = true →
      ((event, localId) ∈ trail ↔ status.closingEvent = some event) := by
  apply Event.forall_isClosing
  · rw [← h.filled]
    cases status <;> simp [OrderStatus.closingEvent]
  · rw [← h.cancelled]
    cases status <;> simp [OrderStatus.closingEvent]
  · rw [← h.rejected]
    cases status <;> simp [OrderStatus.closingEvent]

end Quarcc
