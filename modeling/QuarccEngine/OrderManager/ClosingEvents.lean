import QuarccEngine.OrderManager.Audit

/-!
# The audit trail and the statuses of the orders

An order that is closed has a status and, on the audit trail, the event that closed it.  A terminal
report closes its order without a call on the journal, while the cancel command, the kill switch,
the risk check and the gateway's refusal all log what they do.  The main result is that the audit
trail matches the store along a run exactly when no such report is handled for an order that is
mapped, and when no order gets an id that was logged as rejected before.
-/

namespace Quarcc

/-! ## The statuses of the closed orders -/

/-- The audit trail agrees with the status of the order `localId`. -/
structure MatchesTrail (status : OrderStatus) (trail : List (Event × LocalOrderId))
    (localId : LocalOrderId) : Prop where
  filled : status = .filled ↔ (.orderFilled, localId) ∈ trail
  cancelled : status = .cancelled ↔ (.orderCancelled, localId) ∈ trail
  rejected : status = .rejected ↔ (.orderRejected, localId) ∈ trail

/-- The audit trail agrees with the statuses of all stored orders. -/
def AuditMatches (store : SQLiteOrderStore) (trail : List (Event × LocalOrderId)) : Prop :=
  ∀ localId row, store.find localId = some row → MatchesTrail row.status trail localId

/-- The audit trail of the order manager agrees with its store. -/
def OrderManager.Audited (s : OrderManager) : Prop := AuditMatches s.orderStore s.logged

/-- The events that close an order. -/
def Event.isClosing : Event → Bool
  | .orderFilled | .orderCancelled | .orderRejected => true
  | _ => false

/-- The closing events, one by one. -/
lemma Event.eq_of_isClosing {event : Event} (h : event.isClosing = true) :
    event = .orderFilled ∨ event = .orderCancelled ∨ event = .orderRejected := by
  cases event <;> simp_all [Event.isClosing]

/-- What is true of the three closing events is true of every closing event. -/
lemma Event.forall_isClosing {P : Event → Prop} (hfilled : P .orderFilled)
    (hcancelled : P .orderCancelled) (hrejected : P .orderRejected) :
    ∀ event : Event, event.isClosing = true → P event := by
  intro event hclosing
  obtain rfl | rfl | rfl := Event.eq_of_isClosing hclosing
  · exact hfilled
  · exact hcancelled
  · exact hrejected

/-- The event that is logged when an order gets the status. -/
def OrderStatus.closingEvent : OrderStatus → Option Event
  | .filled => some .orderFilled
  | .cancelled => some .orderCancelled
  | .rejected => some .orderRejected
  | _ => none

/-- No closing event is on the trail for the order `localId`. -/
def SilentFor (localId : LocalOrderId) (trail : List (Event × LocalOrderId)) : Prop :=
  ∀ event : Event, event.isClosing = true → (event, localId) ∉ trail

section Trail

variable {status : OrderStatus} {trail new : List (Event × LocalOrderId)} {localId : LocalOrderId}

/-- No closing event is on the trail for an open order. -/
lemma MatchesTrail.silentFor (h : MatchesTrail status trail localId)
    (hopen : status.isOpen = true) : SilentFor localId trail := by
  apply Event.forall_isClosing
  · intro hlogged
    cases h.filled.mpr hlogged
    cases hopen
  · intro hlogged
    cases h.cancelled.mpr hlogged
    cases hopen
  · intro hlogged
    cases h.rejected.mpr hlogged
    cases hopen

/-- What is logged about other orders does not matter. -/
lemma matchesTrail_append (hsilent : SilentFor localId new) :
    MatchesTrail status (trail ++ new) localId ↔ MatchesTrail status trail localId := by
  have hmem : ∀ event : Event, event.isClosing = true →
      ((event, localId) ∈ trail ++ new ↔ (event, localId) ∈ trail) := by
    intro event hclosing
    rw [List.mem_append, or_iff_left (hsilent event hclosing)]
  constructor
  · rintro ⟨hfilled, hcancelled, hrejected⟩
    exact ⟨hfilled.trans (hmem _ rfl), hcancelled.trans (hmem _ rfl), hrejected.trans (hmem _ rfl)⟩
  · rintro ⟨hfilled, hcancelled, hrejected⟩
    exact ⟨hfilled.trans (hmem _ rfl).symm, hcancelled.trans (hmem _ rfl).symm,
      hrejected.trans (hmem _ rfl).symm⟩

/-- An order for which no closing event was logged needs one exactly when its status asks for it. -/
lemma matchesTrail_iff_closingEvent (hsilent : SilentFor localId trail) (logged : Option Event)
    (hnew : ∀ event : Event, event.isClosing = true →
      ((event, localId) ∈ new ↔ logged = some event))
    (hclosing : ∀ event, logged = some event → event.isClosing = true) :
    MatchesTrail status (trail ++ new) localId ↔ status.closingEvent = logged := by
  have hmem : ∀ event : Event, event.isClosing = true →
      ((event, localId) ∈ trail ++ new ↔ logged = some event) := by
    intro event hevent
    rw [List.mem_append, or_iff_right (hsilent event hevent), hnew event hevent]
  constructor
  · rintro ⟨hfilled, hcancelled, hrejected⟩
    rw [hmem _ rfl] at hfilled hcancelled hrejected
    cases hlogged : logged with
    | none =>
      subst hlogged
      cases status <;> simp_all [OrderStatus.closingEvent]
    | some event =>
      have hevent := hclosing event hlogged
      subst hlogged
      obtain rfl | rfl | rfl := Event.eq_of_isClosing hevent
      · rw [hfilled.mpr rfl]
        rfl
      · rw [hcancelled.mpr rfl]
        rfl
      · rw [hrejected.mpr rfl]
        rfl
  · rintro rfl
    refine ⟨?_, ?_, ?_⟩ <;> rw [hmem _ rfl] <;> cases status <;> simp [OrderStatus.closingEvent]

/-- When only some rows change and nothing is logged about the others, only they have to be looked
at. -/
lemma auditMatches_iff {store store' : SQLiteOrderStore} (h : AuditMatches store trail)
    (changed : LocalOrderId → Prop)
    (hstore : ∀ l, ¬ changed l → store'.find l = store.find l)
    (hsilent : ∀ l, ¬ changed l → SilentFor l new) :
    AuditMatches store' (trail ++ new) ↔
      ∀ l, changed l → ∀ row, store'.find l = some row →
        MatchesTrail row.status (trail ++ new) l := by
  constructor
  · intro h' l _ row hrow
    exact h' l row hrow
  · intro h' l row hrow
    by_cases hl : changed l
    · exact h' l hl row hrow
    · rw [hstore l hl] at hrow
      exact (matchesTrail_append (hsilent l hl)).mpr (h l row hrow)

end Trail

/-! ### What closes an order -/

/-- The event of `i` keeps the audit trail in step with the store: it is no terminal report of an
order that is mapped, the order that it sends out was not logged as rejected before, and an order
that it logs as rejected is not stored with another status. -/
def Input.KeepsAudit (s : OrderManager) (i : Input) : Prop :=
  match i.event with
  | .bar _ | .tick _ | .cancelCommand _ | .cancelAllCommand _ _ => True
  | .executionReport report =>
    report.isTerminal = true → s.idMapper.getLocalId report.brokerOrderId = none
  | .submitCommand signal =>
    s.checkSubmit signal = .ok () →
      ∀ broker, i.gateway.submitOrder (s.orderOfSubmit i.env signal) = .ok broker →
        (.orderRejected, (s.orderOfSubmit i.env signal).id) ∉ s.logged
  | .replaceCommand signal =>
    ∀ broker, s.idMapper.getBrokerId signal.orderId = some broker →
      match i.gateway.replaceOrder broker (s.orderOfReplace i.env signal) with
      | .ok _ => (.orderRejected, (s.orderOfReplace i.env signal).id) ∉ s.logged
      | .error _ =>
        ∀ row, s.orderStore.find (s.orderOfReplace i.env signal).id = some row →
          row.status = .rejected

namespace Input

variable {s : OrderManager} {i : Input}

/-! The condition, one event after the other. -/

lemma keepsAudit_cancel {signal : V1.CancelSignal} (hevent : i.event = .cancelCommand signal) :
    i.KeepsAudit s := by
  unfold KeepsAudit
  rw [hevent]
  trivial

lemma keepsAudit_killSwitch {reason initiatedBy : String}
    (hevent : i.event = .cancelAllCommand reason initiatedBy) : i.KeepsAudit s := by
  unfold KeepsAudit
  rw [hevent]
  trivial

lemma keepsAudit_refused {signal : V1.StrategySignal} (hevent : i.event = .submitCommand signal)
    (hrefused : s.checkSubmit signal = .ok () →
      ∃ e, i.gateway.submitOrder (s.orderOfSubmit i.env signal) = .error e) : i.KeepsAudit s := by
  unfold KeepsAudit
  rw [hevent]
  intro hcheck broker haccept
  obtain ⟨e, he⟩ := hrefused hcheck
  rw [he] at haccept
  cases haccept

lemma keepsAudit_submit_iff {signal : V1.StrategySignal} {broker : BrokerOrderId}
    (hevent : i.event = .submitCommand signal) (hcheck : s.checkSubmit signal = .ok ())
    (haccept : i.gateway.submitOrder (s.orderOfSubmit i.env signal) = .ok broker) :
    i.KeepsAudit s ↔ (.orderRejected, (s.orderOfSubmit i.env signal).id) ∉ s.logged := by
  unfold KeepsAudit
  rw [hevent]
  exact ⟨fun hk => hk hcheck broker haccept, fun hk _ _ _ => hk⟩

lemma keepsAudit_replace_iff {signal : V1.ReplaceSignal} {broker newBroker : BrokerOrderId}
    (hevent : i.event = .replaceCommand signal)
    (hmapped : s.idMapper.getBrokerId signal.orderId = some broker)
    (haccept : i.gateway.replaceOrder broker (s.orderOfReplace i.env signal) = .ok newBroker) :
    i.KeepsAudit s ↔ (.orderRejected, (s.orderOfReplace i.env signal).id) ∉ s.logged := by
  unfold KeepsAudit
  simp [hevent, hmapped, haccept]

lemma keepsAudit_refusedReplace_iff {signal : V1.ReplaceSignal} {broker : BrokerOrderId} {e : Error}
    (hevent : i.event = .replaceCommand signal)
    (hmapped : s.idMapper.getBrokerId signal.orderId = some broker)
    (hrefused : i.gateway.replaceOrder broker (s.orderOfReplace i.env signal) = .error e) :
    i.KeepsAudit s ↔ ∀ row, s.orderStore.find (s.orderOfReplace i.env signal).id = some row →
      row.status = .rejected := by
  unfold KeepsAudit
  simp [hevent, hmapped, hrefused]

lemma keepsAudit_report_iff {report : V1.ExecutionReport}
    (hevent : i.event = .executionReport report) :
    i.KeepsAudit s ↔
      (report.isTerminal = true → s.idMapper.getLocalId report.brokerOrderId = none) := by
  unfold KeepsAudit
  rw [hevent]

end Input

/-- An order that is not stored was not logged as filled or cancelled. -/
def OrderManager.LogsStored (s : OrderManager) : Prop :=
  ∀ localId, s.orderStore.find localId = none →
    (.orderFilled, localId) ∉ s.logged ∧ (.orderCancelled, localId) ∉ s.logged

/-- No row of the store disappears. -/
lemma Move.find_ne_none {s : OrderManager} {i : Input} {ok : Prop} {done : List GatewayEffect}
    {b : Books} (hmove : Move s i ok done b) {localId : LocalOrderId}
    (h : s.orderStore.find localId ≠ none) : b.orderStore.find localId ≠ none := by
  cases hmove with
  | stay _ | skip _ _ | unmap _ _ _ | forget _ _ _ _ _ => exact h
  | refuse _ _ _ _ hins | lose _ _ _ _ hins _ _ | accept _ _ _ _ _ hins =>
    exact hins.find_ne_none h
  | cancel _ _ _ | retire _ _ _ _ _ => exact SQLiteOrderStore.find_setStatus_ne_none _ _ h
  | replace _ _ _ _ hins =>
    exact hins.find_ne_none (SQLiteOrderStore.find_setStatus_ne_none _ _ h)
  | killSwitch _ _ _ _ =>
    rw [Books.find_kills]
    split_ifs
    · simpa using h
    · exact h
  | @close _ _ _ updated _ _ _ _ _ =>
    cases updated with
    | false => exact h
    | true => exact SQLiteOrderStore.find_setStatus_ne_none _ _ h
  | @fill _ _ _ applied _ _ _ _ _ _ =>
    rw [Books.fill_orderStore]
    cases applied with
    | false => exact h
    | true => exact SQLiteOrderStore.find_addFill_ne_none _ _ _ _ h

/-- Only a stored order is logged as filled or cancelled. -/
lemma logs_stored {s : OrderManager} (h : Agree s.idMapper s.orderStore) (i : Input)
    {localId : LocalOrderId}
    (hlogged : (.orderFilled, localId) ∈ i.logs s ∨ (.orderCancelled, localId) ∈ i.logs s) :
    s.orderStore.find localId ≠ none := by
  unfold Input.logs at hlogged
  cases hevent : i.event with
  | bar _ | tick _ =>
    rw [hevent] at hlogged
    simp at hlogged
  | executionReport report =>
    rw [hevent] at hlogged
    dsimp only at hlogged
    split at hlogged
    · simp at hlogged
    next l hmapped =>
      split_ifs at hlogged
      · simp at hlogged
      cases hrow : s.orderStore.find l with
      | none => simp [hrow] at hlogged
      | some row =>
        have hl : localId = l := by
          simp only [hrow, Option.map_some, Option.toList_some, List.mem_singleton,
            Prod.mk.injEq] at hlogged
          exact hlogged.elim And.right And.right
        rw [hl, hrow]
        nofun
  | submitCommand signal =>
    rw [hevent] at hlogged
    dsimp only at hlogged
    split at hlogged
    · simp at hlogged
    split at hlogged <;> simp at hlogged
  | cancelCommand signal =>
    rw [hevent] at hlogged
    dsimp only at hlogged
    split at hlogged
    · simp at hlogged
    next broker hmapped =>
      split at hlogged
      · simp at hlogged
      obtain ⟨row, hrow, -⟩ := h.carriedBy signal.orderId broker hmapped
      have hl : localId = signal.orderId := by simpa using hlogged
      simp [hl, hrow]
  | replaceCommand signal =>
    rw [hevent] at hlogged
    dsimp only at hlogged
    split at hlogged
    · simp at hlogged
    split at hlogged <;> simp at hlogged
  | cancelAllCommand reason initiatedBy =>
    rw [hevent] at hlogged
    simp only [List.mem_cons, Prod.mk.injEq, reduceCtorEq, false_and, false_or] at hlogged
    obtain ⟨row, hrow, hlog⟩ : ∃ row ∈ s.orderStore.getOpenOrders none,
        ∃ event, i.killLog row = some (event, localId) := by
      rcases hlogged with hmem | hmem <;>
      · obtain ⟨row, hrow, hlog⟩ := List.mem_filterMap.mp hmem
        exact ⟨row, hrow, _, hlog⟩
    obtain ⟨event, hlog⟩ := hlog
    have hl : row.localId = localId := by
      unfold Input.killLog at hlog
      split at hlog
      · cases hlog
      split at hlog <;> simp_all
    rw [← hl, SQLiteOrderStore.find_of_mem (SQLiteOrderStore.mem_getOpenOrders hrow).1]
    nofun

/-- Orders that are not stored stay unlogged. -/
lemma OrderManager.LogsStored.dispatch {s : OrderManager} {i : Input} (h : s.LogsStored)
    (hagree : Agree s.idMapper s.orderStore) (hok : StoreSucceeds s i) :
    (dispatch s i).LogsStored := by
  intro localId hnone
  have hbefore : s.orderStore.find localId = none := by
    by_contra hsome
    exact (dispatch_move s i).find_ne_none hsome hnone
  have hnew : ∀ event : Event, event = .orderFilled ∨ event = .orderCancelled →
      (event, localId) ∉ i.logs s := by
    rintro event (rfl | rfl) hmem
    · exact logs_stored hagree i (Or.inl hmem) hbefore
    · exact logs_stored hagree i (Or.inr hmem) hbefore
  rw [dispatch_logged hok, List.mem_append, List.mem_append]
  exact ⟨not_or.mpr ⟨(h localId hbefore).1, hnew _ (Or.inl rfl)⟩,
    not_or.mpr ⟨(h localId hbefore).2, hnew _ (Or.inr rfl)⟩⟩

section Trail

variable {status : OrderStatus} {trail new : List (Event × LocalOrderId)} {localId : LocalOrderId}

/-- Nothing is logged about an order that no call names. -/
lemma silentFor_of_ne (h : ∀ key ∈ new, key.2 ≠ localId) : SilentFor localId new :=
  fun _ _ hmem => h _ hmem rfl

/-- An order that is logged as rejected has to have this status. -/
lemma matchesTrail_iff_rejected (h : MatchesTrail status trail localId)
    (hnew : ∀ event : Event, event.isClosing = true →
      ((event, localId) ∈ new ↔ event = .orderRejected)) :
    MatchesTrail status (trail ++ new) localId ↔ status = .rejected := by
  constructor
  · intro h'
    exact h'.rejected.mpr (List.mem_append_right _ ((hnew _ rfl).mpr rfl))
  · rintro rfl
    refine ⟨?_, ?_, ?_⟩
    · rw [List.mem_append, hnew _ rfl, ← h.filled]
      simp
    · rw [List.mem_append, hnew _ rfl, ← h.cancelled]
      simp
    · rw [List.mem_append, hnew _ rfl]
      simp

/-- A new order that is rejected and logged as such. -/
lemma matchesTrail_rejected (hfilled : (.orderFilled, localId) ∉ trail)
    (hcancelled : (.orderCancelled, localId) ∉ trail)
    (hnew : ∀ event : Event, event.isClosing = true →
      ((event, localId) ∈ new ↔ event = .orderRejected)) :
    MatchesTrail .rejected (trail ++ new) localId where
  filled := by
    rw [List.mem_append, hnew _ rfl]
    simp [hfilled]
  cancelled := by
    rw [List.mem_append, hnew _ rfl]
    simp [hcancelled]
  rejected := by
    rw [List.mem_append, hnew _ rfl]
    simp

/-- A new order that is sent out must not have been logged as rejected. -/
lemma matchesTrail_submitted_iff (hfilled : (.orderFilled, localId) ∉ trail)
    (hcancelled : (.orderCancelled, localId) ∉ trail) (hsilent : SilentFor localId new) :
    MatchesTrail .submitted (trail ++ new) localId ↔ (.orderRejected, localId) ∉ trail := by
  rw [matchesTrail_append hsilent]
  constructor
  · intro h hlogged
    cases h.rejected.mpr hlogged
  · intro hrejected
    refine ⟨?_, ?_, ?_⟩
    · simpa using hfilled
    · simpa using hcancelled
    · simpa using hrejected

end Trail

/-- What the kill switch logs about the orders. -/
lemma mem_killLogs {i : Input} {orders : List StoredOrder} {event : Event} {localId : LocalOrderId}
    (hclosing : event.isClosing = true) :
    (event, localId) ∈ orders.filterMap i.killLog ↔
      event = .orderCancelled ∧ ∃ row ∈ orders, row.localId = localId ∧ i.Kills row := by
  have hlog : ∀ row : StoredOrder, i.killLog row = some (event, localId) ↔
      event = .orderCancelled ∧ row.localId = localId ∧ i.Kills row := by
    intro row
    unfold Input.killLog Input.Kills
    cases hbroker : row.brokerId with
    | none => simp
    | some broker =>
      cases haccept : i.gateway.cancelOrder broker with
      | error e =>
        have hne : event ≠ .errorOccurred := by
          rintro rfl
          cases hclosing
        simp [haccept, hne.symm]
      | ok u => simp [haccept, eq_comm]
  rw [List.mem_filterMap]
  constructor
  · rintro ⟨row, hrow, h⟩
    obtain ⟨hevent, hl, hkills⟩ := (hlog row).mp h
    exact ⟨hevent, row, hrow, hl, hkills⟩
  · rintro ⟨hevent, row, hrow, hl, hkills⟩
    exact ⟨row, hrow, (hlog row).mpr ⟨hevent, hl, hkills⟩⟩

section Step

variable {s : OrderManager} {i : Input}

/-- An event that changes nothing in the books can still log the rejection of a replacement. -/
lemma audited_iff_of_idle (h : s.Audited) (hidle : i.Idle s) :
    AuditMatches s.orderStore (s.logged ++ i.logs s) ↔ i.KeepsAudit s := by
  have hsame : i.logs s = [] → i.KeepsAudit s →
      (AuditMatches s.orderStore (s.logged ++ i.logs s) ↔ i.KeepsAudit s) := by
    intro hlogs hkeeps
    rw [hlogs, List.append_nil]
    exact ⟨fun _ => hkeeps, fun _ => h⟩
  unfold Input.Idle at hidle
  cases hevent : i.event with
  | bar _ | tick _ =>
    refine hsame ?_ ?_
    · unfold Input.logs
      rw [hevent]
    · unfold Input.KeepsAudit
      rw [hevent]
      trivial
  | executionReport report =>
    rw [hevent] at hidle
    apply hsame (Input.logs_unmapped hevent hidle)
    exact (Input.keepsAudit_report_iff hevent).mpr fun _ => hidle
  | submitCommand _ | cancelAllCommand _ _ =>
    rw [hevent] at hidle
    exact hidle.elim
  | cancelCommand signal =>
    rw [hevent] at hidle
    refine hsame ?_ (Input.keepsAudit_cancel hevent)
    unfold Input.logs
    rw [hevent]
    dsimp only at hidle ⊢
    split
    · rfl
    next broker hmapped =>
      split
      · rfl
      next haccept => exact absurd haccept (hidle broker hmapped)
  | replaceCommand signal =>
    rw [hevent] at hidle
    dsimp only at hidle
    cases hmapped : s.idMapper.getBrokerId signal.orderId with
    | none =>
      refine hsame ?_ ?_
      · unfold Input.logs
        simp only [hevent, hmapped]
      · unfold Input.KeepsAudit
        simp [hevent, hmapped]
    | some broker =>
      cases haccept : i.gateway.replaceOrder broker (s.orderOfReplace i.env signal) with
      | ok newBroker => exact absurd haccept (hidle broker hmapped newBroker)
      | error e =>
        have hlogs : i.logs s = [(.orderReplaced, (s.orderOfReplace i.env signal).id),
            (.orderRejected, (s.orderOfReplace i.env signal).id)] := by
          unfold Input.logs
          simp only [hevent, hmapped, haccept]
        rw [Input.keepsAudit_refusedReplace_iff hevent hmapped haccept, hlogs,
          auditMatches_iff h (· = (s.orderOfReplace i.env signal).id)
          (fun l _ => rfl) (fun l hl => silentFor_of_ne (by simpa using Ne.symm hl))]
        have hnew : ∀ event : Event, event.isClosing = true →
            ((event, (s.orderOfReplace i.env signal).id) ∈
              [(Event.orderReplaced, (s.orderOfReplace i.env signal).id),
                (Event.orderRejected, (s.orderOfReplace i.env signal).id)] ↔
              event = .orderRejected) :=
          Event.forall_isClosing (by simp) (by simp) (by simp)
        constructor
        · intro h' row hrow
          exact (matchesTrail_iff_rejected (h _ row hrow) hnew).mp (h' _ rfl row hrow)
        · rintro h' l rfl row hrow
          exact (matchesTrail_iff_rejected (h _ row hrow) hnew).mpr (h' row hrow)

/-- A new order, logged under its own id. -/
lemma auditMatches_insert {row : StoredOrder} {store : SQLiteOrderStore}
    {new : List (Event × LocalOrderId)} (h : s.Audited)
    (hins : SQLiteOrderStore.Inserted s.orderStore row store)
    (hnew : ∀ key ∈ new, key.2 = row.localId) :
    AuditMatches store (s.logged ++ new) ↔
      MatchesTrail row.status (s.logged ++ new) row.localId := by
  rw [auditMatches_iff h (· = row.localId)]
  · constructor
    · intro h'
      exact h' _ rfl row (by rw [hins.find, if_pos rfl])
    · rintro h' l rfl other hother
      rw [hins.find, if_pos rfl] at hother
      obtain rfl := Option.some.inj hother
      exact h'
  · intro l hl
    rw [hins.find, if_neg hl]
  · intro l hl
    exact silentFor_of_ne fun key hkey => hnew key hkey ▸ Ne.symm hl

/-- An open order that is closed or filled, logged under its own id. -/
lemma auditMatches_update {row : StoredOrder} {store : SQLiteOrderStore}
    {localId : LocalOrderId} {new : List (Event × LocalOrderId)} (h : s.Audited)
    (hrow : s.orderStore.find localId = some row) (hopen : row.status.isOpen = true)
    (row' : StoredOrder)
    (hfind : ∀ l, store.find l = if l = localId then some row' else s.orderStore.find l)
    (hnew : ∀ key ∈ new, key.2 = localId) (logged : Option Event)
    (hlogged : ∀ event : Event, event.isClosing = true →
      ((event, localId) ∈ new ↔ logged = some event))
    (hclosing : ∀ event, logged = some event → event.isClosing = true) :
    AuditMatches store (s.logged ++ new) ↔ row'.status.closingEvent = logged := by
  rw [← matchesTrail_iff_closingEvent ((h localId row hrow).silentFor hopen) logged
    hlogged hclosing,
    auditMatches_iff h (· = localId)]
  · constructor
    · intro h'
      exact h' _ rfl row' (by rw [hfind, if_pos rfl])
    · rintro h' l rfl other hother
      rw [hfind, if_pos rfl] at hother
      obtain rfl := Option.some.inj hother
      exact h'
  · intro l hl
    rw [hfind, if_neg hl]
  · intro l hl
    exact silentFor_of_ne fun key hkey => hnew key hkey ▸ Ne.symm hl

/-- An order that is replaced, and the one that comes in its place. -/
lemma auditMatches_replace {row oldRow : StoredOrder} {store : SQLiteOrderStore}
    {localId : LocalOrderId} {sqliteNow : String} {new : List (Event × LocalOrderId)}
    (h : s.Audited) (hold : s.orderStore.find localId = some oldRow)
    (hopen : oldRow.status.isOpen = true)
    (hins : SQLiteOrderStore.Inserted (s.orderStore.setStatus localId .replaced sqliteNow)
      row store)
    (hsilent : ∀ l, SilentFor l new) :
    AuditMatches store (s.logged ++ new) ↔
      MatchesTrail row.status (s.logged ++ new) row.localId := by
  have hreplaced : (s.orderStore.setStatus localId .replaced sqliteNow).find localId =
      some (oldRow.withStatus .replaced sqliteNow) := by
    rw [SQLiteOrderStore.find_setStatus, if_pos rfl, hold]
    rfl
  have hne : localId ≠ row.localId := by
    intro heq
    have hfresh := hins.fresh
    rw [← heq, hreplaced] at hfresh
    cases hfresh
  refine (auditMatches_iff h (fun l => l = localId ∨ l = row.localId) (fun l hl => ?_)
    (fun l _ => hsilent l)).trans ?_
  · rw [not_or] at hl
    apply (hins.find l).trans
    rw [if_neg hl.2]
    exact SQLiteOrderStore.find_setStatus_of_ne hl.1 _ _
  constructor
  · intro h'
    apply h' row.localId (Or.inr rfl) row
    exact (hins.find _).trans (if_pos rfl)
  · rintro h' l (rfl | rfl) other hother
    · rw [matchesTrail_append (hsilent _)]
      rw [hins.find, if_neg hne, hreplaced] at hother
      obtain rfl := Option.some.inj hother
      have hquiet := (h _ oldRow hold).silentFor hopen
      exact ⟨iff_of_false nofun (hquiet _ rfl), iff_of_false nofun (hquiet _ rfl),
        iff_of_false nofun (hquiet _ rfl)⟩
    · obtain rfl := Option.some.inj (((hins.find _).trans (if_pos rfl)).symm.trans hother)
      exact h'

/-- Open orders that the kill switch cancels, each logged under its own id. -/
lemma auditMatches_kills {killed : List StoredOrder} {new : List (Event × LocalOrderId)}
    (h : s.Audited) (hopen : killed ⊆ s.orderStore.getOpenOrders none) (sqliteNow : String)
    (hnew : ∀ (l : LocalOrderId) (event : Event), event.isClosing = true →
      ((event, l) ∈ new ↔ event = .orderCancelled ∧ l ∈ killed.map StoredOrder.localId)) :
    AuditMatches
      ((killed.map StoredOrder.localId).foldl (Books.kill sqliteNow) s.toBooks).orderStore
      (s.logged ++ new) := by
  refine (auditMatches_iff h (· ∈ killed.map StoredOrder.localId) (fun l hl => ?_)
    (fun l hl event hclosing hmem => hl ((hnew l event hclosing).mp hmem).2)).mpr ?_
  · rw [Books.find_kills, if_neg hl]
  · intro l hl row' hrow'
    obtain ⟨row, hmem, rfl⟩ := List.mem_map.mp hl
    obtain ⟨hrows, hstatus⟩ := SQLiteOrderStore.mem_getOpenOrders (hopen hmem)
    have hfind : s.orderStore.find row.localId = some row := SQLiteOrderStore.find_of_mem hrows
    rw [Books.find_kills, if_pos hl] at hrow'
    obtain ⟨row₀, -, rfl⟩ := Option.map_eq_some_iff.mp hrow'
    refine (matchesTrail_iff_closingEvent ((h _ row hfind).silentFor hstatus)
      (some .orderCancelled) (fun event hclosing => ?_) ?_).mpr rfl
    · rw [hnew _ event hclosing]
      exact ⟨fun hevent => congrArg some hevent.1.symm,
        fun hevent => ⟨(Option.some.inj hevent).symm, hl⟩⟩
    · rintro event ⟨⟩
      rfl

/-- What the kill switch logs, when it has cancelled what the gateway lets it cancel. -/
lemma mem_logs_killSwitch {reason initiatedBy : String} {killed : List StoredOrder}
    (hevent : i.event = .cancelAllCommand reason initiatedBy)
    (hkilled : ∀ row ∈ s.orderStore.getOpenOrders none, row ∈ killed ↔ i.Kills row)
    (hsub : killed ⊆ s.orderStore.getOpenOrders none) (l : LocalOrderId) (event : Event)
    (hclosing : event.isClosing = true) :
    (event, l) ∈ i.logs s ↔ event = .orderCancelled ∧ l ∈ killed.map StoredOrder.localId := by
  have hlogs : i.logs s = (.killSwitchActivated, "") ::
      (s.orderStore.getOpenOrders none).filterMap i.killLog := by
    unfold Input.logs
    rw [hevent]
  have hne : event ≠ .killSwitchActivated := by
    rintro rfl
    cases hclosing
  rw [hlogs, List.mem_cons, Prod.mk.injEq, or_iff_right (fun heq => hne heq.1),
    mem_killLogs hclosing]
  refine and_congr_right fun _ => ⟨?_, ?_⟩
  · rintro ⟨row, hrow, rfl, hkill⟩
    exact List.mem_map_of_mem ((hkilled row hrow).mpr hkill)
  · intro hl
    obtain ⟨row, hrow, rfl⟩ := List.mem_map.mp hl
    exact ⟨row, hsub hrow, rfl, (hkilled row (hsub hrow)).mp hrow⟩

/-- An open order that is filled, logged by the event of the fill. -/
lemma auditMatches_fill {row : StoredOrder} {localId : LocalOrderId} (report : V1.ExecutionReport)
    (sqliteNow : String) (h : s.Audited) (hrow : s.orderStore.find localId = some row)
    (hopen : row.status.isOpen = true) :
    AuditMatches
      (s.orderStore.addFill localId report.filledQuantity report.avgFillPrice
        (Books.fillStatus row report) sqliteNow)
      (s.logged ++ [(fillEvent row report, localId)]) := by
  have hstatus : (Books.fillStatus row report).closingEvent =
      if row.order.quantity ≤ row.filledQuantity + report.filledQuantity then
        some .orderFilled else none := by
    unfold Books.fillStatus
    split_ifs <;> rfl
  refine (auditMatches_update h hrow hopen
    (row.withFill report.filledQuantity report.avgFillPrice (Books.fillStatus row report) sqliteNow)
    (SQLiteOrderStore.find_addFill_of_find hrow _ _ _ _) (by simp)
    (Books.fillStatus row report).closingEvent ?_ ?_).mpr rfl
  · rw [hstatus]
    unfold fillEvent
    split_ifs
    · intro event _
      simp [eq_comm]
    · exact Event.forall_isClosing (by simp) (by simp) (by simp)
  · intro event hsome
    rw [hstatus] at hsome
    split_ifs at hsome
    obtain rfl := Option.some.inj hsome
    rfl

end Step

/-- **Step lemma.**  An event keeps the audit trail in step with the store exactly when it meets the
condition. -/
theorem Move.auditMatches_iff {s : OrderManager} {i : Input} {ok : Prop}
    {done : List GatewayEffect} {b : Books} (hmove : Move s i ok done b) (hok : ok)
    (hagree : Agree s.idMapper s.orderStore) (hstored : s.LogsStored) (h : s.Audited) :
    AuditMatches b.orderStore (s.logged ++ i.logs s) ↔ i.KeepsAudit s := by
  have hopen : ∀ {localId : LocalOrderId} {broker : BrokerOrderId},
      s.idMapper.getBrokerId localId = some broker →
        ∃ row, s.orderStore.find localId = some row ∧ row.status.isOpen = true := by
    intro localId broker hmapped
    obtain ⟨row, hrow, -, hstatus⟩ := hagree.carriedBy localId broker hmapped
    exact ⟨row, hrow, hstatus⟩
  cases hmove with
  | skip _ hfail | lose _ _ _ _ _ _ hfail | unmap _ _ hfail | forget _ _ _ _ hfail
  | retire _ _ _ _ hfail =>
    exact absurd hok hfail
  | stay hidle => exact audited_iff_of_idle h hidle
  | @refuse signal row store status hevent hrefused hrow hstatus hins =>
    obtain rfl : status = .rejected := hstatus.resolve_right fun h => h.2 hok
    have hlogs : i.logs s = [(.orderCreated, row.localId), (.orderRejected, row.localId)] := by
      rw [hrow.localId_eq]
      exact Input.logs_refused hevent hrefused
    obtain ⟨hfilled, hcancelled⟩ := hstored row.localId hins.fresh
    rw [hlogs, auditMatches_insert h hins (by simp), hrow.status_eq]
    refine iff_of_true (matchesTrail_rejected hfilled hcancelled ?_)
      (Input.keepsAudit_refused hevent hrefused)
    exact Event.forall_isClosing (by simp) (by simp) (by simp)
  | @accept signal broker row store carried hevent hsent haccept hrow _ hins =>
    have hlogs : i.logs s = [(.orderCreated, row.localId), (.orderSubmitted, row.localId)] := by
      rw [hrow.localId_eq]
      exact Input.logs_accepted hevent hsent.2.2 haccept
    obtain ⟨hfilled, hcancelled⟩ := hstored row.localId hins.fresh
    rw [hlogs, Input.keepsAudit_submit_iff hevent hsent.2.2 haccept, ← hrow.localId_eq]
    apply (auditMatches_insert h hins (by simp)).trans
    rw [hrow.status_eq]
    apply matchesTrail_submitted_iff hfilled hcancelled
    exact Event.forall_isClosing (by simp) (by simp) (by simp)
  | @cancel signal broker hevent hmapped haccept =>
    obtain ⟨row, hrow, hstatus⟩ := hopen hmapped
    rw [Input.logs_cancelled hevent hmapped haccept]
    refine (auditMatches_update h hrow hstatus (row.withStatus .cancelled i.env.sqliteNow)
      (SQLiteOrderStore.find_setStatus_of_find hrow _ _) (by simp) (some .orderCancelled)
      ?_ ?_).trans (iff_of_true rfl (Input.keepsAudit_cancel hevent))
    · exact Event.forall_isClosing (by simp) (by simp) (by simp)
    · rintro event ⟨⟩
      rfl
  | @replace signal broker newBroker row store hevent hmapped haccept hrow hins =>
    obtain ⟨oldRow, hold, hstatus⟩ := hopen hmapped
    have hfresh : s.orderStore.find row.localId = none := by
      by_contra hsome
      exact SQLiteOrderStore.find_setStatus_ne_none _ _ hsome hins.fresh
    have hlogs : i.logs s = [(.orderReplaced, row.localId), (.orderSubmitted, row.localId)] := by
      rw [hrow.localId_eq]
      exact Input.logs_replaced hevent hmapped haccept
    have hsilent : ∀ l, SilentFor l
        [(Event.orderReplaced, row.localId), (Event.orderSubmitted, row.localId)] := by
      intro l
      exact Event.forall_isClosing (by simp) (by simp) (by simp)
    obtain ⟨hfilled, hcancelled⟩ := hstored row.localId hfresh
    rw [hlogs, Input.keepsAudit_replace_iff hevent hmapped haccept, ← hrow.localId_eq]
    apply (auditMatches_replace h hold hstatus hins hsilent).trans
    rw [hrow.status_eq]
    exact matchesTrail_submitted_iff hfilled hcancelled (hsilent _)
  | @killSwitch reason initiatedBy killed hevent hsub hkills hall =>
    obtain ⟨hread, hkilled⟩ := hall hok
    rw [hread] at hsub
    have hiff : ∀ row ∈ s.orderStore.getOpenOrders none, row ∈ killed ↔ i.Kills row :=
      fun row hrow => ⟨hkills row, hkilled row hrow⟩
    exact iff_of_true
      (auditMatches_kills h hsub.subset _ (mem_logs_killSwitch hevent hiff hsub.subset))
      (Input.keepsAudit_killSwitch hevent)
  | @close report localId status updated hevent hmapped hterminal hstatus hupdated =>
    obtain ⟨row, hrow, hstatus₀⟩ := hopen ((hagree.inverse _ _).mp hmapped)
    have hkeeps : ¬ i.KeepsAudit s := by
      rw [Input.keepsAudit_report_iff hevent, hmapped]
      exact fun hkeeps => Option.some_ne_none _ (hkeeps hterminal)
    obtain rfl := hupdated hok
    rw [Input.logs_terminal hevent hmapped hterminal]
    refine (auditMatches_update h hrow hstatus₀ (row.withStatus status i.env.sqliteNow)
      (SQLiteOrderStore.find_setStatus_of_find hrow _ _) (by simp) none ?_ nofun).trans
      (iff_of_false ?_ hkeeps)
    · intro event _
      simp
    · rcases hstatus with rfl | rfl <;> nofun
  | @fill report localId row applied hevent hmapped hterminal hrow hfault happlied =>
    obtain ⟨row₀, hrow₀, hstatus⟩ := hopen ((hagree.inverse _ _).mp hmapped)
    rw [hrow] at hrow₀
    obtain rfl := Option.some.inj hrow₀
    have hkeeps : i.KeepsAudit s := by
      rw [Input.keepsAudit_report_iff hevent]
      exact fun hyes => absurd (hyes.symm.trans hterminal) (by decide)
    rw [Input.logs_fill hevent hmapped hterminal hrow, Books.fill_orderStore, happlied hok,
      if_pos rfl]
    exact iff_of_true (auditMatches_fill report i.env.sqliteNow h hrow hstatus) hkeeps

/-- **The journal matches the store** along a run from an empty store, in which the store succeeds,
exactly when every event meets the condition. -/
theorem audited_iff_keepsAudit (accountId : String) (riskManager : RiskManager)
    (inputs : List Input)
    (hok : Trajectory.AllSteps dispatch StoreSucceeds
      (createOrderManager accountId .empty riskManager) inputs) :
    Trajectory.EveryState dispatch OrderManager.Audited
        (createOrderManager accountId .empty riskManager) inputs ↔
      Trajectory.AllSteps dispatch (fun s i => i.KeepsAudit s)
        (createOrderManager accountId .empty riskManager) inputs := by
  refine Trajectory.everyState_iff_allSteps
    (I := fun s => Agree s.idMapper s.orderStore ∧ s.LogsStored) ?_ ?_
    ⟨Agree.empty, fun localId _ => ⟨List.not_mem_nil, List.not_mem_nil⟩⟩
    (fun localId row hrow => absurd hrow (Option.some_ne_none row).symm) hok
  · rintro s i ⟨hagree, hstored⟩ hi
    exact ⟨hagree.dispatch hi, hstored.dispatch hagree hi⟩
  · rintro s i ⟨hagree, hstored⟩ hi haudited
    unfold OrderManager.Audited
    rw [dispatch_logged hi]
    exact (dispatch_move s i).auditMatches_iff hi hagree hstored haudited

/-- An order that is submitted and filled is logged as filled. -/
theorem audited_iff_keepsAudit_filled :
    let buy := OMEvent.submitCommand { symbol := "AAPL", side := .buy, targetQuantity := 10 }
    let filled := OMEvent.executionReport
      { brokerOrderId := "B1", symbol := "AAPL", side := .buy, filledQuantity := 10,
        avgFillPrice := 100 }
    Trajectory.EveryState dispatch OrderManager.Audited (createOrderManager "ACC" .empty ⟨{}⟩)
      [buy.quietly "B1", filled.quietly "B2"] :=
  (audited_iff_keepsAudit "ACC" ⟨{}⟩ _ (by decide +kernel)).mpr
    ⟨fun _ _ _ => List.not_mem_nil, fun hterminal => absurd hterminal (by decide), trivial⟩

/-- An order that the broker reports cancelled is stored as such, and nothing is logged. -/
theorem cancelled_report_not_logged :
    let buy := OMEvent.submitCommand { symbol := "AAPL", side := .buy, targetQuantity := 10 }
    let cancelled := OMEvent.executionReport
      { brokerOrderId := "B1", symbol := "AAPL", side := .buy, status := .cancelled }
    let start := createOrderManager "ACC" .empty ⟨{}⟩
    let inputs := [buy.quietly "B1", cancelled.quietly "B2"]
    Trajectory.AllSteps dispatch StoreSucceeds start inputs ∧
      ((Trajectory.run dispatch start inputs).orderStore.find "ORD_0_000000").map
        StoredOrder.status = some .cancelled ∧
      (.orderCancelled, "ORD_0_000000") ∉ (Trajectory.run dispatch start inputs).logged ∧
      ¬ Trajectory.EveryState dispatch OrderManager.Audited start inputs := by
  intro buy cancelled start inputs
  have hstatus : ((Trajectory.run dispatch start inputs).orderStore.find "ORD_0_000000").map
      StoredOrder.status = some .cancelled := by
    decide +kernel
  have hsilent : (.orderCancelled, "ORD_0_000000") ∉
      (Trajectory.run dispatch start inputs).logged := by
    decide +kernel
  refine ⟨by decide +kernel, hstatus, hsilent, fun h => ?_⟩
  obtain ⟨row, hrow, hcancelled⟩ := Option.map_eq_some_iff.mp hstatus
  exact hsilent ((h.last "ORD_0_000000" row hrow).cancelled.mp hcancelled)

end Quarcc
