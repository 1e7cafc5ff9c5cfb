import QuarccEngine.Library.Trajectory
import QuarccEngine.OrderManager.Moves

/-!
# Commands that fail

A client learns from the promise of its command whether the command has failed.  `Settlement` says
what the handlers do: they fulfil the promise once, and when they fulfil it with an error the books
are as before, except when the gateway has already cancelled or replaced the order and a later call
on the store fails.  The order is unmapped by then.
-/

namespace Quarcc

/-- The promise is fulfilled with an error. -/
def Reply.isError : Reply → Bool
  | .submitted (.error _) | .cancelled (.error _) | .replaced (.error _) => true
  | .submitted (.ok _) | .cancelled (.ok _) | .replaced (.ok _) | .done => false

/-- The event is a submit, cancel or replace command. -/
def Input.IsCommand (i : Input) : Prop :=
  match i.event with
  | .submitCommand _ | .cancelCommand _ | .replaceCommand _ => True
  | _ => False

/-- The handler of the event of `i` fulfils its promise with an error. -/
def Input.Fails (s : OrderManager) (i : Input) : Prop :=
  ∃ reply, (dispatch s i).replies = s.replies ++ [reply] ∧ reply.isError = true

/-- The mapper, the count of open orders, the positions and the rows that were stored are the same
in the two states. -/
structure OrderManager.Unchanged (s s' : OrderManager) : Prop where
  idMapper_eq : s'.idMapper = s.idMapper
  openOrderCount_eq : s'.openOrderCount = s.openOrderCount
  positionKeeper_eq : s'.positionKeeper = s.positionKeeper
  rows : ∀ l row, s.orderStore.find l = some row → s'.orderStore.find l = some row

/-- A command that fails changes nothing. -/
def Input.Atomic (s : OrderManager) (i : Input) : Prop :=
  i.IsCommand → i.Fails s → s.Unchanged (dispatch s i)

/-- The gateway has cancelled or replaced the mapped order of the command, and a later call on the
store fails. -/
def Input.FailsLate (s : OrderManager) (i : Input) : Prop :=
  match i.event with
  | .cancelCommand signal =>
    ∃ broker, s.idMapper.getBrokerId signal.orderId = some broker ∧
      i.gateway.cancelOrder broker = .ok () ∧
        i.env.storeFault (.updateOrderStatus signal.orderId .cancelled) ≠ none
  | .replaceCommand signal =>
    ∃ broker newBroker, s.idMapper.getBrokerId signal.orderId = some broker ∧
      i.gateway.replaceOrder broker (s.orderOfReplace i.env signal) = .ok newBroker ∧
        (i.env.storeFault (.updateOrderStatus signal.orderId .replaced) ≠ none ∨
          ReplacementRefused s i.env (s.orderOfReplace i.env signal).id newBroker)
  | _ => False

/-! ## Replies -/

namespace OrderManager

variable (s : OrderManager) (env : Env) (localId : LocalOrderId)

@[simp] lemma log_replies (event : Event) (data correlationId : String) :
    (s.log event data correlationId).replies = s.replies := rfl

@[simp] lemma setValue_replies (reply : Reply) :
    (s.setValue reply).replies = s.replies ++ [reply] := rfl

@[simp] lemma logFailure_replies (result : Result Unit) :
    (s.logFailure result localId).replies = s.replies := by
  cases result <;> rfl

@[simp] lemma runStatement_replies (result : Result SQLiteOrderStore) :
    (s.runStatement result).1.replies = s.replies := by
  cases result <;> rfl

/-- The reply to a submit command that is rejected. -/
lemma rejectSubmit_replies (e : Error) :
    (s.rejectSubmit env localId e).replies = s.replies ++ [.submitted (.error e)] := by
  unfold rejectSubmit updateOrderStatus
  simp

/-- The reply to a submit command that the gateway has accepted is an error only when the books are
left alone. -/
lemma acceptSubmit_reply (broker : BrokerOrderId) :
    (∃ e, (s.acceptSubmit env localId broker).replies = s.replies ++ [.submitted (.error e)] ∧
      (s.acceptSubmit env localId broker).toBooks = s.toBooks) ∨
    (s.acceptSubmit env localId broker).replies = s.replies ++ [.submitted (.ok localId)] := by
  unfold acceptSubmit
  rcases s.updateOrderStatus_cases env localId .submitted with ⟨-, e, h⟩ | ⟨-, h⟩
  · left
    rw [h]
    exact ⟨e, rfl, rfl⟩
  · right
    rw [h]
    dsimp only [updateBrokerId]
    simp [addMapping, addOpenOrders]

end OrderManager

/-! ## What a command does -/

/-- The books are the same but for a new row. -/
lemma OrderManager.Unchanged.of_inserted {s s' : OrderManager} {row : StoredOrder}
    {store : SQLiteOrderStore} (hins : SQLiteOrderStore.Inserted s.orderStore row store)
    (hbooks : s'.toBooks = { s.toBooks with orderStore := store }) : s.Unchanged s' := by
  constructor
  · rw [hbooks]
  · rw [hbooks]
  · rw [hbooks]
  · intro l other hother
    rw [hbooks]
    exact hins.find_of_find hother

/-- The books are the same. -/
lemma OrderManager.Unchanged.of_books {s s' : OrderManager} (hbooks : s'.toBooks = s.toBooks) :
    s.Unchanged s' := by
  constructor
  · rw [hbooks]
  · rw [hbooks]
  · rw [hbooks]
  · intro l row hrow
    rw [hbooks]
    exact hrow

/-- An order that was mapped is not mapped any more. -/
lemma OrderManager.not_unchanged {s s' : OrderManager} {localId : LocalOrderId}
    {broker : BrokerOrderId} (hmapped : s.idMapper.getBrokerId localId = some broker)
    (hmapper : s'.idMapper = s.idMapper.removeMapping localId) : ¬ s.Unchanged s' := by
  intro h
  have hnone : s'.idMapper.getBrokerId localId = none := by
    rw [hmapper, OrderIdMapper.getBrokerId_removeMapping, if_pos rfl]
  rw [h.idMapper_eq, hmapped] at hnone
  cases hnone

/-- How the promise of a command is fulfilled and what has become of the books. -/
inductive Settlement (s : OrderManager) (i : Input) : Prop
  /-- The command has failed and nothing has changed. -/
  | refused (reply : Reply) (hreply : (dispatch s i).replies = s.replies ++ [reply])
      (herror : reply.isError = true) (hsame : s.Unchanged (dispatch s i))
      (hlate : ¬ i.FailsLate s)
  /-- The command has failed after the gateway had done its part. -/
  | late (reply : Reply) (hreply : (dispatch s i).replies = s.replies ++ [reply])
      (herror : reply.isError = true) (hchanged : ¬ s.Unchanged (dispatch s i))
      (hlate : i.FailsLate s)
  | served (reply : Reply) (hreply : (dispatch s i).replies = s.replies ++ [reply])
      (hok : reply.isError = false) (hlate : ¬ i.FailsLate s)

/-- A submit command that fails has changed nothing but its own row. -/
lemma submit_settlement (s : OrderManager) (i : Input) {signal : V1.StrategySignal}
    (hevent : i.event = .submitCommand signal) : Settlement s i := by
  have hlate : ¬ i.FailsLate s := by
    unfold Input.FailsLate
    rw [hevent]
    exact id
  obtain ⟨createdAt, hts⟩ := timestampToString_ok i.env.now
  have hrun : dispatch s i = (s.handleSubmitCommand i.env signal).run i.gateway.answer := by
    unfold dispatch OrderManager.handle
    rw [hevent]
  rw [s.handleSubmitCommand_eq i.env signal hts] at hrun
  rcases (s.beginSubmit i.env signal).storeOrder_cases i.env
      (s.rowOfSubmit i.env signal createdAt) with ⟨-, e, hstore⟩ | ⟨-, store, hins, hstore⟩
  · -- the row is not stored
    rw [hstore] at hrun
    refine .refused (.submitted (.error e)) ?_ rfl (.of_books ?_) hlate
    · rw [hrun]
      rfl
    · rw [hrun]
      rfl
  rw [hstore] at hrun
  dsimp only at hrun
  generalize hs' : ({ s.beginSubmit i.env signal with orderStore := store } : OrderManager) = s'
    at hrun
  have hbooks : s'.toBooks = { s.toBooks with orderStore := store } := by
    rw [← hs']
    rfl
  have hreplies : s'.replies = s.replies := by
    rw [← hs']
    rfl
  -- the order is rejected by the risk manager or by the gateway
  have hreject : ∀ e, dispatch s i =
      s'.rejectSubmit i.env (s.rowOfSubmit i.env signal createdAt).localId e → Settlement s i := by
    intro e h
    refine .refused (.submitted (.error e)) ?_ rfl ?_ hlate
    · rw [h, s'.rejectSubmit_replies, hreplies]
    · rw [h]
      rcases s'.rejectSubmit_cases i.env (s.rowOfSubmit i.env signal createdAt).localId e with
        ⟨hb, -⟩ | ⟨hb, -⟩
      · refine .of_inserted (hins.setStatus .rejected i.env.sqliteNow) ?_
        rw [hb, hbooks]
        rfl
      · exact .of_inserted hins (hb.trans hbooks)
  cases hrisk : s'.checkSubmit signal with
  | error e =>
    rw [hrisk] at hrun
    exact hreject e hrun
  | ok u =>
    rw [hrisk] at hrun
    simp only [Program.run_call, GatewayAnswers.answer] at hrun
    cases haccept : i.gateway.submitOrder (s.orderOfSubmit i.env signal) with
    | error e =>
      rw [haccept] at hrun
      exact hreject e hrun
    | ok broker =>
      rw [haccept] at hrun
      simp only [Program.run_done] at hrun
      rcases s'.acceptSubmit_reply i.env (s.orderOfSubmit i.env signal).id broker with
        ⟨e, hreply, hb⟩ | hreply
      · refine .refused (.submitted (.error e)) ?_ rfl ?_ hlate
        · rw [hrun, hreply, hreplies]
        · rw [hrun]
          exact .of_inserted hins (hb.trans hbooks)
      · refine .served (.submitted (.ok (s.orderOfSubmit i.env signal).id)) ?_ rfl hlate
        rw [hrun, hreply, hreplies]

/-- A cancel command that fails has changed nothing, unless the order was cancelled by then. -/
lemma cancel_settlement (s : OrderManager) (i : Input) {signal : V1.CancelSignal}
    (hevent : i.event = .cancelCommand signal) : Settlement s i := by
  have hrun : dispatch s i = (s.handleCancelCommand i.env signal).run i.gateway.answer := by
    unfold dispatch OrderManager.handle
    rw [hevent]
  have hlate : i.FailsLate s ↔ ∃ broker, s.idMapper.getBrokerId signal.orderId = some broker ∧
      i.gateway.cancelOrder broker = .ok () ∧
        i.env.storeFault (.updateOrderStatus signal.orderId .cancelled) ≠ none := by
    unfold Input.FailsLate
    rw [hevent]
  unfold OrderManager.handleCancelCommand at hrun
  cases hmapped : s.idMapper.getBrokerId signal.orderId with
  | none =>
    rw [hmapped] at hrun
    refine .refused (.cancelled (.error
      ⟨"Cannot find broker ID for order: " ++ signal.orderId, .error⟩)) ?_ rfl (.of_books ?_) ?_
    · rw [hrun]
      rfl
    · rw [hrun]
      rfl
    · rw [hlate, hmapped]
      rintro ⟨broker, h, -⟩
      cases h
  | some broker =>
    rw [hmapped] at hrun
    simp only [Program.run_call, GatewayAnswers.answer] at hrun
    cases haccept : i.gateway.cancelOrder broker with
    | error e =>
      rw [haccept] at hrun
      refine .refused (.cancelled (.error e)) ?_ rfl (.of_books ?_) ?_
      · rw [hrun]
        rfl
      · rw [hrun]
        rfl
      · rw [hlate, hmapped]
        rintro ⟨broker', h, haccept', -⟩
        obtain rfl := Option.some.inj h
        rw [haccept] at haccept'
        cases haccept'
    | ok u =>
      rw [haccept] at hrun
      simp only [Program.run_done] at hrun
      unfold OrderManager.acceptCancel at hrun
      dsimp only at hrun
      rcases ((s.log .orderCancelled "Cancelled" signal.orderId).removeMapping
          signal.orderId).updateOrderStatus_cases i.env signal.orderId .cancelled with
        ⟨hfault, e, h⟩ | ⟨hfault, h⟩
      · rw [h] at hrun
        refine .late (.cancelled (.error e)) ?_ rfl ?_ ?_
        · rw [hrun]
          rfl
        · apply OrderManager.not_unchanged hmapped
          rw [hrun]
          rfl
        · rw [hlate]
          exact ⟨broker, hmapped, haccept, hfault⟩
      · rw [h] at hrun
        refine .served (.cancelled (.ok ())) ?_ rfl ?_
        · rw [hrun]
          rfl
        · rw [hlate]
          rintro ⟨-, -, -, hfault'⟩
          exact hfault' hfault

/-- The end of a replace command that the gateway has accepted. -/
lemma acceptReplace_settlement {s s' : OrderManager} {i : Input} {signal : V1.ReplaceSignal}
    {broker newBroker : BrokerOrderId} (hevent : i.event = .replaceCommand signal)
    (hmapped : s.idMapper.getBrokerId signal.orderId = some broker)
    (haccept : i.gateway.replaceOrder broker (s.orderOfReplace i.env signal) = .ok newBroker)
    (hbooks : s'.toBooks = s.toBooks) (hreplies : s'.replies = s.replies)
    (hrun : dispatch s i = s'.acceptReplace i.env signal.orderId
      (s.orderOfReplace i.env signal).id (s.orderOfReplace i.env signal) newBroker) :
    Settlement s i := by
  obtain ⟨createdAt, hts⟩ := timestampToString_ok i.env.now
  have hlate : i.FailsLate s ↔
      (i.env.storeFault (.updateOrderStatus signal.orderId .replaced) ≠ none ∨
        ReplacementRefused s i.env (s.orderOfReplace i.env signal).id newBroker) := by
    unfold Input.FailsLate
    rw [hevent]
    constructor
    · rintro ⟨broker', newBroker', h, haccept', hfails⟩
      rw [hmapped] at h
      obtain rfl := Option.some.inj h
      rw [haccept] at haccept'
      obtain rfl := Except.ok.inj haccept'
      exact hfails
    · exact fun hfails => ⟨broker, newBroker, hmapped, haccept, hfails⟩
  have hmapper : (s'.removeMapping signal.orderId).idMapper =
      s.idMapper.removeMapping signal.orderId := by
    unfold OrderManager.removeMapping
    rw [hbooks]
  have hstore : (s'.removeMapping signal.orderId).orderStore = s.orderStore := by
    unfold OrderManager.removeMapping
    rw [hbooks]
  have hreplies' : (s'.removeMapping signal.orderId).replies = s.replies := hreplies
  unfold OrderManager.acceptReplace at hrun
  generalize s'.removeMapping signal.orderId = s₁ at hrun hmapper hstore hreplies'
  rcases s₁.updateOrderStatus_cases i.env signal.orderId .replaced with ⟨hfault, e, h⟩ | ⟨hfault, h⟩
  · dsimp only at hrun
    rw [h] at hrun
    refine .late (.replaced (.error e)) ?_ rfl ?_ (hlate.mpr (Or.inl hfault))
    · rw [hrun]
      exact congrArg (· ++ [Reply.replaced (.error e)]) hreplies'
    · apply OrderManager.not_unchanged hmapped
      rw [hrun]
      exact hmapper
  dsimp only at hrun
  rw [h, hts] at hrun
  dsimp only at hrun
  rcases OrderManager.storeOrder_cases
      { s₁ with orderStore := s₁.orderStore.setStatus signal.orderId .replaced i.env.sqliteNow }
      i.env
      { order := s.orderOfReplace i.env signal, localId := (s.orderOfReplace i.env signal).id
        brokerId := some newBroker, status := .submitted, createdAt := createdAt } with
    ⟨hrefused, e, hinsert⟩ | ⟨hfault', store, hins, hinsert⟩
  · rw [hinsert] at hrun
    dsimp only at hrun hrefused
    rw [hstore] at hrefused
    refine .late (.replaced (.error e)) ?_ rfl ?_
      (hlate.mpr (Or.inr (replacementRefused_of_base hrefused)))
    · rw [hrun]
      exact congrArg (· ++ [Reply.replaced (.error e)]) hreplies'
    · apply OrderManager.not_unchanged hmapped
      rw [hrun]
      exact hmapper
  · rw [hinsert] at hrun
    dsimp only at hrun hins
    rw [hstore] at hins
    refine .served (.replaced (.ok (s.orderOfReplace i.env signal).id)) ?_ rfl ?_
    · rw [hrun]
      exact congrArg (· ++ [Reply.replaced (.ok (s.orderOfReplace i.env signal).id)]) hreplies'
    · -- the insertion shows that nothing stood in the way of the new row
      rw [hlate]
      rintro (hfault'' | hfault'' | hused | hcarried)
      · exact hfault'' hfault
      · exact hfault'' hfault'
      · exact SQLiteOrderStore.find_setStatus_ne_none _ _ hused hins.fresh
      · exact hins.broker_fresh (cStr newBroker) rfl
          ((SQLiteOrderStore.carries_setStatus signal.orderId .replaced _ _).mpr hcarried)

/-- A replace command that fails has changed nothing, unless the order was replaced by then. -/
lemma replace_settlement (s : OrderManager) (i : Input) {signal : V1.ReplaceSignal}
    (hevent : i.event = .replaceCommand signal) : Settlement s i := by
  have hrun : dispatch s i = (s.handleReplaceCommand i.env signal).run i.gateway.answer := by
    unfold dispatch OrderManager.handle
    rw [hevent]
  cases hmapped : s.idMapper.getBrokerId signal.orderId with
  | none =>
    unfold OrderManager.handleReplaceCommand at hrun
    dsimp only at hrun
    rw [hmapped] at hrun
    refine .refused (.replaced (.error
      ⟨"Cannot find broker ID for order: " ++ signal.orderId, .error⟩)) ?_ rfl (.of_books ?_) ?_
    · rw [hrun]
      rfl
    · rw [hrun]
      rfl
    · unfold Input.FailsLate
      rw [hevent]
      rintro ⟨broker, newBroker, h, -⟩
      rw [hmapped] at h
      cases h
  | some broker =>
    rw [s.handleReplaceCommand_eq i.env signal hmapped] at hrun
    simp only [Program.run_call, GatewayAnswers.answer] at hrun
    cases haccept : i.gateway.replaceOrder broker (s.orderOfReplace i.env signal) with
    | error e =>
      rw [haccept] at hrun
      refine .refused (.replaced (.error e)) ?_ rfl (.of_books ?_) ?_
      · rw [hrun]
        rfl
      · rw [hrun]
        rfl
      · unfold Input.FailsLate
        rw [hevent]
        rintro ⟨broker', newBroker, h, haccept', -⟩
        rw [hmapped] at h
        obtain rfl := Option.some.inj h
        rw [haccept] at haccept'
        cases haccept'
    | ok newBroker =>
      rw [haccept] at hrun
      have hbooks : (s.beginReplace i.env signal).toBooks = s.toBooks := rfl
      have hreplies : (s.beginReplace i.env signal).replies = s.replies := rfl
      exact acceptReplace_settlement hevent hmapped haccept hbooks hreplies hrun

/-- **Every command is settled once**, and a command that fails early changes nothing. -/
theorem command_settlement {s : OrderManager} {i : Input} (hcommand : i.IsCommand) :
    Settlement s i := by
  unfold Input.IsCommand at hcommand
  cases hevent : i.event with
  | submitCommand signal => exact submit_settlement s i hevent
  | cancelCommand signal => exact cancel_settlement s i hevent
  | replaceCommand signal => exact replace_settlement s i hevent
  | _ =>
    rw [hevent] at hcommand
    exact hcommand.elim

/-- **A command that fails changes nothing** exactly when it does not fail after the gateway has
cancelled or replaced the order. -/
theorem command_atomic_iff (s : OrderManager) (i : Input) : i.Atomic s ↔ ¬ i.FailsLate s := by
  by_cases hcommand : i.IsCommand
  · rcases command_settlement (s := s) hcommand with
      ⟨-, -, -, hsame, hlate⟩ | ⟨reply, hreply, herror, hchanged, hlate⟩ |
      ⟨reply, hreply, hok, hlate⟩
    · exact ⟨fun _ => hlate, fun _ _ _ => hsame⟩
    · refine ⟨fun hatomic => ?_, fun h => absurd hlate h⟩
      exact absurd (hatomic hcommand ⟨_, hreply, herror⟩) hchanged
    · refine ⟨fun _ => hlate, fun _ _ hfails => ?_⟩
      obtain ⟨reply', hreply', herror⟩ := hfails
      rw [hreply] at hreply'
      obtain rfl := List.singleton_inj.mp (List.append_cancel_left hreply')
      rw [hok] at herror
      cases herror
  · refine ⟨fun _ hlate => ?_, fun _ h => absurd h hcommand⟩
    unfold Input.IsCommand at hcommand
    unfold Input.FailsLate at hlate
    cases hevent : i.event <;> rw [hevent] at hcommand hlate
    all_goals first | exact hlate | exact hcommand trivial

/-- An order manager with one open order, after the submit command `signal` was accepted as `B1`. -/
def afterSubmit : OrderManager :=
  Trajectory.run dispatch (createOrderManager "ACC" .empty ⟨{}⟩)
    [(OMEvent.submitCommand { symbol := "AAPL", side := .buy, targetQuantity := 10 }).quietly "B1"]

/-- A cancel command for that order, with a store that cannot update its status. -/
def cancelUnrecorded : Input where
  event := .cancelCommand { orderId := "ORD_0_000000" }
  env :=
    { Env.quiet with
      storeFault := fun call =>
        if call = .updateOrderStatus "ORD_0_000000" .cancelled then some (.step "disk I/O error")
        else none }
  gateway := .accepting ""

/-- The cancel command fails, and the order is no longer mapped. -/
theorem cancel_fails_late :
    afterSubmit.idMapper.getBrokerId "ORD_0_000000" = some "B1" ∧
      (dispatch afterSubmit cancelUnrecorded).idMapper.getBrokerId "ORD_0_000000" = none ∧
      ¬ cancelUnrecorded.Atomic afterSubmit := by
  have hbefore : afterSubmit.idMapper.getBrokerId "ORD_0_000000" = some "B1" := by
    decide +kernel
  have hafter : (dispatch afterSubmit cancelUnrecorded).idMapper.getBrokerId "ORD_0_000000" =
      none := by
    decide +kernel
  refine ⟨hbefore, hafter, fun hatomic => ?_⟩
  have hlate : cancelUnrecorded.FailsLate afterSubmit := ⟨"B1", hbefore, rfl, by decide⟩
  have hcommand : cancelUnrecorded.IsCommand := trivial
  rcases command_settlement (s := afterSubmit) hcommand with
    ⟨-, -, -, -, hearly⟩ | ⟨reply, hreply, herror, -, -⟩ | ⟨-, -, -, hearly⟩
  · exact hearly hlate
  · have hmapper := (hatomic hcommand ⟨reply, hreply, herror⟩).idMapper_eq
    rw [hmapper, hbefore] at hafter
    cases hafter
  · exact hearly hlate

end Quarcc
