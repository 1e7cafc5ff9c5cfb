import QuarccEngine.OrderManager.LifeCycle
import QuarccEngine.OrderManager.Replies

/-!
# Answers stay true

A strategy learns of its orders by the values of the promises: the id of an order that was accepted,
or that an order was cancelled or replaced.  `OMEvent.Holds` says what such an answer means for the
rows of the order store.  An answer holds when it is given, and since the rows only evolve along the
diagram it holds ever after.
-/

namespace Quarcc

/-! ## What an answer says -/

/-- The row is that of an order which a strategy has asked for. -/
structure StoredOrder.IsFor (row : StoredOrder) (strategyId symbol : String) (side : V1.Side)
    (quantity : ℚ) : Prop where
  strategyId_eq : row.order.strategyId = strategyId
  symbol_eq : row.order.symbol = symbol
  side_eq : row.order.side = side
  quantity_eq : row.order.quantity = quantity

/-- What the answer to a command says about the order store.  An error says nothing. -/
def OMEvent.Holds (store : SQLiteOrderStore) : OMEvent → Reply → Prop
  | submitCommand signal, .submitted (.ok localId) =>
    ∃ row, store.find localId = some row ∧
      row.IsFor signal.strategyId signal.symbol signal.side signal.targetQuantity
  | cancelCommand signal, .cancelled (.ok ()) =>
    ∃ row, store.find signal.orderId = some row ∧ row.status = .cancelled
  | replaceCommand signal, .replaced (.ok localId) =>
    (∃ row, store.find localId = some row ∧
      row.IsFor signal.strategyId signal.symbol signal.side signal.targetQuantity) ∧
    ∃ row, store.find signal.orderId = some row ∧ row.status = .replaced
  | _, _ => True

/-- The id of the order that an answer names. -/
def Reply.orderId : Reply → Option LocalOrderId
  | submitted (.ok localId) | replaced (.ok localId) => some localId
  | submitted (.error _) | replaced (.error _) | cancelled _ | done => none

/-! ## Evolving rows -/

namespace SQLiteOrderStore

variable {store store' : SQLiteOrderStore}

/-- An order that was asked for stays in the store. -/
lemma Evolves.isFor (h : store.Evolves store') {localId : LocalOrderId}
    {strategyId symbol : String} {side : V1.Side} {quantity : ℚ}
    (hrow : ∃ row, store.find localId = some row ∧ row.IsFor strategyId symbol side quantity) :
    ∃ row, store'.find localId = some row ∧ row.IsFor strategyId symbol side quantity := by
  obtain ⟨row, hrow, hfor⟩ := hrow
  obtain ⟨row', hrow', hevolves⟩ := h.keeps localId row hrow
  refine ⟨row', hrow', ?_⟩
  constructor
  · rw [hevolves.order_eq, hfor.strategyId_eq]
  · rw [hevolves.order_eq, hfor.symbol_eq]
  · rw [hevolves.order_eq, hfor.side_eq]
  · rw [hevolves.order_eq, hfor.quantity_eq]

/-- A status from which the diagram leads nowhere stays. -/
lemma Evolves.status (h : store.Evolves store') {localId : LocalOrderId} {status : OrderStatus}
    (hlast : status.next = [])
    (hrow : ∃ row, store.find localId = some row ∧ row.status = status) :
    ∃ row, store'.find localId = some row ∧ row.status = status := by
  obtain ⟨row, hrow, rfl⟩ := hrow
  obtain ⟨row', hrow', hevolves⟩ := h.keeps localId row hrow
  refine ⟨row', hrow', ?_⟩
  rcases hevolves.status_next with rfl | hnext
  · rfl
  · rw [hlast] at hnext
    cases hnext

end SQLiteOrderStore

/-- An answer that holds once holds ever after. -/
lemma OMEvent.Holds.evolves {store store' : SQLiteOrderStore} {event : OMEvent} {reply : Reply}
    (h : event.Holds store reply) (hevolves : store.Evolves store') :
    event.Holds store' reply := by
  unfold OMEvent.Holds at h ⊢
  split at h
  · exact hevolves.isFor h
  · exact hevolves.status rfl h
  · exact ⟨hevolves.isFor h.1, hevolves.status rfl h.2⟩
  · trivial

/-! ## The commands -/

/-- The order that the answer names was not there before. -/
def Reply.NamesNew (store : SQLiteOrderStore) (reply : Reply) : Prop :=
  ∀ localId ∈ reply.orderId, store.find localId = none

/-- The answer to a command, which holds when it is given. -/
structure Answered (s s' : OrderManager) (event : OMEvent) (reply : Reply) : Prop where
  replies_eq : s'.replies = s.replies ++ [reply]
  takes : event.Takes reply
  holds : event.Holds s'.orderStore reply
  namesNew : reply.NamesNew s.orderStore

/-- The row of a new order is found under the id of the order. -/
lemma SQLiteOrderStore.Inserted.finds_new {store store' : SQLiteOrderStore} {row : StoredOrder}
    {order : V1.Order} {status : OrderStatus} {broker : Option BrokerOrderId}
    (hins : SQLiteOrderStore.Inserted store row store') (hrow : row.IsNew order status broker) :
    ∃ row, store'.find order.id = some row ∧
      row.IsFor order.strategyId order.symbol order.side order.quantity := by
  refine ⟨row, by rw [hins.find, if_pos hrow.localId_eq.symm], ?_⟩
  constructor <;> rw [hrow.order_eq]

/-- After the gateway has accepted an order, its row is in the store. -/
lemma acceptSubmit_finds (s : OrderManager) (env : Env) {base : SQLiteOrderStore}
    {row : StoredOrder} {order : V1.Order}
    (hins : SQLiteOrderStore.Inserted base row s.orderStore)
    (hrow : row.IsNew order .pendingSubmission none) (broker : BrokerOrderId) :
    ∃ row, (s.acceptSubmit env order.id broker).orderStore.find order.id = some row ∧
      row.IsFor order.strategyId order.symbol order.side order.quantity := by
  rcases s.acceptSubmit_cases env hins hrow broker with
    ⟨-, hb, -⟩ | ⟨row', store, carried, hrow', hins', hb, -⟩
  · rw [show (s.acceptSubmit env order.id broker).orderStore = s.orderStore from
      congrArg Books.orderStore hb]
    exact hins.finds_new hrow
  · rw [show (s.acceptSubmit env order.id broker).orderStore = store from
      congrArg Books.orderStore hb]
    exact hins'.finds_new hrow'

/-- The answer to a submit command. -/
lemma submit_answered (s : OrderManager) (env : Env) (gateway : GatewayAnswers)
    (signal : V1.StrategySignal) :
    ∃ reply, Answered s (dispatch s ⟨.submitCommand signal, env, gateway⟩) (.submitCommand signal)
      reply := by
  obtain ⟨createdAt, hts⟩ := timestampToString_ok env.now
  have hrun : dispatch s ⟨.submitCommand signal, env, gateway⟩ =
      (s.handleSubmitCommand env signal).run gateway.answer := rfl
  have herror : ∀ (s' : OrderManager) (e : Error),
      s'.replies = s.replies ++ [.submitted (.error e)] →
      ∃ reply, Answered s s' (.submitCommand signal) reply :=
    fun s' e h => ⟨_, h, trivial, trivial, by simp [Reply.NamesNew, Reply.orderId]⟩
  rw [hrun, s.handleSubmitCommand_eq env signal hts]
  rcases (s.beginSubmit env signal).storeOrder_cases env (s.rowOfSubmit env signal createdAt)
    with ⟨-, e, hstore⟩ | ⟨-, store, hins, hstore⟩
  · rw [hstore]
    exact herror _ e rfl
  rw [hstore]
  dsimp only
  generalize hs' : ({ s.beginSubmit env signal with orderStore := store } : OrderManager) = s'
  have hreplies : s'.replies = s.replies := by
    rw [← hs']
    rfl
  have hins' : SQLiteOrderStore.Inserted s.orderStore (s.rowOfSubmit env signal createdAt)
      s'.orderStore := by
    rw [← hs']
    exact hins
  cases s'.checkSubmit signal with
  | error e => exact herror _ e (hreplies ▸ s'.rejectSubmit_replies env _ e)
  | ok u =>
    simp only [Program.run_call, GatewayAnswers.answer]
    cases gateway.submitOrder (s.orderOfSubmit env signal) with
    | error e => exact herror _ e (hreplies ▸ s'.rejectSubmit_replies env _ e)
    | ok broker =>
      rcases s'.acceptSubmit_reply env (s.orderOfSubmit env signal).id broker with
        ⟨e, hreply, -⟩ | hreply
      · exact herror _ e (hreplies ▸ hreply)
      · refine ⟨.submitted (.ok (s.orderOfSubmit env signal).id), hreplies ▸ hreply, trivial,
          acceptSubmit_finds s' env hins' ⟨rfl, rfl, rfl, rfl, rfl, rfl⟩ broker, ?_⟩
        rintro localId hmem
        obtain rfl : (s.orderOfSubmit env signal).id = localId := Option.some.inj hmem
        exact hins.fresh

/-- The answer to a cancel command. -/
lemma cancel_answered (s : OrderManager) (hlive : OnlyLive s.idMapper s.orderStore) (env : Env)
    (gateway : GatewayAnswers) (signal : V1.CancelSignal) :
    ∃ reply, Answered s (dispatch s ⟨.cancelCommand signal, env, gateway⟩) (.cancelCommand signal)
      reply := by
  have hrun : dispatch s ⟨.cancelCommand signal, env, gateway⟩ =
      (s.handleCancelCommand env signal).run gateway.answer := rfl
  have hnamesNew : ∀ result, (Reply.cancelled result).NamesNew s.orderStore := by
    simp [Reply.NamesNew, Reply.orderId]
  rw [hrun]
  unfold OrderManager.handleCancelCommand
  cases hmapped : s.idMapper.getBrokerId signal.orderId with
  | none => exact ⟨_, rfl, trivial, trivial, hnamesNew _⟩
  | some broker =>
    simp only [Program.run_call, GatewayAnswers.answer]
    cases gateway.cancelOrder broker with
    | error e => exact ⟨_, rfl, trivial, trivial, hnamesNew _⟩
    | ok u =>
      obtain ⟨row, hrow, -⟩ := hlive signal.orderId broker hmapped
      simp only [Program.run_done]
      unfold OrderManager.acceptCancel
      dsimp only
      rcases ((s.log .orderCancelled "Cancelled" signal.orderId).removeMapping
          signal.orderId).updateOrderStatus_cases env signal.orderId .cancelled with
        ⟨-, e, h⟩ | ⟨-, h⟩
      · rw [h]
        exact ⟨.cancelled (.error e), rfl, trivial, trivial, hnamesNew _⟩
      · rw [h]
        refine ⟨.cancelled (.ok ()), rfl, trivial, ?_, hnamesNew _⟩
        refine ⟨row.withStatus .cancelled env.sqliteNow, ?_, rfl⟩
        exact (SQLiteOrderStore.find_setStatus_of_find hrow .cancelled env.sqliteNow _).trans
          (if_pos rfl)

/-- The end of a replace command that the gateway has accepted. -/
lemma acceptReplace_answered (s : OrderManager) (env : Env) {signal : V1.ReplaceSignal}
    (newOrder : V1.Order) (hnew : newOrder.strategyId = signal.strategyId ∧
      newOrder.symbol = signal.symbol ∧ newOrder.side = signal.side ∧
      newOrder.quantity = signal.targetQuantity) {row : StoredOrder}
    (hrow : s.orderStore.find signal.orderId = some row) (newBroker : BrokerOrderId) :
    ∃ reply, Answered s (s.acceptReplace env signal.orderId newOrder.id newOrder newBroker)
      (.replaceCommand signal) reply := by
  have herror : ∀ (s' : OrderManager) (e : Error),
      s'.replies = s.replies ++ [.replaced (.error e)] →
      ∃ reply, Answered s s' (.replaceCommand signal) reply :=
    fun s' e h => ⟨_, h, trivial, trivial, by simp [Reply.NamesNew, Reply.orderId]⟩
  unfold OrderManager.acceptReplace
  dsimp only
  rcases (s.removeMapping signal.orderId).updateOrderStatus_cases env signal.orderId .replaced with
    ⟨-, e, h⟩ | ⟨-, h⟩
  · rw [h]
    exact herror _ e rfl
  obtain ⟨createdAt, hts⟩ := timestampToString_ok env.now
  rw [h, hts]
  dsimp only
  rcases OrderManager.storeOrder_cases
      { s.removeMapping signal.orderId with
        orderStore := (s.removeMapping signal.orderId).orderStore.setStatus signal.orderId
          .replaced env.sqliteNow }
      env
      { order := newOrder, localId := newOrder.id, brokerId := some newBroker
        status := .submitted, createdAt := createdAt } with
    ⟨-, e, hstore⟩ | ⟨-, store, hins, hstore⟩
  · rw [hstore]
    exact herror _ e rfl
  rw [hstore]
  have hold : (s.orderStore.setStatus signal.orderId .replaced env.sqliteNow).find signal.orderId =
      some (row.withStatus .replaced env.sqliteNow) :=
    (SQLiteOrderStore.find_setStatus_of_find hrow .replaced env.sqliteNow _).trans (if_pos rfl)
  refine ⟨.replaced (.ok newOrder.id), rfl, trivial, ⟨?_, ?_⟩, ?_⟩
  · have hrow : StoredOrder.IsNew
        { order := newOrder, localId := newOrder.id, brokerId := some newBroker
          status := .submitted, createdAt := createdAt } newOrder .submitted (some newBroker) :=
      ⟨rfl, rfl, rfl, rfl, rfl, rfl⟩
    obtain ⟨row', hrow', hfor⟩ := hins.finds_new hrow.bound
    obtain ⟨hstrategy, hsymbol, hside, hquantity⟩ := hnew
    exact ⟨row', hrow', hfor.strategyId_eq.trans hstrategy, hfor.symbol_eq.trans hsymbol,
      hfor.side_eq.trans hside, hfor.quantity_eq.trans hquantity⟩
  · exact ⟨_, hins.find_of_find hold, rfl⟩
  · rintro localId hmem
    obtain rfl : newOrder.id = localId := Option.some.inj hmem
    have hfresh : (s.orderStore.setStatus signal.orderId .replaced env.sqliteNow).find newOrder.id =
        none := hins.fresh
    rw [SQLiteOrderStore.find_setStatus] at hfresh
    split_ifs at hfresh
    · exact Option.map_eq_none_iff.mp hfresh
    · exact hfresh

/-- The answer to a replace command. -/
lemma replace_answered (s : OrderManager) (hlive : OnlyLive s.idMapper s.orderStore) (env : Env)
    (gateway : GatewayAnswers) (signal : V1.ReplaceSignal) :
    ∃ reply, Answered s (dispatch s ⟨.replaceCommand signal, env, gateway⟩)
      (.replaceCommand signal) reply := by
  have hrun : dispatch s ⟨.replaceCommand signal, env, gateway⟩ =
      (s.handleReplaceCommand env signal).run gateway.answer := rfl
  have herror : ∀ (s' : OrderManager) (e : Error),
      s'.replies = s.replies ++ [.replaced (.error e)] →
      ∃ reply, Answered s s' (.replaceCommand signal) reply :=
    fun s' e h => ⟨_, h, trivial, trivial, by simp [Reply.NamesNew, Reply.orderId]⟩
  rw [hrun]
  cases hmapped : s.idMapper.getBrokerId signal.orderId with
  | none =>
    unfold OrderManager.handleReplaceCommand
    dsimp only
    rw [hmapped]
    exact herror _ _ rfl
  | some broker =>
    rw [s.handleReplaceCommand_eq env signal hmapped]
    simp only [Program.run_call, GatewayAnswers.answer]
    cases gateway.replaceOrder broker (s.orderOfReplace env signal) with
    | error e => exact herror _ e rfl
    | ok newBroker =>
      obtain ⟨row, hrow, -⟩ := hlive signal.orderId broker hmapped
      obtain ⟨reply, hanswered⟩ := acceptReplace_answered (s.beginReplace env signal) env
        (s.orderOfReplace env signal) ⟨rfl, rfl, rfl, rfl⟩ hrow newBroker
      exact ⟨reply, hanswered.replies_eq, hanswered.takes, hanswered.holds, hanswered.namesNew⟩

/-- **Every command is answered, and the answer holds.** -/
lemma command_answered (s : OrderManager) (hlive : OnlyLive s.idMapper s.orderStore)
    {event : OMEvent} (env : Env) (gateway : GatewayAnswers) (h : event.hasPromise = true) :
    ∃ reply, Answered s (dispatch s ⟨event, env, gateway⟩) event reply := by
  cases event with
  | submitCommand signal => exact submit_answered s env gateway signal
  | cancelCommand signal => exact cancel_answered s hlive env gateway signal
  | replaceCommand signal => exact replace_answered s hlive env gateway signal
  | cancelAllCommand reason initiatedBy =>
    obtain ⟨reply, hreply, htakes⟩ := command_replies s env gateway h
    cases reply with
    | done => exact ⟨.done, hreply, trivial, trivial, by simp [Reply.NamesNew, Reply.orderId]⟩
    | _ => exact htakes.elim
  | bar bar => cases h
  | tick tick => cases h
  | executionReport fill => cases h

/-- An order that an answer names is in the store. -/
lemma OMEvent.Holds.named {store : SQLiteOrderStore} {event : OMEvent} {reply : Reply}
    (h : event.Holds store reply) (htakes : event.Takes reply) {localId : LocalOrderId}
    (hid : localId ∈ reply.orderId) : store.find localId ≠ none := by
  have hsome : ∀ {P : StoredOrder → Prop},
      (∃ row, store.find localId = some row ∧ P row) → store.find localId ≠ none := by
    rintro P ⟨row, hrow, -⟩
    rw [hrow]
    exact Option.some_ne_none row
  cases event with
  | submitCommand signal =>
    match reply, htakes with
    | .submitted (.error e), _ => cases hid
    | .submitted (.ok l), _ =>
      obtain rfl : l = localId := Option.some.inj hid
      exact hsome h
  | replaceCommand signal =>
    match reply, htakes with
    | .replaced (.error e), _ => cases hid
    | .replaced (.ok l), _ =>
      obtain rfl : l = localId := Option.some.inj hid
      exact hsome h.1
  | cancelCommand signal =>
    match reply, htakes with
    | .cancelled result, _ => cases hid
  | cancelAllCommand reason initiatedBy =>
    match reply, htakes with
    | .done, _ => cases hid
  | bar bar => exact htakes.elim
  | tick tick => exact htakes.elim
  | executionReport fill => exact htakes.elim

/-! ## Runs -/

/-- The commands have been answered in their order, the answers hold, and no two of them name the
same order. -/
structure Answers (s : OrderManager) (commands : List OMEvent) : Prop where
  guarded : Guarded s.idMapper s.orderStore
  onlyLive : OnlyLive s.idMapper s.orderStore
  hold : List.Forall₂ (fun event reply => event.Takes reply ∧ event.Holds s.orderStore reply)
    commands s.replies
  named : ∀ localId ∈ s.replies.filterMap Reply.orderId, s.orderStore.find localId ≠ none
  nodup : (s.replies.filterMap Reply.orderId).Nodup

namespace Answers

variable {s : OrderManager} {commands : List OMEvent}

/-- **Step lemma.**  The answers go on holding, and a command gets one more. -/
lemma dispatch (h : Answers s commands) (i : Input) :
    Answers (Quarcc.dispatch s i) (commands ++ [i.event].filter OMEvent.hasPromise) := by
  obtain ⟨honly, hevolves⟩ := OnlyLive.of_move h.guarded h.onlyLive (dispatch_move s i)
  have hguarded := (h.guarded.of_move (dispatch_move s i)).1
  have hkept : List.Forall₂
      (fun event reply => event.Takes reply ∧ event.Holds (Quarcc.dispatch s i).orderStore reply)
      commands s.replies :=
    h.hold.imp fun _ _ hreply => ⟨hreply.1, hreply.2.evolves hevolves⟩
  have hstays : ∀ localId, s.orderStore.find localId ≠ none →
      (Quarcc.dispatch s i).orderStore.find localId ≠ none := by
    intro localId hfind
    obtain ⟨row, hrow⟩ := Option.ne_none_iff_exists'.mp hfind
    obtain ⟨row', hrow', -⟩ := hevolves.keeps localId row hrow
    rw [hrow']
    exact Option.some_ne_none row'
  obtain ⟨event, env, gateway⟩ := i
  cases hpromise : event.hasPromise with
  | false =>
    have hsame := dispatch_replies s env gateway hpromise
    rw [List.filter_cons_of_neg (by simp [hpromise]), List.filter_nil, List.append_nil]
    refine ⟨hguarded, honly, ?_, ?_, ?_⟩
    · rw [hsame]
      exact hkept
    · rw [hsame]
      exact fun localId hmem => hstays localId (h.named localId hmem)
    · rw [hsame]
      exact h.nodup
  | true =>
    obtain ⟨reply, hanswered⟩ := command_answered s h.onlyLive env gateway hpromise
    have hids : (s.replies ++ [reply]).filterMap Reply.orderId =
        s.replies.filterMap Reply.orderId ++ reply.orderId.toList := by
      rw [List.filterMap_append]
      cases hid : reply.orderId <;> simp [hid]
    rw [List.filter_cons_of_pos hpromise, List.filter_nil]
    refine ⟨hguarded, honly, ?_, ?_, ?_⟩
    · rw [hanswered.replies_eq]
      exact List.rel_append hkept (.cons ⟨hanswered.takes, hanswered.holds⟩ .nil)
    · rw [hanswered.replies_eq, hids]
      intro localId hmem
      rcases List.mem_append.mp hmem with hold | hnew
      · exact hstays localId (h.named localId hold)
      · exact hanswered.holds.named hanswered.takes (Option.mem_toList.mp hnew)
    · rw [hanswered.replies_eq, hids]
      refine List.nodup_append'.mpr ⟨h.nodup, Option.toList_nodup _, ?_⟩
      intro localId hold hnew
      exact h.named localId hold (hanswered.namesNew localId (Option.mem_toList.mp hnew))

end Answers

/-- **Answers stay true.**  In every run, whatever fails on the way, the promises of the commands
are fulfilled in the order of the commands; at its end each order that an answer has named is in the
store as the strategy has asked for it, an order whose cancellation was confirmed is cancelled, one
whose replacement was confirmed is replaced; and no two answers name the same order. -/
theorem answers_stay_true (accountId : String) (store : SQLiteOrderStore)
    (riskManager : RiskManager) (inputs : List Input) :
    List.Forall₂
      (fun event reply => event.Takes reply ∧
        event.Holds (Trajectory.run dispatch (createOrderManager accountId store riskManager)
          inputs).orderStore reply)
      ((inputs.map Input.event).filter OMEvent.hasPromise)
      (Trajectory.run dispatch (createOrderManager accountId store riskManager) inputs).replies ∧
    ((Trajectory.run dispatch (createOrderManager accountId store riskManager)
      inputs).replies.filterMap Reply.orderId).Nodup := by
  have hrun : ∀ (s : OrderManager) (commands : List OMEvent), Answers s commands →
      Answers (Trajectory.run dispatch s inputs)
        (commands ++ (inputs.map Input.event).filter OMEvent.hasPromise) := by
    induction inputs with
    | nil => exact fun s commands h => (List.append_nil commands).symm ▸ h
    | cons i inputs ih =>
      intro s commands h
      have hrest := ih _ _ (h.dispatch i)
      rw [List.append_assoc] at hrest
      rw [← List.filter_append] at hrest
      exact hrest
  have hstart : Answers (createOrderManager accountId store riskManager) [] :=
    ⟨.start store, by simp [OnlyLive, createOrderManager], .nil, by simp [createOrderManager],
      List.nodup_nil⟩
  have hanswers := hrun _ [] hstart
  exact ⟨hanswers.hold, hanswers.nodup⟩

end Quarcc
