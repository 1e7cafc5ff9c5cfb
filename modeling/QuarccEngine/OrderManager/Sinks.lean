import QuarccEngine.Core.OrderManager

/-!
# The sinks of an order manager

Clients receive ticks, bars and fills through functions that are installed in the order manager.
The handlers never change which functions are installed, and they call no others.  The commands of
the clients call none at all.
-/

namespace Quarcc

/-- The installed sinks. -/
structure Sinks where
  tick : Option SinkId
  bar : Option SinkId
  fill : Option SinkId

/-- The sink that was called was installed. -/
def Sinks.Calls (sinks : Sinks) : SinkCall → Prop
  | .tick sink _ => sinks.tick = some sink
  | .bar sink _ => sinks.bar = some sink
  | .fill sink _ => sinks.fill = some sink

namespace OrderManager

variable (s : OrderManager) (env : Env) (localId : LocalOrderId)

/-- The installed sinks of the order manager. -/
def sinks : Sinks := ⟨s.tickSink, s.barSink, s.fillSink⟩

/-- The installed sinks and the calls of sinks made so far. -/
def outlets : Sinks × List SinkCall := (s.sinks, s.sinkCalls)

/-! ## Commands -/

@[simp] lemma log_outlets (event : Event) (data correlationId : String) :
    (s.log event data correlationId).outlets = s.outlets := rfl

@[simp] lemma setValue_outlets (reply : Reply) : (s.setValue reply).outlets = s.outlets := rfl

@[simp] lemma addMapping_outlets (broker : BrokerOrderId) :
    (s.addMapping localId broker).outlets = s.outlets := rfl

@[simp] lemma removeMapping_outlets : (s.removeMapping localId).outlets = s.outlets := rfl

@[simp] lemma addOpenOrders_outlets (n : ℤ) : (s.addOpenOrders n).outlets = s.outlets := rfl

@[simp] lemma generate_outlets : (s.generate env).2.outlets = s.outlets := rfl

@[simp] lemma onFill_outlets (fill : V1.ExecutionReport) :
    (s.onFill fill).outlets = s.outlets := rfl

@[simp] lemma logFailure_outlets (result : Result Unit) :
    (s.logFailure result localId).outlets = s.outlets := by
  cases result <;> rfl

@[simp] lemma runStatement_outlets (result : Result SQLiteOrderStore) :
    (s.runStatement result).1.outlets = s.outlets := by
  cases result <;> rfl

@[simp] lemma storeOrder_outlets (stored : StoredOrder) :
    (s.storeOrder env stored).1.outlets = s.outlets :=
  s.runStatement_outlets _

@[simp] lemma updateOrderStatus_outlets (status : OrderStatus) :
    (s.updateOrderStatus env localId status).1.outlets = s.outlets :=
  s.runStatement_outlets _

@[simp] lemma updateBrokerId_outlets (broker : BrokerOrderId) :
    (s.updateBrokerId env localId broker).1.outlets = s.outlets :=
  s.runStatement_outlets _

@[simp] lemma applyFill_outlets (quantity price : ℚ) (status : OrderStatus) :
    (s.applyFill env localId quantity price status).1.outlets = s.outlets :=
  s.runStatement_outlets _

@[simp] lemma getOrder_outlets : (s.getOrder env localId).1.outlets = s.outlets := by
  unfold getOrder
  split <;> rfl

@[simp] lemma getOpenOrders_outlets : (s.getOpenOrders env).1.outlets = s.outlets := by
  unfold getOpenOrders
  dsimp only
  split <;> rfl

lemma rejectSubmit_outlets (e : Error) :
    (s.rejectSubmit env localId e).outlets = s.outlets := by
  unfold rejectSubmit
  simp

lemma acceptSubmit_outlets (broker : BrokerOrderId) :
    (s.acceptSubmit env localId broker).outlets = s.outlets := by
  have hupdate : (s.updateOrderStatus env localId .submitted).1.outlets = s.outlets :=
    s.updateOrderStatus_outlets env localId _
  unfold acceptSubmit
  generalize s.updateOrderStatus env localId .submitted = update at hupdate ⊢
  obtain ⟨s₁, e | u⟩ := update
  · exact hupdate
  · simpa using hupdate

lemma acceptCancel_outlets : (s.acceptCancel env localId).outlets = s.outlets := by
  have hupdate : (((s.log .orderCancelled "Cancelled" localId).removeMapping
      localId).updateOrderStatus env localId .cancelled).1.outlets = s.outlets :=
    OrderManager.updateOrderStatus_outlets _ env localId _
  unfold acceptCancel
  dsimp only
  generalize ((s.log .orderCancelled "Cancelled" localId).removeMapping
    localId).updateOrderStatus env localId .cancelled = update at hupdate ⊢
  obtain ⟨s₁, e | u⟩ := update
  · exact hupdate
  · simpa using hupdate

lemma killOrder_outlets : (s.killOrder env localId).outlets = s.outlets := by
  have hupdate : (s.updateOrderStatus env localId .cancelled).1.outlets = s.outlets :=
    s.updateOrderStatus_outlets env localId _
  unfold killOrder
  generalize s.updateOrderStatus env localId .cancelled = update at hupdate ⊢
  obtain ⟨s₁, e | u⟩ := update
  · exact hupdate
  · exact hupdate

lemma acceptReplace_outlets (newId : LocalOrderId) (newOrder : V1.Order)
    (newBroker : BrokerOrderId) :
    (s.acceptReplace env localId newId newOrder newBroker).outlets = s.outlets := by
  have hupdate : ((s.removeMapping localId).updateOrderStatus env localId .replaced).1.outlets =
      s.outlets :=
    OrderManager.updateOrderStatus_outlets _ env localId _
  unfold acceptReplace
  dsimp only
  generalize (s.removeMapping localId).updateOrderStatus env localId .replaced = update
    at hupdate ⊢
  obtain ⟨s₁, e | u⟩ := update
  · exact hupdate
  dsimp only at hupdate ⊢
  cases timestampToString env.now with
  | error what => exact hupdate
  | ok createdAt =>
    dsimp only
    have hstore : (s₁.storeOrder env
        { order := newOrder, localId := newId, brokerId := some newBroker, status := .submitted
          createdAt := createdAt }).1.outlets = s₁.outlets :=
      s₁.storeOrder_outlets env _
    generalize s₁.storeOrder env _ = stored at hstore ⊢
    obtain ⟨s₂, e | u⟩ := stored
    · exact hstore.trans hupdate
    · exact hstore.trans hupdate

/-- The submit command calls no sink. -/
lemma handleSubmitCommand_outlets (answer : (c : GatewayCall) → c.Answer)
    (signal : V1.StrategySignal) :
    ((s.handleSubmitCommand env signal).run answer).outlets = s.outlets := by
  unfold handleSubmitCommand
  dsimp only
  generalize hcreated : OrderManager.log _ .orderCreated _ _ = s₁
  have hcreated' : s₁.outlets = s.outlets := by
    rw [← hcreated]
    rfl
  cases timestampToString env.now with
  | error what => exact hcreated'
  | ok createdAt =>
    dsimp only
    generalize hstored : s₁.storeOrder env _ = stored
    have hstored' : stored.1.outlets = s₁.outlets := by
      rw [← hstored]
      exact s₁.storeOrder_outlets env _
    obtain ⟨s₂, e | u⟩ := stored
    · exact hstored'.trans hcreated'
    dsimp only at hstored' ⊢
    split
    · exact (s₂.rejectSubmit_outlets env _ _).trans (hstored'.trans hcreated')
    · rw [Program.run_call]
      split
      · exact (s₂.rejectSubmit_outlets env _ _).trans (hstored'.trans hcreated')
      · exact (s₂.acceptSubmit_outlets env _ _).trans (hstored'.trans hcreated')

/-- The cancel command calls no sink. -/
lemma handleCancelCommand_outlets (answer : (c : GatewayCall) → c.Answer)
    (signal : V1.CancelSignal) :
    ((s.handleCancelCommand env signal).run answer).outlets = s.outlets := by
  unfold handleCancelCommand
  split
  · rfl
  · rw [Program.run_call]
    split
    · exact s.acceptCancel_outlets env _
    · rfl

/-- The replace command calls no sink. -/
lemma handleReplaceCommand_outlets (answer : (c : GatewayCall) → c.Answer)
    (signal : V1.ReplaceSignal) :
    ((s.handleReplaceCommand env signal).run answer).outlets = s.outlets := by
  unfold handleReplaceCommand
  dsimp only
  split
  · rfl
  · rw [Program.run_call]
    split
    · rfl
    · exact acceptReplace_outlets _ env _ _ _ _

/-- The kill switch calls no sink. -/
lemma handleCancelAllCommand_outlets (answer : (c : GatewayCall) → c.Answer)
    (reason initiatedBy : String) :
    ((s.handleCancelAllCommand env reason initiatedBy).run answer).outlets = s.outlets := by
  have hloop : ∀ (orders : List StoredOrder) (s₁ : OrderManager),
      ((cancelOpenOrders env orders s₁).run answer).outlets = s₁.outlets := by
    intro orders
    induction orders with
    | nil =>
      intro s₁
      rfl
    | cons stored rest ih =>
      intro s₁
      unfold cancelOpenOrders
      split
      · exact ih s₁
      · rw [Program.run_call]
        split
        · exact (ih _).trans (s₁.killOrder_outlets env _)
        · exact ih _
  unfold handleCancelAllCommand
  dsimp only
  rw [hloop, getOpenOrders_outlets, log_outlets]

/-! ## Reports and market data -/

/-- The sinks are left installed, and only they are called. -/
def CallsInstalled (s s' : OrderManager) : Prop :=
  s'.sinks = s.sinks ∧
    ∃ calls, s'.sinkCalls = s.sinkCalls ++ calls ∧ ∀ call ∈ calls, s.sinks.Calls call

variable {s}

/-- Nothing is called. -/
lemma CallsInstalled.of_outlets {s' : OrderManager} (h : s'.outlets = s.outlets) :
    s.CallsInstalled s' := by
  obtain ⟨hsinks, hcalls⟩ := Prod.mk.inj h
  exact ⟨hsinks, [], by rw [hcalls, List.append_nil], by simp⟩

/-- The fill sink is called at the end. -/
lemma CallsInstalled.notifyFillSink {s' : OrderManager} (h : s'.outlets = s.outlets)
    (fill : V1.ExecutionReport) : s.CallsInstalled (s'.notifyFillSink fill) := by
  obtain ⟨hsinks, hcalls⟩ := Prod.mk.inj h
  have hfill : s'.fillSink = s.fillSink := congrArg Sinks.fill hsinks
  unfold OrderManager.notifyFillSink
  split
  next sink hsink =>
    refine ⟨hsinks, [.fill sink fill], ?_, ?_⟩
    · exact congrArg (· ++ [SinkCall.fill sink fill]) hcalls
    · intro call hcall
      obtain rfl := List.mem_singleton.mp hcall
      exact hfill.symm.trans hsink
  · exact .of_outlets h

/-- What a report does to the sinks. -/
lemma handleFill_callsInstalled (env : Env) (fill : V1.ExecutionReport) :
    s.CallsInstalled (s.handleFill env fill) := by
  unfold handleFill
  split
  · exact .of_outlets rfl
  next localId _ =>
    split_ifs
    · unfold closeOrder
      dsimp only
      refine .notifyFillSink ?_ fill
      rw [removeMapping_outlets, logFailure_outlets, updateOrderStatus_outlets]
    · have hread := s.getOrder_outlets env localId
      generalize s.getOrder env localId = read at hread ⊢
      obtain ⟨s₁, e | stored⟩ := read
      · exact .of_outlets hread
      · dsimp only at hread ⊢
        unfold recordFill
        dsimp only
        refine .notifyFillSink ?_ fill
        split_ifs <;> simpa using hread

end OrderManager

/-- **The handlers call the installed sinks** and no others, and leave them installed. -/
theorem dispatch_callsInstalled (s : OrderManager) (i : Input) :
    s.CallsInstalled (dispatch s i) := by
  unfold dispatch OrderManager.handle
  cases i.event with
  | bar bar =>
    dsimp only [Program.run_done]
    unfold OrderManager.handleBar
    split
    next sink hsink =>
      refine ⟨rfl, [.bar sink bar], rfl, fun call hcall => ?_⟩
      obtain rfl := List.mem_singleton.mp hcall
      exact hsink
    · exact .of_outlets rfl
  | tick tick =>
    dsimp only [Program.run_done]
    unfold OrderManager.handleTick
    split
    next sink hsink =>
      refine ⟨rfl, [.tick sink tick], rfl, fun call hcall => ?_⟩
      obtain rfl := List.mem_singleton.mp hcall
      exact hsink
    · exact .of_outlets rfl
  | executionReport report => exact OrderManager.handleFill_callsInstalled i.env report
  | submitCommand signal => exact .of_outlets (s.handleSubmitCommand_outlets i.env _ signal)
  | cancelCommand signal => exact .of_outlets (s.handleCancelCommand_outlets i.env _ signal)
  | replaceCommand signal => exact .of_outlets (s.handleReplaceCommand_outlets i.env _ signal)
  | cancelAllCommand reason initiatedBy =>
    exact .of_outlets (s.handleCancelAllCommand_outlets i.env _ reason initiatedBy)

end Quarcc
