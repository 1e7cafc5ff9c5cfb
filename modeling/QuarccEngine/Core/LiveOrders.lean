import Mathlib.Logic.Function.Basic
import QuarccEngine.Core.OrderManager

/-!
# What is live at the broker

An order that the gateway has accepted is live at the broker until it is cancelled, replaced,
reported as closed or fully filled.  The engine has no such record of its own: `LiveOrders` keeps
account of it beside the order manager, from the effects at the broker and the reports that are
handled.
-/

namespace Quarcc

/-- An order that is live at the broker. -/
structure LiveOrder where
  /-- The quantity that was ordered. -/
  quantity : ℚ
  /-- The quantity that the reports handled so far have filled. -/
  reported : ℚ
  deriving DecidableEq

/-- The order after a report of a fill; nothing is left of an order that is fully filled. -/
def LiveOrder.fill (order : LiveOrder) (quantity : ℚ) : Option LiveOrder :=
  if order.quantity ≤ order.reported + quantity then none
  else some { order with reported := order.reported + quantity }

/-- The orders that are live at the broker, by their broker ids. -/
abbrev LiveOrders := BrokerOrderId → Option LiveOrder

namespace LiveOrders

/-- What a successful call on the gateway changes. -/
def effect (live : LiveOrders) : GatewayEffect → LiveOrders
  | .opened broker order => Function.update live broker (some ⟨order.quantity, 0⟩)
  | .closed broker => Function.update live broker none
  | .moved broker newBroker newOrder =>
    Function.update (Function.update live broker none) newBroker (some ⟨newOrder.quantity, 0⟩)

/-- What a report changes. -/
def report (live : LiveOrders) (report : V1.ExecutionReport) : LiveOrders :=
  Function.update live report.brokerOrderId
    (if report.isTerminal then none
      else (live report.brokerOrderId).bind fun order => order.fill report.filledQuantity)

/-- What the arrival of an event changes: only the reports tell something about live orders. -/
def event (live : LiveOrders) : OMEvent → LiveOrders
  | .executionReport fill => live.report fill
  | _ => live

/-- What is live after the event of `i` was handled in the state `s`. -/
def after (live : LiveOrders) (s : OrderManager) (i : Input) : LiveOrders :=
  ((effects s i).foldl effect live).event i.event

variable {live : LiveOrders}

/-- A report of an order that is not live changes nothing. -/
lemma report_of_not_live {fill : V1.ExecutionReport} (h : live fill.brokerOrderId = none) :
    live.report fill = live := by
  have hnone : (if fill.isTerminal then none
      else (live fill.brokerOrderId).bind fun order => order.fill fill.filledQuantity) =
        live fill.brokerOrderId := by
    rw [h]
    split_ifs <;> rfl
  unfold report
  rw [hnone]
  exact Function.update_eq_self _ _

/-- Closing several orders. -/
lemma foldl_closed (brokers : List BrokerOrderId) (live : LiveOrders) (broker : BrokerOrderId) :
    (brokers.map GatewayEffect.closed).foldl effect live broker =
      if broker ∈ brokers then none else live broker := by
  induction brokers generalizing live with
  | nil => simp
  | cons first rest ih =>
    have hone : live.effect (.closed first) broker = if broker = first then none else live broker :=
      Function.update_apply live first none broker
    rw [List.map_cons, List.foldl_cons, ih, hone]
    by_cases hb : broker = first
    · simp [hb]
    · simp [hb]

end LiveOrders

/-- The order manager together with what is live at the broker. -/
abbrev Account := OrderManager × LiveOrders

/-- One round of the dispatch loop, with its consequences at the broker. -/
def Account.step (account : Account) (i : Input) : Account :=
  (dispatch account.1 i, account.2.after account.1 i)

/-- An order manager that was just created; none of its orders is live. -/
def Account.start (accountId : String) (store : SQLiteOrderStore) (riskManager : RiskManager) :
    Account :=
  (createOrderManager accountId store riskManager, fun _ => none)

end Quarcc
