import QuarccEngine.PaperTrading.Conservation

/-!
# What the gateway has filled and what is booked

When no order is cancelled, the gateway and the order manager have the same orders: those that the
gateway has accepted.  Each side has its own running total of the fills of an order and its own test
for the last fill.  The totals differ by what is in flight, and when nothing is, both tests agree.

The orders are looked at from the outside here, as a function of the broker id; the rows of the
store come in later.
-/

namespace Quarcc

/-- An order that the gateway has accepted, as the order manager has it. -/
structure BookedOrder where
  quantity : ℚ
  filled : ℚ

/-- The accepted orders by their broker ids. -/
abbrev Bookings := BrokerOrderId → Option BookedOrder

namespace Bookings

/-- The gateway has accepted an order. -/
def accept (booked : Bookings) (broker : BrokerOrderId) (quantity : ℚ) : Bookings :=
  Function.update booked broker (some ⟨quantity, 0⟩)

/-- The report of a fill is booked. -/
def fill (booked : Bookings) (r : V1.ExecutionReport) : Bookings :=
  Function.update booked r.brokerOrderId
    ((booked r.brokerOrderId).map fun order =>
      { order with filled := order.filled + r.filledQuantity })

end Bookings

/-- The pending orders and the bookings account for the generated reports, of which those in
`flight` are not booked yet. -/
structure Accounted (pending : AList fun _ : BrokerOrderId => SimulatedOrder)
    (flight generated : List V1.ExecutionReport) (booked : Bookings) : Prop where
  /-- A pending order is booked, and what was generated for it is not all of it. -/
  pending_booked : ∀ broker sim, pending.lookup broker = some sim →
    sim.cumulativeFilled < sim.order.quantity ∧
      sim.cumulativeFilled = filledBy generated broker ∧
      ∃ order, booked broker = some order ∧ order.quantity = sim.order.quantity
  /-- For an order that has left the gateway all was generated. -/
  removed_full : ∀ broker order, booked broker = some order → pending.lookup broker = none →
    filledBy generated broker = order.quantity
  balanced : ∀ broker order, booked broker = some order →
    order.filled + filledBy flight broker = filledBy generated broker
  flight_booked : ∀ r ∈ flight, r.IsFill ∧ booked r.brokerOrderId ≠ none
  generated_booked : ∀ r ∈ generated, booked r.brokerOrderId ≠ none

namespace Accounted

variable {pending : AList fun _ : BrokerOrderId => SimulatedOrder}
  {flight generated : List V1.ExecutionReport} {booked : Bookings} {broker : BrokerOrderId}

/-- Before the first order. -/
lemma start : Accounted ∅ [] [] fun _ => none where
  pending_booked := by
    intro b sim hsim
    cases hsim
  removed_full := by simp
  balanced := by simp
  flight_booked := by simp
  generated_booked := by simp

/-- Not more than the quantity of an order is ever generated. -/
lemma generated_le (h : Accounted pending flight generated booked) {order : BookedOrder}
    (hbooked : booked broker = some order) : filledBy generated broker ≤ order.quantity := by
  cases hsim : pending.lookup broker with
  | none => exact (h.removed_full broker order hbooked hsim).le
  | some sim =>
    obtain ⟨hlt, hfilled, order', hbooked', hquantity⟩ := h.pending_booked broker sim hsim
    rw [hbooked] at hbooked'
    obtain rfl := Option.some.inj hbooked'
    rw [← hfilled, hquantity]
    exact hlt.le

/-- A poll. -/
lemma poll {g : PaperGateway} (h : Accounted g.pendingOrders flight generated booked) (poll : Poll)
    (hnodup : poll.visit.Nodup) :
    Accounted (g.simulateFills poll).1.pendingOrders (flight ++ (g.simulateFills poll).2)
      (generated ++ (g.simulateFills poll).2) booked := by
  have hopen : ∀ b sim, g.pendingOrders.lookup b = some sim →
      sim.cumulativeFilled < sim.order.quantity :=
    fun b sim hsim => (h.pending_booked b sim hsim).1
  obtain ⟨hreports, hle, -⟩ := g.simulateFills_spec poll hnodup hopen
  have hlookup := g.lookup_simulateFills poll hnodup hopen
  have hnew : ∀ r ∈ (g.simulateFills poll).2, booked r.brokerOrderId ≠ none := by
    intro r hr
    obtain ⟨sim, hsim⟩ := Option.ne_none_iff_exists'.mp (hreports r hr).2
    obtain ⟨-, -, order, hbooked, -⟩ := h.pending_booked _ sim hsim
    simp [hbooked]
  constructor
  · intro b sim' hsim'
    rw [hlookup] at hsim'
    obtain ⟨sim, hsim, hsim'⟩ := Option.bind_eq_some_iff.mp hsim'
    obtain ⟨-, hfilled, hbooked⟩ := h.pending_booked b sim hsim
    split_ifs at hsim' with hfull
    obtain rfl := Option.some.inj hsim'
    refine ⟨not_le.mp hfull, ?_, hbooked⟩
    rw [filledBy_append, ← hfilled]
  · intro b order hbooked hnone
    rw [hlookup] at hnone
    rw [filledBy_append]
    cases hsim : g.pendingOrders.lookup b with
    | none =>
      have hzero : filledBy (g.simulateFills poll).2 b = 0 :=
        filledBy_eq_zero fun r hr heq => (hreports r hr).2 (heq ▸ hsim)
      rw [hzero, add_zero]
      exact h.removed_full b order hbooked hsim
    | some sim =>
      obtain ⟨-, hfilled, order', hbooked', hquantity⟩ := h.pending_booked b sim hsim
      rw [hbooked] at hbooked'
      obtain rfl := Option.some.inj hbooked'
      have hbound := hle b sim hsim
      rw [hsim, Option.bind_some] at hnone
      split_ifs at hnone with hfull
      rw [← hfilled, hquantity]
      exact le_antisymm hbound hfull
  · intro b order hbooked
    rw [filledBy_append, filledBy_append, ← h.balanced b order hbooked, add_assoc]
  · intro r hr
    rcases List.mem_append.mp hr with hold | hr
    · exact h.flight_booked r hold
    · exact ⟨(hreports r hr).1, hnew r hr⟩
  · intro r hr
    rcases List.mem_append.mp hr with hold | hr
    · exact h.generated_booked r hold
    · exact hnew r hr

/-- The gateway accepts an order under a broker id that it has not used. -/
lemma accept (h : Accounted pending flight generated booked) (hfresh : booked broker = none)
    {order : V1.Order} (hpos : 0 < order.quantity) (price : ℚ) :
    Accounted (pending.insert broker ⟨order, price, 0⟩) flight generated
      (booked.accept broker order.quantity) := by
  have hne : ∀ b : BrokerOrderId, booked b ≠ none → b ≠ broker := by
    rintro b hb rfl
    exact hb hfresh
  have hkept : ∀ b : BrokerOrderId, booked b ≠ none →
      booked.accept broker order.quantity b ≠ none := by
    intro b hb
    unfold Bookings.accept
    rwa [Function.update_of_ne (hne b hb)]
  have hflight : filledBy flight broker = 0 :=
    filledBy_eq_zero fun r hr => hne _ (h.flight_booked r hr).2
  have hgenerated : filledBy generated broker = 0 :=
    filledBy_eq_zero fun r hr => hne _ (h.generated_booked r hr)
  unfold Bookings.accept at hkept ⊢
  constructor
  · intro b sim hsim
    rw [FiniteMap.lookup_insert_eq] at hsim
    by_cases hb : b = broker
    · rw [if_pos hb] at hsim
      obtain rfl := Option.some.inj hsim
      rw [hb, Function.update_self, hgenerated]
      exact ⟨hpos, rfl, _, rfl, rfl⟩
    · rw [if_neg hb] at hsim
      rw [Function.update_of_ne hb]
      exact h.pending_booked b sim hsim
  · intro b order' hbooked hnone
    rw [FiniteMap.lookup_insert_eq] at hnone
    split_ifs at hnone with hb
    rw [Function.update_of_ne hb] at hbooked
    exact h.removed_full b order' hbooked hnone
  · intro b order' hbooked
    by_cases hb : b = broker
    · rw [hb, Function.update_self] at hbooked
      obtain rfl := Option.some.inj hbooked
      rw [hb, hflight, hgenerated, add_zero]
    · rw [Function.update_of_ne hb] at hbooked
      exact h.balanced b order' hbooked
  · exact fun r hr => ⟨(h.flight_booked r hr).1, hkept _ (h.flight_booked r hr).2⟩
  · exact fun r hr => hkept _ (h.generated_booked r hr)

/-- The next report in flight does not fill its order beyond the quantity. -/
lemma filled_le {r : V1.ExecutionReport} (h : Accounted pending (r :: flight) generated booked)
    {order : BookedOrder} (hbooked : booked r.brokerOrderId = some order) :
    order.filled + r.filledQuantity ≤ order.quantity := by
  have hpos : ∀ r' ∈ flight, 0 < r'.filledQuantity := fun r' hr' =>
    (h.flight_booked r' (List.mem_cons_of_mem r hr')).1.quantity_pos
  have hbalanced := h.balanced _ order hbooked
  have hle := h.generated_le hbooked
  have hnonneg := filledBy_nonneg hpos r.brokerOrderId
  rw [filledBy_cons, if_pos rfl] at hbalanced
  linarith

/-- The next report in flight is booked. -/
lemma report {r : V1.ExecutionReport} (h : Accounted pending (r :: flight) generated booked) :
    Accounted pending flight generated (booked.fill r) := by
  have hsome : ∀ b, booked b ≠ none → booked.fill r b ≠ none := by
    intro b hb
    unfold Bookings.fill
    by_cases hbr : b = r.brokerOrderId
    · rw [hbr] at hb ⊢
      rwa [Function.update_self, Ne, Option.map_eq_none_iff]
    · rwa [Function.update_of_ne hbr]
  have hfill : ∀ b order, booked.fill r b = some order → ∃ order', booked b = some order' ∧
      order'.quantity = order.quantity ∧
      order.filled = order'.filled + if r.brokerOrderId = b then r.filledQuantity else 0 := by
    intro b order hbooked
    unfold Bookings.fill at hbooked
    by_cases hbr : b = r.brokerOrderId
    · rw [hbr, Function.update_self] at hbooked
      obtain ⟨order', hbooked', rfl⟩ := Option.map_eq_some_iff.mp hbooked
      exact ⟨order', hbr ▸ hbooked', rfl, by rw [if_pos hbr.symm]⟩
    · rw [Function.update_of_ne hbr] at hbooked
      exact ⟨order, hbooked, rfl, by rw [if_neg (Ne.symm hbr), add_zero]⟩
  constructor
  · intro b sim hsim
    obtain ⟨hlt, hfilled, order, hbooked, hquantity⟩ := h.pending_booked b sim hsim
    refine ⟨hlt, hfilled, ?_⟩
    obtain ⟨order', hbooked'⟩ := Option.ne_none_iff_exists'.mp (hsome b (by simp [hbooked]))
    obtain ⟨order'', hbooked'', hquantity', -⟩ := hfill b order' hbooked'
    rw [hbooked] at hbooked''
    obtain rfl := Option.some.inj hbooked''
    exact ⟨order', hbooked', hquantity'.symm.trans hquantity⟩
  · intro b order hbooked hnone
    obtain ⟨order', hbooked', hquantity, -⟩ := hfill b order hbooked
    rw [← hquantity]
    exact h.removed_full b order' hbooked' hnone
  · intro b order hbooked
    obtain ⟨order', hbooked', -, hfilled⟩ := hfill b order hbooked
    have hbalanced := h.balanced b order' hbooked'
    rw [filledBy_cons, ← add_assoc] at hbalanced
    rw [hfilled]
    exact hbalanced
  · intro r' hr'
    obtain ⟨hisFill, hbooked⟩ := h.flight_booked r' (List.mem_cons_of_mem r hr')
    exact ⟨hisFill, hsome _ hbooked⟩
  · exact fun r' hr' => hsome _ (h.generated_booked r' hr')

/-- When nothing is in flight the two sides agree on what was filled, and on whether this is all. -/
lemma settled (h : Accounted pending [] generated booked) {order : BookedOrder}
    (hbooked : booked broker = some order) :
    order.filled = filledBy generated broker ∧
      (pending.lookup broker = none ↔ order.quantity ≤ order.filled) := by
  have hfilled := h.balanced broker order hbooked
  rw [filledBy_nil, add_zero] at hfilled
  refine ⟨hfilled, ?_⟩
  constructor
  · intro hnone
    rw [hfilled]
    exact (h.removed_full broker order hbooked hnone).ge
  · intro hfull
    cases hsim : pending.lookup broker with
    | none => rfl
    | some sim =>
      obtain ⟨hlt, hfilled', order', hbooked', hquantity⟩ := h.pending_booked broker sim hsim
      rw [hbooked] at hbooked'
      obtain rfl := Option.some.inj hbooked'
      linarith

end Accounted

end Quarcc
