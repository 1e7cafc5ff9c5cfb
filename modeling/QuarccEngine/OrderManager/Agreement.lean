import QuarccEngine.Library.Trajectory
import QuarccEngine.OrderManager.Moves

/-!
# The mapper and the store agree

The orders that are live at the broker are recorded twice: in the two maps of the id mapper and in
the rows of the store with a broker id and the status `SUBMITTED` or `PARTIALLY_FILLED`.  The
invariant `Agree` says that the two records are the same up to the zero bytes of the broker ids: the
mapper keeps an id as a whole, its row what was bound of it.  It holds in every state of a run in
which all calls on the store succeed.  That the broker ids are fresh and the local ids unique need
not be assumed: a repeated id makes a call on the store fail.
-/

namespace Quarcc

/-! ## Live orders -/

/-- The statuses of an order that is live at the broker. -/
def OrderStatus.isLive : OrderStatus → Bool
  | .submitted | .partiallyFilled => true
  | _ => false

/-- The broker id of the row, when its order is live. -/
def StoredOrder.liveBroker (row : StoredOrder) : Option BrokerOrderId :=
  if row.status.isLive then row.brokerId else none

namespace SQLiteOrderStore

variable {s store : SQLiteOrderStore} {row : StoredOrder}

/-- The broker id of an order that is live according to the store. -/
def liveBroker (s : SQLiteOrderStore) (localId : LocalOrderId) : Option BrokerOrderId :=
  (s.find localId).bind StoredOrder.liveBroker

/-- What the store records as live, in terms of the rows. -/
lemma liveBroker_eq_some_iff {localId : LocalOrderId} {broker : BrokerOrderId} :
    s.liveBroker localId = some broker ↔
      ∃ row, s.find localId = some row ∧ row.brokerId = some broker ∧
        row.status.isLive = true := by
  unfold liveBroker StoredOrder.liveBroker
  constructor
  · intro h
    obtain ⟨row, hrow, hlive⟩ := Option.bind_eq_some_iff.mp h
    by_cases hstatus : row.status.isLive = true
    · rw [if_pos hstatus] at hlive
      exact ⟨row, hrow, hlive, hstatus⟩
    · rw [if_neg hstatus] at hlive
      cases hlive
  · rintro ⟨row, hrow, hbroker, hstatus⟩
    rw [hrow, Option.bind_some, if_pos hstatus, hbroker]

/-- A status that is not live ends the order. -/
lemma liveBroker_setStatus {status : OrderStatus} (h : status.isLive = false)
    (localId l : LocalOrderId) (now : String) :
    (s.setStatus localId status now).liveBroker l =
      if l = localId then none else s.liveBroker l := by
  unfold liveBroker
  rw [find_setStatus]
  by_cases hl : l = localId
  · rw [if_pos hl, if_pos hl]
    cases s.find l with
    | none => rfl
    | some row => simp [StoredOrder.liveBroker, StoredOrder.withStatus, h]
  · rw [if_neg hl, if_neg hl]

/-- A fill that does not complete a live order keeps it live. -/
lemma liveBroker_addFill_partial {localId : LocalOrderId} {broker : BrokerOrderId}
    (h : s.liveBroker localId = some broker) (l : LocalOrderId) (quantity price : ℚ)
    (now : String) :
    (s.addFill localId quantity price .partiallyFilled now).liveBroker l = s.liveBroker l := by
  obtain ⟨row, hrow, hbroker, -⟩ := liveBroker_eq_some_iff.mp h
  by_cases hl : l = localId
  · rw [hl, h]
    unfold liveBroker
    rw [find_addFill, if_pos rfl, hrow]
    exact hbroker
  · unfold liveBroker
    rw [find_addFill, if_neg hl]

/-- A fill that completes an order ends it. -/
lemma liveBroker_addFill_filled (localId l : LocalOrderId) (quantity price : ℚ) (now : String) :
    (s.addFill localId quantity price .filled now).liveBroker l =
      if l = localId then none else s.liveBroker l := by
  unfold liveBroker
  rw [find_addFill]
  by_cases hl : l = localId
  · rw [if_pos hl, if_pos hl]
    cases s.find l <;> rfl
  · rw [if_neg hl, if_neg hl]

/-- An inserted row is live when its status says so. -/
lemma Inserted.liveBroker (h : Inserted s row store) (l : LocalOrderId) :
    store.liveBroker l = if l = row.localId then row.liveBroker else s.liveBroker l := by
  unfold SQLiteOrderStore.liveBroker
  rw [h.find]
  by_cases hl : l = row.localId
  · rw [if_pos hl, if_pos hl, Option.bind_some]
  · rw [if_neg hl, if_neg hl]

/-- A row with a new primary key is not live yet. -/
lemma Inserted.liveBroker_fresh (h : Inserted s row store) : s.liveBroker row.localId = none := by
  unfold SQLiteOrderStore.liveBroker
  rw [h.fresh, Option.bind_none]

end SQLiteOrderStore

/-! ## The invariant -/

/-- The mapper and the store agree on the orders that are live. -/
structure Agree (mapper : OrderIdMapper) (store : SQLiteOrderStore) : Prop where
  /-- The two maps are inverse to each other. -/
  inverse : mapper.Inverse
  /-- The mapped orders are the live ones, and carry what was bound of their broker ids. -/
  mapped : ∀ localId, (mapper.getBrokerId localId).map cStr = store.liveBroker localId
  /-- Every order with an open status is live and carries its broker id. -/
  open_live : ∀ localId row, store.find localId = some row → row.status.isOpen = true →
    row.liveBroker ≠ none

namespace Agree

variable {mapper : OrderIdMapper} {store store' : SQLiteOrderStore} {localId : LocalOrderId}
  {broker : BrokerOrderId} {row : StoredOrder}

/-- An order manager that was just created on an empty store. -/
lemma empty : Agree {} .empty where
  inverse := OrderIdMapper.inverse_empty
  mapped := by simp [SQLiteOrderStore.liveBroker]
  open_live := by simp

/-- A mapped order is live. -/
lemma live (h : Agree mapper store) (hmapped : mapper.getBrokerId localId = some broker) :
    store.liveBroker localId = some (cStr broker) := by
  rw [← h.mapped, hmapped, Option.map_some]

/-- The orders that are not mapped are those that are not live. -/
lemma getBrokerId_eq_none_iff (h : Agree mapper store) :
    mapper.getBrokerId localId = none ↔ store.liveBroker localId = none := by
  rw [← h.mapped, Option.map_eq_none_iff]

/-- The mapped broker ids are carried by the rows, as they were bound. -/
lemma carries (h : Agree mapper store) (hmapped : mapper.getLocalId broker = some localId) :
    store.Carries (cStr broker) := by
  rw [h.inverse] at hmapped
  obtain ⟨row, hrow, hbroker, -⟩ := SQLiteOrderStore.liveBroker_eq_some_iff.mp (h.live hmapped)
  exact SQLiteOrderStore.carries_iff.mpr ⟨localId, row, hrow, hbroker⟩

/-- The orders that `get_open_orders` returns are mapped. -/
lemma mapped_of_open (h : Agree mapper store) {readLimit : Option ℕ}
    (hrow : row ∈ store.getOpenOrders readLimit) : mapper.getBrokerId row.localId ≠ none := by
  obtain ⟨hmem, hopen⟩ := SQLiteOrderStore.mem_getOpenOrders hrow
  have hfind := SQLiteOrderStore.find_of_mem hmem
  have hlive := h.open_live row.localId row hfind hopen
  rw [Ne, h.getBrokerId_eq_none_iff]
  unfold SQLiteOrderStore.liveBroker
  rwa [hfind]

/-- Unmapping an order and giving it a final status. -/
lemma finish (h : Agree mapper store) {status : OrderStatus} (hlive : status.isLive = false)
    (hopen : status.isOpen = false) (localId : LocalOrderId) (now : String) :
    Agree (mapper.removeMapping localId) (store.setStatus localId status now) where
  inverse := h.inverse.removeMapping localId
  mapped := by
    intro l
    rw [OrderIdMapper.getBrokerId_removeMapping, SQLiteOrderStore.liveBroker_setStatus hlive,
      apply_ite (Option.map cStr), Option.map_none, h.mapped]
  open_live := by
    intro l row hrow hstatus
    rw [SQLiteOrderStore.find_setStatus] at hrow
    by_cases hl : l = localId
    · rw [if_pos hl] at hrow
      obtain ⟨row₀, -, rfl⟩ := Option.map_eq_some_iff.mp hrow
      simp [StoredOrder.withStatus, hopen] at hstatus
    · rw [if_neg hl] at hrow
      exact h.open_live l row hrow hstatus

/-- Storing an order that is neither open nor live. -/
lemma insert_closed (h : Agree mapper store)
    (hins : SQLiteOrderStore.Inserted store row store') (hlive : row.liveBroker = none)
    (hopen : row.status.isOpen = false) : Agree mapper store' where
  inverse := h.inverse
  mapped := by
    intro l
    rw [h.mapped, hins.liveBroker]
    by_cases hl : l = row.localId
    · rw [if_pos hl, hl, hlive, hins.liveBroker_fresh]
    · rw [if_neg hl]
  open_live := by
    intro l row' hrow hstatus
    rw [hins.find] at hrow
    by_cases hl : l = row.localId
    · rw [if_pos hl] at hrow
      obtain rfl := Option.some.inj hrow
      simp [hopen] at hstatus
    · rw [if_neg hl] at hrow
      exact h.open_live l row' hrow hstatus

/-- Storing and mapping a live order. -/
lemma insert_live (h : Agree mapper store)
    (hins : SQLiteOrderStore.Inserted store row store')
    (hlive : row.liveBroker = some (cStr broker)) :
    Agree (mapper.addMapping row.localId broker) store' where
  inverse := by
    have hlocal : mapper.getBrokerId row.localId = none := by
      rw [h.getBrokerId_eq_none_iff, hins.liveBroker_fresh]
    have hcarried : row.brokerId = some (cStr broker) := by
      unfold StoredOrder.liveBroker at hlive
      split_ifs at hlive
      exact hlive
    have hbroker : mapper.getLocalId broker = none := by
      cases hb : mapper.getLocalId broker with
      | none => rfl
      | some l => exact absurd (h.carries hb) (hins.broker_fresh (cStr broker) hcarried)
    exact h.inverse.addMapping hlocal hbroker
  mapped := by
    intro l
    rw [OrderIdMapper.getBrokerId_addMapping, hins.liveBroker, apply_ite (Option.map cStr),
      Option.map_some, h.mapped, hlive]
  open_live := by
    intro l row' hrow hstatus
    rw [hins.find] at hrow
    by_cases hl : l = row.localId
    · rw [if_pos hl] at hrow
      obtain rfl := Option.some.inj hrow
      simp [hlive]
    · rw [if_neg hl] at hrow
      exact h.open_live l row' hrow hstatus

/-- A fill that completes an order, which is then unmapped. -/
lemma complete (h : Agree mapper store) (localId : LocalOrderId) (quantity price : ℚ)
    (now : String) :
    Agree (mapper.removeMapping localId) (store.addFill localId quantity price .filled now) where
  inverse := h.inverse.removeMapping localId
  mapped := by
    intro l
    rw [OrderIdMapper.getBrokerId_removeMapping, SQLiteOrderStore.liveBroker_addFill_filled,
      apply_ite (Option.map cStr), Option.map_none, h.mapped]
  open_live := by
    intro l row hrow hstatus
    rw [SQLiteOrderStore.find_addFill] at hrow
    by_cases hl : l = localId
    · rw [if_pos hl] at hrow
      obtain ⟨row₀, -, rfl⟩ := Option.map_eq_some_iff.mp hrow
      simp [StoredOrder.withFill, OrderStatus.isOpen] at hstatus
    · rw [if_neg hl] at hrow
      exact h.open_live l row hrow hstatus

/-- A fill of a mapped order that does not complete it. -/
lemma progress (h : Agree mapper store) (hmapped : mapper.getLocalId broker = some localId)
    (quantity price : ℚ) (now : String) :
    Agree mapper (store.addFill localId quantity price .partiallyFilled now) where
  inverse := h.inverse
  mapped := by
    intro l
    rw [h.inverse] at hmapped
    rw [SQLiteOrderStore.liveBroker_addFill_partial (h.live hmapped), h.mapped]
  open_live := by
    intro l row hrow hstatus
    rw [SQLiteOrderStore.find_addFill] at hrow
    by_cases hl : l = localId
    · rw [h.inverse] at hmapped
      obtain ⟨row₁, hrow₁, hbroker, -⟩ :=
        SQLiteOrderStore.liveBroker_eq_some_iff.mp (h.live hmapped)
      rw [if_pos hl, hl, hrow₁] at hrow
      obtain rfl := Option.some.inj hrow
      have hlive : (row₁.withFill quantity price .partiallyFilled now).liveBroker =
          row₁.brokerId := rfl
      rw [hlive, hbroker]
      simp
    · rw [if_neg hl] at hrow
      exact h.open_live l row hrow hstatus

/-- What the kill switch does to the orders that it kills. -/
lemma kills {b : Books} (h : Agree b.idMapper b.orderStore) (now : String)
    (killed : List LocalOrderId) :
    Agree (killed.foldl (Books.kill now) b).idMapper
      (killed.foldl (Books.kill now) b).orderStore := by
  induction killed generalizing b with
  | nil => exact h
  | cons localId killed ih => exact ih (h.finish rfl rfl localId now)

/-- **Step lemma.**  A move without a failure of the store keeps the agreement. -/
theorem of_move {s : OrderManager} {i : Input} {ok : Prop} {done : List GatewayEffect} {b : Books}
    (h : Agree s.idMapper s.orderStore) (hok : ok) (hmove : Move s i ok done b) :
    Agree b.idMapper b.orderStore := by
  cases hmove with
  | stay _ => exact h
  | refuse _ _ hrow hstatus hstore =>
    obtain rfl : _ = OrderStatus.rejected := hstatus.resolve_right fun h => h.2 hok
    refine h.insert_closed hstore ?_ ?_
    · simp [StoredOrder.liveBroker, hrow.brokerId_eq]
    · rw [hrow.status_eq]
      rfl
  | accept _ _ _ hrow hcarried hstore =>
    obtain rfl := hcarried.resolve_right fun h => h.2.1 hok
    apply h.insert_live hstore
    simp [StoredOrder.liveBroker, hrow.status_eq, hrow.brokerId_eq, OrderStatus.isLive]
  | cancel _ _ _ => exact h.finish rfl rfl _ _
  | skip _ hfail | lose _ _ _ _ _ _ hfail | unmap _ _ hfail | forget _ _ _ _ hfail
  | retire _ _ _ _ hfail =>
    exact absurd hok hfail
  | replace _ _ _ hrow hstore =>
    apply (h.finish rfl rfl _ _).insert_live hstore
    simp [StoredOrder.liveBroker, hrow.status_eq, hrow.brokerId_eq, OrderStatus.isLive]
  | killSwitch _ _ _ _ => exact h.kills _ _
  | close _ _ _ hstatus hupdated =>
    rw [hupdated hok]
    rcases hstatus with rfl | rfl
    · exact h.finish rfl rfl _ _
    · exact h.finish rfl rfl _ _
  | @fill report localId row applied _ hmapped _ _ _ happlied =>
    rw [happlied hok]
    unfold Books.fill Books.fillStatus
    dsimp only [if_true]
    by_cases hfull : row.order.quantity ≤ row.filledQuantity + report.filledQuantity
    · rw [if_pos hfull, if_pos hfull]
      exact h.complete localId _ _ _
    · rw [if_neg hfull, if_neg hfull]
      exact h.progress hmapped _ _ _

end Agree

/-! ## Runs -/

/-- The agreement as one reads it off the two structures. -/
structure MapperMatchesStore (s : OrderManager) : Prop where
  /-- The two maps are mutually inverse. -/
  inverse : ∀ localId broker, s.idMapper.getBrokerId localId = some broker ↔
    s.idMapper.getLocalId broker = some localId
  /-- An order is mapped to a broker id exactly when its row carries it and has a live status. -/
  mapped_iff : ∀ localId broker, s.idMapper.getBrokerId localId = some broker ↔
    ∃ row, s.orderStore.find localId = some row ∧ row.brokerId = some broker ∧
      (row.status = .submitted ∨ row.status = .partiallyFilled)
  /-- No row is left in `PENDING_SUBMISSION`. -/
  not_pending : ∀ row ∈ s.orderStore.rows, row.status ≠ .pendingSubmission
  /-- `get_open_orders` lists exactly the mapped orders. -/
  open_orders : ∀ localId, localId ∈ (s.orderStore.getOpenOrders none).map StoredOrder.localId ↔
    ∃ broker, s.idMapper.getBrokerId localId = some broker

/-- A live order has one of two statuses. -/
lemma OrderStatus.isLive_iff {status : OrderStatus} :
    status.isLive = true ↔ status = .submitted ∨ status = .partiallyFilled := by
  cases status <;> simp [OrderStatus.isLive]

/-- A live order has an open status. -/
lemma OrderStatus.isOpen_of_isLive {status : OrderStatus} (h : status.isLive = true) :
    status.isOpen = true := by
  rcases OrderStatus.isLive_iff.mp h with rfl | rfl <;> rfl

/-- When every call on the store succeeds, the broker ids that are given out are mapped. -/
lemma Move.noZeroBytes_iff {s : OrderManager} {i : Input} {ok : Prop} {done : List GatewayEffect}
    {b : Books} (hmove : Move s i ok done b) (hok : ok) (h : s.idMapper.NoZeroBytes) :
    b.idMapper.NoZeroBytes ↔ ∀ broker ∈ done.filterMap GatewayEffect.issued, NoZeroByte broker := by
  refine ⟨fun hwhole => ?_, hmove.noZeroBytes h⟩
  cases hmove with
  | skip _ hfail | lose _ _ _ _ _ _ hfail | unmap _ _ hfail | forget _ _ _ _ hfail
  | retire _ _ _ _ hfail =>
    exact absurd hok hfail
  | accept _ _ _ _ _ _ =>
    have hbroker := hwhole.of_addMapping
    simpa [GatewayEffect.issued] using hbroker
  | replace _ _ _ _ _ =>
    have hbroker := hwhole.of_addMapping
    simpa [GatewayEffect.issued] using hbroker
  | stay _ | refuse _ _ _ _ _ | cancel _ _ _ | close _ _ _ _ _ | fill _ _ _ _ _ _ =>
    simp [GatewayEffect.issued]
  | killSwitch _ _ _ _ =>
    simp [issued_killEffects]

/-- Under the invariant the records agree as a whole when no mapped broker id has a zero byte. -/
lemma Agree.matches_iff {s : OrderManager} (h : Agree s.idMapper s.orderStore) :
    MapperMatchesStore s ↔ s.idMapper.NoZeroBytes := by
  constructor
  · intro hmatches localId broker hmapped
    obtain ⟨row, hrow, hbroker, -⟩ := (hmatches.mapped_iff localId broker).mp hmapped
    obtain ⟨row', hrow', hbroker', -⟩ :=
      SQLiteOrderStore.liveBroker_eq_some_iff.mp (h.live hmapped)
    obtain rfl := Option.some.inj (hrow.symm.trans hrow')
    rw [Option.some.inj (hbroker.symm.trans hbroker')]
    exact noZeroByte_cStr broker
  intro hplain
  refine ⟨fun localId broker => (h.inverse localId broker).symm, ?_, ?_, ?_⟩
  · intro localId broker
    have hmapped : s.idMapper.getBrokerId localId = s.orderStore.liveBroker localId := by
      rw [← h.mapped]
      cases hb : s.idMapper.getBrokerId localId with
      | none => rfl
      | some b => rw [Option.map_some, (hplain localId b hb).cStr_eq]
    rw [hmapped, SQLiteOrderStore.liveBroker_eq_some_iff]
    simp only [OrderStatus.isLive_iff]
  · intro row hrow hstatus
    have hfind := SQLiteOrderStore.find_of_mem hrow
    apply h.open_live row.localId row hfind (by rw [hstatus]; rfl)
    unfold StoredOrder.liveBroker
    rw [hstatus]
    rfl
  · intro localId
    rw [List.mem_map]
    constructor
    · rintro ⟨row, hrow, rfl⟩
      exact Option.ne_none_iff_exists'.mp (h.mapped_of_open hrow)
    · rintro ⟨broker, hmapped⟩
      obtain ⟨row, hrow, -, hlive⟩ := SQLiteOrderStore.liveBroker_eq_some_iff.mp (h.live hmapped)
      refine ⟨row, ?_, SQLiteOrderStore.localId_of_find hrow⟩
      exact SQLiteOrderStore.mem_getOpenOrders_iff.mpr
        ⟨SQLiteOrderStore.mem_of_find hrow, OrderStatus.isOpen_of_isLive hlive⟩

/-- The mapped orders are open and carry their broker ids. -/
lemma Agree.carriedBy {mapper : OrderIdMapper} {store : SQLiteOrderStore}
    (h : Agree mapper store) : mapper.CarriedBy store := by
  intro localId broker hmapped
  obtain ⟨row, hrow, hbroker, hlive⟩ := SQLiteOrderStore.liveBroker_eq_some_iff.mp (h.live hmapped)
  exact ⟨row, hrow, hbroker, OrderStatus.isOpen_of_isLive hlive⟩

/-- A round in which the store succeeds keeps the agreement. -/
lemma Agree.dispatch {s : OrderManager} {i : Input} (h : Agree s.idMapper s.orderStore)
    (hok : StoreSucceeds s i) :
    Agree (dispatch s i).idMapper (dispatch s i).orderStore :=
  h.of_move hok (dispatch_move s i)

/-- A kill switch whose calls on the gateway for the mapped orders succeed empties the mapper. -/
def KillSwitchEmpties (s : OrderManager) (i : Input) : Prop :=
  ∀ reason initiatedBy, i.event = .cancelAllCommand reason initiatedBy →
    (∀ localId broker, s.idMapper.getBrokerId localId = some broker →
      i.gateway.cancelOrder broker = .ok ()) →
    (dispatch s i).idMapper = {}

/-- A kill switch all of whose calls succeed leaves nothing mapped. -/
lemma Agree.killSwitchEmpties {s : OrderManager} {i : Input} (h : Agree s.idMapper s.orderStore)
    (hok : StoreSucceeds s i) (hplain : s.idMapper.NoZeroBytes) : KillSwitchEmpties s i := by
  intro reason initiatedBy hevent haccept
  have hagree := h.dispatch hok
  have hnone := getBrokerId_killSwitch h.carriedBy hok hevent fun localId broker hmapped => by
    rw [(hplain localId broker hmapped).cStr_eq]
    exact haccept localId broker hmapped
  refine OrderIdMapper.eq_empty hnone fun broker => ?_
  cases hb : (Quarcc.dispatch s i).idMapper.getLocalId broker with
  | none => rfl
  | some l =>
    have hmapped := (hagree.inverse l broker).mp hb
    rw [hnone l] at hmapped
    cases hmapped

section Runs

variable (accountId : String) (riskManager : RiskManager) {inputs : List Input}

/-- The order manager that a run starts with. -/
lemma agree_start : Agree (createOrderManager accountId .empty riskManager).idMapper
    (createOrderManager accountId .empty riskManager).orderStore := Agree.empty

/-- Nothing is mapped at first. -/
lemma mapperMatchesStore_start :
    MapperMatchesStore (createOrderManager accountId .empty riskManager) :=
  (agree_start accountId riskManager).matches_iff.mpr nofun

/-- A round in which the store succeeds keeps the two records the same exactly when the gateway
gives out no broker id with a zero byte. -/
lemma Agree.matches_dispatch_iff {s : OrderManager} {i : Input} (h : Agree s.idMapper s.orderStore)
    (hok : StoreSucceeds s i) (hmatches : MapperMatchesStore s) :
    MapperMatchesStore (Quarcc.dispatch s i) ↔ IssuesNoZeroByte s i := by
  rw [(h.dispatch hok).matches_iff]
  exact (dispatch_move s i).noZeroBytes_iff hok (h.matches_iff.mp hmatches)

/-- The two records are the same in every state of a run exactly when the gateway gives out no
broker id with a zero byte. -/
lemma mapperMatchesStore_iff
    (hok : Trajectory.AllSteps dispatch StoreSucceeds
      (createOrderManager accountId .empty riskManager) inputs) :
    Trajectory.EveryState dispatch MapperMatchesStore
        (createOrderManager accountId .empty riskManager) inputs ↔
      Trajectory.AllSteps dispatch IssuesNoZeroByte
        (createOrderManager accountId .empty riskManager) inputs :=
  Trajectory.everyState_iff_allSteps
    (I := fun s : OrderManager => Agree s.idMapper s.orderStore) (fun _ _ h hi => h.dispatch hi)
    (fun _ _ h hi hmatches => h.matches_dispatch_iff hi hmatches)
    (agree_start accountId riskManager) (mapperMatchesStore_start accountId riskManager) hok

end Runs

/-- **When the mapper and the store agree** along a run that starts with an empty store and in which
the store succeeds: in every state they agree, and every kill switch whose calls on the gateway
succeed empties the mapper, exactly when the gateway gives out no broker id with a zero byte. -/
theorem mapper_store_agree_iff (accountId : String) (riskManager : RiskManager)
    (inputs : List Input)
    (hok : Trajectory.AllSteps dispatch StoreSucceeds
      (createOrderManager accountId .empty riskManager) inputs) :
    Trajectory.EveryState dispatch MapperMatchesStore
          (createOrderManager accountId .empty riskManager) inputs ∧
        Trajectory.AllSteps dispatch KillSwitchEmpties
          (createOrderManager accountId .empty riskManager) inputs ↔
      Trajectory.AllSteps dispatch IssuesNoZeroByte
        (createOrderManager accountId .empty riskManager) inputs := by
  have hiff := mapperMatchesStore_iff accountId riskManager hok
  refine ⟨fun h => hiff.mp h.1, fun h => ⟨hiff.mpr h, ?_⟩⟩
  refine Trajectory.allSteps_of_invariant
    (I := fun s : OrderManager => Agree s.idMapper s.orderStore ∧ MapperMatchesStore s)
    (A := fun s i => StoreSucceeds s i ∧ IssuesNoZeroByte s i) ?_ ?_
    ⟨agree_start accountId riskManager, mapperMatchesStore_start accountId riskManager⟩
    (Trajectory.allSteps_and.mpr ⟨hok, h⟩)
  · rintro s i ⟨hagree, hmatches⟩ ⟨hi, hplain⟩
    exact ⟨hagree.dispatch hi, (hagree.matches_dispatch_iff hi hmatches).mpr hplain⟩
  · rintro s i ⟨hagree, hmatches⟩ ⟨hi, -⟩
    exact hagree.killSwitchEmpties hi (hagree.matches_iff.mp hmatches)

/-- The agreement along a run with a submit, a partial fill and a kill switch. -/
theorem mapper_store_agree_iff_three :
    let buy : V1.StrategySignal := { symbol := "AAPL", side := .buy, targetQuantity := 10 }
    let half : V1.ExecutionReport :=
      { brokerOrderId := "B1", symbol := "AAPL", side := .buy, filledQuantity := 5
        avgFillPrice := 100 }
    Trajectory.EveryState dispatch MapperMatchesStore (createOrderManager "ACC" .empty ⟨{}⟩)
      [(OMEvent.submitCommand buy).quietly "B1", (OMEvent.executionReport half).quietly "B2",
        (OMEvent.cancelAllCommand "test" "operator").quietly "B3"] :=
  ((mapper_store_agree_iff "ACC" ⟨{}⟩ _ (by decide +kernel)).mpr (by decide +kernel)).1

/-- A run in which the gateway names an order with a zero byte: the mapper keeps the id, the row
ends before the byte. -/
theorem zero_byte_disagrees :
    let buy : V1.StrategySignal := { symbol := "AAPL", side := .buy, targetQuantity := 10 }
    let inputs := [(OMEvent.submitCommand buy).quietly "B1\x00x"]
    Trajectory.AllSteps dispatch StoreSucceeds (createOrderManager "ACC" .empty ⟨{}⟩) inputs ∧
      ¬ Trajectory.EveryState dispatch MapperMatchesStore (createOrderManager "ACC" .empty ⟨{}⟩)
        inputs := by
  intro buy inputs
  refine ⟨by decide +kernel, fun h => ?_⟩
  have hmapped : (Trajectory.run dispatch (createOrderManager "ACC" .empty ⟨{}⟩)
      inputs).idMapper.getBrokerId "ORD_0_000000" = some "B1\x00x" := by decide +kernel
  obtain ⟨row, hrow, hbroker, -⟩ := (h.last.mapped_iff _ _).mp hmapped
  have hcarried : ((Trajectory.run dispatch (createOrderManager "ACC" .empty ⟨{}⟩)
      inputs).orderStore.find "ORD_0_000000").bind StoredOrder.brokerId = some "B1" := by
    decide +kernel
  rw [hrow, Option.bind_some, hbroker] at hcarried
  exact absurd hcarried (by decide)

end Quarcc
