import QuarccEngine.Library.FiniteMap
import QuarccEngine.Library.Trajectory

/-!
# Order ids

`utils/order_id_types.h` and `utils/order_id_generator.h`: the mapper between the engine's own
order ids and the broker's, and the generator of order ids.
-/

namespace Quarcc

/-- `LocalOrderId`, the engine's own id of an order. -/
abbrev LocalOrderId := String

/-- `BrokerOrderId`, the id the gateway answers with. -/
abbrev BrokerOrderId := String

/-! ## The mapper -/

/-- `OrderIdMapper`: two hash maps, one for each direction.  Nothing in the type makes them
inverse to each other. -/
structure OrderIdMapper where
  localToBroker : AList fun _ : LocalOrderId => BrokerOrderId := ∅
  brokerToLocal : AList fun _ : BrokerOrderId => LocalOrderId := ∅

namespace OrderIdMapper

/-- `add_mapping`. -/
def addMapping (m : OrderIdMapper) (localId : LocalOrderId) (broker : BrokerOrderId) :
    OrderIdMapper where
  localToBroker := m.localToBroker.insert localId broker
  brokerToLocal := m.brokerToLocal.insert broker localId

/-- `get_broker_id`. -/
def getBrokerId (m : OrderIdMapper) (localId : LocalOrderId) : Option BrokerOrderId :=
  m.localToBroker.lookup localId

/-- `get_local_id`. -/
def getLocalId (m : OrderIdMapper) (broker : BrokerOrderId) : Option LocalOrderId :=
  m.brokerToLocal.lookup broker

/-- `remove_mapping`: the broker id to erase is the one the local id is mapped to now. -/
def removeMapping (m : OrderIdMapper) (localId : LocalOrderId) : OrderIdMapper :=
  match m.localToBroker.lookup localId with
  | some broker =>
    { localToBroker := m.localToBroker.erase localId
      brokerToLocal := m.brokerToLocal.erase broker }
  | none => m

/-- The number of local ids that are mapped. -/
def mappedCount (m : OrderIdMapper) : ℕ := FiniteMap.size m.localToBroker

variable (m : OrderIdMapper) (l l' : LocalOrderId) (b b' : BrokerOrderId)

@[simp] lemma getBrokerId_empty : ({} : OrderIdMapper).getBrokerId l = none := rfl

@[simp] lemma getLocalId_empty : ({} : OrderIdMapper).getLocalId b = none := rfl

@[simp] lemma mappedCount_empty : ({} : OrderIdMapper).mappedCount = 0 := rfl

@[simp] lemma getBrokerId_addMapping :
    (m.addMapping l b).getBrokerId l' = if l' = l then some b else m.getBrokerId l' :=
  FiniteMap.lookup_insert_eq m.localToBroker l l' b

@[simp] lemma getLocalId_addMapping :
    (m.addMapping l b).getLocalId b' = if b' = b then some l else m.getLocalId b' :=
  FiniteMap.lookup_insert_eq m.brokerToLocal b b' l

@[simp] lemma getBrokerId_removeMapping :
    (m.removeMapping l).getBrokerId l' = if l' = l then none else m.getBrokerId l' := by
  unfold removeMapping getBrokerId
  cases h : m.localToBroker.lookup l with
  | some broker => exact FiniteMap.lookup_erase_eq _ _ _
  | none =>
    by_cases hl : l' = l
    · rw [if_pos hl, hl, h]
    · rw [if_neg hl]

@[simp] lemma getLocalId_removeMapping :
    (m.removeMapping l).getLocalId b' =
      if m.getBrokerId l = some b' then none else m.getLocalId b' := by
  unfold removeMapping getBrokerId getLocalId
  cases h : m.localToBroker.lookup l with
  | some broker =>
    simp only [Option.some.injEq, FiniteMap.lookup_erase_eq]
    by_cases hb : b' = broker
    · rw [if_pos hb, if_pos hb.symm]
    · rw [if_neg hb, if_neg (Ne.symm hb)]
  | none => simp

/-- Mapping a local id that is not mapped adds one. -/
lemma mappedCount_addMapping {m : OrderIdMapper} {l : LocalOrderId} (h : m.getBrokerId l = none)
    (b : BrokerOrderId) : (m.addMapping l b).mappedCount = m.mappedCount + 1 :=
  FiniteMap.size_insert_of_notMem (AList.lookup_eq_none.mp h) b

/-- Removing a local id that is mapped takes one away. -/
lemma mappedCount_removeMapping {m : OrderIdMapper} {l : LocalOrderId} {b : BrokerOrderId}
    (h : m.getBrokerId l = some b) : (m.removeMapping l).mappedCount + 1 = m.mappedCount := by
  have h' : m.localToBroker.lookup l = some b := h
  have hcount : (m.removeMapping l).mappedCount = FiniteMap.size (m.localToBroker.erase l) := by
    simp [removeMapping, mappedCount, h']
  rw [hcount]
  exact FiniteMap.size_erase_of_mem (FiniteMap.mem_of_lookup h')

/-- A mapper that answers nothing in either direction is the empty one. -/
lemma eq_empty {m : OrderIdMapper} (hl : ∀ l, m.getBrokerId l = none)
    (hb : ∀ b, m.getLocalId b = none) : m = {} := by
  have hlocal := FiniteMap.eq_empty_of_lookup hl
  have hbroker := FiniteMap.eq_empty_of_lookup hb
  cases m
  simp_all

/-- The two maps are inverse to each other. -/
def Inverse (m : OrderIdMapper) : Prop :=
  ∀ l b, m.getLocalId b = some l ↔ m.getBrokerId l = some b

lemma inverse_empty : ({} : OrderIdMapper).Inverse := by
  intro l b
  simp

/-- Removing a mapping keeps the two maps inverse to each other. -/
lemma Inverse.removeMapping {m : OrderIdMapper} (h : m.Inverse) (localId : LocalOrderId) :
    (m.removeMapping localId).Inverse := by
  intro l b
  rw [getLocalId_removeMapping, getBrokerId_removeMapping]
  by_cases hb : m.getBrokerId localId = some b
  · have hl : m.getLocalId b = some localId := (h localId b).mpr hb
    rw [if_pos hb]
    by_cases hll : l = localId
    · simp [hll]
    · rw [if_neg hll, ← h l b, hl]
      simp [Ne.symm hll]
  · rw [if_neg hb, h l b]
    by_cases hll : l = localId
    · rw [if_pos hll, hll]
      simp [hb]
    · rw [if_neg hll]

/-- Adding a mapping of two ids that are not mapped keeps the two maps inverse to each other. -/
lemma Inverse.addMapping {m : OrderIdMapper} (h : m.Inverse) {localId : LocalOrderId}
    {broker : BrokerOrderId} (hl : m.getBrokerId localId = none)
    (hb : m.getLocalId broker = none) : (m.addMapping localId broker).Inverse := by
  intro l b
  rw [getLocalId_addMapping, getBrokerId_addMapping]
  by_cases hbb : b = broker <;> by_cases hll : l = localId
  · simp [hbb, hll]
  · rw [if_pos hbb, if_neg hll, ← h l b, hbb, hb]
    simp [Ne.symm hll]
  · rw [if_neg hbb, if_pos hll, h l b, hll, hl]
    simp [Ne.symm hbb]
  · rw [if_neg hbb, if_neg hll]
    exact h l b

/-- Every broker id that is mapped back leads to a local id that is mapped to it.  The other
direction is lost when the gateway answers with a broker id that is in use. -/
def Backed (m : OrderIdMapper) : Prop :=
  ∀ l b, m.getLocalId b = some l → m.getBrokerId l = some b

lemma backed_empty : ({} : OrderIdMapper).Backed := by
  intro l b h
  cases h

/-- Removing a mapping keeps the broker ids backed. -/
lemma Backed.removeMapping {m : OrderIdMapper} (h : m.Backed) (localId : LocalOrderId) :
    (m.removeMapping localId).Backed := by
  intro l b hl
  rw [getLocalId_removeMapping] at hl
  split_ifs at hl with hb
  have hbacked := h l b hl
  rw [getBrokerId_removeMapping, if_neg, hbacked]
  rintro rfl
  exact hb hbacked

/-- Mapping a local id that is not mapped keeps the broker ids backed, whatever the broker id. -/
lemma Backed.addMapping {m : OrderIdMapper} (h : m.Backed) {localId : LocalOrderId}
    (hl : m.getBrokerId localId = none) (broker : BrokerOrderId) :
    (m.addMapping localId broker).Backed := by
  intro l b hmapped
  rw [getLocalId_addMapping] at hmapped
  rw [getBrokerId_addMapping]
  by_cases hb : b = broker
  · rw [if_pos hb] at hmapped
    obtain rfl := Option.some.inj hmapped
    rw [if_pos rfl, hb]
  · rw [if_neg hb] at hmapped
    have hbacked := h l b hmapped
    have hne : l ≠ localId := by
      rintro rfl
      rw [hl] at hbacked
      cases hbacked
    rw [if_neg hne, hbacked]

/-- Removing a mapping maps no more local ids than before. -/
lemma mappedCount_removeMapping_le (m : OrderIdMapper) (l : LocalOrderId) :
    (m.removeMapping l).mappedCount ≤ m.mappedCount := by
  cases h : m.getBrokerId l with
  | none =>
    have hnone : m.localToBroker.lookup l = none := h
    unfold removeMapping
    rw [hnone]
  | some b =>
    have hone := mappedCount_removeMapping h
    omega

/-! ### Sequences of calls

`add_mapping` writes both maps and erases nothing, so that an id that is mapped already leaves an
entry of its former partner behind. -/

/-- A call that changes the mapper. -/
inductive Call where
  | addMapping (localId : LocalOrderId) (broker : BrokerOrderId)
  | removeMapping (localId : LocalOrderId)

/-- The mapper after a call. -/
def call (m : OrderIdMapper) : Call → OrderIdMapper
  | .addMapping localId broker => m.addMapping localId broker
  | .removeMapping localId => m.removeMapping localId

/-- Neither id of an `add_mapping` is mapped to anything but the other one. -/
def PairsFreely (m : OrderIdMapper) : Call → Prop
  | .addMapping localId broker =>
    (m.getBrokerId localId = none ∨ m.getBrokerId localId = some broker) ∧
      (m.getLocalId broker = none ∨ m.getLocalId broker = some localId)
  | .removeMapping _ => True

/-- Mapping two ids that are mapped to each other already keeps the two maps inverse. -/
lemma Inverse.addMapping_again {m : OrderIdMapper} (h : m.Inverse) {localId : LocalOrderId}
    {broker : BrokerOrderId} (hl : m.getBrokerId localId = some broker) :
    (m.addMapping localId broker).Inverse := by
  have hb : m.getLocalId broker = some localId := (h localId broker).mpr hl
  intro l b
  rw [getLocalId_addMapping, getBrokerId_addMapping]
  by_cases hbb : b = broker
  · by_cases hll : l = localId
    · simp [hbb, hll]
    · rw [if_pos hbb, if_neg hll, ← h l b, hbb, hb]
  · by_cases hll : l = localId
    · rw [if_neg hbb, if_pos hll, h l b, hll, hl]
    · rw [if_neg hbb, if_neg hll]
      exact h l b

/-- If the maps are inverse after a mapping, the local id had no other broker id before. -/
lemma Inverse.getBrokerId_of_addMapping {m : OrderIdMapper} (h : m.Inverse)
    {localId : LocalOrderId} {broker broker' : BrokerOrderId}
    (hadd : (m.addMapping localId broker).Inverse) (hl : m.getBrokerId localId = some broker') :
    broker' = broker := by
  by_contra hne
  have hstale : (m.addMapping localId broker).getLocalId broker' = some localId := by
    rw [getLocalId_addMapping, if_neg hne]
    exact (h localId broker').mpr hl
  have hnow := (hadd localId broker').mp hstale
  rw [getBrokerId_addMapping, if_pos rfl] at hnow
  exact hne (Option.some.inj hnow).symm

/-- If the maps are inverse after a mapping, the broker id had no other local id before. -/
lemma Inverse.getLocalId_of_addMapping {m : OrderIdMapper} (h : m.Inverse)
    {localId localId' : LocalOrderId} {broker : BrokerOrderId}
    (hadd : (m.addMapping localId broker).Inverse) (hb : m.getLocalId broker = some localId') :
    localId' = localId := by
  by_contra hne
  have hstale : (m.addMapping localId broker).getBrokerId localId' = some broker := by
    rw [getBrokerId_addMapping, if_neg hne]
    exact (h localId' broker).mp hb
  have hnow := (hadd localId' broker).mpr hstale
  rw [getLocalId_addMapping, if_pos rfl] at hnow
  exact hne (Option.some.inj hnow).symm

/-- A call keeps the two maps inverse exactly when it pairs its ids freely. -/
lemma Inverse.call_iff {m : OrderIdMapper} (h : m.Inverse) (c : Call) :
    (m.call c).Inverse ↔ m.PairsFreely c := by
  cases c with
  | removeMapping localId => exact iff_of_true (h.removeMapping localId) trivial
  | addMapping localId broker =>
    constructor
    · intro hadd
      refine ⟨?_, ?_⟩
      · cases hl : m.getBrokerId localId with
        | none => exact Or.inl rfl
        | some broker' => exact Or.inr (by rw [h.getBrokerId_of_addMapping hadd hl])
      · cases hb : m.getLocalId broker with
        | none => exact Or.inl rfl
        | some localId' => exact Or.inr (by rw [h.getLocalId_of_addMapping hadd hb])
    · rintro ⟨hl | hl, hb⟩
      · have hnone : m.getLocalId broker = none := by
          apply hb.resolve_right
          intro hmapped
          have hback := (h localId broker).mp hmapped
          rw [hl] at hback
          cases hback
        exact h.addMapping hl hnone
      · exact h.addMapping_again hl

/-- **The two maps of the mapper are inverse in every state of a sequence of calls exactly when
every `add_mapping` finds its two ids unmapped, or mapped to each other.** -/
theorem inverse_iff_pairsFreely (calls : List Call) :
    Trajectory.EveryState call Inverse {} calls ↔ Trajectory.AllSteps call PairsFreely {} calls :=
  Trajectory.everyState_iff_of_step (fun _ c h => h.call_iff c) inverse_empty

/-- Overwriting the broker id of an order leaves the old one mapped to the order. -/
theorem overwritten_broker_id_mapped :
    ¬ ∀ calls : List Call, (Trajectory.run call {} calls).Inverse := by
  intro h
  have hrun := h [.addMapping "LOCAL_3" "BROKER_OLD", .addMapping "LOCAL_3" "BROKER_NEW"]
  have hstale := (hrun "LOCAL_3" "BROKER_OLD").mp (by decide)
  exact absurd hstale (by decide)

end OrderIdMapper

/-! ## The generator -/

/-- The decimal digits of `n`, padded with zeros on the left to the given width (`{:0wd}`). -/
def zeroPad (width n : ℕ) : String :=
  let digits := Nat.toDigits 10 n
  String.ofList (List.replicate (width - digits.length) '0' ++ digits)

/-- `OrderIdGenerator`: the counter is a `std::atomic<std::uint64_t>`. -/
structure OrderIdGenerator where
  idSpecifier : String := "ORD"
  counter : UInt64 := 0

/-- `generate`, at the given reading of the system clock in milliseconds: the new id and the
generator with its counter advanced. -/
def OrderIdGenerator.generate (g : OrderIdGenerator) (clockMs : ℤ) :
    LocalOrderId × OrderIdGenerator :=
  (g.idSpecifier ++ "_" ++ toString clockMs ++ "_" ++ zeroPad 6 g.counter.toNat,
    { g with counter := g.counter + 1 })

example : (OrderIdGenerator.generate {} 1700000000000).1 = "ORD_1700000000000_000000" := by
  decide +kernel

end Quarcc
