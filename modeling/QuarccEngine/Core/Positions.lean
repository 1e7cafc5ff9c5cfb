import QuarccEngine.Core.PositionKeeper

/-!
# Positions of all strategies

`GetPosition` and `GetAllPositions` of `trading_engine.cpp`, which combine the positions that the
strategies have in a symbol.  Of `managers_` they read the position keepers, in the order of the
hash map.
-/

namespace Quarcc

/-! ## Keepers with their symbols -/

/-- Every position carries the symbol that it is stored under. -/
def PositionKeeper.Keyed (pk : PositionKeeper) : Prop :=
  ∀ symbol pos, pk.positions.lookup symbol = some pos → pos.symbol = symbol

/-- The position keeper of a strategy. -/
abbrev KeyedKeeper := { pk : PositionKeeper // pk.Keyed }

/-- A keeper starts without positions. -/
lemma PositionKeeper.keyed_empty : ({} : PositionKeeper).Keyed := by
  intro symbol pos h
  exact absurd h (by simp)

/-- A fill keeps the symbol of a position. -/
@[simp] lemma Position.onFill_symbol (pos : Position) (fillQty fillPrice : ℚ) (side : V1.Side) :
    (pos.onFill fillQty fillPrice side).symbol = pos.symbol := rfl

/-- `on_fill` stores every position under its symbol. -/
lemma PositionKeeper.Keyed.onFill {pk : PositionKeeper} (h : pk.Keyed) (symbol : String)
    (fillQty fillPrice : ℚ) (side : V1.Side) : (pk.onFill symbol fillQty fillPrice side).Keyed := by
  unfold PositionKeeper.onFill
  split_ifs with hqty
  · exact h
  intro symbol' pos hpos
  dsimp only at hpos
  rw [FiniteMap.lookup_insert_eq] at hpos
  split_ifs at hpos with hs
  · have hsymbol := congrArg Position.symbol (Option.some.inj hpos)
    rw [Position.onFill_symbol] at hsymbol
    rw [hs, ← hsymbol]
  · exact h symbol' pos hpos

namespace TradingEngine

/-! ## `GetPosition` -/

/-- A position of a strategy is added to `combined`. -/
def combine (combined pos : V1.Position) : V1.Position :=
  let existingQty := combined.quantity
  let newQty := existingQty + pos.quantity
  { combined with
    avgPrice :=
      if newQty ≠ 0 ∧ existingQty ≠ 0 then
        (existingQty * combined.avgPrice + pos.quantity * pos.avgPrice) / newQty
      else if pos.quantity ≠ 0 then pos.avgPrice
      else combined.avgPrice
    quantity := newQty }

/-- The loop of `GetPosition`, with `combined` and `found`. -/
def combineNext (symbol : String) (state : V1.Position × Bool) (manager : PositionKeeper) :
    V1.Position × Bool :=
  match manager.getPosition symbol with
  | .error _ => state
  | .ok pos => (combine state.1 pos, true)

/-- `GetPosition`, with exact products and sums. -/
def getPosition (managers : List PositionKeeper) (symbol : String) : Result V1.Position :=
  let state := managers.foldl (combineNext symbol) ({ symbol := symbol }, false)
  if state.2 then .ok state.1 else .error ⟨"No position found for " ++ symbol, .error⟩

/-! ## `GetAllPositions` -/

/-- A position of a strategy is added to the entry of its symbol. -/
def updateExisting (existing pos : V1.Position) : V1.Position :=
  let newQty := existing.quantity + pos.quantity
  { existing with
    avgPrice :=
      if newQty ≠ 0 then
        (existing.quantity * existing.avgPrice + pos.quantity * pos.avgPrice) / newQty
      else existing.avgPrice
    quantity := newQty }

/-- `combined` after a position of a strategy. -/
def addEntry (combined : AList fun _ : String => V1.Position) (pos : V1.Position) :
    AList fun _ : String => V1.Position :=
  match combined.lookup pos.symbol with
  | none => combined.insert pos.symbol pos
  | some existing => combined.insert pos.symbol (updateExisting existing pos)

/-- The loops of `GetAllPositions`. -/
def combineAll (managers : List PositionKeeper) : AList fun _ : String => V1.Position :=
  managers.foldl (fun combined manager => manager.getAllPositions.foldl addEntry combined) ∅

/-- `GetAllPositions`, with exact products and sums. -/
def getAllPositions (managers : List PositionKeeper) : List V1.Position :=
  (combineAll managers).entries.map Sigma.snd

/-- The entries of `GetAllPositions` for a symbol. -/
def entriesOf (managers : List PositionKeeper) (symbol : String) : List V1.Position :=
  (getAllPositions managers).filter fun pos => pos.symbol = symbol

/-! ## What the loops compute -/

/-- The positions that the strategies have in a symbol. -/
def held (managers : List PositionKeeper) (symbol : String) : List V1.Position :=
  managers.flatMap fun manager => (manager.getPosition symbol).toOption.toList

@[simp] lemma held_cons (manager : PositionKeeper) (managers : List PositionKeeper)
    (symbol : String) :
    held (manager :: managers) symbol =
      (manager.getPosition symbol).toOption.toList ++ held managers symbol := rfl

/-- The loop of `GetPosition` goes over the positions in the symbol. -/
lemma foldl_combineNext (symbol : String) (managers : List PositionKeeper)
    (state : V1.Position × Bool) :
    managers.foldl (combineNext symbol) state =
      ((held managers symbol).foldl combine state.1,
        state.2 || !(held managers symbol).isEmpty) := by
  induction managers generalizing state with
  | nil => simp [held]
  | cons manager managers ih =>
    rw [List.foldl_cons, ih, held_cons]
    unfold combineNext
    cases manager.getPosition symbol with
    | error err => rfl
    | ok pos => simp [Except.toOption]

/-- `GetPosition` over the positions in the symbol. -/
lemma getPosition_eq (managers : List PositionKeeper) (symbol : String) :
    getPosition managers symbol =
      if held managers symbol = [] then .error ⟨"No position found for " ++ symbol, .error⟩
      else .ok ((held managers symbol).foldl combine { symbol := symbol }) := by
  unfold getPosition
  dsimp only
  rw [foldl_combineNext]
  by_cases hheld : held managers symbol = []
  · rw [hheld]
    rfl
  · have hisEmpty : (held managers symbol).isEmpty = false := List.isEmpty_eq_false_iff.mpr hheld
    rw [if_neg hheld, hisEmpty]
    rfl

/-- An entry after a position of its symbol. -/
def nextEntry (entry : Option V1.Position) (pos : V1.Position) : Option V1.Position :=
  some (entry.elim pos fun existing => updateExisting existing pos)

/-- A position changes the entry of its symbol and no other. -/
lemma lookup_addEntry (combined : AList fun _ : String => V1.Position) (pos : V1.Position)
    (symbol : String) :
    (addEntry combined pos).lookup symbol =
      if pos.symbol = symbol then nextEntry (combined.lookup symbol) pos
      else combined.lookup symbol := by
  by_cases hs : pos.symbol = symbol
  · subst hs
    unfold addEntry nextEntry
    cases hentry : combined.lookup pos.symbol <;> simp
  · have hne : symbol ≠ pos.symbol := fun h => hs h.symm
    unfold addEntry
    cases hentry : combined.lookup pos.symbol <;> simp [hs, hne]

/-- Several positions change the entry of a symbol by the ones in that symbol. -/
lemma lookup_foldl_addEntry (positions : List V1.Position)
    (combined : AList fun _ : String => V1.Position) (symbol : String) :
    (positions.foldl addEntry combined).lookup symbol =
      (positions.filter fun pos => pos.symbol = symbol).foldl nextEntry
        (combined.lookup symbol) := by
  induction positions generalizing combined with
  | nil => rfl
  | cons pos positions ih =>
    rw [List.foldl_cons, ih, lookup_addEntry]
    by_cases hs : pos.symbol = symbol <;> simp [hs]

/-- The positions of a keeper in a symbol are what `get_position` finds. -/
lemma filter_getAllPositions {manager : PositionKeeper} (h : manager.Keyed) (symbol : String) :
    (manager.getAllPositions.filter fun pos => pos.symbol = symbol) =
      (manager.getPosition symbol).toOption.toList := by
  unfold PositionKeeper.getAllPositions PositionKeeper.getPosition
  rw [FiniteMap.filter_values (fun pos : Position =>
    ({ symbol := pos.symbol, quantity := pos.quantity, avgPrice := pos.avgPrice
       realizedPnl := pos.rPnL } : V1.Position)) symbol]
  · cases manager.positions.lookup symbol <;> rfl
  · intro symbol' pos hpos
    exact Eq.congr_left (h symbol' pos hpos)

/-- The loops of `GetAllPositions` go over the positions in a symbol to find its entry. -/
lemma lookup_combineAll {managers : List PositionKeeper} (h : ∀ manager ∈ managers, manager.Keyed)
    (symbol : String) :
    (combineAll managers).lookup symbol = (held managers symbol).foldl nextEntry none := by
  have hloop : ∀ combined : AList fun _ : String => V1.Position,
      (managers.foldl (fun combined manager => manager.getAllPositions.foldl addEntry combined)
        combined).lookup symbol =
        (held managers symbol).foldl nextEntry (combined.lookup symbol) := by
    induction managers with
    | nil => exact fun _ => rfl
    | cons manager managers ih =>
      intro combined
      have hkeyed := h manager List.mem_cons_self
      have hrest := ih fun manager' hmem => h manager' (List.mem_cons_of_mem manager hmem)
      rw [List.foldl_cons, hrest, lookup_foldl_addEntry, filter_getAllPositions hkeyed, held_cons,
        List.foldl_append]
  unfold combineAll
  rw [hloop, AList.lookup_empty]

/-- The entry of a symbol carries the symbol. -/
lemma symbol_of_lookup_combineAll {managers : List PositionKeeper}
    (h : ∀ manager ∈ managers, manager.Keyed) {symbol : String} {entry : V1.Position}
    (hentry : (combineAll managers).lookup symbol = some entry) : entry.symbol = symbol := by
  rw [lookup_combineAll h] at hentry
  have hheld : ∀ pos ∈ held managers symbol, pos.symbol = symbol := by
    intro pos hpos
    obtain ⟨manager, hmanager, hmem⟩ := List.mem_flatMap.mp hpos
    rw [← filter_getAllPositions (h manager hmanager)] at hmem
    simpa using (List.mem_filter.mp hmem).2
  have hloop : ∀ entry₀ : Option V1.Position, (∀ e ∈ entry₀, e.symbol = symbol) →
      ∀ e ∈ (held managers symbol).foldl nextEntry entry₀, e.symbol = symbol := by
    generalize held managers symbol = positions at hheld
    induction positions with
    | nil => exact fun _ hstart => hstart
    | cons pos positions ih =>
      intro entry₀ hstart
      refine ih (fun pos' hpos' => hheld pos' (List.mem_cons_of_mem pos hpos')) _ ?_
      intro e he
      cases entry₀ with
      | none =>
        obtain rfl := Option.some.inj he
        exact hheld pos List.mem_cons_self
      | some existing =>
        obtain rfl := Option.some.inj he
        exact hstart existing rfl
  exact hloop none (by simp) entry hentry

/-- `GetAllPositions` over the positions in a symbol: one entry when there is any. -/
lemma entriesOf_eq {managers : List PositionKeeper} (h : ∀ manager ∈ managers, manager.Keyed)
    (symbol : String) :
    entriesOf managers symbol = ((held managers symbol).foldl nextEntry none).toList := by
  have hentry := FiniteMap.filter_values (m := combineAll managers)
    (p := fun pos => pos.symbol = symbol)
    id symbol fun symbol' pos hpos =>
      Eq.congr_left (symbol_of_lookup_combineAll h hpos)
  rw [lookup_combineAll h, Option.map_id] at hentry
  exact hentry

/-- The first position is copied, the others are added to it. -/
lemma foldl_nextEntry (entry : V1.Position) (positions : List V1.Position) :
    positions.foldl nextEntry (some entry) = some (positions.foldl updateExisting entry) := by
  induction positions generalizing entry with
  | nil => rfl
  | cons pos positions ih =>
    rw [List.foldl_cons, List.foldl_cons, ← ih]
    rfl

end TradingEngine

end Quarcc
