import Mathlib.Algebra.Order.Ring.Rat
import Mathlib.Algebra.Ring.Int.Defs
import Mathlib.Data.List.Sort
import QuarccEngine.Contracts
import QuarccEngine.Library.FiniteMap

/-!
# The simulated feed

`simulated_feed.cpp`: a feed that makes up the prices of the symbols that are subscribed to, and
collects them into bars.

A period is a text with a number and a unit.  It is read when a bar is subscribed to for the first
time, and the accumulator of the bar then keeps its length in nanoseconds.
-/

namespace Quarcc

/-- What ends the process. -/
inductive Crash where
  /-- `std::terminate`. -/
  | terminate
  | divisionByZero
  deriving DecidableEq

/-! ## Periods -/

/-- The number that a list of decimal digits denotes. -/
def digitsToNat (digits : List Char) : ℕ :=
  digits.foldl (fun n c => 10 * n + (c.toNat - '0'.toNat)) 0

/-- The digits as a number, when there are any and nothing else. -/
def digitsToNat? (cs : List Char) : Option ℕ :=
  if cs ≠ [] ∧ cs.all Char.isDigit then some (digitsToNat cs) else none

/-- `str_to_int`: what `std::from_chars` reads as an `int`, when it reads all of the text. -/
def strToInt (cs : List Char) : Option ℤ :=
  match cs with
  | '-' :: digits =>
    (digitsToNat? digits).bind fun n => if n ≤ 2 ^ 31 then some (-n) else none
  | digits => (digitsToNat? digits).bind fun n => if n < 2 ^ 31 then some n else none

/-- The seconds of the unit of a period. -/
def unitSeconds : Char → Option ℤ
  | 's' => some 1
  | 'm' => some 60
  | 'h' => some 3600
  | 'd' => some 86400
  | _ => none

/-- A number in 64 bits, where the arithmetic of the machine wraps around. -/
def int64 (n : ℤ) : ℤ := n.bmod (2 ^ 64)

/-- `period_to_ns`.  Its exceptions all have the same text. -/
def periodToNs (p : String) : Except String ℤ :=
  if p.length < 2 then .error "Invalid BarPeriod"
  else
    match strToInt p.toList.dropLast with
    | none => .error "Invalid BarPeriod"
    | some n =>
      if n ≤ 0 then .error "Invalid BarPeriod"
      else
        match p.toList.getLast?.bind unitSeconds with
        | none => .error "Invalid BarPeriod"
        | some seconds => .ok (int64 (n * (seconds * 10 ^ 9)))

example : periodToNs "5m" = .ok 300000000000 := by decide +kernel

/-! ## Subscriptions -/

/-- `BarAccumulator`. -/
structure BarAccumulator where
  bar : Bar := ⟨"", "", 0, 0, 0, 0, 0, 0, 0, 0⟩
  /-- Zero when there is no bar yet. -/
  barStartNs : ℤ := 0
  vwapNotional : ℚ := 0
  vwapVolume : ℚ := 0
  periodNs : ℤ := 0

/-- The local variables of `emit_loop`. -/
structure EmitLoop where
  /-- The symbols that are left in this round. -/
  symbols : List String := []
  /-- The copy of `tick_subscriptions_` that was made for this round. -/
  tickSubscriptions : AList fun _ : String => ℤ := ∅
  prices : AList fun _ : String => ℚ := ∅
  nowNs : ℤ := 0

/-- `SimulatedFeed`. -/
structure SimulatedFeed where
  symbols : List String := []
  tickSubscriptions : AList fun _ : String => ℤ := ∅
  barSubscriptions : AList fun _ : String × String => ℤ := ∅
  accumulators : AList fun _ : String × String => BarAccumulator := ∅
  loop : EmitLoop := {}

/-- `++counts[key]`. -/
def increment {κ : Type} [DecidableEq κ] (counts : AList fun _ : κ => ℤ) (key : κ) :
    AList fun _ : κ => ℤ :=
  counts.insert key ((counts.lookup key).getD 0 + 1)

namespace SimulatedFeed

/-- The symbol is simulated from now on. -/
def addSymbol (f : SimulatedFeed) (symbol : String) : SimulatedFeed :=
  if symbol ∈ f.symbols then f else { f with symbols := f.symbols ++ [symbol] }

/-- A bar is subscribed to, and has an accumulator if its period can be read.  When `period_to_ns`
throws, `try_emplace` has inserted the accumulator already. -/
def addBar (f : SimulatedFeed) (symbol period : String) : SimulatedFeed × Except String Unit :=
  let f := { f with barSubscriptions := increment f.barSubscriptions (symbol, period) }
  if (symbol, period) ∈ f.accumulators then (f, .ok ())
  else
    match periodToNs period with
    | .ok ns =>
      ({ f with accumulators := f.accumulators.insert (symbol, period) { periodNs := ns } }, .ok ())
    | .error what =>
      ({ f with accumulators := f.accumulators.insert (symbol, period) {} }, .error what)

/-- `subscribe`, which may throw. -/
def subscribe (f : SimulatedFeed) (symbol : String) (period : Option String) :
    SimulatedFeed × Except String Unit :=
  let f := f.addSymbol symbol
  match period with
  | some period => f.addBar symbol period
  | none => ({ f with tickSubscriptions := increment f.tickSubscriptions symbol }, .ok ())

/-- The count of a bar goes down; at zero the bar loses its accumulator. -/
def dropBar (f : SimulatedFeed) (symbol period : String) : SimulatedFeed :=
  match f.barSubscriptions.lookup (symbol, period) with
  | none => f
  | some n =>
    if n - 1 = 0 then
      { f with
        barSubscriptions := f.barSubscriptions.erase (symbol, period)
        accumulators := f.accumulators.erase (symbol, period) }
    else { f with barSubscriptions := f.barSubscriptions.insert (symbol, period) (n - 1) }

/-- The count of the ticks of a symbol goes down. -/
def dropTick (f : SimulatedFeed) (symbol : String) : SimulatedFeed :=
  match f.tickSubscriptions.lookup symbol with
  | none => f
  | some n =>
    if n - 1 = 0 then { f with tickSubscriptions := f.tickSubscriptions.erase symbol }
    else { f with tickSubscriptions := f.tickSubscriptions.insert symbol (n - 1) }

/-- A symbol without subscriptions is not simulated any more. -/
def dropSymbol (f : SimulatedFeed) (symbol : String) : SimulatedFeed :=
  if f.barSubscriptions.keys.any (fun key => key.1 = symbol) || symbol ∈ f.tickSubscriptions then f
  else { f with symbols := f.symbols.filter fun other => other ≠ symbol }

/-- `unsubscribe`. -/
def unsubscribe (f : SimulatedFeed) (symbol : String) (period : Option String) : SimulatedFeed :=
  let f :=
    match period with
    | some period => f.dropBar symbol period
    | none => f.dropTick symbol
  f.dropSymbol symbol

end SimulatedFeed

/-! ## Bars -/

/-- `align_to_period_start`. -/
def alignToPeriodStart (tsNs periodNs : ℤ) : Except Crash ℤ :=
  if periodNs = 0 then .error .divisionByZero else .ok (tsNs.tdiv periodNs * periodNs)

namespace BarAccumulator

/-- `start_bar`. -/
def startBar (acc : BarAccumulator) (symbol period : String) (tick : Tick) :
    Except Crash BarAccumulator :=
  (alignToPeriodStart tick.tsNs acc.periodNs).map fun barStartNs =>
    { acc with
      barStartNs := barStartNs
      vwapNotional := tick.last * tick.lastSize
      vwapVolume := tick.lastSize
      bar :=
        { symbol := symbol
          period := period
          openPrice := tick.last
          high := tick.last
          low := tick.last
          close := tick.last
          volume := tick.lastSize
          vwap := tick.last
          tsNs := barStartNs
          tsRecvNs := tick.tsRecvNs } }

/-- `update_bar`. -/
def updateBar (acc : BarAccumulator) (tick : Tick) : BarAccumulator :=
  let vwapNotional := acc.vwapNotional + tick.last * tick.lastSize
  let vwapVolume := acc.vwapVolume + tick.lastSize
  { acc with
    vwapNotional := vwapNotional
    vwapVolume := vwapVolume
    bar :=
      { acc.bar with
        high := max acc.bar.high tick.last
        low := min acc.bar.low tick.last
        close := tick.last
        volume := acc.bar.volume + tick.lastSize
        vwap := if 0 < vwapVolume then vwapNotional / vwapVolume else acc.bar.vwap
        tsRecvNs := tick.tsRecvNs } }

/-- What `emit_loop` does with one accumulator: the bar is started, completed or updated. -/
def addTick (acc : BarAccumulator) (symbol period : String) (tick : Tick) :
    Except Crash (BarAccumulator × List Bar) :=
  if acc.barStartNs = 0 then (acc.startBar symbol period tick).map fun acc' => (acc', [])
  else if int64 (acc.barStartNs + acc.periodNs) ≤ tick.tsNs then
    (acc.startBar symbol period tick).map fun acc' => (acc', [acc.bar])
  else .ok (acc.updateBar tick, [])

end BarAccumulator

/-! ## The loop -/

namespace SimulatedFeed

/-- The periods for which the symbol has an accumulator, in the order of the map. -/
def periodsOf (f : SimulatedFeed) (symbol : String) : List String :=
  ((f.accumulators.keys.filter fun key => key.1 = symbol).map Prod.snd).insertionSort (· ≤ ·)

/-- What `emit_loop` does with the accumulator for one period of the symbol of the tick. -/
def addTickTo (tick : Tick) (state : SimulatedFeed × List Bar) (period : String) :
    Except Crash (SimulatedFeed × List Bar) :=
  match state.1.accumulators.lookup (tick.symbol, period) with
  | none => .ok state
  | some acc =>
    (acc.addTick tick.symbol period tick).map fun result =>
      ({ state.1 with
          accumulators := state.1.accumulators.insert (tick.symbol, period) result.1 },
        state.2 ++ result.2)

/-- The loop over the accumulators: the feed and the bars that are completed. -/
def addTickToAll (f : SimulatedFeed) (tick : Tick) : Except Crash (SimulatedFeed × List Bar) :=
  (f.periodsOf tick.symbol).foldlM (addTickTo tick) (f, [])

/-- `emit_loop` begins its next round at the time `nowNs`. -/
def beginRound (f : SimulatedFeed) (nowNs : ℤ) : SimulatedFeed :=
  if f.loop.symbols = [] then
    { f with
      loop :=
        { f.loop with
          symbols := f.symbols
          tickSubscriptions := f.tickSubscriptions
          nowNs := nowNs } }
  else f

/-- The next price of a symbol; a price that is zero has not been set yet. -/
def nextPrice (price noise : ℚ) : ℚ :=
  let price := (if price = 0 then 100 else price) + noise
  if price < 1 then 1 else price

/-- The tick of a symbol at the given price. -/
def tickAt (symbol : String) (price : ℚ) (nowNs : ℤ) : Tick where
  symbol := symbol
  bid := price - 1 / 100
  ask := price + 1 / 100
  last := price
  bidSize := 100
  askSize := 100
  lastSize := 100
  tsNs := nowNs
  tsRecvNs := nowNs

/-- `emit_loop` goes on with the next symbol of its round, and the noise that it draws: the feed,
the tick that it hands on and the bars that it hands on. -/
def emit (f : SimulatedFeed) (noise : ℚ) : Except Crash (SimulatedFeed × List Tick × List Bar) :=
  match f.loop.symbols with
  | [] => .ok (f, [], [])
  | symbol :: rest =>
    let price := nextPrice ((f.loop.prices.lookup symbol).getD 0) noise
    let tick := tickAt symbol price f.loop.nowNs
    (f.addTickToAll tick).map fun result =>
      ({ result.1 with
          loop := { f.loop with symbols := rest, prices := f.loop.prices.insert symbol price } },
        if symbol ∈ f.loop.tickSubscriptions then [tick] else [], result.2)

end SimulatedFeed

/-! ## What can be subscribed to -/

namespace SimulatedFeed

/-- The feed takes a subscription: the period of a bar can be read, or the bar has an accumulator
already. -/
def Takes (f : SimulatedFeed) (symbol : String) (period : Option String) : Prop :=
  ∀ p, period = some p → (∃ ns, periodToNs p = .ok ns) ∨ (symbol, p) ∈ f.accumulators

@[simp] lemma addSymbol_accumulators (f : SimulatedFeed) (symbol : String) :
    (f.addSymbol symbol).accumulators = f.accumulators := by
  unfold addSymbol
  split_ifs <;> rfl

/-- What `subscribe` does to the accumulators. -/
lemma subscribe_cases (f : SimulatedFeed) (symbol : String) (period : Option String) :
    ((f.subscribe symbol period).1.accumulators = f.accumulators ∧
        (f.subscribe symbol period).2 = .ok () ∧
        ∀ p, period = some p → (symbol, p) ∈ f.accumulators) ∨
      ∃ p, period = some p ∧ (symbol, p) ∉ f.accumulators ∧
        ((∃ ns, periodToNs p = .ok ns ∧ (f.subscribe symbol period).2 = .ok () ∧
            (f.subscribe symbol period).1.accumulators =
              f.accumulators.insert (symbol, p) { periodNs := ns }) ∨
          ∃ what, periodToNs p = .error what ∧ (f.subscribe symbol period).2 = .error what ∧
            (f.subscribe symbol period).1.accumulators = f.accumulators.insert (symbol, p) {}) := by
  cases period with
  | none => exact Or.inl ⟨f.addSymbol_accumulators symbol, rfl, by simp⟩
  | some p =>
    unfold subscribe addBar
    dsimp only
    rw [addSymbol_accumulators]
    by_cases hmem : (symbol, p) ∈ f.accumulators
    · rw [if_pos hmem]
      refine Or.inl ⟨rfl, rfl, fun p' hp' => ?_⟩
      rwa [← Option.some.inj hp']
    · rw [if_neg hmem]
      refine Or.inr ⟨p, rfl, hmem, ?_⟩
      cases hns : periodToNs p with
      | ok ns => exact Or.inl ⟨ns, rfl, rfl, rfl⟩
      | error what => exact Or.inr ⟨what, rfl, rfl, rfl⟩

/-- `subscribe` throws exactly when the feed does not take the subscription. -/
lemma subscribe_ok_iff (f : SimulatedFeed) (symbol : String) (period : Option String) :
    (f.subscribe symbol period).2 = .ok () ↔ f.Takes symbol period := by
  unfold Takes
  rcases f.subscribe_cases symbol period with
    ⟨-, hok, hmem⟩ | ⟨p, rfl, hmem, ⟨ns, hns, hok, -⟩ | ⟨what, hwhat, herror, -⟩⟩
  · simp only [hok, true_iff]
    exact fun p hp => Or.inr (hmem p hp)
  · simp [hok, hns]
  · simp [herror, hwhat, hmem]

/-- A subscription that is taken does not change what the feed takes. -/
lemma takes_subscribe (f : SimulatedFeed) {symbol : String} {period : Option String}
    (h : f.Takes symbol period) (symbol' : String) (period' : Option String) :
    (f.subscribe symbol period).1.Takes symbol' period' ↔ f.Takes symbol' period' := by
  unfold Takes
  rcases f.subscribe_cases symbol period with
    ⟨hsame, -, -⟩ | ⟨p, rfl, hmem, ⟨ns, hns, -, hinsert⟩ | ⟨what, hwhat, -, -⟩⟩
  · rw [hsame]
  · rw [hinsert]
    refine forall₂_congr fun p' _ => ?_
    rw [AList.mem_insert]
    constructor
    · rintro (hread | heq | hold)
      · exact Or.inl hread
      · obtain ⟨-, rfl⟩ := Prod.mk.inj heq
        exact Or.inl ⟨ns, hns⟩
      · exact Or.inr hold
    · rintro (hread | hold)
      · exact Or.inl hread
      · exact Or.inr (Or.inr hold)
  · rcases h p rfl with ⟨ns, hns⟩ | hold
    · rw [hwhat] at hns
      cases hns
    · exact absurd hold hmem

end SimulatedFeed

end Quarcc
