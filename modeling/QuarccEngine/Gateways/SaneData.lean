import QuarccEngine.Gateways.SubscriptionCounts
import QuarccEngine.Library.AverageCost

/-!
# Sane market data

Whatever is subscribed to and unsubscribed from, whatever noise `emit_loop` draws and wherever the
clock jumps, the ticks and the bars that the simulated feed hands on make sense: the bid is below
the ask, and the open, the close and the average of a bar lie between its low and its high.

The bar under way carries this through the run.  Its average is the quotient of the two sums, so
that a tick moves it to a weighted average of itself and the price of the tick.
-/

namespace Quarcc

/-! ## Ticks and bars that make sense -/

/-- The last price lies between the bid and the ask, and is not below one. -/
structure Tick.Sane (tick : Tick) : Prop where
  bid_pos : 0 < tick.bid
  bid_lt : tick.bid < tick.last
  lt_ask : tick.last < tick.ask
  one_le : 1 ≤ tick.last
  bidSize_pos : 0 < tick.bidSize
  askSize_pos : 0 < tick.askSize
  lastSize_pos : 0 < tick.lastSize

/-- The prices of the bar lie between its low and its high, and something was traded. -/
structure Bar.Sane (bar : Bar) : Prop where
  one_le : 1 ≤ bar.low
  openPrice_mem : bar.openPrice ∈ Set.Icc bar.low bar.high
  close_mem : bar.close ∈ Set.Icc bar.low bar.high
  vwap_mem : bar.vwap ∈ Set.Icc bar.low bar.high
  volume_pos : 0 < bar.volume

/-- The feed starts a price at 100 and does not let it fall below one. -/
lemma SimulatedFeed.one_le_nextPrice (price noise : ℚ) : 1 ≤ nextPrice price noise := by
  unfold nextPrice
  dsimp only
  split_ifs with hlow <;> linarith

/-- The tick of a price that the feed has made up. -/
lemma SimulatedFeed.sane_tickAt (symbol : String) {price : ℚ} (hprice : 1 ≤ price) (nowNs : ℤ) :
    (tickAt symbol price nowNs).Sane := by
  constructor <;> norm_num [tickAt] <;> linarith

/-! ## The bar under way -/

namespace BarAccumulator

/-- The bar that is under way, if there is one, and its two sums. -/
structure Building (acc : BarAccumulator) : Prop where
  sane : acc.bar.Sane
  volume_eq : acc.vwapVolume = acc.bar.volume
  notional_eq : acc.vwapNotional = acc.vwapVolume * acc.bar.vwap

/-- If a bar is under way, it makes sense. -/
def Sane (acc : BarAccumulator) : Prop := acc.barStartNs ≠ 0 → acc.Building

variable {symbol period : String} {acc acc' : BarAccumulator} {tick : Tick}

/-- A bar begins with the price of its first tick. -/
lemma startBar_building (htick : tick.Sane) (h : acc.startBar symbol period tick = .ok acc') :
    acc'.Building := by
  unfold startBar at h
  cases hstart : alignToPeriodStart tick.tsNs acc.periodNs with
  | error crash =>
    rw [hstart] at h
    cases h
  | ok barStartNs =>
    rw [hstart] at h
    obtain rfl := Except.ok.inj h
    have hmem : tick.last ∈ Set.Icc tick.last tick.last := Set.left_mem_Icc.mpr le_rfl
    exact ⟨⟨htick.one_le, hmem, hmem, hmem, htick.lastSize_pos⟩, rfl, mul_comm _ _⟩

/-- A tick moves the average of the bar towards its price. -/
lemma Building.updateBar (h : acc.Building) (htick : tick.Sane) :
    (acc.updateBar tick).Building := by
  have hsize := htick.lastSize_pos
  have hvolume : 0 < acc.vwapVolume := h.volume_eq ▸ h.sane.volume_pos
  have hsum : 0 < acc.vwapVolume + tick.lastSize := add_pos hvolume hsize
  have hsame : 0 ≤ acc.vwapVolume * tick.lastSize := (mul_pos hvolume hsize).le
  have hvwap : (acc.updateBar tick).bar.vwap =
      (acc.vwapVolume * acc.bar.vwap + tick.lastSize * tick.last) /
        (acc.vwapVolume + tick.lastSize) := by
    unfold BarAccumulator.updateBar
    dsimp only
    rw [if_pos hsum, h.notional_eq, mul_comm tick.last]
  have hwiden : ∀ price, price ∈ Set.Icc acc.bar.low acc.bar.high →
      price ∈ Set.Icc (min acc.bar.low tick.last) (max acc.bar.high tick.last) :=
    fun price hprice => ⟨min_le_of_left_le hprice.1, le_max_of_le_left hprice.2⟩
  refine ⟨⟨le_min h.sane.one_le htick.one_le, hwiden _ h.sane.openPrice_mem,
    ⟨min_le_right _ _, le_max_right _ _⟩, ?_, add_pos h.sane.volume_pos hsize⟩, ?_, ?_⟩
  · obtain ⟨hlow, hhigh⟩ := hwiden _ h.sane.vwap_mem
    rw [hvwap]
    exact ⟨AverageCost.le_weighted hsame hsum.ne' hlow (min_le_right _ _),
      AverageCost.weighted_le hsame hsum.ne' hhigh (le_max_right _ _)⟩
  · exact congrArg (· + tick.lastSize) h.volume_eq
  · rw [hvwap]
    change acc.vwapNotional + tick.last * tick.lastSize =
      (acc.vwapVolume + tick.lastSize) * _
    rw [mul_div_cancel₀ _ hsum.ne', h.notional_eq, mul_comm tick.last]

/-- A tick keeps the bar under way sane, and a bar that it completes is. -/
lemma Sane.addTick (h : acc.Sane) (htick : tick.Sane) {bars : List Bar}
    (hok : acc.addTick symbol period tick = .ok (acc', bars)) :
    acc'.Sane ∧ ∀ bar ∈ bars, bar.Sane := by
  rcases addTick_cases hok with ⟨hstart, rfl | ⟨hstarted, rfl⟩⟩ | ⟨hstarted, rfl, rfl⟩
  · exact ⟨fun _ => startBar_building htick hstart, by simp⟩
  · refine ⟨fun _ => startBar_building htick hstart, fun bar hbar => ?_⟩
    rw [List.mem_singleton.mp hbar]
    exact (h hstarted).sane
  · exact ⟨fun _ => (h hstarted).updateBar htick, by simp⟩

end BarAccumulator

/-! ## The feed -/

namespace SimulatedFeed

variable {f f' : SimulatedFeed}

/-- All bars that are under way make sense. -/
def SaneBars (f : SimulatedFeed) : Prop :=
  ∀ key acc, f.accumulators.lookup key = some acc → acc.Sane

/-- Whatever the loop hands on next makes sense. -/
def HandsOnSane (f : SimulatedFeed) : Prop :=
  ∀ noise f' ticks bars, f.emit noise = .ok (f', ticks, bars) →
    (∀ tick ∈ ticks, tick.Sane) ∧ ∀ bar ∈ bars, bar.Sane

/-- One accumulator more. -/
lemma SaneBars.addTickTo {tick : Tick} (htick : tick.Sane) {period : String}
    {state state' : SimulatedFeed × List Bar} (h : state.1.SaneBars ∧ ∀ bar ∈ state.2, bar.Sane)
    (hok : SimulatedFeed.addTickTo tick state period = .ok state') :
    state'.1.SaneBars ∧ ∀ bar ∈ state'.2, bar.Sane := by
  unfold SimulatedFeed.addTickTo at hok
  cases hacc : state.1.accumulators.lookup (tick.symbol, period) with
  | none =>
    rw [hacc] at hok
    rwa [← Except.ok.inj hok]
  | some acc =>
    rw [hacc] at hok
    dsimp only at hok
    cases hadd : acc.addTick tick.symbol period tick with
    | error crash =>
      rw [hadd] at hok
      cases hok
    | ok result =>
      rw [hadd] at hok
      obtain rfl := Except.ok.inj hok
      obtain ⟨hsane, hbars⟩ := (h.1 _ acc hacc).addTick htick hadd
      refine ⟨fun key acc' hacc' => ?_, fun bar hbar => ?_⟩
      · dsimp only at hacc'
        rw [FiniteMap.lookup_insert_eq] at hacc'
        split_ifs at hacc' with hkey
        · rw [← Option.some.inj hacc']
          exact hsane
        · exact h.1 key acc' hacc'
      · rcases List.mem_append.mp hbar with hold | hnew
        · exact h.2 bar hold
        · exact hbars bar hnew

/-- The loop over the accumulators. -/
lemma SaneBars.addTickToAll (h : f.SaneBars) {tick : Tick} (htick : tick.Sane)
    {result : SimulatedFeed × List Bar} (hok : f.addTickToAll tick = .ok result) :
    result.1.SaneBars ∧ ∀ bar ∈ result.2, bar.Sane :=
  Trajectory.invariant_of_foldlM_ok
    (I := fun state : SimulatedFeed × List Bar => state.1.SaneBars ∧ ∀ bar ∈ state.2, bar.Sane)
    (fun _ _ _ hstate _ hone => SaneBars.addTickTo htick hstate hone) ⟨h, by simp⟩ hok

/-- One symbol of a round. -/
lemma SaneBars.emit (h : f.SaneBars) {noise : ℚ} {ticks : List Tick} {bars : List Bar}
    (hok : f.emit noise = .ok (f', ticks, bars)) :
    f'.SaneBars ∧ (∀ tick ∈ ticks, tick.Sane) ∧ ∀ bar ∈ bars, bar.Sane := by
  unfold SimulatedFeed.emit at hok
  cases hsymbols : f.loop.symbols with
  | nil =>
    rw [hsymbols] at hok
    cases hok
    exact ⟨h, by simp, by simp⟩
  | cons symbol rest =>
    rw [hsymbols] at hok
    dsimp only at hok
    have htick := sane_tickAt symbol
      (one_le_nextPrice ((f.loop.prices.lookup symbol).getD 0) noise) f.loop.nowNs
    cases hall : f.addTickToAll
        (tickAt symbol (nextPrice ((f.loop.prices.lookup symbol).getD 0) noise) f.loop.nowNs) with
    | error crash =>
      rw [hall] at hok
      cases hok
    | ok result =>
      rw [hall] at hok
      cases hok
      obtain ⟨hsane, hbars⟩ := h.addTickToAll htick hall
      refine ⟨hsane, fun tick hmem => ?_, hbars⟩
      split_ifs at hmem with hsubscribed
      · rw [List.mem_singleton.mp hmem]
        exact htick
      · exact absurd hmem List.not_mem_nil

/-- A new accumulator has no bar yet. -/
lemma SaneBars.subscribe (h : f.SaneBars) (symbol : String) (period : Option String) :
    (f.subscribe symbol period).1.SaneBars := by
  have hinsert : ∀ key ns, ∀ key' acc,
      (f.accumulators.insert key { periodNs := ns }).lookup key' = some acc → acc.Sane := by
    intro key ns key' acc hacc
    rw [FiniteMap.lookup_insert_eq] at hacc
    split_ifs at hacc with hkey
    · obtain rfl := Option.some.inj hacc
      exact fun hstarted => absurd rfl hstarted
    · exact h key' acc hacc
  unfold SaneBars
  rcases f.subscribe_cases symbol period with
    ⟨hsame, -, -⟩ | ⟨p, -, -, ⟨ns, -, -, hadded⟩ | ⟨what, -, -, hadded⟩⟩
  · rw [hsame]
    exact h
  · rw [hadded]
    exact hinsert _ ns
  · rw [hadded]
    exact hinsert _ 0

/-- **Step lemma.** -/
lemma SaneBars.step (h : f.SaneBars) (s : FeedStep) : (f.step s).SaneBars := by
  cases s with
  | call c =>
    cases c with
    | subscribe symbol period => exact h.subscribe symbol period
    | unsubscribe symbol period => exact fun key acc hacc => h key acc (lookup_unsubscribe hacc)
  | beginRound nowNs =>
    change (f.beginRound nowNs).SaneBars
    unfold SimulatedFeed.beginRound
    split_ifs
    · exact h
    · exact h
  | emit noise =>
    unfold SimulatedFeed.step
    dsimp only
    cases hemit : f.emit noise with
    | error crash => exact h
    | ok result => exact (h.emit hemit).1

/-- **Sane market data.**  In every state of a feed, the tick and the bars that the loop hands on
next make sense. -/
theorem hands_on_sane_data (steps : List FeedStep) :
    Trajectory.EveryState step HandsOnSane {} steps := by
  have hstart : ({} : SimulatedFeed).SaneBars := by
    intro key acc hacc
    rw [AList.lookup_empty] at hacc
    cases hacc
  have hinv : Trajectory.EveryState step SaneBars {} steps :=
    Trajectory.everyState_of_step (fun _ s h => SaneBars.step h s) hstart
  exact hinv.mono fun _ h _ _ _ _ hok => (h.emit hok).2

end SimulatedFeed

end Quarcc
