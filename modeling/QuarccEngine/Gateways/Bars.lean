import Mathlib.Algebra.Order.BigOperators.Group.List
import QuarccEngine.Gateways.BarPeriods
import QuarccEngine.Library.Windows

/-!
# Bars and their ticks

`emit_loop` of `simulated_feed.cpp` collects the ticks of a symbol into bars, one accumulator for
each period.  It keeps the bar that is under way, the start of its window and two sums, and hands a
bar on when a tick of a later window comes.

The bars are compared with the whole list of the ticks: the completed ones are those of its windows
of the length of the period, without the last one, and each is the summary of the ticks in its
window.  The end of a window is a number of 64 bits, so that this needs that no tick follows in a
window that ends later.  In a feed, each accumulator gets the ticks of its symbol, so that the same
holds of the bars with its key.
-/

namespace Quarcc

/-! ## The summary of a window -/

/-- The number of the window of a tick, when the windows have the length `periodNs`. -/
def windowOf (periodNs : ℤ) (tick : Tick) : ℤ := tick.tsNs / periodNs

/-- The sum of the prices of the ticks, weighted by their sizes. -/
def notionalOf (ticks : List Tick) : ℚ := (ticks.map fun tick => tick.last * tick.lastSize).sum

/-- The sum of the sizes of the ticks. -/
def volumeOf (ticks : List Tick) : ℚ := (ticks.map Tick.lastSize).sum

/-- The bar of a window with the given ticks. -/
def barOf (symbol period : String) (periodNs : ℤ) (window : ℤ × List Tick) : Bar where
  symbol := symbol
  period := period
  openPrice := (window.2.head?.map Tick.last).getD 0
  high := (window.2.map Tick.last).max?.getD 0
  low := (window.2.map Tick.last).min?.getD 0
  close := (window.2.getLast?.map Tick.last).getD 0
  volume := volumeOf window.2
  vwap := notionalOf window.2 / volumeOf window.2
  tsNs := window.1 * periodNs
  tsRecvNs := (window.2.getLast?.map Tick.tsRecvNs).getD 0

@[simp] lemma notionalOf_concat (ticks : List Tick) (tick : Tick) :
    notionalOf (ticks ++ [tick]) = notionalOf ticks + tick.last * tick.lastSize := by
  simp [notionalOf]

@[simp] lemma volumeOf_concat (ticks : List Tick) (tick : Tick) :
    volumeOf (ticks ++ [tick]) = volumeOf ticks + tick.lastSize := by
  simp [volumeOf]

/-- Ticks of positive sizes have a positive volume. -/
lemma volumeOf_pos {ticks : List Tick} (hne : ticks ≠ []) (h : ∀ tick ∈ ticks, 0 < tick.lastSize) :
    0 < volumeOf ticks := by
  unfold volumeOf
  refine List.sum_pos _ (fun size hsize => ?_) (by simpa using hne)
  obtain ⟨tick, htick, rfl⟩ := List.mem_map.mp hsize
  exact h tick htick

/-! ## The accumulator of a period -/

namespace BarAccumulator

/-- What `emit_loop` does with the accumulator for a sequence of ticks: the accumulator and the bars
that are completed. -/
def addTicks (symbol period : String) (acc : BarAccumulator) (ticks : List Tick) :
    Except Crash (BarAccumulator × List Bar) :=
  ticks.foldlM (fun state tick =>
    (state.1.addTick symbol period tick).map fun result => (result.1, state.2 ++ result.2))
      (acc, [])

/-- The bars that were completed before stay in front. -/
lemma foldlM_addTick (symbol period : String) (ticks : List Tick) (acc : BarAccumulator)
    (bars : List Bar) :
    ticks.foldlM (fun state tick =>
        (state.1.addTick symbol period tick).map fun result => (result.1, state.2 ++ result.2))
        (acc, bars) =
      (acc.addTicks symbol period ticks).map fun result => (result.1, bars ++ result.2) := by
  induction ticks generalizing acc bars with
  | nil => simp [addTicks, pure, Except.pure, Except.map]
  | cons tick ticks ih =>
    unfold addTicks
    rw [List.foldlM_cons, List.foldlM_cons]
    cases acc.addTick symbol period tick with
    | error crash => rfl
    | ok result =>
      have hleft := ih result.1 (bars ++ result.2)
      have hright := ih result.1 ([] ++ result.2)
      apply hleft.trans
      refine Eq.trans ?_ (congrArg (Except.map fun r => (r.1, bars ++ r.2)) hright).symm
      cases result.1.addTicks symbol period ticks with
      | error crash => rfl
      | ok result' => simp [Except.map]

/-- More ticks. -/
lemma addTicks_append {symbol period : String} {acc acc' : BarAccumulator} {ticks : List Tick}
    {bars : List Bar} (h : acc.addTicks symbol period ticks = .ok (acc', bars)) (more : List Tick) :
    acc.addTicks symbol period (ticks ++ more) =
      (acc'.addTicks symbol period more).map fun result => (result.1, bars ++ result.2) := by
  rw [← foldlM_addTick]
  unfold addTicks at h ⊢
  rw [List.foldlM_append, h]
  rfl

/-- One tick. -/
lemma addTicks_singleton (symbol period : String) (acc : BarAccumulator) (tick : Tick) :
    acc.addTicks symbol period [tick] = acc.addTick symbol period tick := by
  unfold addTicks
  rw [List.foldlM_cons]
  cases acc.addTick symbol period tick <;> rfl

/-- One more tick. -/
lemma addTicks_concat {symbol period : String} {acc acc' : BarAccumulator} {ticks : List Tick}
    {bars : List Bar} (h : acc.addTicks symbol period ticks = .ok (acc', bars)) (tick : Tick) :
    acc.addTicks symbol period (ticks ++ [tick]) =
      (acc'.addTick symbol period tick).map fun result => (result.1, bars ++ result.2) := by
  rw [addTicks_append h, addTicks_singleton]

/-- The accumulator has collected the ticks of a window. -/
structure Collected (symbol period : String) (periodNs : ℤ) (acc : BarAccumulator)
    (window : ℤ × List Tick) : Prop where
  bar : acc.bar = barOf symbol period periodNs window
  barStartNs : acc.barStartNs = window.1 * periodNs
  vwapNotional : acc.vwapNotional = notionalOf window.2
  vwapVolume : acc.vwapVolume = volumeOf window.2
  periodNs_eq : acc.periodNs = periodNs

variable {symbol period : String} {periodNs : ℤ} {acc : BarAccumulator} {tick : Tick}

/-- `start_bar` begins the window of the tick. -/
lemma startBar_collected (hacc : acc.periodNs = periodNs) (hpos : 0 < periodNs)
    (hts : 0 ≤ tick.tsNs) (hsize : 0 < tick.lastSize) :
    ∃ acc', acc.startBar symbol period tick = .ok acc' ∧
      Collected symbol period periodNs acc' (windowOf periodNs tick, [tick]) := by
  have hstart : alignToPeriodStart tick.tsNs acc.periodNs =
      .ok (windowOf periodNs tick * periodNs) := by
    unfold alignToPeriodStart windowOf
    rw [hacc, if_neg hpos.ne', Int.tdiv_eq_ediv_of_nonneg hts]
  unfold startBar
  rw [hstart]
  refine ⟨_, rfl, ?_, rfl, ?_, ?_, hacc⟩
  · have hvwap : tick.last * tick.lastSize / tick.lastSize = tick.last :=
      mul_div_cancel_right₀ _ hsize.ne'
    simp [barOf, notionalOf, volumeOf, hvwap]
  · simp [notionalOf]
  · simp [volumeOf]

/-- `update_bar` goes on with the window. -/
lemma Collected.updateBar {w : ℤ} {ticks : List Tick}
    (h : Collected symbol period periodNs acc (w, ticks)) (hne : ticks ≠ [])
    (hsizes : ∀ t ∈ ticks ++ [tick], 0 < t.lastSize) :
    Collected symbol period periodNs (acc.updateBar tick) (w, ticks ++ [tick]) := by
  obtain ⟨first, rest, rfl⟩ := List.exists_cons_of_ne_nil hne
  have hvolume : 0 < volumeOf (first :: rest ++ [tick]) := volumeOf_pos (by simp) hsizes
  rw [volumeOf_concat, ← h.vwapVolume] at hvolume
  refine ⟨?_, h.barStartNs, ?_, ?_, h.periodNs_eq⟩
  · unfold BarAccumulator.updateBar
    dsimp only
    rw [h.bar, if_pos hvolume, h.vwapVolume, h.vwapNotional]
    have hhigh : ((first :: rest ++ [tick]).map Tick.last).max?.getD 0 =
        max (((first :: rest).map Tick.last).max?.getD 0) tick.last := by
      rw [List.map_append, List.map_cons, List.cons_append, List.max?_cons', List.max?_cons',
        List.foldl_append]
      rfl
    have hlow : ((first :: rest ++ [tick]).map Tick.last).min?.getD 0 =
        min (((first :: rest).map Tick.last).min?.getD 0) tick.last := by
      rw [List.map_append, List.map_cons, List.cons_append, List.min?_cons', List.min?_cons',
        List.foldl_append]
      rfl
    unfold barOf
    dsimp only
    rw [hhigh, hlow, List.getLast?_concat, volumeOf_concat, notionalOf_concat]
    rfl
  · rw [notionalOf_concat, ← h.vwapNotional]
    rfl
  · rw [volumeOf_concat, ← h.vwapVolume]
    rfl

/-- The end of a window that fits into 64 bits. -/
lemma windowEnd_le_iff {w : ℤ} (hpos : 0 < periodNs) (hw : 0 ≤ w)
    (hend : w * periodNs + periodNs < 2 ^ 63) :
    int64 (w * periodNs + periodNs) ≤ tick.tsNs ↔ w < windowOf periodNs tick := by
  have hstart : 0 ≤ w * periodNs := Int.mul_nonneg hw hpos.le
  have hfits : int64 (w * periodNs + periodNs) = w * periodNs + periodNs :=
    Int.bmod_eq_of_le_mul_two (by omega) (by omega)
  have hnext : w * periodNs + periodNs = (w + 1) * periodNs := (add_one_mul w periodNs).symm
  unfold windowOf
  rw [hfits, hnext, ← Int.le_ediv_iff_mul_le hpos, Int.add_one_le_iff]

/-- A tick of the same window. -/
lemma Collected.addTick_same {w : ℤ} {ticks : List Tick}
    (h : Collected symbol period periodNs acc (w, ticks)) (hpos : 0 < periodNs) (hw : 0 < w)
    (hend : w * periodNs + periodNs < 2 ^ 63) (hsame : windowOf periodNs tick = w) :
    acc.addTick symbol period tick = .ok (acc.updateBar tick, []) := by
  have hstarted : acc.barStartNs ≠ 0 := h.barStartNs ▸ (Int.mul_pos hw hpos).ne'
  have hunder : ¬ int64 (acc.barStartNs + acc.periodNs) ≤ tick.tsNs := by
    rw [h.barStartNs, h.periodNs_eq, windowEnd_le_iff hpos hw.le hend, hsame]
    exact lt_irrefl w
  unfold addTick
  rw [if_neg hstarted, if_neg hunder]

/-- A tick of a later window. -/
lemma Collected.addTick_new {w : ℤ} {ticks : List Tick}
    (h : Collected symbol period periodNs acc (w, ticks)) (hpos : 0 < periodNs) (hw : 0 < w)
    (hend : w * periodNs + periodNs < 2 ^ 63) (hnew : w < windowOf periodNs tick)
    (hts : 0 ≤ tick.tsNs) (hsize : 0 < tick.lastSize) :
    ∃ acc', acc.addTick symbol period tick = .ok (acc', [barOf symbol period periodNs (w, ticks)]) ∧
      Collected symbol period periodNs acc' (windowOf periodNs tick, [tick]) := by
  have hstarted : acc.barStartNs ≠ 0 := h.barStartNs ▸ (Int.mul_pos hw hpos).ne'
  have hover : int64 (acc.barStartNs + acc.periodNs) ≤ tick.tsNs := by
    rw [h.barStartNs, h.periodNs_eq, windowEnd_le_iff hpos hw.le hend]
    exact hnew
  obtain ⟨acc', hstart, hcollected⟩ :=
    @startBar_collected symbol period _ _ _ h.periodNs_eq hpos hts hsize
  refine ⟨acc', ?_, hcollected⟩
  unfold addTick
  rw [if_neg hstarted, if_pos hover, hstart, h.bar]
  rfl

end BarAccumulator

/-! ## A stream of ticks -/

/-- The ticks of a symbol, in the order of their times. -/
structure TickStream (periodNs : ℤ) (ticks : List Tick) : Prop where
  sorted : ticks.Pairwise fun tick tick' => tick.tsNs ≤ tick'.tsNs
  started : ∀ tick ∈ ticks, periodNs ≤ tick.tsNs
  sizes : ∀ tick ∈ ticks, 0 < tick.lastSize

/-- The window of every tick after which another one comes ends at a time of 64 bits. -/
def WindowsFit (periodNs : ℤ) (ticks : List Tick) : Prop :=
  ∀ tick ∈ ticks.dropLast, windowOf periodNs tick * periodNs + periodNs < 2 ^ 63

namespace TickStream

variable {periodNs : ℤ} {ticks : List Tick} {tick : Tick}

/-- The stream before its last tick. -/
lemma init (h : TickStream periodNs (ticks ++ [tick])) : TickStream periodNs ticks where
  sorted := (List.pairwise_append.mp h.sorted).1
  started t ht := h.started t (List.mem_append_left _ ht)
  sizes t ht := h.sizes t (List.mem_append_left _ ht)

/-- No tick has a later window than the last one. -/
lemma windowOf_le_last (h : TickStream periodNs (ticks ++ [tick])) (hpos : 0 < periodNs) {t : Tick}
    (ht : t ∈ ticks ++ [tick]) : windowOf periodNs t ≤ windowOf periodNs tick := by
  apply Int.ediv_le_ediv hpos
  rcases List.mem_append.mp ht with ht | ht
  · exact (List.pairwise_append.mp h.sorted).2.2 t ht tick (List.mem_singleton_self tick)
  · rw [List.mem_singleton.mp ht]

/-- The windows come in the order of their numbers. -/
lemma windows_lt (h : TickStream periodNs ticks) (hpos : 0 < periodNs) :
    (Windows.windows (windowOf periodNs) ticks).Pairwise (· < ·) := by
  have hle : (ticks.map (windowOf periodNs)).Pairwise (· ≤ ·) :=
    List.pairwise_map.mpr (h.sorted.imp fun hts => Int.ediv_le_ediv hpos hts)
  have hsorted := hle.sublist (List.dedup_sublist _)
  exact (hsorted.and (List.nodup_dedup _)).imp fun hlt => lt_of_le_of_ne hlt.1 hlt.2

/-- The number of the window of a tick is positive. -/
lemma windowOf_pos (h : TickStream periodNs ticks) (hpos : 0 < periodNs) (ht : tick ∈ ticks) :
    0 < windowOf periodNs tick := by
  have hone : 1 * periodNs ≤ tick.tsNs := by
    rw [one_mul]
    exact h.started tick ht
  exact (Int.le_ediv_iff_mul_le hpos).mpr hone

end TickStream

namespace BarAccumulator

open Windows

variable {symbol period : String} {periodNs : ℤ}

/-- The accumulator keeps the last window, and the bars that it completed are those of the
others. -/
lemma addTicks_collected (hpos : 0 < periodNs) (ticks : List Tick) (tick : Tick)
    (h : TickStream periodNs (ticks ++ [tick])) (hfit : WindowsFit periodNs (ticks ++ [tick])) :
    ∃ acc, addTicks symbol period { periodNs := periodNs } (ticks ++ [tick]) =
        .ok (acc, (completed (windowOf periodNs) (ticks ++ [tick])).map
          (barOf symbol period periodNs)) ∧
      Collected symbol period periodNs acc (windowOf periodNs tick,
        members (windowOf periodNs) (ticks ++ [tick]) (windowOf periodNs tick)) := by
  have hmem : tick ∈ ticks ++ [tick] := by simp
  have hts : 0 ≤ tick.tsNs := hpos.le.trans (h.started tick hmem)
  induction ticks using List.reverseRecOn generalizing tick with
  | nil =>
    obtain ⟨acc, hstart, hcollected⟩ :=
      @startBar_collected symbol period periodNs { periodNs := periodNs } tick rfl hpos hts
        (h.sizes tick hmem)
    refine ⟨acc, ?_, by simpa [members] using hcollected⟩
    rw [addTicks_concat rfl, addTick, if_pos rfl, hstart]
    rfl
  | append_singleton ticks last ih =>
    have hlast : last ∈ ticks ++ [last] := by simp
    have hend : windowOf periodNs last * periodNs + periodNs < 2 ^ 63 :=
      hfit last (by rw [List.dropLast_concat]; exact hlast)
    have hfitLast : WindowsFit periodNs (ticks ++ [last]) := fun t ht =>
      hfit t (by rw [List.dropLast_concat]; exact (List.dropLast_sublist _).mem ht)
    have hlastTs : 0 ≤ last.tsNs := hpos.le.trans (h.init.started last hlast)
    obtain ⟨acc, hrun, hcollected⟩ := ih last h.init hfitLast hlast hlastTs
    have hw := h.init.windowOf_pos hpos hlast
    have hle : windowOf periodNs last ≤ windowOf periodNs tick :=
      h.windowOf_le_last hpos (List.mem_append_left _ hlast)
    rw [addTicks_concat hrun, members_concat, if_pos rfl]
    rcases hle.eq_or_lt with hsame | hnew
    · -- The bar goes on.
      refine ⟨acc.updateBar tick, ?_, ?_⟩
      · rw [hcollected.addTick_same hpos hw hend hsame.symm, completed_concat_same _ _ hsame.symm]
        simp [Except.map]
      · rw [← hsame]
        refine hcollected.updateBar (List.ne_nil_of_mem (a := last) ?_) fun t ht => ?_
        · exact List.mem_filter.mpr ⟨hlast, by simp⟩
        · apply h.sizes t
          rcases List.mem_append.mp ht with ht | ht
          · exact List.mem_append_left _ (List.mem_filter.mp ht).1
          · exact List.mem_append_right _ ht
    · -- The bar is completed and another one begins.
      have hunused : windowOf periodNs tick ∉ (ticks ++ [last]).map (windowOf periodNs) := by
        intro hold
        obtain ⟨t, ht, heq⟩ := List.mem_map.mp hold
        exact (heq ▸ hnew).not_ge (h.init.windowOf_le_last hpos ht)
      obtain ⟨acc', haddTick, hstarted⟩ :=
        hcollected.addTick_new hpos hw hend hnew hts (h.sizes tick hmem)
      refine ⟨acc', ?_, ?_⟩
      · rw [haddTick, completed_concat_new _ _ hunused, List.map_append]
        rfl
      · rw [members_eq_nil _ hunused]
        exact hstarted

/-- The completed bars are those of the completed windows. -/
lemma addTicks_eq_completed (hpos : 0 < periodNs) {ticks : List Tick}
    (h : TickStream periodNs ticks) (hfit : WindowsFit periodNs ticks) :
    ∃ acc, addTicks symbol period { periodNs := periodNs } ticks =
      .ok (acc, (completed (windowOf periodNs) ticks).map (barOf symbol period periodNs)) := by
  induction ticks using List.reverseRecOn with
  | nil => exact ⟨_, rfl⟩
  | append_singleton ticks tick =>
    obtain ⟨acc, hrun, -⟩ := addTicks_collected hpos ticks tick h hfit
    exact ⟨acc, hrun⟩

/-- **Bars are the partition of the ticks by the windows of a period.**  The completed bars are
those of all windows with ticks but the last one, in the order of the windows. -/
theorem addTicks_completed (hpos : 0 < periodNs) {ticks : List Tick} (h : TickStream periodNs ticks)
    (hfit : WindowsFit periodNs ticks) :
    (windows (windowOf periodNs) ticks).Pairwise (· < ·) ∧
      ∃ acc, addTicks symbol period { periodNs := periodNs } ticks =
        .ok (acc, (completed (windowOf periodNs) ticks).map (barOf symbol period periodNs)) :=
  ⟨h.windows_lt hpos, addTicks_eq_completed hpos h hfit⟩

/-- A tick of one share at the given time and price. -/
def oneShare (tsNs : ℤ) (price : ℚ) : Tick :=
  ⟨"AAPL", price, price, price, 1, 1, 1, tsNs, tsNs⟩

/-- Windows of ten nanoseconds: two ticks in the first one, and one at the beginning of the next but
one. -/
theorem addTicks_completed_three :
    ∃ acc, addTicks "AAPL" "10ns" { periodNs := 10 } [oneShare 15 7, oneShare 19 9, oneShare 30 8] =
      .ok (acc, [⟨"AAPL", "10ns", 7, 9, 7, 9, 2, 8, 10, 19⟩]) := by
  have hstream : TickStream 10 [oneShare 15 7, oneShare 19 9, oneShare 30 8] :=
    ⟨by decide, by decide, by decide⟩
  have hfit : WindowsFit 10 [oneShare 15 7, oneShare 19 9, oneShare 30 8] := by
    unfold WindowsFit
    decide
  obtain ⟨-, acc, hrun⟩ :=
    @addTicks_completed "AAPL" "10ns" 10 (by decide) _ hstream hfit
  have hbars : (completed (windowOf 10) [oneShare 15 7, oneShare 19 9, oneShare 30 8]).map
      (barOf "AAPL" "10ns" 10) = [⟨"AAPL", "10ns", 7, 9, 7, 9, 2, 8, 10, 19⟩] := by
    decide +kernel
  exact ⟨acc, hrun.trans (by rw [hbars])⟩

/-- The end of the last minute of the 64 bits wraps around, and its ticks all complete bars. -/
theorem addTicks_lastMinute :
    ¬ ∀ (symbol period : String) (periodNs : ℤ) (ticks : List Tick), 0 < periodNs →
      TickStream periodNs ticks → ∃ acc, addTicks symbol period { periodNs := periodNs } ticks =
        .ok (acc, (completed (windowOf periodNs) ticks).map (barOf symbol period periodNs)) := by
  intro h
  have hstream : TickStream 60000000000 [oneShare (2 ^ 63 - 1) 7, oneShare (2 ^ 63 - 1) 8] :=
    ⟨by decide, by decide, by decide⟩
  obtain ⟨acc, hrun⟩ := h "AAPL" "1m" _ _ (by decide) hstream
  have hone : (addTicks "AAPL" "1m" { periodNs := 60000000000 }
      [oneShare (2 ^ 63 - 1) 7, oneShare (2 ^ 63 - 1) 8]).map (fun result => result.2.length) =
        .ok 1 := by
    decide +kernel
  have hnone : (completed (windowOf 60000000000)
      [oneShare (2 ^ 63 - 1) 7, oneShare (2 ^ 63 - 1) 8]) = [] := by
    decide +kernel
  rw [hrun, hnone] at hone
  exact Nat.zero_ne_one (Except.ok.inj hone)

end BarAccumulator

/-! ## The accumulators of a feed -/

/-- The symbol and the period of a bar. -/
def Bar.key (bar : Bar) : String × String := (bar.symbol, bar.period)

namespace BarAccumulator

variable {symbol period : String} {acc acc' : BarAccumulator} {tick : Tick}

/-- The bar that is under way has the key of its accumulator. -/
def Labelled (acc : BarAccumulator) (key : String × String) : Prop :=
  acc.barStartNs ≠ 0 → acc.bar.key = key

/-- A new bar has the key that it is started with. -/
lemma startBar_key (h : acc.startBar symbol period tick = .ok acc') :
    acc'.bar.key = (symbol, period) := by
  unfold startBar at h
  cases hstart : alignToPeriodStart tick.tsNs acc.periodNs with
  | error crash =>
    rw [hstart] at h
    cases h
  | ok barStartNs =>
    rw [hstart] at h
    obtain rfl := Except.ok.inj h
    rfl

/-- What a tick does: it starts the first bar, completes the bar and starts the next one, or updates
the bar. -/
lemma addTick_cases {bars : List Bar} (h : acc.addTick symbol period tick = .ok (acc', bars)) :
    (acc.startBar symbol period tick = .ok acc' ∧
        (bars = [] ∨ acc.barStartNs ≠ 0 ∧ bars = [acc.bar])) ∨
      (acc.barStartNs ≠ 0 ∧ acc' = acc.updateBar tick ∧ bars = []) := by
  unfold addTick at h
  by_cases hnone : acc.barStartNs = 0
  · rw [if_pos hnone] at h
    cases hstart : acc.startBar symbol period tick with
    | error crash =>
      rw [hstart] at h
      cases h
    | ok started =>
      rw [hstart] at h
      cases h
      exact Or.inl ⟨rfl, Or.inl rfl⟩
  rw [if_neg hnone] at h
  by_cases hover : int64 (acc.barStartNs + acc.periodNs) ≤ tick.tsNs
  · rw [if_pos hover] at h
    cases hstart : acc.startBar symbol period tick with
    | error crash =>
      rw [hstart] at h
      cases h
    | ok started =>
      rw [hstart] at h
      cases h
      exact Or.inl ⟨rfl, Or.inr ⟨hnone, rfl⟩⟩
  · rw [if_neg hover] at h
    cases h
    exact Or.inr ⟨hnone, rfl, rfl⟩

/-- A tick keeps the key of the bar, and a bar that it completes has it. -/
lemma Labelled.addTick (hlabel : acc.Labelled (symbol, period)) {bars : List Bar}
    (h : acc.addTick symbol period tick = .ok (acc', bars)) :
    acc'.Labelled (symbol, period) ∧ ∀ bar ∈ bars, bar.key = (symbol, period) := by
  rcases addTick_cases h with ⟨hstart, rfl | ⟨hstarted, rfl⟩⟩ | ⟨hstarted, rfl, rfl⟩
  · exact ⟨fun _ => startBar_key hstart, by simp⟩
  · refine ⟨fun _ => startBar_key hstart, fun bar hbar => ?_⟩
    rw [List.mem_singleton.mp hbar]
    exact hlabel hstarted
  · exact ⟨fun _ => hlabel hstarted, by simp⟩

end BarAccumulator

namespace SimulatedFeed

/-- What `emit_loop` does with the accumulators for a sequence of ticks: the feed and the bars that
are completed. -/
def addTicksToAll (f : SimulatedFeed) (ticks : List Tick) :
    Except Crash (SimulatedFeed × List Bar) :=
  ticks.foldlM (fun state tick =>
    (state.1.addTickToAll tick).map fun result => (result.1, state.2 ++ result.2)) (f, [])

/-- The bars that are under way have the keys of their accumulators. -/
def Labelled (f : SimulatedFeed) : Prop :=
  ∀ key acc, f.accumulators.lookup key = some acc → acc.Labelled key

/-- A feed that was just created. -/
lemma labelled_start : ({} : SimulatedFeed).Labelled := fun _ _ h => nomatch h

/-- A new accumulator has no bar yet. -/
lemma Labelled.subscribe {f : SimulatedFeed} (h : f.Labelled) (symbol : String)
    (period : Option String) : (f.subscribe symbol period).1.Labelled := by
  have hinsert : ∀ key ns, ∀ key' acc,
      (f.accumulators.insert key { periodNs := ns }).lookup key' = some acc →
        acc.Labelled key' := by
    intro key ns key' acc hacc
    rw [FiniteMap.lookup_insert_eq] at hacc
    split_ifs at hacc with hkey
    · obtain rfl := Option.some.inj hacc
      exact fun hstarted => absurd rfl hstarted
    · exact h key' acc hacc
  unfold Labelled
  rcases f.subscribe_cases symbol period with
    ⟨hsame, -, -⟩ | ⟨p, -, -, ⟨ns, -, -, hadded⟩ | ⟨what, -, -, hadded⟩⟩
  · rw [hsame]
    exact h
  · rw [hadded]
    exact hinsert _ ns
  · rw [hadded]
    exact hinsert _ 0

/-- From one state to the other, the accumulator of the key gets the ticks, and the bars with the
key are those that it completes. -/
def KeyGets (key : String × String) (ticks : List Tick) (state state' : SimulatedFeed × List Bar) :
    Prop :=
  ∀ acc, state.1.accumulators.lookup key = some acc →
    ∃ acc' bars, acc.addTicks key.1 key.2 ticks = .ok (acc', bars) ∧
      state'.1.accumulators.lookup key = some acc' ∧
      state'.2.filter (fun bar => bar.key = key) = state.2.filter (fun bar => bar.key = key) ++ bars

variable {key : String × String} {ticks : List Tick} {tick : Tick} {period : String}
  {state state' state'' : SimulatedFeed × List Bar}

/-- Two sequences of ticks one after the other. -/
lemma KeyGets.append {more : List Tick} (h : KeyGets key ticks state state')
    (hmore : KeyGets key more state' state'') : KeyGets key (ticks ++ more) state state'' := by
  intro acc hacc
  obtain ⟨acc', bars, hrun, hlookup, hbars⟩ := h acc hacc
  obtain ⟨acc'', bars', hrun', hlookup', hbars'⟩ := hmore acc' hlookup
  refine ⟨acc'', bars ++ bars', ?_, hlookup', ?_⟩
  · rw [BarAccumulator.addTicks_append hrun, hrun']
    rfl
  · rw [hbars', hbars, List.append_assoc]

/-- The bars that were completed before do not matter. -/
lemma KeyGets.prepend {f f' : SimulatedFeed} {bars : List Bar}
    (h : KeyGets key ticks (f, []) (f', bars)) (before : List Bar) :
    KeyGets key ticks (f, before) (f', before ++ bars) := by
  intro acc hacc
  obtain ⟨acc', mine, hrun, hlookup, hbars⟩ := h acc hacc
  refine ⟨acc', mine, hrun, hlookup, ?_⟩
  rw [List.filter_append]
  exact congrArg _ hbars

/-- One accumulator gets the tick, and the others get nothing. -/
lemma Labelled.addTickTo (hlabel : state.1.Labelled)
    (h : SimulatedFeed.addTickTo tick state period = .ok state') (key : String × String) :
    state'.1.Labelled ∧
      KeyGets key (if key = (tick.symbol, period) then [tick] else []) state state' := by
  unfold SimulatedFeed.addTickTo at h
  cases hfound : state.1.accumulators.lookup (tick.symbol, period) with
  | none =>
    rw [hfound] at h
    cases h
    refine ⟨hlabel, fun acc hacc => ?_⟩
    have hne : key ≠ (tick.symbol, period) := by
      rintro rfl
      rw [hfound] at hacc
      cases hacc
    rw [if_neg hne]
    exact ⟨acc, [], rfl, hacc, (List.append_nil _).symm⟩
  | some found =>
    rw [hfound] at h
    dsimp only at h
    cases hadd : found.addTick tick.symbol period tick with
    | error crash =>
      rw [hadd] at h
      cases h
    | ok result =>
      obtain ⟨found', bars⟩ := result
      rw [hadd] at h
      cases h
      obtain ⟨hlabel', hkeys⟩ := (hlabel _ _ hfound).addTick hadd
      refine ⟨fun key' acc hacc => ?_, fun acc hacc => ?_⟩
      · rw [FiniteMap.lookup_insert_eq] at hacc
        split_ifs at hacc with hkey
        · obtain rfl := Option.some.inj hacc
          exact hkey ▸ hlabel'
        · exact hlabel key' acc hacc
      · dsimp only
        rw [FiniteMap.lookup_insert_eq, List.filter_append]
        by_cases hkey : key = (tick.symbol, period)
        · subst hkey
          obtain rfl := Option.some.inj (hfound.symm.trans hacc)
          rw [if_pos rfl, if_pos rfl]
          refine ⟨found', bars, ?_, rfl, ?_⟩
          · rw [BarAccumulator.addTicks_singleton, hadd]
          · rw [List.filter_eq_self.mpr fun bar hbar => decide_eq_true (hkeys bar hbar)]
        · rw [if_neg hkey, if_neg hkey]
          have hothers : bars.filter (fun bar => bar.key = key) = [] :=
            List.filter_eq_nil_iff.mpr fun bar hbar => by
              simpa [hkeys bar hbar] using Ne.symm hkey
          refine ⟨acc, [], rfl, hacc, ?_⟩
          rw [hothers]

/-- The loop over the periods gives the tick to each of their accumulators once. -/
lemma Labelled.foldlM_addTickTo (hlabel : state.1.Labelled) {periods : List String}
    (hnodup : periods.Nodup)
    (h : periods.foldlM (SimulatedFeed.addTickTo tick) state = .ok state') (key : String × String) :
    state'.1.Labelled ∧
      KeyGets key (if key.1 = tick.symbol ∧ key.2 ∈ periods then [tick] else []) state state' := by
  induction periods generalizing state with
  | nil =>
    obtain rfl := Except.ok.inj h
    refine ⟨hlabel, fun acc hacc => ⟨acc, [], ?_, hacc, (List.append_nil _).symm⟩⟩
    rw [if_neg fun hmem => List.not_mem_nil hmem.2]
    rfl
  | cons period periods ih =>
    obtain ⟨hnotMem, hnodup⟩ := List.nodup_cons.mp hnodup
    rw [List.foldlM_cons] at h
    cases hone : SimulatedFeed.addTickTo tick state period with
    | error crash =>
      rw [hone] at h
      cases h
    | ok state₁ =>
      rw [hone] at h
      obtain ⟨hlabel₁, hfirst⟩ := hlabel.addTickTo hone key
      obtain ⟨hlabel', hrest⟩ := ih hlabel₁ hnodup h
      refine ⟨hlabel', ?_⟩
      have hall := hfirst.append hrest
      -- the key belongs to the first period or to the others
      obtain ⟨symbol, period'⟩ := key
      by_cases hsymbol : symbol = tick.symbol
      · by_cases hperiod : period' = period
        · subst hsymbol hperiod
          simpa [hnotMem] using hall
        · simpa [hsymbol, hperiod] using hall
      · simpa [hsymbol] using hall

/-- The periods of a symbol are different. -/
lemma nodup_periodsOf (f : SimulatedFeed) (symbol : String) : (f.periodsOf symbol).Nodup := by
  unfold periodsOf
  rw [(List.perm_insertionSort _ _).nodup_iff]
  refine List.Nodup.map_on ?_ (f.accumulators.keys_nodup.filter _)
  rintro ⟨s, p⟩ hkey ⟨s', p'⟩ hkey' rfl
  have hs := of_decide_eq_true (List.mem_filter.mp hkey).2
  have hs' := of_decide_eq_true (List.mem_filter.mp hkey').2
  exact Prod.ext (hs.trans hs'.symm) rfl

/-- The period of an accumulator for the symbol. -/
lemma mem_periodsOf {f : SimulatedFeed} {acc : BarAccumulator}
    (h : f.accumulators.lookup key = some acc) : key.2 ∈ f.periodsOf key.1 := by
  unfold periodsOf
  rw [List.mem_insertionSort]
  refine List.mem_map_of_mem (List.mem_filter.mpr ⟨?_, by simp⟩)
  exact AList.mem_keys.mp (FiniteMap.mem_of_lookup h)

/-- **Step lemma.**  A tick goes to the accumulators of its symbol. -/
lemma Labelled.addTickToAll {f f' : SimulatedFeed} (hlabel : f.Labelled) {bars : List Bar}
    (h : f.addTickToAll tick = .ok (f', bars)) (key : String × String) :
    f'.Labelled ∧ KeyGets key (if key.1 = tick.symbol then [tick] else []) (f, []) (f', bars) := by
  obtain ⟨hlabel', hgets⟩ :=
    @Labelled.foldlM_addTickTo _ (f, []) _ hlabel _ (f.nodup_periodsOf tick.symbol) h key
  refine ⟨hlabel', fun acc hacc => ?_⟩
  have hmem := mem_periodsOf hacc
  by_cases hsymbol : key.1 = tick.symbol
  · rw [hsymbol] at hmem
    rw [if_pos ⟨hsymbol, hmem⟩] at hgets
    rw [if_pos hsymbol]
    exact hgets acc hacc
  · rw [if_neg fun hboth => hsymbol hboth.1] at hgets
    rw [if_neg hsymbol]
    exact hgets acc hacc

/-- One more tick. -/
lemma addTicksToAll_concat (f : SimulatedFeed) (ticks : List Tick) (tick : Tick) :
    f.addTicksToAll (ticks ++ [tick]) =
      (f.addTicksToAll ticks).bind fun before =>
        (before.1.addTickToAll tick).map fun result => (result.1, before.2 ++ result.2) := by
  unfold addTicksToAll
  rw [List.foldlM_append]
  refine congrArg (Except.bind _) (funext fun before => ?_)
  rw [List.foldlM_cons]
  cases before.1.addTickToAll tick <;> rfl

/-- **Each accumulator of a feed** gets the ticks of its symbol, in their order, whatever ticks of
other symbols come between them and whatever other periods are collected, and the bars with its key
are those that it completes. -/
theorem keyGets_addTicksToAll {f f' : SimulatedFeed} (hlabel : f.Labelled) {ticks : List Tick}
    {bars : List Bar} (h : f.addTicksToAll ticks = .ok (f', bars)) (key : String × String) :
    f'.Labelled ∧
      KeyGets key (ticks.filter fun tick => tick.symbol = key.1) (f, []) (f', bars) := by
  induction ticks using List.reverseRecOn generalizing f' bars with
  | nil =>
    cases h
    exact ⟨hlabel, fun acc hacc => ⟨acc, [], rfl, hacc, rfl⟩⟩
  | append_singleton ticks tick ih =>
    rw [addTicksToAll_concat] at h
    cases hrun : f.addTicksToAll ticks with
    | error crash =>
      rw [hrun] at h
      cases h
    | ok before =>
      rw [hrun] at h
      dsimp only [Except.bind] at h
      cases hlast : before.1.addTickToAll tick with
      | error crash =>
        rw [hlast] at h
        cases h
      | ok result =>
        rw [hlast] at h
        cases h
        obtain ⟨hlabel₁, hgets⟩ := ih hrun
        obtain ⟨hlabel', hstep⟩ := hlabel₁.addTickToAll hlast key
        refine ⟨hlabel', ?_⟩
        have hall := hgets.append (hstep.prepend before.2)
        by_cases hsymbol : tick.symbol = key.1
        · simpa [List.filter_append, hsymbol] using hall
        · simpa [List.filter_append, hsymbol, Ne.symm hsymbol] using hall

/-- A feed whose periods are not zero takes every sequence of ticks. -/
lemma Sound.addTicksToAll {f : SimulatedFeed} (h : f.Sound) (ticks : List Tick) :
    ∃ result, f.addTicksToAll ticks = .ok result ∧ result.1.Sound := by
  induction ticks using List.reverseRecOn with
  | nil => exact ⟨(f, []), rfl, h⟩
  | append_singleton ticks tick ih =>
    obtain ⟨before, hrun, hsound⟩ := ih
    obtain ⟨result, hlast, hsound'⟩ := hsound.addTickToAll tick
    refine ⟨(result.1, before.2 ++ result.2), ?_, hsound'⟩
    rw [addTicksToAll_concat, hrun]
    dsimp only [Except.bind]
    rw [hlast]
    rfl

/-- **The bars of a feed.**  When the accumulator of a key is new, the bars with the key are those
of the completed windows of the ticks of its symbol, whatever else the feed collects. -/
theorem bars_of_ticks {f : SimulatedFeed} (hsound : f.Sound) (hlabel : f.Labelled)
    {symbol period : String} {periodNs : ℤ}
    (hnew : f.accumulators.lookup (symbol, period) = some { periodNs := periodNs })
    (hpos : 0 < periodNs) (ticks : List Tick)
    (hstream : TickStream periodNs (ticks.filter fun tick => tick.symbol = symbol))
    (hfit : WindowsFit periodNs (ticks.filter fun tick => tick.symbol = symbol)) :
    ∃ f' bars, f.addTicksToAll ticks = .ok (f', bars) ∧
      bars.filter (fun bar => bar.key = (symbol, period)) =
        (Windows.completed (windowOf periodNs) (ticks.filter fun tick => tick.symbol = symbol)).map
          (barOf symbol period periodNs) := by
  obtain ⟨⟨f', bars⟩, hrun, -⟩ := hsound.addTicksToAll ticks
  obtain ⟨acc, mine, hmine, -, hbars⟩ :=
    (keyGets_addTicksToAll hlabel hrun (symbol, period)).2 _ hnew
  obtain ⟨acc', hcompleted⟩ :=
    @BarAccumulator.addTicks_eq_completed symbol period periodNs hpos _ hstream hfit
  rw [hcompleted] at hmine
  obtain ⟨-, rfl⟩ := Prod.mk.inj (Except.ok.inj hmine)
  exact ⟨f', bars, hrun, hbars⟩

end SimulatedFeed

end Quarcc
