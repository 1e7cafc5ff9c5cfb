import QuarccEngine.Gateways.Bars
import QuarccEngine.Gateways.Subscriptions
import QuarccEngine.Library.Counters

/-!
# Subscription counts

The bookkeeping of the simulated feed: two reference counts, the list of the symbols that are
simulated and the map of the accumulators agree after every sequence of calls, whatever the loop of
the feed does between them and also when a call throws, because `subscribe` counts the bar and
inserts its accumulator before it reads the period.

So a round of the loop in which nothing is subscribed or unsubscribed hands on nothing that nobody
asked for.
-/

namespace Quarcc

/-- A step of a feed: a call, or `emit_loop` begins a round or goes on with its next symbol. -/
inductive FeedStep where
  | call (c : SubscriptionCall)
  | beginRound (nowNs : ℤ)
  | emit (noise : ℚ)

namespace SimulatedFeed

/-- The feed after a step.  A division by zero ends the process; the feed stays as it was. -/
def step (f : SimulatedFeed) : FeedStep → SimulatedFeed
  | .call c => f.call c
  | .beginRound nowNs => f.beginRound nowNs
  | .emit noise =>
    match f.emit noise with
    | .ok result => result.1
    | .error _ => f

/-- `emit_loop` goes on with one symbol for every noise that it draws: the feed, and all ticks and
bars that it hands on. -/
def emits (f : SimulatedFeed) : List ℚ → Except Crash (SimulatedFeed × List Tick × List Bar)
  | [] => .ok (f, [], [])
  | noise :: noises =>
    (f.emit noise).bind fun first =>
      (first.1.emits noises).map fun rest =>
        (rest.1, first.2.1 ++ rest.2.1, first.2.2 ++ rest.2.2)

/-- Somebody is subscribed to the ticks or to some bar of the symbol. -/
def Wanted (f : SimulatedFeed) (symbol : String) : Prop :=
  symbol ∈ f.tickSubscriptions ∨ ∃ period, (symbol, period) ∈ f.barSubscriptions

/-- The counts are positive, every bar that is counted has an accumulator, and no symbol is listed
twice. -/
structure Counted (f : SimulatedFeed) : Prop where
  keys : ∀ key, key ∈ f.accumulators ↔ key ∈ f.barSubscriptions
  ticks : Counters.Positive f.tickSubscriptions
  bars : Counters.Positive f.barSubscriptions
  nodup : f.symbols.Nodup

/-- The symbols that are simulated are those that are wanted. -/
def SymbolsWanted (f : SimulatedFeed) : Prop :=
  ∀ symbol, symbol ∈ f.symbols ↔ f.Wanted symbol

/-- A round of the loop that begins in this state, however many symbols it comes to, hands on ticks
of symbols whose ticks are subscribed to and bars that are subscribed to. -/
def EmitsSubscribed (f : SimulatedFeed) : Prop :=
  f.loop.symbols = [] → ∀ nowNs noises f' ticks bars,
    (f.beginRound nowNs).emits noises = .ok (f', ticks, bars) →
      (∀ tick ∈ ticks, tick.symbol ∈ f.tickSubscriptions) ∧
        ∀ bar ∈ bars, bar.key ∈ f.barSubscriptions

variable {f : SimulatedFeed} {symbol : String}

/-! ## Subscribing -/

/-- `++counts[key]` counts the key up. -/
lemma increment_eq_up {κ : Type} [DecidableEq κ] (counts : AList fun _ : κ => ℤ) (key : κ) :
    increment counts key = Counters.up counts key := rfl

/-- `addSymbol` changes the list of the symbols only. -/
lemma addSymbol_eq (f : SimulatedFeed) (symbol : String) :
    f.addSymbol symbol = { f with symbols := (f.addSymbol symbol).symbols } := by
  unfold addSymbol
  split_ifs <;> rfl

lemma mem_addSymbol {other : String} :
    other ∈ (f.addSymbol symbol).symbols ↔ other = symbol ∨ other ∈ f.symbols := by
  unfold addSymbol
  split_ifs with hmem
  · constructor
    · exact Or.inr
    · rintro (rfl | hold)
      · exact hmem
      · exact hold
  · rw [List.mem_append, List.mem_singleton]
    exact or_comm

lemma nodup_addSymbol (h : f.symbols.Nodup) (symbol : String) :
    (f.addSymbol symbol).symbols.Nodup := by
  unfold addSymbol
  split_ifs with hmem
  · exact h
  · exact List.nodup_append.mpr ⟨h, List.nodup_singleton _, by
      rintro other hother _ hsymbol rfl
      exact hmem (List.mem_singleton.mp hsymbol ▸ hother)⟩

/-- What `addBar` does apart from its exception: it counts the bar, which has an accumulator
then. -/
lemma addBar_spec (f : SimulatedFeed) (symbol period : String) :
    (f.addBar symbol period).1.symbols = f.symbols ∧
      (f.addBar symbol period).1.tickSubscriptions = f.tickSubscriptions ∧
      (f.addBar symbol period).1.barSubscriptions =
        Counters.up f.barSubscriptions (symbol, period) ∧
      (f.addBar symbol period).1.loop = f.loop ∧
      ∀ key, key ∈ (f.addBar symbol period).1.accumulators ↔
        key = (symbol, period) ∨ key ∈ f.accumulators := by
  unfold addBar
  dsimp only
  split_ifs with hmem
  · refine ⟨rfl, rfl, rfl, rfl, fun key => ⟨Or.inr, ?_⟩⟩
    rintro (rfl | hold)
    · exact hmem
    · exact hold
  · cases periodToNs period with
    | ok ns => exact ⟨rfl, rfl, rfl, rfl, fun key => AList.mem_insert _⟩
    | error what => exact ⟨rfl, rfl, rfl, rfl, fun key => AList.mem_insert _⟩

/-- `subscribe` keeps the books, also when it throws. -/
lemma Counted.subscribe (h : f.Counted) (symbol : String) (period : Option String) :
    (f.subscribe symbol period).1.Counted := by
  unfold SimulatedFeed.subscribe
  rw [addSymbol_eq]
  have hnodup := nodup_addSymbol h.nodup symbol
  cases period with
  | none => exact ⟨h.keys, h.ticks.up symbol, h.bars, hnodup⟩
  | some period =>
    obtain ⟨hsymbols, hticks, hbars, -, hkeys⟩ :=
      addBar_spec { f with symbols := (f.addSymbol symbol).symbols } symbol period
    refine ⟨fun key => ?_, ?_, ?_, ?_⟩
    · rw [hkeys, hbars, Counters.mem_up, h.keys]
    · rw [hticks]
      exact h.ticks
    · rw [hbars]
      exact h.bars.up _
    · rw [hsymbols]
      exact hnodup

/-- `subscribe` makes its symbol wanted and no other one. -/
lemma wanted_subscribe (f : SimulatedFeed) (symbol : String) (period : Option String)
    (other : String) :
    (f.subscribe symbol period).1.Wanted other ↔ other = symbol ∨ f.Wanted other := by
  unfold SimulatedFeed.subscribe Wanted
  rw [addSymbol_eq]
  cases period with
  | none =>
    dsimp only
    rw [increment_eq_up, Counters.mem_up, or_assoc]
  | some period =>
    obtain ⟨-, hticks, hbars, -, -⟩ :=
      addBar_spec { f with symbols := (f.addSymbol symbol).symbols } symbol period
    dsimp only
    rw [hticks, hbars]
    simp only [Counters.mem_up, Prod.mk.injEq]
    constructor
    · rintro (htick | ⟨p, ⟨rfl, -⟩ | hbar⟩)
      · exact Or.inr (Or.inl htick)
      · exact Or.inl rfl
      · exact Or.inr (Or.inr ⟨p, hbar⟩)
    · rintro (rfl | htick | ⟨p, hbar⟩)
      · exact Or.inr ⟨period, Or.inl ⟨rfl, rfl⟩⟩
      · exact Or.inl htick
      · exact Or.inr ⟨p, Or.inr hbar⟩

/-- `subscribe` simulates its symbol from now on. -/
lemma mem_symbols_subscribe (f : SimulatedFeed) (symbol : String) (period : Option String)
    (other : String) :
    other ∈ (f.subscribe symbol period).1.symbols ↔ other = symbol ∨ other ∈ f.symbols := by
  unfold SimulatedFeed.subscribe
  cases period with
  | none => exact mem_addSymbol
  | some period =>
    dsimp only
    rw [(addBar_spec _ symbol period).1]
    exact mem_addSymbol

/-! ## Unsubscribing -/

/-- `dropTick` counts the ticks of the symbol down. -/
lemma dropTick_eq (f : SimulatedFeed) (symbol : String) :
    f.dropTick symbol =
      { f with tickSubscriptions := Counters.down f.tickSubscriptions symbol } := by
  unfold dropTick Counters.down
  cases f.tickSubscriptions.lookup symbol with
  | none => rfl
  | some n =>
    dsimp only
    split_ifs <;> rfl

/-- `dropBar` counts the bar down, whose accumulator goes with its last count. -/
lemma dropBar_eq (f : SimulatedFeed) (symbol period : String) :
    f.dropBar symbol period =
      { f with
        barSubscriptions := Counters.down f.barSubscriptions (symbol, period)
        accumulators :=
          if f.barSubscriptions.lookup (symbol, period) = some 1 then
            f.accumulators.erase (symbol, period)
          else f.accumulators } := by
  unfold dropBar Counters.down
  cases f.barSubscriptions.lookup (symbol, period) with
  | none => rfl
  | some n =>
    dsimp only
    by_cases hlast : n - 1 = 0
    · obtain rfl : n = 1 := by omega
      rfl
    · have hn : ¬ some n = some 1 := fun h => hlast (by rw [Option.some.inj h]; rfl)
      rw [if_neg hlast, if_neg hlast, if_neg hn]

/-- What `unsubscribe` does before it looks whether the symbol is still wanted. -/
def dropOne (f : SimulatedFeed) (symbol : String) : Option String → SimulatedFeed
  | some period => f.dropBar symbol period
  | none => f.dropTick symbol

lemma unsubscribe_eq (f : SimulatedFeed) (symbol : String) (period : Option String) :
    f.unsubscribe symbol period = (f.dropOne symbol period).dropSymbol symbol := by
  cases period <;> rfl

@[simp] lemma dropOne_symbols (f : SimulatedFeed) (symbol : String) (period : Option String) :
    (f.dropOne symbol period).symbols = f.symbols := by
  cases period with
  | none => rw [dropOne, dropTick_eq]
  | some period => rw [dropOne, dropBar_eq]

/-- Counting down keeps the books. -/
lemma Counted.dropOne (h : f.Counted) (symbol : String) (period : Option String) :
    (f.dropOne symbol period).Counted := by
  cases period with
  | none =>
    rw [SimulatedFeed.dropOne, dropTick_eq]
    exact ⟨h.keys, h.ticks.down symbol, h.bars, h.nodup⟩
  | some period =>
    rw [SimulatedFeed.dropOne, dropBar_eq]
    refine ⟨fun key => ?_, h.ticks, h.bars.down _, h.nodup⟩
    dsimp only
    rw [Counters.mem_down, ← h.keys]
    split_ifs with hlast
    · rw [AList.mem_erase]
      tauto
    · tauto

/-- Counting down a subscription of one symbol leaves the others wanted. -/
lemma wanted_dropOne {other : String} (hne : other ≠ symbol) (period : Option String) :
    (f.dropOne symbol period).Wanted other ↔ f.Wanted other := by
  unfold Wanted
  cases period with
  | none =>
    rw [SimulatedFeed.dropOne, dropTick_eq]
    dsimp only
    rw [Counters.mem_down]
    tauto
  | some period =>
    rw [SimulatedFeed.dropOne, dropBar_eq]
    dsimp only
    refine or_congr_right (exists_congr fun p => ?_)
    have hkey : (other, p) ≠ (symbol, period) := fun h => hne (Prod.mk.inj h).1
    rw [Counters.mem_down]
    tauto

/-- Counting down makes no symbol wanted. -/
lemma Wanted.of_dropOne {period : Option String} {other : String}
    (h : (f.dropOne symbol period).Wanted other) : f.Wanted other := by
  unfold Wanted at h ⊢
  cases period with
  | none =>
    rw [SimulatedFeed.dropOne, dropTick_eq] at h
    exact h.imp_left fun htick => (Counters.mem_down.mp htick).1
  | some period =>
    rw [SimulatedFeed.dropOne, dropBar_eq] at h
    exact h.imp_right fun ⟨p, hbar⟩ => ⟨p, (Counters.mem_down.mp hbar).1⟩

/-- `dropSymbol` takes the symbol away exactly when it is not wanted. -/
lemma dropSymbol_eq (f : SimulatedFeed) (symbol : String) :
    (f.Wanted symbol ∧ f.dropSymbol symbol = f) ∨
      (¬ f.Wanted symbol ∧
        f.dropSymbol symbol =
          { f with symbols := f.symbols.filter fun other => other ≠ symbol }) := by
  have htest : (f.barSubscriptions.keys.any (fun key => key.1 = symbol) ||
      symbol ∈ f.tickSubscriptions) = true ↔ f.Wanted symbol := by
    rw [Bool.or_eq_true, List.any_eq_true, decide_eq_true_eq, or_comm]
    apply or_congr_right
    constructor
    · rintro ⟨⟨s, p⟩, hkey, hs⟩
      obtain rfl := of_decide_eq_true hs
      exact ⟨p, AList.mem_keys.mpr hkey⟩
    · rintro ⟨p, hkey⟩
      exact ⟨(symbol, p), AList.mem_keys.mp hkey, decide_eq_true rfl⟩
  unfold dropSymbol
  split_ifs with hwanted
  · exact Or.inl ⟨htest.mp hwanted, rfl⟩
  · exact Or.inr ⟨fun h => hwanted (htest.mpr h), rfl⟩

/-! ## The books are kept -/

/-- Every call keeps the books. -/
lemma Counted.call (h : f.Counted) (c : SubscriptionCall) : (f.call c).Counted := by
  cases c with
  | subscribe symbol period => exact h.subscribe symbol period
  | unsubscribe symbol period =>
    have hdropped := h.dropOne symbol period
    change (f.unsubscribe symbol period).Counted
    rw [unsubscribe_eq]
    rcases (f.dropOne symbol period).dropSymbol_eq symbol with ⟨-, heq⟩ | ⟨-, heq⟩
    · rwa [heq]
    · rw [heq]
      exact ⟨hdropped.keys, hdropped.ticks, hdropped.bars, hdropped.nodup.filter _⟩

/-- Every call keeps the symbols wanted. -/
lemma SymbolsWanted.call (h : f.SymbolsWanted) (c : SubscriptionCall) :
    (f.call c).SymbolsWanted := by
  intro other
  cases c with
  | subscribe symbol period =>
    change other ∈ (f.subscribe symbol period).1.symbols ↔
      (f.subscribe symbol period).1.Wanted other
    rw [mem_symbols_subscribe, wanted_subscribe, h other]
  | unsubscribe symbol period =>
    change other ∈ (f.unsubscribe symbol period).symbols ↔
      (f.unsubscribe symbol period).Wanted other
    rw [unsubscribe_eq]
    rcases (f.dropOne symbol period).dropSymbol_eq symbol with ⟨hwanted, heq⟩ | ⟨hwanted, heq⟩
    · rw [heq, dropOne_symbols, h other]
      by_cases hother : other = symbol
      · rw [hother]
        exact iff_of_true hwanted.of_dropOne hwanted
      · exact (wanted_dropOne hother period).symm
    · rw [heq]
      change other ∈ (f.dropOne symbol period).symbols.filter _ ↔
        (f.dropOne symbol period).Wanted other
      rw [List.mem_filter, dropOne_symbols, h other]
      by_cases hother : other = symbol
      · rw [hother]
        simp [hwanted]
      · rw [wanted_dropOne hother]
        simp [hother]

/-! ## The loop -/

/-- What the loop over the accumulators of a symbol has done: it has touched the accumulators only,
all of them are still there, and the bars that it has completed have their keys. -/
structure Emitting (f : SimulatedFeed) (state : SimulatedFeed × List Bar) : Prop where
  same : state.1 = { f with accumulators := state.1.accumulators }
  keys : ∀ key, key ∈ state.1.accumulators ↔ key ∈ f.accumulators
  labelled : state.1.Labelled
  bars : ∀ bar ∈ state.2, bar.key ∈ f.accumulators

/-- One accumulator more. -/
lemma Emitting.addTickTo {tick : Tick} {state state' : SimulatedFeed × List Bar}
    (h : f.Emitting state) {period : String}
    (hok : SimulatedFeed.addTickTo tick state period = .ok state') : f.Emitting state' := by
  unfold SimulatedFeed.addTickTo at hok
  cases hacc : state.1.accumulators.lookup (tick.symbol, period) with
  | none =>
    rw [hacc] at hok
    rwa [← Except.ok.inj hok]
  | some acc =>
    rw [hacc] at hok
    dsimp only at hok
    cases hadd : acc.addTick tick.symbol period tick with
    | error crash =>
      rw [hadd] at hok
      cases hok
    | ok result =>
      rw [hadd] at hok
      obtain rfl := Except.ok.inj hok
      have hmem : (tick.symbol, period) ∈ state.1.accumulators := FiniteMap.mem_of_lookup hacc
      obtain ⟨hlabel, hbars⟩ := (h.labelled _ acc hacc).addTick hadd
      refine ⟨?_, fun key => ?_, fun key acc' hacc' => ?_, fun bar hbar => ?_⟩
      · dsimp only
        rw [h.same]
      · dsimp only
        rw [AList.mem_insert, h.keys]
        constructor
        · rintro (rfl | hold)
          · exact (h.keys _).mp hmem
          · exact hold
        · exact Or.inr
      · dsimp only at hacc'
        rw [FiniteMap.lookup_insert_eq] at hacc'
        split_ifs at hacc' with hkey
        · rw [hkey, ← Option.some.inj hacc']
          exact hlabel
        · exact h.labelled key acc' hacc'
      · rcases List.mem_append.mp hbar with hold | hnew
        · exact h.bars bar hold
        · rw [hbars bar hnew]
          exact (h.keys _).mp hmem

/-- The loop over the accumulators. -/
lemma Emitting.addTickToAll (h : f.Labelled) {tick : Tick} {result : SimulatedFeed × List Bar}
    (hok : f.addTickToAll tick = .ok result) : f.Emitting result := by
  have hstart : f.Emitting (f, []) := ⟨rfl, fun _ => Iff.rfl, h, by simp⟩
  exact Trajectory.invariant_of_foldlM_ok (I := fun state => f.Emitting state)
    (fun _ _ _ hstate _ hone => hstate.addTickTo hone) hstart hok

/-- From one state of the loop to another nothing is subscribed or unsubscribed. -/
structure SameDemand (f f' : SimulatedFeed) : Prop where
  symbols : f'.symbols = f.symbols
  ticks : f'.tickSubscriptions = f.tickSubscriptions
  bars : f'.barSubscriptions = f.barSubscriptions
  copy : f'.loop.tickSubscriptions = f.loop.tickSubscriptions
  keys : ∀ key, key ∈ f'.accumulators ↔ key ∈ f.accumulators

/-- One symbol: the tick is one of the symbols whose ticks were subscribed to when the round began,
and the bars are those of accumulators. -/
lemma emit_spec (h : f.Labelled) {noise : ℚ} {f' : SimulatedFeed} {ticks : List Tick}
    {bars : List Bar} (hok : f.emit noise = .ok (f', ticks, bars)) :
    f.SameDemand f' ∧ f'.Labelled ∧
      (∀ tick ∈ ticks, tick.symbol ∈ f.loop.tickSubscriptions) ∧
      ∀ bar ∈ bars, bar.key ∈ f.accumulators := by
  unfold emit at hok
  cases hsymbols : f.loop.symbols with
  | nil =>
    rw [hsymbols] at hok
    cases hok
    exact ⟨⟨rfl, rfl, rfl, rfl, fun _ => Iff.rfl⟩, h, by simp, by simp⟩
  | cons symbol rest =>
    rw [hsymbols] at hok
    dsimp only at hok
    cases hall : f.addTickToAll
        (tickAt symbol (nextPrice ((f.loop.prices.lookup symbol).getD 0) noise) f.loop.nowNs) with
    | error crash =>
      rw [hall] at hok
      cases hok
    | ok result =>
      rw [hall] at hok
      cases hok
      have hemitting := Emitting.addTickToAll h hall
      refine ⟨⟨?_, ?_, ?_, rfl, hemitting.keys⟩, hemitting.labelled, ?_, hemitting.bars⟩
      · dsimp only
        rw [hemitting.same]
      · dsimp only
        rw [hemitting.same]
      · dsimp only
        rw [hemitting.same]
      · intro tick htick
        split_ifs at htick with hmem
        · rw [List.mem_singleton.mp htick]
          exact hmem
        · exact absurd htick List.not_mem_nil

/-- All symbols of a round. -/
lemma emits_spec (h : f.Labelled) {noises : List ℚ} {f' : SimulatedFeed} {ticks : List Tick}
    {bars : List Bar} (hok : f.emits noises = .ok (f', ticks, bars)) :
    (∀ tick ∈ ticks, tick.symbol ∈ f.loop.tickSubscriptions) ∧
      ∀ bar ∈ bars, bar.key ∈ f.accumulators := by
  induction noises generalizing f ticks bars with
  | nil =>
    cases hok
    exact ⟨by simp, by simp⟩
  | cons noise noises ih =>
    unfold emits at hok
    cases hfirst : f.emit noise with
    | error crash =>
      rw [hfirst] at hok
      cases hok
    | ok first =>
      obtain ⟨f₁, ticks₁, bars₁⟩ := first
      rw [hfirst] at hok
      dsimp only [Except.bind] at hok
      cases hrest : f₁.emits noises with
      | error crash =>
        rw [hrest] at hok
        cases hok
      | ok rest =>
        rw [hrest] at hok
        cases hok
        obtain ⟨hsame, hlabel, hticks, hbars⟩ := emit_spec h hfirst
        obtain ⟨hticks', hbars'⟩ := ih hlabel hrest
        constructor
        · intro tick htick
          rcases List.mem_append.mp htick with hone | hmore
          · exact hticks tick hone
          · rw [← hsame.copy]
            exact hticks' tick hmore
        · intro bar hbar
          rcases List.mem_append.mp hbar with hone | hmore
          · exact hbars bar hone
          · exact (hsame.keys _).mp (hbars' bar hmore)

/-- **A round without new demand.**  What a round hands on was subscribed to when it began. -/
lemma Counted.emitsSubscribed (h : f.Counted) (hlabel : f.Labelled) : f.EmitsSubscribed := by
  intro hidle nowNs noises f' ticks bars hok
  have hround : f.beginRound nowNs =
      { f with
        loop :=
          { f.loop with
            symbols := f.symbols, tickSubscriptions := f.tickSubscriptions, nowNs := nowNs } } :=
    if_pos hidle
  have hlabelled : (f.beginRound nowNs).Labelled := by
    rw [hround]
    exact hlabel
  obtain ⟨hticks, hbars⟩ := emits_spec hlabelled hok
  rw [hround] at hticks hbars
  exact ⟨hticks, fun bar hbar => (h.keys _).mp (hbars bar hbar)⟩

/-! ## Runs -/

/-- `unsubscribe` leaves the bars that are under way with their keys. -/
lemma Labelled.call (h : f.Labelled) (c : SubscriptionCall) : (f.call c).Labelled := by
  cases c with
  | subscribe symbol period => exact h.subscribe symbol period
  | unsubscribe symbol period => exact fun key acc hacc => h key acc (lookup_unsubscribe hacc)

/-- The books and the keys of the bars under way. -/
structure Orderly (f : SimulatedFeed) : Prop where
  counted : f.Counted
  wanted : f.SymbolsWanted
  labelled : f.Labelled

lemma orderly_start : ({} : SimulatedFeed).Orderly where
  counted := ⟨fun _ => Iff.rfl, Counters.positive_empty, Counters.positive_empty, List.nodup_nil⟩
  wanted := by
    intro symbol
    apply iff_of_false List.not_mem_nil
    rintro (hmem | ⟨period, hmem⟩)
    · exact AList.notMem_empty symbol hmem
    · exact AList.notMem_empty (symbol, period) hmem
  labelled := labelled_start

/-- What touches neither the symbols nor the counts nor the keys keeps the books. -/
lemma Orderly.of_sameDemand {f' : SimulatedFeed} (h : f.Orderly) (hsame : f.SameDemand f')
    (hlabel : f'.Labelled) : f'.Orderly := by
  refine ⟨⟨fun key => ?_, ?_, ?_, ?_⟩, fun symbol => ?_, hlabel⟩
  · rw [hsame.keys, hsame.bars]
    exact h.counted.keys key
  · rw [hsame.ticks]
    exact h.counted.ticks
  · rw [hsame.bars]
    exact h.counted.bars
  · rw [hsame.symbols]
    exact h.counted.nodup
  · unfold Wanted
    rw [hsame.symbols, hsame.ticks, hsame.bars]
    exact h.wanted symbol

/-- **Step lemma.** -/
lemma Orderly.step (h : f.Orderly) (s : FeedStep) : (f.step s).Orderly := by
  cases s with
  | call c => exact ⟨h.counted.call c, h.wanted.call c, h.labelled.call c⟩
  | beginRound nowNs =>
    change (f.beginRound nowNs).Orderly
    unfold SimulatedFeed.beginRound
    split_ifs
    · exact ⟨⟨h.counted.keys, h.counted.ticks, h.counted.bars, h.counted.nodup⟩, h.wanted,
        h.labelled⟩
    · exact h
  | emit noise =>
    unfold SimulatedFeed.step
    dsimp only
    cases hemit : f.emit noise with
    | error crash => exact h
    | ok result =>
      obtain ⟨hsame, hlabel, -, -⟩ := emit_spec h.labelled hemit
      exact h.of_sameDemand hsame hlabel

/-- **Subscription counts.**  In every state of a feed the accumulators are those of the bars that
are counted, all counts are positive, the symbols are listed once each and are the ones that
somebody is subscribed to; and a round of the loop that begins in this state and meets no new demand
hands on only what is subscribed to. -/
theorem demand_counted (steps : List FeedStep) :
    Trajectory.EveryState step
      (fun f => f.Counted ∧ f.SymbolsWanted ∧ f.EmitsSubscribed) {} steps := by
  have hall : Trajectory.EveryState step Orderly {} steps :=
    Trajectory.everyState_of_step (fun _ s h => h.step s) orderly_start
  exact hall.mono fun f h => ⟨h.counted, h.wanted, h.counted.emitsSubscribed h.labelled⟩

end SimulatedFeed

end Quarcc
