import QuarccEngine.Gateways.SimulatedFeed
import QuarccEngine.Library.Trajectory

/-!
# Subscriptions of the simulated feed

`subscribe` and `unsubscribe` of `simulated_feed.cpp` keep four containers: the symbols, the counts
of the tick and of the bar subscriptions, and the accumulators of the bars.  `subscribe` updates all
that it touches before it reads the period of the bar, and does not take the updates back when the
period cannot be read and `period_to_ns` throws.

What is left behind is an accumulator with the period zero, with which a second subscription of the
same kind is content.  So both defects, the updates that stay and the accumulator without a period,
come from the subscriptions whose period is not read as a positive number.
-/

namespace Quarcc

/-! ## Calls -/

/-- A call of `subscribe` or of `unsubscribe`. -/
inductive SubscriptionCall where
  | subscribe (symbol : String) (period : Option String)
  | unsubscribe (symbol : String) (period : Option String)

/-- The period of a subscription is read as a positive number of nanoseconds. -/
def SubscriptionCall.Readable : SubscriptionCall → Prop
  | .subscribe _ period => ∀ p ∈ period, ∃ ns, periodToNs p = .ok ns ∧ 0 < ns
  | .unsubscribe _ _ => True

namespace SimulatedFeed

/-- The feed after a call, which may have thrown. -/
def call (f : SimulatedFeed) : SubscriptionCall → SimulatedFeed
  | .subscribe symbol period => (f.subscribe symbol period).1
  | .unsubscribe symbol period => f.unsubscribe symbol period

/-- A `subscribe` that throws leaves the four containers alone. -/
def Atomic (f : SimulatedFeed) : SubscriptionCall → Prop
  | .subscribe symbol period =>
    (f.subscribe symbol period).2 ≠ .ok () →
      (f.subscribe symbol period).1.symbols = f.symbols ∧
        (f.subscribe symbol period).1.tickSubscriptions = f.tickSubscriptions ∧
        (f.subscribe symbol period).1.barSubscriptions = f.barSubscriptions ∧
        (f.subscribe symbol period).1.accumulators = f.accumulators
  | .unsubscribe _ _ => True

/-- Every accumulator has a positive period. -/
def PositivePeriods (f : SimulatedFeed) : Prop :=
  ∀ key acc, f.accumulators.lookup key = some acc → 0 < acc.periodNs

/-- An accumulator has the period that its key says, or none. -/
def KeyedPeriods (f : SimulatedFeed) : Prop :=
  ∀ key acc, f.accumulators.lookup key = some acc →
    periodToNs key.2 = .ok acc.periodNs ∨ acc.periodNs = 0

variable {f : SimulatedFeed}

/-- With positive periods, the loop can align every time. -/
lemma PositivePeriods.align (h : f.PositivePeriods) {key : String × String} {acc : BarAccumulator}
    (hacc : f.accumulators.lookup key = some acc) (tsNs : ℤ) :
    ∃ start, alignToPeriodStart tsNs acc.periodNs = .ok start := by
  have hpos : acc.periodNs ≠ 0 := (h key acc hacc).ne'
  exact ⟨_, if_neg hpos⟩

/-- `unsubscribe` only takes accumulators away. -/
lemma lookup_unsubscribe {symbol : String} {period : Option String} {key : String × String}
    {acc : BarAccumulator}
    (h : (f.unsubscribe symbol period).accumulators.lookup key = some acc) :
    f.accumulators.lookup key = some acc := by
  have hsymbol : ∀ f : SimulatedFeed, (f.dropSymbol symbol).accumulators = f.accumulators := by
    intro f
    unfold dropSymbol
    split_ifs <;> rfl
  unfold unsubscribe at h
  dsimp only at h
  rw [hsymbol] at h
  cases period with
  | none =>
    unfold dropTick at h
    cases hcount : f.tickSubscriptions.lookup symbol with
    | none => simpa [hcount] using h
    | some n =>
      simp only [hcount] at h
      split_ifs at h <;> exact h
  | some p =>
    unfold dropBar at h
    cases hcount : f.barSubscriptions.lookup (symbol, p) with
    | none => simpa [hcount] using h
    | some n =>
      simp only [hcount] at h
      split_ifs at h
      · rw [FiniteMap.lookup_erase_eq] at h
        split_ifs at h
        exact h
      · exact h

/-- An accumulator is as it was, or it was just made for the bar that is subscribed to. -/
lemma lookup_subscribe {symbol : String} {period : Option String} {key : String × String}
    {acc : BarAccumulator}
    (h : (f.subscribe symbol period).1.accumulators.lookup key = some acc) :
    f.accumulators.lookup key = some acc ∨
      ∃ p, period = some p ∧ key = (symbol, p) ∧ (symbol, p) ∉ f.accumulators ∧
        ((periodToNs p = .ok acc.periodNs ∧ (f.subscribe symbol period).2 = .ok ()) ∨
          ((∀ ns, periodToNs p ≠ .ok ns) ∧ acc.periodNs = 0)) := by
  rcases f.subscribe_cases symbol period with
    ⟨hsame, -, -⟩ | ⟨p, hp, hmem, ⟨ns, hns, hok, hinsert⟩ | ⟨what, hwhat, -, hinsert⟩⟩
  · exact Or.inl (hsame ▸ h)
  · rw [hinsert, FiniteMap.lookup_insert_eq] at h
    split_ifs at h with hkey
    · obtain rfl := Option.some.inj h
      exact Or.inr ⟨p, hp, hkey, hmem, Or.inl ⟨hns, hok⟩⟩
    · exact Or.inl h
  · rw [hinsert, FiniteMap.lookup_insert_eq] at h
    split_ifs at h with hkey
    · obtain rfl := Option.some.inj h
      refine Or.inr ⟨p, hp, hkey, hmem, Or.inr ⟨fun ns hns => ?_, rfl⟩⟩
      rw [hwhat] at hns
      cases hns
    · exact Or.inl h

/-- Every call keeps the periods with their keys. -/
lemma KeyedPeriods.call (h : f.KeyedPeriods) (c : SubscriptionCall) : (f.call c).KeyedPeriods := by
  intro key acc hacc
  cases c with
  | unsubscribe symbol period => exact h key acc (lookup_unsubscribe hacc)
  | subscribe symbol period =>
    rcases lookup_subscribe hacc with hold | ⟨p, -, rfl, -, ⟨hns, -⟩ | ⟨-, hzero⟩⟩
    · exact h key acc hold
    · exact Or.inl hns
    · exact Or.inr hzero

/-- A subscription that is read, or was read before, leaves positive periods behind, and no other
does. -/
lemma positivePeriods_call_iff (hkeyed : f.KeyedPeriods) (h : f.PositivePeriods)
    (c : SubscriptionCall) : (f.call c).PositivePeriods ↔ c.Readable := by
  cases c with
  | unsubscribe symbol period =>
    exact iff_of_true (fun key acc hacc => h key acc (lookup_unsubscribe hacc)) trivial
  | subscribe symbol period =>
    constructor
    · intro hafter p hp
      rcases f.subscribe_cases symbol period with
        ⟨-, -, hmem⟩ | ⟨p', hp', -, ⟨ns, hns, -, hinsert⟩ | ⟨what, -, -, hinsert⟩⟩
      · -- the bar has an accumulator, whose period was read
        obtain ⟨acc, hacc⟩ := Option.isSome_iff_exists.mp (AList.lookup_isSome.mpr (hmem p hp))
        have hpos := h (symbol, p) acc hacc
        rcases hkeyed (symbol, p) acc hacc with hread | hzero
        · exact ⟨acc.periodNs, hread, hpos⟩
        · exact absurd hzero hpos.ne'
      · obtain rfl := Option.some.inj (hp.symm.trans hp')
        have hnew := hafter (symbol, p) { periodNs := ns } (by
          change AList.lookup _ (f.subscribe symbol period).1.accumulators = _
          rw [hinsert, AList.lookup_insert])
        exact ⟨ns, hns, hnew⟩
      · have hnew := hafter (symbol, p') {} (by
          change AList.lookup _ (f.subscribe symbol period).1.accumulators = _
          rw [hinsert, AList.lookup_insert])
        exact absurd hnew (lt_irrefl 0)
    · intro hread key acc hacc
      rcases lookup_subscribe hacc with hold | ⟨p, hp, -, -, ⟨hns, -⟩ | ⟨hnot, -⟩⟩
      · exact h key acc hold
      · obtain ⟨ns, hns', hpos⟩ := hread p hp
        rw [hns] at hns'
        rwa [Except.ok.inj hns']
      · obtain ⟨ns, hns, -⟩ := hread p hp
        exact absurd hns (hnot ns)

/-- A subscription whose period is read does not throw. -/
lemma atomic_of_readable (f : SimulatedFeed) {c : SubscriptionCall} (h : c.Readable) :
    f.Atomic c := by
  cases c with
  | unsubscribe symbol period => trivial
  | subscribe symbol period =>
    intro hthrows
    refine absurd ((f.subscribe_ok_iff symbol period).mpr fun p hp => ?_) hthrows
    obtain ⟨ns, hns, -⟩ := h p hp
    exact Or.inl ⟨ns, hns⟩

/-- **Subscriptions.**  Along the calls of `subscribe` and `unsubscribe` on a new feed, the
subscriptions that throw leave everything alone and all accumulators have positive periods, with
which the loop can align any time, exactly when every period that is subscribed to is read as a
positive number. -/
theorem atomic_positive_iff_readable (calls : List SubscriptionCall) :
    (Trajectory.AllSteps call Atomic {} calls ∧
      Trajectory.EveryState call
        (fun f => f.PositivePeriods ∧
          ∀ key acc tsNs, f.accumulators.lookup key = some acc →
            ∃ start, alignToPeriodStart tsNs acc.periodNs = .ok start) {} calls) ↔
      ∀ c ∈ calls, c.Readable := by
  have hiff : Trajectory.EveryState call PositivePeriods {} calls ↔
      Trajectory.AllSteps call (fun _ c => c.Readable) {} calls :=
    Trajectory.everyState_iff_of_invariant (I := KeyedPeriods) (fun f c hkeyed => hkeyed.call c)
      (fun f c hkeyed hpos => positivePeriods_call_iff hkeyed hpos c)
      (fun key acc hacc => by cases hacc) (fun key acc hacc => by cases hacc)
  constructor
  · rintro ⟨-, hevery⟩
    exact Trajectory.forall_of_allSteps (hiff.mp (hevery.mono fun f h => h.1))
  · intro hread
    have hall : Trajectory.AllSteps call (fun _ c => c.Readable) {} calls :=
      Trajectory.allSteps_of_forall hread
    refine ⟨hall.mono fun f c h => f.atomic_of_readable h, ?_⟩
    exact (hiff.mpr hall).mono fun f h => ⟨h, fun key acc tsNs hacc => h.align hacc tsNs⟩

/-- A subscription with an unreadable period throws, but stays: the symbol is simulated, the count
is one, the accumulator has the period zero, and the same subscription does not throw again. -/
theorem subscribe_not_atomic :
    (¬ ∀ calls : List SubscriptionCall,
      Trajectory.AllSteps call Atomic {} calls ∧
        Trajectory.EveryState call
          (fun f => f.PositivePeriods ∧
            ∀ key acc tsNs, f.accumulators.lookup key = some acc →
              ∃ start, alignToPeriodStart tsNs acc.periodNs = .ok start) {} calls) ∧
      (({} : SimulatedFeed).subscribe "AAPL" (some "5x")).2 = .error "Invalid BarPeriod" ∧
      ((({} : SimulatedFeed).subscribe "AAPL" (some "5x")).1.subscribe "AAPL" (some "5x")).2 =
        .ok () := by
  refine ⟨fun h => ?_, by decide +kernel, by decide +kernel⟩
  obtain ⟨hatomic, -⟩ := h [.subscribe "AAPL" (some "5x")]
  have hthrows : (({} : SimulatedFeed).subscribe "AAPL" (some "5x")).2 ≠ .ok () := by
    decide +kernel
  have hsymbols := (hatomic.1 hthrows).1
  exact absurd hsymbols (by decide +kernel)

end SimulatedFeed

end Quarcc
