import Mathlib.Tactic.Ring
import QuarccEngine.Core.FeedRegistry
import QuarccEngine.Gateways.SubscriptionCounts

/-!
# Feed demand

The registry keeps the order managers that are registered for a feed, a symbol and a period, and the
simulated feed counts the subscriptions.  Subscriptions are static: `unregister_manager` takes an
order manager off the tables and leaves the feed alone, so that the feed counts all registrations
that were ever made, and not those that remain.
-/

namespace Quarcc

/-- The subscriptions to the bars of the period, or to the ticks, of the symbol. -/
def SimulatedFeed.count (f : SimulatedFeed) (symbol : String) : Option String → ℤ
  | some period => Counters.count f.barSubscriptions (symbol, period)
  | none => Counters.count f.tickSubscriptions symbol

/-- A subscription counts for its symbol and its period only. -/
lemma SimulatedFeed.count_subscribe (f : SimulatedFeed) (symbol : String) (period : Option String)
    (symbol' : String) (period' : Option String) :
    (f.subscribe symbol period).1.count symbol' period' =
      f.count symbol' period' + if (symbol', period') = (symbol, period) then 1 else 0 := by
  unfold SimulatedFeed.subscribe
  rw [addSymbol_eq]
  cases period with
  | none =>
    cases period' with
    | none => simpa [count, increment_eq_up] using Counters.count_up symbol symbol'
    | some period' => simp [count]
  | some period =>
    obtain ⟨-, hticks, hbars, -, -⟩ :=
      addBar_spec { f with symbols := (f.addSymbol symbol).symbols } symbol period
    cases period' with
    | none => simp [count, hticks]
    | some period' =>
      simpa [count, hbars] using Counters.count_up (symbol, period) (symbol', period')

/-- A call that changes the registrations. -/
inductive RegistryCall where
  | registerSubscription (key : FeedKey) (symbol : String) (period : Option String) (m : ManagerId)
  | unregisterManager (m : ManagerId)
  deriving DecidableEq

/-- The registration is on a simulated feed, and its period can be read. -/
def RegistryCall.Valid : RegistryCall → Prop
  | .registerSubscription key _ period _ =>
    key.feedType = .simulatedFeed ∧ ∀ p ∈ period, ∃ ns, periodToNs p = .ok ns
  | .unregisterManager _ => True

/-- The call registers an order manager for the feed, the symbol and the period. -/
def RegistryCall.registers (key : FeedKey) (symbol : String) (period : Option String) :
    RegistryCall → Bool
  | .registerSubscription key' symbol' period' _ => (key, symbol, period) = (key', symbol', period')
  | .unregisterManager _ => false

namespace FeedRegistry

/-- The registry after a call, which may have thrown. -/
def call (r : FeedRegistry) : RegistryCall → FeedRegistry
  | .registerSubscription key symbol period m => (r.registerSubscription key symbol period m).1
  | .unregisterManager m => r.unregisterManager m

/-- What the feed counts for the symbol and the period. -/
def demand (r : FeedRegistry) (key : FeedKey) (symbol : String) (period : Option String) : ℤ :=
  match r.feeds.lookup key with
  | some (.simulated feed) => feed.count symbol period
  | _ => 0

/-- The order managers that are registered for the feed, the symbol and the period. -/
def registered (r : FeedRegistry) (key : FeedKey) (symbol : String) :
    Option String → List ManagerId
  | some period => (r.barSubs.lookup ⟨key, symbol, period⟩).getD []
  | none => (r.tickSubs.lookup ⟨key, symbol⟩).getD []

/-- The feeds count the registrations that remain. -/
def DemandFollows (r : FeedRegistry) : Prop :=
  ∀ key symbol period, r.demand key symbol period = (r.registered key symbol period).length

/-- The order manager that is unregistered has no registrations. -/
def UnregistersNobody (r : FeedRegistry) : RegistryCall → Prop
  | .registerSubscription _ _ _ _ => True
  | .unregisterManager m => ∀ key symbol period, m ∉ r.registered key symbol period

/-- All feeds are simulated. -/
def AllSimulated (r : FeedRegistry) : Prop :=
  ∀ key feed, r.feeds.lookup key = some feed → ∃ simulated, feed = .simulated simulated

variable {r : FeedRegistry}

/-! ## One call -/

/-- A valid registration is a subscription of its feed, which may be a new one, and an entry in its
table. -/
lemma registerSubscription_valid (h : r.AllSimulated) {key : FeedKey} {symbol : String}
    {period : Option String} {m : ManagerId}
    (hvalid : (RegistryCall.registerSubscription key symbol period m).Valid) :
    ∃ feed : SimulatedFeed,
      (∀ symbol' period', r.demand key symbol' period' = feed.count symbol' period') ∧
        r.call (.registerSubscription key symbol period m) =
          { r with
            feeds := r.feeds.insert key (.simulated (feed.subscribe symbol period).1) }.route key
              symbol period m := by
  obtain ⟨htype, hperiod⟩ := hvalid
  have hfeed : ∃ feed : SimulatedFeed,
      (r.feeds.lookup key).elim (createFeed key) .ok = .ok (.simulated feed) ∧
        ∀ symbol' period', r.demand key symbol' period' = feed.count symbol' period' := by
    unfold demand
    cases hlookup : r.feeds.lookup key with
    | none =>
      refine ⟨{}, ?_, fun symbol' period' => ?_⟩
      · exact if_pos htype
      · cases period' <;> rfl
    | some feed =>
      obtain ⟨simulated, rfl⟩ := h key feed hlookup
      exact ⟨simulated, rfl, fun _ _ => rfl⟩
  obtain ⟨feed, hcreated, hdemand⟩ := hfeed
  have htakes : (feed.subscribe symbol period).2 = .ok () :=
    (feed.subscribe_ok_iff symbol period).mpr fun p hp => Or.inl (hperiod p hp)
  refine ⟨feed, hdemand, ?_⟩
  change (r.registerSubscription key symbol period m).1 = _
  unfold registerSubscription
  rw [hcreated]
  dsimp only [MarketDataFeed.subscribe]
  rw [htakes]

/-- A new entry in the tables. -/
lemma registered_route (r : FeedRegistry) (key : FeedKey) (symbol : String) (period : Option String)
    (m : ManagerId) (key' : FeedKey) (symbol' : String) (period' : Option String) :
    (r.route key symbol period m).registered key' symbol' period' =
      r.registered key' symbol' period' ++
        if (key', symbol', period') = (key, symbol, period) then [m] else [] := by
  unfold route registered
  cases period with
  | none =>
    cases period' with
    | none =>
      simp only [FiniteMap.lookup_insert_eq, TickSubKey.mk.injEq, Prod.mk.injEq, and_true]
      split_ifs with hkey
      · obtain ⟨rfl, rfl⟩ := hkey
        rw [Option.getD_some]
      · rw [List.append_nil]
    | some period' => simp
  | some period =>
    cases period' with
    | none => simp
    | some period' =>
      simp only [FiniteMap.lookup_insert_eq, BarSubKey.mk.injEq, Prod.mk.injEq, Option.some.injEq]
      split_ifs with hkey
      · obtain ⟨rfl, rfl, rfl⟩ := hkey
        rw [Option.getD_some]
      · rw [List.append_nil]

/-- `unregister_manager` takes the order manager off every list. -/
lemma registered_unregisterManager (r : FeedRegistry) (m : ManagerId) (key : FeedKey)
    (symbol : String) (period : Option String) :
    (r.unregisterManager m).registered key symbol period =
      (r.registered key symbol period).filter fun om => om ≠ m := by
  unfold unregisterManager registered
  cases period with
  | none =>
    dsimp only
    rw [FiniteMap.lookup_mapValues]
    cases r.tickSubs.lookup ⟨key, symbol⟩ <;> rfl
  | some period =>
    dsimp only
    rw [FiniteMap.lookup_mapValues]
    cases r.barSubs.lookup ⟨key, symbol, period⟩ <;> rfl

/-- A valid call leaves all feeds simulated. -/
lemma AllSimulated.call (h : r.AllSimulated) {c : RegistryCall} (hvalid : c.Valid) :
    (r.call c).AllSimulated := by
  cases c with
  | unregisterManager m => exact h
  | registerSubscription key symbol period m =>
    obtain ⟨feed, -, hcall⟩ := registerSubscription_valid h hvalid
    intro key' feed' hlookup
    rw [hcall, route_feeds] at hlookup
    dsimp only at hlookup
    rw [FiniteMap.lookup_insert_eq] at hlookup
    split_ifs at hlookup
    · exact ⟨_, (Option.some.inj hlookup).symm⟩
    · exact h key' feed' hlookup

/-- The feeds count every registration and nothing else. -/
lemma demand_call (h : r.AllSimulated) {c : RegistryCall} (hvalid : c.Valid) (key : FeedKey)
    (symbol : String) (period : Option String) :
    (r.call c).demand key symbol period =
      r.demand key symbol period + if c.registers key symbol period then 1 else 0 := by
  cases c with
  | unregisterManager m => exact (add_zero _).symm
  | registerSubscription key' symbol' period' m =>
    obtain ⟨feed, hdemand, hcall⟩ := registerSubscription_valid h hvalid
    rw [hcall]
    unfold demand
    rw [route_feeds]
    dsimp only
    rw [FiniteMap.lookup_insert_eq]
    by_cases hkey : key = key'
    · subst hkey
      rw [if_pos rfl]
      dsimp only
      rw [SimulatedFeed.count_subscribe, ← hdemand]
      simp [demand, RegistryCall.registers]
    · rw [if_neg hkey]
      simp [RegistryCall.registers, hkey]

/-- A valid call keeps the counts what remains exactly when it unregisters nobody. -/
lemma DemandFollows.call_iff (hall : r.AllSimulated) (h : r.DemandFollows) {c : RegistryCall}
    (hvalid : c.Valid) : (r.call c).DemandFollows ↔ r.UnregistersNobody c := by
  cases c with
  | registerSubscription key symbol period m =>
    refine iff_of_true (fun key' symbol' period' => ?_) trivial
    rw [demand_call hall hvalid, h key' symbol' period']
    obtain ⟨feed, -, hcall⟩ := registerSubscription_valid hall hvalid
    rw [hcall, registered_route, List.length_append]
    unfold RegistryCall.registers registered
    simp only [decide_eq_true_eq]
    split_ifs <;> simp
  | unregisterManager m =>
    have hdemand : ∀ key symbol period,
        (r.call (.unregisterManager m)).demand key symbol period = r.demand key symbol period :=
      fun _ _ _ => rfl
    change (∀ key symbol period, (r.call (.unregisterManager m)).demand key symbol period =
      ((r.unregisterManager m).registered key symbol period).length) ↔
        ∀ key symbol period, m ∉ r.registered key symbol period
    refine forall₃_congr fun key symbol period => ?_
    rw [hdemand, h key symbol period, registered_unregisterManager, Nat.cast_inj, eq_comm,
      List.length_filter_eq_length_iff]
    constructor
    · intro hother hmem
      simpa using hother m hmem
    · intro hnotMem om hom
      simpa using fun heq : om = m => hnotMem (heq ▸ hom)

/-! ## Sequences of calls -/

lemma allSimulated_empty : ({} : FeedRegistry).AllSimulated := by
  intro key feed h
  cases h

lemma demandFollows_empty : ({} : FeedRegistry).DemandFollows := by
  intro key symbol period
  cases period <;> rfl

/-- Along valid calls the feeds count the registrations that were made. -/
lemma demand_run (h : r.AllSimulated) {calls : List RegistryCall} (hvalid : ∀ c ∈ calls, c.Valid)
    (key : FeedKey) (symbol : String) (period : Option String) :
    (Trajectory.run call r calls).demand key symbol period =
      r.demand key symbol period + calls.countP (RegistryCall.registers key symbol period) := by
  induction calls generalizing r with
  | nil => simp
  | cons c calls ih =>
    obtain ⟨hfirst, hrest⟩ := List.forall_mem_cons.mp hvalid
    rw [Trajectory.run_cons, ih (h.call hfirst) hrest, demand_call h hfirst, List.countP_cons]
    split_ifs
    · push_cast
      ring
    · push_cast
      ring

/-- **Feed demand.**  After valid calls a feed counts, for each symbol and period, the registrations
that were made for it, whether their order managers have been unregistered or not.  These are the
registrations that remain, in every state, exactly when every `unregister_manager` is for an order
manager without registrations. -/
theorem demand_counts_registrations {calls : List RegistryCall} (hvalid : ∀ c ∈ calls, c.Valid) :
    (∀ key symbol period, (Trajectory.run call {} calls).demand key symbol period =
        calls.countP (RegistryCall.registers key symbol period)) ∧
      (Trajectory.EveryState call DemandFollows {} calls ↔
        Trajectory.AllSteps call UnregistersNobody {} calls) := by
  constructor
  · intro key symbol period
    rw [demand_run allSimulated_empty hvalid]
    have hzero : ({} : FeedRegistry).demand key symbol period = 0 := rfl
    rw [hzero, zero_add]
  · exact Trajectory.everyState_iff_allSteps (A := fun _ c => c.Valid) (I := AllSimulated)
      (fun _ _ hall hc => hall.call hc) (fun _ _ hall hc h => h.call_iff hall hc)
      allSimulated_empty demandFollows_empty (Trajectory.allSteps_of_forall hvalid)

/-- An order manager that is registered for the ticks of a symbol and then unregistered. -/
def registeredOnce : List RegistryCall :=
  [.registerSubscription ⟨.simulatedFeed, "ACC"⟩ "AAPL" none 0, .unregisterManager 0]

lemma valid_registeredOnce : ∀ c ∈ registeredOnce, c.Valid := by
  intro c hc
  rcases List.mem_pair.mp hc with rfl | rfl
  · exact ⟨rfl, by simp⟩
  · trivial

/-- Both calls are valid, and the feed goes on counting the one registration. -/
theorem demand_counts_registrations_once :
    (∀ c ∈ registeredOnce, c.Valid) ∧
      ((∀ key symbol period, (Trajectory.run call {} registeredOnce).demand key symbol period =
          registeredOnce.countP (RegistryCall.registers key symbol period)) ∧
        (Trajectory.EveryState call DemandFollows {} registeredOnce ↔
          Trajectory.AllSteps call UnregistersNobody {} registeredOnce)) :=
  ⟨valid_registeredOnce, demand_counts_registrations valid_registeredOnce⟩

/-- Nobody is left who listens to the symbol, and the feed still counts a subscription. -/
theorem demand_without_registrations :
    ¬ ∀ calls : List RegistryCall, (∀ c ∈ calls, c.Valid) →
      Trajectory.EveryState call DemandFollows {} calls := by
  intro h
  have hlast := (h registeredOnce valid_registeredOnce).last ⟨.simulatedFeed, "ACC"⟩ "AAPL" none
  exact absurd hlast (by decide +kernel)

end FeedRegistry

end Quarcc
