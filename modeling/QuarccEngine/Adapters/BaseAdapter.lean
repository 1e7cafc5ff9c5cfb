import QuarccEngine.Contracts
import QuarccEngine.Library.FiniteMap
import QuarccEngine.Library.Trajectory

/-!
# The fill streams of an adapter

`base_adapter.py`: every call of `StreamFills` is a generator with a queue of its own, which it
registers under the id of its strategy.  Each line that holds the lock is one step, and so is each
turn of the loop of a generator; the generators of a strategy are opened, go on and end in any
order.

A generator registers over the queue that is there, and at its end takes away whatever is registered
for its strategy then.  So an old stream that ends after the strategy has opened a new one
unregisters the new one.
-/

namespace Quarcc

/-- Where a generator of `StreamFills` is. -/
inductive FillGeneratorPhase where
  /-- In its loop. -/
  | running
  /-- Out of its loop, before its `finally` block. -/
  | leaving
  | closed
  deriving DecidableEq

/-- A generator of `StreamFills` with its queue `q`. -/
structure FillGenerator where
  strategyId : String
  q : List (Option V1.ExecutionReport) := []
  phase : FillGeneratorPhase := .running

/-- `BaseAdapter`.  The generators are listed in the order in which they were opened, and a queue is
known by the number of its generator. -/
structure BaseAdapter where
  generators : List FillGenerator := []
  fillQueues : AList fun _ : String => ℕ := ∅
  stopEvent : Bool := false

/-- A step of an adapter. -/
inductive AdapterStep where
  /-- `StreamFills` up to its loop. -/
  | streamFills (strategyId : String)
  /-- The broker's side of the adapter puts a report into a queue. -/
  | put (g : ℕ) (report : V1.ExecutionReport)
  /-- One turn of the loop of a generator, whose context is active or not. -/
  | turn (g : ℕ) (active : Bool)
  /-- An exception ends the loop of a generator, as when the server gives up on it. -/
  | interrupt (g : ℕ)
  /-- The `finally` block of a generator. -/
  | close (g : ℕ)
  /-- `stop` sets the event. -/
  | setStop
  /-- `stop` puts `None` into the queues. -/
  | stopQueues

/-- What one turn of the loop does: the context and the event are looked at, then the queue. -/
def FillGenerator.turn (gen : FillGenerator) (goOn : Bool) : FillGenerator :=
  if gen.phase = .running then
    if goOn then
      match gen.q with
      | [] => gen
      | none :: rest => { gen with q := rest, phase := .leaving }
      | some _ :: rest => { gen with q := rest }
    else { gen with phase := .leaving }
  else gen

/-- What an exception does. -/
def FillGenerator.interrupt (gen : FillGenerator) : FillGenerator :=
  if gen.phase = .running then { gen with phase := .leaving } else gen

/-- The generator is closed. -/
def FillGenerator.closed (gen : FillGenerator) : FillGenerator := { gen with phase := .closed }

@[simp] lemma FillGenerator.strategyId_turn (gen : FillGenerator) (goOn : Bool) :
    (gen.turn goOn).strategyId = gen.strategyId := by
  unfold turn
  split_ifs
  · split <;> rfl
  · rfl
  · rfl

/-- A turn starts no generator that is not running. -/
lemma FillGenerator.running_of_turn (gen : FillGenerator) {goOn : Bool}
    (h : (gen.turn goOn).phase = .running) : gen.phase = .running := by
  by_contra hnot
  unfold turn at h
  rw [if_neg hnot] at h
  exact hnot h

namespace BaseAdapter

/-- A generator changes. -/
def update (a : BaseAdapter) (g : ℕ) (f : FillGenerator → FillGenerator) : BaseAdapter :=
  { a with generators := a.generators.modify g f }

/-- The `finally` block: the strategy has no queue any more. -/
def close (a : BaseAdapter) (g : ℕ) : BaseAdapter :=
  match a.generators[g]? with
  | some gen =>
    if gen.phase = .leaving then
      { a.update g FillGenerator.closed with fillQueues := a.fillQueues.erase gen.strategyId }
    else a
  | none => a

/-- The adapter after a step. -/
def step (a : BaseAdapter) : AdapterStep → BaseAdapter
  | .streamFills strategyId =>
    { a with
      generators := a.generators ++ [{ strategyId := strategyId }]
      fillQueues := a.fillQueues.insert strategyId a.generators.length }
  | .put g report => a.update g fun gen => { gen with q := gen.q ++ [some report] }
  | .turn g active => a.update g fun gen => gen.turn (active && !a.stopEvent)
  | .interrupt g => a.update g FillGenerator.interrupt
  | .close g => a.close g
  | .setStop => { a with stopEvent := true }
  | .stopQueues =>
    { a with
      generators := a.generators.mapIdx fun g gen =>
        if a.fillQueues.lookup gen.strategyId = some g then { gen with q := gen.q ++ [none] }
        else gen }

/-- The generator of the strategy that was opened last. -/
def latest (a : BaseAdapter) (strategyId : String) : Option ℕ :=
  ((a.generators.map FillGenerator.strategyId).zipIdx.filter
    fun entry => entry.1 = strategyId).getLast?.map Prod.snd

/-- The generator is in its loop. -/
def Running (a : BaseAdapter) (g : ℕ) : Prop :=
  ∃ gen, a.generators[g]? = some gen ∧ gen.phase = .running

/-- As long as the latest generator of a strategy is running, its queue is the registered one. -/
def LatestRegistered (a : BaseAdapter) : Prop :=
  ∀ strategyId g, a.latest strategyId = some g → a.Running g →
    a.fillQueues.lookup strategyId = some g

/-- No generator is closed while the latest one of its strategy is running. -/
def ClosesInTime (a : BaseAdapter) : AdapterStep → Prop
  | .close g => ∀ gen, a.generators[g]? = some gen → gen.phase = .leaving →
      ∀ latest, a.latest gen.strategyId = some latest → ¬ a.Running latest
  | _ => True

variable {a a' : BaseAdapter}

/-! ## Generators -/

/-- The latest generator of a strategy is one of the strategy. -/
lemma strategyId_of_latest {strategyId : String} {g : ℕ} (h : a.latest strategyId = some g) :
    ∃ gen, a.generators[g]? = some gen ∧ gen.strategyId = strategyId := by
  obtain ⟨⟨s, i⟩, hlast, rfl⟩ := Option.map_eq_some_iff.mp h
  obtain ⟨hmem, hs⟩ := List.mem_filter.mp (List.mem_of_getLast? hlast)
  have hget := List.mem_zipIdx_iff_getElem?.mp hmem
  rw [List.getElem?_map] at hget
  obtain ⟨gen, hgen, hid⟩ := Option.map_eq_some_iff.mp hget
  exact ⟨gen, hgen, hid.trans (of_decide_eq_true hs)⟩

/-- The latest generators depend on the strategies of the generators only. -/
lemma latest_congr
    (h : a'.generators.map FillGenerator.strategyId = a.generators.map FillGenerator.strategyId)
    (strategyId : String) : a'.latest strategyId = a.latest strategyId := by
  unfold latest
  rw [h]

/-- A new generator is the latest one of its strategy. -/
lemma latest_concat (gen : FillGenerator) (h : a'.generators = a.generators ++ [gen])
    (strategyId : String) :
    a'.latest strategyId =
      if gen.strategyId = strategyId then some a.generators.length else a.latest strategyId := by
  unfold latest
  rw [h, List.map_append, List.map_singleton, List.zipIdx_append, List.filter_append]
  split_ifs with hs
  · rw [List.zipIdx_singleton, List.filter_cons_of_pos (by simpa using hs), List.filter_nil,
      List.getLast?_concat]
    simp
  · rw [List.zipIdx_singleton, List.filter_cons_of_neg (by simpa using hs), List.filter_nil,
      List.append_nil]

/-- A step that touches no strategy and no registration, and starts no generator, keeps the latest
generators registered. -/
lemma LatestRegistered.of_same (h : a.LatestRegistered)
    (hids : a'.generators.map FillGenerator.strategyId = a.generators.map FillGenerator.strategyId)
    (hqueues : a'.fillQueues = a.fillQueues) (hrunning : ∀ g, a'.Running g → a.Running g) :
    a'.LatestRegistered := by
  intro strategyId g hlatest hrun
  rw [latest_congr hids] at hlatest
  rw [hqueues]
  exact h strategyId g hlatest (hrunning g hrun)

/-- A change of a generator keeps the strategies. -/
lemma ids_update (g : ℕ) {f : FillGenerator → FillGenerator}
    (hid : ∀ gen, (f gen).strategyId = gen.strategyId) :
    (a.update g f).generators.map FillGenerator.strategyId =
      a.generators.map FillGenerator.strategyId := by
  apply List.ext_getElem?
  intro i
  unfold BaseAdapter.update
  rw [List.getElem?_map, List.getElem?_map, List.getElem?_modify]
  cases a.generators[i]? with
  | none => rfl
  | some gen =>
    by_cases hi : g = i
    · simp [hi, hid]
    · simp [hi]

/-- A change of a generator that does not start it again starts no other one. -/
lemma running_of_update {g g' : ℕ} {f : FillGenerator → FillGenerator}
    (hphase : ∀ gen, (f gen).phase = .running → gen.phase = .running)
    (h : (a.update g f).Running g') : a.Running g' := by
  obtain ⟨gen', hgen', hrunning⟩ := h
  unfold BaseAdapter.update at hgen'
  rw [List.getElem?_modify] at hgen'
  obtain ⟨gen, hgen, rfl⟩ := Option.map_eq_some_iff.mp hgen'
  refine ⟨gen, hgen, ?_⟩
  split_ifs at hrunning
  · exact hphase gen hrunning
  · exact hrunning

/-- A change of a generator that keeps its strategy and does not start it again. -/
lemma LatestRegistered.update (h : a.LatestRegistered) (g : ℕ) {f : FillGenerator → FillGenerator}
    (hid : ∀ gen, (f gen).strategyId = gen.strategyId)
    (hphase : ∀ gen, (f gen).phase = .running → gen.phase = .running) :
    (a.update g f).LatestRegistered :=
  h.of_same (ids_update g hid) rfl fun _ => running_of_update hphase

/-! ## Steps -/

/-- A new generator registers its own queue. -/
lemma LatestRegistered.streamFills (h : a.LatestRegistered) (strategyId : String) :
    (a.step (.streamFills strategyId)).LatestRegistered := by
  intro s g hlatest hrun
  rw [latest_concat { strategyId := strategyId } rfl] at hlatest
  change (a.fillQueues.insert strategyId a.generators.length).lookup s = some g
  rw [FiniteMap.lookup_insert_eq]
  by_cases hs : strategyId = s
  · rw [if_pos hs] at hlatest
    rw [if_pos hs.symm, hlatest]
  · rw [if_neg hs] at hlatest
    rw [if_neg (Ne.symm hs)]
    -- the latest generator of another strategy is an old one
    obtain ⟨old, hold, -⟩ := strategyId_of_latest hlatest
    obtain ⟨gen, hgen, hphase⟩ := hrun
    have hsame : (a.step (.streamFills strategyId)).generators[g]? = a.generators[g]? := by
      apply List.getElem?_append_left
      exact (List.getElem?_eq_some_iff.mp hold).1
    rw [hsame] at hgen
    exact h s g hlatest ⟨gen, hgen, hphase⟩

/-- `stop` puts something into queues only. -/
lemma LatestRegistered.stopQueues (h : a.LatestRegistered) :
    (a.step .stopQueues).LatestRegistered := by
  have hget : ∀ i, (a.step .stopQueues).generators[i]? = (a.generators[i]?).map fun gen =>
      if a.fillQueues.lookup gen.strategyId = some i then { gen with q := gen.q ++ [none] }
      else gen := fun i => List.getElem?_mapIdx
  refine h.of_same ?_ rfl fun g hrun => ?_
  · apply List.ext_getElem?
    intro i
    rw [List.getElem?_map, List.getElem?_map, hget]
    cases a.generators[i]? with
    | none => rfl
    | some gen =>
      simp only [Option.map_some]
      split_ifs <;> rfl
  · obtain ⟨gen', hgen', hrunning⟩ := hrun
    rw [hget] at hgen'
    obtain ⟨gen, hgen, rfl⟩ := Option.map_eq_some_iff.mp hgen'
    refine ⟨gen, hgen, ?_⟩
    split_ifs at hrunning <;> exact hrunning

/-- The `finally` block of a generator that has left its loop. -/
lemma close_of_leaving {g : ℕ} {gen : FillGenerator} (hgen : a.generators[g]? = some gen)
    (hleaving : gen.phase = .leaving) :
    (a.close g).fillQueues = a.fillQueues.erase gen.strategyId ∧
      (∀ s, (a.close g).latest s = a.latest s) ∧
      ∀ g', (a.close g).Running g' ↔ a.Running g' := by
  have hclose : a.close g =
      { a.update g FillGenerator.closed with
        fillQueues := a.fillQueues.erase gen.strategyId } := by
    unfold close
    rw [hgen]
    exact if_pos hleaving
  refine ⟨?_, fun s => ?_, fun g' => ⟨fun hrun => ?_, ?_⟩⟩
  · rw [hclose]
  · rw [hclose]
    exact latest_congr (ids_update g (f := FillGenerator.closed) fun _ => rfl) s
  · rw [hclose] at hrun
    exact running_of_update (f := FillGenerator.closed) (fun _ h => nomatch h) hrun
  · rintro ⟨gen', hgen', hrunning⟩
    have hne : g ≠ g' := by
      rintro rfl
      obtain rfl := Option.some.inj (hgen.symm.trans hgen')
      rw [hleaving] at hrunning
      cases hrunning
    refine ⟨gen', ?_, hrunning⟩
    rw [hclose]
    unfold BaseAdapter.update
    rw [List.getElem?_modify, hgen', Option.map_eq_map, Option.map_some, if_neg hne]

/-- A generator that has not left its loop, or that has been closed, has no `finally` block to
run. -/
lemma close_of_not_leaving {g : ℕ}
    (h : ∀ gen, a.generators[g]? = some gen → gen.phase ≠ .leaving) : a.close g = a := by
  unfold close
  cases hgen : a.generators[g]? with
  | none => rfl
  | some gen => exact if_neg (h gen hgen)

/-- The `finally` block of a generator keeps the latest generators registered exactly when the
latest one of its strategy is not running. -/
lemma LatestRegistered.close_iff (h : a.LatestRegistered) (g : ℕ) :
    (a.close g).LatestRegistered ↔ a.ClosesInTime (.close g) := by
  by_cases hleaves : ∃ gen, a.generators[g]? = some gen ∧ gen.phase = .leaving
  · obtain ⟨gen, hgen, hleaving⟩ := hleaves
    obtain ⟨hqueues, hlatest, hrunning⟩ := close_of_leaving hgen hleaving
    constructor
    · intro hafter gen' hgen' hphase latest hlast hrun
      obtain rfl := Option.some.inj (hgen.symm.trans hgen')
      have hkept := hafter gen.strategyId latest
        ((hlatest _).trans hlast) ((hrunning latest).mpr hrun)
      rw [hqueues, FiniteMap.lookup_erase_eq, if_pos rfl] at hkept
      cases hkept
    · intro hintime s latest hlast hrun
      rw [hlatest] at hlast
      rw [hrunning] at hrun
      have hne : s ≠ gen.strategyId := by
        rintro rfl
        exact hintime gen hgen hleaving latest hlast hrun
      rw [hqueues, FiniteMap.lookup_erase_eq, if_neg hne]
      exact h s latest hlast hrun
  · have hnot : ∀ gen, a.generators[g]? = some gen → gen.phase ≠ .leaving :=
      fun gen hgen hphase => hleaves ⟨gen, hgen, hphase⟩
    rw [close_of_not_leaving hnot]
    exact iff_of_true h fun gen hgen hphase => absurd hphase (hnot gen hgen)

/-- **Step lemma.**  A step keeps the latest generators registered exactly when it closes no
generator while the latest one of its strategy is running. -/
lemma LatestRegistered.step_iff (h : a.LatestRegistered) (s : AdapterStep) :
    (a.step s).LatestRegistered ↔ a.ClosesInTime s := by
  cases s with
  | streamFills strategyId => exact iff_of_true (h.streamFills strategyId) trivial
  | put g report => exact iff_of_true (h.update g (fun _ => rfl) fun _ hphase => hphase) trivial
  | turn g active =>
    refine iff_of_true (h.update g (fun gen => ?_) fun gen => ?_) trivial
    · exact gen.strategyId_turn _
    · exact gen.running_of_turn
  | interrupt g =>
    refine iff_of_true (h.update g (fun gen => ?_) fun gen hphase => ?_) trivial
    · unfold FillGenerator.interrupt
      split_ifs <;> rfl
    · unfold FillGenerator.interrupt at hphase
      split_ifs at hphase
      exact hphase
  | close g => exact h.close_iff g
  | setStop => exact iff_of_true h trivial
  | stopQueues => exact iff_of_true h.stopQueues trivial

lemma latestRegistered_start : ({} : BaseAdapter).LatestRegistered := by
  intro strategyId g hlatest
  cases hlatest

/-- **Fill streams.**  In every state of an adapter the queue of the latest generator of each
strategy is registered as long as it is running, exactly when no generator is closed while the
latest one of its strategy is running. -/
theorem latestRegistered_iff_closesInTime (steps : List AdapterStep) :
    Trajectory.EveryState step LatestRegistered {} steps ↔
      Trajectory.AllSteps step ClosesInTime {} steps :=
  Trajectory.everyState_iff_of_step (fun _ s h => h.step_iff s) latestRegistered_start

/-- A client reconnects before the adapter has noticed that the old stream is gone; then the old
stream ends and unregisters the new one. -/
theorem old_stream_unregisters_new :
    ¬ ∀ steps : List AdapterStep, Trajectory.EveryState step LatestRegistered {} steps := by
  intro h
  have hlast := (h [.streamFills "S", .streamFills "S", .turn 0 false, .close 0]).last
  have hkept := hlast "S" 1 (by decide +kernel) ⟨{ strategyId := "S" }, rfl, rfl⟩
  exact absurd hkept (by decide +kernel)

end BaseAdapter

end Quarcc
