import Mathlib.Data.List.Find
import QuarccEngine.Grpc.Sinks

/-!
# The latest stream of a strategy

A client that reconnects opens a new stream for its strategy while the handler of its old one is
still there.  The sinks of the stream that was opened last should be the ones that the order manager
of the strategy calls, until its handler ends.  They are taken away when an older handler ends, and
they are left behind when the strategy is registered again.
-/

namespace Quarcc

namespace ExecutionService

variable (g : ExecutionService)

/-- The kind of the stream and its strategy. -/
def keyOf (k : SinkId) : Option (StreamKind × StrategyId) :=
  (g.streams[k]?).map fun stream => (stream.kind, stream.strategyId)

/-- The stream of the strategy whose sinks were installed last. -/
def latest (kind : StreamKind) (strategyId : StrategyId) : Option SinkId :=
  g.opened.find? fun k => g.keyOf k = some (kind, strategyId)

/-- The order manager calls the sinks of the stream `k` and no others of their kind. -/
def Installed (m : ManagerId) (kind : StreamKind) (k : SinkId) : Prop :=
  ∀ o ∈ g.engine.objects[m]?, ∀ sink ∈ o.sinks.ofKind kind, sink = some k

/-- The sinks of the latest stream of a registered strategy are the ones that its order manager
calls, as long as the handler of the stream has not returned. -/
def LatestInstalled : Prop :=
  ∀ strategyId m, g.engine.managers.lookup strategyId = some m →
    ∀ kind k, g.latest kind strategyId = some k → g.IsOpen k → g.Installed m kind k

end ExecutionService

/-- The step takes no sinks away from the latest stream of a strategy: a strategy that is registered
has no open stream from before; sinks are installed in the order manager that the strategy has now;
and a handler that ends is not overtaken by one that is still open. -/
def ServiceAction.KeepsLatest (g : ExecutionService) : ServiceAction → Prop
  | .engine (.registerStrategy strategyId _ _ _) =>
    g.engine.killSwitch = none → g.engine.managers.lookup strategyId = none →
      ∀ kind k, g.latest kind strategyId = some k → ¬ g.IsOpen k
  | .install k =>
    ∀ stream m, g.streams[k]? = some stream → stream.phase = .found m →
      ∀ m', g.engine.managers.lookup stream.strategyId = some m' →
        m' = m ∧ g.engine.phaseOf m ≠ some .destroyed
  | .clear k =>
    g.engine.killSwitch = none →
      ∀ stream m, g.streams[k]? = some stream → stream.phase = .streaming m →
        g.engine.managers.lookup stream.strategyId ≠ none →
          ∀ l, g.latest stream.kind stream.strategyId = some l → g.IsOpen l → l = k
  | _ => True

namespace ExecutionService

variable {g : ExecutionService}

/-! ## Streams and their order managers -/

/-- What is known of the streams: those whose sinks were installed are not waiting for it, a stream
belongs to an order manager of its strategy, and only installed sinks are there. -/
structure StreamsSound (g : ExecutionService) : Prop where
  opened : ∀ k ∈ g.opened, ∃ stream, g.streams[k]? = some stream ∧ stream.phase.held = none
  owner : ∀ (k : SinkId) (stream : Stream) (m : ManagerId), g.streams[k]? = some stream →
    stream.phase = .found m ∨ stream.phase = .streaming m →
      m < g.engine.objects.length ∧
        ∀ strategyId, g.engine.managers.lookup strategyId = some m →
          strategyId = stream.strategyId
  sinks : ∀ (m : ManagerId) (o : Managed), g.engine.objects[m]? = some o →
    ∀ kind k, some k ∈ o.sinks.ofKind kind → k ∈ g.opened

/-- A service without streams. -/
lemma streamsSound_start : StreamsSound {} where
  opened := by simp
  owner := by simp
  sinks := by simp

/-- Streams with the same keys have the same latest one. -/
lemma latest_congr (g g' : ExecutionService) (hopened : g'.opened = g.opened)
    (hkey : ∀ k ∈ g.opened, g'.keyOf k = g.keyOf k) (kind : StreamKind) (strategyId : StrategyId) :
    g'.latest kind strategyId = g.latest kind strategyId := by
  unfold latest
  rw [hopened]
  exact List.find?_congr fun k hk => by rw [hkey k hk]

/-- The latest stream was opened. -/
lemma mem_opened_of_latest {kind : StreamKind} {strategyId : StrategyId} {k : SinkId}
    (h : g.latest kind strategyId = some k) : k ∈ g.opened :=
  List.mem_of_find?_eq_some h

@[simp] lemma keyOf_setPhase (k j : SinkId) (phase : StreamPhase) :
    (g.setPhase k phase).keyOf j = g.keyOf j := by
  unfold keyOf
  rw [streams_setPhase, Option.map_map]
  congr 1
  funext stream
  dsimp only [Function.comp]
  split_ifs <;> rfl

/-- A step of the engine leaves the streams alone and installs nothing. -/
lemma StreamsSound.engine (h : g.StreamsSound) (a : Action) :
    ({ g with engine := g.engine.step a } : ExecutionService).StreamsSound where
  opened := h.opened
  owner := by
    intro k stream m hk hphase
    obtain ⟨hlt, howner⟩ := h.owner k stream m hk hphase
    refine ⟨hlt.trans_le (g.engine.length_step a), fun strategyId hm => ?_⟩
    obtain hbefore | ⟨hnew, -⟩ := g.engine.lookup_of_step a hm
    · exact howner strategyId hbefore
    · exact absurd hnew hlt.ne
  sinks := by
    intro m o' ho' kind k hk
    obtain ⟨o, ho, hcontinues⟩ | ⟨-, hsinks, -⟩ := TradingEngine.exists_of_step a ho'
    · rw [hcontinues.sinks] at hk
      exact h.sinks m o ho kind k hk
    · rw [hsinks] at hk
      cases kind <;> simp [Sinks.ofKind] at hk

variable {g : ExecutionService}

/-- A new stream has found the order manager of its strategy. -/
lemma StreamsSound.found (h : g.StreamsSound) (hlife : g.engine.Lifetimes) (kind : StreamKind)
    {strategyId : StrategyId} {m : ManagerId} (hm : g.engine.managers.lookup strategyId = some m) :
    ({ g with
      streams := g.streams ++ [{ kind := kind, strategyId := strategyId, phase := .found m }] } :
      ExecutionService).StreamsSound := by
  have hold : ∀ (k : SinkId) (stream : Stream), g.streams[k]? = some stream →
      (g.streams ++ [{ kind := kind, strategyId := strategyId, phase := .found m }])[k]? =
        some stream := by
    intro k stream hk
    have hlt : k < g.streams.length := (List.getElem?_eq_some_iff.mp hk).1
    exact (List.getElem?_append_left hlt).trans hk
  constructor
  · intro k hk
    obtain ⟨stream, hstream, hheld⟩ := h.opened k hk
    exact ⟨stream, hold k stream hstream, hheld⟩
  · intro k stream m' hk hphase
    rcases Nat.lt_or_ge k g.streams.length with hlt | hge
    · have hk' : g.streams[k]? = some stream := (List.getElem?_append_left hlt).symm.trans hk
      exact h.owner k stream m' hk' hphase
    · have hlast := (List.getElem?_append_right hge).symm.trans hk
      obtain rfl := List.mem_singleton.mp (List.mem_of_getElem? hlast)
      obtain rfl : m = m' := by
        rcases hphase with hfound | hstreaming
        · exact StreamPhase.found.inj hfound
        · cases hstreaming
      refine ⟨hlife.created m ⟨strategyId, hm⟩, fun other hother => ?_⟩
      exact hlife.injective m strategyId other hm hother
  · exact h.sinks

/-- A stream has installed its sinks. -/
lemma StreamsSound.installed (h : g.StreamsSound) {k : SinkId} {kind : StreamKind}
    {strategyId : StrategyId} {m : ManagerId}
    (hk : g.streams[k]? = some ⟨kind, strategyId, .found m⟩) :
    ({ g.setPhase k (.streaming m) with
      engine := g.engine.modify m (Managed.setSinks · kind k)
      opened := k :: g.opened } : ExecutionService).StreamsSound := by
  have hstream : ∀ j : SinkId, (g.setPhase k (.streaming m)).streams[j]? =
      (g.streams[j]?).map fun stream =>
        if k = j then { stream with phase := .streaming m } else stream :=
    fun j => g.streams_setPhase k j _
  constructor
  · intro j hj
    rcases List.mem_cons.mp hj with rfl | hj
    · refine ⟨⟨kind, strategyId, .streaming m⟩, ?_, rfl⟩
      rw [hstream, hk, Option.map_some, if_pos rfl]
    · obtain ⟨stream, hj', hheld⟩ := h.opened j hj
      have hne : k ≠ j := by
        rintro rfl
        obtain rfl := Option.some.inj (hk.symm.trans hj')
        cases hheld
      refine ⟨stream, ?_, hheld⟩
      rw [hstream, hj', Option.map_some, if_neg hne]
  · intro j stream m' hj hphase
    rw [hstream] at hj
    obtain ⟨before, hbefore, rfl⟩ := Option.map_eq_some_iff.mp hj
    have hlength : (g.engine.modify m (Managed.setSinks · kind k)).objects.length =
        g.engine.objects.length := List.length_modify _ _ _
    rw [hlength]
    split_ifs at hphase ⊢ with hjk
    · subst hjk
      obtain rfl := Option.some.inj (hk.symm.trans hbefore)
      obtain rfl : m = m' := by
        rcases hphase with hfound | hstreaming
        · cases hfound
        · exact StreamPhase.streaming.inj hstreaming
      exact h.owner k ⟨kind, strategyId, .found m⟩ m hbefore (Or.inl rfl)
    · exact h.owner j before m' hbefore hphase
  · intro m' o' ho' kind' j hj
    rw [TradingEngine.objects_modify] at ho'
    obtain ⟨o, ho, rfl⟩ := Option.map_eq_some_iff.mp ho'
    have hold : some j ∈ o.sinks.ofKind kind' → j ∈ k :: g.opened :=
      fun hj => List.mem_cons_of_mem _ (h.sinks m' o ho kind' j hj)
    split_ifs at hj
    · rw [Managed.ofKind_setSinks] at hj
      split_ifs at hj
      · obtain ⟨_, -, hsink⟩ := List.mem_map.mp hj
        obtain rfl := Option.some.inj hsink
        exact List.mem_cons_self
      · exact hold hj
    · exact hold hj

/-- A handler has returned. -/
lemma StreamsSound.cleared (h : g.StreamsSound) (k : SinkId) (kind : StreamKind)
    (strategyId : StrategyId) :
    ({ g.setPhase k .returned with engine := g.engine.clearStream kind strategyId } :
      ExecutionService).StreamsSound := by
  have hstream : ∀ j : SinkId, (g.setPhase k .returned).streams[j]? =
      (g.streams[j]?).map fun stream =>
        if k = j then { stream with phase := .returned } else stream :=
    fun j => g.streams_setPhase k j _
  have hreturned : (g.setPhase k .returned).StreamsSound := by
    constructor
    · intro j hj
      obtain ⟨stream, hj', hheld⟩ := h.opened j hj
      refine ⟨_, (hstream j).trans (congrArg _ hj'), ?_⟩
      dsimp only
      split_ifs
      · rfl
      · exact hheld
    · intro j stream m' hj hphase
      rw [hstream] at hj
      obtain ⟨before, hbefore, rfl⟩ := Option.map_eq_some_iff.mp hj
      split_ifs at hphase ⊢
      · rcases hphase with hfound | hstreaming
        · cases hfound
        · cases hstreaming
      · exact h.owner j before m' hbefore hphase
    · exact h.sinks
  refine ⟨hreturned.opened, fun j stream m' hj hphase => ?_, fun m' o' ho' kind' j hj => ?_⟩
  · obtain ⟨hlt, howner⟩ := hreturned.owner j stream m' hj hphase
    dsimp only
    rw [TradingEngine.managers_clearStream]
    exact ⟨hlt.trans_eq (g.engine.length_clearStream kind strategyId).symm, howner⟩
  · dsimp only at ho'
    rw [TradingEngine.objects_clearStream] at ho'
    obtain ⟨o, ho, rfl⟩ := Option.map_eq_some_iff.mp ho'
    split_ifs at hj
    · rw [Managed.ofKind_clearSinks] at hj
      split_ifs at hj
      · obtain ⟨_, -, hsink⟩ := List.mem_map.mp hj
        cases hsink
      · exact hreturned.sinks m' o ho kind' j hj
    · exact hreturned.sinks m' o ho kind' j hj

/-- Every step keeps what is known of the streams. -/
lemma StreamsSound.step (h : g.StreamsSound) (hlife : g.engine.Lifetimes) (a : ServiceAction) :
    (g.step a).StreamsSound := by
  have hstep := g.steps_step a
  generalize g.step a = g' at hstep ⊢
  cases hstep with
  | engine => exact h.engine _
  | found hfree hm => exact h.found hlife _ hm
  | installed hk => exact h.installed hk
  | cleared hfree hk => exact h.cleared _ _ _
  | notFound | notInstalled _ | notCleared _ => exact h

end ExecutionService

/-! ## What a step does to the latest streams -/

namespace ExecutionService

variable {g : ExecutionService}

/-- The sinks of one kind are the same before and after. -/
lemma Installed.of_eq {g' : ExecutionService} {m : ManagerId} {kind : StreamKind} {k : SinkId}
    (h : g.Installed m kind k)
    (hfrom : ∀ o' : Managed, g'.engine.objects[m]? = some o' →
      ∃ o, g.engine.objects[m]? = some o ∧ o'.sinks.ofKind kind = o.sinks.ofKind kind) :
    g'.Installed m kind k := by
  intro o' ho' sink hsink
  obtain ⟨o, ho, hsame⟩ := hfrom o' ho'
  rw [hsame] at hsink
  exact h o ho sink hsink

/-- An order manager that has no sinks of the kind calls none. -/
lemma not_installed {m : ManagerId} {kind : StreamKind} {k : SinkId} {o : Managed}
    (ho : g.engine.objects[m]? = some o) (hnot : some k ∉ o.sinks.ofKind kind) :
    ¬ g.Installed m kind k := by
  intro h
  obtain ⟨sink, hsink⟩ := o.sinks.exists_mem_ofKind kind
  have hk := h o ho sink hsink
  exact hnot (hk ▸ hsink)

/-- Registering a strategy: its streams from before are not those of the new order manager. -/
lemma latestInstalled_register_iff (hlife : g.engine.Lifetimes) (h : g.LatestInstalled)
    (strategyId : StrategyId) (accountId : String) (store : SQLiteOrderStore)
    (riskManager : RiskManager) :
    (g.step (.engine (.registerStrategy strategyId accountId store riskManager))).LatestInstalled ↔
      (ServiceAction.engine (.registerStrategy strategyId accountId store
        riskManager)).KeepsLatest g := by
  unfold ExecutionService.step TradingEngine.step TradingEngine.registerStrategy
  dsimp only
  split_ifs with hfree
  swap
  · refine iff_of_true h fun hnone hnew => absurd ⟨?_, hnew⟩ hfree
    rw [hnone]
    rfl
  generalize hobject : ({ account := .start accountId store riskManager } : Managed) = object
  have hsinks : object.sinks = ⟨none, none, none⟩ := by
    rw [← hobject]
    rfl
  have hlast : (g.engine.objects ++ [object])[g.engine.objects.length]? = some object := by
    simp
  constructor
  · intro hafter _ _ kind k hk hopen
    have hm : (g.engine.managers.insert strategyId g.engine.objects.length).lookup strategyId =
        some g.engine.objects.length := by
      rw [FiniteMap.lookup_insert_eq, if_pos rfl]
    have hinstalled := hafter strategyId g.engine.objects.length hm kind k hk hopen
    refine not_installed (g := { g with engine := _ }) hlast ?_ hinstalled
    rw [hsinks]
    cases kind <;> simp [Sinks.ofKind]
  · intro hclosed id m hm kind k hk hopen
    dsimp only at hm
    rw [FiniteMap.lookup_insert_eq] at hm
    split_ifs at hm with hid
    · subst hid
      exact absurd hopen (hclosed (Option.isNone_iff_eq_none.mp hfree.1) hfree.2 kind k hk)
    · have hlt : m < g.engine.objects.length := hlife.created m ⟨id, hm⟩
      refine (h id m hm kind k hk hopen).of_eq fun o' ho' => ⟨o', ?_, rfl⟩
      exact (List.getElem?_append_left hlt).symm.trans ho'

/-- A step of the engine that registers nothing. -/
lemma LatestInstalled.engine (h : g.LatestInstalled) (hlife : g.engine.Lifetimes) (a : Action)
    (hlookup : ∀ strategyId m, (g.engine.step a).managers.lookup strategyId = some m →
      g.engine.managers.lookup strategyId = some m) :
    (g.step (.engine a)).LatestInstalled := by
  intro strategyId m hm kind k hk hopen
  have hbefore := hlookup strategyId m hm
  refine (h strategyId m hbefore kind k hk hopen).of_eq fun o' ho' => ?_
  obtain ⟨o, ho, hcontinues⟩ | ⟨hnone, -⟩ := TradingEngine.exists_of_step a ho'
  · exact ⟨o, ho, congrArg (Sinks.ofKind · kind) hcontinues.sinks⟩
  · have hlt : m < g.engine.objects.length := hlife.created m ⟨strategyId, hbefore⟩
    exact absurd hlt (Nat.not_lt.mpr (List.getElem?_eq_none_iff.mp hnone))

/-- A new stream has not installed its sinks yet. -/
lemma LatestInstalled.found (h : g.LatestInstalled) (hsound : g.StreamsSound) (stream : Stream) :
    ({ g with streams := g.streams ++ [stream] } : ExecutionService).LatestInstalled := by
  have hsame : ∀ k ∈ g.opened, (g.streams ++ [stream])[k]? = g.streams[k]? := by
    intro k hk
    obtain ⟨old, hold, -⟩ := hsound.opened k hk
    exact List.getElem?_append_left (List.getElem?_eq_some_iff.mp hold).1
  intro id m hm kind' k hk hopen
  have hlatest : g.latest kind' id = some k := by
    rw [← hk]
    refine (latest_congr g { g with streams := g.streams ++ [stream] } rfl
      (fun k hk => ?_) kind' id).symm
    unfold keyOf
    rw [hsame k hk]
  apply h id m hm kind' k hlatest
  obtain ⟨old, m', hold, hphase⟩ := hopen
  exact ⟨old, m', (hsame k (mem_opened_of_latest hlatest)).symm.trans hold, hphase⟩

/-- What is open after the handler of the stream `k` has come further. -/
lemma isOpen_setPhase {k j : SinkId} (hne : k ≠ j) (phase : StreamPhase) :
    (g.setPhase k phase).IsOpen j ↔ g.IsOpen j := by
  unfold IsOpen
  rw [streams_setPhase]
  simp only [if_neg hne, Option.map_id']

/-- The latest streams after the stream `k` has installed its sinks. -/
lemma latest_cons {g' : ExecutionService} {k : SinkId} {kind : StreamKind}
    {strategyId : StrategyId} (hopened : g'.opened = k :: g.opened)
    (hkey : ∀ j, g'.keyOf j = g.keyOf j) (hk : g.keyOf k = some (kind, strategyId))
    (kind' : StreamKind) (id : StrategyId) :
    g'.latest kind' id =
      if kind' = kind ∧ id = strategyId then some k else g.latest kind' id := by
  unfold latest
  rw [hopened, List.find?_cons]
  simp only [hkey, hk, Option.some.injEq, Prod.mk.injEq]
  by_cases hsame : kind' = kind ∧ id = strategyId
  · rw [if_pos hsame, hsame.1, hsame.2]
    simp
  · rw [if_neg hsame]
    have hdiff : ¬ (kind = kind' ∧ strategyId = id) := fun h => hsame ⟨h.1.symm, h.2.symm⟩
    rw [decide_eq_false hdiff]

/-- What a stream that has found the order manager `m` changes when it installs its sinks. -/
lemma installed_spec {k : SinkId} {kind : StreamKind} {strategyId : StrategyId} {m : ManagerId}
    (hk : g.streams[k]? = some ⟨kind, strategyId, .found m⟩) {g' : ExecutionService}
    (hg' : g' = { g.setPhase k (.streaming m) with
      engine := g.engine.modify m (Managed.setSinks · kind k)
      opened := k :: g.opened }) :
    g'.engine.managers = g.engine.managers ∧
      (∀ kind' id, g'.latest kind' id =
        if kind' = kind ∧ id = strategyId then some k else g.latest kind' id) ∧
      g'.IsOpen k ∧ (∀ j, k ≠ j → (g'.IsOpen j ↔ g.IsOpen j)) ∧
      ∀ m' : ManagerId, g'.engine.objects[m']? =
        (g.engine.objects[m']?).map fun o => if m = m' then o.setSinks kind k else o := by
  have hkey : g.keyOf k = some (kind, strategyId) := by
    unfold keyOf
    rw [hk, Option.map_some]
  rw [hg']
  refine ⟨rfl, latest_cons rfl (fun j => keyOf_setPhase k j _) hkey,
    ⟨⟨kind, strategyId, .streaming m⟩, m, ?_, rfl⟩, fun j hne => isOpen_setPhase hne _,
      fun m' => ?_⟩
  · dsimp only
    rw [streams_setPhase, hk, Option.map_some, if_pos rfl]
  · exact TradingEngine.objects_modify _ _ _ _

/-- A stream that has found the order manager `m` installs its sinks. -/
lemma latestInstalled_installed_iff (h : g.LatestInstalled) (hlife : g.engine.Lifetimes)
    (hsound : g.StreamsSound) {k : SinkId} {kind : StreamKind} {strategyId : StrategyId}
    {m : ManagerId} (hk : g.streams[k]? = some ⟨kind, strategyId, .found m⟩) {g' : ExecutionService}
    (hg' : g' = { g.setPhase k (.streaming m) with
      engine := g.engine.modify m (Managed.setSinks · kind k)
      opened := k :: g.opened }) :
    g'.LatestInstalled ↔
      ∀ m', g.engine.managers.lookup strategyId = some m' →
        m' = m ∧ g.engine.phaseOf m ≠ some .destroyed := by
  obtain ⟨hlookup, hlatest, hopenK, hopenOther, hobjects⟩ := installed_spec hk hg'
  have hnew : k ∉ g.opened := by
    intro hmem
    obtain ⟨stream, hstream, hheld⟩ := hsound.opened k hmem
    obtain rfl := Option.some.inj (hk.symm.trans hstream)
    cases hheld
  constructor
  · intro hafter m' hm'
    have hinstalled := hafter strategyId m' (hlookup ▸ hm') kind k
      ((hlatest kind strategyId).trans (if_pos ⟨rfl, rfl⟩)) hopenK
    obtain ⟨o, ho⟩ := hlife.exists_object hm'
    have ho' : g'.engine.objects[m']? =
        some (if m = m' then o.setSinks kind k else o) := by
      rw [hobjects, ho, Option.map_some]
    by_contra hnot
    -- no sink was called `k` before, and none is now
    have hkept : (if m = m' then o.setSinks kind k else o).sinks.ofKind kind =
        o.sinks.ofKind kind := by
      split_ifs with hmm
      · rw [Managed.ofKind_setSinks, if_neg]
        rintro ⟨-, hphase⟩
        refine hnot ⟨hmm.symm, fun hgone => hphase ?_⟩
        unfold TradingEngine.phaseOf at hgone
        rw [hmm, ho, Option.map_some] at hgone
        exact Option.some.inj hgone
      · rfl
    refine not_installed ho' ?_ hinstalled
    rw [hkept]
    exact fun hmem => hnew (hsound.sinks m' o ho kind k hmem)
  · intro hhere id m' hm' kind' j hj hopen
    rw [hlookup] at hm'
    rw [hlatest] at hj
    split_ifs at hj with hsame
    · obtain rfl := Option.some.inj hj
      obtain ⟨rfl, rfl⟩ := hsame
      obtain ⟨rfl, hphase⟩ := hhere m' hm'
      intro o' ho' sink hsink
      rw [hobjects] at ho'
      obtain ⟨o, ho, rfl⟩ := Option.map_eq_some_iff.mp ho'
      have hrunning : o.phase ≠ .destroyed := by
        intro hgone
        apply hphase
        unfold TradingEngine.phaseOf
        rw [ho, Option.map_some, hgone]
      rw [if_pos rfl, Managed.ofKind_setSinks, if_pos ⟨rfl, hrunning⟩] at hsink
      obtain ⟨_, -, rfl⟩ := List.mem_map.mp hsink
      rfl
    · have hne : k ≠ j := by
        rintro rfl
        exact hnew (mem_opened_of_latest hj)
      refine (h id m' hm' kind' j hj ((hopenOther j hne).mp hopen)).of_eq fun o' ho' => ?_
      rw [hobjects] at ho'
      obtain ⟨o, ho, rfl⟩ := Option.map_eq_some_iff.mp ho'
      refine ⟨o, ho, ?_⟩
      split_ifs with hmm
      · subst hmm
        have hid : id = strategyId := (hsound.owner k _ m hk (Or.inl rfl)).2 id hm'
        rw [Managed.ofKind_setSinks, if_neg fun hkind => hsame ⟨hkind.1, hid⟩]
      · rfl

/-- The sinks have to be in the order manager that the strategy has now. -/
lemma keepsLatest_install_iff {k : SinkId} {kind : StreamKind} {strategyId : StrategyId}
    {m : ManagerId} (hk : g.streams[k]? = some ⟨kind, strategyId, .found m⟩) :
    (ServiceAction.install k).KeepsLatest g ↔
      ∀ m', g.engine.managers.lookup strategyId = some m' →
        m' = m ∧ g.engine.phaseOf m ≠ some .destroyed := by
  constructor
  · intro hkeeps m' hm'
    exact hkeeps _ m hk rfl m' hm'
  · intro hhere stream m₁ hstream hphase m' hm'
    obtain rfl := Option.some.inj (hk.symm.trans hstream)
    obtain rfl := StreamPhase.found.inj hphase
    exact hhere m' hm'

/-- What a handler that has installed its sinks changes when it ends. -/
lemma cleared_spec {k : SinkId} {kind : StreamKind} {strategyId : StrategyId} {m : ManagerId}
    (hk : g.streams[k]? = some ⟨kind, strategyId, .streaming m⟩) {g' : ExecutionService}
    (hg' : g' = { g.setPhase k .returned with engine := g.engine.clearStream kind strategyId }) :
    g'.engine.managers = g.engine.managers ∧
      (∀ kind' id, g'.latest kind' id = g.latest kind' id) ∧
      ¬ g'.IsOpen k ∧ (∀ j, k ≠ j → (g'.IsOpen j ↔ g.IsOpen j)) ∧
      ∀ m' : ManagerId, g'.engine.objects[m']? =
        (g.engine.objects[m']?).map fun o =>
          if g.engine.managers.lookup strategyId = some m' then o.clearSinks kind else o := by
  rw [hg']
  refine ⟨g.engine.managers_clearStream kind strategyId,
    latest_congr g _ rfl fun j _ => keyOf_setPhase k j _, ?_, fun j hne => isOpen_setPhase hne _,
    g.engine.objects_clearStream kind strategyId⟩
  rintro ⟨stream, m', hstream, hphase⟩
  dsimp only at hstream
  rw [streams_setPhase, hk, Option.map_some, if_pos rfl] at hstream
  obtain rfl := Option.some.inj hstream
  cases hphase

/-- A handler ends that has installed its sinks. -/
lemma latestInstalled_cleared_iff (h : g.LatestInstalled) (hlife : g.engine.Lifetimes)
    {k : SinkId} {kind : StreamKind} {strategyId : StrategyId} {m : ManagerId}
    (hk : g.streams[k]? = some ⟨kind, strategyId, .streaming m⟩) {g' : ExecutionService}
    (hg' : g' = { g.setPhase k .returned with engine := g.engine.clearStream kind strategyId }) :
    g'.LatestInstalled ↔
      (g.engine.managers.lookup strategyId ≠ none →
        ∀ l, g.latest kind strategyId = some l → g.IsOpen l → l = k) := by
  obtain ⟨hlookup, hlatest, hclosed, hopenOther, hobjects⟩ := cleared_spec hk hg'
  constructor
  · intro hafter hregistered l hl hopen
    by_contra hne
    obtain ⟨m', hm'⟩ := Option.ne_none_iff_exists'.mp hregistered
    have hinstalled := hafter strategyId m' (hlookup ▸ hm') kind l
      ((hlatest kind strategyId).trans hl) ((hopenOther l (Ne.symm hne)).mpr hopen)
    obtain ⟨o, ho⟩ := hlife.exists_object hm'
    have ho' : g'.engine.objects[m']? = some (o.clearSinks kind) := by
      rw [hobjects, ho, Option.map_some, if_pos hm']
    refine not_installed ho' ?_ hinstalled
    rw [Managed.ofKind_clearSinks, if_pos rfl]
    intro hmem
    obtain ⟨_, -, hsink⟩ := List.mem_map.mp hmem
    cases hsink
  · intro hlast id m' hm' kind' j hj hopen
    rw [hlookup] at hm'
    rw [hlatest] at hj
    have hne : k ≠ j := by
      rintro rfl
      exact hclosed hopen
    have hopen' := (hopenOther j hne).mp hopen
    refine (h id m' hm' kind' j hj hopen').of_eq fun o' ho' => ?_
    rw [hobjects] at ho'
    obtain ⟨o, ho, rfl⟩ := Option.map_eq_some_iff.mp ho'
    refine ⟨o, ho, ?_⟩
    split_ifs with hcleared
    · obtain rfl : id = strategyId := hlife.injective m' strategyId id hcleared hm'
      rw [Managed.ofKind_clearSinks, if_neg]
      rintro rfl
      have hregistered : g.engine.managers.lookup id ≠ none := by
        rw [hm']
        exact Option.some_ne_none m'
      exact hne (hlast hregistered j hj hopen').symm
    · rfl

/-- The handler must not be overtaken by one that is open. -/
lemma keepsLatest_clear_iff (hfree : g.engine.killSwitch = none) {k : SinkId} {kind : StreamKind}
    {strategyId : StrategyId} {m : ManagerId}
    (hk : g.streams[k]? = some ⟨kind, strategyId, .streaming m⟩) :
    (ServiceAction.clear k).KeepsLatest g ↔
      (g.engine.managers.lookup strategyId ≠ none →
        ∀ l, g.latest kind strategyId = some l → g.IsOpen l → l = k) := by
  constructor
  · intro hkeeps
    exact hkeeps hfree _ m hk rfl
  · intro hlast _ stream m₁ hstream _
    obtain rfl := Option.some.inj (hk.symm.trans hstream)
    exact hlast

/-- **Step lemma.**  A step keeps the sinks of the latest streams exactly when it takes none of them
away. -/
theorem latestInstalled_step_iff (h : g.LatestInstalled) (hlife : g.engine.Lifetimes)
    (hsound : g.StreamsSound) (a : ServiceAction) :
    (g.step a).LatestInstalled ↔ a.KeepsLatest g := by
  have hstep := g.steps_step a
  generalize g.step a = g' at hstep ⊢
  cases hstep with
  | @engine action =>
    cases action with
    | registerStrategy strategyId accountId store riskManager =>
      exact latestInstalled_register_iff hlife h strategyId accountId store riskManager
    | _ =>
      refine iff_of_true (h.engine hlife _ fun id m hm => ?_) trivial
      apply (g.engine.lookup_of_step _ hm).resolve_right
      rintro ⟨-, accountId, store, riskManager, heq⟩
      cases heq
  | found hfree hm => exact iff_of_true (h.found hsound _) trivial
  | installed hk =>
    rw [latestInstalled_installed_iff h hlife hsound hk rfl, keepsLatest_install_iff hk]
  | cleared hfree hk =>
    rw [latestInstalled_cleared_iff h hlife hk rfl, keepsLatest_clear_iff hfree hk]
  | notFound => exact iff_of_true h trivial
  | notInstalled hnot =>
    refine iff_of_true h fun stream m hk hphase => absurd hk ?_
    obtain ⟨kind, strategyId, phase⟩ := stream
    obtain rfl : phase = .found m := hphase
    exact hnot kind strategyId m
  | notCleared hnot =>
    refine iff_of_true h fun hfree stream m hk hphase => absurd hk ?_
    obtain ⟨kind, strategyId, phase⟩ := stream
    obtain rfl : phase = .streaming m := hphase
    exact hnot hfree kind strategyId m

end ExecutionService

/-- **A live stream keeps its sinks** along a run exactly when no step takes sinks away from the
latest stream of a strategy. -/
theorem latest_installed_iff (actions : List ServiceAction) :
    Trajectory.EveryState ExecutionService.step ExecutionService.LatestInstalled {} actions ↔
      Trajectory.AllSteps ExecutionService.step (fun g a => a.KeepsLatest g) {} actions := by
  have hstart : ExecutionService.LatestInstalled {} := by
    intro strategyId m hm
    cases hm
  refine Trajectory.everyState_iff_of_invariant
    (I := fun g : ExecutionService => g.engine.Lifetimes ∧ g.StreamsSound) ?_ ?_
    ⟨TradingEngine.lifetimes_start, ExecutionService.streamsSound_start⟩ hstart
  · rintro g a ⟨hlife, hsound⟩
    exact ⟨hlife.serviceStep a, hsound.step hlife a⟩
  · rintro g a ⟨hlife, hsound⟩ h
    exact ExecutionService.latestInstalled_step_iff h hlife hsound a

/-- A client reconnects, and the handler of its old stream clears the sinks of the new one. -/
theorem reconnected_stream_cleared :
    let actions : List ServiceAction :=
      [.engine (.registerStrategy "S" "ACC" .empty ⟨{}⟩), .setup .fills "S", .install 0,
        .setup .fills "S", .install 1, .clear 0]
    ¬ Trajectory.EveryState ExecutionService.step ExecutionService.LatestInstalled {} actions := by
  intro actions h
  have hlatest : (Trajectory.run ExecutionService.step {} actions).latest .fills "S" = some 1 := by
    decide +kernel
  have hlookup : (Trajectory.run ExecutionService.step {} actions).engine.managers.lookup "S" =
      some 0 := by
    decide +kernel
  have hopen : (Trajectory.run ExecutionService.step {} actions).IsOpen 1 :=
    ⟨⟨.fills, "S", .streaming 0⟩, 0, rfl, rfl⟩
  have hsinks : ((Trajectory.run ExecutionService.step {} actions).engine.objects[0]?.map
      fun o => o.sinks.ofKind .fills) = some [none] := by
    decide +kernel
  obtain ⟨o, ho, hnone⟩ := Option.map_eq_some_iff.mp hsinks
  have hinstalled := h.last "S" 0 hlookup .fills 1 hlatest hopen o ho none
  rw [hnone] at hinstalled
  cases hinstalled List.mem_cons_self

end Quarcc
