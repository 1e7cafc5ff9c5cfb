import QuarccEngine.Grpc.Lookups
import QuarccEngine.OrderManager.Sinks

/-!
# The sinks of the streams

The sinks of a stream write to a client and must not be called after its handler has returned.  A
handler clears the sinks of the order manager that has its strategy id when it ends, whoever
installed them.  So a sink that is installed where its strategy is registered is never called too
late, but a handler that ends can take away the sinks of a handler that was opened after it.
-/

namespace Quarcc

/-! ## The sinks of one order manager -/

/-- The sinks that a kind of streams installs. -/
def Sinks.ofKind (sinks : Sinks) : StreamKind → List (Option SinkId)
  | .fills => [sinks.fill]
  | .marketData => [sinks.tick, sinks.bar]

/-- The sink that is called. -/
def SinkCall.sink : SinkCall → SinkId
  | .tick sink _ | .bar sink _ | .fill sink _ => sink

/-- What is called is installed for some kind of streams. -/
lemma Sinks.Calls.mem_ofKind {sinks : Sinks} {call : SinkCall} (h : sinks.Calls call) :
    ∃ kind, some call.sink ∈ sinks.ofKind kind := by
  cases call with
  | tick sink tick =>
    have htick : sinks.tick = some sink := h
    exact ⟨.marketData, List.mem_cons.mpr (Or.inl htick.symm)⟩
  | bar sink bar =>
    have hbar : sinks.bar = some sink := h
    exact ⟨.marketData, List.mem_cons_of_mem _ (List.mem_singleton.mpr hbar.symm)⟩
  | fill sink fill =>
    have hfill : sinks.fill = some sink := h
    exact ⟨.fills, List.mem_singleton.mpr hfill.symm⟩

/-- There is a sink for each kind. -/
lemma Sinks.exists_mem_ofKind (sinks : Sinks) (kind : StreamKind) :
    ∃ sink, sink ∈ sinks.ofKind kind := by
  cases kind with
  | fills => exact ⟨_, List.mem_cons_self⟩
  | marketData => exact ⟨_, List.mem_cons_self⟩

namespace OrderManager

variable (s : OrderManager) (kind kind' : StreamKind) (sink : SinkId)

/-- The sinks after those of one kind were installed. -/
lemma ofKind_setSinks : (s.setSinks kind sink).sinks.ofKind kind' =
    if kind' = kind then (s.sinks.ofKind kind').map fun _ => some sink
    else s.sinks.ofKind kind' := by
  cases kind <;> cases kind' <;> rfl

/-- The sinks after those of one kind were cleared. -/
lemma ofKind_clearSinks : (s.clearSinks kind).sinks.ofKind kind' =
    if kind' = kind then (s.sinks.ofKind kind').map fun _ => none
    else s.sinks.ofKind kind' := by
  cases kind <;> cases kind' <;> rfl

/-- Installing and clearing sinks calls none. -/
lemma sinkCalls_setSinks : (s.setSinks kind sink).sinkCalls = s.sinkCalls := by
  cases kind <;> rfl

lemma sinkCalls_clearSinks : (s.clearSinks kind).sinkCalls = s.sinkCalls := by
  cases kind <;> rfl

end OrderManager

/-- The installed sinks of the order manager. -/
abbrev Managed.sinks (o : Managed) : Sinks := o.account.1.sinks

/-- The calls of sinks that the order manager has made. -/
abbrev Managed.sinkCalls (o : Managed) : List SinkCall := o.account.1.sinkCalls

/-! ## What the engine does to the sinks -/

namespace Managed

variable (o : Managed)

/-- The dispatch thread calls only what is installed, and only while it handles an event. -/
lemma finish_sinks (env : Env) (gateway : GatewayAnswers) :
    (o.finish env gateway).sinks = o.sinks ∧
      ∃ calls, (o.finish env gateway).sinkCalls = o.sinkCalls ++ calls ∧
        ∀ call ∈ calls, o.handling ≠ none ∧ o.sinks.Calls call := by
  cases hhandling : o.handling with
  | none =>
    have hsame : o.finish env gateway = o := by
      unfold finish
      rw [hhandling]
    rw [hsame]
    exact ⟨rfl, [], (List.append_nil _).symm, fun _ hcall => absurd hcall List.not_mem_nil⟩
  | some event =>
    have hbooks : (o.finish env gateway).account.1 =
        dispatch o.account.1 ⟨event, env, gateway⟩ := by
      unfold finish
      rw [hhandling]
      rfl
    obtain ⟨hsinks, calls, hcalls, hinstalled⟩ :=
      dispatch_callsInstalled o.account.1 ⟨event, env, gateway⟩
    rw [← hbooks] at hsinks hcalls
    exact ⟨hsinks, calls, hcalls, fun call hcall => ⟨nofun, hinstalled call hcall⟩⟩

end Managed

/-- What a step makes of the order manager `o`: it stays destroyed, its sinks stay, and the sinks
that are called are installed. -/
structure Managed.Continues (o o' : Managed) : Prop where
  destroyed : o.phase = .destroyed → o'.phase = .destroyed
  sinks : o'.sinks = o.sinks
  calls : ∃ calls, o'.sinkCalls = o.sinkCalls ++ calls ∧
    ∀ call ∈ calls, o.handling ≠ none ∧ o.sinks.Calls call

/-- A step that does not touch the books. -/
lemma Managed.Continues.of_account {o o' : Managed}
    (hphase : o.phase = .destroyed → o'.phase = .destroyed) (haccount : o'.account = o.account) :
    o.Continues o' where
  destroyed := hphase
  sinks := by
    unfold Managed.sinks
    rw [haccount]
  calls := by
    refine ⟨[], ?_, fun _ hcall => absurd hcall List.not_mem_nil⟩
    unfold Managed.sinkCalls
    rw [haccount, List.append_nil]

/-- Nothing is done. -/
lemma Managed.Continues.refl (o : Managed) : o.Continues o := .of_account id rfl

namespace TradingEngine

variable {e : TradingEngine} {m : ManagerId}

/-- What an order manager comes from when one was changed. -/
lemma exists_of_modify {f : Managed → Managed} (hf : ∀ o : Managed, o.Continues (f o))
    (m' : ManagerId) {o' : Managed} (ho' : (e.modify m' f).objects[m]? = some o') :
    ∃ o, e.objects[m]? = some o ∧ o.Continues o' := by
  rw [objects_modify] at ho'
  obtain ⟨o, ho, rfl⟩ := Option.map_eq_some_iff.mp ho'
  refine ⟨o, ho, ?_⟩
  split_ifs
  · exact hf o
  · exact .refl o

/-- **What an order manager comes from**: it was there before the step, or it was created without
sinks. -/
lemma exists_of_step (a : Action) {o' : Managed} (ho' : (e.step a).objects[m]? = some o') :
    (∃ o, e.objects[m]? = some o ∧ o.Continues o') ∨
      e.objects[m]? = none ∧ o'.sinks = ⟨none, none, none⟩ ∧ o'.sinkCalls = [] := by
  have hsame : e.objects[m]? = some o' → ∃ o, e.objects[m]? = some o ∧ o.Continues o' :=
    fun ho => ⟨o', ho, .refl o'⟩
  have henqueue : ∀ event (o : Managed), o.Continues (o.enqueue event) := fun event o =>
    .of_account (o.enqueue_phase event).trans (o.enqueue_account event).1
  have hstep := e.steps_step a
  generalize e.step a = e' at hstep ho'
  cases hstep with
  | registered hnone hnew =>
    dsimp only at ho'
    rcases Nat.lt_or_ge m e.objects.length with hlt | hge
    · rw [List.getElem?_append_left hlt] at ho'
      exact Or.inl (hsame ho')
    · right
      refine ⟨List.getElem?_eq_none hge, ?_⟩
      rw [List.getElem?_append_right hge] at ho'
      obtain rfl := List.mem_singleton.mp (List.mem_of_getElem? ho')
      exact ⟨rfl, rfl⟩
  | enqueued hcall => exact Or.inl (exists_of_modify (henqueue _) _ ho')
  | delivered => exact Or.inl (exists_of_modify (henqueue _) _ ho')
  | popped =>
    left
    refine exists_of_modify (fun o => .of_account ?_ o.pop_account.1) _ ho'
    exact o.pop_phase.trans
  | @finished m' env gateway =>
    left
    refine exists_of_modify (fun o => ?_) m' ho'
    obtain ⟨hsinks, hcalls⟩ := o.finish_sinks env gateway
    exact ⟨(o.finish_phase env gateway).trans, hsinks, hcalls⟩
  | loopEnded =>
    left
    refine exists_of_modify (fun o => .of_account (fun ho => ?_) o.endLoop_account.1) _ ho'
    obtain heq | ⟨hstopping, -, -⟩ := o.endLoop_cases
    · rw [heq, ho]
    · cases hstopping.symm.trans ho
  | cancelled hkill htodo => exact Or.inl (exists_of_modify (henqueue _) _ ho')
  | stopped hkill htodo =>
    left
    refine exists_of_modify (fun o => .of_account (fun ho => ?_) o.stop_account.1) _ ho'
    obtain heq | ⟨hrun, -⟩ := o.stop_cases
    · rw [heq, ho]
    · cases hrun.symm.trans ho
  | joined hkill htodo hended =>
    left
    exact exists_of_modify (f := Managed.destroy) (fun o => .of_account (fun _ => rfl) rfl) _ ho'
  | found _ _ | stopBegun _ _ | haltBegun _ _ | awaited _ _ _ | returned _ _ | idle =>
    exact Or.inl (hsame ho')

/-- No order manager disappears. -/
lemma length_step (e : TradingEngine) (a : Action) :
    e.objects.length ≤ (e.step a).objects.length := by
  have hmodify : ∀ m f, e.objects.length ≤ (e.modify m f).objects.length :=
    fun m f => (List.length_modify _ _ _).ge
  have hstep := e.steps_step a
  generalize e.step a = e' at hstep ⊢
  cases hstep with
  | registered _ _ => exact List.length_append ▸ Nat.le_add_right _ _
  | enqueued _ | delivered | popped | finished | loopEnded => exact hmodify _ _
  | cancelled _ _ | stopped _ _ | joined _ _ _ => exact hmodify _ _
  | found _ _ | stopBegun _ _ | haltBegun _ _ | awaited _ _ _ | returned _ _ | idle => exact le_rfl

/-- What is registered stays registered until it is destroyed. -/
lemma Lifetimes.lookup_step (h : e.Lifetimes) (a : Action) {strategyId : StrategyId}
    (hm : e.managers.lookup strategyId = some m) (hphase : e.phaseOf m ≠ some .destroyed) :
    (e.step a).managers.lookup strategyId = some m := by
  have hstep := e.steps_step a
  generalize e.step a = e' at hstep ⊢
  cases hstep with
  | registered hnone hnew =>
    rw [FiniteMap.lookup_insert_eq, if_neg, hm]
    rintro rfl
    rw [hnew] at hm
    cases hm
  | @returned kill hkill htodo =>
    refine (lookup_remaining _ _ _ _).mpr ⟨fun hstops => hphase ?_, hm⟩
    have haffected := (h.affected_iff kill hkill m).mpr ⟨strategyId, hstops, hm⟩
    have hgone := h.joined kill hkill m haffected
    rw [htodo] at hgone
    exact hgone.resolve_left List.not_mem_nil
  | _ => exact hm

/-- Nothing is registered under an id but what was registered before or is created now. -/
lemma lookup_of_step (e : TradingEngine) (a : Action) {strategyId : StrategyId}
    (hm : (e.step a).managers.lookup strategyId = some m) :
    e.managers.lookup strategyId = some m ∨
      m = e.objects.length ∧ ∃ accountId store riskManager,
        a = .registerStrategy strategyId accountId store riskManager := by
  have hstep := e.steps_step a
  generalize e.step a = e' at hstep hm
  cases hstep with
  | @registered other accountId store riskManager hnone hnew =>
    rw [FiniteMap.lookup_insert_eq] at hm
    split_ifs at hm with hid
    · exact Or.inr ⟨(Option.some.inj hm).symm, accountId, store, riskManager, by rw [hid]⟩
    · exact Or.inl hm
  | returned hkill htodo => exact Or.inl ((lookup_remaining _ _ _ _).mp hm).2
  | _ => exact Or.inl hm

end TradingEngine

/-! ## Sinks and handlers -/

namespace Managed

variable (o : Managed) (kind kind' : StreamKind) (sink : SinkId)

lemma ofKind_setSinks : (o.setSinks kind sink).sinks.ofKind kind' =
    if kind' = kind ∧ o.phase ≠ .destroyed then (o.sinks.ofKind kind').map fun _ => some sink
    else o.sinks.ofKind kind' := by
  unfold setSinks
  by_cases hphase : o.phase = .destroyed
  · simp [hphase]
  · rw [if_neg hphase]
    apply (o.account.1.ofKind_setSinks kind kind' sink).trans
    simp [hphase]

lemma ofKind_clearSinks : (o.clearSinks kind).sinks.ofKind kind' =
    if kind' = kind then (o.sinks.ofKind kind').map fun _ => none else o.sinks.ofKind kind' :=
  o.account.1.ofKind_clearSinks kind kind'

lemma sinkCalls_setSinks : (o.setSinks kind sink).sinkCalls = o.sinkCalls := by
  unfold setSinks
  split_ifs
  · rfl
  · exact o.account.1.sinkCalls_setSinks kind sink

lemma sinkCalls_clearSinks : (o.clearSinks kind).sinkCalls = o.sinkCalls :=
  o.account.1.sinkCalls_clearSinks kind

end Managed

namespace ExecutionService

variable (g : ExecutionService)

/-- The handler of the stream has installed its sinks and has not returned. -/
def IsOpen (k : SinkId) : Prop :=
  ∃ stream m, g.streams[k]? = some stream ∧ stream.phase = .streaming m

/-- The calls of sinks that the order manager `m` has made. -/
def calls (m : ManagerId) : List SinkCall :=
  (g.engine.objects[m]?.map Managed.sinkCalls).getD []

/-- Every sink that can be called belongs to an open stream, whose strategy has the order
manager. -/
def SinksOpen : Prop :=
  ∀ (m : ManagerId) (o : Managed), g.engine.objects[m]? = some o → o.phase ≠ .destroyed →
    ∀ kind k, some k ∈ o.sinks.ofKind kind →
      ∃ stream, g.streams[k]? = some stream ∧ stream.kind = kind ∧ stream.phase = .streaming m ∧
        g.engine.managers.lookup stream.strategyId = some m

end ExecutionService

/-- The setup of a stream reaches an order manager that is still registered for its strategy. -/
def ServiceAction.SetupRegistered (g : ExecutionService) : ServiceAction → Prop
  | .install k => ∀ stream ∈ g.streams[k]?, ∀ m ∈ stream.phase.held,
    g.engine.managers.lookup stream.strategyId = some m
  | _ => True

instance (g : ExecutionService) : (a : ServiceAction) → Decidable (a.SetupRegistered g)
  | .install k =>
    inferInstanceAs (Decidable (∀ stream ∈ g.streams[k]?, ∀ m ∈ stream.phase.held,
      g.engine.managers.lookup stream.strategyId = some m))
  | .engine _ | .setup _ _ | .clear _ => isTrue trivial

/-- The sinks that are called in this step are those of open streams. -/
def ServiceAction.CallsOpen (g : ExecutionService) (a : ServiceAction) : Prop :=
  ∀ m, ∀ call ∈ ((g.step a).calls m).drop (g.calls m).length, g.IsOpen call.sink

namespace ExecutionService

variable {g : ExecutionService}

/-- The calls that an order manager has made after a step are those from before and those of the
sinks that were installed, or it was created now. -/
lemma sinkCalls_of_step {a : ServiceAction} {m : ManagerId} {o' : Managed}
    (ho' : (g.step a).engine.objects[m]? = some o') :
    (∃ o calls, g.engine.objects[m]? = some o ∧ o'.sinkCalls = o.sinkCalls ++ calls ∧
      ∀ call ∈ calls, o.handling ≠ none ∧ o.sinks.Calls call) ∨ o'.sinkCalls = [] := by
  have hkept : ∀ o : Managed, g.engine.objects[m]? = some o → o'.sinkCalls = o.sinkCalls →
      ∃ o calls, g.engine.objects[m]? = some o ∧ o'.sinkCalls = o.sinkCalls ++ calls ∧
        ∀ call ∈ calls, o.handling ≠ none ∧ o.sinks.Calls call := by
    intro o ho hcalls
    exact ⟨o, [], ho, by rw [hcalls, List.append_nil],
      fun _ hcall => absurd hcall List.not_mem_nil⟩
  have hstep := g.steps_step a
  generalize g.step a = g' at hstep ho'
  cases hstep with
  | engine =>
    refine (TradingEngine.exists_of_step _ ho').imp ?_ fun h => h.2.2
    rintro ⟨o, ho, hcontinues⟩
    obtain ⟨calls, hcalls, hinstalled⟩ := hcontinues.calls
    exact ⟨o, calls, ho, hcalls, hinstalled⟩
  | @installed k kind strategyId m' hk =>
    left
    rw [TradingEngine.objects_modify] at ho'
    obtain ⟨o, ho, rfl⟩ := Option.map_eq_some_iff.mp ho'
    apply hkept o ho
    split_ifs
    · exact o.sinkCalls_setSinks kind k
    · rfl
  | @cleared k kind strategyId m' hfree hk =>
    left
    dsimp only at ho'
    rw [TradingEngine.objects_clearStream] at ho'
    obtain ⟨o, ho, rfl⟩ := Option.map_eq_some_iff.mp ho'
    apply hkept o ho
    split_ifs
    · exact o.sinkCalls_clearSinks kind
    · rfl
  | found _ _ | notFound | notInstalled _ | notCleared _ => exact Or.inl (hkept o' ho' rfl)

/-- A step calls only sinks that are installed, while the dispatch thread handles an event. -/
lemma installed_of_called {a : ServiceAction} {m : ManagerId} {call : SinkCall}
    (hcall : call ∈ ((g.step a).calls m).drop (g.calls m).length) :
    ∃ o, g.engine.objects[m]? = some o ∧ o.handling ≠ none ∧ o.sinks.Calls call := by
  cases ho' : (g.step a).engine.objects[m]? with
  | none =>
    have hnone : (g.step a).calls m = [] := by
      unfold calls
      rw [ho']
      rfl
    rw [hnone, List.drop_nil] at hcall
    cases hcall
  | some o' =>
    have hcalls' : (g.step a).calls m = o'.sinkCalls := by
      unfold calls
      rw [ho']
      rfl
    rw [hcalls'] at hcall
    obtain ⟨o, calls, ho, happend, hinstalled⟩ | hempty := sinkCalls_of_step ho'
    · have hbefore : g.calls m = o.sinkCalls := by
        unfold ExecutionService.calls
        rw [ho]
        rfl
      rw [hbefore, happend, List.drop_left] at hcall
      exact ⟨o, ho, hinstalled call hcall⟩
    · rw [hempty, List.drop_nil] at hcall
      cases hcall

/-- The streams are left alone, and a step of the engine keeps the sinks. -/
lemma SinksOpen.engine (h : g.SinksOpen) (hlife : g.engine.Lifetimes) (a : Action) :
    ({ g with engine := g.engine.step a } : ExecutionService).SinksOpen := by
  intro m o' ho' hphase' kind k hk
  obtain ⟨o, ho, hcontinues⟩ | ⟨-, hsinks, -⟩ := TradingEngine.exists_of_step a ho'
  · rw [hcontinues.sinks] at hk
    have hphase : o.phase ≠ .destroyed := fun hgone => hphase' (hcontinues.destroyed hgone)
    obtain ⟨stream, hstream, hkind, hopen, hm⟩ := h m o ho hphase kind k hk
    refine ⟨stream, hstream, hkind, hopen, hlife.lookup_step a hm ?_⟩
    unfold TradingEngine.phaseOf
    rw [ho, Option.map_some]
    exact fun hgone => hphase (Option.some.inj hgone)
  · rw [hsinks] at hk
    cases kind <;> simp [Sinks.ofKind] at hk

/-- A new stream has no sinks yet. -/
lemma SinksOpen.found (h : g.SinksOpen) (stream : Stream) :
    ({ g with streams := g.streams ++ [stream] } : ExecutionService).SinksOpen := by
  intro m o ho hphase kind' k hk
  obtain ⟨stream, hstream, hrest⟩ := h m o ho hphase kind' k hk
  have hlt : k < g.streams.length := (List.getElem?_eq_some_iff.mp hstream).1
  exact ⟨stream, (List.getElem?_append_left hlt).trans hstream, hrest⟩

/-- A stream installs its sinks where its strategy is registered. -/
lemma SinksOpen.installed (h : g.SinksOpen) {k : SinkId} {kind : StreamKind}
    {strategyId : StrategyId} {m : ManagerId}
    (hk : g.streams[k]? = some ⟨kind, strategyId, .found m⟩)
    (hm : g.engine.managers.lookup strategyId = some m) :
    ({ g.setPhase k (.streaming m) with
      engine := g.engine.modify m (Managed.setSinks · kind k)
      opened := k :: g.opened } : ExecutionService).SinksOpen := by
  intro m' o' ho' hphase kind' j hj
  have hstream : ∀ j : SinkId, (g.setPhase k (.streaming m)).streams[j]? =
      (g.streams[j]?).map fun stream =>
        if k = j then { stream with phase := .streaming m } else stream :=
    fun j => g.streams_setPhase k j _
  rw [TradingEngine.objects_modify] at ho'
  obtain ⟨o, ho, rfl⟩ := Option.map_eq_some_iff.mp ho'
  -- a sink that was there before belongs to another stream
  have hold : some j ∈ o.sinks.ofKind kind' → o.phase ≠ .destroyed →
      ∃ stream, (g.setPhase k (.streaming m)).streams[j]? = some stream ∧ stream.kind = kind' ∧
        stream.phase = .streaming m' ∧
        g.engine.managers.lookup stream.strategyId = some m' := by
    intro hj hphase
    obtain ⟨stream, hj', hrest⟩ := h m' o ho hphase kind' j hj
    have hne : k ≠ j := by
      rintro rfl
      obtain rfl := Option.some.inj (hk.symm.trans hj')
      cases hrest.2.1
    refine ⟨stream, ?_, hrest⟩
    rw [hstream, hj', Option.map_some, if_neg hne]
  by_cases hmm : m = m'
  · subst hmm
    rw [if_pos rfl] at hj hphase
    rw [Managed.setSinks_phase] at hphase
    rw [Managed.ofKind_setSinks] at hj
    split_ifs at hj with hkind
    · obtain ⟨_, -, hsink⟩ := List.mem_map.mp hj
      obtain rfl := Option.some.inj hsink
      refine ⟨⟨kind, strategyId, .streaming m⟩, ?_, hkind.1.symm, rfl, hm⟩
      rw [hstream, hk, Option.map_some, if_pos rfl]
    · exact hold hj hphase
  · rw [if_neg hmm] at hj hphase
    exact hold hj hphase

/-- A handler that returns leaves none of its sinks behind. -/
lemma SinksOpen.cleared (h : g.SinksOpen) {k : SinkId} {kind : StreamKind}
    {strategyId : StrategyId} {m₀ : ManagerId}
    (hk : g.streams[k]? = some ⟨kind, strategyId, .streaming m₀⟩) :
    ({ g.setPhase k .returned with engine := g.engine.clearStream kind strategyId } :
      ExecutionService).SinksOpen := by
  have hstream : ∀ j : SinkId, (g.setPhase k .returned).streams[j]? =
      (g.streams[j]?).map fun stream =>
        if k = j then { stream with phase := .returned } else stream :=
    fun j => g.streams_setPhase k j _
  have hother : ∀ {m : ManagerId} {o : Managed} {kind' : StreamKind} {j : SinkId},
      g.engine.objects[m]? = some o → o.phase ≠ .destroyed → some j ∈ o.sinks.ofKind kind' →
      (kind' = kind → g.engine.managers.lookup strategyId ≠ some m) →
      ∃ stream, (g.setPhase k .returned).streams[j]? = some stream ∧ stream.kind = kind' ∧
        stream.phase = .streaming m ∧ g.engine.managers.lookup stream.strategyId = some m := by
    intro m o kind' j ho hphase hj hnot
    obtain ⟨stream, hj', hkind, hopen, hm⟩ := h m o ho hphase kind' j hj
    have hne : k ≠ j := by
      rintro rfl
      obtain rfl := Option.some.inj (hk.symm.trans hj')
      exact hnot hkind.symm hm
    refine ⟨stream, ?_, hkind, hopen, hm⟩
    rw [hstream, hj', Option.map_some, if_neg hne]
  intro m' o' ho' hphase kind' j hj
  dsimp only at ho' ⊢
  rw [TradingEngine.objects_clearStream] at ho'
  rw [TradingEngine.managers_clearStream]
  obtain ⟨o, ho, rfl⟩ := Option.map_eq_some_iff.mp ho'
  split_ifs at hj hphase with hcleared
  · rw [Managed.ofKind_clearSinks] at hj
    split_ifs at hj with hkind
    · obtain ⟨_, -, hsink⟩ := List.mem_map.mp hj
      cases hsink
    · exact hother ho hphase hj fun heq => absurd heq hkind
  · exact hother ho hphase hj fun _ => hcleared

/-- **Step lemma.**  The sinks that can be called stay those of open streams. -/
theorem SinksOpen.step (h : g.SinksOpen) (hlife : g.engine.Lifetimes) {a : ServiceAction}
    (hregistered : a.SetupRegistered g) : (g.step a).SinksOpen := by
  have hstep := g.steps_step a
  generalize g.step a = g' at hstep ⊢
  cases hstep with
  | engine => exact h.engine hlife _
  | found hfree hm => exact h.found _
  | installed hk => exact h.installed hk (hregistered _ hk _ rfl)
  | cleared hfree hk => exact h.cleared hk
  | notFound | notInstalled _ | notCleared _ => exact h

/-- What is called belongs to an open stream. -/
lemma SinksOpen.callsOpen (h : g.SinksOpen) (hlife : g.engine.Lifetimes) (a : ServiceAction) :
    a.CallsOpen g := by
  intro m call hcall
  obtain ⟨o, ho, hhandling, hinstalled⟩ := installed_of_called hcall
  have hphase : o.phase ≠ .destroyed := fun hgone =>
    hhandling (hlife.idle m o ho (Or.inr hgone))
  obtain ⟨kind, hmem⟩ := hinstalled.mem_ofKind
  obtain ⟨stream, hstream, -, hopen, -⟩ := h m o ho hphase kind call.sink hmem
  exact ⟨stream, m, hstream, hopen⟩

end ExecutionService

/-- **A dead writer is never called.**  In every interleaving of the handlers of the streams, the
requests, the dispatch threads and the kill switches in which every setup reaches an order manager
that is still registered, only sinks of handlers that have not returned are called. -/
theorem dead_writer_never_called (actions : List ServiceAction)
    (hregistered : Trajectory.AllSteps ExecutionService.step (fun g a => a.SetupRegistered g) {}
      actions) :
    Trajectory.AllSteps ExecutionService.step (fun g a => a.CallsOpen g) {} actions := by
  have hstart : ExecutionService.SinksOpen {} := by
    intro m o ho
    cases ho
  refine Trajectory.allSteps_of_invariant
    (I := fun g : ExecutionService => g.engine.Lifetimes ∧ g.SinksOpen) ?_ ?_
    ⟨TradingEngine.lifetimes_start, hstart⟩ hregistered
  · rintro g a ⟨hlife, h⟩ hi
    exact ⟨hlife.serviceStep a, h.step hlife hi⟩
  · rintro g a ⟨hlife, h⟩ -
    exact h.callsOpen hlife a

/-- A stream that sees one bar and ends before the next one. -/
theorem dead_writer_never_called_bars :
    let bar : Bar := ⟨"AAPL", "1m", 1, 1, 1, 1, 1, 1, 0, 0⟩
    let actions : List ServiceAction :=
      [.engine (.registerStrategy "S" "ACC" .empty ⟨{}⟩), .setup .marketData "S", .install 0,
        .engine (.deliver 0 (.bar bar)), .engine (.pop 0),
        .engine (.finish 0 .quiet (.accepting "B1")), .clear 0,
        .engine (.deliver 0 (.bar bar)), .engine (.pop 0),
        .engine (.finish 0 .quiet (.accepting "B1"))]
    Trajectory.AllSteps ExecutionService.step (fun g a => a.CallsOpen g) {} actions := by
  intro bar actions
  exact dead_writer_never_called actions (by decide +kernel)

end Quarcc
