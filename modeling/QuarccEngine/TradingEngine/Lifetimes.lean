import QuarccEngine.Core.TradingEngine

/-!
# The lifetimes of order managers

An order manager is registered under one strategy id from its creation until a kill switch has
destroyed it.  Its destructor begins only while the kill switch holds the lock, and its dispatch
thread is idle when it ends.
-/

namespace Quarcc

/-- The kill switch stops the strategy. -/
def KillSwitch.Stops (kill : KillSwitch) (strategyId : StrategyId) : Prop :=
  ∀ target, kill.target = some target → target = strategyId

namespace Managed

variable (o : Managed)

@[simp] lemma enqueue_phase (event : OMEvent) : (o.enqueue event).phase = o.phase := by
  unfold enqueue
  split_ifs <;> rfl

@[simp] lemma enqueue_handling (event : OMEvent) : (o.enqueue event).handling = o.handling := by
  unfold enqueue
  split_ifs <;> rfl

@[simp] lemma pop_phase : o.pop.phase = o.phase := by
  unfold pop
  split_ifs
  · cases o.queue.pop <;> rfl
  · rfl

/-! Only the end of a handler touches the account and the promise of the kill switch. -/

lemma enqueue_account (event : OMEvent) :
    (o.enqueue event).account = o.account ∧ (o.enqueue event).halted = o.halted := by
  unfold enqueue
  split_ifs <;> exact ⟨rfl, rfl⟩

lemma pop_account : o.pop.account = o.account ∧ o.pop.halted = o.halted := by
  unfold pop
  split_ifs
  · cases o.queue.pop <;> exact ⟨rfl, rfl⟩
  · exact ⟨rfl, rfl⟩

lemma endLoop_account : o.endLoop.account = o.account ∧ o.endLoop.halted = o.halted := by
  unfold endLoop
  split_ifs <;> exact ⟨rfl, rfl⟩

lemma stop_account : o.stop.account = o.account ∧ o.stop.halted = o.halted := by
  unfold stop
  split_ifs <;> exact ⟨rfl, rfl⟩

/-- A dispatch loop that has ended pops nothing. -/
lemma pop_of_ended (h : o.phase = .ended ∨ o.phase = .destroyed) : o.pop = o := by
  have hphase : ¬ (o.phase = .running ∨ o.phase = .stopping) := by
    rcases h with h | h <;> simp [h]
  unfold pop
  rw [if_neg fun hpop => hphase hpop.1]

@[simp] lemma finish_phase (env : Env) (gateway : GatewayAnswers) :
    (o.finish env gateway).phase = o.phase := by
  unfold finish
  cases o.handling <;> rfl

@[simp] lemma finish_handling (env : Env) (gateway : GatewayAnswers) :
    (o.finish env gateway).handling = none := by
  unfold finish
  cases h : o.handling with
  | none => exact h
  | some event => rfl

/-- A dispatch loop that ends was asked to stop and handles nothing. -/
lemma endLoop_cases :
    o.endLoop = o ∨
      o.phase = .stopping ∧ o.handling = none ∧ o.endLoop = { o with phase := .ended } := by
  unfold endLoop
  split_ifs with h
  · exact Or.inr ⟨h.1, h.2.1, rfl⟩
  · exact Or.inl rfl

/-- Only an order manager that runs is stopped. -/
lemma stop_cases : o.stop = o ∨ o.phase = .running ∧ o.stop = { o with phase := .stopping } := by
  unfold stop
  split_ifs with h
  · exact Or.inr ⟨h, rfl⟩
  · exact Or.inl rfl

end Managed

namespace TradingEngine

/-- How far the destruction of an order manager has come, when it was created. -/
def phaseOf (e : TradingEngine) (m : ManagerId) : Option Phase :=
  e.objects[m]?.map Managed.phase

/-- The order manager is in `managers_`. -/
def Registered (e : TradingEngine) (m : ManagerId) : Prop :=
  ∃ strategyId, e.managers.lookup strategyId = some m

/-- The account of what is registered, running and destroyed. -/
structure Lifetimes (e : TradingEngine) : Prop where
  /-- No order manager is registered twice. -/
  injective : ∀ m strategyId other, e.managers.lookup strategyId = some m →
    e.managers.lookup other = some m → other = strategyId
  /-- Only what was created is registered. -/
  created : ∀ m, e.Registered m → m < e.objects.length
  /-- An order manager that is not affected by a kill switch runs. -/
  running : ∀ m, e.Registered m →
    e.phaseOf m = some .running ∨ ∃ kill, e.killSwitch = some kill ∧ m ∈ kill.affected
  /-- An order manager is registered until it is destroyed. -/
  registered : ∀ m phase, e.phaseOf m = some phase → phase ≠ .destroyed → e.Registered m
  /-- A dispatch loop that has ended handles nothing. -/
  idle : ∀ (m : ManagerId) (o : Managed), e.objects[m]? = some o →
    o.phase = .ended ∨ o.phase = .destroyed → o.handling = none
  /-- A kill switch affects the order managers that it removes. -/
  affected_iff : ∀ kill, e.killSwitch = some kill → ∀ m, m ∈ kill.affected ↔
    ∃ strategyId, kill.Stops strategyId ∧ e.managers.lookup strategyId = some m
  /-- It destroys nothing else. -/
  todo_affected : ∀ kill, e.killSwitch = some kill → ∀ m,
    .stop m ∈ kill.todo ∨ .join m ∈ kill.todo → m ∈ kill.affected
  /-- It has still to destroy what is not destroyed. -/
  joined : ∀ kill, e.killSwitch = some kill → ∀ m ∈ kill.affected,
    .join m ∈ kill.todo ∨ e.phaseOf m = some .destroyed

variable {e e' : TradingEngine} {m : ManagerId}

/-- A registered order manager is there. -/
lemma Lifetimes.exists_object (h : e.Lifetimes) {strategyId : StrategyId}
    (hm : e.managers.lookup strategyId = some m) : ∃ o, e.objects[m]? = some o :=
  ⟨_, List.getElem?_eq_getElem (h.created m ⟨strategyId, hm⟩)⟩

/-- An engine without strategies. -/
lemma lifetimes_start : Lifetimes {} where
  injective := by simp
  created := by simp [Registered]
  running := by simp [Registered]
  registered := by simp [phaseOf]
  idle := by simp
  affected_iff := by simp
  todo_affected := by simp
  joined := by simp

/-- The requests that are under way do not matter. -/
lemma Lifetimes.of_pending (h : e.Lifetimes) (pending : List (ManagerId × OMEvent)) :
    ({ e with pending := pending } : TradingEngine).Lifetimes where
  injective := h.injective
  created := h.created
  running := h.running
  registered := h.registered
  idle := h.idle
  affected_iff := h.affected_iff
  todo_affected := h.todo_affected
  joined := h.joined

/-- How far an order manager is after one was changed. -/
lemma phaseOf_modify (e : TradingEngine) (m m' : ManagerId) (f : Managed → Managed) :
    (e.modify m f).phaseOf m' =
      (e.objects[m']?).map fun o => (if m = m' then f o else o).phase := by
  unfold phaseOf
  rw [objects_modify, Option.map_map]
  rfl

/-- A change of one order manager: it does not stop running unless a kill switch affects it, it does
not come back, and it starts nothing after its end. -/
lemma Lifetimes.modify (h : e.Lifetimes) {f : Managed → Managed}
    (hrunning : ∀ o : Managed, e.objects[m]? = some o → o.phase = .running →
      (f o).phase = .running ∨ ∃ kill, e.killSwitch = some kill ∧ m ∈ kill.affected)
    (hdestroyed : ∀ o : Managed, o.phase = .destroyed → (f o).phase = .destroyed)
    (hidle : ∀ o : Managed, e.objects[m]? = some o →
      (o.phase = .ended ∨ o.phase = .destroyed → o.handling = none) →
      (f o).phase = .ended ∨ (f o).phase = .destroyed → (f o).handling = none) :
    (e.modify m f).Lifetimes where
  injective := h.injective
  created := by
    intro m' hm'
    exact (h.created m' hm').trans_eq (List.length_modify _ _ _).symm
  running := by
    intro m' hm'
    obtain hphase | hkill := h.running m' hm'
    swap
    · exact Or.inr hkill
    obtain ⟨o, ho, hrun⟩ := Option.map_eq_some_iff.mp hphase
    rw [phaseOf_modify, ho]
    by_cases hm : m = m'
    · subst hm
      refine (hrunning o ho hrun).imp_left fun hafter => ?_
      rw [Option.map_some, if_pos rfl, hafter]
    · left
      rw [Option.map_some, if_neg hm, hrun]
  registered := by
    intro m' phase hphase hne
    rw [phaseOf_modify] at hphase
    obtain ⟨o, ho, rfl⟩ := Option.map_eq_some_iff.mp hphase
    refine h.registered m' o.phase ?_ ?_
    · unfold phaseOf
      rw [ho, Option.map_some]
    · intro hgone
      by_cases hm : m = m'
      · rw [if_pos hm] at hne
        exact hne (hdestroyed o hgone)
      · rw [if_neg hm] at hne
        exact hne hgone
  idle := by
    intro m' o ho hphase
    rw [objects_modify] at ho
    obtain ⟨o', ho', rfl⟩ := Option.map_eq_some_iff.mp ho
    by_cases hm : m = m'
    · rw [if_pos hm] at hphase ⊢
      exact hidle o' (hm ▸ ho') (h.idle m' o' ho') hphase
    · rw [if_neg hm] at hphase ⊢
      exact h.idle m' o' ho' hphase
  affected_iff := h.affected_iff
  todo_affected := h.todo_affected
  joined := by
    intro kill hkill m' hm'
    refine (h.joined kill hkill m' hm').imp_right fun hphase => ?_
    obtain ⟨o, ho, hgone⟩ := Option.map_eq_some_iff.mp hphase
    rw [phaseOf_modify, ho, Option.map_some]
    by_cases hm : m = m'
    · rw [if_pos hm, hdestroyed o hgone]
    · rw [if_neg hm, hgone]

/-- A change of one order manager that keeps its phase and lets it start nothing after its end. -/
lemma Lifetimes.modify_of_phase (h : e.Lifetimes) {f : Managed → Managed}
    (hphase : ∀ o : Managed, (f o).phase = o.phase)
    (hidle : ∀ o : Managed, o.phase = .ended ∨ o.phase = .destroyed → o.handling = none →
      (f o).handling = none) : (e.modify m f).Lifetimes := by
  refine h.modify (fun o _ ho => Or.inl ((hphase o).trans ho))
    (fun o ho => (hphase o).trans ho) fun o _ hbefore hafter => ?_
  rw [hphase] at hafter
  exact hidle o hafter (hbefore hafter)

/-- Registering a strategy. -/
lemma Lifetimes.register (h : e.Lifetimes) {strategyId : StrategyId} (accountId : String)
    (store : SQLiteOrderStore) (riskManager : RiskManager) (hnone : e.killSwitch = none)
    (hnew : e.managers.lookup strategyId = none) :
    ({ e with
      managers := e.managers.insert strategyId e.objects.length
      objects := e.objects ++ [{ account := .start accountId store riskManager }] } :
      TradingEngine).Lifetimes := by
  generalize hobject : ({ account := .start accountId store riskManager } : Managed) = object
  have hlookup : ∀ id, (e.managers.insert strategyId e.objects.length).lookup id =
      if id = strategyId then some e.objects.length else e.managers.lookup id :=
    fun id => FiniteMap.lookup_insert_eq _ _ _ _
  have hcreated : ∀ (id : StrategyId) (m : ℕ), e.managers.lookup id = some m →
      m < e.objects.length :=
    fun id m hm => h.created m ⟨id, hm⟩
  have hold : ∀ m : ℕ, m < e.objects.length → (e.objects ++ [object])[m]? = e.objects[m]? :=
    fun m hm => List.getElem?_append_left hm
  have hlast : (e.objects ++ [object])[e.objects.length]? = some object := by
    simp
  have hsplit : ∀ (m : ℕ) (o : Managed), (e.objects ++ [object])[m]? = some o →
      e.objects[m]? = some o ∨ m = e.objects.length ∧ o = object := by
    intro m o ho
    have hlt : m < (e.objects ++ [object]).length := (List.getElem?_eq_some_iff.mp ho).1
    rw [List.length_append, List.length_singleton] at hlt
    rcases Nat.lt_or_ge m e.objects.length with hm | hm
    · exact Or.inl ((hold m hm).symm.trans ho)
    · obtain rfl : m = e.objects.length := by omega
      exact Or.inr ⟨rfl, Option.some.inj (ho.symm.trans hlast)⟩
  refine
    { injective := ?_, created := ?_, running := ?_, registered := ?_, idle := ?_
      affected_iff := ?_, todo_affected := ?_, joined := ?_ }
  · intro m id other hid hother
    dsimp only at hid hother
    rw [hlookup] at hid hother
    have hne : ∀ id, e.managers.lookup id = some m → e.objects.length ≠ m :=
      fun id hid => (hcreated id m hid).ne'
    split_ifs at hid hother with h₁ h₂ h₂
    · rw [h₁, h₂]
    · exact absurd (Option.some.inj hid) (hne other hother)
    · exact absurd (Option.some.inj hother) (hne id hid)
    · exact h.injective m id other hid hother
  · rintro m ⟨id, hm⟩
    dsimp only at hm ⊢
    rw [hlookup] at hm
    rw [List.length_append, List.length_singleton]
    split_ifs at hm
    · exact Option.some.inj hm ▸ Nat.lt_succ_self _
    · exact (hcreated id m hm).trans (Nat.lt_succ_self _)
  · rintro m ⟨id, hm⟩
    left
    dsimp only [phaseOf] at hm ⊢
    rw [hlookup] at hm
    split_ifs at hm
    · obtain rfl := Option.some.inj hm
      rw [hlast, ← hobject]
      rfl
    · rw [hold m (hcreated id m hm)]
      refine (h.running m ⟨id, hm⟩).resolve_right ?_
      rintro ⟨kill, hkill, -⟩
      rw [hnone] at hkill
      cases hkill
  · intro m phase hm hne
    dsimp only [phaseOf] at hm
    obtain ⟨o, ho, rfl⟩ := Option.map_eq_some_iff.mp hm
    obtain hbefore | ⟨rfl, -⟩ := hsplit m o ho
    · obtain ⟨id, hid⟩ := h.registered m o.phase (by unfold phaseOf; rw [hbefore]; rfl) hne
      refine ⟨id, ?_⟩
      dsimp only
      rw [hlookup, if_neg, hid]
      rintro rfl
      rw [hnew] at hid
      cases hid
    · exact ⟨strategyId, by simp⟩
  · intro m o ho hphase
    obtain hbefore | ⟨-, rfl⟩ := hsplit m o ho
    · exact h.idle m o hbefore hphase
    · rw [← hobject]
  all_goals
    intro kill hkill
    rw [hnone] at hkill
    cases hkill

/-- A kill switch takes the lock. -/
lemma Lifetimes.begin (h : e.Lifetimes) (hnone : e.killSwitch = none) {target : Option StrategyId}
    {affected : List ManagerId} (reason initiatedBy : String)
    (haffected : ∀ m, m ∈ affected ↔
      ∃ strategyId, (∀ t, target = some t → t = strategyId) ∧
        e.managers.lookup strategyId = some m) :
    ({ e with
      killSwitch := some
        { target := target, affected := affected, reason := reason, initiatedBy := initiatedBy
          todo := KillSwitch.calls affected } } : TradingEngine).Lifetimes where
  injective := h.injective
  created := h.created
  running := by
    intro m hm
    apply (h.running m hm).imp_right
    rintro ⟨kill, hkill, -⟩
    rw [hnone] at hkill
    cases hkill
  registered := h.registered
  idle := h.idle
  affected_iff := by
    intro kill hkill
    obtain rfl := Option.some.inj hkill
    exact haffected
  todo_affected := by
    intro kill hkill m hm
    obtain rfl := Option.some.inj hkill
    simpa [KillSwitch.calls] using hm
  joined := by
    intro kill hkill m hm
    obtain rfl := Option.some.inj hkill
    left
    refine List.mem_append_right _ (List.mem_flatMap.mpr ⟨m, hm, ?_⟩)
    simp

/-- The kill switch has made a call; when it was the last one on an order manager, this is
destroyed. -/
lemma Lifetimes.advance (h : e.Lifetimes) {kill : KillSwitch} {first : KillStep}
    {rest : List KillStep} (hkill : e.killSwitch = some kill) (htodo : kill.todo = first :: rest)
    (hfirst : ∀ m, first = .join m → e.phaseOf m = some .destroyed) :
    ({ e with killSwitch := some { kill with todo := rest } } : TradingEngine).Lifetimes where
  injective := h.injective
  created := h.created
  running := by
    intro m hm
    apply (h.running m hm).imp_right
    rintro ⟨kill', hkill', hm⟩
    obtain rfl := Option.some.inj (hkill.symm.trans hkill')
    exact ⟨_, rfl, hm⟩
  registered := h.registered
  idle := h.idle
  affected_iff := by
    intro kill' hkill'
    obtain rfl := Option.some.inj hkill'
    exact h.affected_iff kill hkill
  todo_affected := by
    intro kill' hkill' m hm
    obtain rfl := Option.some.inj hkill'
    apply h.todo_affected kill hkill m
    rw [htodo]
    exact hm.imp (List.mem_cons_of_mem _) (List.mem_cons_of_mem _)
  joined := by
    intro kill' hkill' m hm
    obtain rfl := Option.some.inj hkill'
    obtain hjoin | hgone := h.joined kill hkill m hm
    · rw [htodo] at hjoin
      rcases List.mem_cons.mp hjoin with hhead | hrest
      · exact Or.inr (hfirst m hhead.symm)
      · exact Or.inl hrest
    · exact Or.inr hgone

/-- What is registered when the kill switch has removed its strategies. -/
lemma lookup_remaining (managers : AList fun _ : StrategyId => ManagerId) (kill : KillSwitch)
    (strategyId : StrategyId) (m : ManagerId) :
    (kill.remaining managers).lookup strategyId = some m ↔
      ¬ kill.Stops strategyId ∧ managers.lookup strategyId = some m := by
  unfold KillSwitch.remaining KillSwitch.Stops
  cases kill.target with
  | none => simp
  | some target =>
    dsimp only
    rw [FiniteMap.lookup_erase_eq]
    by_cases hid : strategyId = target
    · simp [hid]
    · simp [hid, Ne.symm hid]

/-- The kill switch returns. -/
lemma Lifetimes.return (h : e.Lifetimes) {kill : KillSwitch} (hkill : e.killSwitch = some kill)
    (htodo : kill.todo = []) (stopped : List ManagerId) :
    ({ e with
      managers := kill.remaining e.managers
      killSwitch := none
      stopped := stopped } : TradingEngine).Lifetimes where
  injective := by
    intro m id other hid hother
    exact h.injective m id other ((lookup_remaining _ _ _ _).mp hid).2
      ((lookup_remaining _ _ _ _).mp hother).2
  created := by
    rintro m ⟨id, hid⟩
    exact h.created m ⟨id, ((lookup_remaining _ _ _ _).mp hid).2⟩
  running := by
    rintro m ⟨id, hid⟩
    obtain ⟨hkept, hbefore⟩ := (lookup_remaining _ _ _ _).mp hid
    refine Or.inl ((h.running m ⟨id, hbefore⟩).resolve_right ?_)
    rintro ⟨kill', hkill', haffected⟩
    obtain rfl := Option.some.inj (hkill.symm.trans hkill')
    obtain ⟨other, hstops, hother⟩ := (h.affected_iff kill hkill m).mp haffected
    obtain rfl := h.injective m id other hbefore hother
    exact hkept hstops
  registered := by
    intro m phase hphase hne
    obtain ⟨id, hid⟩ := h.registered m phase hphase hne
    refine ⟨id, (lookup_remaining _ _ _ _).mpr ⟨fun hstops => hne ?_, hid⟩⟩
    have haffected := (h.affected_iff kill hkill m).mpr ⟨id, hstops, hid⟩
    have hgone := h.joined kill hkill m haffected
    rw [htodo] at hgone
    have hgone' := hgone.resolve_left List.not_mem_nil
    exact Option.some.inj (hphase.symm.trans hgone')
  idle := h.idle
  affected_iff := nofun
  todo_affected := nofun
  joined := nofun

/-- The destructor of an order manager that the kill switch affects begins. -/
lemma Lifetimes.modify_stop (h : e.Lifetimes) {kill : KillSwitch} (hkill : e.killSwitch = some kill)
    (haffected : m ∈ kill.affected) : (e.modify m Managed.stop).Lifetimes := by
  refine h.modify (fun o _ _ => Or.inr ⟨kill, hkill, haffected⟩) (fun o ho => ?_)
    fun o _ hbefore hafter => ?_
  · obtain heq | ⟨hrun, -⟩ := o.stop_cases
    · rw [heq, ho]
    · rw [ho] at hrun
      cases hrun
  · obtain heq | ⟨-, heq⟩ := o.stop_cases
    · rw [heq] at hafter ⊢
      exact hbefore hafter
    · rw [heq] at hafter
      simp at hafter

/-- The destructor of an order manager that the kill switch affects is through. -/
lemma Lifetimes.modify_destroy (h : e.Lifetimes) {kill : KillSwitch}
    (hkill : e.killSwitch = some kill) (haffected : m ∈ kill.affected)
    (hended : e.phaseOf m = some .ended) : (e.modify m Managed.destroy).Lifetimes := by
  obtain ⟨o, ho, hphase⟩ := Option.map_eq_some_iff.mp hended
  refine h.modify (fun o _ _ => Or.inr ⟨kill, hkill, haffected⟩) (fun _ _ => rfl)
    fun o' ho' hbefore _ => ?_
  obtain rfl := Option.some.inj (ho.symm.trans ho')
  exact hbefore (Or.inl hphase)

/-- A dispatch loop ends. -/
lemma Lifetimes.modify_endLoop (h : e.Lifetimes) : (e.modify m Managed.endLoop).Lifetimes := by
  refine h.modify (fun o _ hrun => ?_) (fun o ho => ?_) fun o _ hbefore hafter => ?_
  · obtain heq | ⟨hstopping, -, -⟩ := o.endLoop_cases
    · exact Or.inl ((congrArg Managed.phase heq).trans hrun)
    · rw [hrun] at hstopping
      cases hstopping
  · obtain heq | ⟨hstopping, -, -⟩ := o.endLoop_cases
    · rw [heq, ho]
    · rw [ho] at hstopping
      cases hstopping
  · obtain heq | ⟨-, hidle, heq⟩ := o.endLoop_cases
    · rw [heq] at hafter ⊢
      exact hbefore hafter
    · rw [heq]
      exact hidle

/-- **Step lemma.**  Every step keeps the account of the lifetimes. -/
theorem Lifetimes.step (h : e.Lifetimes) (a : Action) : (e.step a).Lifetimes := by
  have henqueue : ∀ m event, (e.modify m (Managed.enqueue · event)).Lifetimes := fun m event =>
    h.modify_of_phase (Managed.enqueue_phase · event)
      fun o _ ho => (o.enqueue_handling event).trans ho
  have hstep := e.steps_step a
  generalize e.step a = e' at hstep ⊢
  cases hstep with
  | registered hnone hnew => exact h.register _ _ _ hnone hnew
  | found _ _ => exact h.of_pending _
  | enqueued _ => exact (henqueue _ _).of_pending _
  | delivered => exact henqueue _ _
  | popped =>
    refine h.modify_of_phase Managed.pop_phase fun o hphase ho => ?_
    rw [o.pop_of_ended hphase, ho]
  | finished =>
    exact h.modify_of_phase (Managed.finish_phase · _ _) fun o _ _ => o.finish_handling _ _
  | loopEnded => exact h.modify_endLoop
  | @stopBegun strategyId _ _ m hnone hlookup =>
    refine h.begin hnone _ _ fun m' => ?_
    simp [hlookup, eq_comm]
  | haltBegun hnone hperm =>
    refine h.begin hnone _ _ fun m => ?_
    rw [hperm.mem_iff, FiniteMap.mem_values_iff]
    simp
  | cancelled hkill htodo => exact (henqueue _ _).advance hkill htodo nofun
  | awaited hkill htodo _ => exact h.advance hkill htodo nofun
  | @stopped kill m rest hkill htodo =>
    have haffected : m ∈ kill.affected :=
      h.todo_affected kill hkill m (Or.inl (htodo ▸ List.mem_cons_self))
    exact (h.modify_stop hkill haffected).advance hkill htodo nofun
  | @joined kill m rest hkill htodo hended =>
    have haffected : m ∈ kill.affected :=
      h.todo_affected kill hkill m (Or.inr (htodo ▸ List.mem_cons_self))
    refine (h.modify_destroy hkill haffected hended).advance hkill htodo fun m' hm' => ?_
    obtain rfl : m = m' := KillStep.join.inj hm'
    obtain ⟨o, ho, -⟩ := Option.map_eq_some_iff.mp hended
    rw [phaseOf_modify, ho, Option.map_some, if_pos rfl]
    rfl
  | returned hkill htodo => exact h.return hkill htodo _
  | idle => exact h

end TradingEngine

end Quarcc
