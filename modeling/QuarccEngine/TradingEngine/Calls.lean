import QuarccEngine.Core.Requests
import QuarccEngine.OrderManager.Replies

/-!
# Calls of order managers

A command is put into the queue of an order manager, and the caller waits for its promise while the
other threads go on.  If none of them ends the process, the promise is fulfilled, and `managers_`,
the places of the order managers and the tables of the feed registry are what they were before the
call.
-/

namespace Quarcc

/-! ## One order manager -/

namespace Managed

/-- The order manager runs and waits for the next event. -/
structure Alive (o : Managed) : Prop where
  running : o.phase = .running
  handling : o.handling = none

/-- No command waits in the queue. -/
structure Idle (o : Managed) : Prop extends o.Alive where
  noPromise : ∀ event ∈ o.queue.q, event.hasPromise = false

/-- One command, whose promise is the `k`-th, waits in the queue or has been handled, and no other
command waits. -/
structure Owes (o : Managed) (command : OMEvent) (k : ℕ) : Prop extends o.Alive where
  promise :
    (∃ front back, o.queue.q = front ++ command :: back ∧ o.replies.length = k ∧
      ∀ event ∈ front ++ back, event.hasPromise = false) ∨
    (∀ event ∈ o.queue.q, event.hasPromise = false) ∧
      ∃ reply, o.replies[k]? = some reply ∧ command.Takes reply

/-- A property that holds on when the order manager gets market data or a report, and when it
handles an event. -/
structure Kept (P : Managed → Prop) : Prop where
  enqueue : ∀ o event, event.hasPromise = false → P o → P (o.enqueue event)
  round : ∀ o met, P o → P (o.round met)

variable {o : Managed}

/-- An order manager that was just created. -/
lemma idle_start (account : Account) : ({ account := account } : Managed).Idle where
  running := rfl
  handling := rfl
  noPromise := by simp

/-- What `enqueue` does to an order manager that runs. -/
lemma Alive.enqueue_eq (h : o.Alive) (event : OMEvent) :
    o.enqueue event = { o with queue := o.queue.enqueue event } := by
  unfold enqueue
  rw [h.running, if_neg (by decide)]

/-- An order manager that runs goes on running. -/
lemma Alive.enqueue (h : o.Alive) (event : OMEvent) : (o.enqueue event).Alive := by
  rw [h.enqueue_eq]
  exact ⟨h.running, h.handling⟩

/-- A command is put at the end of the queue. -/
lemma enqueue_q_of_hasPromise (queue : EventQueue OMEvent) {event : OMEvent}
    (h : event.hasPromise = true) : (queue.enqueue event).q = queue.q ++ [event] := by
  cases event with
  | bar bar => cases h
  | tick tick => cases h
  | executionReport fill => cases h
  | _ => rfl

/-- Market data that does not fit is dropped. -/
lemma enqueue_q_cases (queue : EventQueue OMEvent) (event : OMEvent) :
    (queue.enqueue event).q = queue.q ∨ (queue.enqueue event).q = queue.q ++ [event] := by
  unfold EventQueue.enqueue
  cases event with
  | bar bar =>
    dsimp only
    rw [EventQueue.tryPush_q]
    split_ifs
    · exact Or.inl rfl
    · exact Or.inr rfl
  | tick tick =>
    dsimp only
    rw [EventQueue.tryPush_q]
    split_ifs
    · exact Or.inl rfl
    · exact Or.inr rfl
  | _ => exact Or.inr rfl

/-- What the dispatch thread does in a round. -/
lemma Alive.round_cases (h : o.Alive) (met : Env × GatewayAnswers) :
    (o.round met).Alive ∧
      ((o.queue.q = [] ∧ o.round met = o) ∨
        ∃ event rest, o.queue.q = event :: rest ∧ (o.round met).queue.q = rest ∧
          (o.round met).replies = (dispatch o.account.1 ⟨event, met.1, met.2⟩).replies) := by
  have hready : (o.phase = .running ∨ o.phase = .stopping) ∧ o.handling = none :=
    ⟨Or.inl h.running, h.handling⟩
  unfold Managed.round pop
  rw [if_pos hready]
  unfold EventQueue.pop
  cases hq : o.queue.q with
  | nil =>
    unfold finish
    dsimp only
    rw [h.handling]
    exact ⟨h, Or.inl ⟨rfl, rfl⟩⟩
  | cons event rest => exact ⟨⟨h.running, rfl⟩, Or.inr ⟨event, rest, rfl, rfl, rfl⟩⟩

/-- An order manager without commands stays without commands. -/
lemma kept_idle : Kept Idle where
  enqueue := by
    intro o event hevent h
    refine { toAlive := h.toAlive.enqueue event, noPromise := ?_ }
    rw [h.toAlive.enqueue_eq]
    dsimp only
    rcases enqueue_q_cases o.queue event with hq | hq
    · rw [hq]
      exact h.noPromise
    · rw [hq]
      intro event' hmem
      rcases List.mem_append.mp hmem with hold | hnew
      · exact h.noPromise event' hold
      · rwa [List.mem_singleton.mp hnew]
  round := by
    intro o met h
    obtain ⟨halive, ⟨-, hsame⟩ | ⟨event, rest, hq, hrest, -⟩⟩ := h.toAlive.round_cases met
    · rwa [hsame]
    · refine { toAlive := halive, noPromise := ?_ }
      rw [hrest]
      exact fun event' hmem => h.noPromise event' (hq ▸ List.mem_cons_of_mem event hmem)

/-- A command that is enqueued is owed. -/
lemma Idle.owes (h : o.Idle) {command : OMEvent} (hcommand : command.hasPromise = true) :
    (o.enqueue command).Owes command o.nextPromise := by
  refine { toAlive := h.toAlive.enqueue command, promise := Or.inl ⟨o.queue.q, [], ?_⟩ }
  rw [h.toAlive.enqueue_eq, List.append_nil]
  refine ⟨enqueue_q_of_hasPromise _ hcommand, ?_, h.noPromise⟩
  have hnone : o.queue.q.countP OMEvent.hasPromise = 0 := by
    rw [List.countP_eq_zero]
    intro event hmem
    rw [h.noPromise event hmem]
    decide
  unfold nextPromise
  rw [h.handling, Option.toList_none, List.nil_append, hnone, Nat.add_zero]
  rfl

/-- A command that is owed stays owed until it is handled, and its promise stays fulfilled. -/
lemma kept_owes {command : OMEvent} (hcommand : command.hasPromise = true) (k : ℕ) :
    Kept fun o => o.Owes command k where
  enqueue := by
    intro o event hevent h
    refine { toAlive := h.toAlive.enqueue event, promise := ?_ }
    rw [h.toAlive.enqueue_eq]
    rcases enqueue_q_cases o.queue event with hsame | hnew
    · rcases h.promise with ⟨front, back, hq, hrest⟩ | ⟨hq, hreply⟩
      · exact Or.inl ⟨front, back, hsame.trans hq, hrest⟩
      · exact Or.inr ⟨hsame ▸ hq, hreply⟩
    · rcases h.promise with ⟨front, back, hq, hk, hrest⟩ | ⟨hq, hreply⟩
      · refine Or.inl ⟨front, back ++ [event], ?_, hk, ?_⟩
        · rw [hnew, hq, List.append_assoc, List.cons_append]
        · intro event' hmem
          rw [← List.append_assoc] at hmem
          rcases List.mem_append.mp hmem with hold | hnew'
          · exact hrest event' hold
          · rwa [List.mem_singleton.mp hnew']
      · refine Or.inr ⟨?_, hreply⟩
        dsimp only
        rw [hnew]
        intro event' hmem
        rcases List.mem_append.mp hmem with hold | hnew'
        · exact hq event' hold
        · rwa [List.mem_singleton.mp hnew']
  round := by
    intro o met h
    obtain ⟨halive, ⟨-, hsame⟩ | ⟨event, rest, hq, hrest, hreplies⟩⟩ := h.toAlive.round_cases met
    · rwa [hsame]
    refine { toAlive := halive, promise := ?_ }
    rw [hrest, hreplies]
    rcases h.promise with ⟨front, back, hqueue, hk, hnone⟩ | ⟨hnone, reply, hreply, htakes⟩
    · rw [hq] at hqueue
      cases front with
      | nil =>
        -- the command is handled now
        obtain ⟨rfl, rfl⟩ := List.cons.inj hqueue
        obtain ⟨reply, hreply, htakes⟩ := command_replies o.account.1 met.1 met.2 hcommand
        refine Or.inr ⟨hnone, reply, ?_, htakes⟩
        rw [hreply, ← hk]
        exact List.getElem?_concat_length
      | cons first front =>
        obtain ⟨rfl, rfl⟩ := List.cons.inj hqueue
        have hevent := hnone event List.mem_cons_self
        rw [dispatch_replies o.account.1 met.1 met.2 hevent]
        exact Or.inl ⟨front, back, rfl, hk,
          fun event' hmem => hnone event' (List.mem_cons_of_mem event hmem)⟩
    · rw [hq] at hnone
      rw [dispatch_replies o.account.1 met.1 met.2 (hnone event List.mem_cons_self)]
      exact Or.inr ⟨fun event' hmem => hnone event' (List.mem_cons_of_mem event hmem),
        reply, hreply, htakes⟩

/-- **The promise of a command is fulfilled** when the dispatch thread handles what is in the
queue. -/
lemma Owes.awaitReply {command : OMEvent} (hcommand : command.hasPromise = true) {k n : ℕ}
    (h : o.Owes command k) (surroundings : Surroundings) (hn : o.queue.q.length ≤ n) :
    (o.awaitReply k surroundings n).Idle ∧
      ∃ reply, (o.awaitReply k surroundings n).replies[k]? = some reply ∧ command.Takes reply := by
  induction n generalizing o with
  | zero =>
    have hempty : o.queue.q = [] := List.eq_nil_of_length_eq_zero (Nat.le_zero.mp hn)
    rcases h.promise with ⟨front, back, hq, -⟩ | ⟨hnone, hreply⟩
    · rw [hempty] at hq
      exact absurd hq.symm (List.append_ne_nil_of_right_ne_nil front (List.cons_ne_nil _ _))
    · exact ⟨{ toAlive := h.toAlive, noPromise := hnone }, hreply⟩
  | succ n ih =>
    unfold Managed.awaitReply
    split_ifs with hready
    · rcases h.promise with ⟨-, -, -, hk, -⟩ | ⟨hnone, hreply⟩
      · omega
      · exact ⟨{ toAlive := h.toAlive, noPromise := hnone }, hreply⟩
    · apply ih ((kept_owes hcommand k).round o (surroundings n) h)
      obtain ⟨-, ⟨hq, hsame⟩ | ⟨event, rest, hq, hrest, -⟩⟩ :=
        h.toAlive.round_cases (surroundings n)
      · rw [hsame, hq]
        exact Nat.zero_le n
      · rw [hrest]
        rw [hq, List.length_cons] at hn
        omega

end Managed

/-! ## The engine -/

namespace Engine

/-- From `e` to `e'`, `managers_`, the places of the order managers and the tables of the feed
registry stay, no gateway is stopped, and an order manager in the state `I` gets into the state
`J`. -/
structure Keeps (I J : ManagerId → Managed → Prop) (e e' : Engine) : Prop where
  managers_eq : e'.managers = e.managers
  length_eq : e'.objects.length = e.objects.length
  barSubs_eq : e'.feedRegistry.barSubs = e.feedRegistry.barSubs
  tickSubs_eq : e'.feedRegistry.tickSubs = e.feedRegistry.tickSubs
  unstopped : ∀ m, (e.dispatchers m).stop = .notCalled → (e'.dispatchers m).stop = .notCalled
  state : ∀ m o, e.objects[m]? = some o → I m o → ∃ o', e'.objects[m]? = some o' ∧ J m o'

variable {I J K : ManagerId → Managed → Prop} {e e' e'' : Engine}

lemma Keeps.refl (e : Engine) : Keeps I I e e :=
  ⟨rfl, rfl, rfl, rfl, fun _ => id, fun _ o ho hI => ⟨o, ho, hI⟩⟩

lemma Keeps.trans (h : Keeps I J e e') (h' : Keeps J K e' e'') : Keeps I K e e'' where
  managers_eq := h'.managers_eq.trans h.managers_eq
  length_eq := h'.length_eq.trans h.length_eq
  barSubs_eq := h'.barSubs_eq.trans h.barSubs_eq
  tickSubs_eq := h'.tickSubs_eq.trans h.tickSubs_eq
  unstopped := fun m hstop => h'.unstopped m (h.unstopped m hstop)
  state := by
    intro m o ho hI
    obtain ⟨o', ho', hJ⟩ := h.state m o ho hI
    exact h'.state m o' ho' hJ

/-- One order manager changes. -/
lemma keeps_modifyManager (e : Engine) (m : ManagerId) {f : Managed → Managed}
    (hm : ∀ o, e.objects[m]? = some o → I m o → J m (f o))
    (hother : ∀ m' o, m' ≠ m → I m' o → J m' o) : Keeps I J e (e.modifyManager m f) where
  managers_eq := rfl
  length_eq := List.length_modify _ _ _
  barSubs_eq := rfl
  tickSubs_eq := rfl
  unstopped := fun _ => id
  state := by
    intro m' o ho hI
    have hobjects := TradingEngine.objects_modify e.toTradingEngine m m' f
    rw [ho, Option.map_some] at hobjects
    refine ⟨_, hobjects, ?_⟩
    split_ifs with heq
    · subst heq
      exact hm o ho hI
    · exact hother m' o (Ne.symm heq) hI

/-- One feed changes. -/
lemma keeps_setFeed (e : Engine) (key : FeedKey) (feed : MarketDataFeed) :
    Keeps I I e (e.setFeed key feed) :=
  ⟨rfl, rfl, rfl, rfl, fun _ => id, fun _ o ho hI => ⟨o, ho, hI⟩⟩

/-- A dispatcher that is not stopped makes a step. -/
lemma keeps_gatewayStep (hI : ∀ m, Managed.Kept (I m)) (e : Engine) (m : ManagerId)
    {action : DispatcherAction} (haction : action ≠ .stop) :
    Keeps I I e (e.gatewayStep m action) := by
  have hstep : Keeps I I e { e with
      dispatchers := Function.update e.dispatchers m ((e.dispatchers m).step action) } := by
    refine ⟨rfl, rfl, rfl, rfl, fun m' hstop => ?_, fun _ o ho hI => ⟨o, ho, hI⟩⟩
    dsimp only
    rw [Function.update_apply]
    split_ifs with hm
    · rw [ReportDispatcher.stop_step haction, ← hm]
      exact hstop
    · exact hstop
  unfold Engine.gatewayStep
  dsimp only
  cases (e.dispatchers m).passes action with
  | none => exact hstep
  | some report =>
    refine hstep.trans ?_
    exact keeps_modifyManager _ m (fun o _ => (hI m).enqueue o (.executionReport report) rfl)
      fun _ _ _ => id

/-- Several steps in turn. -/
lemma keeps_foldl {α : Type} {f : Engine → α → Engine} (hf : ∀ e a, Keeps I I e (f e a))
    (as : List α) (e : Engine) : Keeps I I e (as.foldl f e) := by
  induction as generalizing e with
  | nil => exact Keeps.refl e
  | cons a as ih => exact (hf e a).trans (ih _)

/-- Market data reaches several order managers. -/
lemma keeps_enqueueAll (hI : ∀ m, Managed.Kept (I m)) {event : OMEvent}
    (hevent : event.hasPromise = false) (ms : List ManagerId) (e : Engine) :
    Keeps I I e (e.enqueueAll ms event) := by
  refine keeps_foldl (fun e m => ?_) ms e
  exact e.keeps_modifyManager m (fun o _ => (hI m).enqueue o event hevent) fun _ _ _ => id

/-- **A step of a thread** that does not end the process. -/
lemma keeps_threadStep (hI : ∀ m, Managed.Kept (I m)) {t : ThreadStep}
    (hok : e.threadStep t = .ok e') : Keeps I I e e' := by
  unfold Engine.threadStep at hok
  cases t with
  | beginRound key nowNs =>
    dsimp only at hok
    cases hlookup : e.feedRegistry.feeds.lookup key with
    | none =>
      rw [hlookup] at hok
      obtain rfl := Except.ok.inj hok
      exact Keeps.refl e
    | some feed =>
      rw [hlookup] at hok
      cases feed with
      | grpc feed =>
        obtain rfl := Except.ok.inj hok
        exact Keeps.refl e
      | simulated feed =>
        obtain rfl := Except.ok.inj hok
        exact e.keeps_setFeed key _
  | emit key noise =>
    dsimp only at hok
    cases hlookup : e.feedRegistry.feeds.lookup key with
    | none =>
      rw [hlookup] at hok
      obtain rfl := Except.ok.inj hok
      exact Keeps.refl e
    | some feed =>
      rw [hlookup] at hok
      cases feed with
      | grpc feed =>
        obtain rfl := Except.ok.inj hok
        exact Keeps.refl e
      | simulated feed =>
        dsimp only at hok
        cases hemit : feed.emit noise with
        | error crash =>
          rw [hemit] at hok
          cases hok
        | ok emitted =>
          rw [hemit] at hok
          obtain rfl := Except.ok.inj hok
          have hticks : ∀ e tick, Keeps I I e (onTick key e tick) :=
            fun e _ => keeps_enqueueAll hI rfl _ e
          have hbars : ∀ e bar, Keeps I I e (onBar key e bar) :=
            fun e _ => keeps_enqueueAll hI rfl _ e
          exact (e.keeps_setFeed key _).trans
            ((keeps_foldl hticks _ _).trans (keeps_foldl hbars _ _))
  | report m fill =>
    obtain rfl := Except.ok.inj hok
    exact e.keeps_modifyManager m (fun o _ => (hI m).enqueue o (.executionReport fill) rfl)
      fun _ _ _ => id
  | gateway m action =>
    cases action with
    | stop =>
      obtain rfl := Except.ok.inj hok
      exact Keeps.refl e
    | _ =>
      obtain rfl := Except.ok.inj hok
      exact e.keeps_gatewayStep hI m nofun
  | dispatch m met =>
    obtain rfl := Except.ok.inj hok
    exact e.keeps_modifyManager m (fun o _ => (hI m).round o met) fun _ _ _ => id

/-! ### Commands -/

/-- **A command gets its reply**, whatever the threads do in the meantime, unless one of them ends
the process. -/
lemma ask_spec {m : ManagerId} (hm : ∃ o, e.objects[m]? = some o ∧ o.Idle) {command : OMEvent}
    (hcommand : command.hasPromise = true) {waiting : Awaiting} {asked : Engine × Option Reply}
    (hok : e.ask m command waiting = .ok asked) :
    (∃ reply, asked.2 = some reply ∧ command.Takes reply) ∧
      Keeps (fun _ => Managed.Idle) (fun _ => Managed.Idle) e asked.1 := by
  obtain ⟨o, ho, hidle⟩ := hm
  unfold Engine.ask at hok
  rw [ho, Option.map_some, Option.getD_some] at hok
  dsimp only at hok
  generalize hk : o.nextPromise = k at hok
  -- from now on the order manager owes the reply, and the others are as idle as before
  let I : ManagerId → Managed → Prop := fun m' o' =>
    if m' = m then o'.Owes command k else o'.Idle
  have hI : ∀ m', Managed.Kept (I m') := by
    intro m'
    by_cases hm : m' = m
    · simpa only [I, if_pos hm] using Managed.kept_owes hcommand k
    · simpa only [I, if_neg hm] using Managed.kept_idle
  have henqueued : Keeps (fun _ => Managed.Idle) I e
      (e.modifyManager m (Managed.enqueue · command)) := by
    refine e.keeps_modifyManager m (fun o' ho' hidle' => ?_) fun m' o' hm hidle' => ?_
    · obtain rfl := Option.some.inj (ho.symm.trans ho')
      simp only [I, if_true, ← hk]
      exact hidle'.owes hcommand
    · simp only [I, if_neg hm]
      exact hidle'
  cases hthreads : waiting.meanwhile.foldlM Engine.threadStep
      (e.modifyManager m (Managed.enqueue · command)) with
  | error crash =>
    rw [hthreads] at hok
    cases hok
  | ok e₁ =>
    rw [hthreads] at hok
    obtain rfl := Except.ok.inj hok
    have hkeeps : Keeps (fun _ => Managed.Idle) I e e₁ :=
      Trajectory.invariant_of_foldlM_ok (I := Keeps (fun _ => Managed.Idle) I e)
        (fun _ _ _ h _ hstep => h.trans (keeps_threadStep hI hstep)) henqueued hthreads
    obtain ⟨o₁, ho₁, howes⟩ := hkeeps.state m o ho hidle
    simp only [I, if_true] at howes
    obtain ⟨-, reply, hreply, htakes⟩ :=
      howes.awaitReply hcommand waiting.surroundings (Nat.le_refl _)
    have hobjects := TradingEngine.objects_modify e₁.toTradingEngine m m
      fun o => o.awaitReply k waiting.surroundings o.queue.q.length
    rw [ho₁, Option.map_some, if_pos rfl] at hobjects
    have hreplies : ((e₁.modifyManager m fun o =>
        o.awaitReply k waiting.surroundings o.queue.q.length).replies m)[k]? = some reply := by
      unfold Engine.replies Engine.modifyManager
      rw [hobjects]
      exact hreply
    refine ⟨⟨reply, hreplies, htakes⟩, hkeeps.trans ?_⟩
    refine e₁.keeps_modifyManager m (fun o' _ ho' => ?_) fun m' o' hm ho' => ?_
    · simp only [I, if_true] at ho'
      exact (ho'.awaitReply hcommand waiting.surroundings (Nat.le_refl _)).1
    · simpa only [I, if_neg hm] using ho'

/-- `cancel_all` returns, unless the process ends before. -/
lemma cancelAll_spec {m : ManagerId} (hm : ∃ o, e.objects[m]? = some o ∧ o.Idle)
    {reason initiatedBy : String} {env : RequestEnv} {state : Engine × Bool}
    (hok : Engine.cancelAll reason initiatedBy env (e, true) m = .ok state) :
    state.2 = true ∧ Keeps (fun _ => Managed.Idle) (fun _ => Managed.Idle) e state.1 := by
  have hcommand : (OMEvent.cancelAllCommand reason initiatedBy).hasPromise = true := rfl
  unfold Engine.cancelAll at hok
  rw [if_pos rfl] at hok
  dsimp only at hok
  cases hask : e.ask m (.cancelAllCommand reason initiatedBy) (env.waiting m) with
  | error crash =>
    rw [hask] at hok
    cases hok
  | ok asked =>
    rw [hask] at hok
    obtain rfl := Except.ok.inj hok
    obtain ⟨⟨reply, hreply, -⟩, hkeeps⟩ := ask_spec hm hcommand hask
    exact ⟨Option.isSome_iff_exists.mpr ⟨reply, hreply⟩, hkeeps⟩

/-! ### The kill switch -/

/-- The order managers that the kill switch goes through are registered. -/
lemma exists_of_mem_managerIds {env : RequestEnv} {m : ManagerId} (h : m ∈ e.managerIds env) :
    ∃ id, e.managers.lookup id = some m :=
  FiniteMap.mem_values_iff.mp ((env.order_perm _).mem_iff.mp h)

/-- What `e'` has of `e` when only the order managers `ms` were destroyed in between. -/
structure Spares (ms : List ManagerId) (e e' : Engine) : Prop where
  objects_eq : ∀ m, m ∉ ms → e'.objects[m]? = e.objects[m]?
  dispatchers_eq : ∀ m, m ∉ ms → e'.dispatchers m = e.dispatchers m
  length_eq : e'.objects.length = e.objects.length
  feedRegistry_eq : e'.feedRegistry = e.feedRegistry

lemma Spares.refl (ms : List ManagerId) (e : Engine) : Spares ms e e :=
  ⟨fun _ _ => rfl, fun _ _ => rfl, rfl, rfl⟩

lemma Spares.trans {ms : List ManagerId} (h : Spares ms e e') (h' : Spares ms e' e'') :
    Spares ms e e'' where
  objects_eq := fun m hm => (h'.objects_eq m hm).trans (h.objects_eq m hm)
  dispatchers_eq := fun m hm => (h'.dispatchers_eq m hm).trans (h.dispatchers_eq m hm)
  length_eq := h'.length_eq.trans h.length_eq
  feedRegistry_eq := h'.feedRegistry_eq.trans h.feedRegistry_eq

/-- More order managers are destroyed. -/
lemma Spares.mono {ms ms' : List ManagerId} (h : Spares ms e e') (hsub : ms ⊆ ms') :
    Spares ms' e e' where
  objects_eq := fun m hm => h.objects_eq m fun hmem => hm (hsub hmem)
  dispatchers_eq := fun m hm => h.dispatchers_eq m fun hmem => hm (hsub hmem)
  length_eq := h.length_eq
  feedRegistry_eq := h.feedRegistry_eq

/-- One order manager changes. -/
lemma spares_modifyManager (e : Engine) (m : ManagerId) (f : Managed → Managed) :
    Spares [m] e (e.modifyManager m f) where
  objects_eq := by
    intro m' hm
    apply (TradingEngine.objects_modify e.toTradingEngine m m' f).trans
    have hother : m ≠ m' := fun heq => hm (List.mem_singleton.mpr heq.symm)
    simp [hother]
  dispatchers_eq := fun _ _ => rfl
  length_eq := List.length_modify _ _ _
  feedRegistry_eq := rfl

/-- The dispatcher of a gateway makes a step. -/
lemma spares_gatewayStep (e : Engine) (m : ManagerId) (action : DispatcherAction) :
    Spares [m] e (e.gatewayStep m action) ∧
      (e.gatewayStep m action).dispatchers m = (e.dispatchers m).step action := by
  have hother : Spares [m] e { e with
      dispatchers := Function.update e.dispatchers m ((e.dispatchers m).step action) } :=
    ⟨fun _ _ => rfl, fun m' hm => Function.update_of_ne (mt List.mem_singleton.mpr hm) _ _,
      rfl, rfl⟩
  unfold Engine.gatewayStep
  dsimp only
  cases (e.dispatchers m).passes action with
  | none => exact ⟨hother, Function.update_self _ _ _⟩
  | some report =>
    exact ⟨hother.trans (spares_modifyManager _ m _), Function.update_self _ _ _⟩

/-- The dispatcher of a gateway makes some steps. -/
lemma spares_gatewaySteps (m : ManagerId) (actions : List DispatcherAction) (e : Engine) :
    Spares [m] e (actions.foldl (gatewayStep m) e) ∧
      (actions.foldl (gatewayStep m) e).dispatchers m =
        Trajectory.run ReportDispatcher.step (e.dispatchers m) actions := by
  induction actions generalizing e with
  | nil => exact ⟨Spares.refl _ e, rfl⟩
  | cons action actions ih =>
    obtain ⟨hfirst, hstep⟩ := e.spares_gatewayStep m action
    obtain ⟨hspares, hrun⟩ := ih (e.gatewayStep m action)
    rw [List.foldl_cons, Trajectory.run_cons, ← hstep]
    exact ⟨hfirst.trans hspares, hrun⟩

/-- An order manager is destroyed, which returns when its gateway is stopped in time. -/
lemma closeManager_spec (e : Engine) (env : RequestEnv) (m : ManagerId) :
    Spares [m] e (closeManager env (e, true) m).1 ∧
      ((e.dispatchers m).stop = .notCalled →
        (e.dispatchers m).StopsInTime (env.closing m).meanwhile →
          (closeManager env (e, true) m).2 = true) := by
  obtain ⟨hspares, hrun⟩ :=
    spares_gatewaySteps m ((e.dispatchers m).stopSteps (env.closing m).meanwhile) e
  unfold Engine.closeManager
  rw [if_pos rfl]
  dsimp only
  unfold Engine.stopGateway
  rw [hrun]
  split_ifs with hended
  · exact ⟨hspares.trans (spares_modifyManager _ m _), fun _ _ => rfl⟩
  · refine ⟨hspares, fun hstart hintime => ?_⟩
    exact absurd (ReportDispatcher.ends_of_stopsInTime hstart hintime) hended

/-- Destroying some order managers leaves the others and the feeds alone, and returns when their
gateways are stopped in time. -/
lemma closeManagers_spec (e : Engine) (env : RequestEnv) (ms : List ManagerId) :
    Spares ms e (e.closeManagers env ms).1 ∧
      (ms.Nodup → (∀ m ∈ ms, (e.dispatchers m).stop = .notCalled ∧
        (e.dispatchers m).StopsInTime (env.closing m).meanwhile) →
          (e.closeManagers env ms).2 = true) := by
  unfold Engine.closeManagers
  induction ms generalizing e with
  | nil => exact ⟨Spares.refl _ e, fun _ _ => rfl⟩
  | cons first ms ih =>
    obtain ⟨hfirst, hreturns⟩ := e.closeManager_spec env first
    rw [List.foldl_cons]
    generalize closeManager env (e, true) first = closed at hfirst hreturns
    obtain ⟨e', ready⟩ := closed
    cases ready with
    | false =>
      have hwaits : ms.foldl (closeManager env) (e', false) = (e', false) :=
        List.foldl_fixed' (fun _ => rfl) ms
      rw [hwaits]
      refine ⟨hfirst.mono (by simp), fun _ hall => ?_⟩
      exact hreturns (hall first List.mem_cons_self).1 (hall first List.mem_cons_self).2
    | true =>
      obtain ⟨hspares, hrest⟩ := ih e'
      refine ⟨(hfirst.mono (by simp)).trans (hspares.mono (by simp)), fun hnodup hall => ?_⟩
      obtain ⟨hfresh, hnodup⟩ := List.nodup_cons.mp hnodup
      refine hrest hnodup fun m hm => ?_
      have hother : m ∉ [first] := fun h => hfresh (List.mem_singleton.mp h ▸ hm)
      rw [hfirst.dispatchers_eq m hother]
      exact hall m (List.mem_cons_of_mem first hm)

/-! ### What is registered -/

/-- The order managers in `managers_` are apart from each other, and each is idle. -/
structure Registered (e : Engine) : Prop where
  idle : ∀ id m, e.managers.lookup id = some m → ∃ o, e.objects[m]? = some o ∧ o.Idle
  distinct : ∀ id id' m, e.managers.lookup id = some m → e.managers.lookup id' = some m → id = id'

/-- What is registered has been created. -/
lemma Registered.lt_length (h : e.Registered) {id : StrategyId} {m : ManagerId}
    (hid : e.managers.lookup id = some m) : m < e.objects.length := by
  obtain ⟨o, ho, -⟩ := h.idle id m hid
  exact (List.getElem?_eq_some_iff.mp ho).1

/-- The new order manager has the next number. -/
lemma lookup_emplaceManager (e : Engine) (req : V1.RegisterStrategyRequest)
    (env : RegistrationEnv) (id : StrategyId) :
    (e.emplaceManager req env).managers.lookup id =
      if id = req.strategyId then some e.objects.length else e.managers.lookup id :=
  FiniteMap.lookup_insert_eq _ _ _ _

/-- A new order manager. -/
lemma Registered.emplaceManager (h : e.Registered) (req : V1.RegisterStrategyRequest)
    (env : RegistrationEnv) : (e.emplaceManager req env).Registered where
  idle := by
    intro id m hid
    rw [lookup_emplaceManager] at hid
    split_ifs at hid with hsame
    · obtain rfl := Option.some.inj hid
      exact ⟨_, List.getElem?_concat_length, Managed.idle_start _⟩
    · obtain ⟨o, ho, hidle⟩ := h.idle id m hid
      exact ⟨o, (List.getElem?_append_left (h.lt_length hid)).trans ho, hidle⟩
  distinct := by
    intro id id' m hid hid'
    rw [lookup_emplaceManager] at hid hid'
    -- the new order manager is none of those that were registered before
    split_ifs at hid hid' with hsame hsame' hsame'
    · rw [hsame, hsame']
    · exact absurd (Option.some.inj hid).symm (h.lt_length hid').ne
    · exact absurd (Option.some.inj hid').symm (h.lt_length hid).ne
    · exact h.distinct id id' m hid hid'

/-- Order managers are destroyed and are not registered any more. -/
lemma Registered.closeManagers (h : e.Registered) (env : RequestEnv) (ms : List ManagerId)
    {managers : AList fun _ : StrategyId => ManagerId}
    (hsub : ∀ id m, managers.lookup id = some m → e.managers.lookup id = some m ∧ m ∉ ms) :
    Registered { (e.closeManagers env ms).1 with managers := managers } := by
  obtain ⟨hspares, -⟩ := e.closeManagers_spec env ms
  constructor
  · intro id m hid
    obtain ⟨hold, hm⟩ := hsub id m hid
    obtain ⟨o, ho, hidle⟩ := h.idle id m hold
    exact ⟨o, (hspares.objects_eq m hm).trans ho, hidle⟩
  · intro id id' m hid hid'
    exact h.distinct id id' m (hsub id m hid).1 (hsub id' m hid').1

end Engine

end Quarcc
