import QuarccEngine.Gateways.PaperTrading
import QuarccEngine.Library.Trajectory

/-!
# Paper trading, call by call

In `PaperTrading` a handler goes on at once with the answer of the gateway.  Here it does not: the
gateway has answered, and the other threads may move before the handler stores what it was answered.
A poll may even fill an order whose broker id the order manager does not know yet.

Nothing that the other threads do depends on what the handler does in the meantime, so the finer
system is seen as `PaperTrading` when the handler is taken to have gone on already.  The main result
of the module says this.
-/

namespace Quarcc

/-- An order manager with a paper gateway, whose handler may still have to go on. -/
structure PaperThreads extends PaperTrading where
  /-- The handler that goes on with the answer of the gateway. -/
  answered : Option Handler := none

/-- A step of one of the threads. -/
inductive ThreadAction where
  /-- A step that `PaperTrading` has; a call on the gateway ends with its answer. -/
  | run (action : PaperAction)
  /-- The handler goes on with the answer, up to its next call on the gateway. -/
  | resume

namespace PaperThreads

/-- An order manager that was just created, with a gateway that has no orders. -/
def start (accountId : String) (store : SQLiteOrderStore) (riskManager : RiskManager)
    (config : PaperGatewayConfig) : PaperThreads where
  toPaperTrading := .start accountId store riskManager config

/-- The gateway answers the call that the handler makes. -/
def call (p : PaperThreads) (draw : ℚ) (clockMs : ℤ) : PaperThreads :=
  match p.answered, p.handler with
  | none, .call _ c next =>
    { p with
      gateway := (p.gateway.call draw clockMs c).1
      answered := some (next (p.gateway.call draw clockMs c).2) }
  | _, _ => p

/-- The handler goes on. -/
def resume (p : PaperThreads) : PaperThreads :=
  match p.answered with
  | some handler => { p with handler := handler, answered := none }
  | none => p

/-- A step of one of the threads. -/
def step (p : PaperThreads) : ThreadAction → PaperThreads
  | .run (.call draw clockMs) => p.call draw clockMs
  | .run action => { p with toPaperTrading := p.toPaperTrading.step action }
  | .resume => p.resume

/-! ## The coarser system -/

/-- The handler has gone on with the answer that it has. -/
def current (p : PaperThreads) : PaperTrading :=
  { p.toPaperTrading with handler := p.answered.getD p.handler }

/-- What a step is in `PaperTrading`: a handler that goes on does nothing there, and neither do
calls and ends of handlers that come before. -/
def seenAs (p : PaperThreads) : ThreadAction → Option PaperAction
  | .run (.call draw clockMs) => if p.answered.isNone then some (.call draw clockMs) else none
  | .run .finish => if p.answered.isNone then some .finish else none
  | .run action => some action
  | .resume => none

/-- Only steps that `PaperTrading` has are seen, as they are. -/
lemma eq_run_of_seenAs {p : PaperThreads} {a : ThreadAction} {k : PaperAction}
    (h : p.seenAs a = some k) : a = .run k := by
  unfold seenAs at h
  cases a with
  | resume => cases h
  | run action =>
    cases action with
    | call draw clockMs =>
      dsimp only at h
      split_ifs at h
      rw [Option.some.inj h]
    | finish =>
      dsimp only at h
      split_ifs at h
      rw [Option.some.inj h]
    | _ => rw [Option.some.inj h]

/-- The handler makes a call on the gateway. -/
def Calling (p : PaperTrading) : Prop := ∃ s c next, p.handler = .call s c next

/-- Calls are made, and answered, while an event is handled. -/
structure Staged (p : PaperThreads) : Prop where
  handling_of_calling : Calling p.toPaperTrading → p.handling ≠ none
  calling_of_answered : p.answered ≠ none → Calling p.toPaperTrading

/-! ## What the steps do to the handler -/

/-- The gateway answers nothing, or the call that the handler makes. -/
lemma call_cases (p : PaperThreads) (draw : ℚ) (clockMs : ℤ) :
    (p.call draw clockMs = p ∧ (p.answered = none → ∃ s, p.handler = .done s)) ∨
      ∃ s c next, p.answered = none ∧ p.handler = .call s c next ∧
        p.call draw clockMs =
          { p with
            gateway := (p.gateway.call draw clockMs c).1
            answered := some (next (p.gateway.call draw clockMs c).2) } := by
  unfold call
  cases hanswered : p.answered with
  | some handler => exact Or.inl ⟨rfl, fun h => by simp at h⟩
  | none =>
    cases hhandler : p.handler with
    | done s => exact Or.inl ⟨rfl, fun _ => ⟨s, rfl⟩⟩
    | call s c next => exact Or.inr ⟨s, c, next, rfl, rfl, rfl⟩

/-- While an event is handled no other one is taken. -/
lemma pop_of_handling {p : PaperTrading} (h : p.handling ≠ none) (env : Env) : p.pop env = p := by
  obtain ⟨event, hhandling⟩ := Option.ne_none_iff_exists'.mp h
  unfold PaperTrading.pop
  rw [hhandling]

/-- An event that is taken is handled, unless there is none. -/
lemma pop_of_idle {p : PaperTrading} (h : p.handling = none) (env : Env) :
    p.pop env = p ∨ (p.pop env).handling ≠ none := by
  unfold PaperTrading.pop
  rw [h]
  cases p.queue.pop with
  | none => exact Or.inl rfl
  | some next => exact Or.inr (by simp)

/-- A handler that makes a call is not at its end. -/
lemma finish_of_calling {p : PaperTrading} (h : Calling p) : p.finish = p := by
  obtain ⟨s, c, next, hhandler⟩ := h
  unfold PaperTrading.finish
  cases p.handling with
  | none => rfl
  | some event => simp [hhandler]

/-- The end of an event leaves the handler as it is. -/
lemma finish_handler (p : PaperTrading) : p.finish.handler = p.handler := by
  unfold PaperTrading.finish
  cases p.handling with
  | none => rfl
  | some event =>
    cases hhandler : p.handler with
    | call s c next => simp [hhandler]
    | done s => simp

/-- The steps of the other threads. -/
def Foreign : PaperAction → Prop
  | .pop _ | .call _ _ | .finish => False
  | _ => True

/-- The other threads neither look at the handler nor change it. -/
lemma foreign_step {a : PaperAction} (ha : Foreign a) (p : PaperTrading) (handler : Handler) :
    (p.step a).handling = p.handling ∧ (p.step a).handler = p.handler ∧
      ({ p with handler := handler } : PaperTrading).step a =
        { p.step a with handler := handler } := by
  unfold PaperTrading.step
  cases a with
  | pop env => exact ha.elim
  | call draw clockMs => exact ha.elim
  | finish => exact ha.elim
  | poll poll =>
    unfold PaperTrading.simulateFills
    dsimp only
    split_ifs
    · exact ⟨rfl, rfl, rfl⟩
    · exact ⟨rfl, rfl, rfl⟩
  | enqueueReport =>
    unfold PaperTrading.enqueueReport
    cases hfills : p.generatedFills with
    | nil => simp [hfills]
    | cons report rest => simp
  | take =>
    unfold PaperTrading.take
    cases hdelivering : p.delivering with
    | some report => simp [hdelivering]
    | none =>
      cases hqueue : p.reportsQueue with
      | nil => simp [hdelivering, hqueue]
      | cons report rest => simp
  | deliver =>
    unfold PaperTrading.deliver
    cases hdelivering : p.delivering with
    | none => simp [hdelivering]
    | some report => simp
  | command command => exact ⟨rfl, rfl, rfl⟩
  | bar bar => exact ⟨rfl, rfl, rfl⟩
  | tick tick => exact ⟨rfl, rfl, rfl⟩

/-! ## The refinement -/

namespace Staged

variable {p : PaperThreads}

/-- A new order manager with a gateway that has no orders. -/
lemma start (accountId : String) (store : SQLiteOrderStore) (riskManager : RiskManager)
    (config : PaperGatewayConfig) :
    (PaperThreads.start accountId store riskManager config).Staged where
  handling_of_calling := by
    rintro ⟨s, c, next, hcall⟩
    cases hcall
  calling_of_answered := fun h => absurd rfl h

/-- Between two events there is no answer. -/
lemma answered_of_idle (h : p.Staged) (hidle : p.handling = none) : p.answered = none := by
  by_contra hanswered
  exact h.handling_of_calling (h.calling_of_answered hanswered) hidle

/-- A step of `PaperTrading` that leaves the handler alone and does not end the event. -/
lemma of_kept (h : p.Staged) {p' : PaperTrading} (hhandler : p'.handler = p.handler)
    (hhandling : p.handling ≠ none → p'.handling ≠ none) :
    ({ p with toPaperTrading := p' } : PaperThreads).Staged := by
  have hcalling : Calling p' ↔ Calling p.toPaperTrading := by
    unfold Calling
    rw [hhandler]
  exact ⟨fun hcall => hhandling (h.handling_of_calling (hcalling.mp hcall)),
    fun hanswered => hcalling.mpr (h.calling_of_answered hanswered)⟩

/-- The gateway answers. -/
lemma call (h : p.Staged) (draw : ℚ) (clockMs : ℤ) : (p.call draw clockMs).Staged := by
  rcases p.call_cases draw clockMs with ⟨hcall, -⟩ | ⟨s, c, next, -, hhandler, hcall⟩
  · rw [hcall]
    exact h
  · rw [hcall]
    have hcalling : Calling p.toPaperTrading := ⟨s, c, next, hhandler⟩
    exact ⟨fun _ => h.handling_of_calling hcalling, fun _ => hcalling⟩

/-- The handler goes on. -/
lemma resume (h : p.Staged) : p.resume.Staged := by
  unfold PaperThreads.resume
  cases hanswered : p.answered with
  | none => exact h
  | some handler =>
    have hcalling := h.calling_of_answered (by simp [hanswered])
    exact ⟨fun _ => h.handling_of_calling hcalling, fun hnone => absurd rfl hnone⟩

/-- **Step lemma.** -/
lemma step (h : p.Staged) (a : ThreadAction) : (p.step a).Staged := by
  have hforeign : ∀ a, Foreign a →
      ({ p with toPaperTrading := p.toPaperTrading.step a } : PaperThreads).Staged := by
    intro a ha
    obtain ⟨hhandling, hhandler, -⟩ := foreign_step ha p.toPaperTrading p.handler
    exact h.of_kept hhandler fun hsome => hhandling ▸ hsome
  cases a with
  | resume => exact h.resume
  | run action =>
    cases action with
    | call draw clockMs => exact h.call draw clockMs
    | pop env =>
      by_cases hidle : p.handling = none
      · have hnone := h.answered_of_idle hidle
        rcases pop_of_idle hidle env with hpop | hpop
        · exact h.of_kept (congrArg PaperTrading.handler hpop) fun hsome => absurd hidle hsome
        · exact ⟨fun _ => hpop, fun hsome => absurd hnone hsome⟩
      · have hpop := pop_of_handling hidle env
        exact h.of_kept (congrArg PaperTrading.handler hpop) fun _ =>
          (congrArg PaperTrading.handling hpop).trans_ne hidle
    | finish =>
      by_cases hcalling : Calling p.toPaperTrading
      · have hfinish := finish_of_calling hcalling
        exact h.of_kept (congrArg PaperTrading.handler hfinish) fun hsome =>
          (congrArg PaperTrading.handling hfinish).trans_ne hsome
      · refine ⟨?_, fun hsome => absurd (h.calling_of_answered hsome) hcalling⟩
        rintro ⟨s, c, next, hcall⟩
        exact absurd ⟨s, c, next, (finish_handler p.toPaperTrading).symm.trans hcall⟩ hcalling
    | poll poll => exact hforeign _ trivial
    | enqueueReport => exact hforeign _ trivial
    | take => exact hforeign _ trivial
    | deliver => exact hforeign _ trivial
    | command command => exact hforeign _ trivial
    | bar bar => exact hforeign _ trivial
    | tick tick => exact hforeign _ trivial

end Staged

/-- Without an answer that is waiting, the system is its coarser view. -/
lemma current_of_answered_none {p : PaperThreads} (h : p.answered = none) :
    p.current = p.toPaperTrading := by
  unfold current
  rw [h]
  rfl

/-- What the answer that is waiting does to the coarser view. -/
lemma current_of_answered {p : PaperThreads} {handler : Handler} (h : p.answered = some handler) :
    p.current = { p.toPaperTrading with handler := handler } := by
  unfold current
  rw [h]
  rfl

/-- **Paper trading, call by call, is paper trading.** -/
theorem refines_paperTrading :
    Trajectory.Refines step PaperTrading.step Staged current seenAs where
  keeps := fun _ a h => h.step a
  step_eq := by
    intro p a h
    have hforeign : ∀ a, Foreign a →
        ({ p with toPaperTrading := p.toPaperTrading.step a } : PaperThreads).current =
          p.current.step a := by
      intro a ha
      obtain ⟨-, hhandler, hstep⟩ :=
        foreign_step ha p.toPaperTrading (p.answered.getD p.handler)
      unfold current
      rw [hstep, ← hhandler]
    cases a with
    | resume =>
      unfold step resume seenAs
      cases hanswered : p.answered with
      | none => rfl
      | some handler =>
        rw [current_of_answered hanswered]
        rfl
    | run action =>
      cases action with
      | call draw clockMs =>
        cases hanswered : p.answered with
        | some handler =>
          unfold step seenAs call
          simp [hanswered]
        | none =>
          have hcurrent := current_of_answered_none hanswered
          unfold step seenAs call
          rw [hcurrent]
          unfold PaperTrading.step PaperTrading.call
          cases hhandler : p.handler with
          | done s => simp [hanswered, hcurrent]
          | call s c next => simp [hanswered, current]
      | pop env =>
        unfold step seenAs
        by_cases hidle : p.handling = none
        · have hnone := h.answered_of_idle hidle
          rw [current_of_answered_none hnone]
          exact current_of_answered_none hnone
        · have hpop : p.toPaperTrading.step (.pop env) = p.toPaperTrading :=
            pop_of_handling hidle env
          have hpop' : p.current.step (.pop env) = p.current :=
            pop_of_handling (p := p.current) hidle env
          dsimp only [Option.elim_some]
          rw [hpop, hpop']
      | finish =>
        cases hanswered : p.answered with
        | none =>
          have hseen : p.seenAs (.run .finish) = some .finish := by
            unfold seenAs
            rw [hanswered]
            rfl
          rw [hseen, current_of_answered_none hanswered]
          exact current_of_answered_none (p := p.step (.run .finish)) hanswered
        | some handler =>
          have hseen : p.seenAs (.run .finish) = none := by
            unfold seenAs
            rw [hanswered]
            rfl
          have hfinish : p.toPaperTrading.step .finish = p.toPaperTrading :=
            finish_of_calling (h.calling_of_answered (by simp [hanswered]))
          rw [hseen]
          exact congrArg (fun q => ({ p with toPaperTrading := q } : PaperThreads).current) hfinish
      | poll poll => exact hforeign _ trivial
      | enqueueReport => exact hforeign _ trivial
      | take => exact hforeign _ trivial
      | deliver => exact hforeign _ trivial
      | command command => exact hforeign _ trivial
      | bar bar => exact hforeign _ trivial
      | tick tick => exact hforeign _ trivial

end PaperThreads

end Quarcc
