import Mathlib.Data.List.Basic

/-!
# Programs that call their environment

A component with a private state often makes calls on an environment it does not control and goes
on with the answers.  `Program C A σ` is such a component's code: it is either done, in a final
state, or it makes a call `c : C` in some state and resumes with the answer, which has the type
`A c`.  The state is recorded at every call, so that one can speak about the state in which a call
is made.

A program is read in two ways.  `run` executes it to the end against an environment whose answers
are given as a function, and `exchanges` lists the calls made on the way.  `resume` performs one
call only, for systems in which other parties move between two calls of the same program.
-/

/-- Code with private state `σ` that calls its environment: the calls are `C`, the answer to the
call `c` has the type `A c`. -/
inductive Program (C : Type*) (A : C → Type*) (σ : Type*) where
  /-- The code has ended in the state `s`. -/
  | done (s : σ) : Program C A σ
  /-- The code makes the call `c` in the state `s` and continues with the answer. -/
  | call (s : σ) (c : C) (next : A c → Program C A σ) : Program C A σ

namespace Program

/-- A call together with the state it was made in and the answer it got. -/
structure Exchange (C : Type*) (A : C → Type*) (σ : Type*) where
  /-- The state in which the call was made. -/
  state : σ
  /-- The call. -/
  call : C
  /-- The answer of the environment. -/
  answer : A call

variable {C : Type*} {A : C → Type*} {σ : Type*}

/-- The state the code is in now: where it ended, or where it makes its next call. -/
def state : Program C A σ → σ
  | done s => s
  | call s _ _ => s

/-- Run the code to its end against an environment that answers by `answer`. -/
def run (answer : (c : C) → A c) : Program C A σ → σ
  | done s => s
  | call _ c next => run answer (next (answer c))

/-- The calls made when the code runs to its end, with their answers, in order. -/
def exchanges (answer : (c : C) → A c) : Program C A σ → List (Exchange C A σ)
  | done _ => []
  | call s c next => ⟨s, c, answer c⟩ :: exchanges answer (next (answer c))

@[simp] lemma state_done (s : σ) : (done s : Program C A σ).state = s := rfl

@[simp] lemma run_done (answer : (c : C) → A c) (s : σ) :
    (done s : Program C A σ).run answer = s := rfl

@[simp] lemma run_call (answer : (c : C) → A c) (s : σ) (c : C) (next : A c → Program C A σ) :
    (call s c next).run answer = (next (answer c)).run answer := rfl

@[simp] lemma exchanges_done (answer : (c : C) → A c) (s : σ) :
    (done s : Program C A σ).exchanges answer = [] := rfl

@[simp] lemma exchanges_call (answer : (c : C) → A c) (s : σ) (c : C)
    (next : A c → Program C A σ) :
    (call s c next).exchanges answer =
      ⟨s, c, answer c⟩ :: (next (answer c)).exchanges answer := rfl

end Program
