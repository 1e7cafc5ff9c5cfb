import QuarccEngine.Core.Engine
import QuarccEngine.Library.Trajectory

/-!
# The processes of the adapters

`adapter_manager.cpp` in detail: `get_or_create` forks a child process for an adapter, waits until
it answers, and only then records it in `processes_`, from which `stop_all` signals and reaps it.  A
child whose adapter does not become ready in time is recorded nowhere; unless it has exited by
itself, it goes on, and the next call for the same adapter forks another one.
-/

namespace Quarcc

/-! ## Processes -/

/-- The signals that are sent to the children. -/
inductive Signal where
  | sigterm
  | sigkill
  deriving DecidableEq

/-- A child process, with the venue and the account that it was forked for. -/
structure Child where
  key : String × String
  exited : Bool := false
  signals : List Signal := []
  reaped : Bool := false

/-- `kill`. -/
def Child.kill (child : Child) (signal : Signal) : Child :=
  { child with signals := child.signals ++ [signal] }

/-- The wait of `stop_all` for one child, which exits within the five seconds or not. -/
def Child.wait (child : Child) (inTime : Bool) : Child :=
  if child.exited || inTime then { child with exited := true, reaped := true }
  else { child.kill .sigkill with exited := true, reaped := true }

lemma Child.reaped_wait (child : Child) (inTime : Bool) : (child.wait inTime).reaped = true := by
  unfold Child.wait
  split_ifs <;> rfl

/-- `AdapterProcess`.  The number of a child stands for its process id; the id -1 is `none`. -/
structure AdapterProcess where
  address : String
  pid : Option ℕ := none
  conn : ConnectionId

/-- `AdapterManager` with its processes, and all children that were forked, the last one at the
end. -/
structure AdapterProcesses where
  processes : AList fun _ : String × String => AdapterProcess := ∅
  children : List Child := []

/-- How `get_or_create` goes on for an adapter that is not there. -/
inductive SpawnOutcome where
  /-- `fork` fails, with the text of `strerror`. -/
  | forkFails (error : String)
  | ready
  /-- The adapter does not become ready in time; its process has exited or not. -/
  | timesOut (exited : Bool)
  deriving DecidableEq

/-- A step: a call of `get_or_create`, or a child exits. -/
inductive AdapterProcessStep where
  | getOrCreate (venue accountId : String) (cfg : V1.AdapterConfigMessage) (outcome : SpawnOutcome)
  | childExits (pid : ℕ)

/-- A call is for the venue of its configuration. -/
def AdapterProcessStep.ForItsVenue : AdapterProcessStep → Prop
  | .getOrCreate venue _ cfg _ => venue = cfg.venue
  | .childExits _ => True

namespace AdapterProcesses

/-- `get_or_create`. -/
def getOrCreate (a : AdapterProcesses) (venue accountId : String) (cfg : V1.AdapterConfigMessage)
    (outcome : SpawnOutcome) : AdapterProcesses × Except String ConnectionId :=
  match a.processes.lookup (venue, accountId) with
  | some proc => (a, .ok proc.conn)
  | none =>
    let address := "127.0.0.1:" ++ toString cfg.port
    let conn := FiniteMap.size a.processes
    match outcome with
    | .forkFails error => (a, .error ("fork() failed: " ++ error))
    | .timesOut exited =>
      ({ a with children := a.children ++ [{ key := (venue, accountId), exited := exited }] },
        .error ("Adapter for venue='" ++ venue ++ "' account='" ++ accountId ++ "' at " ++
          address ++ " did not become ready within 30s"))
    | .ready =>
      ({ processes := a.processes.insert (venue, accountId)
          { address := address, pid := some a.children.length, conn := conn }
         children := a.children ++ [{ key := (venue, accountId) }] }, .ok conn)

/-- The children that are recorded. -/
def pids (a : AdapterProcesses) : List ℕ := a.processes.entries.filterMap fun entry => entry.2.pid

/-- `stop_all`: all children that are recorded are signalled, and then waited for one by one. -/
def stopAll (a : AdapterProcesses) (inTime : ℕ → Bool) : AdapterProcesses where
  processes := FiniteMap.mapValues (fun proc => { proc with pid := none }) a.processes
  children :=
    let signalled := a.pids.foldl (fun children pid => children.modify pid (Child.kill · .sigterm))
      a.children
    a.pids.foldl (fun children pid => children.modify pid (Child.wait · (inTime pid))) signalled

/-- The processes after a step. -/
def step (a : AdapterProcesses) : AdapterProcessStep → AdapterProcesses
  | .getOrCreate venue accountId cfg outcome => (a.getOrCreate venue accountId cfg outcome).1
  | .childExits pid =>
    { a with children := a.children.modify pid fun child => { child with exited := true } }

/-- A child that was forked for the key and has not exited. -/
def Alive (a : AdapterProcesses) (pid : ℕ) (key : String × String) : Prop :=
  ∃ child, a.children[pid]? = some child ∧ child.key = key ∧ child.exited = false

/-- Every child that has not exited is recorded under its venue and account. -/
def Recorded (a : AdapterProcesses) : Prop :=
  ∀ pid key, a.Alive pid key → ∃ proc, a.processes.lookup key = some proc ∧ proc.pid = some pid

/-- For each venue and account there is at most one child that has not exited. -/
def OnePerKey (a : AdapterProcesses) : Prop :=
  ∀ pid pid' key, a.Alive pid key → a.Alive pid' key → pid = pid'

/-- `stop_all` would signal and reap every child that has not exited, whichever of them exit in
time. -/
def StopsAll (a : AdapterProcesses) : Prop :=
  ∀ inTime pid key, a.Alive pid key →
    ∃ child, (a.stopAll inTime).children[pid]? = some child ∧ .sigterm ∈ child.signals ∧
      child.reaped = true

/-- A call that gives up on a new adapter finds that its process has exited. -/
def ExitsBeforeThrow (a : AdapterProcesses) : AdapterProcessStep → Prop
  | .getOrCreate venue accountId _ outcome =>
    a.processes.lookup (venue, accountId) = none → outcome ≠ .timesOut false
  | .childExits _ => True

variable {a : AdapterProcesses}

/-! ## Calls -/

/-- The children after one more was forked. -/
lemma alive_fork {processes : AList fun _ : String × String => AdapterProcess} {child : Child}
    {pid : ℕ} {key : String × String} :
    Alive { processes := processes, children := a.children ++ [child] } pid key ↔
      a.Alive pid key ∨ (pid = a.children.length ∧ child.key = key ∧ child.exited = false) := by
  unfold Alive
  dsimp only
  constructor
  · rintro ⟨c, hc, hkey, hexited⟩
    by_cases hlt : pid < a.children.length
    · rw [List.getElem?_append_left hlt] at hc
      exact Or.inl ⟨c, hc, hkey, hexited⟩
    · rw [List.getElem?_append_right (not_lt.mp hlt)] at hc
      rw [List.getElem?_singleton] at hc
      split_ifs at hc with hzero
      obtain rfl := Option.some.inj hc
      exact Or.inr ⟨by omega, hkey, hexited⟩
  · rintro (⟨c, hc, hboth⟩ | ⟨rfl, hboth⟩)
    · refine ⟨c, ?_, hboth⟩
      rw [List.getElem?_append_left (List.getElem?_eq_some_iff.mp hc).1]
      exact hc
    · exact ⟨child, List.getElem?_concat_length, hboth⟩

/-- A call of `get_or_create` keeps the children recorded exactly when it does not give up on a
process that goes on. -/
lemma Recorded.getOrCreate_iff (h : a.Recorded) (venue accountId : String)
    (cfg : V1.AdapterConfigMessage) (outcome : SpawnOutcome) :
    (a.getOrCreate venue accountId cfg outcome).1.Recorded ↔
      (a.processes.lookup (venue, accountId) = none → outcome ≠ .timesOut false) := by
  unfold getOrCreate
  cases hlookup : a.processes.lookup (venue, accountId) with
  | some proc => exact iff_of_true h fun hnone => nomatch hnone
  | none =>
    cases outcome with
    | forkFails error => exact iff_of_true h fun _ heq => nomatch heq
    | ready =>
      refine iff_of_true (fun pid key halive => ?_) fun _ heq => nomatch heq
      dsimp only at halive ⊢
      rw [FiniteMap.lookup_insert_eq]
      rcases alive_fork.mp halive with hold | ⟨rfl, rfl, -⟩
      · -- an old child has another key, since this one was not there
        obtain ⟨proc, hproc, hpid⟩ := h pid key hold
        have hne : key ≠ (venue, accountId) := by
          rintro rfl
          rw [hlookup] at hproc
          cases hproc
        rw [if_neg hne]
        exact ⟨proc, hproc, hpid⟩
      · rw [if_pos rfl]
        exact ⟨_, rfl, rfl⟩
    | timesOut exited =>
      constructor
      · rintro hafter - heq
        obtain rfl := SpawnOutcome.timesOut.inj heq
        obtain ⟨proc, hproc, -⟩ := hafter a.children.length (venue, accountId)
          (alive_fork.mpr (Or.inr ⟨rfl, rfl, rfl⟩))
        dsimp only at hproc
        rw [hlookup] at hproc
        cases hproc
      · intro hexits pid key halive
        rcases alive_fork.mp halive with hold | ⟨-, -, hgoesOn⟩
        · exact h pid key hold
        · dsimp only at hgoesOn
          subst hgoesOn
          exact absurd rfl (hexits rfl)

/-- A child that exits leaves the others recorded. -/
lemma Recorded.childExits (h : a.Recorded) (pid : ℕ) : (a.step (.childExits pid)).Recorded := by
  rintro pid' key ⟨child, hchild, hkey, hexited⟩
  apply h pid' key
  change (a.children.modify pid fun child => { child with exited := true })[pid']? = some child
    at hchild
  rw [List.getElem?_modify] at hchild
  obtain ⟨old, hold, rfl⟩ := Option.map_eq_some_iff.mp hchild
  refine ⟨old, hold, ?_⟩
  by_cases hpid : pid = pid'
  · rw [if_pos hpid] at hexited
    cases hexited
  · rw [if_neg hpid] at hkey hexited
    exact ⟨hkey, hexited⟩

/-- Children that are recorded under their keys are one per key. -/
lemma Recorded.onePerKey (h : a.Recorded) : a.OnePerKey := by
  intro pid pid' key halive halive'
  obtain ⟨proc, hproc, hpid⟩ := h pid key halive
  obtain ⟨proc', hproc', hpid'⟩ := h pid' key halive'
  rw [hproc] at hproc'
  obtain rfl := Option.some.inj hproc'
  exact Option.some.inj (hpid.symm.trans hpid')

/-! ## Connections -/

/-- What the engine sees of the adapters: their connections. -/
structure SeenAs (a : AdapterProcesses) (m : AdapterManager) : Prop where
  lookup_eq : ∀ key, m.processes.lookup key = (a.processes.lookup key).map AdapterProcess.conn
  size_eq : FiniteMap.size m.processes = FiniteMap.size a.processes

/-- The exception of a call for an adapter that is not there. -/
def faultOf (accountId : String) (cfg : V1.AdapterConfigMessage) : SpawnOutcome → Option String
  | .forkFails error => some ("fork() failed: " ++ error)
  | .ready => none
  | .timesOut _ =>
    some ("Adapter for venue='" ++ cfg.venue ++ "' account='" ++ accountId ++ "' at " ++
      ("127.0.0.1:" ++ toString cfg.port) ++ " did not become ready within 30s")

/-- Seen by its connections, `get_or_create` returns, throws and stores what the engine expects of
it. -/
lemma SeenAs.getOrCreate {m : AdapterManager} (h : a.SeenAs m) (accountId : String)
    (cfg : V1.AdapterConfigMessage) (outcome : SpawnOutcome) :
    (a.getOrCreate cfg.venue accountId cfg outcome).1.SeenAs
        (m.getOrCreate accountId cfg (faultOf accountId cfg outcome)).1 ∧
      (a.getOrCreate cfg.venue accountId cfg outcome).2 =
        (m.getOrCreate accountId cfg (faultOf accountId cfg outcome)).2 := by
  unfold AdapterProcesses.getOrCreate AdapterManager.getOrCreate
  rw [h.lookup_eq]
  cases hproc : a.processes.lookup (cfg.venue, accountId) with
  | some proc => exact ⟨h, rfl⟩
  | none =>
    cases outcome with
    | forkFails error => exact ⟨h, rfl⟩
    | timesOut exited => exact ⟨⟨h.lookup_eq, h.size_eq⟩, rfl⟩
    | ready =>
      dsimp only [Option.map_none, faultOf]
      refine ⟨⟨fun key => ?_, ?_⟩, by rw [h.size_eq]⟩
      · rw [FiniteMap.lookup_insert_eq, FiniteMap.lookup_insert_eq, h.size_eq, h.lookup_eq]
        split_ifs <;> rfl
      · have hnone : m.processes.lookup (cfg.venue, accountId) = none := by
          rw [h.lookup_eq, hproc]
          rfl
        rw [FiniteMap.size_insert_of_notMem (AList.lookup_eq_none.mp hnone),
          FiniteMap.size_insert_of_notMem (AList.lookup_eq_none.mp hproc), h.size_eq]

/-- What a call returns or throws. -/
def answer (a : AdapterProcesses) : AdapterProcessStep → Option (Except String ConnectionId)
  | .getOrCreate venue accountId cfg outcome => some (a.getOrCreate venue accountId cfg outcome).2
  | .childExits _ => none

/-- What the engine makes of a step. -/
def expected (m : AdapterManager) : AdapterProcessStep → AdapterManager
  | .getOrCreate _ accountId cfg outcome =>
    (m.getOrCreate accountId cfg (faultOf accountId cfg outcome)).1
  | .childExits _ => m

/-- What the engine expects of a call. -/
def expectedAnswer (m : AdapterManager) : AdapterProcessStep → Option (Except String ConnectionId)
  | .getOrCreate _ accountId cfg outcome =>
    some (m.getOrCreate accountId cfg (faultOf accountId cfg outcome)).2
  | .childExits _ => none

/-- **The adapters are what the engine takes them for.**  In every run of calls for the venues of
the adapters, while the children exit at any time, the calls return and throw what `AdapterManager`
says. -/
theorem adapters_as_expected (steps : List AdapterProcessStep)
    (hvenue : ∀ s ∈ steps, s.ForItsVenue) :
    (Trajectory.run step {} steps).SeenAs (Trajectory.run expected {} steps) ∧
      Trajectory.outputs step answer {} steps =
        Trajectory.outputs expected expectedAnswer {} steps := by
  have hstart : SeenAs {} {} := ⟨fun _ => rfl, rfl⟩
  have hruns : (Trajectory.run step {} steps).SeenAs (Trajectory.run expected {} (steps.map id)) ∧
      Trajectory.outputs step answer {} steps =
        Trajectory.outputs expected expectedAnswer {} (steps.map id) := by
    refine Trajectory.related_run (R := SeenAs) (fun a m s h hfor => ?_) hstart hvenue
    cases s with
    | childExits pid => exact ⟨⟨h.lookup_eq, h.size_eq⟩, rfl⟩
    | getOrCreate venue accountId cfg outcome =>
      obtain rfl : venue = cfg.venue := hfor
      obtain ⟨hseen, hanswer⟩ := h.getOrCreate accountId cfg outcome
      exact ⟨hseen, congrArg some hanswer⟩
  rwa [List.map_id] at hruns

/-! ## Stopping -/

/-- A loop that does something to some children keeps what is true of a child and stays true. -/
lemma foldl_modify_keeps {Q : Child → Prop} {f : ℕ → Child → Child}
    (hkeeps : ∀ pid child, Q child → Q (f pid child)) (pids : List ℕ) {children : List Child}
    {i : ℕ}
    (h : ∃ child, children[i]? = some child ∧ Q child) :
    ∃ child, (pids.foldl (fun children pid => children.modify pid (f pid)) children)[i]? =
      some child ∧ Q child := by
  induction pids generalizing children with
  | nil => exact h
  | cons pid pids ih =>
    apply ih
    obtain ⟨child, hchild, hq⟩ := h
    rw [List.getElem?_modify, hchild]
    by_cases hpid : pid = i
    · exact ⟨f pid child, by simp [hpid], hkeeps pid child hq⟩
    · exact ⟨child, by simp [hpid], hq⟩

/-- A loop over some children makes true of each of them what it makes true of one. -/
lemma foldl_modify_makes {P Q : Child → Prop} {f : ℕ → Child → Child}
    (hmakes : ∀ pid child, P child → Q (f pid child))
    (hkeepsQ : ∀ pid child, Q child → Q (f pid child)) {pids : List ℕ} {children : List Child}
    {i : ℕ} (hmem : i ∈ pids) (h : ∃ child, children[i]? = some child ∧ P child) :
    ∃ child, (pids.foldl (fun children pid => children.modify pid (f pid)) children)[i]? =
      some child ∧ Q child := by
  induction pids generalizing children with
  | nil => exact absurd hmem List.not_mem_nil
  | cons pid pids ih =>
    obtain ⟨child, hchild, hp⟩ := h
    rw [List.foldl_cons]
    by_cases hpid : pid = i
    · apply foldl_modify_keeps hkeepsQ
      refine ⟨f pid child, ?_, hmakes pid child hp⟩
      rw [List.getElem?_modify, hchild]
      simp [hpid]
    · apply ih ((List.mem_cons.mp hmem).resolve_left (Ne.symm hpid))
      refine ⟨child, ?_, hp⟩
      rw [List.getElem?_modify, hchild]
      simp [hpid]

/-- `stop_all` signals and reaps what is recorded. -/
lemma Recorded.stopsAll (h : a.Recorded) : a.StopsAll := by
  intro inTime pid key halive
  obtain ⟨proc, hproc, hpid⟩ := h pid key halive
  obtain ⟨child, hchild, -⟩ := halive
  have hmem : pid ∈ a.pids := by
    refine List.mem_filterMap.mpr ⟨⟨key, proc⟩, ?_, hpid⟩
    exact AList.mem_lookup_iff.mp hproc
  unfold stopAll
  dsimp only
  have hsignalled := foldl_modify_makes (P := fun _ => True)
    (Q := fun child => Signal.sigterm ∈ child.signals) (f := fun _ child => child.kill .sigterm)
    (fun _ child _ => List.mem_append_right child.signals List.mem_cons_self)
    (fun _ _ hsent => List.mem_append_left _ hsent) hmem ⟨child, hchild, trivial⟩
  have hwait : ∀ pid (child : Child), Signal.sigterm ∈ child.signals →
      Signal.sigterm ∈ (child.wait (inTime pid)).signals := by
    intro pid child hsent
    unfold Child.wait
    split_ifs
    · exact hsent
    · exact List.mem_append_left _ hsent
  exact foldl_modify_makes (P := fun child => Signal.sigterm ∈ child.signals)
    (Q := fun child => Signal.sigterm ∈ child.signals ∧ child.reaped = true)
    (f := fun pid child => child.wait (inTime pid))
    (fun pid child hsent => ⟨hwait pid child hsent, child.reaped_wait _⟩)
    (fun pid child hsent => ⟨hwait pid child hsent.1, child.reaped_wait _⟩) hmem hsignalled

/-! ## Runs -/

/-- **Step lemma.** -/
lemma Recorded.step_iff (h : a.Recorded) (s : AdapterProcessStep) :
    (a.step s).Recorded ↔ a.ExitsBeforeThrow s := by
  cases s with
  | getOrCreate venue accountId cfg outcome => exact h.getOrCreate_iff venue accountId cfg outcome
  | childExits pid => exact iff_of_true (h.childExits pid) trivial

lemma recorded_start : ({} : AdapterProcesses).Recorded := by
  rintro pid key ⟨child, hchild, -⟩
  cases hchild

/-- **No adapter process is leaked**, in any state, exactly when every call that gives up on a new
adapter finds that its process has exited: every child that goes on is recorded, there is at most
one for each venue and account, and `stop_all` signals and reaps them all. -/
theorem recorded_iff_exitsBeforeThrow (steps : List AdapterProcessStep) :
    Trajectory.EveryState step (fun a => a.Recorded ∧ a.OnePerKey ∧ a.StopsAll) {} steps ↔
      Trajectory.AllSteps step ExitsBeforeThrow {} steps := by
  have hiff : Trajectory.EveryState step Recorded {} steps ↔
      Trajectory.AllSteps step ExitsBeforeThrow {} steps :=
    Trajectory.everyState_iff_of_step (fun _ s h => h.step_iff s) recorded_start
  rw [← hiff]
  constructor
  · exact fun h => h.mono fun a hall => hall.1
  · exact fun h => h.mono fun a hall => ⟨hall, hall.onePerKey, hall.stopsAll⟩

/-- An adapter that is not ready after 30 seconds goes on unrecorded, and the retry forks another
one. -/
theorem slow_adapter_leaked :
    ¬ ∀ steps : List AdapterProcessStep,
      Trajectory.EveryState step (fun a => a.Recorded ∧ a.OnePerKey ∧ a.StopsAll) {} steps := by
  intro h
  have hlast := (h [.getOrCreate "V" "ACC" {} (.timesOut false),
    .getOrCreate "V" "ACC" {} (.timesOut false)]).last
  have hone := hlast.2.1 0 1 ("V", "ACC") ⟨_, rfl, rfl, rfl⟩ ⟨_, rfl, rfl, rfl⟩
  exact absurd hone (by decide)

end AdapterProcesses

end Quarcc
