import QuarccEngine.Gateways.Stopping
import QuarccEngine.Library.RecentKeys
import QuarccEngine.Library.Trajectory

/-!
# The fill stream without duplicates

`run_fill_stream` of `grpc_gateway.cpp`: the loop that reads the reports of the adapter and passes
them to the fill handler, except those with an execution id that it has seen recently.  An adapter
sends old reports again after a reconnect, so the ids are kept over reconnects.

The ids are kept in a hash set and in a queue.  The loop is an instance of the filter of recent
keys:  what the handler has got is the filtered list of everything that was read, and the two
containers hold the same ids.  The thread of `GrpcStopping`, with its one list of ids, passes on the
same reports.
-/

namespace Quarcc

/-! ## The loop -/

/-- What `run_fill_stream` works on: the containers of the execution ids, and the calls of the fill
handler, if one is set. -/
structure FillStream where
  fillHandler : Bool := false
  seenExecutionIds : Finset String := ∅
  seenIdOrder : List String := []
  forwarded : List V1.ExecutionReport := []

/-- What happens to the stream thread: `Read` returns a report, or it fails and the thread
reconnects with a new context. -/
inductive FillStreamEvent where
  | read (report : V1.ExecutionReport)
  | reconnect

namespace FillStream

/-- `set_fill_handler`. -/
def setFillHandler (g : FillStream) : FillStream := { g with fillHandler := true }

/-- The call of the fill handler. -/
def forward (g : FillStream) (report : V1.ExecutionReport) : FillStream :=
  if g.fillHandler then { g with forwarded := g.forwarded ++ [report] } else g

/-- The id of a report that is no duplicate is kept.  It is undefined what `front()` does on an
empty queue. -/
def keepId (g : FillStream) (execId : String) : Option FillStream :=
  if maxSeenIds ≤ g.seenExecutionIds.card then
    match g.seenIdOrder with
    | [] => none
    | front :: rest =>
      some
        { g with
          seenExecutionIds := insert execId (g.seenExecutionIds.erase front)
          seenIdOrder := rest ++ [execId] }
  else
    some
      { g with
        seenExecutionIds := insert execId g.seenExecutionIds
        seenIdOrder := g.seenIdOrder ++ [execId] }

/-- The body of the inner loop of `run_fill_stream`. -/
def onReport (g : FillStream) (report : V1.ExecutionReport) : Option FillStream :=
  let execId := report.executionId
  if execId = "" then some (g.forward report)
  else if execId ∈ g.seenExecutionIds then some g
  else (g.keepId execId).map fun g => g.forward report

/-- `run_fill_stream`; a reconnect keeps everything. -/
def step (g : FillStream) : FillStreamEvent → Option FillStream
  | .read report => g.onReport report
  | .reconnect => some g

end FillStream

/-! ## The filter -/

/-- The report that is read, if one is. -/
def FillStreamEvent.report? : FillStreamEvent → Option V1.ExecutionReport
  | .read report => some report
  | .reconnect => none

/-- The execution id of a report; brokers that provide none leave it empty. -/
def executionKey (report : V1.ExecutionReport) : Option String :=
  if report.executionId = "" then none else some report.executionId

namespace FillStream

/-- The containers of the execution ids. -/
def keys (g : FillStream) : RecentKeys String := ⟨g.seenExecutionIds, g.seenIdOrder⟩

/-- The loop has passed on the given reports, and its containers hold the most recent ids of
these. -/
structure Filters (g : FillStream) (passed : List V1.ExecutionReport) : Prop where
  handler : g.fillHandler = true
  forwarded : g.forwarded = passed
  holds : g.keys.Holds maxSeenIds (passed.filterMap executionKey)

variable {g : FillStream} {passed : List V1.ExecutionReport}

/-- A gateway whose fill handler is set. -/
lemma filters_start : ({} : FillStream).setFillHandler.Filters [] :=
  ⟨rfl, rfl, RecentKeys.holds_empty maxSeenIds⟩

/-- Keeping an id is a step of the library on the containers. -/
lemma keys_keepId (g : FillStream) (execId : String) :
    (g.keepId execId).map keys = g.keys.push maxSeenIds execId := by
  unfold keepId RecentKeys.push keys
  dsimp only
  by_cases hfull : maxSeenIds ≤ g.seenExecutionIds.card
  · rw [if_pos hfull, if_pos hfull]
    cases g.seenIdOrder <;> rfl
  · rw [if_neg hfull, if_neg hfull]
    rfl

/-- Keeping an id calls no handler. -/
lemma forwarded_keepId {g' : FillStream} {execId : String} (h : g.keepId execId = some g') :
    g'.fillHandler = g.fillHandler ∧ g'.forwarded = g.forwarded := by
  unfold keepId at h
  split_ifs at h
  · cases horder : g.seenIdOrder with
    | nil =>
      rw [horder] at h
      cases h
    | cons front rest =>
      rw [horder] at h
      obtain rfl := Option.some.inj h
      exact ⟨rfl, rfl⟩
  · obtain rfl := Option.some.inj h
    exact ⟨rfl, rfl⟩

/-- The handler gets a report whose id has been kept. -/
lemma filters_forward {report : V1.ExecutionReport} (hhandler : g.fillHandler = true)
    (hforwarded : g.forwarded = passed)
    (hkeys : g.keys.Holds maxSeenIds ((passed ++ [report]).filterMap executionKey)) :
    (g.forward report).Filters (passed ++ [report]) := by
  unfold FillStream.forward
  rw [if_pos hhandler]
  exact ⟨hhandler, congrArg (· ++ [report]) hforwarded, hkeys⟩

/-- **Step lemma.**  The loop does with a report what the filter does, and never asks an empty queue
for its front. -/
theorem Filters.onReport (h : g.Filters passed) (report : V1.ExecutionReport) :
    ∃ g', g.onReport report = some g' ∧
      g'.Filters (RecentKeys.passNext executionKey maxSeenIds passed report) := by
  unfold FillStream.onReport
  dsimp only
  by_cases hempty : report.executionId = ""
  · have hkey : executionKey report = none := if_pos hempty
    obtain ⟨hpass, hkeys⟩ :=
      @RecentKeys.passNext_of_none _ _ _ executionKey maxSeenIds passed report hkey
    rw [if_pos hempty, hpass]
    exact ⟨_, rfl, filters_forward h.handler h.forwarded (hkeys ▸ h.holds)⟩
  have hkey : executionKey report = some report.executionId := if_neg hempty
  rw [if_neg hempty]
  by_cases hseen : report.executionId ∈ g.seenExecutionIds
  · rw [if_pos hseen, h.holds.passNext_of_mem hkey hseen]
    exact ⟨g, rfl, h⟩
  · obtain ⟨hpass, hkeys⟩ := h.holds.passNext_of_notMem hkey hseen
    obtain ⟨keys', hpush, hholds⟩ := h.holds.push (by decide) hseen
    rw [← keys_keepId] at hpush
    obtain ⟨g', hkeep, rfl⟩ := Option.map_eq_some_iff.mp hpush
    obtain ⟨hhandler, hforwarded⟩ := forwarded_keepId hkeep
    rw [if_neg hseen, hkeep, Option.map_some, hpass]
    rw [← hkeys] at hholds
    exact ⟨_, rfl, filters_forward (hhandler.trans h.handler) (hforwarded.trans h.forwarded) hholds⟩

/-- The filter along the stream. -/
lemma Filters.run (h : g.Filters passed) (events : List FillStreamEvent) :
    ∃ g', events.foldlM step g = some g' ∧
      g'.Filters ((events.filterMap FillStreamEvent.report?).foldl
        (RecentKeys.passNext executionKey maxSeenIds) passed) := by
  induction events generalizing g passed with
  | nil => exact ⟨g, rfl, h⟩
  | cons event events ih =>
    cases event with
    | read report =>
      obtain ⟨g₁, hstep, hfilters⟩ := h.onReport report
      obtain ⟨g', hrun, hg'⟩ := ih hfilters
      refine ⟨g', ?_, hg'⟩
      rw [List.foldlM_cons]
      exact Eq.trans (congrArg (· >>= _) hstep) hrun
    | reconnect => exact ih h

/-- **The fill stream without duplicates.**  Whatever is read over whatever reconnects, the stream
thread does not fail, the reports that it has passed to the handler are those that the filter of
recent execution ids passes, in order, and the two containers hold the same ids, each once and at
most `kMaxSeenIds` of them. -/
theorem forwarded_eq_passOf (events : List FillStreamEvent) :
    ∃ g, events.foldlM step ({} : FillStream).setFillHandler = some g ∧
      g.forwarded = RecentKeys.passOf executionKey maxSeenIds
        (events.filterMap FillStreamEvent.report?) ∧
      (∀ id, id ∈ g.seenExecutionIds ↔ id ∈ g.seenIdOrder) ∧
      g.seenIdOrder.Nodup ∧ g.seenExecutionIds.card = g.seenIdOrder.length ∧
      g.seenIdOrder.length ≤ maxSeenIds := by
  obtain ⟨g, hrun, hfilters⟩ := filters_start.run events
  have hholds := hfilters.holds
  exact ⟨g, hrun, hfilters.forwarded, hholds.mem_iff, hholds.nodup, hholds.card_eq,
    hholds.length_le⟩

/-! ## The stream thread of a gateway that stops -/

/-- What `GrpcStopping` remembers of a report that is no duplicate is the queue after the report. -/
lemma remember_eq_seenIdOrder (h : g.Filters passed) {s : GrpcStopping}
    (hids : s.seenIds = g.seenIdOrder) {report : V1.ExecutionReport}
    (hnew : ¬ s.Duplicate report) {g' : FillStream} (hstep : g.onReport report = some g') :
    s.remember report = g'.seenIdOrder := by
  have hforward : ∀ g : FillStream, (g.forward report).seenIdOrder = g.seenIdOrder := by
    intro g
    unfold FillStream.forward
    split_ifs <;> rfl
  have hcard : g.seenExecutionIds.card = s.seenIds.length := hids ▸ h.holds.card_eq
  unfold FillStream.onReport at hstep
  unfold GrpcStopping.remember
  dsimp only at hstep
  by_cases hempty : report.executionId = ""
  · rw [if_pos hempty] at hstep ⊢
    rw [← Option.some.inj hstep, hforward, hids]
  have hseen : report.executionId ∉ g.seenExecutionIds := by
    intro hmem
    refine hnew ⟨hempty, ?_⟩
    rw [hids]
    exact (h.holds.mem_iff _).mp hmem
  rw [if_neg hempty, if_neg hseen] at hstep
  rw [if_neg hempty]
  obtain ⟨g₁, hkeep, rfl⟩ := Option.map_eq_some_iff.mp hstep
  rw [hforward]
  unfold keepId at hkeep
  rw [hcard] at hkeep
  by_cases hfull : maxSeenIds ≤ s.seenIds.length
  · rw [if_pos hfull] at hkeep ⊢
    rw [hids]
    cases horder : g.seenIdOrder with
    | nil =>
      rw [horder] at hkeep
      cases hkeep
    | cons front rest =>
      rw [horder] at hkeep
      rw [← Option.some.inj hkeep]
      rfl
  · rw [if_neg hfull] at hkeep ⊢
    rw [← Option.some.inj hkeep, hids]

/-- A report with an id that is not remembered is forwarded. -/
lemma forwarded_of_new (hhandler : g.fillHandler = true) {report : V1.ExecutionReport}
    (hnew : report.executionId = "" ∨ report.executionId ∉ g.seenExecutionIds) {g' : FillStream}
    (hstep : g.onReport report = some g') : g'.forwarded = g.forwarded ++ [report] := by
  have hforward : ∀ g : FillStream, g.fillHandler = true →
      (g.forward report).forwarded = g.forwarded ++ [report] := by
    intro g hhandler
    unfold FillStream.forward
    rw [if_pos hhandler]
  unfold FillStream.onReport at hstep
  dsimp only at hstep
  by_cases hempty : report.executionId = ""
  · rw [if_pos hempty] at hstep
    rw [← Option.some.inj hstep, hforward g hhandler]
  · rw [if_neg hempty, if_neg (hnew.resolve_left hempty)] at hstep
    obtain ⟨g₁, hkeep, rfl⟩ := Option.map_eq_some_iff.mp hstep
    obtain ⟨hhandler', hforwarded⟩ := forwarded_keepId hkeep
    rw [hforward g₁ (hhandler'.trans hhandler), hforwarded]

/-- The report that the loop passes to the handler when it reads the given one. -/
def passes (g : FillStream) (report : V1.ExecutionReport) : Option V1.ExecutionReport :=
  if g.fillHandler ∧ (report.executionId = "" ∨ report.executionId ∉ g.seenExecutionIds) then
    some report
  else none

/-- The handler gets what the loop passes to it. -/
lemma forwarded_onReport {report : V1.ExecutionReport} {g' : FillStream}
    (hstep : g.onReport report = some g') :
    g'.forwarded = g.forwarded ++ (g.passes report).toList := by
  unfold passes
  split_ifs with hpasses
  · exact forwarded_of_new hpasses.1 hpasses.2 hstep
  rw [Option.toList_none, List.append_nil]
  unfold FillStream.onReport FillStream.forward at hstep
  dsimp only at hstep
  by_cases hhandler : g.fillHandler = true
  · -- a duplicate
    obtain ⟨hempty, hseen⟩ := not_or.mp fun hnew => hpasses ⟨hhandler, hnew⟩
    rw [if_neg hempty, if_pos (not_not.mp hseen)] at hstep
    rw [Option.some.inj hstep]
  · split_ifs at hstep
    · rw [Option.some.inj hstep]
    · rw [Option.some.inj hstep]
    · obtain ⟨g₁, hkeep, hg₁⟩ := Option.map_eq_some_iff.mp hstep
      obtain ⟨hhandler', hforwarded⟩ := forwarded_keepId hkeep
      rw [hhandler', if_neg hhandler] at hg₁
      rw [← hg₁, hforwarded]

/-- `GrpcStopping` remembers the ids of the queue. -/
structure Follows (g : FillStream) (s : GrpcStopping) : Prop where
  filters : g.Filters g.forwarded
  seenIds : s.seenIds = g.seenIdOrder

end FillStream

namespace GrpcStopping

/-- The report that a step takes from `Read`, to pass it on or to drop it. -/
def takes (s : GrpcStopping) : GrpcStoppingAction → Option V1.ExecutionReport
  | .stream _ =>
    match s.stream with
    | .received report => some report
    | .checking | .connecting | .reading | .passing _ | .finishing | .waiting | .leaving
    | .exited =>
      none
  | .stop => none

/-- The report that is passed to the handler next. -/
def passing (s : GrpcStopping) : Option V1.ExecutionReport :=
  match s.stream with
  | .passing report => some report
  | .checking | .connecting | .reading | .received _ | .finishing | .waiting | .leaving | .exited =>
    none

/-- A step that takes no report passes on what was to be passed on. -/
lemma follows_step {s : GrpcStopping} {g : FillStream} (h : g.Follows s) {a : GrpcStoppingAction}
    (htakes : s.takes a = none) :
    g.Follows (s.step a).1 ∧
      (s.step a).2.toList ++ (s.step a).1.passing.toList = s.passing.toList := by
  obtain ⟨stopRequested, ctx, stream, seenIds, stop⟩ := s
  cases a with
  | stop => cases stop <;> exact ⟨⟨h.filters, h.seenIds⟩, rfl⟩
  | stream read =>
    cases stream with
    | received report => cases htakes
    | checking | finishing => cases stopRequested <;> exact ⟨⟨h.filters, h.seenIds⟩, rfl⟩
    | reading => cases read <;> exact ⟨⟨h.filters, h.seenIds⟩, rfl⟩
    | connecting | passing _ | waiting | leaving | exited =>
      exact ⟨⟨h.filters, h.seenIds⟩, rfl⟩

/-- A report that is taken is to be passed on exactly when the fill stream forwards it. -/
lemma follows_takes {s : GrpcStopping} {g : FillStream} (h : g.Follows s) {a : GrpcStoppingAction}
    {report : V1.ExecutionReport} (htakes : s.takes a = some report) :
    ∃ g', g.onReport report = some g' ∧ g'.Follows (s.step a).1 ∧ s.passing = none ∧
      g'.forwarded = g.forwarded ++ ((s.step a).2.toList ++ (s.step a).1.passing.toList) := by
  have hmem : ∀ id, id ∈ g.seenExecutionIds ↔ id ∈ s.seenIds := by
    intro id
    rw [h.seenIds]
    exact h.filters.holds.mem_iff id
  obtain ⟨g', hstep, hfilters⟩ := h.filters.onReport report
  have hfilters' : g'.Filters g'.forwarded := hfilters.forwarded ▸ hfilters
  have hremember := fun hnew => FillStream.remember_eq_seenIdOrder h.filters h.seenIds hnew hstep
  obtain ⟨stopRequested, ctx, stream, seenIds, stop⟩ := s
  cases a with
  | stop => cases htakes
  | stream read =>
    cases stream with
    | received taken =>
      obtain rfl := Option.some.inj htakes
      refine ⟨g', hstep, ?_⟩
      unfold GrpcStopping.step runFillStream
      dsimp only
      by_cases hduplicate : (⟨stopRequested, ctx, .received taken, seenIds, stop⟩ :
          GrpcStopping).Duplicate taken
      · -- the fill stream drops it as well
        have hsame : g.onReport taken = some g := by
          unfold FillStream.onReport
          dsimp only
          rw [if_neg hduplicate.1, if_pos ((hmem _).mpr hduplicate.2)]
        obtain rfl := Option.some.inj (hsame.symm.trans hstep)
        rw [if_pos hduplicate]
        exact ⟨⟨h.filters, h.seenIds⟩, rfl, (List.append_nil _).symm⟩
      · rw [if_neg hduplicate]
        refine ⟨⟨hfilters', hremember hduplicate⟩, rfl, ?_⟩
        refine FillStream.forwarded_of_new h.filters.handler ?_ hstep
        by_cases hempty : taken.executionId = ""
        · exact Or.inl hempty
        · exact Or.inr fun hseen => hduplicate ⟨hempty, (hmem _).mp hseen⟩
    | checking | connecting | reading | passing _ | finishing | waiting | leaving | exited =>
      cases htakes

/-- What the steps of a run give out, those that give out nothing left out. -/
def given {α : Type} (out : GrpcStopping → GrpcStoppingAction → Option α) (s : GrpcStopping)
    (actions : List GrpcStoppingAction) : List α :=
  (Trajectory.outputs (fun s a => (s.step a).1) out s actions).filterMap id

/-- From states that go together, what the thread passes on is what the fill stream forwards. -/
lemma follows_run {s : GrpcStopping} {g : FillStream} {passed : List V1.ExecutionReport}
    (h : g.Follows s) (hpassed : passed ++ s.passing.toList = g.forwarded)
    (actions : List GrpcStoppingAction) :
    ∃ g', ((given takes s actions).map FillStreamEvent.read).foldlM FillStream.step g = some g' ∧
      g'.Follows (Trajectory.run (fun s a => (s.step a).1) s actions) ∧
      passed ++ given (fun s a => (s.step a).2) s actions ++
        (Trajectory.run (fun s a => (s.step a).1) s actions).passing.toList = g'.forwarded := by
  induction actions generalizing s g passed with
  | nil =>
    exact ⟨g, rfl, h, by rwa [given, Trajectory.outputs, List.filterMap_nil, List.append_nil]⟩
  | cons a actions ih =>
    have hgiven : ∀ {α : Type} (out : GrpcStopping → GrpcStoppingAction → Option α),
        given out s (a :: actions) = (out s a).toList ++ given out (s.step a).1 actions := by
      intro α out
      change (out s a :: Trajectory.outputs _ out (s.step a).1 actions).filterMap id = _
      rw [List.filterMap_cons]
      cases out s a <;> rfl
    rw [hgiven, hgiven]
    cases htakes : s.takes a with
    | none =>
      obtain ⟨hfollows, hpassing⟩ := follows_step h htakes
      obtain ⟨g', hrun, hend, hforwarded⟩ := @ih _ _ (passed ++ (s.step a).2.toList) hfollows
        (by rw [List.append_assoc, hpassing, hpassed])
      exact ⟨g', hrun, hend, by rw [← hforwarded]; simp⟩
    | some report =>
      obtain ⟨g₁, hstep, hfollows, hnone, hforwarded₁⟩ := follows_takes h htakes
      rw [hnone, Option.toList_none, List.append_nil] at hpassed
      obtain ⟨g', hrun, hend, hforwarded⟩ := @ih _ _ (passed ++ (s.step a).2.toList) hfollows
        (by rw [hforwarded₁, ← hpassed, List.append_assoc])
      refine ⟨g', ?_, hend, by rw [← hforwarded]; simp⟩
      rw [Option.toList_some, List.singleton_append, List.map_cons, List.foldlM_cons]
      exact Eq.trans (congrArg (· >>= _) hstep) hrun

/-- **The stream thread of a gateway that stops is the fill stream.**  In every run, `stop()`
included, what it has passed to the handler and what it passes next is what the fill stream forwards
of the reports that were taken. -/
theorem passes_forwarded (actions : List GrpcStoppingAction) :
    ∃ g, ((given takes {} actions).map FillStreamEvent.read).foldlM FillStream.step
        ({} : FillStream).setFillHandler = some g ∧
      given (fun s a => (s.step a).2) {} actions ++
        (Trajectory.run (fun s a => (GrpcStopping.step s a).1) {} actions).passing.toList =
          g.forwarded := by
  have hstart : FillStream.Follows ({} : FillStream).setFillHandler {} :=
    ⟨FillStream.filters_start, rfl⟩
  obtain ⟨g, hrun, -, hforwarded⟩ := @follows_run _ _ [] hstart rfl actions
  exact ⟨g, hrun, hforwarded⟩

end GrpcStopping

end Quarcc
