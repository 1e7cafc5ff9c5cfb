import QuarccEngine.Gateways.FillStream
import QuarccEngine.Library.Trajectory

/-!
# Reports that are sent again

Some brokers resend the past few updates when a stream is opened again; that is what the execution
ids are kept for.  The broker's side is a log of reports, each with an id of its own, and a stream
reads it from some position on.  The handler gets every report of the log once and in order, however
often the stream is opened again and wherever it goes on, as long as it reads nothing that lies
further back than there is room for ids.
-/

namespace Quarcc

/-- The stream thread with the log of the broker: a stream has reached the position `next`, and the
reports before `furthest` have been read at least once. -/
structure Redelivery where
  stream : Option FillStream := some ({} : FillStream).setFillHandler
  next : ℕ := 0
  furthest : ℕ := 0

/-- What happens to the stream. -/
inductive RedeliveryAction where
  /-- `Read` returns the next report of the log. -/
  | read
  /-- The stream is opened again, and the broker sends the last `resent` reports once more. -/
  | reconnect (resent : ℕ)

namespace Redelivery

/-- A step of the stream; at the end of the log `Read` waits. -/
def step (log : List V1.ExecutionReport) (d : Redelivery) : RedeliveryAction → Redelivery
  | .read =>
    match log[d.next]? with
    | some report =>
      { stream := d.stream.bind fun g => g.step (.read report)
        next := d.next + 1
        furthest := max d.furthest (d.next + 1) }
    | none => d
  | .reconnect resent =>
    { d with
      stream := d.stream.bind fun g => g.step .reconnect
      next := d.furthest - resent }

/-- The handler has got the reports that were read, each once and in the order of the log. -/
def ForwardedOnce (log : List V1.ExecutionReport) (d : Redelivery) : Prop :=
  ∃ g, d.stream = some g ∧ g.forwarded = log.take d.furthest

/-- A report that is read is new or one of the last `kMaxSeenIds` that were read. -/
def ReadsRecent (d : Redelivery) : RedeliveryAction → Prop
  | .read => d.furthest ≤ d.next + maxSeenIds
  | .reconnect _ => True

instance (d : Redelivery) : (a : RedeliveryAction) → Decidable (d.ReadsRecent a)
  | .read => inferInstanceAs (Decidable (d.furthest ≤ d.next + maxSeenIds))
  | .reconnect _ => inferInstanceAs (Decidable True)

/-- The positions are in the log, and the stream filters. -/
structure Reads (log : List V1.ExecutionReport) (d : Redelivery) : Prop where
  next_le : d.next ≤ d.furthest
  furthest_le : d.furthest ≤ log.length
  filters : ∃ g passed, d.stream = some g ∧ g.Filters passed

variable {log : List V1.ExecutionReport} {d : Redelivery}

/-- A stream that has read nothing. -/
lemma reads_start : Reads log {} :=
  ⟨le_rfl, Nat.zero_le _, _, _, rfl, FillStream.filters_start⟩

/-- A report is read. -/
lemma step_read {report : V1.ExecutionReport} (hreport : log[d.next]? = some report) :
    d.step log .read =
      { stream := d.stream.bind fun g => g.onReport report
        next := d.next + 1
        furthest := max d.furthest (d.next + 1) } := by
  unfold step
  simp only [hreport]
  rfl

/-- At the end of the log nothing is read. -/
lemma step_read_end (hend : log[d.next]? = none) : d.step log .read = d := by
  unfold step
  simp only [hend]

/-- Every step keeps the positions in the log. -/
lemma Reads.step (h : Reads log d) (a : RedeliveryAction) : Reads log (d.step log a) := by
  obtain ⟨g, passed, hstream, hfilters⟩ := h.filters
  cases a with
  | reconnect resent =>
    refine ⟨Nat.sub_le _ _, h.furthest_le, g, passed, ?_, hfilters⟩
    unfold Redelivery.step
    dsimp only
    rw [hstream]
    rfl
  | read =>
    cases hreport : log[d.next]? with
    | none => rwa [step_read_end hreport]
    | some report =>
      have hlt := (List.getElem?_eq_some_iff.mp hreport).1
      obtain ⟨g', hstep, hfilters'⟩ := hfilters.onReport report
      rw [step_read hreport]
      refine ⟨le_max_right _ _, max_le h.furthest_le hlt, g', _, ?_, hfilters'⟩
      dsimp only
      rw [hstream]
      exact hstep

/-- **Step lemma.**  A step forwards the next report of the log and no other, exactly when it reads
nothing that lies too far back. -/
lemma Reads.forwardedOnce_iff (h : Reads log d) (hids : ∀ report ∈ log, report.executionId ≠ "")
    (hnodup : (log.map fun report => report.executionId).Nodup) (honce : d.ForwardedOnce log)
    (a : RedeliveryAction) : (d.step log a).ForwardedOnce log ↔ d.ReadsRecent a := by
  obtain ⟨g, hstream, hforwarded⟩ := honce
  obtain ⟨g₁, passed, hstream₁, hfilters⟩ := h.filters
  obtain rfl : g = g₁ := Option.some.inj (hstream.symm.trans hstream₁)
  obtain rfl : log.take d.furthest = passed := hforwarded.symm.trans hfilters.forwarded
  have hkeys : log.map executionKey =
      (log.map fun report => report.executionId).map some := by
    rw [List.map_map]
    exact List.map_congr_left fun report hreport => if_neg (hids report hreport)
  cases a with
  | reconnect resent =>
    refine iff_of_true ⟨g, ?_, hforwarded⟩ trivial
    unfold Redelivery.step
    dsimp only
    rw [hstream]
    rfl
  | read =>
    cases hreport : log[d.next]? with
    | none =>
      rw [step_read_end hreport]
      refine iff_of_true ⟨g, hstream, hforwarded⟩ ?_
      have hend := List.getElem?_eq_none_iff.mp hreport
      exact (h.furthest_le.trans hend).trans (Nat.le_add_right _ _)
    | some report =>
      obtain ⟨g', hstep, hfilters'⟩ := hfilters.onReport report
      have hforwarded' := hfilters'.forwarded
      have hiff : (d.step log .read).ForwardedOnce log ↔
          g'.forwarded = log.take (max d.furthest (d.next + 1)) := by
        rw [step_read hreport]
        unfold ForwardedOnce
        dsimp only
        rw [hstream]
        constructor
        · rintro ⟨g'', hg'', hlog⟩
          obtain rfl := Option.some.inj (hstep.symm.trans hg'')
          exact hlog
        · exact fun hlog => ⟨g', hstep, hlog⟩
      rw [hiff, hforwarded']
      unfold ReadsRecent
      rcases h.next_le.lt_or_eq with hlt | heq
      · rw [RecentKeys.passNext_again hkeys hnodup h.furthest_le hlt hreport,
          Nat.max_eq_left hlt]
        split_ifs with hle
        · exact iff_of_true rfl hle
        · refine iff_of_false (fun hsame => ?_) hle
          have hlength := congrArg List.length hsame
          simp at hlength
      · rw [← heq, RecentKeys.passNext_next hkeys hnodup hreport, Nat.max_eq_right (Nat.le_succ _)]
        exact iff_of_true rfl (Nat.le_add_right _ _)

end Redelivery

/-- **Reports that are sent again are forwarded once.**  For a broker whose reports have distinct
ids, the handler has got the reports that were read, each once and in the order of the log, in every
state of a run exactly when no report is read that lies further back than the `kMaxSeenIds` last
ones. -/
theorem forwarded_once_iff (log : List V1.ExecutionReport)
    (hids : ∀ report ∈ log, report.executionId ≠ "")
    (hnodup : (log.map fun report => report.executionId).Nodup) (actions : List RedeliveryAction) :
    Trajectory.EveryState (Redelivery.step log) (Redelivery.ForwardedOnce log) {} actions ↔
      Trajectory.AllSteps (Redelivery.step log) Redelivery.ReadsRecent {} actions :=
  Trajectory.everyState_iff_of_invariant (fun _ a h => h.step a)
    (fun _ a h honce => h.forwardedOnce_iff hids hnodup honce a) Redelivery.reads_start
    ⟨_, rfl, rfl⟩

/-- A stream breaks after two reports, and the broker sends both of them again. -/
theorem forwarded_once_resent :
    let log : List V1.ExecutionReport :=
      [{ brokerOrderId := "B1", executionId := "E1" },
        { brokerOrderId := "B1", executionId := "E2" },
        { brokerOrderId := "B2", executionId := "E3" }]
    Trajectory.EveryState (Redelivery.step log) (Redelivery.ForwardedOnce log) {}
      [.read, .read, .reconnect 2, .read, .read, .read] := by
  intro log
  refine (forwarded_once_iff log (by decide) (by decide) _).mpr ?_
  decide

end Quarcc
