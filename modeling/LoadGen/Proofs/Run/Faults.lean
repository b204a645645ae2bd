import LoadGen.Proofs.Config.Validation
import LoadGen.Proofs.Run.Barrier
import LoadGen.Proofs.Statistics.Arrival
import LoadGen.Proofs.Worker.Stopping

namespace LoadGen

/-!
# How a run breaks off

Of all the arithmetic that a run does with an accepted configuration, one sum can leave its range: the
end of the run, which is the start plus the duration.  Any duration but none is accepted, and the clock
ends.

* `Rig.Reached.length_added_lt` — the collector adds no more samples than a counter can count;
* `Controller.Stage.wrong?`, `Controller.Stage.counts?` — what has gone wrong by a stage, and the counts
  that were read;
* `Controller.overflow_of_broken`, `Controller.counts_of_step` — a step breaks off at the launch only;
* `Run.Spared` — what holds of every run because of that;
* `Run.breaks_off_only_at_launch` — when the run of an accepted configuration breaks off;
* `Run.breaks_off_after_start` — an accepted configuration whose run does.
-/

/-! ### Sums that stay in their range -/

namespace Aggregator

/-- A step that always has an answer is refused under a spoiled lock only. -/
theorem refused_of_under {α : Type} {a a' : Aggregator} {step : Tally → Except Fault (Tally × α)}
    {failure : Failure RunError} (fine : ∃ answer, step a.tally = .ok answer)
    (h : a.under step = (a', .error failure)) : failure = .refused .poisoned := by
  obtain ⟨answer, fine⟩ := fine
  unfold under at h
  split at h
  · cases h
    rfl
  · rw [fine] at h
    cases h

end Aggregator

namespace RunReport

/-- A report whose counts add up to a word has a total and a share of errors. -/
theorem exists_figures (report : RunReport) (few : report.success + report.error < wordCount) :
    ∃ total rate, report.total = .ok total ∧ report.errorRate = .ok rate := by
  have total : report.total = .ok (report.success + report.error) :=
    addWord_eq_ok_iff.mpr ⟨few, rfl⟩
  refine ⟨_, if report.success + report.error = 0 then 0 else
    Binary64.div (Binary64.ofNat report.error) (Binary64.ofNat (report.success + report.error)), total, ?_⟩
  unfold errorRate
  rw [total]
  show (if _ then _ else _) = _
  split <;> rfl

end RunReport

namespace Rig

variable {start r r' : Rig} {j : List Act} {capacity : Nat} {samples : List Sample}

/-- A step of the collector adds a sample only if it can be counted. -/
theorem length_added_of_collector {s s' : Shared} {c c' : Collector} {told : List Collector.Act}
    (h : s.aggregator.tally.IsOf capacity samples) (few : samples.length < wordCount)
    (move : Collector.Move s c told s' c') :
    (samples ++ Collector.added told).length < wordCount := by
  cases move with
  | @added _ _ _ sample _ at_ fine =>
    have room := (Tally.append_eq_ok fine).1
    rw [h.seen_eq] at room
    rw [show Collector.added [.added sample] = [sample] from rfl, List.length_append]
    exact room
  | looked | took | passed | turned | drained | rested | exited | failed | woke =>
    rw [show Collector.added _ = [] from rfl, List.append_nil]
    exact few

/-- The collector adds no more samples than a counter can count. -/
theorem Reached.length_added_lt (h : Reached start j r)
    (empty : start.shared.aggregator.tally.IsOf capacity []) : (added j).length < wordCount := by
  induction h with
  | start => decide
  | @next past r r' deed before now ih =>
    have tally : r.shared.aggregator.tally.IsOf capacity (added past) := Reached.isOf before empty
    rw [added_append]
    -- Only the tasks add samples, and of them only the collector.
    by_cases task : ∃ label, deed = .task label
    · obtain ⟨label, rfl⟩ := task
      show (added past ++ added (r.taskActs label)).length < wordCount
      obtain ⟨nanos, told, -⟩ | ⟨index, w, event, shared, w', -, -, told, -⟩ |
        ⟨c, event, shared, c', -, moved, told, -⟩ := step_cases now
      · rw [told, show added [] = [] from rfl, List.append_nil]
        exact ih
      · rw [told, added_worker, List.append_nil]
        exact ih
      · rw [told, added_collector]
        exact length_added_of_collector tally ih (Collector.move_of_step moved)
    · rw [added_acts fun label same => task ⟨label, same⟩, List.append_nil]
      exact ih

end Rig

/-! ### Steps that break off -/

namespace Controller

/-- What has gone wrong by a stage. -/
def Stage.wrong? : Stage → Option (Failure RunError)
  | .finished (.error failure) => some failure
  | stage => stage.failure?

/-- The counts that were read for the report. -/
def Stage.counts? : Stage → Option (Nat × Nat)
  | .auditing _ _ counts | .summarizing _ counts _ => some counts
  | _ => none

theorem counts?_of_isRunning {stage : Stage} (on : stage.isRunning = true) : stage.counts? = none := by
  cases stage with
  | auditing | summarizing => cases on
  | spawning | polling | asking | examining | counting | callingOff | ready | starting | launching
  | planning | resting | reporting | checking | stopping | stamping | pausing | joining | retiring
  | awaiting | tallying | finished => rfl

variable {r r' : Rig} {c c' : Controller} {fault : Fault} {samples : List Sample}

/-- A step of the aggregator that always has an answer is refused under a spoiled lock only. -/
theorem refused_of_aggregate {α : Type} {failure : Failure RunError}
    {read : Aggregator → Aggregator × Except (Failure RunError) α}
    (fine : ∃ step, read r.shared.aggregator = r.shared.aggregator.under step ∧
      ∃ answer, step r.shared.aggregator.tally = .ok answer)
    (h : r.aggregate read = (r', .error failure)) : failure = .refused .poisoned := by
  obtain ⟨step, locked, fine⟩ := fine
  have answer : (read r.shared.aggregator).2 = .error failure := congrArg Prod.snd h
  rw [locked] at answer
  exact Aggregator.refused_of_under fine (Prod.ext rfl answer)

/-- While the run goes on, nothing breaks off but the launch. -/
theorem sound_of_running (h : step r c = some (r', c')) (at_ : c.stage.isRunning = true)
    (on : c'.stage.isRunning = true) : c'.stage.wrong? ≠ some (.broken fault) := by
  intro broken
  cases stage : c.stage with
  | launching =>
    simp only [step, stage, launch, goto, Option.some.injEq] at h
    split at h <;> cases h
    · cases broken
    · cases on
  | resting start deadline wake =>
    -- A rest ends with a look at the counts.
    simp only [step, stage, goto] at h
    split at h
    · cases read : r.aggregate Aggregator.counts with
      | mk r₁ answer =>
        rw [read] at h
        cases answer with
        | ok counts =>
          cases h
          cases broken
        | error failure =>
          cases h
          rw [refused_of_aggregate ⟨_, rfl, _, rfl⟩ read] at broken
          cases broken
    · cases h
  | planning | reporting =>
    simp only [step, stage, goto, Option.some.injEq] at h
    cases h
    cases broken
  | checking =>
    simp only [step, stage, goto, Option.some.injEq] at h
    cases h
    change Stage.wrong? (if _ then _ else _) = _ at broken
    split at broken <;> cases broken
  | stopping =>
    simp only [step, stage, goto, Option.some.injEq] at h
    cases h
    cases on
  | spawning | polling | asking | examining | counting | callingOff | ready | starting | stamping
  | pausing | joining | retiring | awaiting | tallying | auditing | summarizing | finished =>
    rw [stage] at at_
    cases at_

/-- The stamp of the time does not break off. -/
theorem wrong?_of_stamping {start : Nat} {failure : Option (Failure RunError)}
    (at_ : c.stage = .stamping start failure) (h : step r c = some (r', c')) :
    c'.stage.wrong? = failure ∨ c'.stage.wrong? = some (.refused .poisoned) := by
  simp only [step, at_, goto] at h
  cases read : r.aggregate (Aggregator.finish · (.clamped (r.shared.now - start))) with
  | mk r₁ answer =>
    rw [read] at h
    cases answer with
    | ok notice =>
      cases h
      exact .inl rfl
    | error stamped =>
      cases h
      rw [refused_of_aggregate ⟨_, rfl, _, rfl⟩ read]
      exact .inr rfl

/-- Neither reading the counts nor making the report breaks off. -/
theorem sound_of_reading (tally : r.shared.aggregator.tally.IsOf defaultReservoirCapacity samples)
    (few : ∀ counts, c.stage.counts? = some counts → counts.1 + counts.2 < wordCount)
    (at_ : c.stage.isReading = true) (h : step r c = some (r', c')) :
    c'.stage.wrong? ≠ some (.broken fault) := by
  intro broken
  cases stage : c.stage with
  | tallying closing samples =>
    simp only [step, stage, goto] at h
    cases read : r.aggregate Aggregator.counts with
    | mk r₁ answer =>
      rw [read] at h
      cases answer with
      | ok counts =>
        cases h
        cases broken
      | error failure =>
        cases h
        rw [refused_of_aggregate ⟨_, rfl, _, rfl⟩ read] at broken
        cases broken
  | summarizing closing counts dropped =>
    simp only [step, stage, goto, conclude, Option.some.injEq] at h
    cases read : r.aggregate Aggregator.summarize with
    | mk r₁ answer =>
      rw [read] at h
      cases answer with
      | error failure =>
        cases h
        -- The latencies of so many samples add up to a word of 128 bits.
        obtain ⟨summary, fine⟩ := tally.exists_summarize_eq_ok (by decide)
        have answers : (do return (r.shared.aggregator.tally, ← r.shared.aggregator.tally.summarize) :
            Except Fault (Tally × LatencySummary)) = .ok (r.shared.aggregator.tally, summary) := by
          rw [fine]
          rfl
        rw [refused_of_aggregate ⟨_, rfl, _, answers⟩ read] at broken
        cases broken
      | ok latency =>
        obtain ⟨total, rate, sum, share⟩ := RunReport.exists_figures
          ⟨counts.1, counts.2, dropped, closing.elapsed, latency⟩ (few counts (by rw [stage]; rfl))
        simp only [sum, share] at h
        cases h
        cases broken
  | spawning | polling | asking | examining | counting | callingOff | ready | starting | launching
  | planning | resting | reporting | checking | stopping | stamping | pausing | joining | retiring
  | awaiting | auditing | finished =>
    rw [stage] at at_
    cases at_

/-- **A step breaks off at the launch only**, where the end of the run is past the end of the clock. -/
theorem overflow_of_broken (tally : r.shared.aggregator.tally.IsOf defaultReservoirCapacity samples)
    (few : ∀ counts, c.stage.counts? = some counts → counts.1 + counts.2 < wordCount)
    (sound : c.stage.wrong? ≠ some (.broken fault)) (h : step r c = some (r', c'))
    (broken : c'.stage.wrong? = some (.broken fault)) :
    c'.stage = .finished (.error (.broken .instantOverflow)) ∧ fault = .instantOverflow ∧
      r'.shared.now = r.shared.now ∧ clockEnd ≤ r.shared.now + c.config.duration.nanos := by
  have move := move_of_step h
  generalize acts r c = told at move
  cases move with
  | overflowed at_ quiet =>
    cases broken
    refine ⟨rfl, rfl, quiet.now_eq, ?_⟩
    simp only [step, at_, launch, goto, Option.some.injEq] at h
    split at h
    · cases h
    · omega
  | ran at_ _ on _ => exact absurd broken (sound_of_running h at_ on)
  | stamped at_ _ _ _ =>
    rw [at_] at sound
    rcases wrong?_of_stamping at_ h with same | poisoned
    · exact absurd (same.symm.trans broken) sound
    · rw [poisoned] at broken
      cases broken
  | unread at_ _ _ => exact absurd broken (sound_of_reading tally few at_ h)
  | stopped at_ | paused at_ | joined at_ _ _ _ | gaveUp at_ _ _ _ _ | parted at_ _ | retired at_ =>
    -- What has gone wrong before stays what it is.
    rw [at_] at sound
    exact absurd broken sound
  | failed at_ why =>
    rw [at_] at sound
    cases broken
    rcases why with before | ⟨ending, -, collected⟩
    · exact absurd before sound
    · cases ending <;> cases collected
  | spawned at_ _ =>
    rw [at_] at broken
    cases broken
  | manned | polled | asked | doubted | trusted | blamed | surveyed | counted | complete | incomplete
  | calledOff | refused | collected | started | gathered | tallied | agreed | audited | reported =>
    cases broken

/-- Counts that are read add up to a word. -/
theorem counts_of_step (tally : r.shared.aggregator.tally.IsOf defaultReservoirCapacity samples)
    (room : samples.length < wordCount)
    (few : ∀ counts, c.stage.counts? = some counts → counts.1 + counts.2 < wordCount)
    (h : step r c = some (r', c')) :
    ∀ counts, c'.stage.counts? = some counts → counts.1 + counts.2 < wordCount := by
  intro counts read
  have move := move_of_step h
  generalize acts r c = told at move
  cases move with
  | tallied at_ _ =>
    cases read
    exact tally.counts_eq ▸ room
  | agreed at_ _ | audited at_ _ => exact few counts (by rw [at_]; exact read)
  | ran at_ _ on _ =>
    rw [counts?_of_isRunning on] at read
    cases read
  | spawned at_ _ =>
    rw [at_] at read
    cases read
  | manned | polled | asked | doubted | trusted | blamed | surveyed | counted | complete | incomplete
  | calledOff | refused | collected | started | overflowed | stopped | stamped | paused | joined | gaveUp
  | parted | retired | gathered | failed | unread | reported => cases read

/-- The launch breaks off exactly where the end of the run is past the end of the clock. -/
theorem launch_breaks_iff (at_ : c.stage = .launching) :
    (∃ r' c', step r c = some (r', c') ∧ c'.result? = some (.error (.broken .instantOverflow))) ↔
      clockEnd ≤ r.shared.now + c.config.duration.nanos := by
  simp only [step, at_, launch, goto]
  split
  · rename_i within
    constructor
    · rintro ⟨r', c', moved, came⟩
      cases moved
      cases came
    · intro past
      omega
  · rename_i past
    exact ⟨fun _ => by omega, fun _ => ⟨_, _, rfl, rfl⟩⟩

/-- The grace period is one permit period more than three seconds, whatever the plan. -/
theorem grace_nanos (plan : RatePlan) :
    (grace plan).nanos = stopGracePeriod.nanos + nanosPerSec / plan.tokensPerSec := by
  have share : nanosPerSec / plan.tokensPerSec ≤ nanosPerSec := Nat.div_le_self _ _
  have short : stopGracePeriod.nanos + nanosPerSec / plan.tokensPerSec < durationLimit :=
    Nat.lt_of_le_of_lt (Nat.add_le_add_left share _) (by decide)
  unfold grace Duration.clamped
  rw [dif_pos short]

end Controller

/-! ### Runs that break off -/

namespace Run

variable {α : Type} {start r r' : Run} {j : List Rig.Act}

/-- The end of the run is past the end of the clock, for a start that is past by now. -/
def Overruns (r : Run) : Prop :=
  ∃ start ≤ r.rig.shared.now,
    Controller.clockEnd ≤ start + r.controller.config.duration.nanos

/-- Nothing has broken off but a run that ends past the end of the clock, and the counts that were read
    add up to a word. -/
structure Spared (r : Run) : Prop where
  counts : ∀ counts, r.controller.stage.counts? = some counts → counts.1 + counts.2 < wordCount
  broken : ∀ fault, r.controller.stage.wrong? = some (.broken fault) →
    r.controller.stage = .finished (.error (.broken .instantOverflow)) ∧ fault = .instantOverflow ∧
      r.Overruns

/-- A step of a task changes nothing about that: time only passes. -/
theorem Spared.task {label : Rig.Label} (h : Spared r) (moved : r.rig.step label = some r'.rig)
    (same : r'.controller = r.controller) : Spared r' where
  counts := by
    rw [same]
    exact h.counts
  broken fault broken := by
    rw [same] at broken ⊢
    obtain ⟨ended, overflow, start, past, late⟩ := h.broken fault broken
    refine ⟨ended, overflow, start, Nat.le_trans past (Rig.now_le_of_step moved), ?_⟩
    rw [same]
    exact late

/-- A run with an empty tally of the usual capacity is spared at every step. -/
theorem Reached.spared (stage : start.controller.stage = .spawning)
    (empty : start.rig.shared.aggregator.tally.IsOf defaultReservoirCapacity [])
    (h : Reached start j r) : Spared r := by
  induction h with
  | start =>
    refine ⟨fun counts read => ?_, fun fault broken => ?_⟩
    · rw [stage] at read
      cases read
    · rw [stage] at broken
      cases broken
  | @next past r r' label before now ih =>
    have tally : r.rig.shared.aggregator.tally.IsOf defaultReservoirCapacity (Rig.added past) :=
      Rig.Reached.isOf (Reached.rig before) empty
    have room := Rig.Reached.length_added_lt (Reached.rig before) empty
    cases label with
    | rig label =>
      obtain ⟨rig, moved, rfl⟩ := Option.map_eq_some_iff.mp now
      exact ih.task moved rfl
    | controller =>
      obtain ⟨⟨rig, c⟩, moved, rfl⟩ := Option.map_eq_some_iff.mp now
      refine ⟨Controller.counts_of_step tally room ih.counts moved, fun fault broken => ?_⟩
      -- A run that has broken off takes no more steps.
      have sound : r.controller.stage.wrong? ≠ some (.broken fault) := by
        intro broken
        simp only [Controller.step, (ih.broken fault broken).1] at moved
        cases moved
      obtain ⟨ended, overflow, same, late⟩ :=
        Controller.overflow_of_broken tally ih.counts sound moved broken
      refine ⟨ended, overflow, r.rig.shared.now, Nat.le_of_eq same.symm, ?_⟩
      show Controller.clockEnd ≤ r.rig.shared.now + c.config.duration.nanos
      rw [(Controller.move_of_step moved).config_eq]
      exact late

/-- **A run breaks off only at its launch.**  With a configuration that is accepted, every engine is built
    from an entry of the registry, the grace period is a length of time, permits have a space between
    them, and a worker breaks off only in a call of its engine.  The run itself breaks off exactly where
    the start plus the duration is past the end of the clock.  That is found out only when all workers
    have been started. -/
theorem breaks_off_only_at_launch (config : RunConfig) (registry : Registry α) (plan : RatePlan)
    (building : List Notice) (description : String) (labels : List Label) {r : Run}
    (accepted : config.validate registry = .ok plan)
    (done : (begin config plan building description).steps labels = some r) :
    let j := (begin config plan building description).journal labels
    (∃ entry, registry.find? config.engine = some entry) ∧
    (Controller.grace plan).nanos = stopGracePeriod.nanos + nanosPerSec / plan.tokensPerSec ∧
    (∀ i w, r.rig.workers[i]? = some w → 1 ≤ w.limiter.period.nanos ∧
      ∀ message, w.stage = .finished (.panicked message) →
        ∃ act ∈ Rig.ofWorker i j, act.isBreak = true) ∧
    (r.controller.stage = .launching →
      ((∃ r', r.step .controller = some r' ∧
          r'.controller.result? = some (.error (.broken .instantOverflow))) ↔
        Controller.clockEnd ≤ r.rig.shared.now + config.duration.nanos)) ∧
    ∀ fault, r.controller.result? = some (.error (.broken fault)) →
      fault = .instantOverflow ∧ .started ∈ j ∧ r.rig.workers.size = config.threads.toNat ∧
        ∃ start ≤ r.rig.shared.now, Controller.clockEnd ≤ start + config.duration.nanos := by
  intro j
  have new := isNew_fresh sampleQueueCapacity defaultReservoirCapacity config plan building description
  have reached : Reached (begin config plan building description) j r := reached_of_steps done
  have same : r.controller.config = config := reached.settings_eq.1
  refine ⟨?_, Controller.grace_nanos plan, fun i w here => ?_, fun at_ => ?_, fun fault came => ?_⟩
  · have known := Registry.contains_iff.mpr (RunConfig.isRunnable_of_ok accepted).engine
    exact Option.isSome_iff_exists.mp known
  · obtain ⟨plan', life⟩ := (Reached.lives new reached).life i w here
    refine ⟨?_, fun message ended => life.break_of_isBroken (by rw [ended]; rfl)⟩
    rw [life.period_eq]
    exact Limiter.period_pos plan'.tokensPerSec
  · rw [← same, ← Controller.launch_breaks_iff at_]
    constructor
    · rintro ⟨r', now, came⟩
      obtain ⟨⟨rig, c⟩, moved, rfl⟩ := Option.map_eq_some_iff.mp now
      exact ⟨rig, c, moved, came⟩
    · rintro ⟨rig, c, moved, came⟩
      exact ⟨_, Option.map_eq_some_iff.mpr ⟨_, moved, rfl⟩, came⟩
  · have at_ := Controller.stage_of_result? came
    have spared := Reached.spared rfl (Tally.isOf_empty defaultReservoirCapacity) reached
    have barrier := Reached.atBarrier new reached
    obtain ⟨-, overflow, late⟩ := spared.broken fault (by rw [at_]; rfl)
    rw [Overruns, same] at late
    rw [at_] at barrier
    obtain ⟨sized, ⟨-, error, refused, -⟩ | ⟨started, -⟩⟩ := barrier
    · -- Before the start a run is refused, and does not break off.
      cases refused
    · exact ⟨overflow, started, sized, late⟩

/-- Ten operations per second for as many seconds as the clock has. -/
def endless : RunConfig :=
  { engine := "scripted", host := "localhost:0", rate := 10
    duration := ⟨Controller.clockEnd, by decide⟩ }

def endlessPlan : RatePlan :=
  { threadRate := 10, connectionRate := 10, tokensPerSec := 1, batchSize := 10
    tokensPerSec_pos := Nat.one_pos }

/-- The worker executes its first operation, and then the end of the run is to be fixed. -/
def launchLabels : List Label :=
  [.controller, .controller, .rig (.worker 0 .start), .rig (.worker 0 (.opened (.opened true))),
    .rig (.worker 0 .announce), .controller, .controller, .controller, .controller, .controller,
    .controller, .controller, .rig (.worker 0 .release), .rig (.worker 0 .checkStop),
    .rig (.worker 0 .permit), .rig (.worker 0 .recheckStop),
    .rig (.worker 0 (.executed .ok (.clamped 5))), .controller]

theorem breaks_off_only_at_launch_endless :
    ∃ r, (begin endless endlessPlan [] "").steps launchLabels = some r ∧
      r.controller.result? = some (.error (.broken .instantOverflow)) ∧
      .started ∈ (begin endless endlessPlan [] "").journal launchLabels ∧
      r.rig.workers.size = 1 ∧
      ∃ start ≤ r.rig.shared.now, Controller.clockEnd ≤ start + endless.duration.nanos := by
  have able : ((begin endless endlessPlan [] "").steps launchLabels).isSome = true := by rfl
  have done := (Option.some_get able).symm
  have accepted : endless.validate (Registry.ofHistory [("scripted", ())]) = .ok endlessPlan := by rfl
  have came : (((begin endless endlessPlan [] "").steps launchLabels).get able).controller.result? =
      some (.error (.broken .instantOverflow)) := by rfl
  obtain ⟨-, -, -, -, breaks⟩ :=
    breaks_off_only_at_launch endless _ endlessPlan [] "" launchLabels accepted done
  obtain ⟨-, started, sized, late⟩ := breaks _ came
  exact ⟨_, done, came, started, sized, late⟩

/-- **Accepted, and broken off.**  A run of so many seconds is accepted, and breaks off when its worker has
    been started and executes operations. -/
theorem breaks_off_after_start :
    endless.validate (Registry.ofHistory [("scripted", ())]) = .ok endlessPlan ∧
    ∃ r, (begin endless endlessPlan [] "").steps launchLabels = some r ∧
      r.controller.result? = some (.error (.broken .instantOverflow)) ∧
      .worker 0 (.called .execute) ∈ (begin endless endlessPlan [] "").journal launchLabels := by
  have able : ((begin endless endlessPlan [] "").steps launchLabels).isSome = true := by rfl
  exact ⟨by rfl, _, (Option.some_get able).symm, by rfl, by decide⟩

end Run

end LoadGen
