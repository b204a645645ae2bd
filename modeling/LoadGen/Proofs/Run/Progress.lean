import LoadGen.Proofs.Rig.Aggregator
import LoadGen.Proofs.Run.Timetable
import LoadGen.Validate

namespace LoadGen

/-!
# Lines of progress and the report

A line is what could be read of the tally and of the clock when it was told.  What can be read only grows,
and the report is read last, so no line is behind an earlier one and the report is behind none.

* `Controller.Stage.reading?` — what can be read at a stage;
* `Controller.Ordered` — no line is behind an earlier one, nor is what can be read;
* `Run.IsStamped` — the report bears the stamped time;
* `Run.Unrefused` — what has happened if the counts could not be read;
* `Run.progress_ends_in_order` — the lines of a run and its report;
* `Run.lines_cut_short` — a loop that has fallen behind leaves a line out, or ends with one that is too early.
-/

namespace Progress

/-- A line is not behind another if neither of its counts is less and its time is not shorter. -/
instance : LE Progress :=
  ⟨fun p q => p.success ≤ q.success ∧ p.error ≤ q.error ∧ p.elapsed ≤ q.elapsed⟩

theorem le_refl (p : Progress) : p ≤ p := ⟨Nat.le_refl _, Nat.le_refl _, Nat.le_refl _⟩

theorem le_trans {p q s : Progress} (first : p ≤ q) (next : q ≤ s) : p ≤ s :=
  ⟨Nat.le_trans first.1 next.1, Nat.le_trans first.2.1 next.2.1, Nat.le_trans first.2.2 next.2.2⟩

end Progress

namespace Controller

/-! ### What can be read -/

/-- What could be told at a stage: the counts and the time since the start, until they are read for the
    last time. -/
def Stage.reading? (r : Rig) : Stage → Option Progress
  | .planning start _ | .resting start _ _ | .checking start _ | .stopping start _
  | .stamping start _ =>
    some ⟨r.shared.aggregator.tally.success, r.shared.aggregator.tally.error,
      .clamped (r.shared.now - start)⟩
  | .reporting start _ counts => some ⟨counts.1, counts.2, .clamped (r.shared.now - start)⟩
  | .pausing closing | .joining closing _ _ | .retiring closing | .awaiting closing
  | .tallying closing _ =>
    some ⟨r.shared.aggregator.tally.success, r.shared.aggregator.tally.error, closing.elapsed⟩
  | .auditing closing _ counts | .summarizing closing counts _ =>
    some ⟨counts.1, counts.2, closing.elapsed⟩
  | .finished (.ok report) => some ⟨report.success, report.error, report.elapsed⟩
  | _ => none

theorem reading?_of_isEarly {r : Rig} {stage : Stage} (early : stage.isEarly = true) :
    stage.reading? r = none := by
  cases stage with
  | spawning | polling | asking | examining | counting | callingOff | ready | starting | launching => rfl
  | _ => cases early

theorem reading?_of_unread? {r : Rig} {stage : Stage} {closing : Closing}
    (h : stage.unread? = some closing) :
    stage.reading? r = some ⟨r.shared.aggregator.tally.success, r.shared.aggregator.tally.error,
      closing.elapsed⟩ := by
  cases stage with
  | pausing | joining | retiring | awaiting | tallying =>
    cases h
    rfl
  | _ => cases h

/-- What can be read of one rig can be read of another one later. -/
structure Grown (r r' : Rig) : Prop where
  counted : ∀ v, r.shared.aggregator.tally.counted v ≤ r'.shared.aggregator.tally.counted v
  now : r.shared.now ≤ r'.shared.now

/-- No line is behind an earlier one, and nothing that can be read is behind a line. -/
structure Ordered (r : Rig) (c : Controller) : Prop where
  lines : c.progress.Pairwise fun later earlier => earlier ≤ later
  reading : ∀ reading, c.stage.reading? r = some reading → ∀ line ∈ c.progress, line ≤ reading
  counts : ∀ start deadline counts, c.stage = .reporting start deadline counts →
    counts.1 ≤ r.shared.aggregator.tally.success ∧ counts.2 ≤ r.shared.aggregator.tally.error

section

variable {r r' : Rig} {c c' : Controller}

theorem Grown.reading {stage : Stage} {reading : Progress} (h : Grown r r')
    (now : stage.reading? r' = some reading) :
    ∃ before, stage.reading? r = some before ∧ before ≤ reading := by
  have success := h.counted .success
  have error := h.counted .error
  have longer (start : Nat) := Duration.clamped_le_clamped (Nat.sub_le_sub_right h.now start)
  cases stage with
  | planning | resting | checking | stopping | stamping =>
    cases now
    exact ⟨_, rfl, success, error, longer _⟩
  | reporting =>
    cases now
    exact ⟨_, rfl, Nat.le_refl _, Nat.le_refl _, longer _⟩
  | pausing | joining | retiring | awaiting | tallying =>
    cases now
    exact ⟨_, rfl, success, error, Nat.le_refl _⟩
  | auditing | summarizing => exact ⟨_, now, reading.le_refl⟩
  | finished result =>
    cases result with
    | ok report => exact ⟨_, now, reading.le_refl⟩
    | error failure => cases now
  | spawning | polling | asking | examining | counting | callingOff | ready | starting | launching =>
    cases now

/-- What grows keeps the order. -/
theorem Ordered.grow (h : Ordered r c) (grown : Grown r r') : Ordered r' c where
  lines := h.lines
  reading reading now line mem := by
    obtain ⟨before, was, le⟩ := grown.reading now
    exact Progress.le_trans (h.reading before was line mem) le
  counts start deadline counts at_ := by
    obtain ⟨success, error⟩ := h.counts start deadline counts at_
    exact ⟨Nat.le_trans success (grown.counted .success), Nat.le_trans error (grown.counted .error)⟩

/-- The order is kept where what can be read stays what it was and nothing is told. -/
theorem Ordered.same {stage : Stage} (h : Ordered r c) (same : stage.reading? r = c.stage.reading? r)
    (counts : ∀ start deadline counts, stage = .reporting start deadline counts →
      counts.1 ≤ r.shared.aggregator.tally.success ∧ counts.2 ≤ r.shared.aggregator.tally.error) :
    Ordered r { c with stage } where
  lines := h.lines
  reading reading now := h.reading reading (same ▸ now)
  counts := counts

/-- A turn keeps the order. -/
theorem Ordered.turn (turn : Turn r c c') (h : Ordered r c) : Ordered r c' := by
  cases turn with
  | planned at_ | refused at_ | again at_ | ended at_ => exact h.same (by rw [at_]; rfl) nofun
  | counted at_ =>
    refine h.same (by rw [at_]; rfl) ?_
    rintro _ _ _ ⟨⟩
    exact ⟨Nat.le_refl _, Nat.le_refl _⟩
  | @told start deadline counts at_ =>
    obtain ⟨success, error⟩ := h.counts start deadline counts at_
    -- The new line is what could be read, so it is behind no other.
    have latest := h.reading ⟨counts.1, counts.2, .clamped (r.shared.now - start)⟩ (by rw [at_]; rfl)
    refine ⟨List.pairwise_cons.mpr ⟨latest, h.lines⟩, ?_, nofun⟩
    have since : (⟨counts.1, counts.2, .clamped (r.shared.now - start)⟩ : Progress) ≤
        ⟨r.shared.aggregator.tally.success, r.shared.aggregator.tally.error,
          .clamped (r.shared.now - start)⟩ := ⟨success, error, Nat.le_refl _⟩
    rintro _ ⟨⟩ line mem
    obtain rfl | mem := List.mem_cons.mp mem
    · exact since
    · exact Progress.le_trans (latest line mem) since

/-- A step keeps the order, and the report is behind no line. -/
theorem Ordered.advance (advance : Advance r c c') (blank : c.stage.isEarly = true → c.progress = [])
    (h : Ordered r c) : Ordered r c' := by
  cases advance with
  | prepared at_ on =>
    refine h.same ?_ ?_
    · rw [reading?_of_isEarly on, reading?_of_isEarly at_]
    · rintro _ _ _ rfl
      cases on
  | launched at_ =>
    refine ⟨h.lines, fun _ _ line mem => ?_, nofun⟩
    rw [blank (by rw [at_]; rfl)] at mem
    cases mem
  | turned turn => exact h.turn turn
  | stopped at_ | tallied at_ | audited at_ => exact h.same (by rw [at_]; rfl) nofun
  | stamped at_ elapsed =>
    refine h.same ?_ nofun
    rw [at_]
    show some _ = some _
    rw [elapsed]
  | closed at_ on elapsed =>
    refine h.same ?_ ?_
    · rw [reading?_of_unread? on, reading?_of_unread? at_, elapsed]
    · rintro _ _ _ rfl
      cases on
  | reported at_ success error elapsed =>
    refine h.same ?_ nofun
    rw [at_]
    show some _ = some _
    rw [success, error, elapsed]
  | failed => exact ⟨h.lines, nofun, nofun⟩

/-! ### The stamp -/

theorem sound_of_isEarly {stage : Stage} (early : stage.isEarly = true) :
    stage.wrong? = none ∧ stage.elapsed? = none := by
  cases stage with
  | spawning | polling | asking | examining | counting | callingOff | ready | starting | launching =>
    exact ⟨rfl, rfl⟩
  | _ => cases early

theorem elapsed?_of_unread? {stage : Stage} {closing : Closing} (h : stage.unread? = some closing) :
    stage.elapsed? = some closing.elapsed := by
  cases stage with
  | pausing | joining | retiring | awaiting | tallying =>
    cases h
    rfl
  | _ => cases h

/-- A step that does not stamp the time leaves the stamped time as it is. -/
theorem elapsed?_of_advance (advance : Advance r c c') (sound : c'.stage.wrong? = none)
    (unstamped : ∀ start failure, c.stage ≠ .stamping start failure) :
    c.stage.wrong? = none ∧ c'.stage.elapsed? = c.stage.elapsed? := by
  cases advance with
  | prepared at_ on =>
    have before := sound_of_isEarly at_
    exact ⟨before.1, (sound_of_isEarly on).2.trans before.2.symm⟩
  | launched at_ | tallied at_ | audited at_ =>
    rw [at_]
    exact ⟨rfl, rfl⟩
  | turned turn =>
    cases turn with
    | refused => cases sound
    | planned at_ | counted at_ | told at_ | again at_ | ended at_ =>
      rw [at_]
      exact ⟨rfl, rfl⟩
  | stopped at_ =>
    rw [at_]
    exact ⟨sound, rfl⟩
  | stamped at_ => exact absurd at_ (unstamped _ _)
  | closed at_ on elapsed wrong =>
    refine ⟨wrong ▸ sound, ?_⟩
    rw [elapsed?_of_unread? at_, ← elapsed]
    exact elapsed?_of_unread? on
  | reported at_ _ _ elapsed =>
    rw [at_]
    exact ⟨rfl, congrArg some elapsed⟩
  | failed => cases sound

/-- The loop is left with a failure only if the lock is spoiled. -/
theorem spoiled_of_advance {start : Nat} {failure : Failure RunError} (advance : Advance r c c')
    (at_ : c'.stage = .stopping start (some failure)) :
    failure = .refused .poisoned ∧ r.shared.aggregator.spoiled = true := by
  cases advance with
  | turned turn =>
    cases turn with
    | refused _ off =>
      cases at_
      exact ⟨rfl, off⟩
    | planned | counted | told | again | ended => cases at_
  | @prepared stage _ on | @closed _ _ stage _ on =>
    obtain rfl : stage = _ := at_
    cases on
  | launched | stopped | stamped | tallied | audited | reported | failed => cases at_

end

end Controller

namespace Run

variable {start r r' : Run} {j : List Rig.Act} {label : Label}

/-! ### Runs -/

/-- A run adds nothing to what can be read but samples and time. -/
theorem grown_of_step (now : r.step label = some r') : Controller.Grown r.rig r'.rig := by
  cases label with
  | rig label =>
    obtain ⟨rig, moved, rfl⟩ := Option.map_eq_some_iff.mp now
    exact ⟨Rig.counted_le_of_reached (Rig.reached_of_perform (.task label) moved),
      Rig.now_le_of_step moved⟩
  | controller =>
    obtain ⟨⟨rig, c⟩, moved, rfl⟩ := Option.map_eq_some_iff.mp now
    exact ⟨Rig.counted_le_of_reached (Controller.reached_of_move (Controller.move_of_step moved)),
      Nat.le_of_eq (Controller.now_of_step moved).symm⟩

/-- What is stamped is what the report will say. -/
def IsStamped (r : Run) : Prop :=
  r.controller.stage.wrong? = none →
    r.rig.shared.aggregator.tally.elapsed = r.controller.stage.elapsed?

theorem IsStamped.step (h : r.IsStamped) (now : r.step label = some r') : r'.IsStamped := by
  intro sound
  cases label with
  | rig label =>
    obtain ⟨rig, moved, rfl⟩ := Option.map_eq_some_iff.mp now
    rw [← h sound]
    exact Rig.elapsed_of_step moved
  | controller =>
    obtain ⟨⟨rig, c⟩, moved, rfl⟩ := Option.map_eq_some_iff.mp now
    have advance := Controller.advance_of_step moved
    by_cases stamping : ∃ begun failure, r.controller.stage = .stamping begun failure
    · obtain ⟨begun, failure, at_⟩ := stamping
      refine Controller.stamp_of_step at_ (fun fine => ?_) moved sound
      rw [h (by rw [at_]; exact fine), at_]
      rfl
    · have unstamped : ∀ begun failure, r.controller.stage ≠ .stamping begun failure :=
        fun begun failure at_ => stamping ⟨begun, failure, at_⟩
      obtain ⟨before, same⟩ := Controller.elapsed?_of_advance advance sound unstamped
      show rig.shared.aggregator.tally.elapsed = c.stage.elapsed?
      rw [Controller.tally_of_step moved unstamped, same, h before]

/-- A run whose counts could not be read has all the samples that can be counted. -/
def Unrefused (j : List Rig.Act) (stage : Controller.Stage) : Prop :=
  ∀ begun failure, stage = .stopping begun (some failure) →
    failure = .refused .poisoned ∧ wordCount ≤ (Rig.added j).length + 1

theorem Reached.unrefused (stage : start.controller.stage = .spawning)
    (empty : start.rig.shared.aggregator.tally.IsOf defaultReservoirCapacity [])
    (sound : start.rig.shared.aggregator.spoiled = false) (h : Reached start j r) :
    Unrefused j r.controller.stage := by
  induction h with
  | start =>
    intro begun failure at_
    rw [stage] at at_
    cases at_
  | @next past r r' label before now ih =>
    intro begun failure at_
    have few : failure = .refused .poisoned ∧ wordCount ≤ (Rig.added past).length + 1 := by
      cases label with
      | rig label =>
        obtain ⟨rig, moved, rfl⟩ := Option.map_eq_some_iff.mp now
        exact ih begun failure at_
      | controller =>
        obtain ⟨⟨rig, c⟩, moved, rfl⟩ := Option.map_eq_some_iff.mp now
        obtain ⟨why, off⟩ := Controller.spoiled_of_advance (Controller.advance_of_step moved) at_
        exact ⟨why, Rig.Reached.full_of_spoiled (Reached.rig before) empty (by decide) sound off⟩
    refine ⟨few.1, ?_⟩
    rw [Rig.added_append, List.length_append]
    omega

theorem ordered_of_step (h : Controller.Ordered r.rig r.controller)
    (blank : r.controller.stage.isEarly = true → r.controller.progress = [])
    (now : r.step label = some r') : Controller.Ordered r'.rig r'.controller := by
  have grown := grown_of_step now
  cases label with
  | rig label =>
    obtain ⟨rig, moved, rfl⟩ := Option.map_eq_some_iff.mp now
    exact h.grow grown
  | controller =>
    obtain ⟨⟨rig, c⟩, moved, rfl⟩ := Option.map_eq_some_iff.mp now
    exact (h.advance (Controller.advance_of_step moved) blank).grow grown

/-- Before its first step a run has told nothing and stamped nothing. -/
structure IsBlank (start : Run) : Prop where
  long : 0 < start.controller.config.duration.nanos
  stage : start.controller.stage = .spawning
  progress : start.controller.progress = []
  elapsed : start.rig.shared.aggregator.tally.elapsed = none

theorem IsBlank.isTimed (blank : start.IsBlank) (slack : Slack) : start.IsTimed slack := by
  unfold IsTimed
  rw [blank.stage]
  exact blank.progress

/-- **The lines of a run are in order, and its report bears the stamped time.** -/
theorem Reached.orderly (blank : start.IsBlank) (h : Reached start j r) :
    (∃ slack, r.IsTimed slack) ∧ Controller.Ordered r.rig r.controller ∧ r.IsStamped := by
  induction h with
  | start =>
    refine ⟨⟨{}, blank.isTimed _⟩, ?_, fun _ => ?_⟩
    · refine ⟨?_, fun _ read => ?_, fun _ _ _ at_ => ?_⟩
      · rw [blank.progress]
        exact .nil
      · rw [blank.stage] at read
        cases read
      · rw [blank.stage] at at_
        cases at_
    · rw [blank.elapsed, blank.stage]
      rfl
  | @next past r r' label before now ih =>
    obtain ⟨⟨slack, timed⟩, ordered, stamped⟩ := ih
    have long : 0 < r.controller.config.duration.nanos := by
      rw [(Reached.settings_eq before).1]
      exact blank.long
    refine ⟨⟨_, (timed.step long now).1⟩, ?_, stamped.step now⟩
    exact ordered_of_step ordered (fun early => (AtTime.of_isEarly early).mp timed) now

/-! ### The lines of a run -/

/-- **The progress loop ends, and its lines are in order.**  The loop takes four steps a line, and there are
    no more lines than seconds of the run have begun.  Only a rest holds it up, and no rest is longer than a
    second, so it ends, whatever time passes and whatever the tasks do.  No line is behind an earlier one.

    When the loop has ended there is a line, unless all samples have come that can be counted.  The last
    line was due when it was told, and then the time was found to be up.  Its time is at least that of the
    run, less what passed in between, and it lacks nothing if no line was left out.  No line is left out if
    the loop has not fallen behind by as much as the last interval, and not many are in any case.  A report
    is behind no line, and its time is the one that was stamped. -/
theorem progress_ends_in_order (config : RunConfig) (plan : RatePlan) (building : List Notice)
    (description : String) (labels : List Label) {r : Run} (long : 0 < config.duration.nanos)
    (done : (begin config plan building description).steps labels = some r) :
    let start := begin config plan building description
    let lines := r.controller.progress
    let driven := Driven (start.slack {} labels) config.duration lines
    start.turns labels ≤ 4 * lineCount config.duration ∧
    (r.controller.stage.isLooping = true →
      ∃ nanos ≤ progressInterval.nanos, ∃ r', r.steps [.rig (.pass nanos), .controller] = some r') ∧
    lines.length ≤ lineCount config.duration ∧
    lines.Pairwise (fun later earlier => earlier ≤ later) ∧
    (∀ begun, r.controller.stage = .stopping begun none → driven) ∧
    (∀ begun failure, r.controller.stage = .stopping begun (some failure) →
      failure = .refused .poisoned ∧ wordCount ≤ (Rig.added (start.journal labels)).length + 1) ∧
    ∀ report, r.controller.result? = some (.ok report) →
      driven ∧ (∀ line ∈ lines, line ≤ ⟨report.success, report.error, report.elapsed⟩) ∧
      r.rig.shared.aggregator.tally.elapsed = some report.elapsed := by
  intro start lines driven
  have blank : start.IsBlank := ⟨long, rfl, rfl, rfl⟩
  have reached : Reached start (start.journal labels) r := reached_of_steps done
  obtain ⟨timed, same, less⟩ := (blank.isTimed {}).steps long done
  obtain ⟨-, ordered, stamped⟩ := reached.orderly blank
  have refused := Reached.unrefused rfl (Tally.isOf_empty defaultReservoirCapacity) rfl reached
  have turn := timed.exists_turn
  unfold IsTimed at timed
  rw [show r.controller.config = config from same] at timed
  refine ⟨?_, turn, AtTime.length_le timed, ordered.lines, fun begun at_ => ?_, refused,
    fun report came => ?_⟩
  · have most : start.left = 4 * lineCount config.duration := rfl
    omega
  · rw [at_] at timed
    exact timed.2 rfl
  · have at_ := Controller.stage_of_result? came
    rw [at_] at timed
    refine ⟨timed.2 rfl, ordered.reading _ (by rw [at_]; rfl), ?_⟩
    rw [stamped (by rw [at_]; rfl), at_]
    rfl

/-- One worker, for a second and a half. -/
def briefly : RunConfig :=
  { engine := "scripted", host := "localhost:0", rate := 11, duration := .clamped 1500000000 }

def brieflyPlan : RatePlan :=
  { threadRate := 11, connectionRate := 11, tokensPerSec := 11, batchSize := 1
    tokensPerSec_pos := Nat.succ_pos _ }

def brief : Run := begin briefly brieflyPlan [] ""

/-- The worker is released, and the controller goes to rest. -/
def restingLabels : List Label :=
  [.controller, .controller, .rig (.worker 0 .start), .rig (.worker 0 (.opened (.opened true))),
    .rig (.worker 0 .announce), .controller, .controller, .controller, .controller, .controller,
    .controller, .controller, .controller, .controller, .rig (.worker 0 .release)]

/-- The worker executes one operation, whose sample is collected between the two lines. -/
def briefLabels : List Label :=
  restingLabels ++
  [.rig (.worker 0 .checkStop), .rig (.worker 0 .permit), .rig (.worker 0 .recheckStop),
    .rig (.pass 1000000000), .controller, .controller, .controller, .controller,
    .rig (.worker 0 (.executed .ok (.clamped 7))), .rig (.worker 0 .send), .rig (.collector .look),
    .rig (.collector .pollSuccess), .rig (.collector (.add 0)), .rig (.pass 500000000), .controller,
    .controller, .controller, .controller, .rig (.worker 0 .checkStop), .rig (.worker 0 .closed),
    .controller, .controller, .controller, .controller, .controller, .rig (.collector .pollError),
    .rig (.collector .pollSuccess), .rig (.collector .pollError), .rig (.collector .look),
    .rig (.collector .pollSuccess), .rig (.collector .pollError), .controller, .controller, .controller,
    .controller]

theorem progress_ends_in_order_briefLabels :
    ∃ r report, brief.steps briefLabels = some r ∧ r.controller.result? = some (.ok report) ∧
      r.controller.progress.length = 2 ∧
      (∀ last ∈ r.controller.progress.head?, briefly.duration ≤ last.elapsed) ∧
      (∀ line ∈ r.controller.progress, line ≤ ⟨report.success, report.error, report.elapsed⟩) ∧
      r.rig.shared.aggregator.tally.elapsed = some report.elapsed := by
  have reports : (brief.steps briefLabels).any (·.controller.result?.any (·.isOk)) = true := by
    decide +kernel
  have onTime : (brief.slack {} briefLabels).late = 0 := by rfl
  obtain ⟨r, report, done, came⟩ := exists_report reports
  obtain ⟨-, -, -, -, -, -, ends⟩ := progress_ends_in_order _ _ _ _ briefLabels (by decide) done
  obtain ⟨driven, later, stamped⟩ := ends report came
  have both : r.controller.progress.length = 2 := driven.count_eq (by rw [← brief, onTime]; decide)
  exact ⟨r, report, done, came, both, driven.elapsed_of_all both, later, stamped⟩

/-- The first rest takes some time, and some more passes between its line and the look at the clock. -/
def pausedLabels (rest pause : Nat) : List Label :=
  restingLabels ++ [.rig (.pass rest), .controller, .controller, .rig (.pass pause), .controller]

/-- **Lines are cut short.**  If the first rest ends late and a moment passes after its line, the loop can end
    with a line that is not one of the end of the run.  If it ends on time and half a second passes after its
    line, the loop ends without the second line. -/
theorem lines_cut_short :
    briefly.validate (Registry.ofHistory [("scripted", ())]) = .ok brieflyPlan ∧
    (∃ r line, brief.steps (pausedLabels 1499900000 100000) = some r ∧
      r.controller.stage = .stopping 0 none ∧ r.controller.progress = [line] ∧
      line.elapsed.nanos < briefly.duration.nanos) ∧
    ∃ r line, brief.steps (pausedLabels 1000000000 500000000) = some r ∧
      r.controller.stage = .stopping 0 none ∧ r.controller.progress = [line] ∧
      brief.slack {} (pausedLabels 1000000000 500000000) = { late := 500000000, paused := 500000000 } ∧
      lineCount briefly.duration = 2 := by
  have hasty : (brief.steps (pausedLabels 1499900000 100000)).isSome = true := by rfl
  have idle : (brief.steps (pausedLabels 1000000000 500000000)).isSome = true := by rfl
  have early : (Duration.clamped 1499900000).nanos < briefly.duration.nanos := by decide
  refine ⟨by rfl, ⟨_, ⟨0, 0, .clamped 1499900000⟩, (Option.some_get hasty).symm, rfl, rfl, early⟩, ?_⟩
  exact ⟨_, ⟨0, 0, .clamped 1000000000⟩, (Option.some_get idle).symm, rfl, rfl, rfl, by decide⟩

end Run

end LoadGen
