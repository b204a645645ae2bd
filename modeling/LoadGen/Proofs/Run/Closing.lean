import LoadGen.Proofs.Run.Barrier
import LoadGen.Validate

namespace LoadGen

/-!
# Engines are closed

When a run has ended, every worker is over or is being called off, and the engine of a worker that was
left to end by itself has been closed exactly once, unless opening it broke off: then it is never closed.
Workers are called off for two reasons only: the start was never given, or they were still busy a whole
grace period after the stop.

* `Run.DoneAt` — a worker is over or is being called off;
* `Run.AtClosing` — which workers are done at a stage of the controller, and when the stop was given;
* `Run.Graced` — nobody is called off after the start before the grace period has ended;
* `Run.engines_are_closed` — what follows for a run that has ended;
* `Run.engines_left_open` — the three ways to leave an engine open.
-/

namespace Run

variable {j acts : List Rig.Act} {r r' : Rig} {threads : Nat} {plan : RatePlan}

/-- The worker with a number is over or is being called off. -/
def DoneAt (r : Rig) (i : Nat) : Prop :=
  ∃ w, r.workers[i]? = some w ∧ (w.isOver = true ∨ w.aborting = true)

/-- All workers below a number are done. -/
def DoneBelow (r : Rig) (bound : Nat) : Prop := ∀ i < bound, DoneAt r i

theorem DoneAt.reached {i : Nat} (h : DoneAt r i) (reached : Rig.Reached r acts r') : DoneAt r' i := by
  obtain ⟨w, here, done⟩ := h
  obtain ⟨w', there, outlasts⟩ := reached.outlasts here
  refine ⟨w', there, ?_⟩
  obtain gone | off := done
  · left
    rw [Worker.isOver, outlasts.stage gone]
    exact gone
  · exact .inr (outlasts.aborting off)

theorem DoneBelow.reached {bound : Nat} (h : DoneBelow r bound) (reached : Rig.Reached r acts r') :
    DoneBelow r' bound := fun i lt => (h i lt).reached reached

/-- One more worker is done. -/
theorem DoneBelow.succ {bound : Nat} (h : DoneBelow r bound) (next : DoneAt r bound) :
    DoneBelow r (bound + 1) := by
  intro i lt
  obtain before | same := Nat.lt_succ_iff_lt_or_eq.mp lt
  · exact h i before
  · exact same ▸ next

/-- The stop was given at an instant that is past by now. -/
def StoppedBy (j : List Rig.Act) (now : Nat) : Prop := ∃ stop, .stopped stop ∈ j ∧ stop ≤ now

/-- The stop was given at least a grace period before an instant. -/
def GracedBy (plan : RatePlan) (j : List Rig.Act) (now : Nat) : Prop :=
  ∃ stop, .stopped stop ∈ j ∧ stop + (Controller.grace plan).nanos ≤ now

theorem StoppedBy.append {now later : Nat} (h : StoppedBy j now) (le : now ≤ later)
    (more : List Rig.Act) : StoppedBy (j ++ more) later := by
  obtain ⟨stop, mem, before⟩ := h
  exact ⟨stop, List.mem_append_left _ mem, Nat.le_trans before le⟩

theorem GracedBy.append {now : Nat} (h : GracedBy plan j now) (more : List Rig.Act) :
    GracedBy plan (j ++ more) now := by
  obtain ⟨stop, mem, before⟩ := h
  exact ⟨stop, List.mem_append_left _ mem, before⟩

/-- Which workers are done at a stage of the controller, and when the stop was given. -/
def AtClosing (plan : RatePlan) (j : List Rig.Act) (r : Rig) : Controller.Stage → Prop
  | .callingOff _ worker => DoneBelow r worker
  | .stamping _ _ | .pausing _ => StoppedBy j r.shared.now
  | .joining _ deadline worker => GracedBy plan j deadline ∧ DoneBelow r worker
  | .retiring _ | .awaiting _ | .tallying _ _ | .auditing _ _ _ | .summarizing _ _ _ =>
    DoneBelow r r.workers.size
  | .finished result => (∀ fault, result ≠ .error (.broken fault)) → DoneBelow r r.workers.size
  | _ => True

/-- After the start nobody is called off before a grace period has passed since the stop. -/
def Graced (plan : RatePlan) (j : List Rig.Act) : Prop :=
  .started ∈ j → ∀ i now, .calledOff i now ∈ j → GracedBy plan j now

/-- The tasks keep what holds at a stage. -/
theorem AtClosing.task {stage : Controller.Stage} {label : Rig.Label}
    (h : AtClosing plan j r stage) (moved : r.step label = some r') :
    AtClosing plan (j ++ r.taskActs label) r' stage := by
  have size := Rig.size_of_step moved
  have later := Rig.now_le_of_step moved
  have reached : Rig.Reached r (r.taskActs label) r' :=
    Rig.reached_of_perform (.task label) moved
  cases stage with
  | callingOff error worker => exact h.reached reached
  | stamping | pausing => exact h.append later _
  | joining closing deadline worker => exact ⟨h.1.append _, h.2.reached reached⟩
  | retiring | awaiting | tallying | auditing | summarizing =>
    unfold AtClosing
    rw [size]
    exact h.reached reached
  | finished result =>
    intro returns
    rw [size]
    exact (h returns).reached reached
  | spawning | polling | asking | examining | counting | ready | starting | launching | planning
  | resting | reporting | checking | stopping => trivial

theorem AtClosing.of_isRunning {stage : Controller.Stage} (running : stage.isRunning = true) :
    AtClosing plan j r stage := by
  cases stage with
  | launching | planning | resting | reporting | checking | stopping => trivial
  | _ => cases running

theorem AtClosing.of_isReading {stage : Controller.Stage} (h : AtClosing plan j r stage)
    (reading : stage.isReading = true) : DoneBelow r r.workers.size := by
  cases stage with
  | tallying | summarizing => exact h
  | _ => cases reading

/-- A worker that is to be called off is done from then on. -/
theorem doneAt_setWorker {i : Nat} {w : Worker} (here : r.workers[i]? = some w) :
    DoneAt (r.setWorker i { w with aborting := true }) i := by
  have within : i < r.workers.size := (Array.getElem?_eq_some_iff.mp here).1
  refine ⟨{ w with aborting := true }, ?_, .inr rfl⟩
  exact Array.getElem?_setIfInBounds_self_of_lt within

theorem doneAt_abort {i : Nat} (within : i < r.workers.size) : DoneAt (r.abort i) i := by
  have here := Array.getElem?_eq_getElem within
  by_cases gone : (r.workers[i]).isOver = true
  · rw [Rig.abort_of_isOver here gone]
    exact ⟨_, here, .inl gone⟩
  · rw [Rig.abort_of_alive here (eq_false_of_ne_true gone)]
    exact doneAt_setWorker here

/-- The controller keeps what holds at a stage. -/
theorem AtClosing.move {c c' : Controller} (h : AtClosing plan j r c.stage)
    (plan_eq : c.plan = plan) (move : Controller.Move r c acts r' c') :
    AtClosing plan (j ++ acts) r' c'.stage := by
  have reached := Controller.reached_of_move move
  cases move with
  | spawned at_ room => rw [at_]; trivial
  | manned | polled | asked | doubted | trusted | surveyed | counted | complete | incomplete
  | collected | started => trivial
  | ran at_ quiet on late => exact .of_isRunning on
  | blamed at_ here gone => exact fun i lt => absurd lt (Nat.not_lt_zero i)
  | @calledOff error worker at_ here =>
    rw [at_] at h
    exact (h.reached reached).succ (doneAt_abort here)
  | refused at_ none =>
    rw [at_] at h
    exact fun _ i lt => h i (Nat.lt_of_lt_of_le lt none)
  | overflowed at_ quiet => exact fun returns => absurd rfl (returns _)
  | stopped at_ =>
    exact ⟨r.shared.now, List.mem_append_right _ (List.mem_singleton_self _), Nat.le_refl _⟩
  | stamped at_ quiet none late =>
    rw [at_] at h
    exact h.append (Nat.le_of_eq quiet.now_eq.symm) _
  | @paused closing at_ =>
    -- The grace period is counted from now on, and the stop lies in the past.
    rw [at_] at h
    obtain ⟨stop, mem, before⟩ := h
    refine ⟨⟨stop, List.mem_append_left _ mem, ?_⟩, fun i lt => absurd lt (Nat.not_lt_zero i)⟩
    rw [plan_eq]
    omega
  | joined at_ here gone quiet =>
    rw [at_] at h
    obtain ⟨graced, done⟩ := h
    refine ⟨graced.append _, (done.reached reached).succ ?_⟩
    exact DoneAt.reached ⟨_, here, .inl gone⟩ reached
  | @gaveUp closing deadline worker w r₁ at_ here alive late quiet =>
    rw [at_] at h
    obtain ⟨graced, done⟩ := h
    refine ⟨graced.append _, (done.reached reached).succ ?_⟩
    exact doneAt_setWorker (quiet.workers_eq ▸ here)
  | parted at_ none =>
    rw [at_] at h
    have past := Array.getElem?_eq_none_iff.mp none
    exact fun i lt => h.2 i (Nat.lt_of_lt_of_le lt past)
  | retired at_ | gathered at_ _ _ | agreed at_ _ | audited at_ _ =>
    rw [at_] at h
    exact h.reached reached
  | failed at_ why =>
    rw [at_] at h
    exact fun _ => h
  | tallied at_ quiet =>
    rw [at_] at h
    unfold AtClosing
    rw [quiet.workers_eq]
    exact h.reached reached
  | unread at_ quiet late =>
    intro _
    rw [quiet.workers_eq]
    exact (h.of_isReading at_).reached reached
  | reported at_ quiet success error lost =>
    rw [at_] at h
    intro _
    rw [quiet.workers_eq]
    exact h.reached reached

end Run

/-- A worker is called off while the run has failed, or when the time to wait for it is over. -/
theorem Controller.Move.called_off {r r' : Rig} {c c' : Controller} {acts : List Rig.Act} {i now : Nat}
    (move : Move r c acts r' c') (mem : .calledOff i now ∈ acts) :
    (∃ error, c.stage = .callingOff error i) ∨
      ∃ closing deadline, c.stage = .joining closing deadline i ∧ deadline ≤ now := by
  cases move with
  | calledOff at_ _ =>
    cases Rig.mem_abort mem
    exact .inl ⟨_, at_⟩
  | gaveUp at_ _ _ late _ =>
    cases List.mem_singleton.mp mem
    exact .inr ⟨_, _, at_, late⟩
  | retired =>
    simp only [Rig.acts] at mem
    split at mem <;> simp at mem
  | _ => simp at mem

namespace Run

variable {j : List Rig.Act} {start r : Run}

/-- **At every stage the controller has dealt with the workers it has passed.** -/
theorem Reached.atClosing (new : IsNew start) (h : Reached start j r) :
    AtClosing start.controller.plan j r.rig r.controller.stage := by
  induction h with
  | start =>
    rw [new.stage]
    trivial
  | next before now ih =>
    obtain ⟨task, told, moved, same⟩ | move := step_cases now
    · rw [told, same]
      exact ih.task moved
    · exact ih.move (Reached.settings_eq before).2.1 move

/-- **After the start nobody is called off before the grace period has passed.** -/
theorem Reached.graced (new : IsNew start) (h : Reached start j r) :
    Graced start.controller.plan j := by
  induction h with
  | start => exact fun mem => absurd mem List.not_mem_nil
  | @next past s s' label before now ih =>
    intro started i instant off
    have stage := Reached.atBarrier new before
    obtain old | fresh := List.mem_append.mp off
    · -- Nobody has been called off when the start is given.
      obtain early | given := List.mem_append.mp started
      · exact (ih early i instant old).append _
      · rw [(starting_of_mem now given).1] at stage
        exact absurd old (stage.1.1.kept i instant)
    · obtain ⟨task, told, -, -⟩ | move := step_cases now
      · rw [told] at fresh
        exact absurd fresh (Rig.not_mem_taskActs rfl)
      · obtain ⟨error, at_⟩ | ⟨closing, deadline, at_, late⟩ := move.called_off fresh
        · rw [at_] at stage
          obtain early | given := List.mem_append.mp started
          · exact absurd early stage.2.1
          · rw [(starting_of_mem now given).1] at at_
            cases at_
        · -- It waits for the worker until a deadline that is a grace period after the stop.
          have closed := Reached.atClosing new before
          rw [at_] at closed
          obtain ⟨stop, mem, grace⟩ := closed.1
          exact ⟨stop, List.mem_append_left _ mem, Nat.le_trans grace late⟩

/-- **Engines are closed.**  When a run has ended, with a report or with an error, every engine has been
    closed at most once: never if opening it broke off, and else exactly once unless its worker was called
    off.  That happens only if the start was never given, and then the run ends with the error of a worker
    to blame, or at least a grace period after the stop. -/
theorem engines_are_closed (queueCapacity reservoirCapacity : Nat) (config : RunConfig)
    (plan : RatePlan) (building : List Notice) (description : String) (labels : List Label) {r : Run}
    {result : RunResult}
    (done : (fresh queueCapacity reservoirCapacity config plan building description).steps labels =
      some r)
    (came : r.controller.result? = some result) (returns : ∀ fault, result ≠ .error (.broken fault)) :
    let j := (fresh queueCapacity reservoirCapacity config plan building description).journal labels
    (∀ i < config.threads.toNat,
      (Rig.ofWorker i j).count (.called .close) ≤ 1 ∧
      (∀ message, .worker i (.opened (.panicked message)) ∈ j →
        (Rig.ofWorker i j).count (.called .close) = 0) ∧
      ((∀ message, .worker i (.opened (.panicked message)) ∉ j) → (∀ now, .calledOff i now ∉ j) →
        (Rig.ofWorker i j).count (.called .close) = 1)) ∧
    (.started ∉ j → ∃ error, result = refuse error ∧ Blamed j error) ∧
    (.started ∈ j → ∀ i now, .calledOff i now ∈ j →
      ∃ stop, .stopped stop ∈ j ∧ stop + (Controller.grace plan).nanos ≤ now) := by
  intro j
  have new := isNew_fresh queueCapacity reservoirCapacity config plan building description
  have reached := reached_of_steps done
  have at_ := Controller.stage_of_result? came
  have stage := reached.atBarrier new
  have closing := reached.atClosing new
  rw [at_] at stage closing
  refine ⟨fun i lt => ?_, fun unstarted => ?_, reached.graced new⟩
  · -- A worker that is done and was not called off has ended by itself, with its engine closed.
    obtain ⟨w, here, done⟩ := closing returns i (stage.1.symm ▸ lt)
    obtain ⟨plan', life⟩ := (reached.lives new).life i w here
    have story := life.story
    refine ⟨story.count_close_le, fun message broken => ?_, fun unbroken kept => ?_⟩
    · exact story.count_close_of_broken (Rig.mem_ofWorker.mpr broken)
    have free : w.aborting = false := by
      apply eq_false_of_ne_true
      intro off
      obtain ⟨now, mem⟩ := (reached.lives new).aborting i w here off
      exact kept now mem
    cases ended : w.stage with
    | finished ending =>
      rw [ended] at story
      exact story.count_close_of_finished fun message told => unbroken message (Rig.mem_ofWorker.mp told)
    | cancelled =>
      rw [life.aborting_of_cancelled ended] at free
      cases free
    | spawned | opening | announcing | waiting | between | pacing | permitted | executing | sending
    | closing => simp [Worker.isOver, ended, free] at done
  · obtain ⟨-, ⟨-, blamed⟩ | ⟨started, -⟩⟩ := stage
    · exact blamed
    · exact absurd started unstarted

theorem engines_are_closed_refusedLabels :
    ∃ r, pair.steps refusedLabels = some r ∧
      r.controller.result? = some (refuse (.init 1 .notReady)) ∧
      (Rig.ofWorker 1 (pair.journal refusedLabels)).count (.called .close) = 1 := by
  have able : (pair.steps refusedLabels).isSome = true := by rfl
  have done := (Option.some_get able).symm
  have came : ((pair.steps refusedLabels).get able).controller.result? =
      some (refuse (.init 1 .notReady)) := by rfl
  obtain ⟨closed, -, -⟩ := engines_are_closed _ _ _ _ _ _ refusedLabels done came nofun
  have told : pair.journal refusedLabels =
      [.worker 0 (.called .connect), .worker 1 (.called .connect), .worker 0 (.opened (.opened true)),
        .worker 1 (.opened (.opened false)), .worker 1 (.called .close), .stopped 0,
        .calledOff 0 0] := by rfl
  have unbroken : ∀ message, .worker 1 (.opened (.panicked message)) ∉ pair.journal refusedLabels := by
    rw [told]
    simp
  have kept : ∀ now, .calledOff 1 now ∉ pair.journal refusedLabels := by
    rw [told]
    simp
  obtain ⟨-, -, once⟩ := closed 1 (by decide)
  exact ⟨_, done, came, once unbroken kept⟩

/-! ### Engines that are left open -/

/-- Workers of ten operations in a second each, for half a second. -/
def tens (threads : UInt32) : RunConfig :=
  { engine := "scripted", host := "localhost:0", threads, rate := 10 * threads
    duration := .clamped 500000000 }

def tensPlan : RatePlan :=
  { threadRate := 10, connectionRate := 10, tokensPerSec := 1, batchSize := 10
    tokensPerSec_pos := Nat.one_pos }

/-- The first operation has not returned when the grace period is over. -/
def busyLabels : List Label :=
  [.controller, .controller, .rig (.worker 0 .start), .rig (.worker 0 (.opened (.opened true))),
    .rig (.worker 0 .announce), .controller, .controller, .controller, .controller, .controller,
    .controller, .controller, .rig (.worker 0 .release), .rig (.worker 0 .checkStop),
    .rig (.worker 0 .permit), .rig (.worker 0 .recheckStop), .controller, .controller,
    .rig (.pass 500000000), .controller, .controller, .controller, .controller, .controller,
    .controller, .rig (.pass 4000000000), .controller, .controller, .controller,
    .rig (.collector .look), .rig (.collector .pollSuccess), .rig (.collector .pollError), .controller,
    .controller, .controller, .controller]

/-- Opening the engine breaks off. -/
def brokenLabels : List Label :=
  [.controller, .controller, .rig (.worker 0 .start), .rig (.worker 0 (.opened (.panicked "boom"))),
    .controller, .controller, .controller, .controller, .controller]

/-- **Engines are left open.**  A worker that is busy when the grace period ends never closes its engine,
    though the run ends with a report.  A worker that waits for the start does not when the engine of
    another one is refused, nor does one whose engine breaks off while it is opened. -/
theorem engines_left_open :
    (tens 1).validate (Registry.ofHistory [("scripted", ())]) = .ok tensPlan ∧
    (tens 2).validate (Registry.ofHistory [("scripted", ())]) = .ok tensPlan ∧
    (∃ r report, (begin (tens 1) tensPlan [] "").steps busyLabels = some r ∧
      r.controller.result? = some (.ok report) ∧
      (Rig.ofWorker 0 ((begin (tens 1) tensPlan [] "").journal busyLabels)).count
        (.called .close) = 0) ∧
    (∃ r error, (begin (tens 2) tensPlan [] "").steps refusedLabels = some r ∧
      r.controller.result? = some (refuse error) ∧
      (Rig.ofWorker 0 ((begin (tens 2) tensPlan [] "").journal refusedLabels)).count
        (.called .close) = 0) ∧
    ∃ r error, (begin (tens 1) tensPlan [] "").steps brokenLabels = some r ∧
      r.controller.result? = some (refuse error) ∧
      (Rig.ofWorker 0 ((begin (tens 1) tensPlan [] "").journal brokenLabels)).count
        (.called .close) = 0 := by
  have busy : ((begin (tens 1) tensPlan [] "").steps busyLabels).isSome = true := by rfl
  have barred : ((begin (tens 2) tensPlan [] "").steps refusedLabels).isSome = true := by rfl
  have broken : ((begin (tens 1) tensPlan [] "").steps brokenLabels).isSome = true := by rfl
  refine ⟨by rfl, by rfl, ⟨_, _, (Option.some_get busy).symm, rfl, by decide⟩, ?_, ?_⟩
  · exact ⟨_, _, (Option.some_get barred).symm, rfl, by decide⟩
  · exact ⟨_, _, (Option.some_get broken).symm, rfl, by decide⟩

end Run

end LoadGen
