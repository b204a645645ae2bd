import LoadGen.Proofs.Run.History

namespace LoadGen

/-!
# The start barrier

The start is given after every worker has told that its engine is open and ready, and no operation
comes before it.  If an engine cannot be opened, the start is never given, and the run ends with the
error of a worker to blame.

* `Run.Blamed` — the errors that a journal justifies before the start;
* `Run.Gate`, `Run.UnderWay` — before the start is given, and after it;
* `Run.AtBarrier` — what holds at a stage of the controller;
* `Run.Reached.atBarrier`, `Run.Reached.ordered` — it holds of every run, and the start stands in its
  place in the journal;
* `Run.start_barrier` — what follows for the start, the operations and the result.
-/

namespace Run

open Controller (Late)

variable {j acts more : List Rig.Act} {r r' : Rig} {threads : Nat}

/-! ### Who is to blame -/

/-- The errors that a journal justifies: the error of a worker whose engine could not be opened, with
    its number, or the end of a worker whose engine broke off while it was opened. -/
inductive Blamed (j : List Rig.Act) : RunError → Prop where
  | refused {id : Nat} {reply : OpenReply} {cause : EngineError}
      (told : .worker id (.opened reply) ∈ j) (refusal : reply.refusal? = some cause) :
      Blamed j (.init id cause)
  | broken {id : Nat} {message : String} (told : .worker id (.opened (.panicked message)) ∈ j) :
      Blamed j (.exited id (panickedReason message))

theorem Blamed.append {error : RunError} (h : Blamed j error) (more : List Rig.Act) :
    Blamed (j ++ more) error := by
  cases h with
  | refused told refusal => exact .refused (List.mem_append_left _ told) refusal
  | broken told => exact .broken (List.mem_append_left _ told)

/-- The end of a task that broke off is described in its own way. -/
theorem panickedReason_ne (message : String) :
    panickedReason message ≠ "exited before becoming ready" := by
  intro same
  unfold panickedReason at same
  have heads : ("task N panicked with message " ++ Text.quote message).toList.head? =
      "exited before becoming ready".toList.head? := by rw [same]
  have first : "task N panicked with message ".toList.head? = some 't' := by decide +kernel
  have other : "exited before becoming ready".toList.head? = some 'e' := by decide +kernel
  rw [String.toList_append, List.head?_append, first, other, Option.some_or] at heads
  exact absurd (Option.some.inj heads) (by decide)

/-- Nobody is blamed with a reason that is not that of a task that broke off. -/
theorem Blamed.ne_exited {error : RunError} {reason : String} (h : Blamed j error)
    (other : ∀ message, panickedReason message ≠ reason) (id : Nat) : error ≠ .exited id reason := by
  intro same
  cases h with
  | refused told refusal => cases same
  | @broken _ message _ => exact other message (RunError.exited.inj same).2

/-! ### What holds at a stage -/

/-- Neither the start nor the stop was given, and nobody was called off. -/
structure Gate (j : List Rig.Act) : Prop where
  unstarted : .started ∉ j
  unstopped : ∀ now, .stopped now ∉ j
  kept : ∀ id now, .calledOff id now ∉ j

/-- The worker with a number has told that it is ready. -/
def ReadyAt (r : Rig) (i : Nat) : Prop := ∃ w, r.workers[i]? = some w ∧ w.ready = true

/-- The start was given, and what has gone wrong since are late failures. -/
structure UnderWay (threads : Nat) (j : List Rig.Act) (r : Rig) (stage : Controller.Stage) : Prop where
  size_eq : r.workers.size = threads
  started : .started ∈ j
  late : ∀ failure, stage.failure? = some failure → Late failure

/-- What holds at a stage of the controller. -/
def AtBarrier (threads : Nat) (j : List Rig.Act) (r : Rig) : Controller.Stage → Prop
  | .spawning => Gate j ∧ r.workers.size ≤ threads
  | .polling _ | .asking _ _ | .examining _ _ => Gate j ∧ r.workers.size = threads
  -- All workers that were counted are ready if as many were ready as were looked at.
  | .counting _ worker ready =>
    (Gate j ∧ r.workers.size = threads) ∧ worker ≤ threads ∧ ready ≤ worker ∧
      (ready = worker → ∀ i < worker, ReadyAt r i)
  | .ready | .starting => (Gate j ∧ r.workers.size = threads) ∧ ∀ i < threads, ReadyAt r i
  | .callingOff error _ => r.workers.size = threads ∧ .started ∉ j ∧ Blamed j error
  | .finished result =>
    r.workers.size = threads ∧
      ((.started ∉ j ∧ ∃ error, result = refuse error ∧ Blamed j error) ∨
        (.started ∈ j ∧ ∀ failure, result = .error failure → Late failure))
  | stage => UnderWay threads j r stage

/-- The start stands behind the answers of all engines, and no operation stands before it. -/
structure Ordered (threads : Nat) (j : List Rig.Act) : Prop where
  opened : .started ∈ j →
    ∀ i < threads, .worker i (.opened (.opened true)) ∈ Rig.upTo .started j
  calm : .started ∈ j → ∀ i, .worker i (.called .execute) ∉ Rig.upTo .started j

/-! ### Facts that later acts cannot change -/

theorem not_mem_append {act : Rig.Act} (old : act ∉ j) (new : act ∉ acts) : act ∉ j ++ acts := by
  intro mem
  exact (List.mem_append.mp mem).elim old new

theorem Gate.append (h : Gate j) (started : .started ∉ acts) (stopped : ∀ now, .stopped now ∉ acts)
    (kept : ∀ id now, .calledOff id now ∉ acts) : Gate (j ++ acts) where
  unstarted := not_mem_append h.unstarted started
  unstopped now := not_mem_append (h.unstopped now) (stopped now)
  kept id now := not_mem_append (h.kept id now) (kept id now)

/-- A worker that has told that it is ready stays so. -/
theorem ReadyAt.reached {i : Nat} (h : ReadyAt r i) (reached : Rig.Reached r acts r') :
    ReadyAt r' i := by
  obtain ⟨w, here, ready⟩ := h
  obtain ⟨w', there, outlasts⟩ := reached.outlasts here
  exact ⟨w', there, outlasts.ready ready⟩

theorem UnderWay.append {stage : Controller.Stage} (h : UnderWay threads j r stage)
    (size : r'.workers.size = r.workers.size) : UnderWay threads (j ++ acts) r' stage where
  size_eq := size.trans h.size_eq
  started := List.mem_append_left _ h.started
  late := h.late

theorem AtBarrier.size_le {stage : Controller.Stage} (h : AtBarrier threads j r stage) :
    r.workers.size ≤ threads := by
  cases stage with
  | spawning => exact h.2
  | polling | asking | examining => exact Nat.le_of_eq h.2
  | counting | ready | starting => exact Nat.le_of_eq h.1.2
  | callingOff | finished => exact Nat.le_of_eq h.1
  | launching | planning | resting | reporting | checking | stopping | stamping | pausing | joining
  | retiring | awaiting | tallying | auditing | summarizing => exact Nat.le_of_eq h.size_eq

/-- The tasks keep what holds at a stage. -/
theorem AtBarrier.task {stage : Controller.Stage} {label : Rig.Label}
    (h : AtBarrier threads j r stage) (moved : r.step label = some r') :
    AtBarrier threads (j ++ r.taskActs label) r' stage := by
  have size := Rig.size_of_step moved
  have reached : Rig.Reached r (r.taskActs label) r' :=
    Rig.reached_of_perform (.task label) moved
  have unstarted : .started ∉ r.taskActs label := Rig.not_mem_taskActs rfl
  have gate (open_ : Gate j) : Gate (j ++ r.taskActs label) :=
    open_.append unstarted (fun _ => Rig.not_mem_taskActs rfl) fun _ _ => Rig.not_mem_taskActs rfl
  cases stage with
  | spawning => exact ⟨gate h.1, size.symm ▸ h.2⟩
  | polling | asking | examining => exact ⟨gate h.1, size.trans h.2⟩
  | counting due worker ready =>
    obtain ⟨⟨open_, sized⟩, within, fewer, all⟩ := h
    exact ⟨⟨gate open_, size.trans sized⟩, within, fewer, fun eq i lt => (all eq i lt).reached reached⟩
  | ready | starting =>
    obtain ⟨⟨open_, sized⟩, all⟩ := h
    exact ⟨⟨gate open_, size.trans sized⟩, fun i lt => (all i lt).reached reached⟩
  | callingOff error worker =>
    obtain ⟨sized, before, blamed⟩ := h
    exact ⟨size.trans sized, not_mem_append before unstarted, blamed.append _⟩
  | finished result =>
    obtain ⟨sized, ⟨before, error, eq, blamed⟩ | ⟨started, late⟩⟩ := h
    · exact ⟨size.trans sized,
        .inl ⟨not_mem_append before unstarted, error, eq, blamed.append _⟩⟩
    · exact ⟨size.trans sized, .inr ⟨List.mem_append_left _ started, late⟩⟩
  | launching | planning | resting | reporting | checking | stopping | stamping | pausing | joining
  | retiring | awaiting | tallying | auditing | summarizing => exact h.append size

/-- A worker that is over although nothing was given yet is to blame. -/
theorem blamed_of_over {i : Nat} {w : Worker} (open_ : Gate j) (lives : Rig.Lives j r)
    (heeds : Rig.Heeds j r) (here : r.workers[i]? = some w) (gone : w.isOver = true) :
    Blamed j (Controller.readinessError i w) := by
  obtain ⟨plan, life⟩ := lives.life i w here
  cases stage : w.stage with
  | cancelled =>
    -- Only a worker that is called off gets there.
    obtain ⟨now, mem⟩ := lives.aborting i w here (life.aborting_of_cancelled stage)
    exact absurd mem (open_.kept i now)
  | finished ending =>
    have story := life.story
    rw [stage] at story
    have never (phase : Phase) : .released phase ∉ Rig.ofWorker i j := by
      rw [Rig.mem_ofWorker]
      exact heeds.held open_.unstarted open_.unstopped i phase
    obtain ⟨reply, cause, told, refusal, rfl⟩ | ⟨message, told, rfl⟩ := story.unreleased never
    · simp only [Controller.readinessError, stage]
      exact .refused (Rig.mem_ofWorker.mp told) refusal
    · simp only [Controller.readinessError, stage]
      exact .broken (Rig.mem_ofWorker.mp told)
  | spawned | opening | announcing | waiting | between | pacing | permitted | executing | sending
  | closing => simp [Worker.isOver, stage] at gone

theorem AtBarrier.underWay {stage : Controller.Stage} (h : AtBarrier threads j r stage)
    (running : stage.isRunning = true) : UnderWay threads j r stage := by
  cases stage with
  | launching | planning | resting | reporting | checking | stopping => exact h
  | _ => cases running

theorem AtBarrier.of_isRunning {stage : Controller.Stage} (running : stage.isRunning = true)
    (under : UnderWay threads j r stage) : AtBarrier threads j r stage := by
  cases stage with
  | launching | planning | resting | reporting | checking | stopping => exact under
  | _ => cases running

theorem AtBarrier.underWay_of_reading {stage : Controller.Stage} (h : AtBarrier threads j r stage)
    (reading : stage.isReading = true) : UnderWay threads j r stage := by
  cases stage with
  | tallying | summarizing => exact h
  | _ => cases reading

/-- A collector that has ended in no regular way means a late failure. -/
theorem late_of_ending {ending : CollectorEnding} {failure : Failure RunError}
    (manned : Rig.Manned j r) (ended : r.collector.bind Collector.ending? = some ending)
    (means : Controller.collectedOf ending = .error failure) : Late failure := by
  obtain ⟨c, here, ended⟩ := Option.bind_eq_some_iff.mp ended
  have at_ := Collector.stage_of_ending? ended
  cases ending with
  | collected samples => cases means
  | failed error =>
    rw [(manned.life c here).failed_eq at_] at means
    cases means
    exact .poisoned
  | panicked message =>
    cases means
    exact .collector _

/-- The controller keeps what holds at a stage. -/
theorem AtBarrier.move {c c' : Controller} (lives : Rig.Lives j r) (heeds : Rig.Heeds j r)
    (manned : Rig.Manned j r) (h : AtBarrier threads j r c.stage)
    (threads_eq : c.config.threads.toNat = threads) (move : Controller.Move r c acts r' c') :
    AtBarrier threads (j ++ acts) r' c'.stage := by
  have onward {stage₀ stage : Controller.Stage} (under : UnderWay threads j r stage₀)
      (size : r'.workers.size = r.workers.size)
      (late : ∀ failure, stage.failure? = some failure → Late failure) :
      UnderWay threads (j ++ acts) r' stage :=
    ⟨size.trans under.size_eq, List.mem_append_left _ under.started, late⟩
  cases move with
  | spawned at_ room =>
    rw [at_] at h ⊢
    rw [List.append_nil]
    refine ⟨h.1, ?_⟩
    rw [Rig.spawn, Array.size_push, Controller.workers_foldl_tell]
    omega
  | manned at_ full =>
    rw [at_] at h
    rw [List.append_nil]
    exact ⟨h.1, Nat.le_antisymm h.2 (threads_eq ▸ full)⟩
  | polled at_ | asked at_ _ _ | doubted at_ _ _ | trusted at_ _ _ =>
    rw [at_] at h
    rw [List.append_nil]
    exact h
  | blamed at_ here gone =>
    rw [at_] at h
    have blamed := blamed_of_over h.1 lives heeds here gone
    exact ⟨h.2, not_mem_append h.1.unstarted (by simp), blamed.append _⟩
  | surveyed at_ none =>
    have open_ : Gate j ∧ r.workers.size = threads := by
      rcases at_ with at_ | at_ <;> rw [at_] at h <;> exact h
    rw [List.append_nil]
    exact ⟨open_, Nat.zero_le _, Nat.le_refl _, fun _ i lt => absurd lt (Nat.not_lt_zero i)⟩
  | @counted due worker ready w at_ here =>
    rw [at_] at h
    obtain ⟨open_, within, fewer, all⟩ := h
    have lt : worker < r.workers.size := (Array.getElem?_eq_some_iff.mp here).1
    rw [List.append_nil]
    refine ⟨open_, open_.2 ▸ lt, ?_, fun eq i below => ?_⟩
    · split <;> omega
    · -- The count keeps up only if this worker was ready too.
      split at eq
      · rename_i told
        obtain before | same := Nat.lt_succ_iff_lt_or_eq.mp below
        · exact all (Nat.succ.inj eq) i before
        · exact same ▸ ⟨w, here, told⟩
      · omega
  | complete at_ none all =>
    rw [at_] at h
    -- As many workers were ready as there are, so none of those looked at was not.
    obtain ⟨open_, within, fewer, ready⟩ := h
    have past := Array.getElem?_eq_none_iff.mp none
    rw [List.append_nil]
    refine ⟨open_, fun i lt => ?_⟩
    exact ready (by omega) i (by omega)
  | incomplete at_ =>
    rw [at_] at h
    rw [List.append_nil]
    exact h.1
  | @calledOff error worker at_ here =>
    rw [at_] at h
    obtain ⟨sized, unstarted, blamed⟩ := h
    refine ⟨(Rig.size_abort r worker).trans sized, not_mem_append unstarted ?_, blamed.append _⟩
    intro mem
    cases Rig.mem_abort mem
  | refused at_ none =>
    rw [at_] at h
    obtain ⟨sized, unstarted, blamed⟩ := h
    rw [List.append_nil]
    exact ⟨sized, .inl ⟨unstarted, _, rfl, blamed⟩⟩
  | collected at_ =>
    rw [at_] at h
    obtain ⟨⟨open_, sized⟩, all⟩ := h
    have same : r.collect.workers = r.workers := by
      unfold Rig.collect
      split <;> rfl
    rw [List.append_nil]
    refine ⟨⟨open_, same ▸ sized⟩, fun i lt => ?_⟩
    rw [ReadyAt, same]
    exact all i lt
  | started at_ =>
    rw [at_] at h
    have given : .started ∈ j ++ [.started] := List.mem_append_right _ (List.mem_singleton_self _)
    exact ⟨h.1.2, given, Controller.Stage.late_of_none rfl⟩
  | ran at_ quiet on late =>
    have under := h.underWay at_
    have size := congrArg Array.size quiet.workers_eq
    exact .of_isRunning on (onward under size late)
  | overflowed at_ quiet =>
    rw [at_] at h
    refine ⟨(congrArg Array.size quiet.workers_eq).trans h.size_eq,
      .inr ⟨List.mem_append_left _ h.started, ?_⟩⟩
    rintro _ ⟨⟩
    exact .broken _
  | stopped at_ =>
    rw [at_] at h
    exact onward h rfl h.late
  | stamped at_ quiet none late =>
    rw [at_] at h
    refine onward h (congrArg Array.size quiet.workers_eq) fun wrong eq => ?_
    exact (late wrong eq).elim (h.late wrong) id
  | paused at_ =>
    rw [at_] at h
    exact onward h rfl h.late
  | joined at_ here gone quiet =>
    rw [at_] at h
    exact onward h (congrArg Array.size quiet.workers_eq) h.late
  | gaveUp at_ here alive late quiet =>
    rw [at_] at h
    refine onward h ?_ h.late
    rw [Rig.setWorker, Array.size_setIfInBounds, quiet.workers_eq]
  | parted at_ none =>
    rw [at_] at h
    exact onward h rfl h.late
  | retired at_ =>
    rw [at_] at h
    exact onward h rfl h.late
  | gathered at_ fine ended =>
    rw [at_] at h
    exact onward h rfl (Controller.Stage.late_of_none rfl)
  | failed at_ why =>
    rw [at_] at h
    refine ⟨h.size_eq, .inr ⟨List.mem_append_left _ h.started, ?_⟩⟩
    rintro _ ⟨⟩
    -- What went wrong earlier goes before what the end of the collector means.
    obtain early | ⟨ending, ended, means⟩ := why
    · exact h.late _ early
    · exact late_of_ending manned ended means
  | tallied at_ quiet =>
    rw [at_] at h
    exact onward h (congrArg Array.size quiet.workers_eq) (Controller.Stage.late_of_none rfl)
  | agreed at_ equal =>
    rw [at_] at h
    exact onward h rfl (Controller.Stage.late_of_none rfl)
  | audited at_ unequal =>
    rw [at_] at h
    exact onward h rfl (Controller.Stage.late_of_none rfl)
  | unread at_ quiet late =>
    have under := h.underWay_of_reading at_
    refine ⟨(congrArg Array.size quiet.workers_eq).trans under.size_eq,
      .inr ⟨List.mem_append_left _ under.started, ?_⟩⟩
    rintro _ ⟨⟩
    exact late
  | reported at_ quiet success error lost =>
    rw [at_] at h
    refine ⟨(congrArg Array.size quiet.workers_eq).trans h.size_eq,
      .inr ⟨List.mem_append_left _ h.started, fun failure same => ?_⟩⟩
    cases same

end Run

/-- The start is given at one stage only. -/
theorem Controller.Move.started_of_mem {r r' : Rig} {c c' : Controller} {acts : List Rig.Act}
    (move : Move r c acts r' c') (mem : .started ∈ acts) : c.stage = .starting ∧ acts = [.started] := by
  cases move with
  | started at_ => exact ⟨at_, rfl⟩
  | calledOff => cases Rig.mem_abort mem
  | retired =>
    simp only [Rig.acts] at mem
    split at mem <;> simp at mem
  | _ => simp at mem

namespace Run

variable {j acts : List Rig.Act} {start r r' : Run}

theorem starting_of_mem {label : Label} (now : r.step label = some r')
    (mem : .started ∈ r.acts label) :
    r.controller.stage = .starting ∧ r.acts label = [.started] := by
  obtain ⟨task, told, -, -⟩ | move := step_cases now
  · rw [told] at mem
    exact absurd mem (Rig.not_mem_taskActs rfl)
  · exact move.started_of_mem mem

/-- **At every stage the controller is as far as the workers are.** -/
theorem Reached.atBarrier (new : IsNew start) (h : Reached start j r) :
    AtBarrier start.controller.config.threads.toNat j r.rig r.controller.stage := by
  induction h with
  | start =>
    rw [new.stage]
    refine ⟨⟨by simp, by simp, by simp⟩, ?_⟩
    rw [new.workers]
    exact Nat.zero_le _
  | next before now ih =>
    obtain ⟨task, told, moved, same⟩ | move := step_cases now
    · rw [told, same]
      exact ih.task moved
    · have settings := (Reached.settings_eq before).1
      exact ih.move (Reached.lives new before) (Reached.heeds new before) (Reached.manned new before)
        (congrArg (fun config : RunConfig => config.threads.toNat) settings) move

/-- Operations come after the start only. -/
theorem Reached.started_of_execute (new : IsNew start) (h : Reached start j r) {i : Nat}
    (execute : .worker i (.called .execute) ∈ j) : .started ∈ j := by
  have told := Rig.mem_ofWorker.mpr execute
  obtain ⟨w, here⟩ := (h.lives new).exists_of_mem execute
  obtain ⟨plan, life⟩ := (h.lives new).life i w here
  exact (h.heeds new).released i (Rig.mem_ofWorker.mp (life.story.released_of_execute told))

/-- At the moment of the start all engines have answered, and nothing has been executed. -/
theorem Reached.ordered_of_starting (new : IsNew start) (h : Reached start j r)
    (at_ : r.controller.stage = .starting) :
    Ordered start.controller.config.threads.toNat (j ++ [.started]) := by
  have stage := h.atBarrier new
  rw [at_] at stage
  obtain ⟨⟨gate, -⟩, ready⟩ := stage
  have past : Rig.upTo .started (j ++ [.started]) = j := Rig.upTo_append_cons gate.unstarted []
  refine ⟨fun _ i lt => ?_, fun _ i => ?_⟩
  · rw [past]
    obtain ⟨w, here, told⟩ := ready i lt
    obtain ⟨plan, life⟩ := (h.lives new).life i w here
    exact Rig.mem_ofWorker.mp (life.story.opened_of_ready told)
  · rw [past]
    intro execute
    exact gate.unstarted (h.started_of_execute new execute)

/-- **The start has its place in the journal.** -/
theorem Reached.ordered (new : IsNew start) (h : Reached start j r) :
    Ordered start.controller.config.threads.toNat j := by
  induction h with
  | start => exact ⟨by simp, by simp⟩
  | @next past s s' label before now ih =>
    by_cases early : .started ∈ past
    · -- What stands before the start stays as it is.
      have same := Rig.upTo_append early (acts s label)
      exact ⟨fun _ => same ▸ ih.opened early, fun _ => same ▸ ih.calm early⟩
    · by_cases fresh : .started ∈ acts s label
      · obtain ⟨at_, eq⟩ := starting_of_mem now fresh
        rw [eq]
        exact Reached.ordered_of_starting new before at_
      · have never : .started ∉ past ++ acts s label := not_mem_append early fresh
        exact ⟨fun mem => absurd mem never, fun mem => absurd mem never⟩

/-! ### The start, the operations and the result -/

/-- **The start barrier is exact.**  The start is given only after every worker has told that its
    engine is open and ready, and nothing is executed before.  If some engine answers otherwise, the
    start is never given, nothing is ever executed, and a run that ends does so with the error of a
    worker to blame.  No run ends with a worker that ended before it was ready in a regular way. -/
theorem start_barrier (queueCapacity reservoirCapacity : Nat) (config : RunConfig) (plan : RatePlan)
    (building : List Notice) (description : String) (labels : List Label) {r : Run}
    (done : (fresh queueCapacity reservoirCapacity config plan building description).steps labels =
      some r) :
    let j := (fresh queueCapacity reservoirCapacity config plan building description).journal labels
    (.started ∈ j → ∀ i < config.threads.toNat,
      .worker i (.opened (.opened true)) ∈ Rig.upTo .started j) ∧
    (∀ i, .worker i (.called .execute) ∉ Rig.upTo .started j) ∧
    ((∃ i reply, .worker i (.opened reply) ∈ j ∧ reply ≠ .opened true) →
      .started ∉ j ∧ (∀ i, .worker i (.called .execute) ∉ j) ∧
        ∀ result, r.controller.result? = some result →
          ∃ error, result = refuse error ∧ Blamed j error) ∧
    ∀ id, r.controller.result? ≠ some (refuse (.exited id "exited before becoming ready")) := by
  intro j
  have new := isNew_fresh queueCapacity reservoirCapacity config plan building description
  have reached := reached_of_steps done
  have ordered := reached.ordered new
  have stage := reached.atBarrier new
  refine ⟨ordered.opened, fun i => ?_, ?_, fun id same => ?_⟩
  · by_cases started : .started ∈ j
    · exact ordered.calm started i
    · -- Without a start the journal is all that is before it, and nothing is executed.
      rw [Rig.upTo_eq_self started]
      intro execute
      exact started (reached.started_of_execute new execute)
  · rintro ⟨i, reply, told, other⟩
    have unstarted : .started ∉ j := by
      intro started
      -- The worker would have answered twice: as it did, and that it is ready.
      obtain ⟨w, here⟩ := (reached.lives new).exists_of_mem told
      have lt : i < config.threads.toNat :=
        Nat.lt_of_lt_of_le (Array.getElem?_eq_some_iff.mp here).1 stage.size_le
      have ready := (Rig.isPrefix_upTo .started j).subset (ordered.opened started i lt)
      obtain ⟨plan, life⟩ := (reached.lives new).life i w here
      exact other (life.story.opened_unique (Rig.mem_ofWorker.mpr told) (Rig.mem_ofWorker.mpr ready))
    refine ⟨unstarted, fun i execute => unstarted (reached.started_of_execute new execute), ?_⟩
    intro result came
    rw [Controller.stage_of_result? came] at stage
    obtain ⟨-, ⟨-, blamed⟩ | ⟨started, -⟩⟩ := stage
    · exact blamed
    · exact absurd started unstarted
  · rw [Controller.stage_of_result? same] at stage
    obtain ⟨-, ⟨-, error, eq, blamed⟩ | ⟨-, late⟩⟩ := stage
    · cases eq
      exact blamed.ne_exited panickedReason_ne id rfl
    · cases late _ rfl

/-- A run of two workers with a plan of one operation in a second. -/
def pair : Run :=
  fresh 1 1 { engine := "scripted", host := "localhost:0", threads := 2 }
    { threadRate := 1, connectionRate := 1, tokensPerSec := 1, batchSize := 1
      tokensPerSec_pos := Nat.one_pos } [] ""

/-- The second of two workers opens its engine and finds that it is not ready. -/
def refusedLabels : List Label :=
  [.controller, .controller, .controller, .rig (.worker 0 .start), .rig (.worker 1 .start),
    .rig (.worker 0 (.opened (.opened true))), .rig (.worker 1 (.opened (.opened false))),
    .controller, .rig (.worker 0 .announce), .rig (.worker 1 .closed), .controller, .controller,
    .controller, .controller, .controller, .controller]

theorem start_barrier_refusedLabels :
    ∃ r, pair.steps refusedLabels = some r ∧ .started ∉ pair.journal refusedLabels ∧
      ∃ error, r.controller.result? = some (refuse error) ∧
        Blamed (pair.journal refusedLabels) error := by
  have able : (pair.steps refusedLabels).isSome = true := by rfl
  have done := (Option.some_get able).symm
  obtain ⟨-, -, refused, -⟩ := start_barrier _ _ _ _ _ _ refusedLabels done
  have told : .worker 1 (.opened (.opened false)) ∈ pair.journal refusedLabels := by decide
  obtain ⟨unstarted, -, blamed⟩ := refused ⟨1, _, told, nofun⟩
  have came : ((pair.steps refusedLabels).get able).controller.result? =
      some (refuse (.init 1 .notReady)) := by rfl
  obtain ⟨error, eq, blamed⟩ := blamed _ came
  exact ⟨_, done, unstarted, error, eq ▸ came, blamed⟩

end Run

end LoadGen
