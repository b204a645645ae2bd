import LoadGen.Controller
import LoadGen.Proofs.Rig.Journal
import LoadGen.Proofs.Worker.Operations

namespace LoadGen

/-!
# The steps of a controller

What a controller does to the rig it leads, and how it goes on.

* `Controller.acts` — what a step adds to the journal of the rig;
* `Controller.Quiet` — the rig as the workers and the collector see it is as it was;
* `Controller.Late` — the failures that can come after the start;
* `Controller.Move` — everything a step can do; `move_of_step` says that there is nothing else;
* `Controller.reached_of_move` — whatever a controller does, it does by deeds.
-/

namespace Controller

/-- What a step adds to the journal of the rig. -/
def acts (r : Rig) (c : Controller) : List Rig.Act :=
  match c.stage with
  | .examining _ worker =>
    match r.workers[worker]? with
    | none => []
    | some w => if w.isOver then [.stopped r.shared.now] else []
  | .callingOff _ worker | .joining _ _ worker => r.acts (.abort worker)
  | .starting => [.started]
  | .stopping _ _ => [.stopped r.shared.now]
  | .retiring _ => r.acts .retire
  | _ => []

/-- What is told before the next worker is spawned. -/
def announced (r : Rig) (c : Controller) : List Notice :=
  c.building ++ if r.workers.isEmpty then [.engineProperties c.description] else []

/-- What a worker that is over has executed. -/
def operationsOf (w : Worker) : Nat := w.stage.operations?.getD 0

/-! ### Quiet changes -/

/-- The rig as its tasks see it is as it was: only the log, the lock of the aggregator, and what is not
    counted there may have changed. -/
structure Quiet (r r' : Rig) : Prop where
  reached : Rig.Reached r [] r'
  workers_eq : r'.workers = r.workers
  collector_eq : r'.collector = r.collector
  signal_eq : r'.shared.signal = r.shared.signal
  now_eq : r'.shared.now = r.shared.now
  counted_eq : ∀ v, r'.shared.aggregator.tally.counted v = r.shared.aggregator.tally.counted v
  dropped_eq : r'.shared.aggregator.dropped = r.shared.aggregator.dropped
  audits_eq : r'.shared.audits = r.shared.audits

namespace Quiet

variable {r r' r'' : Rig}

theorem refl (r : Rig) : Quiet r r := ⟨.start, rfl, rfl, rfl, rfl, fun _ => rfl, rfl, rfl⟩

theorem trans (h : Quiet r r') (next : Quiet r' r'') : Quiet r r'' where
  reached := h.reached.trans next.reached
  workers_eq := next.workers_eq.trans h.workers_eq
  collector_eq := next.collector_eq.trans h.collector_eq
  signal_eq := next.signal_eq.trans h.signal_eq
  now_eq := next.now_eq.trans h.now_eq
  counted_eq v := (next.counted_eq v).trans (h.counted_eq v)
  dropped_eq := next.dropped_eq.trans h.dropped_eq
  audits_eq := next.audits_eq.trans h.audits_eq

/-- Telling something that is no audit. -/
theorem tell (r : Rig) {notice : Notice} (other : notice.isAudit = false) :
    Quiet r (r.tell notice) where
  reached := Rig.reached_of_perform (.tell notice) rfl
  workers_eq := rfl
  collector_eq := rfl
  signal_eq := rfl
  now_eq := rfl
  counted_eq _ := rfl
  dropped_eq := rfl
  audits_eq := by simp [Rig.tell, Shared.tell, Shared.audits, other]

theorem count (r : Rig) : Quiet r (r.aggregate Aggregator.counts).1 where
  reached := Rig.reached_of_perform .count rfl
  workers_eq := rfl
  collector_eq := rfl
  signal_eq := rfl
  now_eq := rfl
  counted_eq := Aggregator.counted_counts _
  dropped_eq := Aggregator.dropped_counts _
  audits_eq := rfl

theorem stamp (r : Rig) (elapsed : Duration) :
    Quiet r (r.aggregate (Aggregator.finish · elapsed)).1 where
  reached := Rig.reached_of_perform (.stamp elapsed) rfl
  workers_eq := rfl
  collector_eq := rfl
  signal_eq := rfl
  now_eq := rfl
  counted_eq := Aggregator.counted_finish _ elapsed
  dropped_eq := Aggregator.dropped_finish _ elapsed
  audits_eq := rfl

theorem summarize (r : Rig) : Quiet r (r.aggregate Aggregator.summarize).1 where
  reached := Rig.reached_of_perform .summarize rfl
  workers_eq := rfl
  collector_eq := rfl
  signal_eq := rfl
  now_eq := rfl
  counted_eq := Aggregator.counted_summarize _
  dropped_eq := Aggregator.dropped_summarize _
  audits_eq := rfl

end Quiet

/-- The failures that can come after the start. -/
inductive Late : Failure RunError → Prop where
  | broken (fault : Fault) : Late (.broken fault)
  | poisoned : Late (.refused .poisoned)
  | collector (reason : String) : Late (.refused (.collector reason))

/-- Whether the start was given and the stop was not. -/
def Stage.isRunning : Stage → Bool
  | .launching | .planning .. | .resting .. | .reporting .. | .checking .. | .stopping .. => true
  | _ => false

/-- Whether the figures of the report are being read. -/
def Stage.isReading : Stage → Bool
  | .tallying .. | .summarizing .. => true
  | _ => false

/-- What has gone wrong while the run went on. -/
def Stage.failure? : Stage → Option (Failure RunError)
  | .stopping _ failure | .stamping _ failure => failure
  | .pausing closing | .joining closing _ _ | .retiring closing | .awaiting closing => closing.failure
  | _ => none

/-- Where nothing has gone wrong, there is no failure that could be other than late. -/
theorem Stage.late_of_none {stage : Stage} (none : stage.failure? = none) :
    ∀ failure, stage.failure? = some failure → Late failure := by
  intro failure same
  rw [none] at same
  cases same

/-- A step of a controller, with what it adds to the journal. -/
inductive Move (r : Rig) (c : Controller) : List Rig.Act → Rig → Controller → Prop where
  | spawned (at_ : c.stage = .spawning) (room : r.workers.size < c.config.threads.toNat) :
      Move r c [] (((c.announced r).foldl Rig.tell r).spawn c.plan) c
  | manned (at_ : c.stage = .spawning) (full : c.config.threads.toNat ≤ r.workers.size) :
      Move r c [] r { c with stage := .polling r.shared.now }
  | polled {due : Nat} (at_ : c.stage = .polling due) :
      Move r c [] r { c with stage := .asking due 0 }
  | asked {due worker : Nat} {w : Worker} (at_ : c.stage = .asking due worker)
      (here : r.workers[worker]? = some w) (ready : w.ready = true) :
      Move r c [] r { c with stage := .asking due (worker + 1) }
  | doubted {due worker : Nat} {w : Worker} (at_ : c.stage = .asking due worker)
      (here : r.workers[worker]? = some w) (unready : w.ready = false) :
      Move r c [] r { c with stage := .examining due worker }
  | trusted {due worker : Nat} {w : Worker} (at_ : c.stage = .examining due worker)
      (here : r.workers[worker]? = some w) (alive : w.isOver = false) :
      Move r c [] r { c with stage := .asking due (worker + 1) }
  | blamed {due worker : Nat} {w : Worker} (at_ : c.stage = .examining due worker)
      (here : r.workers[worker]? = some w) (gone : w.isOver = true) :
      Move r c [.stopped r.shared.now] (r.signal Signal.stop)
        { c with stage := .callingOff (readinessError worker w) 0 }
  | surveyed {due worker : Nat} (at_ : c.stage = .asking due worker ∨ c.stage = .examining due worker)
      (none : r.workers[worker]? = none) :
      Move r c [] r { c with stage := .counting due 0 0 }
  | counted {due worker ready : Nat} {w : Worker} (at_ : c.stage = .counting due worker ready)
      (here : r.workers[worker]? = some w) :
      Move r c [] r
        { c with stage := .counting due (worker + 1) (if w.ready then ready + 1 else ready) }
  | complete {due worker ready : Nat} (at_ : c.stage = .counting due worker ready)
      (none : r.workers[worker]? = none) (all : ready = r.workers.size) :
      Move r c [] (r.tell (.allReady ready)) { c with stage := .ready }
  | incomplete {due worker ready next : Nat} (at_ : c.stage = .counting due worker ready) :
      Move r c [] r { c with stage := .polling next }
  | calledOff {error : RunError} {worker : Nat} (at_ : c.stage = .callingOff error worker)
      (here : worker < r.workers.size) :
      Move r c (r.acts (.abort worker)) (r.abort worker)
        { c with stage := .callingOff error (worker + 1) }
  | refused {error : RunError} {worker : Nat} (at_ : c.stage = .callingOff error worker)
      (none : r.workers.size ≤ worker) :
      Move r c [] r { c with stage := .finished (refuse error) }
  | collected (at_ : c.stage = .ready) : Move r c [] r.collect { c with stage := .starting }
  | started (at_ : c.stage = .starting) :
      Move r c [.started] (r.signal Signal.start) { c with stage := .launching }
  | ran {r' : Rig} {stage : Stage} {progress : List Progress} (at_ : c.stage.isRunning = true)
      (quiet : Quiet r r') (on : stage.isRunning = true)
      (late : ∀ failure, stage.failure? = some failure → Late failure) :
      Move r c [] r' { c with stage, progress }
  | overflowed {r' : Rig} (at_ : c.stage = .launching) (quiet : Quiet r r') :
      Move r c [] r' { c with stage := .finished (.error (.broken .instantOverflow)) }
  | stopped {start : Nat} {failure : Option (Failure RunError)}
      (at_ : c.stage = .stopping start failure) :
      Move r c [.stopped r.shared.now] (r.signal Signal.stop)
        { c with stage := .stamping start failure }
  | stamped {r' : Rig} {start : Nat} {failure : Option (Failure RunError)} {closing : Closing}
      (at_ : c.stage = .stamping start failure) (quiet : Quiet r r') (none : closing.executed = 0)
      (late : ∀ wrong, closing.failure = some wrong → failure = some wrong ∨ Late wrong) :
      Move r c [] r' { c with stage := .pausing closing }
  | paused {closing : Closing} (at_ : c.stage = .pausing closing) :
      Move r c [] r
        { c with stage := .joining closing (r.shared.now + (grace c.plan).nanos) 0 }
  | joined {closing : Closing} {deadline worker : Nat} {w : Worker} {r' : Rig}
      (at_ : c.stage = .joining closing deadline worker) (here : r.workers[worker]? = some w)
      (gone : w.isOver = true) (quiet : Quiet r r') :
      Move r c [] r'
        { c with
          stage := .joining { closing with executed := closing.executed + operationsOf w } deadline
            (worker + 1) }
  | gaveUp {closing : Closing} {deadline worker : Nat} {w : Worker} {r' : Rig}
      (at_ : c.stage = .joining closing deadline worker) (here : r.workers[worker]? = some w)
      (alive : w.isOver = false) (late : deadline ≤ r.shared.now) (quiet : Quiet r r') :
      Move r c [.calledOff worker r.shared.now] (r'.setWorker worker { w with aborting := true })
        { c with stage := .joining closing deadline (worker + 1) }
  | parted {closing : Closing} {deadline worker : Nat}
      (at_ : c.stage = .joining closing deadline worker) (none : r.workers[worker]? = none) :
      Move r c [] r { c with stage := .retiring closing }
  | retired {closing : Closing} (at_ : c.stage = .retiring closing) :
      Move r c (r.acts .retire) r.stopCollector { c with stage := .awaiting closing }
  | gathered {closing : Closing} {samples : Nat} (at_ : c.stage = .awaiting closing)
      (fine : closing.failure = none)
      (ended : r.collector.bind Collector.ending? = some (.collected samples)) :
      Move r c [] r { c with stage := .tallying closing samples }
  | failed {closing : Closing} {failure : Failure RunError} (at_ : c.stage = .awaiting closing)
      (why : closing.failure = some failure ∨ ∃ ending, r.collector.bind Collector.ending? = some ending ∧
        collectedOf ending = .error failure) :
      Move r c [] r { c with stage := .finished (.error failure) }
  | tallied {closing : Closing} {samples : Nat} {r' : Rig} (at_ : c.stage = .tallying closing samples)
      (quiet : Quiet r r') :
      Move r c [] r'
        { c with
          stage := .auditing closing samples
            (r.shared.aggregator.tally.success, r.shared.aggregator.tally.error) }
  | agreed {closing : Closing} {samples : Nat} {counts : Nat × Nat}
      (at_ : c.stage = .auditing closing samples counts)
      (equal : closing.executed = samples + r.shared.aggregator.dropped) :
      Move r c [] r { c with stage := .summarizing closing counts r.shared.aggregator.dropped }
  | audited {closing : Closing} {samples : Nat} {counts : Nat × Nat}
      (at_ : c.stage = .auditing closing samples counts)
      (unequal : closing.executed ≠ samples + r.shared.aggregator.dropped) :
      Move r c []
        (r.tell (.unaccounted closing.executed samples r.shared.aggregator.dropped))
        { c with stage := .summarizing closing counts r.shared.aggregator.dropped }
  | unread {r' : Rig} {failure : Failure RunError} (at_ : c.stage.isReading = true)
      (quiet : Quiet r r') (late : Late failure) :
      Move r c [] r' { c with stage := .finished (.error failure) }
  | reported {closing : Closing} {counts : Nat × Nat} {dropped : Nat} {r' : Rig} {report : RunReport}
      (at_ : c.stage = .summarizing closing counts dropped) (quiet : Quiet r r')
      (success : report.success = counts.1) (error : report.error = counts.2)
      (lost : report.dropped = dropped) :
      Move r c [] r' { c with stage := .finished (.ok report) }

theorem stage_of_result? {c : Controller} {result : RunResult} (h : c.result? = some result) :
    c.stage = .finished result := by
  unfold result? at h
  split at h
  · cases h
    assumption
  · cases h

section Settings

variable {r r' : Rig} {c c' : Controller} {acts : List Rig.Act}

theorem Move.config_eq (move : Move r c acts r' c') : c'.config = c.config := by
  cases move <;> rfl

theorem Move.plan_eq (move : Move r c acts r' c') : c'.plan = c.plan := by
  cases move <;> rfl

theorem Move.building_eq (move : Move r c acts r' c') : c'.building = c.building := by
  cases move <;> rfl

end Settings

/-! ### A step is a move -/

/-- A step under the lock fails late only. -/
theorem late_of_aggregate {α : Type} {r r' : Rig} {failure : Failure RunError}
    {read : Aggregator → Aggregator × Except (Failure RunError) α}
    (locked : ∀ a, ∃ step, read a = Aggregator.under a step)
    (h : r.aggregate read = (r', .error failure)) : Late failure := by
  obtain ⟨step, eq⟩ := locked r.shared.aggregator
  have answer : (read r.shared.aggregator).2 = .error failure := congrArg Prod.snd h
  rw [eq] at answer
  obtain ⟨-, -, rfl | ⟨fault, rfl⟩⟩ := Aggregator.under_eq_error (Prod.ext rfl answer)
  · exact .poisoned
  · exact .broken fault

/-- The counts that are read are those of the tally. -/
theorem counts_of_aggregate {r r' : Rig} {counts : Nat × Nat}
    (h : r.aggregate Aggregator.counts = (r', .ok counts)) :
    counts = (r.shared.aggregator.tally.success, r.shared.aggregator.tally.error) := by
  have answer : r.shared.aggregator.counts.2 = .ok counts := congrArg Prod.snd h
  obtain ⟨tally, fine, -⟩ := Aggregator.under_eq_ok (Prod.ext rfl answer)
  cases fine
  rfl

theorem isAudit_of_finish {a : Aggregator} {elapsed : Duration} {notice : Notice}
    (h : (a.finish elapsed).2 = .ok (some notice)) : notice.isAudit = false := by
  obtain ⟨tally, fine, -⟩ := Aggregator.under_eq_ok (Prod.ext rfl h)
  simp only [Except.ok.injEq] at fine
  unfold Tally.finish at fine
  split at fine <;> cases fine
  rfl

theorem ending_of_collected {ending : CollectorEnding} {samples : Nat}
    (h : collectedOf ending = .ok samples) : CollectorEnding.collected samples = ending := by
  cases ending with
  | collected n =>
    cases h
    rfl
  | failed | panicked => cases h

theorem workers_foldl_tell (notices : List Notice) (r : Rig) :
    (notices.foldl Rig.tell r).workers = r.workers := by
  induction notices generalizing r with
  | nil => rfl
  | cons notice notices ih => exact ih (r.tell notice)

theorem spawnNext_of_lt {r : Rig} {c : Controller} (room : r.workers.size < c.config.threads.toNat) :
    spawnNext r c = (((c.announced r).foldl Rig.tell r).spawn c.plan, c) := by
  simp only [spawnNext, if_pos room, announced, List.foldl_append, workers_foldl_tell]
  split <;> rfl

/-- A worker that is over is taken in with its operations. -/
theorem takeEnded_eq (r : Rig) (closing : Closing) (id : Nat) {w : Worker} (gone : w.isOver = true) :
    Quiet r (takeEnded r closing id w).1 ∧
      (takeEnded r closing id w).2 = { closing with executed := closing.executed + operationsOf w } := by
  unfold takeEnded operationsOf
  cases stage : w.stage with
  | finished ending =>
    cases ending with
    | executed operations => exact ⟨.refl r, rfl⟩
    | failed cause => exact ⟨.tell r rfl, rfl⟩
    | panicked message => exact ⟨.tell r rfl, rfl⟩
  | cancelled => exact ⟨.tell r rfl, rfl⟩
  | spawned | opening | announcing | waiting | between | pacing | permitted | executing | sending
  | closing => simp [Worker.isOver, stage] at gone

section Steps

variable {r r' : Rig} {c c' : Controller} {closing : Closing} {start deadline due worker : Nat}

theorem move_of_spawning (at_ : c.stage = .spawning) (h : step r c = some (r', c')) :
    Move r c (acts r c) r' c' := by
  simp only [step, at_, Option.some.injEq] at h
  simp only [acts, at_]
  by_cases room : r.workers.size < c.config.threads.toNat
  · rw [spawnNext_of_lt room] at h
    cases h
    exact .spawned at_ room
  · rw [spawnNext, if_neg room] at h
    cases h
    exact .manned at_ (Nat.le_of_not_lt room)

theorem move_of_asking (at_ : c.stage = .asking due worker) (h : step r c = some (r', c')) :
    Move r c (acts r c) r' c' := by
  simp only [step, at_, goto] at h
  simp only [acts, at_]
  cases here : r.workers[worker]? with
  | none =>
    rw [here] at h
    cases h
    exact .surveyed (.inl at_) here
  | some w =>
    rw [here] at h
    cases h
    cases ready : w.ready with
    | true => exact .asked at_ here ready
    | false => exact .doubted at_ here ready

theorem move_of_examining (at_ : c.stage = .examining due worker) (h : step r c = some (r', c')) :
    Move r c (acts r c) r' c' := by
  simp only [step, at_, goto] at h
  simp only [acts, at_]
  cases here : r.workers[worker]? with
  | none =>
    rw [here] at h
    cases h
    exact .surveyed (.inr at_) here
  | some w =>
    rw [here] at h
    simp only at h ⊢
    -- A worker that is not ready is to blame only if it is over.
    split at h <;> cases h
    · rename_i gone
      rw [if_pos gone]
      exact .blamed at_ here gone
    · rename_i alive
      rw [if_neg alive]
      exact .trusted at_ here (eq_false_of_ne_true alive)

theorem move_of_counting {ready : Nat} (at_ : c.stage = .counting due worker ready)
    (h : step r c = some (r', c')) : Move r c (acts r c) r' c' := by
  simp only [step, at_, goto] at h
  simp only [acts, at_]
  cases here : r.workers[worker]? with
  | none =>
    rw [here] at h
    simp only [endCount, goto] at h
    split at h <;> cases h
    · exact .complete at_ here ‹_›
    · exact .incomplete at_
  | some w =>
    rw [here] at h
    cases h
    exact .counted at_ here

theorem move_of_callingOff {error : RunError} (at_ : c.stage = .callingOff error worker)
    (h : step r c = some (r', c')) : Move r c (acts r c) r' c' := by
  simp only [step, at_, goto] at h
  simp only [acts, at_]
  split at h <;> cases h
  · exact .calledOff at_ ‹_›
  · have past : r.workers.size ≤ worker := by omega
    have none : r.acts (.abort worker) = [] := by
      rw [Rig.acts, Array.getElem?_eq_none past]
    rw [none]
    exact .refused at_ past

theorem move_of_launching (at_ : c.stage = .launching) (h : step r c = some (r', c')) :
    Move r c (acts r c) r' c' := by
  simp only [step, at_, goto, launch, Option.some.injEq] at h
  simp only [acts, at_]
  split at h <;> cases h
  · exact .ran (at_ ▸ rfl) (.tell r rfl) rfl (Stage.late_of_none rfl)
  · exact .overflowed at_ (.tell r rfl)

theorem move_of_resting {wake : Nat} (at_ : c.stage = .resting start deadline wake)
    (h : step r c = some (r', c')) : Move r c (acts r c) r' c' := by
  simp only [step, at_, goto] at h
  simp only [acts, at_]
  have quiet := Quiet.count r
  split at h
  · cases read : r.aggregate Aggregator.counts with
    | mk r₁ answer =>
      rw [read] at h quiet
      cases answer with
      | ok counts =>
        cases h
        exact .ran (at_ ▸ rfl) quiet rfl (Stage.late_of_none rfl)
      | error failure =>
        cases h
        refine .ran (at_ ▸ rfl) quiet rfl ?_
        rintro _ ⟨⟩
        exact late_of_aggregate (fun _ => ⟨_, rfl⟩) read
  · cases h

theorem move_of_checking (at_ : c.stage = .checking start deadline) (h : step r c = some (r', c')) :
    Move r c (acts r c) r' c' := by
  simp only [step, at_, goto, Option.some.injEq] at h
  simp only [acts, at_]
  cases h
  refine .ran (at_ ▸ rfl) (.refl _) ?_ ?_
  · split <;> rfl
  · apply Stage.late_of_none
    split <;> rfl

theorem move_of_stamping {failure : Option (Failure RunError)}
    (at_ : c.stage = .stamping start failure) (h : step r c = some (r', c')) :
    Move r c (acts r c) r' c' := by
  simp only [step, at_, goto] at h
  simp only [acts, at_]
  have quiet := Quiet.stamp r (.clamped (r.shared.now - start))
  cases read : r.aggregate (Aggregator.finish · (.clamped (r.shared.now - start))) with
  | mk r₁ answer =>
    rw [read] at h quiet
    cases answer with
    | ok notice =>
      cases h
      refine .stamped at_ ?_ rfl fun _ same => .inl same
      cases notice with
      | none => exact quiet
      | some notice => exact quiet.trans (.tell r₁ (isAudit_of_finish (congrArg Prod.snd read)))
    | error stamped =>
      -- A stamp that fails takes the place of what went wrong before.
      cases h
      refine .stamped at_ quiet rfl ?_
      rintro _ ⟨⟩
      exact .inr (late_of_aggregate (fun _ => ⟨_, rfl⟩) read)

theorem move_of_joining (at_ : c.stage = .joining closing deadline worker)
    (h : step r c = some (r', c')) : Move r c (acts r c) r' c' := by
  simp only [step, at_, goto] at h
  simp only [acts, at_]
  cases here : r.workers[worker]? with
  | none =>
    rw [here] at h
    cases h
    rw [Rig.acts, here]
    exact .parted at_ here
  | some w =>
    rw [here] at h
    simp only at h
    split at h
    · rename_i gone
      obtain ⟨quiet, taken⟩ := takeEnded_eq r closing worker gone
      cases h
      rw [Rig.acts_abort_of_isOver here gone, taken]
      exact .joined at_ here gone quiet
    · rename_i alive
      have alive := eq_false_of_ne_true alive
      split at h
      · rename_i late
        cases h
        have there : (r.tell (.workerBusy worker (grace c.plan))).workers[worker]? = some w := here
        rw [Rig.acts_abort here alive, Rig.abort_of_alive there alive]
        exact .gaveUp at_ here alive late (.tell r rfl)
      · cases h

theorem move_of_awaiting (at_ : c.stage = .awaiting closing) (h : step r c = some (r', c')) :
    Move r c (acts r c) r' c' := by
  simp only [step, at_, goto] at h
  simp only [acts, at_]
  cases ended : r.collector.bind Collector.ending? with
  | none =>
    rw [ended] at h
    cases h
  | some ending =>
    rw [ended] at h
    simp only at h
    split at h <;> cases h
    · exact .failed at_ (.inl ‹_›)
    · exact .failed at_ (.inr ⟨ending, ended, ‹_›⟩)
    · rename_i samples fine collected
      rw [← ending_of_collected collected] at ended
      exact .gathered at_ fine ended

theorem move_of_tallying {samples : Nat} (at_ : c.stage = .tallying closing samples)
    (h : step r c = some (r', c')) : Move r c (acts r c) r' c' := by
  simp only [step, at_, goto] at h
  simp only [acts, at_]
  have quiet := Quiet.count r
  cases read : r.aggregate Aggregator.counts with
  | mk r₁ answer =>
    rw [read] at h quiet
    cases answer with
    | ok counts =>
      cases h
      rw [counts_of_aggregate read]
      exact .tallied at_ quiet
    | error failure =>
      cases h
      exact .unread (at_ ▸ rfl) quiet (late_of_aggregate (fun _ => ⟨_, rfl⟩) read)

theorem move_of_auditing {samples : Nat} {counts : Nat × Nat}
    (at_ : c.stage = .auditing closing samples counts) (h : step r c = some (r', c')) :
    Move r c (acts r c) r' c' := by
  simp only [step, at_, goto, Option.some.injEq] at h
  simp only [acts, at_]
  split at h <;> cases h
  · exact .agreed at_ ‹_›
  · exact .audited at_ ‹_›

theorem move_of_summarizing {counts : Nat × Nat} {dropped : Nat}
    (at_ : c.stage = .summarizing closing counts dropped) (h : step r c = some (r', c')) :
    Move r c (acts r c) r' c' := by
  simp only [step, at_, goto, conclude, Option.some.injEq] at h
  simp only [acts, at_]
  have quiet := Quiet.summarize r
  cases read : r.aggregate Aggregator.summarize with
  | mk r₁ answer =>
    rw [read] at h quiet
    cases answer with
    | error failure =>
      cases h
      exact .unread (at_ ▸ rfl) quiet (late_of_aggregate (fun _ => ⟨_, rfl⟩) read)
    | ok latency =>
      -- The figures of a report that can be read can still be too great to be added up.
      simp only at h
      split at h <;> cases h
      · exact .reported at_ (quiet.trans (.tell r₁ rfl)) rfl rfl rfl
      · exact .unread (at_ ▸ rfl) quiet (.broken _)
      · exact .unread (at_ ▸ rfl) quiet (.broken _)

end Steps

/-- **A step does what one of the moves says.** -/
theorem move_of_step {r r' : Rig} {c c' : Controller} (h : step r c = some (r', c')) :
    Move r c (acts r c) r' c' := by
  cases at_ : c.stage with
  | spawning => exact move_of_spawning at_ h
  | asking due worker => exact move_of_asking at_ h
  | examining due worker => exact move_of_examining at_ h
  | counting due worker ready => exact move_of_counting at_ h
  | callingOff error worker => exact move_of_callingOff at_ h
  | launching => exact move_of_launching at_ h
  | resting start deadline wake => exact move_of_resting at_ h
  | checking start deadline => exact move_of_checking at_ h
  | stamping start failure => exact move_of_stamping at_ h
  | joining closing deadline worker => exact move_of_joining at_ h
  | awaiting closing => exact move_of_awaiting at_ h
  | tallying closing samples => exact move_of_tallying at_ h
  | auditing closing samples counts => exact move_of_auditing at_ h
  | summarizing closing counts dropped => exact move_of_summarizing at_ h
  | polling due =>
    simp only [step, at_, goto] at h
    simp only [acts, at_]
    split at h <;> cases h
    exact .polled at_
  | ready =>
    simp only [step, at_, goto, Option.some.injEq] at h
    cases h
    simp only [acts, at_]
    exact .collected at_
  | starting =>
    simp only [step, at_, goto, Option.some.injEq] at h
    cases h
    simp only [acts, at_]
    exact .started at_
  | planning start deadline =>
    simp only [step, at_, goto, Option.some.injEq] at h
    simp only [acts, at_]
    cases h
    exact .ran (at_ ▸ rfl) (.refl _) rfl (Stage.late_of_none rfl)
  | reporting start deadline counts =>
    simp only [step, at_, Option.some.injEq] at h
    simp only [acts, at_]
    cases h
    exact .ran (at_ ▸ rfl) (.refl _) rfl (Stage.late_of_none rfl)
  | stopping start failure =>
    simp only [step, at_, goto, Option.some.injEq] at h
    simp only [acts, at_]
    cases h
    exact .stopped at_
  | pausing closing =>
    simp only [step, at_, goto, Option.some.injEq] at h
    simp only [acts, at_]
    cases h
    exact .paused at_
  | retiring closing =>
    simp only [step, at_, goto, Option.some.injEq] at h
    simp only [acts, at_]
    cases h
    exact .retired at_
  | finished result =>
    simp only [step, at_] at h
    cases h

/-! ### A move is made of deeds -/

theorem reached_foldl_tell (notices : List Notice) (r : Rig) :
    Rig.Reached r [] (notices.foldl Rig.tell r) := by
  induction notices generalizing r with
  | nil => exact .start
  | cons notice notices ih =>
    exact (Rig.reached_of_perform (.tell notice) rfl).trans (ih (r.tell notice))

/-- **What a controller does to its rig, it does by deeds.** -/
theorem reached_of_move {r r' : Rig} {c c' : Controller} {acts : List Rig.Act}
    (move : Move r c acts r' c') : Rig.Reached r acts r' := by
  cases move with
  | manned _ _ | polled _ | asked _ _ _ | doubted _ _ _ | trusted _ _ _ | surveyed _ _ | counted _ _
  | incomplete _ | refused _ _ | paused _ | parted _ _ | gathered _ _ _ | failed _ _ | agreed _ _ =>
    exact .start
  | ran _ quiet _ _ | overflowed _ quiet | stamped _ quiet _ _ | joined _ _ _ quiet
  | tallied _ quiet | unread _ quiet _ | reported _ quiet _ _ _ => exact quiet.reached
  | spawned _ _ =>
    exact (reached_foldl_tell _ r).trans (Rig.reached_of_perform (.spawn c.plan) rfl)
  | blamed _ _ _ | stopped _ => exact Rig.reached_of_perform .stop rfl
  | @complete _ _ ready _ _ _ => exact Rig.reached_of_perform (.tell (.allReady ready)) rfl
  | @calledOff _ worker _ _ => exact Rig.reached_of_perform (.abort worker) rfl
  | collected _ => exact Rig.reached_of_perform .collect rfl
  | started _ => exact Rig.reached_of_perform .start rfl
  | @gaveUp _ _ worker w r₁ _ here alive _ quiet =>
    have there : r₁.workers[worker]? = some w := quiet.workers_eq ▸ here
    have called : Rig.Reached r₁ (r₁.acts (.abort worker)) (r₁.abort worker) :=
      Rig.reached_of_perform (.abort worker) rfl
    rw [Rig.acts_abort there alive, Rig.abort_of_alive there alive, quiet.now_eq] at called
    exact quiet.reached.trans called
  | retired _ => exact Rig.reached_of_perform .retire rfl
  | audited _ _ => exact Rig.reached_of_perform (.tell _) rfl

end Controller

end LoadGen
