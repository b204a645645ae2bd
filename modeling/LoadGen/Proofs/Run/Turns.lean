import LoadGen.Proofs.Run.Faults

namespace LoadGen

/-!
# Where a controller reads and stamps

A controller goes through a run in three parts: up to the launch, through the turns of its progress loop,
and from the stop to the report.  In the loop it changes nothing but itself.

* `Controller.Turn`, `Controller.turn_of_step` — a step of the loop;
* `Controller.exists_turn` — a controller in the loop is held up by nothing but its rest;
* `Controller.now_of_step`, `Controller.tally_of_step` — a controller takes no time, and only its stamp
  changes the tally;
* `Controller.Advance`, `Controller.advance_of_step` — any step, by what it reads and stamps.
-/

namespace Aggregator

/-- Reading the counts changes nothing. -/
theorem fst_counts (a : Aggregator) : a.counts.1 = a := by
  cases off : a.spoiled with
  | true => rw [counts, under_of_spoiled off]
  | false => rw [counts_of_not_spoiled off]

/-- The counts are read unless the lock is spoiled. -/
theorem snd_counts_eq_error {a : Aggregator} {failure : Failure RunError}
    (h : a.counts.2 = .error failure) : a.spoiled = true ∧ failure = .refused .poisoned := by
  cases off : a.spoiled with
  | true =>
    rw [counts, under_of_spoiled off] at h
    cases h
    exact ⟨rfl, rfl⟩
  | false =>
    rw [counts_of_not_spoiled off] at h
    cases h

/-- A summary leaves the tally. -/
theorem tally_summarize (a : Aggregator) : a.summarize.1.tally = a.tally := by
  have move := move_of_call a .summarize
  show (a.call .summarize).1.tally = a.tally
  generalize (a.call .summarize).1 = a', (a.call .summarize).2 = answer at move ⊢
  cases move <;> rfl

end Aggregator

namespace Controller

/-- Whether the end of the run has not been fixed yet. -/
def Stage.isEarly : Stage → Bool
  | .spawning | .polling _ | .asking .. | .examining .. | .counting .. | .callingOff .. | .ready
  | .starting | .launching => true
  | _ => false

/-- Whether progress is being reported. -/
def Stage.isLooping : Stage → Bool
  | .planning .. | .resting .. | .reporting .. | .checking .. => true
  | _ => false

variable {r r' : Rig} {c c' : Controller} {start deadline : Nat}

/-! ### Turns of the loop -/

/-- A step of the progress loop. -/
inductive Turn (r : Rig) (c : Controller) : Controller → Prop where
  | planned {start deadline : Nat} (at_ : c.stage = .planning start deadline) :
      Turn r c
        { c with
          stage := .resting start deadline (min (r.shared.now + progressInterval.nanos) deadline) }
  | counted {start deadline wake : Nat} (at_ : c.stage = .resting start deadline wake)
      (awake : wake ≤ r.shared.now) :
      Turn r c
        { c with
          stage := .reporting start deadline
            (r.shared.aggregator.tally.success, r.shared.aggregator.tally.error) }
  | refused {start deadline wake : Nat} (at_ : c.stage = .resting start deadline wake)
      (off : r.shared.aggregator.spoiled = true) :
      Turn r c { c with stage := .stopping start (some (.refused .poisoned)) }
  | told {start deadline : Nat} {counts : Nat × Nat} (at_ : c.stage = .reporting start deadline counts) :
      Turn r c
        { c with
          stage := .checking start deadline
          progress := ⟨counts.1, counts.2, .clamped (r.shared.now - start)⟩ :: c.progress }
  | again {start deadline : Nat} (at_ : c.stage = .checking start deadline)
      (early : r.shared.now < deadline) : Turn r c { c with stage := .planning start deadline }
  | ended {start deadline : Nat} (at_ : c.stage = .checking start deadline)
      (late : deadline ≤ r.shared.now) : Turn r c { c with stage := .stopping start none }

/-- A look at the counts leaves the rig. -/
theorem aggregate_counts (r : Rig) : r.aggregate Aggregator.counts = (r, r.shared.aggregator.counts.2) := by
  have same := Aggregator.fst_counts r.shared.aggregator
  unfold Rig.aggregate
  generalize r.shared.aggregator.counts = read at same ⊢
  obtain ⟨aggregator, answer⟩ := read
  cases same
  rfl

/-- **A step of the loop is a turn**, and changes nothing of the rig. -/
theorem turn_of_step (on : c.stage.isLooping = true) (h : step r c = some (r', c')) :
    r' = r ∧ Turn r c c' := by
  cases at_ : c.stage with
  | planning start deadline =>
    simp only [step, at_, goto, Option.some.injEq] at h
    cases h
    exact ⟨rfl, .planned at_⟩
  | resting start deadline wake =>
    simp only [step, at_, goto, aggregate_counts] at h
    split at h
    · rename_i awake
      cases read : r.shared.aggregator.counts.2 with
      | ok counts =>
        rw [read] at h
        cases h
        have fine : r.aggregate Aggregator.counts = (r, .ok counts) := by rw [aggregate_counts, read]
        rw [counts_of_aggregate fine]
        exact ⟨rfl, .counted at_ awake⟩
      | error failure =>
        rw [read] at h
        cases h
        obtain ⟨off, rfl⟩ := Aggregator.snd_counts_eq_error read
        exact ⟨rfl, .refused at_ off⟩
    · cases h
  | reporting start deadline counts =>
    simp only [step, at_, Option.some.injEq] at h
    cases h
    exact ⟨rfl, .told at_⟩
  | checking start deadline =>
    simp only [step, at_, goto, Option.some.injEq] at h
    cases h
    by_cases late : deadline ≤ r.shared.now
    · rw [if_pos late]
      exact ⟨rfl, .ended at_ late⟩
    · rw [if_neg late]
      exact ⟨rfl, .again at_ (Nat.lt_of_not_le late)⟩
  | spawning | polling | asking | examining | counting | callingOff | ready | starting | launching
  | stopping | stamping | pausing | joining | retiring | awaiting | tallying | auditing | summarizing
  | finished =>
    rw [at_] at on
    cases on

/-- A controller in the loop can go on at once, or as soon as its rest is over. -/
theorem exists_turn (on : c.stage.isLooping = true)
    (ready : ∀ start deadline wake, c.stage = .resting start deadline wake → wake ≤ r.shared.now) :
    ∃ r' c', step r c = some (r', c') := by
  cases at_ : c.stage with
  | planning | reporting | checking => exact ⟨_, _, by simp only [step, at_, goto]; rfl⟩
  | resting start deadline wake =>
    simp only [step, at_, goto, if_pos (ready _ _ _ at_), aggregate_counts]
    cases r.shared.aggregator.counts.2 with
    | ok counts => exact ⟨_, _, rfl⟩
    | error failure => exact ⟨_, _, rfl⟩
  | spawning | polling | asking | examining | counting | callingOff | ready | starting | launching
  | stopping | stamping | pausing | joining | retiring | awaiting | tallying | auditing | summarizing
  | finished =>
    rw [at_] at on
    cases on

/-! ### What a step leaves of the rig -/

theorem foldl_tell (notices : List Notice) (r : Rig) :
    notices.foldl Rig.tell r =
      { r with shared := { r.shared with notices := notices.reverse ++ r.shared.notices } } := by
  induction notices generalizing r with
  | nil => rfl
  | cons notice notices ih =>
    rw [List.foldl_cons, ih, List.reverse_cons, List.append_assoc]
    rfl

/-- A controller takes no time. -/
theorem now_of_step (h : step r c = some (r', c')) : r'.shared.now = r.shared.now := by
  have move := move_of_step h
  generalize acts r c = told at move
  cases move with
  | manned | polled | asked | doubted | trusted | blamed | surveyed | counted | complete | incomplete
  | refused | started | stopped | paused | parted | retired | gathered | failed | agreed | audited => rfl
  | spawned =>
    rw [foldl_tell]
    rfl
  | calledOff => rw [Rig.shared_abort]
  | collected => rw [Rig.shared_collect]
  | ran _ quiet _ _ | overflowed _ quiet | stamped _ quiet _ _ | joined _ _ _ quiet
  | gaveUp _ _ _ _ quiet | tallied _ quiet | unread _ quiet _ | reported _ quiet _ _ _ =>
    exact quiet.now_eq

theorem tally_launch (r : Rig) (c : Controller) :
    (launch r c).1.shared.aggregator.tally = r.shared.aggregator.tally := by
  unfold launch
  simp only
  split <;> rfl

theorem tally_takeEnded (r : Rig) (closing : Closing) (id : Nat) (w : Worker) :
    (takeEnded r closing id w).1.shared.aggregator.tally = r.shared.aggregator.tally := by
  unfold takeEnded
  split <;> rfl

theorem tally_conclude (r : Rig) (c : Controller) (closing : Closing) (counts : Nat × Nat)
    (dropped : Nat) :
    (conclude r c closing counts dropped).1.shared.aggregator.tally = r.shared.aggregator.tally := by
  have kept : (r.aggregate Aggregator.summarize).1.shared.aggregator.tally = r.shared.aggregator.tally :=
    Aggregator.tally_summarize _
  unfold conclude
  generalize r.aggregate Aggregator.summarize = read at kept ⊢
  obtain ⟨r₁, answer⟩ := read
  cases answer with
  | error failure => exact kept
  | ok latency =>
    simp only
    split <;> exact kept

theorem tally_of_joining {closing : Closing} {worker : Nat}
    (at_ : c.stage = .joining closing deadline worker) (h : step r c = some (r', c')) :
    r'.shared.aggregator.tally = r.shared.aggregator.tally := by
  simp only [step, at_, goto] at h
  split at h
  · cases h
    rfl
  · rename_i w here
    split at h
    · cases h
      exact tally_takeEnded r closing worker w
    · split at h <;> cases h
      rw [Rig.shared_abort]
      rfl

theorem tally_of_tallying {closing : Closing} {collected : Nat}
    (at_ : c.stage = .tallying closing collected) (h : step r c = some (r', c')) : r' = r := by
  simp only [step, at_, goto, aggregate_counts] at h
  split at h
  · rename_i read
    cases h
    exact (congrArg Prod.fst read).symm
  · rename_i read
    cases h
    exact (congrArg Prod.fst read).symm

/-- **Only the stamp changes the tally.** -/
theorem tally_of_step (h : step r c = some (r', c'))
    (unstamped : ∀ start failure, c.stage ≠ .stamping start failure) :
    r'.shared.aggregator.tally = r.shared.aggregator.tally := by
  have move := move_of_step h
  generalize acts r c = told at move
  cases move with
  | manned | polled | asked | doubted | trusted | blamed | surveyed | counted | complete | incomplete
  | refused | started | stopped | paused | parted | retired | gathered | failed | agreed | audited => rfl
  | spawned =>
    rw [foldl_tell]
    rfl
  | calledOff => rw [Rig.shared_abort]
  | collected => rw [Rig.shared_collect]
  | stamped at_ => exact absurd at_ (unstamped _ _)
  | overflowed at_ =>
    simp only [step, at_, Option.some.injEq] at h
    rw [← tally_launch r c, h]
  | joined at_ | gaveUp at_ => exact tally_of_joining at_ h
  | tallied at_ => rw [tally_of_tallying at_ h]
  | reported at_ =>
    simp only [step, at_, Option.some.injEq] at h
    rw [← tally_conclude r c, h]
  | unread at_ =>
    -- Neither the counts nor the summary change what they are read of.
    cases stage : c.stage with
    | tallying closing collected => rw [tally_of_tallying stage h]
    | summarizing closing counts dropped =>
      simp only [step, stage, Option.some.injEq] at h
      rw [← tally_conclude r c, h]
    | _ =>
      rw [stage] at at_
      cases at_
  | ran at_ =>
    -- It is at the launch, in the loop, or at the stop, which is a move of its own.
    cases stage : c.stage with
    | launching =>
      simp only [step, stage, Option.some.injEq] at h
      rw [← tally_launch r c, h]
    | planning | resting | reporting | checking =>
      rw [(turn_of_step (by rw [stage]; rfl) h).1]
    | stopping =>
      simp only [step, stage, goto, Option.some.injEq] at h
      cases h
      rfl
    | _ =>
      rw [stage] at at_
      cases at_

/-- The stamped time of a run, once it is stamped. -/
def Stage.elapsed? : Stage → Option Duration
  | .pausing closing | .joining closing _ _ | .retiring closing | .awaiting closing
  | .tallying closing _ | .auditing closing _ _ | .summarizing closing _ _ => some closing.elapsed
  | .finished (.ok report) => some report.elapsed
  | _ => none

/-- A stamp that fails takes the place of what went wrong before. -/
theorem step_of_stamping {failure : Option (Failure RunError)} (at_ : c.stage = .stamping start failure)
    {r₁ : Rig} {answer : Except (Failure RunError) (Option Notice)}
    (stamp : r.aggregate (Aggregator.finish · (.clamped (r.shared.now - start))) = (r₁, answer)) :
    step r c =
      match answer with
      | .ok notice =>
        some (c.goto ((notice.map r₁.tell).getD r₁)
          (.pausing { elapsed := .clamped (r.shared.now - start), failure }))
      | .error stamped =>
        some (c.goto r₁
          (.pausing { elapsed := .clamped (r.shared.now - start), failure := some stamped })) := by
  simp only [step, at_, stamp]
  cases answer <;> rfl

/-- The stamp is the time that the controller goes on with. -/
theorem stamp_of_step {failure : Option (Failure RunError)} (at_ : c.stage = .stamping start failure)
    (unstamped : failure = none → r.shared.aggregator.tally.elapsed = none)
    (h : step r c = some (r', c')) (sound : c'.stage.wrong? = none) :
    r'.shared.aggregator.tally.elapsed = c'.stage.elapsed? := by
  cases stamp : r.aggregate (Aggregator.finish · (.clamped (r.shared.now - start))) with
  | mk r₁ answer =>
    rw [step_of_stamping at_ stamp] at h
    cases answer with
    | error failure =>
      cases h
      cases sound
    | ok notice =>
      have answer : (r.shared.aggregator.finish (.clamped (r.shared.now - start))).2 = .ok notice :=
        congrArg Prod.snd stamp
      obtain ⟨tally, fine, left⟩ := Aggregator.under_eq_ok (Prod.ext rfl answer)
      have kept : r₁.shared.aggregator.tally = tally := by
        have same : _ = r₁ := congrArg Prod.fst stamp
        rw [← same]
        exact congrArg Aggregator.tally left
      cases h
      have blank := unstamped sound
      have stamped : tally.elapsed = some (.clamped (r.shared.now - start)) := by
        simp only [Tally.finish, blank, Except.ok.injEq, Prod.mk.injEq] at fine
        rw [← fine.1]
      cases notice <;> exact (congrArg Tally.elapsed kept).trans stamped

/-! ### The parts of a run -/

/-- What a controller goes on with from the stamp until it reads the counts. -/
def Stage.unread? : Stage → Option Closing
  | .pausing closing | .joining closing _ _ | .retiring closing | .awaiting closing
  | .tallying closing _ => some closing
  | _ => none

theorem Stage.late_of_unread? {stage : Stage} {closing : Closing} (h : stage.unread? = some closing) :
    stage.isEarly = false ∧ stage.isLooping = false := by
  cases stage with
  | pausing | joining | retiring | awaiting | tallying => exact ⟨rfl, rfl⟩
  | _ => cases h

/-- A step of a controller, by what it reads and stamps. -/
inductive Advance (r : Rig) (c : Controller) : Controller → Prop where
  | prepared {stage : Stage} (at_ : c.stage.isEarly = true) (on : stage.isEarly = true) :
      Advance r c { c with stage }
  | launched (at_ : c.stage = .launching) :
      Advance r c
        { c with stage := .planning r.shared.now (r.shared.now + c.config.duration.nanos) }
  | turned {c' : Controller} (turn : Turn r c c') : Advance r c c'
  | stopped {start : Nat} {failure : Option (Failure RunError)}
      (at_ : c.stage = .stopping start failure) :
      Advance r c { c with stage := .stamping start failure }
  | stamped {start : Nat} {failure : Option (Failure RunError)} {closing : Closing}
      (at_ : c.stage = .stamping start failure) (elapsed : closing.elapsed = .clamped (r.shared.now - start))
      (wrong : closing.failure = none → failure = none) :
      Advance r c { c with stage := .pausing closing }
  | closed {closing closing' : Closing} {stage : Stage} (at_ : c.stage.unread? = some closing)
      (on : stage.unread? = some closing') (elapsed : closing'.elapsed = closing.elapsed)
      (wrong : stage.wrong? = c.stage.wrong?) : Advance r c { c with stage }
  | tallied {closing : Closing} {samples : Nat} (at_ : c.stage = .tallying closing samples) :
      Advance r c
        { c with
          stage := .auditing closing samples
            (r.shared.aggregator.tally.success, r.shared.aggregator.tally.error) }
  | audited {closing : Closing} {samples dropped : Nat} {counts : Nat × Nat}
      (at_ : c.stage = .auditing closing samples counts) :
      Advance r c { c with stage := .summarizing closing counts dropped }
  | reported {closing : Closing} {counts : Nat × Nat} {dropped : Nat} {report : RunReport}
      (at_ : c.stage = .summarizing closing counts dropped) (success : report.success = counts.1)
      (error : report.error = counts.2) (elapsed : report.elapsed = closing.elapsed) :
      Advance r c { c with stage := .finished (.ok report) }
  | failed {failure : Failure RunError} (at_ : c.stage.isLooping = false) :
      Advance r c { c with stage := .finished (.error failure) }

theorem elapsed_of_conclude {closing : Closing} {counts : Nat × Nat} {dropped : Nat}
    {report : RunReport}
    (h : (conclude r c closing counts dropped).2.stage = .finished (.ok report)) :
    report.elapsed = closing.elapsed := by
  unfold conclude at h
  generalize r.aggregate Aggregator.summarize = read at h
  obtain ⟨r₁, answer⟩ := read
  cases answer with
  | error failure => cases h
  | ok latency =>
    simp only at h
    split at h <;> cases h
    rfl

/-- The stamp is the time since the start, and what went wrong before is not forgotten. -/
theorem advance_of_stamping {failure : Option (Failure RunError)} (at_ : c.stage = .stamping start failure)
    (h : step r c = some (r', c')) : Advance r c c' := by
  cases stamp : r.aggregate (Aggregator.finish · (.clamped (r.shared.now - start))) with
  | mk r₁ answer =>
    rw [step_of_stamping at_ stamp] at h
    cases answer with
    | ok notice =>
      cases h
      exact .stamped at_ rfl id
    | error stamped =>
      cases h
      exact .stamped at_ rfl nofun

/-- **A step of a controller is an advance.** -/
theorem advance_of_step (h : step r c = some (r', c')) : Advance r c c' := by
  have move := move_of_step h
  generalize acts r c = told at move
  cases move with
  | spawned at_ =>
    have early : c.stage.isEarly = true := by rw [at_]; rfl
    exact .prepared early early
  | manned at_ | polled at_ | asked at_ | doubted at_ | trusted at_ | blamed at_ | counted at_
  | complete at_ | incomplete at_ | calledOff at_ | collected at_ | started at_ =>
    exact .prepared (by rw [at_]; rfl) rfl
  | surveyed at_ =>
    obtain at_ | at_ := at_ <;> exact .prepared (by rw [at_]; rfl) rfl
  | refused at_ | overflowed at_ | failed at_ => exact .failed (by rw [at_]; rfl)
  | stopped at_ => exact .stopped at_
  | stamped at_ => exact advance_of_stamping at_ h
  | paused at_ | gaveUp at_ | parted at_ | retired at_ =>
    exact .closed (by rw [at_]; rfl) rfl rfl (by rw [at_]; rfl)
  | @joined closing _ _ _ _ at_ =>
    have before : c.stage.unread? = some closing := by rw [at_]; rfl
    exact .closed before rfl rfl (by rw [at_]; rfl)
  | gathered at_ fine =>
    refine .closed (by rw [at_]; rfl) rfl rfl ?_
    rw [at_]
    exact fine.symm
  | tallied at_ => exact .tallied at_
  | agreed at_ | audited at_ => exact .audited at_
  | unread at_ =>
    cases stage : c.stage with
    | tallying | summarizing => exact .failed (by rw [stage]; rfl)
    | _ =>
      rw [stage] at at_
      cases at_
  | @reported closing counts dropped _ report at_ quiet success error lost =>
    simp only [step, at_, Option.some.injEq] at h
    have made : (conclude r c closing counts dropped).2.stage = .finished (.ok report) := by rw [h]
    exact .reported at_ success error (elapsed_of_conclude made)
  | ran at_ _ on =>
    cases stage : c.stage with
    | launching =>
      simp only [step, stage, launch, goto, Option.some.injEq] at h
      split at h <;> cases h
      · exact .launched stage
      · cases on
    | planning | resting | reporting | checking => exact .turned (turn_of_step (by rw [stage]; rfl) h).2
    | stopping =>
      simp only [step, stage, goto, Option.some.injEq] at h
      cases h
      cases on
    | _ =>
      rw [stage] at at_
      cases at_

end Controller

end LoadGen
