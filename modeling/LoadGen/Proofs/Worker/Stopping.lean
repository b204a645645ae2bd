import LoadGen.Proofs.Worker.Batches

namespace LoadGen

/-!
# The stop comes between batches

A worker looks at the stop between batches only: before it asks for a permit, and again when it has got
one.  So a batch that was started runs to its end, and none is started once the stop was given.

* `Worker.Scene.Reached.ending` — how a worker ends of whose calls none broke off;
* `Worker.Scene.Winds` — what is left to do after the stop;
* `Worker.Scene.Reached.at_stopped` — the scenes before and after a stop;
* `Worker.Scene.stop_cuts_no_batch` — the whole of it, wherever the stop comes.
-/

namespace Worker

/-- Whether a worker at a stage has nothing left to do but to close its engine. -/
def Stage.isLeaving : Stage → Bool
  | .closing _ | .finished _ => true
  | _ => false

/-- The operations of the batch under way that have not been called. -/
def Stage.uncalled : Stage → Nat
  | .executing left => left - 1
  | .sending pending => pending.left - 1
  | _ => 0

/-- The operations of the batch under way that the engine has not answered. -/
def Stage.unanswered : Stage → Nat
  | .executing left => left - 1 + 1
  | .sending pending => pending.left - 1
  | _ => 0

/-- Whether a call of the engine broke off. -/
def Act.isBreak : Act → Bool
  | .opened (.panicked _) | .executed (.panicked _) _ => true
  | _ => false

theorem isBroken_proceed (w : Worker) (left : Nat) : (w.proceed left).stage.isBroken = false := by
  unfold proceed
  split <;> rfl

theorem Move.isBroken {acts : List Act} {s s' : Shared} {w w' : Worker} {event : Event}
    (move : Move s w event acts s' w') (broken : w'.stage.isBroken = true) :
    w.stage.isBroken = true ∨ ∃ act ∈ acts, act.isBreak = true := by
  cases move with
  | broken at_ | panicked at_ => exact .inr ⟨_, List.mem_cons_self, rfl⟩
  | closed at_ =>
    rw [at_, ← isBroken_finished]
    exact .inl broken
  | queued at_ _ | dropped at_ _ =>
    rw [isBroken_proceed] at broken
    cases broken
  | start | opened | refused | announced | released | dismissed | stopped | asked | permitted
  | skipped | begun | returned | waited | cancelled => cases broken

/-- A worker that has to close its engine after a call that broke off has told of that call. -/
theorem Life.break_of_isBroken {id : Nat} {plan : RatePlan} {told : List Act} {w : Worker}
    (life : Life id plan told w) (broken : w.stage.isBroken = true) :
    ∃ act ∈ told, act.isBreak = true := by
  induction life with
  | spawned => cases broken
  | calledOff life ih => exact ih broken
  | step life next ih =>
    rcases (move_of_step next).isBroken broken with before | ⟨act, mem, breaks⟩
    · obtain ⟨act, mem, breaks⟩ := ih before
      exact ⟨act, List.mem_append_left _ mem, breaks⟩
    · exact ⟨act, List.mem_append_right _ mem, breaks⟩

/-- A worker whose engine could not be opened executes nothing. -/
theorem Story.execute_of_failed {told : List Act} {ready : Bool} {cause : EngineError}
    (story : Story told ready (.finished (.failed cause))) : .called .execute ∉ told := by
  cases story with
  | refused refusal at_ => simp
  | dismissed idle at_ => rcases at_ with at_ | at_ <;> cases at_
  | working told operating at_ => cases at_
  | left told operating own at_ =>
    rcases at_ with at_ | at_ <;> cases at_
    exact absurd rfl (own cause)

/-! ### Steps after the stop -/

/-- A worker that leaves only closes its engine. -/
theorem Move.closed_of_leaving {acts : List Act} {s s' : Shared} {w w' : Worker} {event : Event}
    (move : Move s w event acts s' w') (stays : w.aborting = false)
    (leaving : w.stage.isLeaving = true) :
    event = .closed ∧ acts = [] ∧ w'.stage.isLeaving = true := by
  cases move with
  | closed at_ => exact ⟨rfl, rfl, rfl⟩
  | stopped at_ seen =>
    rcases at_ with ⟨-, at_⟩ | ⟨-, at_⟩
    · rw [at_] at leaving
      cases leaving
    · rw [at_] at leaving
      cases leaving
  | cancelled alive off =>
    rw [stays] at off
    cases off
  | start at_ | opened at_ | refused at_ _ | broken at_ | announced at_ | released at_ _
  | dismissed at_ _ _ | asked at_ _ | permitted at_ _ | skipped at_ _ _ | begun at_ _ _
  | returned _ at_ _ | panicked at_ | queued at_ _ | dropped at_ _ | waited at_ _ =>
    rw [at_] at leaving
    cases leaving

/-- Settling a sample leads to the next call of the batch, if there is one. -/
theorem le_settle (w : Worker) (left : Nat) :
    (nextCalls left).countP Act.isCall + (w.proceed left).stage.uncalled ≤ left - 1 ∧
      (nextCalls left).countP Act.isAnswer + (w.proceed left).stage.unanswered ≤ left - 1 := by
  unfold nextCalls proceed
  by_cases last : left ≤ 1
  · rw [if_pos last, if_pos last]
    exact ⟨Nat.zero_le _, Nat.zero_le _⟩
  · rw [if_neg last, if_neg last]
    show 1 + (left - 1 - 1) ≤ left - 1 ∧ 0 + (left - 1 - 1 + 1) ≤ left - 1
    omega

/-- The operations that a step calls are of the batch under way, or of one that it starts. -/
theorem Move.uncalled_le {s s' : Shared} {w w' : Worker} {event : Event} {acts : List Act}
    (move : Move s w event acts s' w') :
    acts.countP Act.isCall + w'.stage.uncalled ≤
      w.stage.uncalled + w.batchSize * (Scene.sights s event).count .begun := by
  cases move with
  | start at_ | opened at_ | refused at_ _ | broken at_ | announced at_ | released at_ _
  | dismissed at_ _ _ | asked at_ _ | permitted at_ _ | closed at_ | skipped at_ _ _ | panicked at_
  | stopped _ _ | cancelled _ _ => exact Nat.zero_le _
  | begun at_ unseen some =>
    rw [at_, Scene.sights, unseen]
    show 1 + (w.batchSize - 1) ≤ 0 + w.batchSize * 1
    omega
  | queued at_ taken | dropped at_ why =>
    rw [at_]
    exact Nat.le_add_right_of_le (le_settle w _).1
  | returned _ at_ _ | waited at_ full =>
    rw [at_]
    exact Nat.le_add_right_of_le (Nat.le_of_eq (Nat.zero_add _))

/-- No step after the stop starts a batch, so the answers are those of the one under way. -/
theorem Move.unanswered_le {s s' : Shared} {w w' : Worker} {event : Event} {acts : List Act}
    (move : Move s w event acts s' w') (off : s.signal.isStopped = true) :
    acts.countP Act.isAnswer + w'.stage.unanswered ≤ w.stage.unanswered := by
  cases move with
  | start at_ | opened at_ | refused at_ _ | broken at_ | announced at_ | released at_ _
  | dismissed at_ _ _ | asked at_ _ | permitted at_ _ | closed at_ =>
    rw [at_]
    exact Nat.le_refl 0
  | stopped at_ seen | cancelled alive seen => exact Nat.zero_le _
  | skipped at_ unseen _ | begun at_ unseen _ =>
    -- The second look, after the permit, has seen the stop.
    rw [off] at unseen
    cases unseen
  | @returned reply verdict latency left at_ returns =>
    rw [at_]
    show 1 + (left - 1) ≤ left - 1 + 1
    omega
  | @panicked message latency left at_ =>
    rw [at_]
    exact Nat.le_add_left 1 (left - 1)
  | queued at_ taken | dropped at_ why =>
    rw [at_]
    exact (le_settle w _).2
  | waited at_ full =>
    rw [at_]
    exact Nat.le_of_eq (Nat.zero_add _)

namespace Scene

section

variable {id : Nat} {plan : RatePlan} {shared : Shared} {start c : Scene} {told : List Act}

/-- A worker that nobody calls off ends by itself. -/
theorem Reached.finished (h : Reached (fresh id plan shared) told c)
    (gone : c.worker.isOver = true) : ∃ ending, c.worker.stage = .finished ending := by
  have stays : c.worker.aborting = false := h.aborting_eq
  cases at_ : c.worker.stage with
  | finished ending => exact ⟨ending, rfl⟩
  | cancelled =>
    have off := h.life.aborting_of_cancelled at_
    rw [stays] at off
    cases off
  | spawned | opening | announcing | waiting | between | pacing | permitted | executing _ | sending _
  | closing _ => simp [isOver, at_] at gone

/-- A worker of whose calls none broke off ends by itself, and if it could not open its engine, it has
    called nothing. -/
theorem Reached.ending (h : Reached (fresh id plan shared) told c)
    (unbroken : ∀ act, .own act ∈ told → act.isBreak = false) (gone : c.worker.isOver = true) :
    (∃ n, c.worker.stage = .finished (.executed n)) ∨
      ∃ cause, c.worker.stage = .finished (.failed cause) ∧ calls told = 0 := by
  have life := h.life
  obtain ⟨ending, at_⟩ := h.finished gone
  cases ending with
  | executed n => exact .inl ⟨n, at_⟩
  | failed cause =>
    right
    have story := life.story
    rw [at_] at story
    exact ⟨cause, at_, calls_eq_zero.mpr fun mem => story.execute_of_failed (mem_own.mpr mem)⟩
  | panicked message =>
    -- Some call broke off.
    obtain ⟨act, mem, breaks⟩ := life.break_of_isBroken (by rw [at_]; rfl)
    rw [unbroken act (mem_own.mp mem)] at breaks
    cases breaks

/-! ### After the stop -/

/-- A worker that has seen the stop does nothing but close its engine. -/
theorem Reached.gone (leaving : start.worker.stage.isLeaving = true)
    (stays : start.worker.aborting = false) (h : Reached start told c) :
    ∀ act ∈ told, act = .started ∨ act = .stopped := by
  refine (h.induct (motive := fun told c => c.worker.stage.isLeaving = true ∧
    c.worker.aborting = false ∧ ∀ act ∈ told, act = .started ∨ act = .stopped)
    ⟨leaving, stays, nofun⟩ ?_).2.2
  intro told acts c c' ⟨leaving, stays, quiet⟩ move
  have more (now : ∀ act ∈ acts, act = .started ∨ act = .stopped) :
      ∀ act ∈ told ++ acts, act = .started ∨ act = .stopped := by
    intro act mem
    exact (List.mem_append.mp mem).elim (quiet act) (now act)
  cases move with
  | own step move told =>
    obtain ⟨rfl, rfl, leaving'⟩ := move.closed_of_leaving stays leaving
    exact ⟨leaving', move.aborting_eq.trans stays, more nofun⟩
  | others _ => exact ⟨leaving, stays, more nofun⟩
  | started _ => exact ⟨leaving, stays, more (by simp)⟩
  | stopped _ => exact ⟨leaving, stays, more (by simp)⟩

/-- What a worker has left to do after the stop: the calls and the answers of the batch under way. -/
structure Winds (stage : Stage) (told : List Act) (c : Scene) : Prop where
  begun : .begun ∉ told
  calls_le : calls told + c.worker.stage.uncalled ≤ stage.uncalled
  answers_le : answers told + c.worker.stage.unanswered ≤ stage.unanswered

theorem begun_not_mem_sights {s : Shared} (off : s.signal.isStopped = true) (event : Event) :
    .begun ∉ sights s event := by
  unfold sights
  rw [off]
  cases event <;> simp

/-- A move after the stop leaves so much less to do. -/
theorem Winds.move {stage : Stage} {acts : List Act} {c' : Scene} (h : Winds stage told c)
    (off : c.shared.signal.isStopped = true) (move : Move c acts c') : Winds stage (told ++ acts) c' := by
  obtain ⟨begun, calls_le, answers_le⟩ := h
  -- Only a step of the worker tells of operations.
  have idle (now : .begun ∉ acts) (uncalled : calls acts = 0) (unanswered : answers acts = 0)
      (same : c'.worker = c.worker) : Winds stage (told ++ acts) c' := by
    refine ⟨?_, ?_, ?_⟩
    · rw [List.mem_append, not_or]
      exact ⟨begun, now⟩
    · rw [calls_append, uncalled, same]
      exact calls_le
    · rw [answers_append, unanswered, same]
      exact answers_le
  cases move with
  | @own event acts shared worker step move story =>
    have fewer := move.uncalled_le
    have fewer' := move.unanswered_le off
    have none : (sights c.shared event).count .begun = 0 :=
      List.count_eq_zero.mpr (begun_not_mem_sights off event)
    rw [none] at fewer
    refine ⟨?_, ?_, ?_⟩
    · rw [List.mem_append, List.mem_append, not_or, not_or]
      exact ⟨begun, begun_not_mem_sights off event, by simp⟩
    · rw [calls_append, calls_step]
      show calls told + acts.countP Worker.Act.isCall + worker.stage.uncalled ≤ stage.uncalled
      omega
    · rw [answers_append, answers_step]
      show answers told + acts.countP Worker.Act.isAnswer + worker.stage.unanswered ≤ stage.unanswered
      omega
  | others _ => exact idle List.not_mem_nil rfl rfl rfl
  | started _ | stopped _ => exact idle (by simp) rfl rfl rfl

end

/-- Ten permits per second for batches of two. -/
def pairs : RatePlan :=
  { threadRate := 20, connectionRate := 20, tokensPerSec := 10, batchSize := 2,
    tokensPerSec_pos := by decide }

/-- A worker up to the barrier. -/
def upToBarrier : List Deed := [.own .start, .own (.opened (.opened true)), .own .announce]

end Scene

end Worker

end LoadGen
