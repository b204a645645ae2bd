import LoadGen.Engine.Call
import LoadGen.Worker

namespace LoadGen

/-!
# The story of a worker

What can be told of a worker from outside: the calls it makes of its engine, the answers it gets, the
word it is given at the barrier, and what becomes of its samples.

* `Worker.Act` — one thing that can be told, and `Worker.acts` what one step adds to the story;
* `Worker.Move` — everything a step can do, one case each; `move_of_step` says that there are no others;
* `Worker.Life` — a worker from its first step on, whatever the others do meanwhile;
* `Worker.Story` — what can have been told of a worker, stage by stage.

Every life follows the story (`Life.story`), so what is told of an engine is read off the stories:
it is closed at most once, it executes nothing before the worker was released to run, and it is asked
to connect once.
-/

/-- The error that an answer to being opened means for the worker, if it means one. -/
def OpenReply.refusal? : OpenReply → Option EngineError
  | .opened true => none
  | .opened false => some .notReady
  | .failed cause => some cause
  | .panicked _ => none

/-- The verdict of an operation that returned. -/
def ExecuteReply.verdict? : ExecuteReply → Option Verdict
  | .ok => some .success
  | .failed _ => some .error
  | .panicked _ => none

namespace Worker

/-- What can be told of a worker. -/
inductive Act where
  /-- A call of the engine begins. -/
  | called (call : EngineCall)
  /-- The engine has answered to being opened. -/
  | opened (reply : OpenReply)
  /-- The wait at the barrier is over. -/
  | released (phase : Phase)
  /-- The engine has answered to an operation. -/
  | executed (reply : ExecuteReply) (latency : Duration)
  /-- A queue has taken a sample. -/
  | queued (sample : Sample)
  /-- A sample was dropped. -/
  | lost (sample : Sample)
  deriving DecidableEq

/-- The call of the engine that is under way at a stage. -/
def Stage.call? : Stage → Option EngineCall
  | .opening => some .connect
  | .executing _ => some .execute
  | .closing _ => some .close
  | _ => none

/-- What comes to the worker in a step. -/
def heard (s : Shared) (w : Worker) (event : Event) : List Act :=
  match event, w.stage with
  | .opened reply, _ => [.opened reply]
  | .executed reply latency, _ => [.executed reply latency]
  | .release, _ => s.signal.startedAs?.toList.map .released
  | .send, .sending pending =>
    match offered s pending with
    | .queued => [.queued pending.sample]
    | .closed => [.lost pending.sample]
    | .full => []
  | .giveUp, .sending pending => [.lost pending.sample]
  | _, _ => []

/-- What a step adds to the story: what has come to the worker, and the call it makes then.  No step
    stays at the stage of a call, so a step that leads there begins the call. -/
def acts (s : Shared) (w : Worker) (event : Event) : List Act :=
  match step s w event with
  | none => []
  | some (_, w') => w.heard s event ++ w'.stage.call?.toList.map .called

/-! ### What a step can do -/

/-- The call after an operation has been dealt with: the next one of the batch, if any are left. -/
def nextCalls (left : Nat) : List Act := if left ≤ 1 then [] else [.called .execute]

/-- A step of a worker, with what it adds to the story. -/
inductive Move (s : Shared) (w : Worker) : Event → List Act → Shared → Worker → Prop where
  | start (at_ : w.stage = .spawned) :
      Move s w .start [.called .connect] s { w with state := .initializing, stage := .opening }
  | opened (at_ : w.stage = .opening) :
      Move s w (.opened (.opened true)) [.opened (.opened true)] s
        { w with state := .waitingForStart, stage := .announcing }
  | refused {reply : OpenReply} {cause : EngineError} (at_ : w.stage = .opening)
      (refusal : reply.refusal? = some cause) :
      Move s w (.opened reply) [.opened reply, .called .close]
        (s.tell (.workerInitFailed w.id cause)) (w.close (.failed cause))
  | broken {message : String} (at_ : w.stage = .opening) :
      Move s w (.opened (.panicked message)) [.opened (.panicked message)] s
        { w with stage := .finished (.panicked message) }
  | announced (at_ : w.stage = .announcing) :
      Move s w .announce [] s { w with ready := true, stage := .waiting }
  | released (at_ : w.stage = .waiting) (told : s.signal.startedAs? = some .running) :
      Move s w .release [.released .running]
        (s.tell (.workerPacing w.id w.batchSize w.limiter.period))
        { w with state := .running, stage := .between }
  | dismissed {phase : Phase} (at_ : w.stage = .waiting)
      (told : s.signal.startedAs? = some phase) (idle : phase ≠ .running) :
      Move s w .release [.released phase, .called .close] (s.tell (.workerStoppedEarly w.id))
        (w.close (.executed 0))
  | stopped {event : Event}
      (at_ : event = .checkStop ∧ w.stage = .between ∨ event = .recheckStop ∧ w.stage = .permitted)
      (seen : s.signal.isStopped = true) :
      Move s w event [.called .close] s (w.close (.executed w.executed))
  | asked (at_ : w.stage = .between) (unseen : s.signal.isStopped = false) :
      Move s w .checkStop [] s { w with limiter := w.limiter.ask s.now, stage := .pacing }
  | permitted (at_ : w.stage = .pacing) (due : w.limiter.isDue s.now = true) :
      Move s w .permit [] s { w with limiter := w.limiter.grant s.now, stage := .permitted }
  | skipped (at_ : w.stage = .permitted) (unseen : s.signal.isStopped = false)
      (empty : w.batchSize = 0) : Move s w .recheckStop [] s { w with stage := .between }
  | begun (at_ : w.stage = .permitted) (unseen : s.signal.isStopped = false)
      (some : w.batchSize ≠ 0) :
      Move s w .recheckStop [.called .execute] s { w with stage := .executing w.batchSize }
  | returned (reply : ExecuteReply) {verdict : Verdict} {latency : Duration} {left : Nat}
      (at_ : w.stage = .executing left) (returns : reply.verdict? = some verdict) :
      Move s w (.executed reply latency) [.executed reply latency]
        (takeExecuted s w left latency reply).1
        { w with
          stage := .sending
            { sample := ⟨latency, verdict⟩, left, deadline := s.now + sampleSendTimeout.nanos } }
  | panicked {message : String} {latency : Duration} {left : Nat} (at_ : w.stage = .executing left) :
      Move s w (.executed (.panicked message) latency)
        [.executed (.panicked message) latency, .called .close] s (w.close (.panicked message))
  | queued {pending : Pending} {queue : Queue Duration} (at_ : w.stage = .sending pending)
      (taken : (s.queue pending.sample.verdict).offer pending.sample.latency = (queue, .queued)) :
      Move s w .send (.queued pending.sample :: nextCalls pending.left)
        (s.setQueue pending.sample.verdict queue) (w.proceed pending.left)
  | dropped {pending : Pending} {event : Event} {reason : Notice}
      (at_ : w.stage = .sending pending)
      (why : event = .send ∧ (s.queue pending.sample.verdict).isClosed = true ∧
          reason = .queueClosed ∨
        event = .giveUp ∧ mayGiveUp s pending = true ∧ reason = .queueFull sampleSendTimeout) :
      Move s w event (.lost pending.sample :: nextCalls pending.left) (s.lose reason)
        (w.proceed pending.left)
  | waited {pending : Pending} (at_ : w.stage = .sending pending)
      (full : (s.queue pending.sample.verdict).isFull = true) :
      Move s w .send [] s { w with stage := .sending { pending with refused := true } }
  | closed {ending : Ending} (at_ : w.stage = .closing ending) :
      Move s w .closed [] (takeClosed s w ending).1
        { w with state := .stopped, stage := .finished ending }
  | cancelled (at_ : w.isOver = false) (off : w.aborting = true) :
      Move s w .cancel [] s { w with stage := .cancelled }

theorem call?_proceed (w : Worker) (left : Nat) :
    (w.proceed left).stage.call?.toList.map Act.called = nextCalls left := by
  unfold proceed nextCalls
  split <;> rfl

/-- **A step does what one of the moves says.** -/
theorem move_of_step {s s' : Shared} {w w' : Worker} {event : Event}
    (h : step s w event = some (s', w')) : Move s w event (w.acts s event) s' w' := by
  rw [acts, h]
  cases event with
  | start =>
    cases at_ : w.stage <;> simp [step, at_] at h
    obtain ⟨rfl, rfl⟩ := h
    exact .start at_
  | opened reply =>
    cases at_ : w.stage <;> simp [step, at_] at h
    match reply with
    | .opened true =>
      obtain ⟨rfl, rfl⟩ := Prod.mk.inj h
      exact .opened at_
    | .opened false =>
      obtain ⟨rfl, rfl⟩ := Prod.mk.inj h
      exact .refused at_ rfl
    | .failed cause =>
      obtain ⟨rfl, rfl⟩ := Prod.mk.inj h
      exact .refused at_ rfl
    | .panicked message =>
      obtain ⟨rfl, rfl⟩ := Prod.mk.inj h
      exact .broken at_
  | announce =>
    cases at_ : w.stage <;> simp [step, at_] at h
    obtain ⟨rfl, rfl⟩ := h
    exact .announced at_
  | release =>
    cases at_ : w.stage <;> simp [step, at_] at h
    obtain ⟨phase, told, h⟩ := h
    simp only [heard, told]
    cases phase <;> obtain ⟨rfl, rfl⟩ := Prod.mk.inj h
    · exact .dismissed at_ told (by decide)
    · exact .released at_ told
    · exact .dismissed at_ told (by decide)
  | checkStop =>
    cases at_ : w.stage <;> simp [step, at_] at h
    split at h <;> obtain ⟨rfl, rfl⟩ := Prod.mk.inj (Option.some.inj h)
    · exact .stopped (.inl ⟨rfl, at_⟩) ‹_›
    · exact .asked at_ (eq_false_of_ne_true ‹_›)
  | permit =>
    cases at_ : w.stage <;> simp [step, at_] at h
    obtain ⟨due, rfl, rfl⟩ := h
    exact .permitted at_ due
  | recheckStop =>
    cases at_ : w.stage <;> simp [step, at_] at h
    split at h
    · obtain ⟨rfl, rfl⟩ := Prod.mk.inj (Option.some.inj h)
      exact .stopped (.inr ⟨rfl, at_⟩) ‹_›
    · have unseen := eq_false_of_ne_true ‹_›
      split at h <;> obtain ⟨rfl, rfl⟩ := Prod.mk.inj (Option.some.inj h)
      · exact .skipped at_ unseen ‹_›
      · exact .begun at_ unseen ‹_›
  | executed reply latency =>
    cases at_ : w.stage <;> simp [step, at_] at h
    cases reply with
    | ok =>
      obtain ⟨rfl, rfl⟩ := Prod.mk.inj h
      exact .returned .ok at_ rfl
    | failed cause =>
      obtain ⟨rfl, rfl⟩ := Prod.mk.inj h
      exact .returned (.failed cause) at_ rfl
    | panicked message =>
      obtain ⟨rfl, rfl⟩ := Prod.mk.inj h
      exact .panicked at_
  | send =>
    cases at_ : w.stage <;> simp [step, at_] at h
    rename_i pending
    simp only [heard, at_, offered]
    -- What is told and what is done are both decided by the answer of the queue.
    unfold trySend at h
    split at h <;> rename_i answer <;> obtain ⟨rfl, rfl⟩ := Prod.mk.inj h <;> rw [answer]
    · rw [call?_proceed]
      exact .queued at_ answer
    · rw [call?_proceed]
      exact .dropped at_ (.inl ⟨rfl, Queue.isClosed_of_offer answer, rfl⟩)
    · exact .waited at_ (Queue.isFull_of_offer answer)
  | giveUp =>
    cases at_ : w.stage <;> simp [step, at_] at h
    obtain ⟨late, rfl, rfl⟩ := h
    simp only [heard, at_]
    rw [call?_proceed]
    exact .dropped at_ (.inr ⟨rfl, late, rfl⟩)
  | closed =>
    cases at_ : w.stage <;> simp [step, at_] at h
    obtain ⟨rfl, rfl⟩ := Prod.mk.inj h
    exact .closed at_
  | cancel =>
    -- A worker can be called off wherever it is, unless it is over.
    cases at_ : w.stage <;> simp [step, at_] at h
    all_goals
      obtain ⟨off, rfl, rfl⟩ := h
      exact .cancelled (by simp [isOver, at_]) off

/-- Only its owner calls a worker off. -/
theorem Move.aborting_eq {acts : List Act} {s s' : Shared} {w w' : Worker} {event : Event}
    (move : Move s w event acts s' w') : w'.aborting = w.aborting := by
  cases move <;> rfl

/-- Nothing happens to a worker that is over. -/
theorem Move.alive {acts : List Act} {s s' : Shared} {w w' : Worker} {event : Event}
    (move : Move s w event acts s' w') : w.isOver = false := by
  cases move with
  | cancelled alive _ => exact alive
  | stopped at_ _ => rcases at_ with ⟨-, at_⟩ | ⟨-, at_⟩ <;> rw [isOver, at_]
  | start at_ | opened at_ | refused at_ _ | broken at_ | announced at_ | released at_ _
  | dismissed at_ _ _ | asked at_ _ | permitted at_ _ | skipped at_ _ _ | begun at_ _ _
  | returned _ at_ _ | panicked at_ | queued at_ _ | dropped at_ _ | waited at_ _ | closed at_ =>
    rw [isOver, at_]

/-- What a worker has told of being ready holds for good. -/
theorem Move.ready_of_ready {acts : List Act} {s s' : Shared} {w w' : Worker} {event : Event}
    (move : Move s w event acts s' w') (ready : w.ready = true) : w'.ready = true := by
  cases move with
  | announced _ => rfl
  | start | opened | refused | broken | released | dismissed | stopped | asked | permitted | skipped
  | begun | returned | panicked | queued | dropped | waited | closed | cancelled => exact ready

/-- The space between permits stays as it is. -/
theorem Move.period_eq {acts : List Act} {s s' : Shared} {w w' : Worker} {event : Event}
    (move : Move s w event acts s' w') : w'.limiter.period = w.limiter.period := by
  cases move <;> rfl

/-- A worker that goes on from the barrier goes on as the signal says. -/
theorem startedAs?_of_move {acts : List Act} {s s' : Shared} {w w' : Worker} {event : Event}
    {phase : Phase} (move : Move s w event acts s' w') (mem : .released phase ∈ acts) :
    s.signal.startedAs? = some phase := by
  cases move with
  | released at_ told =>
    simp only [List.mem_singleton, Act.released.injEq] at mem
    rw [mem]
    exact told
  | dismissed at_ told idle =>
    simp only [List.mem_cons, Act.released.injEq, reduceCtorEq, List.not_mem_nil, or_false] at mem
    rw [mem]
    exact told
  | queued | dropped =>
    unfold nextCalls at mem
    split at mem <;> simp at mem
  | start | opened | refused | broken | announced | stopped | asked | permitted | skipped | begun
  | returned | panicked | waited | closed | cancelled => simp at mem

/-! ### Lives -/

/-- A worker of a plan with its story so far.  The shared state is any at each step, so the others may
    do what they like in between. -/
inductive Life (id : Nat) (plan : RatePlan) : List Act → Worker → Prop where
  | spawned : Life id plan [] (.ofPlan id plan)
  | step {told : List Act} {s s' : Shared} {w w' : Worker} {event : Event}
      (life : Life id plan told w) (next : Worker.step s w event = some (s', w')) :
      Life id plan (told ++ w.acts s event) w'
  | calledOff {told : List Act} {w : Worker} (life : Life id plan told w) :
      Life id plan told { w with aborting := true }

/-- The space between permits is that of the plan. -/
theorem Life.period_eq {id : Nat} {plan : RatePlan} {told : List Act} {w : Worker}
    (life : Life id plan told w) : w.limiter.period = Limiter.periodOf plan.tokensPerSec := by
  induction life with
  | spawned => rfl
  | step life next ih => exact (move_of_step next).period_eq.trans ih
  | calledOff life ih => exact ih

theorem Move.aborting_of_cancelled {acts : List Act} {s s' : Shared} {w w' : Worker} {event : Event}
    (move : Move s w event acts s' w') (off : w'.stage = .cancelled) : w.aborting = true := by
  cases move with
  | cancelled _ aborting => exact aborting
  | queued _ _ | dropped _ _ =>
    -- The next stage depends on how much of the batch is left, and is no end in either case.
    simp only [proceed] at off
    split at off <;> cases off
  | start | opened | refused | broken | announced | released | dismissed | stopped | asked | permitted
  | skipped | begun | returned | panicked | waited | closed => cases off

/-- A worker that was called off was to be. -/
theorem Life.aborting_of_cancelled {id : Nat} {plan : RatePlan} {told : List Act} {w : Worker}
    (life : Life id plan told w) (off : w.stage = .cancelled) : w.aborting = true := by
  cases life with
  | spawned => cases off
  | step life next =>
    have move := move_of_step next
    rw [move.aborting_eq]
    exact move.aborting_of_cancelled off
  | calledOff life => rfl

/-! ### Stories -/

/-- Whether an act belongs to the operations between the release and the end. -/
def Act.isOperating : Act → Bool
  | .called .execute | .executed .. | .queued _ | .lost _ => true
  | _ => false

/-- Whether a worker at a stage has been released and has not begun to close its engine. -/
def Stage.isWorking : Stage → Bool
  | .between | .pacing | .permitted | .executing _ | .sending _ => true
  | _ => false

/-- What is told of a worker whose engine is open and ready. -/
def openedActs : List Act := [.called .connect, .opened (.opened true)]

/-- What can have been told of a worker at a stage, and whether it has told that it is ready. -/
inductive Story : List Act → Bool → Stage → Prop where
  | spawned : Story [] false .spawned
  | opening : Story [.called .connect] false .opening
  | broken (message : String) :
      Story [.called .connect, .opened (.panicked message)] false (.finished (.panicked message))
  | refused {reply : OpenReply} {cause : EngineError} {stage : Stage}
      (refusal : reply.refusal? = some cause)
      (at_ : stage = .closing (.failed cause) ∨ stage = .finished (.failed cause)) :
      Story [.called .connect, .opened reply, .called .close] false stage
  | announcing : Story openedActs false .announcing
  | waiting : Story openedActs true .waiting
  | dismissed {phase : Phase} {stage : Stage} (idle : phase ≠ .running)
      (at_ : stage = .closing (.executed 0) ∨ stage = .finished (.executed 0)) :
      Story (openedActs ++ [.released phase, .called .close]) true stage
  | working (told : List Act) {stage : Stage} (operating : ∀ act ∈ told, act.isOperating = true)
      (at_ : stage.isWorking = true) : Story (openedActs ++ .released .running :: told) true stage
  | left (told : List Act) {ending : Ending} {stage : Stage}
      (operating : ∀ act ∈ told, act.isOperating = true) (own : ∀ cause, ending ≠ .failed cause)
      (at_ : stage = .closing ending ∨ stage = .finished ending) :
      Story (openedActs ++ .released .running :: (told ++ [.called .close])) true stage
  | cancelled {told : List Act} {ready : Bool} {stage : Stage} (story : Story told ready stage) :
      Story told ready .cancelled

namespace Story

variable {told more : List Act} {ready : Bool} {stage stage' : Stage} {ending : Ending}

theorem of_spawned (story : Story told ready .spawned) : told = [] ∧ ready = false := by
  cases story <;> simp_all [Stage.isWorking]

theorem of_opening (story : Story told ready .opening) :
    told = [.called .connect] ∧ ready = false := by
  cases story <;> simp_all [Stage.isWorking]

theorem of_announcing (story : Story told ready .announcing) :
    told = openedActs ∧ ready = false := by
  cases story <;> simp_all [Stage.isWorking]

theorem of_waiting (story : Story told ready .waiting) : told = openedActs ∧ ready = true := by
  cases story <;> simp_all [Stage.isWorking]

/-- A worker that works has been released, and has told of nothing but operations since. -/
theorem of_working (story : Story told ready stage) (at_ : stage.isWorking = true) :
    ∃ before, told = openedActs ++ .released .running :: before ∧ ready = true ∧
      ∀ act ∈ before, act.isOperating = true := by
  cases story with
  | working _ operating _ => exact ⟨_, rfl, rfl, operating⟩
  | refused _ at' | dismissed _ at' | left _ _ _ at' => rcases at' with rfl | rfl <;> cases at_
  | spawned | opening | broken | announcing | waiting | cancelled => cases at_

/-- The story of a worker that works goes on with operations. -/
theorem operate (story : Story told ready stage) (at_ : stage.isWorking = true)
    (operating : ∀ act ∈ more, act.isOperating = true) (at' : stage'.isWorking = true) :
    Story (told ++ more) ready stage' := by
  obtain ⟨before, rfl, rfl, fine⟩ := story.of_working at_
  rw [List.append_assoc, List.cons_append]
  refine .working _ (fun act mem => ?_) at'
  exact (List.mem_append.mp mem).elim (fine act) (operating act)

/-- The operations of a worker end with the closing of its engine. -/
theorem leave (more : List Act) (story : Story told ready stage) (at_ : stage.isWorking = true)
    (operating : ∀ act ∈ more, act.isOperating = true) (own : ∀ cause, ending ≠ .failed cause) :
    Story (told ++ (more ++ [.called .close])) ready (.closing ending) := by
  obtain ⟨before, rfl, rfl, fine⟩ := story.of_working at_
  rw [List.append_assoc, List.cons_append, ← List.append_assoc before]
  refine .left _ (fun act mem => ?_) own (.inl rfl)
  exact (List.mem_append.mp mem).elim (fine act) (operating act)

/-- Closing an engine adds nothing to the story. -/
theorem close (story : Story told ready (.closing ending)) : Story told ready (.finished ending) := by
  cases story with
  | refused refusal at' =>
    rcases at' with h | h <;> cases h
    exact .refused refusal (.inr rfl)
  | dismissed idle at' =>
    rcases at' with h | h <;> cases h
    exact .dismissed idle (.inr rfl)
  | left told operating own at' =>
    rcases at' with h | h <;> cases h
    exact .left _ operating own (.inr rfl)
  | working _ _ at_ => cases at_

end Story

theorem isOperating_nextCalls (left : Nat) : ∀ act ∈ nextCalls left, act.isOperating = true := by
  unfold nextCalls
  split
  · nofun
  · simp [Act.isOperating]

/-- Settling a sample belongs to the operations, and so does the call after it. -/
theorem isOperating_settling {first : Act} (own : first.isOperating = true) (left : Nat) :
    ∀ act ∈ first :: nextCalls left, act.isOperating = true := by
  intro act mem
  obtain rfl | later := List.mem_cons.mp mem
  · exact own
  · exact isOperating_nextCalls left act later

theorem isWorking_proceed (w : Worker) (left : Nat) : (w.proceed left).stage.isWorking = true := by
  unfold proceed
  split <;> rfl

theorem isOver_proceed (w : Worker) (left : Nat) : (w.proceed left).isOver = false := by
  unfold proceed
  split <;> rfl

/-- A move carries the story on. -/
theorem Story.move {told acts : List Act} {s s' : Shared} {w w' : Worker} {event : Event}
    (story : Story told w.ready w.stage) (move : Move s w event acts s' w') :
    Story (told ++ acts) w'.ready w'.stage := by
  cases move with
  | start at_ =>
    rw [at_] at story
    obtain ⟨rfl, unready⟩ := story.of_spawned
    rw [unready]
    exact .opening
  | opened at_ =>
    rw [at_] at story
    obtain ⟨rfl, unready⟩ := story.of_opening
    rw [unready]
    exact .announcing
  | refused at_ refusal =>
    rw [at_] at story
    obtain ⟨rfl, unready⟩ := story.of_opening
    exact unready ▸ .refused refusal (.inl rfl)
  | broken at_ =>
    rw [at_] at story
    obtain ⟨rfl, unready⟩ := story.of_opening
    rw [unready]
    exact .broken _
  | announced at_ =>
    rw [at_] at story
    obtain ⟨rfl, -⟩ := story.of_announcing
    exact .waiting
  | released at_ told =>
    rw [at_] at story
    obtain ⟨rfl, ready⟩ := story.of_waiting
    rw [ready]
    exact .working [] nofun rfl
  | dismissed at_ told idle =>
    -- A worker that is not let run closes its engine at once.
    rw [at_] at story
    obtain ⟨rfl, ready⟩ := story.of_waiting
    exact ready ▸ .dismissed idle (.inl rfl)
  | stopped at_ seen =>
    -- The stop is seen before a permit is asked for, or after it was given.
    have working : w.stage.isWorking = true := by
      rcases at_ with ⟨-, h⟩ | ⟨-, h⟩ <;> rw [h] <;> rfl
    exact story.leave [] working nofun nofun
  | asked at_ _ | permitted at_ _ | skipped at_ _ _ | waited at_ _ =>
    exact story.operate (at_ ▸ rfl) nofun rfl
  | begun at_ _ _ | returned _ at_ _ =>
    exact story.operate (at_ ▸ rfl) (by simp [Act.isOperating]) rfl
  | panicked at_ =>
    exact story.leave [.executed _ _] (at_ ▸ rfl) (by simp [Act.isOperating]) nofun
  | queued at_ _ | dropped at_ _ =>
    exact story.operate (at_ ▸ rfl) (isOperating_settling rfl _) (isWorking_proceed w _)
  | closed at_ =>
    rw [at_] at story
    rw [List.append_nil]
    exact story.close
  | cancelled at_ off =>
    rw [List.append_nil]
    exact .cancelled story

/-- **Every life follows the story.** -/
theorem Life.story {id : Nat} {plan : RatePlan} {told : List Act} {w : Worker}
    (life : Life id plan told w) : Story told w.ready w.stage := by
  induction life with
  | spawned => exact .spawned
  | step life next ih => exact ih.move (move_of_step next)
  | calledOff life ih => exact ih

/-! ### What can be read off a story -/

/-- Operations are no part of the opening, the release or the closing. -/
theorem not_mem_of_operating {told : List Act} {act : Act}
    (operating : ∀ act ∈ told, act.isOperating = true) (other : act.isOperating = false) :
    act ∉ told := by
  intro mem
  rw [operating act mem] at other
  cases other

namespace Story

variable {told : List Act} {ready : Bool} {stage : Stage} {ending : Ending}

/-- An engine answers to being opened once. -/
theorem opened_unique {reply reply' : OpenReply} (story : Story told ready stage)
    (first : .opened reply ∈ told) (second : .opened reply' ∈ told) : reply = reply' := by
  induction story with
  | spawned | opening => simp at first
  | cancelled story ih => exact ih first second
  | broken | refused | announcing | waiting | dismissed =>
    simp [openedActs] at first second
    rw [first, second]
  | working told operating _ | left told operating _ _ =>
    -- Only the first acts answer; what comes after the release are operations and the closing.
    have none (r : OpenReply) : .opened r ∉ told := not_mem_of_operating operating rfl
    simp [openedActs, none] at first second
    rw [first, second]

/-- A worker that tells that it is ready has an engine that said so. -/
theorem opened_of_ready (story : Story told ready stage) (at_ : ready = true) :
    .opened (.opened true) ∈ told := by
  induction story with
  | spawned | opening | broken | refused | announcing => cases at_
  | waiting | dismissed | working | left => simp [openedActs]
  | cancelled story ih => exact ih at_

/-- A worker executes nothing unless it was released to run. -/
theorem released_of_execute (story : Story told ready stage) (execute : .called .execute ∈ told) :
    .released .running ∈ told := by
  induction story with
  | spawned | opening | broken | refused | announcing | waiting | dismissed =>
    simp [openedActs] at execute
  | working | left => simp
  | cancelled story ih => exact ih execute

/-- A worker that is over and was never released could not open its engine. -/
theorem unreleased (story : Story told ready (.finished ending))
    (never : ∀ phase, .released phase ∉ told) :
    (∃ reply cause, .opened reply ∈ told ∧ reply.refusal? = some cause ∧ ending = .failed cause) ∨
      ∃ message, .opened (.panicked message) ∈ told ∧ ending = .panicked message := by
  cases story with
  | broken message => exact .inr ⟨message, by simp, rfl⟩
  | refused refusal at_ =>
    obtain ⟨⟨⟩⟩ | ⟨⟨⟩⟩ := at_
    exact .inl ⟨_, _, by simp, refusal, rfl⟩
  | @dismissed phase => exact absurd (by simp) (never phase)
  | working told operating at_ => cases at_
  | left => exact absurd (by simp) (never .running)

/-- An engine is closed at most once. -/
theorem count_close_le (story : Story told ready stage) : told.count (.called .close) ≤ 1 := by
  induction story with
  | spawned | opening | broken | refused | announcing | waiting | dismissed => simp [openedActs]
  | working told operating _ | left told operating _ _ =>
    have none : told.count (.called .close) = 0 :=
      List.count_eq_zero.mpr (not_mem_of_operating operating rfl)
    simp [openedActs, none]
  | cancelled story ih => exact ih

/-- An engine whose opening broke off is never closed. -/
theorem count_close_of_broken {message : String} (story : Story told ready stage)
    (broken : .opened (.panicked message) ∈ told) : told.count (.called .close) = 0 := by
  induction story with
  | spawned | opening | announcing | waiting | dismissed => simp [openedActs] at broken
  | broken => simp
  | refused refusal at_ =>
    simp only [List.mem_cons, reduceCtorEq, Act.opened.injEq, List.not_mem_nil, or_false,
      false_or] at broken
    rw [← broken] at refusal
    cases refusal
  | working told operating _ | left told operating _ _ =>
    have none : .opened (.panicked message) ∉ told := not_mem_of_operating operating rfl
    simp [openedActs, none] at broken
  | cancelled story ih => exact ih broken

/-- The engine of a worker that has ended by itself was closed, unless opening it broke off. -/
theorem count_close_of_finished (story : Story told ready (.finished ending))
    (unbroken : ∀ message, .opened (.panicked message) ∉ told) :
    told.count (.called .close) = 1 := by
  cases story with
  | broken message => exact absurd (by simp) (unbroken message)
  | refused | dismissed => simp [openedActs]
  | working told operating at_ => cases at_
  | left told operating own at_ =>
    have none : told.count (.called .close) = 0 :=
      List.count_eq_zero.mpr (not_mem_of_operating operating rfl)
    simp [openedActs, none]

end Story

end Worker

end LoadGen
