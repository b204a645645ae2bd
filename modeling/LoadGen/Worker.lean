import LoadGen.Limiter
import LoadGen.Limits
import LoadGen.Shared

namespace LoadGen

/-!
# Workers

A worker owns one engine.  It opens the engine, waits for the start, runs batches of operations at the
pace of its limiter until it sees the stop, and closes the engine.  Each operation is timed and leaves a
sample in the queue of its verdict.

A worker moves in small steps.  Some of them answer a call of the engine, and whoever runs the worker
chooses the answer; the others follow from the state alone, as soon as what they wait for has come.

* `Worker.Stage` — where a worker is;
* `Worker.Event` — the steps;
* `Worker.step` — one step, if the worker can take it now;
* `Worker.ownEvent?` — the step that needs no answer of the engine, if there is one now;
* `Worker.wakeAt?` — when a waiting worker can go on by itself.
-/

/-- What others see of the progress of a worker. -/
inductive WorkerState where
  | constructed | initializing | waitingForStart | running | stopped
  deriving DecidableEq, Repr

namespace WorkerState

/-- The name of a state. -/
def name : WorkerState → String
  | constructed => "Constructed"
  | initializing => "Initializing"
  | waitingForStart => "WaitingForStart"
  | running => "Running"
  | stopped => "Stopped"

/-- States in the order in which a worker goes through them. -/
def order : WorkerState → Nat
  | constructed => 0
  | initializing => 1
  | waitingForStart => 2
  | running => 3
  | stopped => 4

end WorkerState

/-- How opening an engine ends. -/
inductive OpenReply where
  /-- The call succeeded; `ready` is what the engine then says of itself. -/
  | opened (ready : Bool)
  | failed (cause : EngineError)
  | panicked (message : String)
  deriving DecidableEq

/-- How one operation ends. -/
inductive ExecuteReply where
  | ok
  | failed (cause : EngineError)
  | panicked (message : String)
  deriving DecidableEq

/-- How a worker ends. -/
inductive Ending where
  /-- The worker was stopped after this number of operations. -/
  | executed (operations : Nat)
  /-- The engine could not be opened. -/
  | failed (cause : EngineError)
  /-- A call of the engine broke off. -/
  | panicked (message : String)
  deriving DecidableEq

/-- One operation whose sample is on its way into a queue, and the operations of the batch that are
    left with it. -/
structure Pending where
  sample : Sample
  left : Nat
  /-- When the worker gives up waiting for room. -/
  deadline : Nat
  /-- Whether the queue was full when the worker looked at it last. -/
  refused : Bool := false
  deriving DecidableEq

/-- Where a worker is. -/
inductive Worker.Stage where
  /-- It has not been run yet. -/
  | spawned
  /-- The engine is being opened. -/
  | opening
  /-- The engine is open; the others have not been told that it is ready. -/
  | announcing
  /-- It waits for the start. -/
  | waiting
  /-- It is about to look at the stop before it asks for a permit. -/
  | between
  /-- It waits for a permit. -/
  | pacing
  /-- It has a permit and is about to look at the stop again. -/
  | permitted
  /-- An operation is under way; `left` operations of the batch are left with it. -/
  | executing (left : Nat)
  /-- The sample of an operation waits for its queue. -/
  | sending (pending : Pending)
  /-- The engine is being closed. -/
  | closing (ending : Ending)
  /-- It is over. -/
  | finished (ending : Ending)
  /-- It was called off. -/
  | cancelled
  deriving DecidableEq

/-- A worker, its limiter and what it has done. -/
structure Worker where
  id : Nat
  batchSize : Nat
  limiter : Limiter
  state : WorkerState := .constructed
  ready : Bool := false
  stage : Worker.Stage := .spawned
  /-- Operations of which the sample has been dealt with. -/
  executed : Nat := 0
  /-- Whether the worker is being called off. -/
  aborting : Bool := false

namespace Worker

/-- The worker of a plan. -/
def ofPlan (id : Nat) (plan : RatePlan) : Worker :=
  { id, batchSize := plan.batchSize, limiter := .ofRate plan.tokensPerSec }

/-- The steps of a worker. -/
inductive Event where
  /-- It is run for the first time and opens its engine. -/
  | start
  /-- The engine has answered to being opened. -/
  | opened (reply : OpenReply)
  /-- It tells that it is ready. -/
  | announce
  /-- Its wait for the start is over. -/
  | release
  /-- It looks at the stop before it asks for a permit. -/
  | checkStop
  /-- It gets its permit. -/
  | permit
  /-- It looks at the stop before it starts a batch. -/
  | recheckStop
  /-- An operation has ended after `latency`. -/
  | executed (reply : ExecuteReply) (latency : Duration)
  /-- It looks at its queue: the queue takes the sample, is full, or turns out to be closed. -/
  | send
  /-- It has waited for room long enough. -/
  | giveUp
  /-- The engine is closed. -/
  | closed
  /-- It is called off. -/
  | cancel
  deriving Inhabited

/-- Whether nothing can happen any more. -/
def isOver (w : Worker) : Bool :=
  match w.stage with
  | .finished _ | .cancelled => true
  | _ => false

/-- Starts closing the engine. -/
def close (w : Worker) (ending : Ending) : Worker := { w with stage := .closing ending }

/-- Goes on after an operation has been dealt with. -/
def proceed (w : Worker) (left : Nat) : Worker :=
  { w with
    executed := w.executed + 1
    stage := if left ≤ 1 then .between else .executing (left - 1) }

/-- Takes in how the engine was opened. -/
def takeOpened (s : Shared) (w : Worker) : OpenReply → Shared × Worker
  | .opened true => (s, { w with state := .waitingForStart, stage := .announcing })
  | .opened false => (s.tell (.workerInitFailed w.id .notReady), w.close (.failed .notReady))
  | .failed cause => (s.tell (.workerInitFailed w.id cause), w.close (.failed cause))
  | .panicked message => (s, { w with stage := .finished (.panicked message) })

/-- Goes on from the barrier into the phase that was announced there. -/
def takeRelease (s : Shared) (w : Worker) : Phase → Shared × Worker
  | .running =>
    (s.tell (.workerPacing w.id w.batchSize w.limiter.period),
      { w with state := .running, stage := .between })
  | _ => (s.tell (.workerStoppedEarly w.id), w.close (.executed 0))

/-- Counts an operation and takes its sample to the queue of its verdict. -/
def takeSample (s : Shared) (w : Worker) (left : Nat) (sample : Sample) : Shared × Worker :=
  ({ s with metrics := s.metrics.record sample.verdict },
    { w with
      stage := .sending { sample, left, deadline := s.now + sampleSendTimeout.nanos } })

/-- Takes in how an operation ended. -/
def takeExecuted (s : Shared) (w : Worker) (left : Nat) (latency : Duration) :
    ExecuteReply → Shared × Worker
  | .ok => takeSample s w left ⟨latency, .success⟩
  | .failed cause => takeSample (s.tell (.operationFailed cause)) w left ⟨latency, .error⟩
  | .panicked message => (s, w.close (.panicked message))

/-- Closes the books once the engine is closed. -/
def takeClosed (s : Shared) (w : Worker) (ending : Ending) : Shared × Worker :=
  (match ending with
    | .executed operations => s.tell (.workerExecuted w.id operations)
    | _ => s,
    { w with state := .stopped, stage := .finished ending })

/-- What its queue would do with a sample now. -/
def offered (s : Shared) (pending : Pending) : Offer :=
  ((s.queue pending.sample.verdict).offer pending.sample.latency).2

/-- Offers a sample to its queue.  A full queue lets the worker wait. -/
def trySend (s : Shared) (w : Worker) (pending : Pending) : Shared × Worker :=
  match (s.queue pending.sample.verdict).offer pending.sample.latency with
  | (queue, .queued) => (s.setQueue pending.sample.verdict queue, w.proceed pending.left)
  | (_, .closed) => (s.lose .queueClosed, w.proceed pending.left)
  | (_, .full) => (s, { w with stage := .sending { pending with refused := true } })

/-- Whether a worker that found its queue full has waited long enough.  Room that was made since it
    looked does not help it. -/
def mayGiveUp (s : Shared) (pending : Pending) : Bool :=
  pending.refused && pending.deadline ≤ s.now

/-- One step of a worker, if it can take the step now. -/
def step (s : Shared) (w : Worker) (event : Event) : Option (Shared × Worker) :=
  match event, w.stage with
  | .start, .spawned => some (s, { w with state := .initializing, stage := .opening })
  | .opened reply, .opening => some (takeOpened s w reply)
  | .announce, .announcing => some (s, { w with ready := true, stage := .waiting })
  | .release, .waiting => s.signal.startedAs?.map (takeRelease s w)
  | .checkStop, .between =>
    if s.signal.isStopped then some (s, w.close (.executed w.executed))
    else some (s, { w with limiter := w.limiter.ask s.now, stage := .pacing })
  | .permit, .pacing =>
    if w.limiter.isDue s.now then
      some (s, { w with limiter := w.limiter.grant s.now, stage := .permitted })
    else none
  | .recheckStop, .permitted =>
    if s.signal.isStopped then some (s, w.close (.executed w.executed))
    -- One permit is good for a whole batch.
    else if w.batchSize = 0 then some (s, { w with stage := .between })
    else some (s, { w with stage := .executing w.batchSize })
  | .executed reply latency, .executing left => some (takeExecuted s w left latency reply)
  | .send, .sending pending => some (trySend s w pending)
  | .giveUp, .sending pending =>
    if mayGiveUp s pending then
      some (s.lose (.queueFull sampleSendTimeout), w.proceed pending.left)
    else none
  -- What a broken call means for the worker comes out only after the engine is closed.
  | .closed, .closing ending => some (takeClosed s w ending)
  | .cancel, stage =>
    match stage with
    | .finished _ | .cancelled => none
    | _ => if w.aborting then some (s, { w with stage := .cancelled }) else none
  | _, _ => none

/-- The step that a worker takes by itself, if what it waits for has come. -/
def ownEvent? (s : Shared) (w : Worker) : Option Event :=
  if w.isOver then none
  else if w.aborting then some .cancel
  else match w.stage with
    | .spawned => some .start
    | .announcing => some .announce
    | .waiting => s.signal.startedAs?.map fun _ => .release
    | .between => some .checkStop
    | .pacing => if w.limiter.isDue s.now then some .permit else none
    | .permitted => some .recheckStop
    | .sending pending =>
      if !pending.refused || offered s pending != .full then some .send
      else if mayGiveUp s pending then some .giveUp
      else none
    | .opening | .executing _ | .closing _ | .finished _ | .cancelled => none

/-- When a worker that waits for the clock can go on. -/
def wakeAt? (w : Worker) : Option Nat :=
  match w.stage with
  | .pacing => w.limiter.due
  | .sending pending => some pending.deadline
  | _ => none

/-- Whether a call of the engine is under way. -/
def isCalling (w : Worker) : Bool :=
  match w.stage with
  | .opening | .executing _ | .closing _ => true
  | _ => false

end Worker

end LoadGen
