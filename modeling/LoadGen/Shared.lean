import LoadGen.Aggregator
import LoadGen.Metrics
import LoadGen.Queue
import LoadGen.Signal

namespace LoadGen

/-!
# What the tasks of a run share

The clock, the run signal, the two sample queues, the aggregator, the metrics and the log.  A task
works on this state one step at a time, in any order with the other tasks.

* `Shared.fresh`, `Shared.prepare` — the state before anything has happened;
* `Shared.queue`, `Shared.setQueue` — the queue of a verdict;
* `Shared.tell` — adds a notice to the log;
* `Shared.closeQueues` — what happens when nobody is left to take samples.
-/

/-- The state that all tasks of a run work on. -/
structure Shared where
  /-- Nanoseconds since the clock was started. -/
  now : Nat := 0
  signal : Signal := {}
  success : Queue Duration
  error : Queue Duration
  aggregator : Aggregator
  metrics : Metrics := {}
  /-- The log, newest notice first. -/
  notices : List Notice := []

namespace Shared

/-- The state before anything has happened. -/
def fresh (queueCapacity reservoirCapacity : Nat) : Shared :=
  { success := .empty queueCapacity, error := .empty queueCapacity
    aggregator := .empty reservoirCapacity }

/-- Bytes that a queue needs for a sample. -/
def sampleBytes : Nat := 24

/-- The state before anything has happened, if there can be such queues. -/
def prepare (queueCapacity reservoirCapacity : Nat) : Except Fault Shared := do
  if queueCapacity = 0 then throw .emptyQueue
  checkBuffer (queueCapacity * sampleBytes)
  return fresh queueCapacity reservoirCapacity

/-- The queue of a verdict. -/
def queue (s : Shared) : Verdict → Queue Duration
  | .success => s.success
  | .error => s.error

/-- Puts a queue in the place of the one of a verdict. -/
def setQueue (s : Shared) (verdict : Verdict) (queue : Queue Duration) : Shared :=
  match verdict with
  | .success => { s with success := queue }
  | .error => { s with error := queue }

/-- Adds a notice to the log. -/
def tell (s : Shared) (notice : Notice) : Shared := { s with notices := notice :: s.notices }

/-- Closes both queues. -/
def closeQueues (s : Shared) : Shared :=
  { s with success := s.success.close, error := s.error.close }

/-- Counts a lost sample and tells why it was lost. -/
def lose (s : Shared) (reason : Notice) : Shared :=
  { s with aggregator := s.aggregator.recordDropped }.tell reason

/-- The log, oldest notice first. -/
def log (s : Shared) : List Notice := s.notices.reverse

/-- The notices of operations that are in no sum, newest first. -/
def audits (s : Shared) : List Notice := s.notices.filter Notice.isAudit

@[simp] theorem setQueue_queue (s : Shared) (verdict : Verdict) :
    s.setQueue verdict (s.queue verdict) = s := by
  cases verdict <;> rfl

section SetQueue

variable (s : Shared) (verdict : Verdict) (queue : Queue Duration)

theorem aggregator_setQueue : (s.setQueue verdict queue).aggregator = s.aggregator := by
  cases verdict <;> rfl

theorem signal_setQueue : (s.setQueue verdict queue).signal = s.signal := by
  cases verdict <;> rfl

theorem now_setQueue : (s.setQueue verdict queue).now = s.now := by
  cases verdict <;> rfl

theorem metrics_setQueue : (s.setQueue verdict queue).metrics = s.metrics := by
  cases verdict <;> rfl

theorem audits_setQueue : (s.setQueue verdict queue).audits = s.audits := by
  cases verdict <;> rfl

end SetQueue

theorem queue_setQueue (s : Shared) (verdict v : Verdict) (queue : Queue Duration) :
    (s.setQueue verdict queue).queue v = if verdict = v then queue else s.queue v := by
  cases verdict <;> cases v <;> rfl

end Shared

end LoadGen
