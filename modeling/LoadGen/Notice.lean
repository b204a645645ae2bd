import LoadGen.Duration.Scaled
import LoadGen.Duration.Written
import LoadGen.Engine.Error
import LoadGen.Number.Fixed
import LoadGen.RatePlan

namespace LoadGen

/-!
# Notices

What the parts of a run have to say while they work, each with its level.

* `Notice.level`, `Notice.text` — the level and the wording;
* `Notice.line` — a line of the log;
* `atLeast` — the notices of some levels and above.
-/

/-- How much a notice matters. -/
inductive Level where
  | debug | info | warn | error
  deriving DecidableEq, Repr

namespace Level

/-- The name of a level. -/
def name : Level → String
  | debug => "DEBUG"
  | info => "INFO"
  | warn => "WARN"
  | error => "ERROR"

/-- Levels in ascending order. -/
def order : Level → Nat
  | debug => 0
  | info => 1
  | warn => 2
  | error => 3

end Level

/-- Something worth telling. -/
inductive Notice where
  | running (threads rate : Nat) (duration : Duration) (plan : RatePlan)
  | engineProperties (description : String)
  | allReady (workers : Nat)
  | started (engine host : String) (threadRate : Nat)
  | complete (total : Nat) (elapsed : Duration) (errorRate : Rat)
  | unaccounted (executed collected dropped : Nat)
  | workerInitFailed (worker : Nat) (cause : EngineError)
  | workerStoppedEarly (worker : Nat)
  | workerPacing (worker batchSize : Nat) (period : Duration)
  | workerExecuted (worker operations : Nat)
  | operationFailed (cause : EngineError)
  | queueClosed
  | queueFull (waited : Duration)
  | workerFailed (worker : Nat) (cause : EngineError)
  | workerExited (worker : Nat) (reason : String)
  | workerBusy (worker : Nat) (grace : Duration)
  | collectorExiting (samples : Nat)
  | elapsedAlreadyStamped (ignored : Duration)
  | unknownMethod (method : String)

namespace Notice

/-- The level of a notice. -/
def level : Notice → Level
  | running .. | engineProperties _ | started .. | complete .. => .info
  | unaccounted .. | queueClosed | queueFull _ | workerBusy .. | elapsedAlreadyStamped _
  | unknownMethod _ => .warn
  | workerInitFailed .. | workerFailed .. | workerExited .. => .error
  | allReady _ | workerStoppedEarly _ | workerPacing .. | workerExecuted .. | operationFailed _
  | collectorExiting _ => .debug

/-- The wording of a notice. -/
def text : Notice → String
  | running threads rate duration plan =>
    s!"Running {threads} thread(s) at {rate} ops/sec for {duration.written} ({plan.shown})"
  | engineProperties description => s!"Engine properties:\n{description}"
  | allReady workers => s!"All {workers} workers ready"
  | started engine host threadRate =>
    s!"Started {engine} traffic to {host}, {threadRate} ops/sec per thread"
  | complete total elapsed errorRate =>
    s!"Run complete: {total} operations in {elapsed.written}, " ++
      s!"{fixedDecimal 2 (Binary64.mul errorRate 100)}% errors"
  | unaccounted executed collected dropped =>
    s!"Executed {executed} operations but aggregated {collected} (+{dropped} dropped)"
  | workerInitFailed worker cause => s!"Worker {worker} failed to initialize: {cause.message}"
  | workerStoppedEarly worker => s!"Worker {worker} stopped before start"
  | workerPacing worker batchSize period =>
    s!"Worker {worker} pacing {batchSize} ops every {period.scaled}"
  | workerExecuted worker operations => s!"Worker {worker} executed {operations} operations"
  | operationFailed cause => s!"Operation failed: {cause.message}"
  | queueClosed => "Sample queue closed, dropping sample"
  | queueFull waited => s!"Sample queue full for {waited.written}, dropping sample"
  | workerFailed worker cause => s!"Worker {worker} failed: {cause.message}"
  | workerExited worker reason => s!"Worker {worker} exited abnormally: {reason}"
  | workerBusy worker grace =>
    s!"Worker {worker} still busy {grace.written} after stop, aborting it"
  | collectorExiting samples => s!"Collector exiting after {samples} samples"
  | elapsedAlreadyStamped ignored => s!"Elapsed time already stamped, ignoring {ignored.scaled}"
  | unknownMethod method => s!"Unrecognized HTTP method {Text.quote method}, using GET"

/-- Whether a notice says that the sums at the end of a run do not agree. -/
def isAudit : Notice → Bool
  | unaccounted .. => true
  | _ => false

/-- A line of the log. -/
def line (notice : Notice) : String := s!"{notice.level.name} {notice.text}"

/-- The notices of a level and above it. -/
def atLeast (level : Level) (notices : List Notice) : List Notice :=
  notices.filter fun notice => level.order ≤ notice.level.order

end Notice

end LoadGen
