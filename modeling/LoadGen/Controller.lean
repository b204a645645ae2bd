import LoadGen.Config
import LoadGen.Number.Word
import LoadGen.Report
import LoadGen.Rig

namespace LoadGen

/-!
# Run controllers

A controller leads one run.  It spawns the workers, waits until all of them are ready, starts them
together, reports progress until the time is up, stops them, waits for them to finish, and makes the
report.  A worker that ends before it is ready fails the whole run.

* `Controller.Stage` — where a run is;
* `Controller.step` — one step, if the controller can go on now;
* `Controller.wakeAt?` — when a waiting controller can go on.

Every look at a worker, at the clock or at the aggregator is a step of its own.
-/

/-- What a run comes to. -/
abbrev RunResult := Except (Failure RunError) RunReport

/-- What has been found out by the end of a run: the time it took and what went wrong on the way. -/
structure Closing where
  elapsed : Duration
  failure : Option (Failure RunError) := none
  /-- Operations of the workers that ended regularly. -/
  executed : Nat := 0

/-- Where a run is. -/
inductive Controller.Stage where
  /-- Workers are being spawned. -/
  | spawning
  /-- The next look at the workers is due at `due`. -/
  | polling (due : Nat)
  /-- It is about to look whether a worker is ready. -/
  | asking (due worker : Nat)
  /-- The worker was not ready; it is about to look whether the worker is over. -/
  | examining (due worker : Nat)
  /-- No worker has failed; it is counting those that are ready. -/
  | counting (due worker ready : Nat)
  /-- The run has failed; workers are being called off. -/
  | callingOff (error : RunError) (worker : Nat)
  /-- All workers are ready; the collector is about to be spawned. -/
  | ready
  /-- The collector is there; the start is about to be given. -/
  | starting
  /-- The start was given; the clock is about to be read. -/
  | launching
  /-- It is about to choose the end of the next progress interval. -/
  | planning (start deadline : Nat)
  /-- It rests until the end of a progress interval. -/
  | resting (start deadline wake : Nat)
  /-- It has read the counts of a progress interval and is about to read the clock. -/
  | reporting (start deadline : Nat) (counts : Nat × Nat)
  /-- It is about to look whether the time is up. -/
  | checking (start deadline : Nat)
  /-- The stop is about to be given. -/
  | stopping (start : Nat) (failure : Option (Failure RunError))
  /-- It is about to stamp the time of the run. -/
  | stamping (start : Nat) (failure : Option (Failure RunError))
  /-- It is about to choose the end of the grace period. -/
  | pausing (closing : Closing)
  /-- It waits for a worker until the end of the grace period. -/
  | joining (closing : Closing) (deadline worker : Nat)
  /-- The collector is about to be told to stop. -/
  | retiring (closing : Closing)
  /-- It waits for the collector. -/
  | awaiting (closing : Closing)
  /-- It is about to read the counts. -/
  | tallying (closing : Closing) (collected : Nat)
  /-- It is about to read how many samples were lost. -/
  | auditing (closing : Closing) (collected : Nat) (counts : Nat × Nat)
  /-- It is about to compute the latency statistics. -/
  | summarizing (closing : Closing) (counts : Nat × Nat) (dropped : Nat)
  /-- It is over. -/
  | finished (result : RunResult)

/-- The leader of one run. -/
structure Controller where
  config : RunConfig
  plan : RatePlan
  /-- What is told whenever the engine of a worker is built. -/
  building : List Notice
  /-- What the engine of the first worker says of itself. -/
  description : String
  stage : Controller.Stage := .spawning
  /-- Progress reports, newest first. -/
  progress : List Progress := []

namespace Controller

/-- First instant, in nanoseconds, past the end of the clock. -/
abbrev clockEnd : Nat := signedWordCount * nanosPerSec

/-- How long stopped workers get: the grace period and one permit period. -/
def grace (plan : RatePlan) : Duration :=
  .clamped (stopGracePeriod.nanos + nanosPerSec / plan.tokensPerSec)

/-- The error that a worker means which is over without having been ready. -/
def readinessError (id : Nat) (w : Worker) : RunError :=
  match w.stage with
  | .finished (.failed cause) => .init id cause
  | .finished (.panicked message) => .exited id (panickedReason message)
  | .finished (.executed _) => .exited id "exited before becoming ready"
  | _ => .exited id cancelledReason

/-- Takes in a worker that is over: its operations, or a notice. -/
def takeEnded (r : Rig) (closing : Closing) (id : Nat) (w : Worker) : Rig × Closing :=
  match w.stage with
  | .finished (.executed operations) =>
    (r, { closing with executed := closing.executed + operations })
  | .finished (.failed cause) => (r.tell (.workerFailed id cause), closing)
  | .finished (.panicked message) => (r.tell (.workerExited id (panickedReason message)), closing)
  | _ => (r.tell (.workerExited id cancelledReason), closing)

/-- What a collector that is over has collected, or the failure it means. -/
def collectedOf : CollectorEnding → Except (Failure RunError) Nat
  | .collected samples => .ok samples
  | .failed error => refuse error
  | .panicked message => refuse (.collector (panickedReason message))

/-- Moves to a stage. -/
def goto (c : Controller) (r : Rig) (stage : Stage) : Rig × Controller := (r, { c with stage })

/-- Spawns the next worker, or goes on to the first look at the workers, which is due at once. -/
def spawnNext (r : Rig) (c : Controller) : Rig × Controller :=
  if r.workers.size < c.config.threads.toNat then
    let r := c.building.foldl Rig.tell r
    let r := if r.workers.isEmpty then r.tell (.engineProperties c.description) else r
    (r.spawn c.plan, c)
  else c.goto r (.polling r.shared.now)

/-- Ends the look at the workers: all are ready, or the next look comes an interval later. -/
def endCount (r : Rig) (c : Controller) (due ready : Nat) : Rig × Controller :=
  if ready = r.workers.size then c.goto (r.tell (.allReady ready)) .ready
  else c.goto r (.polling (due + readyPollInterval.nanos))

/-- Reads the clock at the start and fixes the end of the run. -/
def launch (r : Rig) (c : Controller) : Rig × Controller :=
  let start := r.shared.now
  let r := r.tell (.started c.config.engine c.config.host c.plan.threadRate)
  if start + c.config.duration.nanos < clockEnd then
    c.goto r (.planning start (start + c.config.duration.nanos))
  else c.goto r (.finished (.error (.broken .instantOverflow)))

/-- Ends the run with a report, or with what went wrong. -/
def conclude (r : Rig) (c : Controller) (closing : Closing) (counts : Nat × Nat) (dropped : Nat) :
    Rig × Controller :=
  let (r, summary) := r.aggregate Aggregator.summarize
  match summary with
  | .error failure => c.goto r (.finished (.error failure))
  | .ok latency =>
    let report : RunReport :=
      { success := counts.1, error := counts.2, dropped, elapsed := closing.elapsed, latency }
    match report.total, report.errorRate with
    | .ok total, .ok errorRate =>
      c.goto (r.tell (.complete total closing.elapsed errorRate)) (.finished (.ok report))
    | .error fault, _ | _, .error fault => c.goto r (.finished (.error (.broken fault)))

/-- One step of a controller, if it can go on now. -/
def step (r : Rig) (c : Controller) : Option (Rig × Controller) :=
  match c.stage with
  | .spawning => some (spawnNext r c)
  | .polling due => if due ≤ r.shared.now then some (c.goto r (.asking due 0)) else none
  | .asking due worker =>
    match r.workers[worker]? with
    | none => some (c.goto r (.counting due 0 0))
    | some w => some (c.goto r (if w.ready then .asking due (worker + 1) else .examining due worker))
  | .examining due worker =>
    match r.workers[worker]? with
    | none => some (c.goto r (.counting due 0 0))
    | some w =>
      if w.isOver then
        some (c.goto (r.signal Signal.stop) (.callingOff (readinessError worker w) 0))
      else some (c.goto r (.asking due (worker + 1)))
  | .counting due worker ready =>
    match r.workers[worker]? with
    | none => some (endCount r c due ready)
    | some w => some (c.goto r (.counting due (worker + 1) (if w.ready then ready + 1 else ready)))
  | .callingOff error worker =>
    if worker < r.workers.size then some (c.goto (r.abort worker) (.callingOff error (worker + 1)))
    else some (c.goto r (.finished (refuse error)))
  | .ready => some (c.goto r.collect .starting)
  | .starting => some (c.goto (r.signal Signal.start) .launching)
  | .launching => some (launch r c)
  | .planning start deadline =>
    some (c.goto r
      -- The last interval is cut to the end of the run.
      (.resting start deadline (min (r.shared.now + progressInterval.nanos) deadline)))
  | .resting start deadline wake =>
    if wake ≤ r.shared.now then
      match r.aggregate Aggregator.counts with
      | (r, .ok counts) => some (c.goto r (.reporting start deadline counts))
      | (r, .error failure) => some (c.goto r (.stopping start (some failure)))
    else none
  | .reporting start deadline counts =>
    let elapsed := Duration.clamped (r.shared.now - start)
    some (r, { c with
      stage := .checking start deadline
      progress := ⟨counts.1, counts.2, elapsed⟩ :: c.progress })
  | .checking start deadline =>
    some (c.goto r
      (if deadline ≤ r.shared.now then .stopping start none else .planning start deadline))
  | .stopping start failure => some (c.goto (r.signal Signal.stop) (.stamping start failure))
  | .stamping start failure =>
    let elapsed := Duration.clamped (r.shared.now - start)
    match r.aggregate (Aggregator.finish · elapsed) with
    | (r, .ok notice) =>
      some (c.goto ((notice.map r.tell).getD r) (.pausing { elapsed, failure }))
    | (r, .error stamped) => some (c.goto r (.pausing { elapsed, failure := some stamped }))
  | .pausing closing =>
    some (c.goto r (.joining closing (r.shared.now + (grace c.plan).nanos) 0))
  | .joining closing deadline worker =>
    match r.workers[worker]? with
    | none => some (c.goto r (.retiring closing))
    | some w =>
      -- A worker that is over is taken in even when the grace period has ended.
      if w.isOver then
        let (r, closing) := takeEnded r closing worker w
        some (c.goto r (.joining closing deadline (worker + 1)))
      else if deadline ≤ r.shared.now then
        let r := (r.tell (.workerBusy worker (grace c.plan))).abort worker
        some (c.goto r (.joining closing deadline (worker + 1)))
      else none
  | .retiring closing => some (c.goto r.stopCollector (.awaiting closing))
  | .awaiting closing =>
    match r.collector.bind Collector.ending? with
    | none => none
    | some ending =>
      -- What went wrong while the run went on comes before what went wrong with the collector.
      match closing.failure, collectedOf ending with
      | some failure, _ => some (c.goto r (.finished (.error failure)))
      | none, .error failure => some (c.goto r (.finished (.error failure)))
      | none, .ok collected => some (c.goto r (.tallying closing collected))
  | .tallying closing collected =>
    match r.aggregate Aggregator.counts with
    | (r, .ok counts) => some (c.goto r (.auditing closing collected counts))
    | (r, .error failure) => some (c.goto r (.finished (.error failure)))
  | .auditing closing collected counts =>
    let dropped := r.shared.aggregator.dropped
    let r :=
      if closing.executed = collected + dropped then r
      else r.tell (.unaccounted closing.executed collected dropped)
    some (c.goto r (.summarizing closing counts dropped))
  | .summarizing closing counts dropped => some (conclude r c closing counts dropped)
  | .finished _ => none

/-- When a controller that waits for the clock can go on. -/
def wakeAt? (c : Controller) : Option Nat :=
  match c.stage with
  | .polling due => some due
  | .resting _ _ wake => some wake
  | .joining _ deadline _ => some deadline
  | _ => none

/-- The result of a run that is over. -/
def result? (c : Controller) : Option RunResult :=
  match c.stage with
  | .finished result => some result
  | _ => none

end Controller

end LoadGen
