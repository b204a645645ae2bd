import LoadGen.Collector
import LoadGen.Worker

namespace LoadGen

/-!
# Rigs

A rig is the state that tasks share together with the tasks themselves: workers and a collector.  It
moves by steps of single tasks and by the passing of time.

* `Rig.Label` — what can happen;
* `Rig.step` — one step;
* `Rig.spawn`, `Rig.abort`, `Rig.collect`, `Rig.retire`, … — what the owner of the tasks does.
-/

/-- Shared state, workers in the order of their numbers, and the collector. -/
structure Rig where
  shared : Shared
  workers : Array Worker := #[]
  collector : Option Collector := none
  /-- Whether a collector can still be given the receiving ends of the queues. -/
  receivers : Bool := true

namespace Rig

/-- What can happen to a rig. -/
inductive Label where
  /-- Time passes. -/
  | pass (nanos : Nat)
  | worker (index : Nat) (event : Worker.Event)
  | collector (event : Collector.Event)

/-- Puts a worker in its place. -/
def setWorker (r : Rig) (index : Nat) (w : Worker) : Rig :=
  { r with workers := r.workers.setIfInBounds index w }

/-- One step of a rig, if it can happen now. -/
def step (r : Rig) : Label → Option Rig
  | .pass nanos => some { r with shared := { r.shared with now := r.shared.now + nanos } }
  | .worker index event => do
    let w ← r.workers[index]?
    let (shared, w) ← Worker.step r.shared w event
    return { r with shared }.setWorker index w
  | .collector event => do
    let c ← r.collector
    let (shared, c) ← Collector.step r.shared c event
    return { r with shared, collector := some c }

/-- The rigs that steps lead through, if all can happen. -/
def steps (r : Rig) : List Label → Option Rig
  | [] => some r
  | label :: labels => do steps (← r.step label) labels

/-! ### What the owner does -/

/-- Changes the run signal. -/
def signal (r : Rig) (change : Signal → Signal) : Rig :=
  { r with shared := { r.shared with signal := change r.shared.signal } }

/-- Adds a notice to the log. -/
def tell (r : Rig) (notice : Notice) : Rig := { r with shared := r.shared.tell notice }

/-- Adds the worker with the next number. -/
def spawn (r : Rig) (plan : RatePlan) : Rig :=
  { r with workers := r.workers.push (.ofPlan r.workers.size plan) }

/-- Calls off a worker that is not over. -/
def abort (r : Rig) (index : Nat) : Rig :=
  match r.workers[index]? with
  | some w => if w.isOver then r else r.setWorker index { w with aborting := true }
  | none => r

/-- Gives the receiving ends of the queues to a new collector, unless they are gone. -/
def collect (r : Rig) : Rig :=
  if r.receivers then { r with collector := some {}, receivers := false } else r

/-- Tells the collector to stop. -/
def stopCollector (r : Rig) : Rig :=
  { r with collector := r.collector.map fun c => { c with stop := true } }

/-- Lets go of the collector. -/
def releaseCollector (r : Rig) : Rig :=
  { r with collector := r.collector.map fun c => { c with released := true } }

/-- Lets go of the receiving ends of the queues, if no collector has them. -/
def dropReceivers (r : Rig) : Rig :=
  if r.receivers then { r with shared := r.shared.closeQueues, receivers := false } else r

/-- Offers a sample to its queue without waiting. -/
def offer (r : Rig) (sample : Sample) : Rig × Offer :=
  let (queue, offer) := (r.shared.queue sample.verdict).offer sample.latency
  ({ r with shared := r.shared.setQueue sample.verdict queue }, offer)

/-- Changes the aggregator by a step that has an answer. -/
def aggregate {α : Type} (r : Rig) (step : Aggregator → Aggregator × α) : Rig × α :=
  let (aggregator, answer) := step r.shared.aggregator
  ({ r with shared := { r.shared with aggregator } }, answer)

end Rig

end LoadGen
