import LoadGen.Limits
import LoadGen.Shared

namespace LoadGen

/-!
# Collectors

A collector moves samples from the two queues into the aggregator.  It looks at its stop flag, then
empties both queues, taking one sample of each in turn until a whole turn finds nothing.  When there
was nothing at all it ends if the flag was up, and rests for a while if not.

* `Collector.Stage` — where a collector is;
* `Collector.Event` — its steps, each of which looks at one thing only;
* `Collector.step` — one step, if the collector can take it now.
-/

/-- How a collector ends. -/
inductive CollectorEnding where
  /-- It was stopped after this number of samples. -/
  | collected (samples : Nat)
  | failed (error : RunError)
  | panicked (message : String)

/-- Where a collector is. -/
inductive Collector.Stage where
  /-- It is about to look at its stop flag. -/
  | looking
  /-- It is about to poll the queue of successes.  The flag read `stopping`, and `drained` samples have
      been taken since. -/
  | success (stopping : Bool) (drained : Nat)
  /-- It is about to poll the queue of errors; `idle` tells that the queue of successes was empty. -/
  | error (stopping : Bool) (drained : Nat) (idle : Bool)
  /-- It has taken a sample and is about to add it to the tally. -/
  | holding (stopping : Bool) (drained : Nat) (sample : Sample)
  /-- It rests until an instant. -/
  | resting (wake : Nat)
  /-- It is over. -/
  | finished (ending : CollectorEnding)

/-- A collector: where it is, what it has taken, and its stop flag. -/
structure Collector where
  stage : Collector.Stage := .looking
  collected : Nat := 0
  stop : Bool := false
  /-- Whether its owner has let go of it, which counts as a stop. -/
  released : Bool := false

namespace Collector

/-- The steps of a collector.  The step that adds a sample comes with the draw for the reservoir. -/
inductive Event where
  | look
  | pollSuccess
  | pollError
  | add (slot : Nat)
  | wake

/-- Ends a collector.  Nobody takes samples any more, so the queues close. -/
def finish (s : Shared) (c : Collector) (ending : CollectorEnding) : Shared × Collector :=
  (s.closeQueues, { c with stage := .finished ending })

/-- How a collector ends that could not add a sample. -/
def failedWith : Failure RunError → CollectorEnding
  | .refused error => .failed error
  | .broken fault => .panicked fault.message

/-- Where a collector goes on that has added a sample: at the other queue. -/
def afterAdding (stopping : Bool) (drained : Nat) : Verdict → Stage
  | .success => .error stopping drained false
  | .error => .success stopping drained

/-- Adds a sample to the tally. -/
def addSample (s : Shared) (c : Collector) (stopping : Bool) (drained : Nat) (sample : Sample)
    (slot : Nat) : Shared × Collector :=
  match s.aggregator.append sample slot with
  | (aggregator, .ok ()) =>
    ({ s with aggregator },
      { c with stage := afterAdding stopping (drained + 1) sample.verdict })
  | (aggregator, .error failure) => finish { s with aggregator } c (failedWith failure)

/-- Goes on after a turn of both queues. -/
def turn (s : Shared) (c : Collector) (stopping : Bool) (drained : Nat) (idle : Bool) :
    Shared × Collector :=
  -- Only a turn that found nothing ends the look.
  if !idle then (s, { c with stage := .success stopping drained })
  else
    let c := { c with collected := c.collected + drained }
    if drained != 0 then (s, { c with stage := .looking })
    else if stopping then
      finish (s.tell (.collectorExiting c.collected)) c (.collected c.collected)
    else (s, { c with stage := .resting (s.now + collectorIdleSleep.nanos) })

/-- One step of a collector, if it can take the step now. -/
def step (s : Shared) (c : Collector) (event : Event) : Option (Shared × Collector) :=
  match event, c.stage with
  | .look, .looking => some (s, { c with stage := .success (c.stop || c.released) 0 })
  | .pollSuccess, .success stopping drained =>
    match s.success.take? with
    | some (latency, queue) =>
      some (s.setQueue .success queue,
        { c with stage := .holding stopping drained ⟨latency, .success⟩ })
    | none => some (s, { c with stage := .error stopping drained true })
  | .pollError, .error stopping drained idle =>
    match s.error.take? with
    | some (latency, queue) =>
      some (s.setQueue .error queue, { c with stage := .holding stopping drained ⟨latency, .error⟩ })
    | none => some (turn s c stopping drained idle)
  | .add slot, .holding stopping drained sample =>
    some (addSample s c stopping drained sample slot)
  | .wake, .resting wake =>
    if wake ≤ s.now then some (s, { c with stage := .looking }) else none
  | _, _ => none

/-- The step that comes next, if the collector can go on. -/
def ownEvent? (s : Shared) (c : Collector) (slot : Nat) : Option Event :=
  match c.stage with
  | .looking => some .look
  | .success .. => some .pollSuccess
  | .error .. => some .pollError
  | .holding .. => some (.add slot)
  | .resting wake => if wake ≤ s.now then some .wake else none
  | .finished _ => none

/-- When a resting collector goes on. -/
def wakeAt? (c : Collector) : Option Nat :=
  match c.stage with
  | .resting wake => some wake
  | _ => none

/-- The end of a collector that is over. -/
def ending? (c : Collector) : Option CollectorEnding :=
  match c.stage with
  | .finished ending => some ending
  | _ => none

end Collector

end LoadGen
