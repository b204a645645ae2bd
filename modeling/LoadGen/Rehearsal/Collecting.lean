import LoadGen.Rehearsal.Troupe

namespace LoadGen.Rehearsal

/-!
# Rehearsing a collector

One owner offers samples, spawns a collector, and looks at the queues and at the statistics.  The
collector moves only while the owner sleeps or waits for it.

* `Collecting` — the rig, and whether the owner has a collector at hand;
* `Collecting.Step`, `Collecting.Reply` — what the owner does, and what it finds;
* `Collecting.replies` — the replies to a sequence of steps.
-/

/-- A rig without workers, and whether its owner has a collector at hand. -/
structure Collecting where
  troupe : Troupe
  atHand : Bool := false

/-- What the owner does. -/
inductive Collecting.Step where
  | spawn
  | offer (sample : Sample)
  | close
  | closeErrors
  | dropReceivers
  | sleep (millis : Nat)
  | counts
  | queued
  | summarize
  | dropCollector
  | shutdown

/-- What the owner finds. -/
inductive Collecting.Reply where
  | done
  | answer (yes : Bool)
  | offered (offer : Offer)
  | pair (success error : Nat)
  | summary (summary : LatencySummary)
  | ended (ending : CollectorEnding)
  | noCollector
  | failed (failure : Failure RunError)

namespace Collecting

/-- The state before the first step. -/
def begin (queueCapacity reservoirCapacity : Nat) (generator : Generator) : Except Fault Collecting := do
  let shared ← Shared.prepare queueCapacity reservoirCapacity
  return { troupe := { rig := { shared }, generator } }

/-- What all tasks share. -/
def shared (c : Collecting) : Shared := c.troupe.rig.shared

/-- The state with another rig. -/
def setRig (c : Collecting) (rig : Rig) : Collecting := { c with troupe := { c.troupe with rig } }

/-- The state with other shared state. -/
def setShared (c : Collecting) (shared : Shared) : Collecting :=
  c.setRig { c.troupe.rig with shared }

/-- Lets go of the collector. -/
def drop (c : Collecting) : Collecting :=
  { c.setRig c.troupe.rig.releaseCollector with atHand := false }

/-- Whether the collector is over. -/
def isOver (t : Troupe) : Bool := (t.rig.collector.bind Collector.ending?).isSome

/-- Tells the collector to stop and waits for it. -/
def finish (c : Collecting) : Collecting :=
  let troupe := playUntil Troupe.stage isOver { c.troupe with rig := c.troupe.rig.stopCollector }
  { troupe, atHand := false }

/-- The reply to a look at the aggregator. -/
def look {α : Type} (reply : α → Reply) : Except (Failure RunError) α → Reply
  | .ok a => reply a
  | .error failure => .failed failure

/-- One step of the owner. -/
def step (c : Collecting) : Step → Collecting × Reply
  | .spawn =>
    if c.troupe.rig.receivers then ({ c.setRig c.troupe.rig.collect with atHand := true }, .answer true)
    else (c.drop, .answer false)
  | .offer sample =>
    let (rig, offer) := c.troupe.rig.offer sample
    (c.setRig rig, .offered offer)
  | .close => (c.setShared c.shared.closeQueues, .done)
  | .closeErrors =>
    (c.setShared { c.shared with error := c.shared.error.close }, .answer !c.shared.error.isClosed)
  | .dropReceivers =>
    (c.setRig c.troupe.rig.dropReceivers, .answer c.troupe.rig.receivers)
  | .sleep millis =>
    ({ c with troupe := Rehearsal.sleep Troupe.stage millis c.troupe }, .done)
  | .counts =>
    let (rig, counts) := c.troupe.rig.aggregate Aggregator.counts
    (c.setRig rig, look (fun p => .pair p.1 p.2) counts)
  | .queued => (c, .pair c.shared.success.size c.shared.error.size)
  | .summarize =>
    let (rig, summary) := c.troupe.rig.aggregate Aggregator.summarize
    (c.setRig rig, look .summary summary)
  | .dropCollector => (if c.atHand then c.drop else c, .answer c.atHand)
  | .shutdown =>
    if !c.atHand then (c, .noCollector)
    else
      let c := c.finish
      (c, ((c.troupe.rig.collector.bind Collector.ending?).map .ended).getD .noCollector)

/-- The replies to a sequence of steps, and the state after them. -/
def replies (c : Collecting) : List Step → List Reply × Collecting
  | [] => ([], c)
  | s :: ss =>
    let (c, reply) := c.step s
    let (rest, c) := replies c ss
    (reply :: rest, c)

end Collecting

end LoadGen.Rehearsal
