import LoadGen.Rehearsal.Clock
import LoadGen.Rehearsal.Player
import LoadGen.Rig

namespace LoadGen.Rehearsal

/-!
# Rigs with scripted engines

A rig whose workers have scripted engines moves by itself.  A collector that has begun to look at the
queues goes on until it rests.  Otherwise, of the tasks that can move, the worker with the lowest number
goes first and the collector last.

* `Troupe` — a rig, its engines, and the generator of the draws for the reservoir;
* `Troupe.move?` — the state after the step that is taken next;
* `Troupe.timers` — the timers of all tasks.
-/

/-- A rig, the engine of each worker, and a generator. -/
structure Troupe where
  rig : Rig
  players : Array Player := #[]
  generator : Generator

namespace Troupe

/-- The clock. -/
def now (t : Troupe) : Nat := t.rig.shared.now

/-- The step that a worker can take now. -/
def workerEvent? (t : Troupe) (index : Nat) (w : Worker) : Option Worker.Event :=
  match Worker.ownEvent? t.rig.shared w with
  | some event => some event
  | none => (t.players[index]?).bind fun p => p.answer? t.now w

/-- The first worker that can take a step, from a number on, and its step. -/
def workerStep? (t : Troupe) : Nat → List Worker → Option (Nat × Worker.Event)
  | _, [] => none
  | index, w :: ws =>
    match t.workerEvent? index w with
    | some event => some (index, event)
    | none => workerStep? t (index + 1) ws

/-- The step of a worker, with its engine taking note of it. -/
def moveWorker? (t : Troupe) (index : Nat) (event : Worker.Event) : Option Troupe := do
  let rig ← t.rig.step (.worker index event)
  let w ← rig.workers[index]?
  let players := match t.players[index]? with
    | some p => t.players.setIfInBounds index ((p.note event).begin t.now w)
    | none => t.players
  return { t with rig, players }

/-- The step of the collector, with a draw for the sample it may take. -/
def moveCollector? (t : Troupe) : Option Troupe := do
  let c ← t.rig.collector
  let (slot, generator) := ((t.rig.shared.aggregator.tally.draw t.generator).toOption).getD
    (0, t.generator)
  let event ← Collector.ownEvent? t.rig.shared c slot
  -- A draw is used up only when there is a sample for it.
  let taken : Bool := match event with
    | .add _ => true
    | _ => false
  let rig ← t.rig.step (.collector event)
  return { t with rig, generator := if taken then generator else t.generator }

/-- Whether there is a collector that neither rests nor is over. -/
def isCollecting (t : Troupe) : Bool :=
  t.rig.collector.any fun c => c.wakeAt?.isNone && c.ending?.isNone

/-- The state after the next step, if a task can move. -/
def move? (t : Troupe) : Option Troupe :=
  if t.isCollecting then t.moveCollector?
  else match t.workerStep? 0 t.rig.workers.toList with
    | some (index, event) => t.moveWorker? index event
    | none => t.moveCollector?

/-- The timers of the workers and their engines. -/
def workerTimers (t : Troupe) : List Nat :=
  (t.rig.workers.toList.zip t.players.toList).flatMap fun (w, p) =>
    w.wakeAt?.toList ++ (if w.isCalling then [p.due] else [])

/-- The timers of all tasks. -/
def timers (t : Troupe) : List Nat :=
  t.workerTimers ++ (t.rig.collector.bind Collector.wakeAt?).toList

/-- Lets time pass. -/
def pass (t : Troupe) (nanos : Nat) : Troupe :=
  { t with rig := (t.rig.step (.pass nanos)).getD t.rig }

/-- What a rehearsal needs to know of a troupe. -/
def stage : Stage Troupe := { move?, timers, now, pass }

/-- Adds a worker with its engine. -/
def spawn (t : Troupe) (plan : RatePlan) (script : Script) : Troupe :=
  { t with rig := t.rig.spawn plan, players := t.players.push { script } }

end Troupe

end LoadGen.Rehearsal
