import LoadGen.Rehearsal.Collecting

namespace LoadGen.Rehearsal

/-!
# Rehearsing a worker

One owner spawns a worker with a scripted engine, gives it signals, and looks at it from time to time.
At the end the owner lets go of the signal, waits for the worker, and then for the collector, if there
is one.

* `Working.Step` — what the owner does;
* `Working.Look` — what the owner sees of the worker after a step;
* `Working.Outcome` — what the owner finds at the end;
* `Working.rehearse` — the whole rehearsal.
-/

/-- What the owner does. -/
inductive Working.Step where
  | sleep (millis : Nat)
  | start
  | stop
  | dropSignal
  | dropReceivers
  | abort

/-- What the owner sees of the worker. -/
structure Working.Look where
  state : WorkerState
  ready : Bool
  /-- Operations that have begun. -/
  begun : Nat
  dropped : Nat

/-- What the owner finds at the end. -/
structure Working.Outcome where
  looks : List Working.Look
  worker : Worker
  player : Player
  /-- The clock when the worker was over, in milliseconds. -/
  ended : Nat
  /-- The lengths of the two queues then. -/
  queued : Nat × Nat
  /-- How the collector ended, if there was one. -/
  collector : Option CollectorEnding
  /-- The shared state after everything. -/
  shared : Shared

namespace Working

/-- A troupe of one worker with the number `id`, and a collector if `collected`. -/
def begin (id : Nat) (plan : RatePlan) (script : Script) (capacity : Nat) (collected : Bool) :
    Except Fault Troupe := do
  let shared ← Shared.prepare capacity defaultReservoirCapacity
  let rig : Rig := { shared, workers := #[.ofPlan id plan] }
  return {
    rig := if collected then rig.collect else rig
    players := #[{ script }]
    generator := .ofSeed 0 }

/-- The worker. -/
def worker? (t : Troupe) : Option Worker := t.rig.workers[0]?

/-- Changes the signal, unless it has been let go of. -/
def signal (t : Troupe) (change : Signal → Signal) : Troupe :=
  if t.rig.shared.signal.released then t else { t with rig := t.rig.signal change }

/-- One step of the owner. -/
def step (t : Troupe) : Step → Troupe
  | .sleep millis => Rehearsal.sleep Troupe.stage millis t
  | .start => signal t Signal.start
  | .stop => signal t Signal.stop
  | .dropSignal => signal t Signal.release
  | .dropReceivers => { t with rig := t.rig.dropReceivers }
  | .abort => { t with rig := t.rig.abort 0 }

/-- What the owner sees now. -/
def look (t : Troupe) (w : Worker) (p : Player) : Look :=
  { state := w.state, ready := w.ready, begun := p.executed
    dropped := t.rig.shared.aggregator.dropped }

/-- What the owner sees now, if there is a worker. -/
def look? (t : Troupe) : Option Look := do look t (← t.rig.workers[0]?) (← t.players[0]?)

/-- What the owner sees after every step, and the troupe after the last one. -/
def looks (t : Troupe) : List Step → List Look × Troupe
  | [] => ([], t)
  | s :: ss =>
    let t := step t s
    let (rest, last) := looks t ss
    ((look? t).toList ++ rest, last)

/-- Whether the worker is over. -/
def isOver (t : Troupe) : Bool := (worker? t).all Worker.isOver

/-- Lets go of the signal and waits for the worker. -/
def join (t : Troupe) : Troupe := playUntil Troupe.stage isOver (signal t Signal.release)

/-- The whole rehearsal.  The first look comes before the worker is spawned. -/
def rehearse (t : Troupe) (steps : List Step) : Option Outcome := do
  let first ← look? t
  let (looks, t) := looks t steps
  let joined := join t
  let last := if joined.rig.collector.isSome then (Collecting.finish { troupe := joined }).troupe
    else joined
  return {
    looks := first :: looks
    worker := ← worker? joined
    player := ← joined.players[0]?
    ended := joined.now / nanosPerMilli
    queued := (joined.rig.shared.success.size, joined.rig.shared.error.size)
    collector := last.rig.collector.bind Collector.ending?
    shared := last.rig.shared }

end Working

end LoadGen.Rehearsal
