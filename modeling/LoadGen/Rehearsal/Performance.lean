import LoadGen.Rehearsal.Troupe
import LoadGen.Staffing

namespace LoadGen.Rehearsal

/-!
# Rehearsing a run

A whole run whose workers have scripted engines.  The controller moves before the workers and the
collector do.  A registry has the scripts under the name of the engine.

* `Performance` — a run on its way, with its registry;
* `Performance.stage` — how it moves;
* `Performance.finish` — the run at its end, and a little later.
-/

/-- A run on its way: its rig with the engines, its controller, and the registry of the engines. -/
structure Performance where
  troupe : Troupe
  controller : Controller
  /-- The scripts that workers get in turn, by the name of the engine. -/
  registry : Registry (Factory (Array Script))

namespace Performance

/-- The script of the worker with a number. -/
def script (p : Performance) (worker : Nat) : Script :=
  match p.registry.build p.controller.config with
  | some (.ok scripts) => (scripts[worker % scripts.size]?).getD ({} : Script)
  | _ => {}

/-- The run of an accepted configuration, before its first step.  `building` is what is told when an
    engine is built. -/
def begin (config : RunConfig) (plan : RatePlan) (building : List Notice) (scripts : Array Script) :
    Performance :=
  let description := ((scripts[0]?).getD ({} : Script)).description
  let run := Run.begin config plan building description
  { troupe := { rig := run.rig, generator := .ofSeed 0 }
    controller := run.controller
    registry := .ofHistory [(config.engine, fun _ => .ok scripts)] }

/-- Gives an engine to a worker that has just been spawned. -/
def equip (p : Performance) : Performance :=
  if p.troupe.players.size < p.troupe.rig.workers.size then
    let player : Player := { script := p.script p.troupe.players.size }
    { p with troupe := { p.troupe with players := p.troupe.players.push player } }
  else p

/-- The state after the next step, if anything can move. -/
def move? (p : Performance) : Option Performance :=
  match p.controller.stepFrom p.registry p.troupe.rig with
  | some (rig, controller) => some { p with troupe := { p.troupe with rig }, controller }.equip
  | none => p.troupe.move?.map fun troupe => { p with troupe }

/-- What a rehearsal needs to know of a performance. -/
def stage : Stage Performance where
  move? := move?
  timers p := p.controller.wakeAt?.toList ++ p.troupe.timers
  now p := p.troupe.now
  pass p nanos := { p with troupe := p.troupe.pass nanos }

/-- Whether the run is over. -/
def isOver (p : Performance) : Bool := p.controller.result?.isSome

/-- Plays a run to its end. -/
def finish (p : Performance) : Performance := playUntil stage isOver p

/-- What is left of a finished run a millisecond later.  The controller is gone, and with it the
    signal. -/
def aftermath (p : Performance) : Troupe :=
  playFor Troupe.stage nanosPerMilli { p.troupe with rig := p.troupe.rig.signal Signal.release }

/-- The instant at which the first operation of any worker began. -/
def firstBeginning (players : List Player) : Nat :=
  (players.flatMap fun p => p.starts.getLast?.toList).min?.getD 0

end Performance

end LoadGen.Rehearsal
