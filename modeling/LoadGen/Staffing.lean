import LoadGen.Registry
import LoadGen.Run

namespace LoadGen

/-!
# Engines from a registry

A registry of factories builds the engine that a configuration names.  A controller asks the registry for
an engine before it spawns a worker.  A name without a factory ends the run, and so does a factory that
breaks off.

* `Factory` — how an engine is built;
* `Registry.build`, `Registry.obstacle?` — the engine of a configuration, or why there is none;
* `Controller.stepFrom`, `Run.stepFrom`, `Run.stepsFrom` — the steps of a run that takes its engines from
  a registry.
-/

/-- How an engine is built from a configuration. -/
abbrev Factory (α : Type) := RunConfig → Except Fault α

variable {α : Type}

namespace Registry

/-- The engine that a configuration names, by the factory of this name. -/
def build (registry : Registry (Factory α)) (config : RunConfig) : Option (Except Fault α) :=
  (registry.find? config.engine).map fun factory => factory config

/-- What keeps the engine of a configuration from being built. -/
def obstacle? (registry : Registry (Factory α)) (config : RunConfig) : Option (Failure RunError) :=
  match registry.build config with
  | none => some (.refused (.config (.unsupportedEngine config.engine registry.names)))
  | some (.error fault) => some (.broken fault)
  | some (.ok _) => none

end Registry

namespace Controller

/-- Whether a worker is about to be spawned. -/
def isSpawning (r : Rig) (c : Controller) : Bool :=
  match c.stage with
  | .spawning => r.workers.size < c.config.threads.toNat
  | _ => false

/-- One step of a controller that takes the engines of its workers from a registry, if it can go on now.
    The workers that are already there are left alone when there is no engine for the next one. -/
def stepFrom (registry : Registry (Factory α)) (r : Rig) (c : Controller) : Option (Rig × Controller) :=
  if c.isSpawning r then
    match registry.obstacle? c.config with
    | some failure => some (c.goto r (.finished (.error failure)))
    | none => step r c
  else step r c

end Controller

namespace Run

/-- One step of a run that takes its engines from a registry, if it can happen now. -/
def stepFrom (registry : Registry (Factory α)) (r : Run) : Label → Option Run
  | .rig label => r.step (.rig label)
  | .controller =>
    (r.controller.stepFrom registry r.rig).map fun (rig, controller) => { rig, controller }

/-- The run that a sequence of such steps leads to, if all can happen. -/
def stepsFrom (registry : Registry (Factory α)) (r : Run) : List Label → Option Run
  | [] => some r
  | label :: labels => do stepsFrom registry (← r.stepFrom registry label) labels

end Run

end LoadGen
