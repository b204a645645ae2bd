import LoadGen.Controller
import LoadGen.Validate

namespace LoadGen

/-!
# Runs

A run is a controller with the rig it leads.  Its parts move one step at a time, in any order.

* `Run.Label` — what can happen in a run;
* `Run.step`, `Run.steps` — one step, and a sequence of them;
* `Run.fresh`, `Run.begin` — the run of a configuration that has been accepted.
-/

/-- A controller and its rig. -/
structure Run where
  rig : Rig
  controller : Controller

namespace Run

/-- What can happen in a run. -/
inductive Label where
  /-- Time passes, or a task takes a step. -/
  | rig (label : Rig.Label)
  /-- The controller takes a step. -/
  | controller

/-- One step of a run, if it can happen now. -/
def step (r : Run) : Label → Option Run
  | .rig label => (r.rig.step label).map fun rig => { r with rig }
  | .controller =>
    (Controller.step r.rig r.controller).map fun (rig, controller) => { rig, controller }

/-- The run that a sequence of steps leads to, if all can happen. -/
def steps (r : Run) : List Label → Option Run
  | [] => some r
  | label :: labels => do steps (← r.step label) labels

/-- The run of an accepted configuration, before its first step, with queues and a reservoir of some
    capacities.  `building` is what is told when an engine is built, and `description` what it says of
    itself. -/
def fresh (queueCapacity reservoirCapacity : Nat) (config : RunConfig) (plan : RatePlan)
    (building : List Notice) (description : String) : Run :=
  { rig :=
      { shared := (Shared.fresh queueCapacity reservoirCapacity).tell
          (.running config.threads.toNat config.rate.toNat config.duration plan) }
    controller := { config, plan, building, description } }

/-- The run of an accepted configuration, before its first step. -/
def begin (config : RunConfig) (plan : RatePlan) (building : List Notice) (description : String) :
    Run :=
  fresh sampleQueueCapacity defaultReservoirCapacity config plan building description

end Run

end LoadGen
