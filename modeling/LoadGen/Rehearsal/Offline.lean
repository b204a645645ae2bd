import LoadGen.Engine.Shipped
import LoadGen.Rehearsal.Performance

namespace LoadGen.Rehearsal

/-!
# Rehearsing shipped engines

A shipped engine in a network whose answers are always the same has a script.

* `Script.ofEngine` — the script;
* `Performance.ofEngine` — the run of an accepted configuration.
-/

/-- A reply of an engine as a scripted one. -/
def ScriptedReply.ofCall : Except Fault (EngineSession × CallReply) → ScriptedReply
  | .ok (_, .ok ()) => .ok
  | .ok (_, .error cause) => .failed cause
  | .error fault => .panicked fault.message

/-- What the client of an engine keeps behind a call. -/
def sessionAfter (answer : Except Fault (EngineSession × CallReply)) : EngineSession :=
  (answer.toOption.map (·.1)).getD {}

/-- The script of an engine of which every operation ends like the first one, at once. -/
def Script.ofEngine (network : Network) (e : ShippedEngine) : Script :=
  let connected := e.call network {} .connect
  let session := sessionAfter connected
  let executed := e.call network session .execute
  { init := .ofCall connected
    ready := session.ready
    ops := #[(0, .ofCall executed)]
    description := e.describe }

/-- The run of an accepted configuration with its shipped engine. -/
def Performance.ofEngine (network : Network) (config : RunConfig) (plan : RatePlan)
    (e : ShippedEngine) : Performance :=
  .begin config plan (e.notices config) #[.ofEngine network e]

end LoadGen.Rehearsal
