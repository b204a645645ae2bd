import LoadGen.Command
import LoadGen.Rehearsal.Offline

namespace LoadGen.Main

/-!
# The `eb` command

Reads the words of the command line and prints what they lead to.  The command has no network of its
own: a run is rehearsed as on a machine that reaches nothing.
-/

/-- Prints the end of the command. -/
def leave (e : Exit) : IO UInt32 := do
  IO.print e.output
  IO.eprint e.errors
  return e.code

/-- Prints what the command breaks off with. -/
def breakOff (fault : Fault) : IO UInt32 := do
  IO.eprintln fault.message
  return 101

/-- Prints the log and the result of a run. -/
def play (config : RunConfig) (plan : RatePlan) (engine : ShippedEngine) : IO UInt32 := do
  let last := (Rehearsal.Performance.ofEngine .offline config plan engine).finish
  for notice in Notice.atLeast .info last.troupe.rig.shared.log do
    IO.eprintln notice.line
  match last.controller.result? with
  | some (.ok report) =>
    match report.text with
    | .ok text => leave (.printed (text ++ "\n"))
    | .error fault => breakOff fault
  | some (.error (.refused error)) => leave (.aborted error)
  | some (.error (.broken fault)) => breakOff fault
  | none => leave (.printed "")

end LoadGen.Main

/-- The `eb` command. -/
def main (words : List String) : IO UInt32 :=
  match LoadGen.Command.ofWords words with
  | .ok (.exit e) => LoadGen.Main.leave e
  | .ok (.run config plan engine) => LoadGen.Main.play config plan engine
  | .error fault => LoadGen.Main.breakOff fault
