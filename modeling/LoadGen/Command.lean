import LoadGen.CommandLine.Help
import LoadGen.CommandLine.Reader
import LoadGen.Engine.Shipped
import LoadGen.RunError
import LoadGen.Validate

namespace LoadGen

/-!
# The command

What the words of a command line lead to: an answer at once, or a run.

* `Exit` — an end of the command, with what it prints;
* `Command.ofWords` — what words lead to.
-/

/-- An end of the command. -/
structure Exit where
  code : UInt32
  output : String := ""
  errors : String := ""
  deriving DecidableEq, Repr

namespace Exit

/-- The end of a command that was asked for a text. -/
def printed (text : String) : Exit := { code := 0, output := text }

/-- The end of a command whose words are refused. -/
def misused (error : UsageError) : Exit := { code := 2, errors := error.line ++ "\n" }

/-- The causes of an error, numbered if there are several. -/
def causeLines : List String → List String
  | [cause] => [s!"    {cause}"]
  | causes => causes.zipIdx.map fun (cause, i) => s!"    {i}: {cause}"

/-- The end of a command whose run has no report. -/
def aborted (error : RunError) : Exit :=
  let lines := ["Error: benchmark aborted", "", "Caused by:"] ++
    causeLines (error.message :: error.cause?.toList)
  { code := 1, errors := String.join (lines.map (· ++ "\n")) }

end Exit

/-- What words lead to. -/
inductive Command where
  | exit (exit : Exit)
  | run (config : RunConfig) (plan : RatePlan) (engine : ShippedEngine)

namespace Command

/-- What an accepted command line leads to. -/
def ofLine (line : CommandLine) : Except Fault Command :=
  let refused (error : ConfigError) : Except Fault Command := .ok (.exit (.aborted (.config error)))
  match line.config.validate shippedEngines, ShippedEngine.ofConfig? line.config with
  | .error (.broken fault), _ => .error fault
  | .error (.refused error), _ => refused error
  | .ok _, some (.error fault) => .error fault
  | .ok plan, some (.ok engine) => .ok (.run line.config plan engine)
  | .ok _, none => refused (.unsupportedEngine line.config.engine shippedEngines.names)

/-- The end of a command that is refused a run. -/
def exitOf : Refusal → Exit
  | .usage error => .misused error
  | .help => .printed CommandLine.helpText
  | .version => .printed CommandLine.versionText

/-- What words lead to. -/
def ofWords (words : List String) : Except Fault Command :=
  match CommandLine.ofWords words with
  | .ok line => ofLine line
  | .error (.refused refusal) => .ok (.exit (exitOf refusal))
  | .error (.broken fault) => .error fault

end Command

end LoadGen
