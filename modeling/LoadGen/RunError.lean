import LoadGen.ConfigError
import LoadGen.Engine.Error

namespace LoadGen

/-!
# Run errors

The reasons for a run to end without a report.
-/

/-- Why a run ended without a report. -/
inductive RunError where
  /-- The configuration was refused. -/
  | config (cause : ConfigError)
  /-- A worker could not open its engine. -/
  | init (worker : Nat) (cause : EngineError)
  /-- A worker ended in no regular way. -/
  | exited (worker : Nat) (reason : String)
  /-- The collector ended in no regular way. -/
  | collector (reason : String)
  /-- A task broke off while it held the aggregator. -/
  | poisoned
  deriving DecidableEq, Repr

namespace RunError

/-- What is reported about a run without a report. -/
def message : RunError → String
  | config cause => "invalid configuration: " ++ cause.message
  | init worker cause => s!"worker {worker} failed to initialize: " ++ cause.message
  | exited worker reason => s!"worker {worker} exited abnormally: {reason}"
  | collector reason => s!"sample collector failed: {reason}"
  | poisoned => "latency aggregator lock is poisoned"

/-- The report of the error underneath, where there is one. -/
def cause? : RunError → Option String
  | config cause => some cause.message
  | init _ cause => some cause.message
  | exited _ _ | collector _ | poisoned => none

end RunError

/-!
### Tasks that end in no regular way

A task is named by the letter `N`, whatever its number.
-/

/-- How the end of a task that broke off is described. -/
def panickedReason (message : String) : String :=
  "task N panicked with message " ++ Text.quote message

/-- How the end of a task that was called off is described. -/
def cancelledReason : String := "task N was cancelled"

/-- The letter in place of the digits that a text begins with, if it begins with any. -/
def withoutNumber (text : String) : String :=
  let rest := text.toList.dropWhile Char.isDigit
  if rest.length = text.toList.length then text else "N" ++ String.ofList rest

/-- A text in which no task has a number. -/
def withoutTaskNumbers (text : String) : String :=
  -- The number of a task stands right behind the word.
  match text.splitOn "task " with
  | [] => text
  | first :: rest => "task ".intercalate (first :: rest.map withoutNumber)

end LoadGen
