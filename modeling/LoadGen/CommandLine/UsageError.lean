import LoadGen.CommandLine.Setting
import LoadGen.Text.Plain

namespace LoadGen

/-!
# Usage errors

The reasons to refuse a command line.
-/

/-- Why a command line is refused. -/
inductive UsageError where
  /-- A word that is no setting and no value. -/
  | unknownWord (word : String)
  /-- A value for an option that takes none. -/
  | unneededValue (option value : String)
  | missingValue (setting : Setting)
  | repeated (setting : Setting)
  /-- A value that is none of the possible ones. -/
  | otherChoice (setting : Setting) (value : String)
  | invalidValue (setting : Setting) (value reason : String)
  deriving DecidableEq, Repr

namespace UsageError

/-- What is reported about a refused command line.  Each of the given texts is made plain for itself,
    so that a control sequence that one of them leaves open does not reach the others. -/
def message : UsageError → String
  | unknownWord word =>
    let word := Text.plain word
    s!"unexpected argument '{word}' found"
  | unneededValue option value =>
    let value := Text.plain value
    s!"unexpected value '{value}' for '{option}' found; no more were expected"
  | missingValue setting => s!"a value is required for '{setting.shown}' but none was supplied"
  | repeated setting => s!"the argument '{setting.shown}' cannot be used multiple times"
  | otherChoice setting value =>
    let value := Text.plain value
    s!"invalid value '{value}' for '{setting.shown}'"
  | invalidValue setting value reason =>
    let value := Text.plain value
    let reason := Text.plain reason
    s!"invalid value '{value}' for '{setting.shown}': {reason}"

/-- The line that is printed about a refused command line. -/
def line (e : UsageError) : String := Text.firstLine ("error: " ++ e.message)

end UsageError

end LoadGen
