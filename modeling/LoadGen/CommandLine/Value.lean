import LoadGen.CommandLine.UsageError
import LoadGen.Config
import LoadGen.Duration.Reader
import LoadGen.Net.SocketAddress
import LoadGen.Number.Word

namespace LoadGen

/-!
# Values of the command line

* `CommandLine` — what a command line asks for;
* `CommandLine.assign` — makes a setting, from the text of its value.
-/

/-- What a command line asks for. -/
structure CommandLine where
  config : RunConfig := { engine := "", host := "" }
  /-- Where metrics are to be served. -/
  metricsAddress : Option Net.SocketAddress := none

/-- What a command line can be answered with instead. -/
inductive Refusal where
  | usage (error : UsageError)
  | help
  | version
  deriving DecidableEq, Repr

namespace CommandLine

/-- What comes of reading something from a command line. -/
abbrev Reading (α : Type) := Except (Failure Refusal) α

/-- Refuses the value of a setting. -/
def invalid {α : Type} (s : Setting) (value reason : String) : Reading α :=
  refuse (.usage (.invalidValue s value reason))

/-- A 32-bit word.  A number of 64 bits is read before its range is looked at. -/
def readHalfWord (s : Setting) (value : String) : Reading UInt32 :=
  match Text.readSigned signedWordCount value.toList with
  | .error e => invalid s value e.message
  | .ok n =>
    if 0 ≤ n ∧ n < halfWordCount then .ok (.ofNat n.toNat)
    else invalid s value s!"{n} is not in 0..={halfWordCount - 1}"

/-- A 64-bit word. -/
def readWord (s : Setting) (value : String) : Reading UInt64 :=
  match Text.readUnsigned wordCount value.toList with
  | .error e => invalid s value e.message
  | .ok n => .ok (.ofNat n)

/-- Yes or no. -/
def readChoice (s : Setting) (value : String) : Reading Bool :=
  if value = "true" then .ok true
  else if value = "false" then .ok false
  else if value.isEmpty then refuse (.usage (.missingValue s))
  else refuse (.usage (.otherChoice s value))

/-- A length of time. -/
def readDuration (s : Setting) (value : String) : Reading Duration :=
  match Duration.ofText value with
  | .ok d => .ok d
  | .error (.refused e) => invalid s value e.message
  | .error (.broken fault) => .error (.broken fault)

/-- A socket address. -/
def readAddress (s : Setting) (value : String) : Reading Net.SocketAddress :=
  match Net.SocketAddress.ofText? value with
  | some address => .ok address
  | none => invalid s value "invalid socket address syntax"

/-- Changes the configuration. -/
def withConfig (c : CommandLine) (change : RunConfig → RunConfig) : CommandLine :=
  { c with config := change c.config }

/-- Changes the parameters that only some engines read. -/
def withOptions (c : CommandLine) (change : EngineOptions → EngineOptions) : CommandLine :=
  c.withConfig fun config => { config with options := change config.options }

/-- Makes a setting, from the text of its value. -/
def assign (c : CommandLine) (s : Setting) (value : String) : Reading CommandLine :=
  match s with
  | .host => .ok (c.withConfig ({ · with host := value }))
  | .engine => .ok (c.withConfig ({ · with engine := value }))
  | .rate => (readHalfWord s value).map fun rate => c.withConfig ({ · with rate })
  | .threads => (readHalfWord s value).map fun threads => c.withConfig ({ · with threads })
  | .duration => (readDuration s value).map fun duration => c.withConfig ({ · with duration })
  | .concurrency =>
    (readHalfWord s value).map fun concurrency => c.withConfig ({ · with concurrency })
  | .password => .ok (c.withOptions ({ · with password := value }))
  | .db => .ok (c.withOptions ({ · with db := value }))
  | .method => .ok (c.withOptions ({ · with method := value }))
  | .sql => .ok (c.withOptions ({ · with sql := value }))
  | .complexity => (readHalfWord s value).map fun complexity => c.withOptions ({ · with complexity })
  | .dataSize => (readWord s value).map fun dataSize => c.withOptions ({ · with dataSize })
  | .keepalive => (readChoice s value).map fun keepalive => c.withOptions ({ · with keepalive })
  | .topic => .ok (c.withOptions ({ · with topic := value }))
  | .body => .ok (c.withOptions ({ · with body := value }))
  | .metricsAddress =>
    (readAddress s value).map fun address => { c with metricsAddress := some address }

end CommandLine

end LoadGen
