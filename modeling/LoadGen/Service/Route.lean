import LoadGen.Number.Word
import LoadGen.Text.Integer
import LoadGen.Text.Percent
import LoadGen.Text.Quoted
import LoadGen.Text.Split

namespace LoadGen.Service

/-!
# Routes of the mock service

A path has one of three shapes, or nobody is there for it.  The open places of a shape hold numbers,
which may be written with percent escapes.

* `Route.ofPath?` — the shape of a path;
* `Route.read` — the numbers in its open places;
* `Rejection` — the reasons to refuse them.
-/

/-- What stands in an open place. -/
inductive Parameter where
  | code | delay
  deriving DecidableEq, Repr

namespace Parameter

/-- The name of a parameter. -/
def name : Parameter → String
  | code => "code"
  | delay => "delay_ms"

/-- The name of the numbers that a parameter can be. -/
def kind : Parameter → String
  | code => "u16"
  | delay => "u64"

/-- First number that a parameter cannot be. -/
def limit : Parameter → Nat
  | code => quarterWordCount
  | delay => wordCount

end Parameter

/-- Why what stands in an open place is refused. -/
inductive Rejection where
  /-- Its bytes are no text. -/
  | notText (parameter : Parameter)
  /-- It is no number, in the only open place of its shape. -/
  | notNumber (parameter : Parameter) (value : String)
  /-- It is no number, in an open place of several, counted from zero. -/
  | notNumberAt (index : Nat) (parameter : Parameter) (value : String)
  deriving DecidableEq, Repr

/-- What is answered to a path that is refused. -/
def Rejection.message : Rejection → String
  | notText parameter => s!"Invalid URL: Invalid UTF-8 in `{parameter.name}`"
  | notNumber parameter value =>
    s!"Invalid URL: Cannot parse `{Text.quote value}` to a `{parameter.kind}`"
  | notNumberAt index parameter value =>
    s!"Invalid URL: Cannot parse value at index {index} with value `{Text.quote value}` " ++
      s!"to a `{parameter.kind}`"

/-- The shape of a path, with what stands in its open places. -/
inductive Route where
  | delay (millis : String)
  | status (code : String)
  | statusDelay (code millis : String)
  deriving DecidableEq, Repr

/-- What a handler is asked to do. -/
structure Order where
  /-- The wanted status. -/
  status : Nat
  /-- How long the answer is to be held back, in milliseconds. -/
  delay : Nat
  deriving DecidableEq, Repr

namespace Route

/-- The shape of a path.  An open place at the end of a path holds at least one character. -/
def ofPath? (path : String) : Option Route :=
  match Text.segments '/' path with
  | ["", "delay", "ms", millis] => if millis.isEmpty then none else some (.delay millis)
  | ["", "status", code] => if code.isEmpty then none else some (.status code)
  | ["", "status", code, "delay", "ms", millis] =>
    if millis.isEmpty then none else some (.statusDelay code millis)
  | _ => none

/-- The text that stands in an open place. -/
def decode (parameter : Parameter) (raw : String) : Except Rejection String :=
  match Text.percentDecodeText? raw with
  | some text => .ok text
  | none => .error (.notText parameter)

/-- The number that a text is. -/
def number? (parameter : Parameter) (text : String) : Option Nat :=
  (Text.readUnsigned parameter.limit text.toList).toOption

/-- The number in an open place, or a refusal. -/
def number (parameter : Parameter) (text : String) (refusal : Rejection) : Except Rejection Nat :=
  match number? parameter text with
  | some n => .ok n
  | none => .error refusal

/-- What a path asks for.  All texts are looked at before any number. -/
def read : Route → Except Rejection Order
  | .delay raw => do
    let millis ← decode .delay raw
    return ⟨200, ← number .delay millis (.notNumber .delay millis)⟩
  | .status raw => do
    let code ← decode .code raw
    return ⟨← number .code code (.notNumber .code code), 0⟩
  | .statusDelay rawCode rawMillis => do
    let code ← decode .code rawCode
    let millis ← decode .delay rawMillis
    return ⟨← number .code code (.notNumberAt 0 .code code),
      ← number .delay millis (.notNumberAt 1 .delay millis)⟩

end Route

end LoadGen.Service
