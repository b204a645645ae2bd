import LoadGen.Duration.Unit
import LoadGen.Text.Blank
import LoadGen.Text.Integer

namespace LoadGen.Duration

/-!
# Reading durations

A duration is read from a bare count of seconds, or from numbers that are each followed by the name
of a unit, such as `1h 30m` or `1.5s`.  Blanks may stand anywhere between and inside the numbers.  The
text is read one character at a time:

* `Scan` — what has been read of the number under way;
* `Scan.next`, `step` — one character more;
* `finish` — the end of the text;
* `read` — the reading of numbers with units;
* `ofText` — the reading of either form.

Offsets in refusals count the bytes of the text.
-/

open LoadGen.Text

/-- Why a text is no duration. -/
inductive ReadError where
  /-- The text has no number. -/
  | empty
  /-- A number was expected where a search from `offset` met something else. -/
  | numberExpected (offset : Nat)
  /-- A character that can stand neither in a number nor in the name of a unit. -/
  | invalidCharacter (offset : Nat)
  /-- The number `count` has no unit. -/
  | unitNeeded (count : Nat)
  /-- No unit has the name `word`. -/
  | unknownUnit (word : String)
  /-- The length, or a part of it, has no exact representation. -/
  | unrepresentable
  deriving DecidableEq, Repr

/-- What is reported about a text that is no duration. -/
def ReadError.message : ReadError → String
  | empty => "value was empty"
  | numberExpected offset => s!"expected number at {offset}"
  | invalidCharacter offset => s!"invalid character at {offset}"
  | unitNeeded count => s!"time unit needed, for example {count}sec or {count}ms"
  | unknownUnit word =>
    s!"unknown time unit \"{word}\", supported units: ns, us/µs, ms, sec, min, hours, days, " ++
      "weeks, months, years (and few variations)"
  | unrepresentable =>
    "number is too large or cannot be represented without a lack of precision " ++
      "(values below 1ns are not supported)"

/-! ### Adding up spans -/

/-- A 64-bit word, or the refusal of an unrepresentable length. -/
def word? (n : Nat) : Except ReadError Nat :=
  if n < wordCount then .ok n else .error .unrepresentable

/-- Adds seconds and nanoseconds, each a 64-bit word.  The nanoseconds are carried by words as soon as
    they exceed a second; one whole second of them is left to the sum itself. -/
def addSpan (sum : Duration) (secs nanos : Nat) : Except (Failure ReadError) Duration := do
  let nanos ← Failure.lift (word? (sum.subsec + nanos))
  -- Exactly one second of nanoseconds is left as it is.
  let secs ← Failure.lift (word? (if nanosPerSec < nanos then secs + nanos / nanosPerSec else secs))
  let nanos := if nanosPerSec < nanos then nanos % nanosPerSec else nanos
  let secs ← Failure.lift (word? (sum.secs + secs))
  Fault.lift (ofParts secs nanos)

/-- The part of a number behind its point, `numerator / denominator`. -/
structure Fraction where
  numerator : Nat
  denominator : Nat
  deriving DecidableEq

/-- A fraction without digits. -/
def Fraction.none : Fraction := ⟨0, 1⟩

/-- Appends a digit. -/
def Fraction.push (f : Fraction) (digit : Nat) : Except ReadError Fraction := do
  let denominator ← word? (f.denominator * 10)
  let numerator ← word? (f.numerator * 10 + digit)
  return ⟨numerator, denominator⟩

/-- The fraction of a unit of size `size`, if it is a whole number. -/
def Fraction.of (f : Fraction) (size : Nat) : Except ReadError Nat := do
  let product ← word? (f.numerator * size)
  if product % f.denominator = 0 then return product / f.denominator
  else throw .unrepresentable

/-- Seconds and nanoseconds of a whole count of a unit. -/
def wholeSpan (count : Nat) : TimeUnit → Except ReadError (Nat × Nat)
  | .nanosecond => return (0, count)
  | .microsecond => return (0, ← word? (count * 1000))
  | .millisecond => return (0, ← word? (count * nanosPerMilli))
  | u => return (← word? (count * u.secs), 0)

/-- Seconds and nanoseconds of a fraction of a unit.  Up to minutes a fraction may be of nanoseconds,
    above it must be of whole seconds. -/
def fractionSpan (f : Fraction) : TimeUnit → Except ReadError (Nat × Nat)
  | .nanosecond => throw .unrepresentable
  | .microsecond => return (0, ← f.of 1000)
  | .millisecond => return (0, ← f.of nanosPerMilli)
  | .second => return (0, ← f.of nanosPerSec)
  | .minute => return (0, ← f.of (60 * nanosPerSec))
  | u => return (← f.of u.secs, 0)

/-- Adds a number with the unit named by `word`. -/
def addNumber (sum : Duration) (count : Nat) (fraction : Option Fraction) (word : String) :
    Except (Failure ReadError) Duration := do
  if word.isEmpty then refuse (.unitNeeded count)
  else match TimeUnit.ofWord? word with
    | none => refuse (.unknownUnit word)
    | some u =>
      let (secs, nanos) ← Failure.lift (wholeSpan count u)
      let sum ← addSpan sum secs nanos
      match fraction with
      | none => return sum
      | some f =>
        let (secs, nanos) ← Failure.lift (fractionSpan f u)
        addSpan sum secs nanos

/-! ### Character by character -/

/-- What has been read of the number under way. -/
inductive Scan where
  /-- No digit since the offset `start`. -/
  | gap (start : Nat)
  /-- The digits before the point. -/
  | whole (count : Nat)
  /-- The digits behind the point; `behind` is the offset behind the last character taken. -/
  | fraction (count : Nat) (fraction : Fraction) (behind : Nat)
  /-- The name of the unit, last letter first. -/
  | unit (count : Nat) (fraction : Option Fraction) (letters : List Char)

/-- Whether a character can stand in the name of a unit. -/
def isUnitLetter (c : Char) : Bool := c.isAlpha || c == 'µ'

/-- The name of a unit, from its letters, last letter first. -/
def unitName (letters : List Char) : String := String.ofList letters.reverse

/-- Whether a character ends the name of a unit. -/
def endsUnit (c : Char) : Bool := (digitValue? c).isSome || isBlank c

/-- Takes the character `c` at `offset`. -/
def Scan.next (offset : Nat) (c : Char) : Scan → Except ReadError Scan
  | .gap start =>
    match digitValue? c with
    | some digit => return .whole digit
    | none => if isBlank c then return .gap start else throw (.numberExpected start)
  | .whole count =>
    match digitValue? c with
    | some digit => return .whole (← word? (count * 10 + digit))
    | none =>
      if isBlank c then return .whole count
      else if isUnitLetter c then return .unit count none [c]
      else if c == '.' then return .fraction count .none offset
      else throw (.invalidCharacter offset)
  | .fraction count f behind =>
    match digitValue? c with
    | some digit => return .fraction count (← f.push digit) (offset + c.utf8Size)
    | none =>
      if isBlank c then return .fraction count f (offset + c.utf8Size)
      else if isUnitLetter c && f.denominator != 1 then return .unit count (some f) [c]
      else throw (.invalidCharacter behind)
  | .unit count f letters =>
    match digitValue? c with
    | some digit => return .whole digit
    | none =>
      if isBlank c then return .gap (offset + c.utf8Size)
      else if isUnitLetter c then return .unit count f (c :: letters)
      else throw (.invalidCharacter offset)

/-- Adds the number under way, once the character `c` ends the name of its unit. -/
def Scan.settle (sum : Duration) (c : Char) : Scan → Except (Failure ReadError) Duration
  | .unit count f letters =>
    if endsUnit c then addNumber sum count f (unitName letters) else .ok sum
  | _ => .ok sum

/-- Adds the number that the character `c` at `offset` ends, and takes the character. -/
def step (sum : Duration) (offset : Nat) (c : Char) (s : Scan) :
    Except (Failure ReadError) (Duration × Scan) := do
  let sum ← s.settle sum c
  return (sum, ← Failure.lift (s.next offset c))

/-- Ends the text.  A text that is blank throughout is refused as empty. -/
def finish (sum : Duration) (blank : Bool) : Scan → Except (Failure ReadError) Duration
  | .gap _ => if blank then refuse .empty else return sum
  | .whole count => addNumber sum count none ""
  | .fraction count f behind =>
    if f.denominator == 1 then refuse (.invalidCharacter behind)
    else addNumber sum count (some f) ""
  | .unit count f letters => addNumber sum count f (unitName letters)

/-- Reads the characters from `offset` on. -/
def scan (sum : Duration) (offset : Nat) (blank : Bool) (s : Scan) :
    List Char → Except (Failure ReadError) Duration
  | [] => finish sum blank s
  | c :: cs => do
    let (sum, s) ← step sum offset c s
    scan sum (offset + c.utf8Size) (blank && isBlank c) s cs

/-- Reads numbers with units. -/
def read (text : List Char) : Except (Failure ReadError) Duration :=
  scan zero 0 true (.gap 0) text

/-- Reads a duration: a bare integer counts seconds, all else has units. -/
def ofText (text : String) : Except (Failure ReadError) Duration :=
  match readUnsigned wordCount text.toList with
  | .ok secs => .ok (ofSecs secs)
  | .error _ => read text.toList

end LoadGen.Duration
