namespace LoadGen.Text

/-!
# Reading integers

An integer is an optional sign and ASCII digits, at least one.  A reader refuses the first character
that is no digit and the first digit with which the number leaves its range, whichever comes first.

* `digitValue?` — the value of a digit;
* `readMagnitude` — digits below a limit;
* `readUnsigned`, `readSigned` — the two grammars of signs.
-/

/-- Why a text is not an integer of the wanted range. -/
inductive IntegerError where
  | empty | invalidDigit | tooLarge | tooSmall
  deriving DecidableEq, Repr

/-- What is reported about a text that is no integer. -/
def IntegerError.message : IntegerError → String
  | empty => "cannot parse integer from empty string"
  | invalidDigit => "invalid digit found in string"
  | tooLarge => "number too large to fit in target type"
  | tooSmall => "number too small to fit in target type"

/-- The value of an ASCII digit. -/
def digitValue? (c : Char) : Option Nat :=
  if '0' ≤ c ∧ c ≤ '9' then some (c.toNat - '0'.toNat) else none

/-- Appends digits to `n` while the number stays below `limit`; `beyond` is the refusal beyond it. -/
def readMagnitude (limit : Nat) (beyond : IntegerError) : Nat → List Char → Except IntegerError Nat
  | n, [] => .ok n
  | n, c :: cs =>
    match digitValue? c with
    | none => .error .invalidDigit
    | some d => if 10 * n + d < limit then readMagnitude limit beyond (10 * n + d) cs else .error beyond

/-- Digits, at least one, of a number below `limit`. -/
def readDigits (limit : Nat) (beyond : IntegerError) : List Char → Except IntegerError Nat
  | [] => .error .invalidDigit
  | cs => readMagnitude limit beyond 0 cs

/-- A number below `limit` with an optional plus sign. -/
def readUnsigned (limit : Nat) : List Char → Except IntegerError Nat
  | [] => .error .empty
  | '+' :: cs => readDigits limit .tooLarge cs
  | cs => readDigits limit .tooLarge cs

/-- A number from `-limit` to `limit - 1` with an optional sign. -/
def readSigned (limit : Nat) : List Char → Except IntegerError Int
  | [] => .error .empty
  | '+' :: cs => (readDigits limit .tooLarge cs).map Int.ofNat
  | '-' :: cs => (readDigits (limit + 1) .tooSmall cs).map fun n => -Int.ofNat n
  | cs => (readDigits limit .tooLarge cs).map Int.ofNat

end LoadGen.Text
