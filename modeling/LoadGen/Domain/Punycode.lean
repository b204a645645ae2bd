namespace LoadGen.Domain

/-!
# ASCII forms of labels

A label of any characters is written in ASCII: its ASCII characters first, and behind a dash the others by
what each adds to the number of the one before.  Numbers are written in digits of base 36, the least
significant one first, and a digit below a threshold is the last one of its number.  Thresholds adapt to
the size of the numbers.

* `encode` — the ASCII form of a label;
* `decode?` — the label of an ASCII form.
-/

/-- The number of digits. -/
def digitCount : Nat := 36

/-- First code point that is not ASCII. -/
def firstCode : Nat := 0x80

/-- The bias of the first number. -/
def firstBias : Nat := 72

/-- First number that is too large to be written. -/
def numberLimit : Nat := 4294967296

/-- The digit of a value. -/
def digitOf (value : Nat) : Char :=
  if value < 26 then .ofNat ('a'.toNat + value) else .ofNat ('0'.toNat + (value - 26))

/-- The value of a digit. -/
def digitValue? (c : Char) : Option Nat :=
  if 'a' ≤ c ∧ c ≤ 'z' then some (c.toNat - 'a'.toNat)
  else if 'A' ≤ c ∧ c ≤ 'Z' then some (c.toNat - 'A'.toNat)
  else if '0' ≤ c ∧ c ≤ '9' then some (c.toNat - '0'.toNat + 26)
  else none

/-- The threshold for the digit with a number, which is counted in steps of 36. -/
def threshold (bias place : Nat) : Nat :=
  if place ≤ bias then 1 else min (place - bias) 26

theorem threshold_pos (bias place : Nat) : 0 < threshold bias place := by
  unfold threshold
  split <;> omega

/-- The bias that belongs to a size of numbers. -/
def biasOf (size steps : Nat) : Nat :=
  if 455 < size then biasOf (size / 35) (steps + digitCount)
  else steps + digitCount * size / (size + 38)
termination_by size

/-- The bias behind a number, with which so many characters are written. -/
def adapt (isFirst : Bool) (number characters : Nat) : Nat :=
  let size := if isFirst then number / 700 else number / 2
  biasOf (size + size / characters) 0

/-! ### Writing -/

/-- The digits of a number. -/
def numberDigits (bias place number : Nat) : List Char :=
  let t := threshold bias place
  if number < t then [digitOf number]
  else
    digitOf (t + (number - t) % (digitCount - t)) ::
      numberDigits bias (place + digitCount) ((number - t) / (digitCount - t))
termination_by number
decreasing_by
  have pos := threshold_pos bias place
  calc (number - threshold bias place) / (digitCount - threshold bias place)
      ≤ number - threshold bias place := Nat.div_le_self _ _
    _ < number := by omega

/-- What has been written of a label. -/
structure Encoding where
  written : List Char := []
  number : Nat := 0
  bias : Nat := firstBias
  /-- Characters of the label that are written. -/
  characters : Nat
  isFirst : Bool := true

/-- Goes past a character of the label while the characters of a code are written. -/
def Encoding.push (code : Nat) (e : Encoding) (c : Char) : Encoding :=
  if c.toNat < code then { e with number := e.number + 1 }
  else if c.toNat = code then
    { written := e.written ++ numberDigits e.bias digitCount e.number
      number := 0
      bias := adapt e.isFirst e.number (e.characters + 1)
      characters := e.characters + 1
      isFirst := false }
  else e

/-- Writes the characters of ascending codes, the first of which is at least `next`. -/
def encodeCodes (label : List Char) (e : Encoding) (next : Nat) : List Nat → List Char
  | [] => e.written
  | code :: codes =>
    let e := { e with number := e.number + (code - next) * (e.characters + 1) }
    let e := label.foldl (Encoding.push code) e
    encodeCodes label { e with number := e.number + 1 } (code + 1) codes

/-- The ASCII form of a label. -/
def encode (label : List Char) : List Char :=
  let plain := label.filter (·.toNat < firstCode)
  let codes := (((label.map Char.toNat).filter (firstCode ≤ ·)).mergeSort).eraseDups
  plain ++ (if plain.isEmpty then [] else ['-']) ++
    encodeCodes label { characters := plain.length } firstCode codes

/-! ### Reading -/

/-- What has been read of an ASCII form. -/
structure Decoding where
  label : List Char
  /-- The code of the last character. -/
  code : Nat := firstCode
  /-- The number under way, on top of the place behind the last character. -/
  sum : Nat := 0
  /-- The place behind the last character. -/
  start : Nat := 0
  /-- What the next digit counts. -/
  weight : Nat := 1
  /-- The number of the next digit, in steps of 36. -/
  place : Nat := digitCount
  bias : Nat := firstBias

/-- Puts the character of the number that has been read into its place. -/
def Decoding.insert? (d : Decoding) (sum : Nat) : Option Decoding :=
  let characters := d.label.length + 1
  let code := d.code + sum / characters
  let index := sum % characters
  if Nat.isValidChar code then
    some {
      label := d.label.insertIdx index (.ofNat code)
      code
      sum := index + 1
      start := index + 1
      bias := adapt (d.start = 0) (sum - d.start) characters }
  else none

/-- One digit more. -/
def Decoding.push? (d : Decoding) (c : Char) : Option Decoding := do
  let value ← digitValue? c
  let sum := d.sum + value * d.weight
  let t := threshold d.bias d.place
  let weight := d.weight * (digitCount - t)
  if numberLimit ≤ sum then none
  else if value < t then d.insert? sum
  else if numberLimit ≤ weight then none
  else some { d with sum, weight, place := d.place + digitCount }

/-- The label of an ASCII form.  What stands before the last dash stands for itself. -/
def decode? (form : List Char) : Option (List Char) := do
  let digits := (form.reverse.takeWhile (· != '-')).reverse
  let plain := (form.take (form.length - digits.length)).dropLast
  let d ← digits.foldlM Decoding.push? { label := plain }
  -- A number without its last digit is none.
  if d.weight = 1 then some d.label else none

end LoadGen.Domain
