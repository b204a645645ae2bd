import LoadGen.Duration

namespace LoadGen.Duration

/-!
# Scaled durations

The short form of a duration is one decimal number in the largest of the units s, ms, µs and ns that
it reaches, exact and without trailing zeros, such as `2.994011ms`.

* `scaleOf` — the unit of the short form;
* `scaled` — the short form.
-/

/-- Drops the zeros at the end of a list of digits. -/
def dropTrailingZeros (digits : List Char) : List Char :=
  (digits.reverse.dropWhile (· == '0')).reverse

/-- Digits of `n`, padded with zeros in front to a width. -/
def paddedDigits (width n : Nat) : List Char :=
  let digits := Nat.toDigits 10 n
  List.replicate (width - digits.length) '0' ++ digits

/-- Size and decimal places of the largest unit that the duration reaches, with its name. -/
def scaleOf (d : Duration) : Nat × Nat × String :=
  if nanosPerSec ≤ d.nanos then (nanosPerSec, 9, "s")
  else if nanosPerMilli ≤ d.nanos then (nanosPerMilli, 6, "ms")
  else if 1000 ≤ d.nanos then (1000, 3, "µs")
  else (1, 0, "ns")

/-- The short form. -/
def scaled (d : Duration) : String :=
  let (size, places, name) := d.scaleOf
  let fraction :=
    if d.nanos % size = 0 then [] else '.' :: dropTrailingZeros (paddedDigits places (d.nanos % size))
  s!"{d.nanos / size}" ++ String.ofList fraction ++ name

end LoadGen.Duration
