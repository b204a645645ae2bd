namespace LoadGen.Binary64

/-!
# Binary64 arithmetic on rationals

A binary64 number that is not negative and finite is a rational `m * 2 ^ e` with `m < 2 ^ 53` and
`-1074 ≤ e`.  An operation takes its exact rational result to the nearest such number, an even `m`
winning a tie.  The largest exponent is not limited: the results of this library stay far below it.

* `roundEven` — a fraction to the nearest integer, ties to the even one;
* `spacing` — the exponent of the grid around a rational;
* `nearest` — a rational to the nearest binary64 number;
* `add`, `sub`, `mul`, `div`, `ofNat` — the rounded operations;
* `bits` — the word that stands for a number.
-/

/-- The integer nearest to `num / den`, a tie going to the even neighbour. -/
def roundEven (num den : Nat) : Nat :=
  let q := num / den
  let r := num % den
  if 2 * r < den then q else if den < 2 * r then q + 1 else q + q % 2

/-- Two to the power of `k`. -/
def powerOfTwo (k : Nat) : Nat := Nat.pow 2 k

/-- The exponent `k` with `2 ^ k ≤ num / den < 2 ^ (k + 1)`, for positive `num` and `den`. -/
def magnitude (num den : Nat) : Int :=
  let k : Int := (num.log2 : Int) - den.log2
  -- The difference of the lengths is the exponent, or one more than it.
  let reaches : Bool :=
    if 0 ≤ k then den * powerOfTwo k.toNat ≤ num else den ≤ num * powerOfTwo (-k).toNat
  if reaches then k else k - 1

/-- The exponent of the grid on which 53 binary digits show `num / den`. -/
def spacing (num den : Nat) : Int := max (magnitude num den - 52) (-1074)

/-- `num / den` measured in units of `2 ^ e`, as a fraction of naturals. -/
def scale (num den : Nat) (e : Int) : Nat × Nat :=
  if 0 ≤ e then (num, den * powerOfTwo e.toNat) else (num * powerOfTwo (-e).toNat, den)

/-- The rational `m * 2 ^ e`. -/
def value (m : Nat) (e : Int) : Rat :=
  if 0 ≤ e then ((m * powerOfTwo e.toNat : Nat) : Rat) else mkRat m (powerOfTwo (-e).toNat)

/-- The binary64 number nearest to a rational; numbers below zero are taken as zero. -/
def nearest (x : Rat) : Rat :=
  if x ≤ 0 then 0
  else
    let num := x.num.toNat
    let e := spacing num x.den
    let (n, d) := scale num x.den e
    value (roundEven n d) e

/-! ### Operations -/

/-- A natural number as a binary64 number. -/
def ofNat (n : Nat) : Rat := nearest n

/-- The rounded sum. -/
def add (x y : Rat) : Rat := nearest (x + y)

/-- The rounded difference of a number and one that does not exceed it. -/
def sub (x y : Rat) : Rat := nearest (x - y)

/-- The rounded product. -/
def mul (x y : Rat) : Rat := nearest (x * y)

/-- The rounded quotient. -/
def div (x y : Rat) : Rat := nearest (x / y)

/-- The part of a number behind its point, which is exact. -/
def fract (x : Rat) : Rat := x - x.floor

/-- The nearest natural number, a half going up. -/
def roundHalfUp (x : Rat) : Nat := (x + 1 / 2).floor.toNat

/-! ### Words -/

/-- The word of a binary64 number. -/
def bits (x : Rat) : Nat :=
  if x ≤ 0 then 0
  else
    let num := x.num.toNat
    let e := spacing num x.den
    let (n, d) := scale num x.den e
    let m := n / d
    let leading := powerOfTwo 52
    -- Without its highest digit a number is subnormal, and its word is the multiple itself.
    if m < leading then m else (e + 1075).toNat * leading + (m - leading)

end LoadGen.Binary64
