import LoadGen.Number.Binary64

namespace LoadGen

/-!
# Fixed decimals

A number written with a fixed count of decimal places: the nearest such decimal, an even last digit
winning a tie.

* `fixedDecimal` — the written form.
-/

/-- The number with `places` digits behind the point, at least one. -/
def fixedDecimal (places : Nat) (x : Rat) : String :=
  let unit := Nat.pow 10 places
  let n := Binary64.roundEven (x.num.toNat * unit) x.den
  let fraction := Nat.toDigits 10 (n % unit)
  s!"{n / unit}." ++
    String.ofList (List.replicate (places - fraction.length) '0' ++ fraction)

end LoadGen
