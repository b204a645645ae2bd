import LoadGen.Duration.Unit

namespace LoadGen.Duration

/-!
# Written durations

The long form of a duration names its whole counts of years, months, days and smaller units, such as
`1year 43m 12s`.

* `breakdown` — the whole counts of a list of units, each taken from what the units before it leave;
* `written` — the long form: the counts that are not zero, or `0s`.
-/

/-- The units of the long form, largest first. -/
def writtenUnits : List TimeUnit :=
  [.year, .month, .day, .hour, .minute, .second, .millisecond, .microsecond, .nanosecond]

/-- The word that follows a count.  Years, months and days have a plural. -/
def unitWord (count : Nat) : TimeUnit → String
  | .year => if count == 1 then "year" else "years"
  | .month => if count == 1 then "month" else "months"
  | .week => if count == 1 then "week" else "weeks"
  | .day => if count == 1 then "day" else "days"
  | .hour => "h"
  | .minute => "m"
  | .second => "s"
  | .millisecond => "ms"
  | .microsecond => "us"
  | .nanosecond => "ns"

/-- Whole counts of the units, each of what the units before it leave of `nanos`. -/
def breakdown : List TimeUnit → Nat → List (Nat × TimeUnit)
  | [], _ => []
  | u :: us, nanos => (nanos / u.nanos, u) :: breakdown us (nanos % u.nanos)

/-- The counts of the long form, zeros left out. -/
def items (d : Duration) : List (Nat × TimeUnit) :=
  (breakdown writtenUnits d.nanos).filter fun item => item.1 != 0

/-- One count with its unit. -/
def itemText (item : Nat × TimeUnit) : String := s!"{item.1}" ++ unitWord item.1 item.2

/-- The long form. -/
def written (d : Duration) : String :=
  if d.isZero then "0s" else " ".intercalate (d.items.map itemText)

/-! ### The counts make up the duration -/

/-- The length that counts of units make up. -/
def total : List (Nat × TimeUnit) → Nat
  | [] => 0
  | (count, unit) :: rest => count * unit.nanos + total rest

/-- Counts that end with nanoseconds leave nothing over. -/
theorem total_breakdown (units : List TimeUnit) (n : Nat) :
    total (breakdown (units ++ [.nanosecond]) n) = n := by
  induction units generalizing n with
  | nil => simp [breakdown, total, TimeUnit.nanos]
  | cons u us ih =>
    simp only [List.cons_append, breakdown, total, ih (n % u.nanos)]
    exact Nat.div_add_mod' n u.nanos

end LoadGen.Duration
