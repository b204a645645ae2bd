import LoadGen.Duration
import LoadGen.Number.Binary64
import LoadGen.Number.Word

namespace LoadGen

/-!
# Latency summaries

The statistics of a set of latencies: mean, maximum and two interpolated percentiles.  Percentiles are
computed in binary64 arithmetic on nanoseconds.

* `sortLatencies` — the ascending order that ranks refer to;
* `rank` — the place of a percentile, `p * (n + 1)`, counted from one;
* `percentile` — the value at a rank, between two latencies where the rank is no whole number;
* `meanOf` — the mean;
* `summarize` — all of them.
-/

/-- Mean, maximum and percentiles of a set of latencies. -/
structure LatencySummary where
  mean : Duration
  max : Duration
  p50 : Duration
  p90 : Duration
  deriving DecidableEq

/-- The summary of nothing. -/
def LatencySummary.zero : LatencySummary := ⟨.zero, .zero, .zero, .zero⟩

/-- Latencies in ascending order. -/
def sortLatencies (values : List Duration) : List Duration :=
  values.mergeSort fun a b => a.nanos ≤ b.nanos

/-- The place of percentile `p` among `n` values. -/
def rank (p : Rat) (n : Nat) : Rat := Binary64.mul p (Binary64.ofNat (n + 1))

/-- The element at a place, or the fault of reading past the end. -/
def latencyAt (sorted : Array Duration) (i : Nat) : Except Fault Duration :=
  if h : i < sorted.size then .ok sorted[i] else .error (.outOfBounds sorted.size i)

/-- The nanoseconds at a fraction of the way between two counts. -/
def interpolate (lower upper : Nat) (fraction : Rat) : Nat :=
  let lower := Binary64.ofNat lower
  let upper := Binary64.ofNat upper
  Binary64.roundHalfUp
    (Binary64.add lower (Binary64.mul fraction (Binary64.sub upper lower)))

/-- The value at percentile `p` of an ascending array. -/
def percentile (sorted : Array Duration) (p : Rat) : Except Fault Duration :=
  let place := rank p sorted.size
  if place < 1 then latencyAt sorted 0
  else if Binary64.ofNat sorted.size ≤ place then latencyAt sorted (sorted.size - 1)
  else do
    let whole := place.floor.toNat
    -- Ranks count from one and the array from zero.
    let lower ← latencyAt sorted (whole - 1)
    let upper ← latencyAt sorted whole
    return .saturated (interpolate lower.nanos upper.nanos (Binary64.fract place))

/-- Half, the rank of the median. -/
def p50 : Rat := 1 / 2

/-- Nine tenths as a binary64 number. -/
def p90 : Rat := Binary64.nearest (9 / 10)

/-- A sum of nanoseconds, if it fits 128 bits. -/
def addNanos (sum : Nat) (value : Duration) : Except Fault Nat :=
  if sum + value.nanos < doubleWordCount then .ok (sum + value.nanos) else .error .addOverflow

/-- The mean, rounded down to whole nanoseconds and taken into 64 bits. -/
def meanOf (values : List Duration) : Except Fault Duration := do
  let sum ← values.foldlM addNanos 0
  if values.length = 0 then throw .divideByZero
  else return .wrapped (sum / values.length)

/-- The statistics of a set of latencies. -/
def summarize (values : List Duration) : Except Fault LatencySummary :=
  if values.isEmpty then .ok .zero
  else do
    let sorted := (sortLatencies values).toArray
    let mean ← meanOf values
    let max ← latencyAt sorted (sorted.size - 1)
    let median ← percentile sorted p50
    let ninth ← percentile sorted p90
    return ⟨mean, max, median, ninth⟩

end LoadGen
