import LoadGen.Duration.Written
import LoadGen.Number.Fixed
import LoadGen.Summary

namespace LoadGen

/-!
# Reports

What is said about a run while it goes on, and at its end.

* `secondsOf` — a duration in binary64 seconds;
* `Progress.text` — the line of one progress interval;
* `RunReport.total`, `RunReport.throughput`, `RunReport.errorRate` — the figures of a run;
* `RunReport.text` — its final text, in a head and what follows the latencies.
-/

/-- Seconds as a binary64 number: the whole seconds and the rest are rounded before they are added. -/
def secondsOf (d : Duration) : Rat :=
  Binary64.add (Binary64.ofNat d.secs)
    (Binary64.div (Binary64.ofNat d.subsec) (Binary64.ofNat nanosPerSec))

/-- Seconds with six decimal places. -/
def secondsText (d : Duration) : String := fixedDecimal 6 (secondsOf d) ++ "s"

/-- Counts at the end of a progress interval. -/
structure Progress where
  success : Nat
  error : Nat
  elapsed : Duration
  deriving DecidableEq

/-- The line of a progress interval. -/
def Progress.text (p : Progress) : String :=
  s!"requests: {p.success}, errors: {p.error}, elapsed: {secondsText p.elapsed}"

/-- The figures of a run. -/
structure RunReport where
  success : Nat
  error : Nat
  /-- Samples that were lost; they are in no other figure. -/
  dropped : Nat
  elapsed : Duration
  latency : LatencySummary
  deriving DecidableEq

namespace RunReport

/-- Operations that were counted. -/
def total (r : RunReport) : Except Fault Nat := addWord r.success r.error

/-- Operations per second, errors included. -/
def throughput (r : RunReport) : Except Fault Rat :=
  if secondsOf r.elapsed = 0 then .ok 0
  else do return Binary64.div (Binary64.ofNat (← r.total)) (secondsOf r.elapsed)

/-- The share of errors among the operations. -/
def errorRate (r : RunReport) : Except Fault Rat := do
  let total ← r.total
  if total = 0 then return 0
  else return Binary64.div (Binary64.ofNat r.error) (Binary64.ofNat total)

/-- Whether there is nothing to report. -/
def isEmpty (r : RunReport) : Except Fault Bool := do
  return (← r.total) == 0 || r.elapsed.isZero

/-- The text up to the latencies, of a run with something to report. -/
def headText (r : RunReport) : Except Fault String := do
  return s!"exec duration: {secondsText r.elapsed}\n" ++
    s!"total: {← r.total}, count: {r.success}, error: {r.error}, " ++
    s!"request/sec: {fixedDecimal 2 (← r.throughput)} "

/-- The latencies. -/
def latencyText (r : RunReport) : String :=
  s!"avg: {r.latency.mean.written}  max: {r.latency.max.written}  " ++
    s!"p50: {r.latency.p50.written}  p90: {r.latency.p90.written}"

/-- What follows the latencies: the lost samples, if there are any. -/
def droppedText (r : RunReport) : Option String :=
  if 0 < r.dropped then some s!"dropped samples: {r.dropped}" else none

/-- What is said of a run with nothing to report. -/
def emptyText : String := "error: request count or exec duration is 0"

/-- The final text of a run. -/
def text (r : RunReport) : Except Fault String := do
  if ← r.isEmpty then return emptyText
  else return (← r.headText) ++ r.latencyText ++ (r.droppedText.elim "" ("\n" ++ ·))

/-- What stands before the latencies, and the line behind them. -/
def frame (r : RunReport) : Except Fault (String × Option String) := do
  if ← r.isEmpty then return (emptyText, none)
  else return (← r.headText, r.droppedText)

end RunReport

end LoadGen
