import LoadGen.Sample

namespace LoadGen

/-!
# Metrics

Running counts of the operations of all workers: successes, errors, and recorded latencies.

* `Metrics.record` — one operation;
* `Metrics.named` — the counts that were touched, by name.
-/

/-- Counts of operations. -/
structure Metrics where
  success : Nat := 0
  error : Nat := 0
  latency : Nat := 0
  deriving DecidableEq

namespace Metrics

/-- Counts one operation. -/
def record (m : Metrics) : Verdict → Metrics
  | .success => { m with latency := m.latency + 1, success := m.success + 1 }
  | .error => { m with latency := m.latency + 1, error := m.error + 1 }

/-- The counts by name.  A count that was never touched has no name yet. -/
def named (m : Metrics) : List (String × Nat) :=
  [("eval_bench_success", m.success), ("eval_bench_error", m.error),
    ("eval_bench_latency", m.latency)].filter fun entry => entry.2 != 0

end Metrics

end LoadGen
