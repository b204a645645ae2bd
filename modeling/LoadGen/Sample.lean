import LoadGen.Duration

namespace LoadGen

/-!
# Samples

What is kept of one operation: how it ended and how long it took.
-/

/-- How an operation ended. -/
inductive Verdict where
  | success | error
  deriving DecidableEq, Repr

/-- One timed operation. -/
structure Sample where
  latency : Duration
  verdict : Verdict
  deriving DecidableEq

/-- The latencies of the samples of a verdict, in their order. -/
def latenciesOf (verdict : Verdict) (samples : List Sample) : List Duration :=
  (samples.filter (·.verdict = verdict)).map Sample.latency

@[simp] theorem latenciesOf_nil (verdict : Verdict) : latenciesOf verdict [] = [] := rfl

@[simp] theorem latenciesOf_append (verdict : Verdict) (samples more : List Sample) :
    latenciesOf verdict (samples ++ more) = latenciesOf verdict samples ++ latenciesOf verdict more := by
  simp [latenciesOf]

theorem latenciesOf_singleton (verdict : Verdict) (sample : Sample) :
    latenciesOf verdict [sample] = if sample.verdict = verdict then [sample.latency] else [] := by
  unfold latenciesOf
  split <;> simp_all

/-- Every sample has one of the two verdicts. -/
theorem length_latenciesOf (samples : List Sample) :
    (latenciesOf .success samples).length + (latenciesOf .error samples).length = samples.length := by
  induction samples with
  | nil => rfl
  | cons sample samples ih =>
    have step (v : Verdict) : latenciesOf v (sample :: samples) =
        (if sample.verdict = v then [sample.latency] else []) ++ latenciesOf v samples := by
      rw [← latenciesOf_singleton, ← latenciesOf_append, List.singleton_append]
    rw [step, step, List.length_append, List.length_append, List.length_cons]
    cases sample.verdict <;> simp <;> omega

end LoadGen
