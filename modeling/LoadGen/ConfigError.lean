import LoadGen.Text.Quoted

namespace LoadGen

/-!
# Configuration errors

The reasons to refuse a configuration before anything runs.
-/

/-- Why a configuration is refused. -/
inductive ConfigError where
  | missingHost
  | zeroRate
  | zeroDuration
  | zeroThreads
  | zeroConcurrency
  | unsupportedEngine (engine : String) (supported : List String)
  | concurrencyTooHigh (required rate : Nat)
  | complexity (value : Nat)
  deriving DecidableEq, Repr

/-- What is reported about a refused configuration. -/
def ConfigError.message : ConfigError → String
  | missingHost => "target host (-H) must be set"
  | zeroRate => "rate (-r) must be set to a value greater than 0"
  | zeroDuration => "duration (-d) must be set to a value greater than 0"
  | zeroThreads => "thread count (-t) must be greater than 0"
  | zeroConcurrency => "concurrency (-c) must be greater than 0"
  | unsupportedEngine engine supported =>
    "engine (-e) should be one of " ++ Text.quoteList supported ++ ", got " ++ Text.quote engine
  | concurrencyTooHigh required rate =>
    s!"(threads * concurrency * 10) = {required} should not exceed rate {rate}"
  | complexity value => s!"complexity should be greater than 0, got {value}"

end LoadGen
