import LoadGen.Config
import LoadGen.RatePlan
import LoadGen.Registry

namespace LoadGen

/-!
# Validation

The checks of a configuration against the registered engines, in their order.  The first check that
fails is the one that is reported.

* `requiredRate` — the rate that the connections of a configuration ask for;
* `RunConfig.validate` — the checks, and the plan of an accepted configuration.
-/

/-- Threads times connections times their least rate, computed in 64-bit words. -/
def requiredRate (threads concurrency : Nat) : Except Fault Nat := do
  let connections ← mulWord threads concurrency
  mulWord connections minOpsPerConnection

/-- Checks a configuration and derives the pacing of its workers. -/
def RunConfig.validate {α : Type} (config : RunConfig) (registry : Registry α) :
    Except (Failure ConfigError) RatePlan :=
  if config.host.isEmpty then refuse .missingHost
  else if config.rate = 0 then refuse .zeroRate
  else if !registry.contains config.engine then
    refuse (.unsupportedEngine config.engine registry.names)
  else if config.duration.isZero then refuse .zeroDuration
  else if config.threads = 0 then refuse .zeroThreads
  else if config.concurrency = 0 then refuse .zeroConcurrency
  else do
    let required ← Fault.lift (requiredRate config.threads.toNat config.concurrency.toNat)
    -- A single connection may have any rate.
    if 1 < config.concurrency ∧ config.rate.toNat < required then
      refuse (.concurrencyTooHigh required config.rate.toNat)
    else if config.options.complexity < 1 then
      refuse (.complexity config.options.complexity.toNat)
    else
      Failure.lift
        (RatePlan.make config.rate.toNat config.threads.toNat config.concurrency.toNat)

end LoadGen
