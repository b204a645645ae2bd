import LoadGen.ConfigError
import LoadGen.Limits

namespace LoadGen

/-!
# Rate plans

How one worker paces itself.  A limiter hands out `tokensPerSec` permits, and a batch of `batchSize`
operations runs on each, so that one worker reaches `connectionRate` operations per second with as few
permits as the rate allows.

* `batchSizeFor` — the largest of 10, 5 and 1 that divides a rate;
* `RatePlan.make` — the plan for a rate shared by threads and connections.
-/

/-- The pacing of one worker. -/
structure RatePlan where
  /-- The rate of one thread: the aggregate rate over the threads, rounded up. -/
  threadRate : Nat
  /-- The rate of one connection: the rate of the thread over its connections, rounded down. -/
  connectionRate : Nat
  tokensPerSec : Nat
  batchSize : Nat
  tokensPerSec_pos : 0 < tokensPerSec
  deriving DecidableEq

/-- The quotient rounded up. -/
def ceilDiv (n d : Nat) : Nat := if n % d = 0 then n / d else n / d + 1

/-- The batch size for a rate: the largest divisor among the candidates. -/
def batchSizeFor (rate : Nat) : Nat :=
  (batchDivisors.find? fun divisor => rate % divisor == 0).getD 1

/-- The plan for `rate` operations per second. -/
def RatePlan.make (rate threads concurrency : Nat) : Except ConfigError RatePlan :=
  if threads = 0 then .error .zeroThreads
  else if concurrency = 0 then .error .zeroConcurrency
  else
    let threadRate := ceilDiv rate threads
    let connectionRate := threadRate / concurrency
    let batchSize := batchSizeFor connectionRate
    let tokensPerSec := connectionRate / batchSize
    if h : 0 < tokensPerSec then
      .ok { threadRate, connectionRate, tokensPerSec, batchSize, tokensPerSec_pos := h }
    else .error .zeroRate

/-- How a plan is shown in the log. -/
def RatePlan.shown (plan : RatePlan) : String :=
  s!"RatePlan \x7b thread_rate: {plan.threadRate}, connection_rate: {plan.connectionRate}, " ++
    s!"tokens_per_sec: {plan.tokensPerSec}, batch_size: {plan.batchSize} \x7d"

/-! ### Batch sizes divide their rates -/

theorem batchSizeFor_eq (rate : Nat) :
    batchSizeFor rate = if rate % 10 = 0 then 10 else if rate % 5 = 0 then 5 else 1 := by
  by_cases h : rate % 10 = 0
  · simp [batchSizeFor, batchDivisors, h]
  · by_cases h' : rate % 5 = 0 <;> simp [batchSizeFor, batchDivisors, h, h']

theorem batchSizeFor_dvd (rate : Nat) : batchSizeFor rate ∣ rate := by
  rw [batchSizeFor_eq]
  split
  · exact Nat.dvd_of_mod_eq_zero ‹_›
  · split
    · exact Nat.dvd_of_mod_eq_zero ‹_›
    · exact Nat.one_dvd _

end LoadGen
