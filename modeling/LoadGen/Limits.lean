import LoadGen.Duration

namespace LoadGen

/-!
# Limits of a run

The fixed sizes and intervals that every run shares.
-/

/-- Capacity of the reservoir that percentiles are taken from. -/
def defaultReservoirCapacity : Nat := 10000000

/-- Capacity of each of the two sample queues. -/
def sampleQueueCapacity : Nat := 10000

/-- How long a worker waits for room in a full queue before it drops the sample. -/
def sampleSendTimeout : Duration := ⟨nanosPerSec, by decide⟩

/-- How often the workers are polled for readiness. -/
def readyPollInterval : Duration := ⟨100 * nanosPerMilli, by decide⟩

/-- How often progress is reported. -/
def progressInterval : Duration := ⟨nanosPerSec, by decide⟩

/-- How long the collector rests when both queues are empty. -/
def collectorIdleSleep : Duration := ⟨10 * nanosPerMilli, by decide⟩

/-- Batch sizes that are tried, largest first. -/
def batchDivisors : List Nat := [10, 5]

/-- Operations per second that a connection must get when a thread has several of them. -/
def minOpsPerConnection : Nat := 10

/-- How long stopped workers get to finish their last batch, on top of one permit period. -/
def stopGracePeriod : Duration := ⟨3 * nanosPerSec, by decide⟩

end LoadGen
