import LoadGen.Duration

namespace LoadGen

/-!
# Run configurations

What a run is asked to do: which engine drives which target, at which rate, for how long.
-/

/-- Parameters that only some engines read. -/
structure EngineOptions where
  password : String := ""
  db : String := ""
  method : String := ""
  sql : String := ""
  complexity : UInt32 := 1
  dataSize : UInt64 := 1
  keepalive : Bool := true
  topic : String := ""
  body : String := ""
  deriving DecidableEq

/-- One load run. -/
structure RunConfig where
  /-- The registered name of the engine. -/
  engine : String
  /-- The target, read by the engine. -/
  host : String
  /-- Operations per second over all threads. -/
  rate : UInt32 := 0
  threads : UInt32 := 1
  /-- Connections per thread, which share the rate of the thread. -/
  concurrency : UInt32 := 1
  duration : Duration := .zero
  options : EngineOptions := {}
  deriving DecidableEq

end LoadGen
