namespace LoadGen

/-!
# Engine errors

The ways a call of an engine can fail.
-/

/-- Why an engine call failed. -/
inductive EngineError where
  /-- No connection to the target. -/
  | connect (cause : String)
  /-- The target answered, but not as it should. -/
  | response (cause : String)
  /-- The engine has not been opened, or is closed. -/
  | notReady
  /-- The operating system refused. -/
  | io (cause : String)
  /-- The client library refused. -/
  | client (cause : String)
  deriving DecidableEq, Repr

/-- What is reported about a failed engine call. -/
def EngineError.message : EngineError → String
  | connect cause => s!"connection failed: {cause}"
  | response cause => s!"unexpected response: {cause}"
  | notReady => "client is not initialized"
  | io cause => cause
  | client cause => cause

end LoadGen
