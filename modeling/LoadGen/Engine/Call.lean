import LoadGen.Engine.Error

namespace LoadGen

/-!
# Engine calls

The calls that every engine answers, and what a client keeps between them.
-/

/-- A call of an engine. -/
inductive EngineCall where
  | connect | execute | close
  deriving DecidableEq, Repr

/-- What an engine answers to a call. -/
abbrev CallReply := Except EngineError Unit

/-- What the client of an engine keeps between calls. -/
structure EngineSession where
  ready : Bool := false
  /-- Messages that have been sent to the target, or would have been, had it been there. -/
  issued : Nat := 0
  deriving DecidableEq

end LoadGen
