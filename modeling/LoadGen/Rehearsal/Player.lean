import LoadGen.Duration.Sleep
import LoadGen.Worker

namespace LoadGen.Rehearsal

/-!
# Scripted engines

A scripted engine answers its calls as its script says, each after a delay.  It keeps count of its
calls.

* `Script` — the answers and their delays;
* `Player` — an engine with its script;
* `Player.begin` — a call begins;
* `Player.answer?` — the answer to the call under way, once it is due.
-/

/-- How a scripted call ends. -/
inductive ScriptedReply where
  | ok
  | failed (cause : EngineError)
  | panicked (message : String)

/-- The answers of an engine.  Delays are in milliseconds. -/
structure Script where
  initDelay : Nat := 0
  init : ScriptedReply := .ok
  ready : Bool := true
  /-- The operations, which are repeated from the first one when they are used up. -/
  ops : Array (Nat × ScriptedReply) := #[]
  closeDelay : Nat := 0
  description : String := "Scripted"

/-- An engine with its script, the call under way, and its calls so far. -/
structure Player where
  script : Script
  /-- When the call under way began. -/
  begun : Nat := 0
  /-- When the call under way ends. -/
  due : Nat := 0
  initialized : Nat := 0
  closed : Nat := 0
  executed : Nat := 0
  /-- The instants at which operations began, newest first. -/
  starts : List Nat := []

namespace Player

/-- The operation with a number, counted from zero. -/
def operation (p : Player) (number : Nat) : Nat × ScriptedReply :=
  (p.script.ops[number % p.script.ops.size]?).getD (0, .ok)

/-- Sets the end of a call that begins now. -/
def schedule (p : Player) (now delay : Nat) : Player :=
  { p with begun := now, due := now + sleepTime delay }

/-- Begins the call that a worker has just made, if it has made one. -/
def begin (p : Player) (now : Nat) (w : Worker) : Player :=
  match w.stage with
  | .opening => { p.schedule now p.script.initDelay with initialized := p.initialized + 1 }
  | .executing _ =>
    { p.schedule now (p.operation p.executed).1 with
      executed := p.executed + 1, starts := now :: p.starts }
  | .closing _ => p.schedule now p.script.closeDelay
  | _ => p

/-- The answer to being opened. -/
def openReply (script : Script) : OpenReply :=
  match script.init with
  | .ok => .opened script.ready
  | .failed cause => .failed cause
  | .panicked message => .panicked message

/-- The answer to an operation. -/
def executeReply : ScriptedReply → ExecuteReply
  | .ok => .ok
  | .failed cause => .failed cause
  | .panicked message => .panicked message

/-- The answer to the call that a worker waits for, if it is due. -/
def answer? (p : Player) (now : Nat) (w : Worker) : Option Worker.Event :=
  if !w.isCalling || now < p.due then none
  else match w.stage with
    | .opening => some (.opened (openReply p.script))
    | .executing _ =>
      some (.executed (executeReply (p.operation (p.executed - 1)).2) (.clamped (now - p.begun)))
    | .closing _ => some .closed
    | _ => none

/-- The instants at which operations began, in milliseconds from `origin`, oldest first. -/
def beginnings (p : Player) (origin : Nat) : List Nat :=
  p.starts.reverse.map fun instant => (instant - origin) / nanosPerMilli

/-- Takes note of a call that has ended. -/
def note (p : Player) : Worker.Event → Player
  | .closed => { p with closed := p.closed + 1 }
  | _ => p

end Player

end LoadGen.Rehearsal
