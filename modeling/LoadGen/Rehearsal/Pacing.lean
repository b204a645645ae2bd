import LoadGen.Limiter
import LoadGen.Rehearsal.Clock

namespace LoadGen.Rehearsal

/-!
# Rehearsing a limiter

One task asks a limiter for permits and sleeps in between.

* `Pacing` — a limiter and the clock;
* `Pacing.acquire`, `Pacing.sleep` — what the task does;
* `Pacing.times` — the clock after every permit and every sleep.
-/

/-- A limiter and the clock, in nanoseconds. -/
structure Pacing where
  limiter : Limiter
  now : Nat := 0

/-- What the task does. -/
inductive Pacing.Step where
  | acquire (permits : Nat)
  | sleep (millis : Nat)

namespace Pacing

/-- Waits for a permit. -/
def acquire (p : Pacing) : Pacing :=
  let limiter := p.limiter.ask p.now
  let now := match limiter.due with
    | some due => if due ≤ p.now then p.now else ringing due
    | none => p.now
  { limiter := limiter.grant now, now }

/-- Sleeps. -/
def sleep (p : Pacing) (millis : Nat) : Pacing := { p with now := p.now + sleepTime millis }

/-- The states that actions lead through. -/
def act (p : Pacing) : List (Pacing → Pacing) → List Pacing
  | [] => []
  | f :: fs => f p :: act (f p) fs

/-- The actions that make up a step. -/
def actions : Step → List (Pacing → Pacing)
  | .acquire permits => List.replicate permits acquire
  | .sleep millis => [(sleep · millis)]

/-- The clock in milliseconds after every permit and every sleep. -/
def times (limiter : Limiter) (steps : List Step) : List Nat :=
  (act { limiter } (steps.flatMap actions)).map fun p => p.now / nanosPerMilli

end Pacing

end LoadGen.Rehearsal
