import LoadGen.Duration.Scaled

namespace LoadGen

/-!
# Limiters

A limiter spaces the permits of one worker.  The first permit is due when it is asked for.  After a
permit the next one is due a period later than the last was due, unless the last came more than the
tolerance late: then it is due a period after that one came, so that lost time is not made up.

* `Limiter.ofRate` — the limiter for a number of permits per second;
* `Limiter.ask` — a worker asks for a permit;
* `Limiter.grant` — the permit is handed out.

Instants are nanoseconds since the clock was started.
-/

/-- How late a permit may come before the schedule is pushed back. -/
abbrev lateTolerance : Nat := 5 * nanosPerMilli

/-- The space between permits, and the instant the next one is due. -/
structure Limiter where
  period : Duration
  due : Option Nat := none
  deriving DecidableEq

namespace Limiter

/-- The space between permits at a rate: whole nanoseconds of a second's share, at least one. -/
def periodOf (rate : Nat) : Duration := ⟨max (nanosPerSec / rate) 1, by
  have h : nanosPerSec / rate ≤ nanosPerSec := Nat.div_le_self _ _
  exact Nat.lt_of_le_of_lt (Nat.max_le.2 ⟨h, by decide⟩) (by decide : nanosPerSec < durationLimit)⟩

/-- The limiter for `rate` permits per second. -/
def ofRate (rate : Nat) : Limiter := { period := periodOf rate }

/-- Asks for a permit at `now`.  The first time, it is due at once. -/
def ask (l : Limiter) (now : Nat) : Limiter := { l with due := some (l.due.getD now) }

/-- Whether a permit that was asked for can be handed out at `now`. -/
def isDue (l : Limiter) (now : Nat) : Bool := l.due.all (· ≤ now)

/-- The instant the next permit is due, when the one due at `due` comes at `now`. -/
def nextDue (period : Nat) (due now : Nat) : Nat :=
  if due + lateTolerance < now then now + period else due + period

/-- Hands out a permit at `now`. -/
def grant (l : Limiter) (now : Nat) : Limiter :=
  { l with due := l.due.map fun due => nextDue l.period.nanos due now }

/-- How a limiter is shown. -/
def shown (l : Limiter) : String := s!"Limiter \x7b period: {l.period.scaled} \x7d"

theorem period_pos (rate : Nat) : 0 < (periodOf rate).nanos := by
  show 0 < max (nanosPerSec / rate) 1
  omega

/-- The next permit is due a whole period after the last was due, or later. -/
theorem add_period_le_nextDue {period due now : Nat} :
    due + period ≤ nextDue period due now := by
  unfold nextDue
  split <;> omega

end Limiter

end LoadGen
