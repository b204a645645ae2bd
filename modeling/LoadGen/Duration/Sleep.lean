import LoadGen.Duration

namespace LoadGen

/-!
# Sleeps

A task that sleeps is woken after thirty years at the latest, whatever it asked for.

* `sleepLimit` — the longest sleep;
* `sleepTime` — how long a sleep lasts.
-/

/-- The longest sleep, in milliseconds: thirty years of 365 days. -/
def sleepLimit : Nat := 30 * 365 * 24 * 60 * 60 * 1000

/-- How long a sleep lasts, in nanoseconds, that is asked for in milliseconds. -/
def sleepTime (millis : Nat) : Nat := min millis sleepLimit * nanosPerMilli

end LoadGen
