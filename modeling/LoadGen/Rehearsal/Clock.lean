import LoadGen.Duration.Sleep

namespace LoadGen.Rehearsal

/-!
# Rehearsals on a virtual clock

In a rehearsal steps take no time.  As long as something can move it moves; when nothing can, the clock
jumps to the next timer.  Timers ring on whole milliseconds only, at the first one that is not before
their instant.

* `Stage` — what a rehearsal needs to know of the thing it moves;
* `ringing` — the instant a timer rings;
* `play` — moves until a goal is reached or an instant has come;
* `sleep` — lets a sleep of the owner go by.
-/

/-- A state that can be moved on a virtual clock. -/
structure Stage (σ : Type) where
  /-- One step of whatever can move now. -/
  move? : σ → Option σ
  /-- The instants of the timers that are set. -/
  timers : σ → List Nat
  /-- The clock. -/
  now : σ → Nat
  /-- Lets time pass. -/
  pass : σ → Nat → σ

/-- The instant at which a timer rings. -/
def ringing (instant : Nat) : Nat := (instant + nanosPerMilli - 1) / nanosPerMilli * nanosPerMilli

/-- The earliest instant, after `now`, at which one of the timers rings. -/
def nextRing? (now : Nat) (timers : List Nat) : Option Nat :=
  ((timers.map ringing).filter (now < ·)).min?

/-- Moves until `goal` holds, or until nothing moves before the instant `horizon`, if there is one.  The
    first argument bounds the number of steps. -/
def play {σ : Type} (stage : Stage σ) (goal : σ → Bool) (horizon : Option Nat) : Nat → σ → σ
  | 0, s => s
  | steps + 1, s =>
    if goal s then s
    else match stage.move? s with
      | some s' => play stage goal horizon steps s'
      | none =>
        -- Nothing moves, so the clock jumps to the next timer or to the horizon.
        let now := stage.now s
        match nextRing? now (stage.timers s), horizon with
        | none, none => s
        | none, some h => stage.pass s (h - now)
        | some t, none => play stage goal horizon steps (stage.pass s (t - now))
        | some t, some h =>
          if h ≤ t then stage.pass s (h - now)
          else play stage goal horizon steps (stage.pass s (t - now))

/-- More steps than any rehearsal takes. -/
def patience : Nat := 1000000000000000

/-- Moves until `goal` holds. -/
def playUntil {σ : Type} (stage : Stage σ) (goal : σ → Bool) (s : σ) : σ :=
  play stage goal none patience s

/-- Lets a time pass, in which everything moves that can. -/
def playFor {σ : Type} (stage : Stage σ) (nanos : Nat) (s : σ) : σ :=
  play stage (fun _ => false) (some (stage.now s + nanos)) patience s

/-- Lets a sleep of some milliseconds go by.  A sleep that is over at once lets nothing move. -/
def sleep {σ : Type} (stage : Stage σ) (millis : Nat) (s : σ) : σ :=
  if millis = 0 then s else playFor stage (sleepTime millis) s

end LoadGen.Rehearsal
