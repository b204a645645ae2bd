import LoadGen.Duration

namespace LoadGen

/-!
# Units of time

The units that texts of durations are written in, with their sizes and their spellings.

* `TimeUnit.nanos` — the size of a unit;
* `TimeUnit.spellings` — the words that name a unit when a text is read;
* `TimeUnit.ofWord?` — the unit a word names.

A year is 365.25 days and a month 30.44 days, both whole numbers of seconds.
-/

/-- A unit of time, smallest first. -/
inductive TimeUnit where
  | nanosecond | microsecond | millisecond | second | minute | hour | day | week | month | year
  deriving DecidableEq, Repr

namespace TimeUnit

/-- Seconds in a unit of a second or more; smaller units have none. -/
def secs : TimeUnit → Nat
  | nanosecond | microsecond | millisecond => 0
  | second => 1
  | minute => 60
  | hour => 3600
  | day => 86400
  | week => 604800
  | month => 2630016
  | year => 31557600

/-- Nanoseconds in a unit. -/
def nanos : TimeUnit → Nat
  | nanosecond => 1
  | microsecond => 1000
  | millisecond => nanosPerMilli
  | u => u.secs * nanosPerSec

/-- The words that name a unit, in either number and abbreviated. -/
def spellings : TimeUnit → List String
  | nanosecond => ["nanos", "nsec", "ns"]
  | microsecond => ["usec", "us", "µs"]
  | millisecond => ["millis", "msec", "ms"]
  | second => ["seconds", "second", "secs", "sec", "s"]
  | minute => ["minutes", "minute", "min", "mins", "m"]
  | hour => ["hours", "hour", "hr", "hrs", "h"]
  | day => ["days", "day", "d"]
  | week => ["weeks", "week", "wk", "wks", "w"]
  | month => ["months", "month", "M"]
  | year => ["years", "year", "yr", "yrs", "y"]

/-- Every unit. -/
def all : List TimeUnit :=
  [nanosecond, microsecond, millisecond, second, minute, hour, day, week, month, year]

/-- The unit that a word names, capitals told apart. -/
def ofWord? (word : String) : Option TimeUnit :=
  all.find? fun u => u.spellings.contains word

theorem mem_all (u : TimeUnit) : u ∈ all := by cases u <;> decide

theorem nanos_pos (u : TimeUnit) : 0 < u.nanos := by cases u <;> decide

end TimeUnit

end LoadGen
