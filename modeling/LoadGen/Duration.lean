import LoadGen.Fault

namespace LoadGen

/-!
# Lengths of time

A `Duration` is a whole number of nanoseconds that stays below `2 ^ 64` seconds.  The bound is a
field, so every length of time in the library has it.

* `Duration.secs`, `Duration.subsec` — the two words a length is written with;
* `Duration.ofParts` — the length with given words, carrying a surplus of nanoseconds;
* `Duration.wrapped`, `Duration.saturated` — two ways to take a nanosecond count into 64 bits.
-/

/-- Nanoseconds in a second. -/
abbrev nanosPerSec : Nat := 1000000000

/-- Nanoseconds in a millisecond. -/
abbrev nanosPerMilli : Nat := 1000000

/-- First number of nanoseconds that is no length of time. -/
abbrev durationLimit : Nat := wordCount * nanosPerSec

/-- A whole number of nanoseconds below `2 ^ 64` seconds. -/
@[ext] structure Duration where
  nanos : Nat
  nanos_lt : nanos < durationLimit
  deriving DecidableEq

namespace Duration

instance : LE Duration := ⟨fun a b => a.nanos ≤ b.nanos⟩
instance : LT Duration := ⟨fun a b => a.nanos < b.nanos⟩
instance (a b : Duration) : Decidable (a ≤ b) := inferInstanceAs (Decidable (a.nanos ≤ b.nanos))
instance (a b : Duration) : Decidable (a < b) := inferInstanceAs (Decidable (a.nanos < b.nanos))

/-- The empty length of time. -/
def zero : Duration := ⟨0, by decide⟩

instance : Inhabited Duration := ⟨zero⟩

/-- Whole seconds. -/
def secs (d : Duration) : Nat := d.nanos / nanosPerSec

/-- Nanoseconds past the last whole second. -/
def subsec (d : Duration) : Nat := d.nanos % nanosPerSec

/-- Whether the length is empty. -/
def isZero (d : Duration) : Bool := d.nanos == 0

/-- The length of `n` nanoseconds, if there is one. -/
def ofNanos? (n : Nat) : Except Fault Duration :=
  if h : n < durationLimit then .ok ⟨n, h⟩ else .error .durationOverflow

/-- The length of `secs` seconds and `nanos` nanoseconds; a surplus of nanoseconds is carried. -/
def ofParts (secs nanos : Nat) : Except Fault Duration :=
  ofNanos? (secs * nanosPerSec + nanos)

/-- The length of `n` nanoseconds, or the longest one. -/
def clamped (n : Nat) : Duration :=
  if h : n < durationLimit then ⟨n, h⟩ else ⟨durationLimit - 1, by decide⟩

/-- The length whose nanoseconds are the low 64 bits of `n`. -/
def wrapped (n : Nat) : Duration := ⟨n % wordCount, by
  have : n % wordCount < wordCount := Nat.mod_lt _ (by decide)
  have : wordCount ≤ durationLimit := by decide
  omega⟩

/-- The length of `n` nanoseconds, held at the largest 64-bit count. -/
def saturated (n : Nat) : Duration := wrapped (min n (wordCount - 1))

/-- The length of `n` seconds, of which the low 64 bits are taken. -/
def ofSecs (n : Nat) : Duration := ⟨n % wordCount * nanosPerSec, by
  have : n % wordCount < wordCount := Nat.mod_lt _ (by decide)
  exact Nat.mul_lt_mul_of_pos_right this (by decide)⟩

/-! ### The two words and the count -/

theorem secs_lt (d : Duration) : d.secs < wordCount := by
  have := d.nanos_lt
  unfold secs durationLimit nanosPerSec wordCount at *
  omega

theorem subsec_lt (d : Duration) : d.subsec < nanosPerSec := Nat.mod_lt _ (by decide)

theorem secs_mul_add_subsec (d : Duration) : d.secs * nanosPerSec + d.subsec = d.nanos := by
  unfold secs subsec
  rw [Nat.mul_comm]
  exact Nat.div_add_mod _ _

theorem wrapped_nanos_of_lt {n : Nat} (h : n < wordCount) : (wrapped n).nanos = n :=
  Nat.mod_eq_of_lt h

theorem saturated_nanos_of_lt {n : Nat} (h : n < wordCount) : (saturated n).nanos = n := by
  unfold saturated
  rw [Nat.min_eq_left (Nat.le_sub_one_of_lt h)]
  exact wrapped_nanos_of_lt h

end Duration

end LoadGen
