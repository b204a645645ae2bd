import LoadGen.Number.Word

namespace LoadGen

/-!
# Faults

An operation of the load generator answers, refuses its input with an error of its own, or breaks
off.  `Fault` lists the ways to break off: arithmetic that leaves its range, reads outside a container,
and containers of impossible sizes.  An operation that can break off returns `Except Fault _`, one that can also refuse
returns `Except (Failure _) _`, so that "never breaks off" is a statement about its value.
-/

/-- A step that has no result. -/
inductive Fault where
  /-- A product that does not fit its integer type. -/
  | multiplyOverflow
  /-- A sum that does not fit its integer type. -/
  | addOverflow
  /-- A quotient by zero. -/
  | divideByZero
  /-- A length of time of `2^64` seconds or more. -/
  | durationOverflow
  /-- An instant past the end of the clock. -/
  | instantOverflow
  /-- A random draw from an empty range. -/
  | emptyRange
  /-- A read or write at `index` of a container of `size` elements. -/
  | outOfBounds (size index : Nat)
  /-- A queue that can hold nothing. -/
  | emptyQueue
  /-- A buffer of more bytes than there can be. -/
  | bufferOverflow
  /-- A request of more headers than there can be. -/
  | headerOverflow
  deriving DecidableEq, Repr

namespace Fault

/-- What is reported about a fault. -/
def message : Fault → String
  | multiplyOverflow => "attempt to multiply with overflow"
  | addOverflow => "attempt to add with overflow"
  | divideByZero => "attempt to divide by zero"
  | durationOverflow => "overflow in Duration::new"
  | instantOverflow => "overflow when adding duration to instant"
  | emptyRange => "cannot sample empty range"
  | outOfBounds size index =>
    s!"index out of bounds: the len is {size} but the index is {index}"
  | emptyQueue => "capacity cannot be zero"
  | bufferOverflow => "capacity overflow"
  | headerOverflow => "size overflows MAX_SIZE: MaxSizeReached"

end Fault

/-! ### Sizes of containers -/

/-- First number of bytes that no buffer can have. -/
def bufferLimit : Nat := 9223372036854775808

/-- Whether there can be a buffer of some bytes. -/
def checkBuffer (bytes : Nat) : Except Fault Unit :=
  if bytes < bufferLimit then .ok () else .error .bufferOverflow

/-! ### Refusals beside faults -/

/-- Why an operation has no answer: it refused its input, or it broke off. -/
inductive Failure (ε : Type) where
  | refused (error : ε)
  | broken (fault : Fault)
  deriving DecidableEq, Repr

/-- Refuses with `error`. -/
def refuse {ε α : Type} (error : ε) : Except (Failure ε) α := .error (.refused error)

/-- Carries a step that can only break off into one that can also refuse. -/
def Fault.lift {ε α : Type} : Except Fault α → Except (Failure ε) α
  | .ok a => .ok a
  | .error f => .error (.broken f)

/-- Carries a step that can only refuse into one that can also break off. -/
def Failure.lift {ε α : Type} : Except ε α → Except (Failure ε) α
  | .ok a => .ok a
  | .error e => .error (.refused e)

/-- An operation answers or refuses unless it breaks off. -/
theorem ok_or_refuse_iff {ε α : Type} {x : Except (Failure ε) α} :
    ((∃ a, x = .ok a) ∨ ∃ error, x = refuse error) ↔ ∀ fault, x ≠ .error (.broken fault) := by
  cases x with
  | ok a => simp
  | error failure => cases failure <;> simp [refuse]

/-- A step that can only refuse never breaks off. -/
theorem Failure.lift_ne_broken {ε α : Type} (x : Except ε α) (fault : Fault) :
    Failure.lift x ≠ .error (.broken fault) := by
  cases x <;> nofun

/-! ### Steps one after another -/

section

variable {ε α β : Type} {x : Except ε α} {e : ε} {b : β}

theorem isOk_iff : x.isOk = true ↔ ∃ a, x = .ok a := by
  cases x <;> simp [Except.isOk, Except.toBool]

theorem map_eq_ok_iff {f : α → β} : x.map f = .ok b ↔ ∃ a, x = .ok a ∧ f a = b := by
  cases x <;> simp [Except.map]

theorem map_eq_error_iff {f : α → β} : x.map f = .error e ↔ x = .error e := by
  cases x <;> simp [Except.map]

theorem bind_eq_ok_iff {f : α → Except ε β} : x >>= f = .ok b ↔ ∃ a, x = .ok a ∧ f a = .ok b := by
  cases x <;> simp [bind, Except.bind]

theorem bind_eq_error_iff {f : α → Except ε β} :
    x >>= f = .error e ↔ x = .error e ∨ ∃ a, x = .ok a ∧ f a = .error e := by
  cases x <;> simp [bind, Except.bind]

/-- Steps over a list fail at the first entry that fails. -/
theorem foldlM_eq_error_iff {f : β → α → Except ε β} {entries : List α} {b : β} :
    entries.foldlM f b = .error e ↔ ∃ front a back c,
      entries = front ++ a :: back ∧ front.foldlM f b = .ok c ∧ f c a = .error e := by
  induction entries generalizing b with
  | nil => simp [pure, Except.pure]
  | cons entry entries ih =>
    rw [List.foldlM_cons, bind_eq_error_iff]
    constructor
    · rintro (now | ⟨c, first, later⟩)
      · exact ⟨[], entry, entries, b, rfl, rfl, now⟩
      · obtain ⟨front, a, back, d, rfl, read, failed⟩ := ih.mp later
        refine ⟨entry :: front, a, back, d, rfl, ?_, failed⟩
        rw [List.foldlM_cons, first]
        exact read
    · rintro ⟨front, a, back, c, parts, read, failed⟩
      cases front with
      | nil =>
        cases parts
        cases read
        exact .inl failed
      | cons entry front =>
        cases parts
        rw [List.foldlM_cons] at read
        obtain ⟨d, first, read⟩ := bind_eq_ok_iff.mp read
        exact .inr ⟨d, first, ih.mpr ⟨front, a, back, c, rfl, read, failed⟩⟩

end

/-! ### Arithmetic of 64-bit counters -/

/-- The sum of two counters, if it is a 64-bit word. -/
def addWord (a b : Nat) : Except Fault Nat :=
  if a + b < wordCount then .ok (a + b) else .error .addOverflow

/-- The product of two counters, if it is a 64-bit word. -/
def mulWord (a b : Nat) : Except Fault Nat :=
  if a * b < wordCount then .ok (a * b) else .error .multiplyOverflow

theorem addWord_eq_ok_iff {a b c : Nat} : addWord a b = .ok c ↔ a + b < wordCount ∧ c = a + b := by
  unfold addWord
  split
  · simp_all [eq_comm]
  · simp; omega

theorem mulWord_eq_ok_iff {a b c : Nat} : mulWord a b = .ok c ↔ a * b < wordCount ∧ c = a * b := by
  unfold mulWord
  split
  · simp_all [eq_comm]
  · simp; omega

theorem mulWord_eq_error_iff {a b : Nat} {fault : Fault} :
    mulWord a b = .error fault ↔ wordCount ≤ a * b ∧ fault = .multiplyOverflow := by
  unfold mulWord
  split
  · simp; omega
  · simp_all [eq_comm]

end LoadGen
