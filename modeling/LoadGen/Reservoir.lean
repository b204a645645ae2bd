import LoadGen.Duration
import LoadGen.Random

namespace LoadGen

/-!
# Reservoirs

A reservoir is a sample of fixed capacity from a stream of unknown length.  It keeps the first values
as they come.  Once it is full, each further value is offered a slot drawn from the whole stream so
far: a draw within the capacity replaces that slot, any other leaves the sample alone.

* `Reservoir.offer` — one value, with the draw as an argument;
* `Reservoir.update` — the same, with every step that could break off made visible;
* `DrawingReservoir` — a reservoir with the generator of its draws.
-/

/-- A sample of at most `capacity` of the `seen` values of a stream. -/
structure Reservoir where
  capacity : Nat
  seen : Nat
  values : Array Duration

namespace Reservoir

/-- The empty sample.  A capacity of zero counts as one. -/
def empty (capacity : Nat) : Reservoir := ⟨max capacity 1, 0, #[]⟩

/-- Whether the next value needs a draw. -/
def isFull (r : Reservoir) : Bool := r.capacity ≤ r.values.size

/-- Offers a value.  `slot` is the draw from `0 .. seen` that is looked at when the sample is full. -/
def offer (r : Reservoir) (value : Duration) (slot : Nat) : Reservoir :=
  if r.values.size < r.capacity then
    { r with seen := r.seen + 1, values := r.values.push value }
  else if slot < r.capacity then
    { r with seen := r.seen + 1, values := r.values.setIfInBounds slot value }
  else
    { r with seen := r.seen + 1 }

/-- Offers a value, or breaks off where the count of values seen leaves its word or the slot to
    replace is not there. -/
def update (r : Reservoir) (value : Duration) (slot : Nat) : Except Fault Reservoir := do
  let _ ← addWord r.seen 1
  if r.values.size < r.capacity then return r.offer value slot
  -- A slot past the capacity is never looked up.
  else if slot < r.capacity ∧ r.values.size ≤ slot then
    throw (.outOfBounds r.values.size slot)
  else return r.offer value slot

/-- Empties the sample and forgets the stream. -/
def clear (r : Reservoir) : Reservoir := { r with seen := 0, values := #[] }

/-! ### Size of the sample -/

@[simp] theorem capacity_offer (r : Reservoir) (value : Duration) (slot : Nat) :
    (r.offer value slot).capacity = r.capacity := by
  unfold offer
  split
  · rfl
  · split <;> rfl

@[simp] theorem seen_offer (r : Reservoir) (value : Duration) (slot : Nat) :
    (r.offer value slot).seen = r.seen + 1 := by
  unfold offer
  split
  · rfl
  · split <;> rfl

theorem size_offer (r : Reservoir) (value : Duration) (slot : Nat) :
    (r.offer value slot).values.size =
      if r.values.size < r.capacity then r.values.size + 1 else r.values.size := by
  unfold offer
  split
  · simp
  · split <;> simp

end Reservoir

/-! ### Reservoirs with their draws -/

/-- A reservoir and the generator its draws come from. -/
structure DrawingReservoir where
  reservoir : Reservoir
  generator : Generator

namespace DrawingReservoir

/-- The empty reservoir with a seeded generator. -/
def seeded (capacity : Nat) (seed : UInt64) : DrawingReservoir :=
  ⟨Reservoir.empty capacity, Generator.ofSeed seed⟩

/-- The draw for the next value: a number up to the count of values seen.  Nothing is drawn while
    there is room. -/
def draw (d : DrawingReservoir) : Except Fault (Nat × Generator) :=
  if d.reservoir.isFull then d.generator.below (d.reservoir.seen + 1) else .ok (0, d.generator)

/-- Draws for a value and offers it. -/
def update (d : DrawingReservoir) (value : Duration) : Except Fault DrawingReservoir := do
  let (slot, generator) ← d.draw
  let reservoir ← d.reservoir.update value slot
  return { reservoir, generator }

/-- Empties the reservoir.  The generator goes on from where it is. -/
def clear (d : DrawingReservoir) : DrawingReservoir := { d with reservoir := d.reservoir.clear }

end DrawingReservoir

end LoadGen
