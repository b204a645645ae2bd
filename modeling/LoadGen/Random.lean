import LoadGen.Fault

namespace LoadGen

/-!
# A small random generator

A generator with four 64-bit words of state, seeded from one word, and draws from a range without
bias.

* `Generator.ofSeed` — the state for a seed;
* `Generator.next` — one word and the state after it;
* `Generator.below` — a number below a bound.
-/

/-- Rotates a word to the left. -/
def rotateLeft (x : UInt64) (k : UInt64) : UInt64 := (x <<< k) ||| (x >>> (64 - k))

/-- Rotates a half word to the right. -/
def rotateRight (x : UInt32) (k : UInt32) : UInt32 := (x >>> k) ||| (x <<< (32 - k))

/-! ### Seeding

A linear congruential sequence starts at the seed.  Each of its states gives a half word: the state is
folded onto its upper part, and rotated by its five highest bits. -/

/-- The state after a state of the seeding sequence. -/
def seedStep (state : UInt64) : UInt64 := state * 6364136223846793005 + 11634580027462260723

/-- The half word of a state of the seeding sequence. -/
def seedHalf (state : UInt64) : UInt32 :=
  rotateRight (((state >>> 18) ^^^ state) >>> 27).toUInt32 (state >>> 59).toUInt32

/-- A word from the two states after a state, low half first, and the later of them. -/
def seedWord (state : UInt64) : UInt64 × UInt64 :=
  let low := seedStep state
  let high := seedStep low
  ((seedHalf low).toUInt64 ||| ((seedHalf high).toUInt64 <<< 32), high)

/-! ### Drawing -/

/-- The state of a random generator. -/
structure Generator where
  s0 : UInt64
  s1 : UInt64
  s2 : UInt64
  s3 : UInt64
  deriving DecidableEq, Repr

namespace Generator

/-- The state for a seed: four successive words of the seeding sequence. -/
def ofSeed (seed : UInt64) : Generator :=
  let (s0, seed) := seedWord seed
  let (s1, seed) := seedWord seed
  let (s2, seed) := seedWord seed
  let (s3, _) := seedWord seed
  { s0, s1, s2, s3 }

/-- The next word and the state after it. -/
def next (g : Generator) : UInt64 × Generator :=
  let word := rotateLeft (g.s0 + g.s3) 23 + g.s0
  let t := g.s1 <<< 17
  let s2 := g.s2 ^^^ g.s0
  let s3 := g.s3 ^^^ g.s1
  let s1 := g.s1 ^^^ s2
  let s0 := g.s0 ^^^ s3
  (word, { s0, s1, s2 := s2 ^^^ t, s3 := rotateLeft s3 45 })

/-- The largest low half of a product that is kept: the bound shifted up to fill its word, less one. -/
def zone (bound : Nat) : Nat := bound <<< (63 - bound.log2) - 1

/-- Draws below `bound`.  A word is multiplied by the bound; the high half is the draw, unless the low
    half leaves the zone and another word is tried.  A draw fails less than half the time; after
    `attempts` failures the next one is taken as it is. -/
def drawBelow (bound : Nat) : Nat → Generator → Nat × Generator
  | 0, g => let (word, g) := g.next; (word.toNat * bound / wordCount, g)
  | attempts + 1, g =>
    let (word, g) := g.next
    let product := word.toNat * bound
    -- A low half outside the zone belongs to a draw that more words than others would lead to.
    if product % wordCount ≤ zone bound then (product / wordCount, g)
    else drawBelow bound attempts g

/-- A number below `bound`, if there is one, for a bound of 64 bits. -/
def below (g : Generator) (bound : Nat) : Except Fault (Nat × Generator) :=
  if bound = 0 then .error .emptyRange else .ok (drawBelow bound 4096 g)

/-! ### Draws stay below their bound -/

theorem drawBelow_lt {bound : Nat} (some : 0 < bound) (attempts : Nat) (g : Generator) :
    (drawBelow bound attempts g).1 < bound := by
  -- The draw is the high half of the product of a word and the bound.
  have high (word : UInt64) : word.toNat * bound / wordCount < bound := by
    have word_lt := word.toNat_lt
    rw [Nat.div_lt_iff_lt_mul (by decide), Nat.mul_comm bound]
    exact Nat.mul_lt_mul_of_pos_right word_lt some
  induction attempts generalizing g with
  | zero => exact high _
  | succ attempts ih =>
    unfold drawBelow
    simp only
    split
    · exact high _
    · exact ih _

/-- There is a number below any bound but zero. -/
theorem exists_below {bound : Nat} (some : 0 < bound) (g : Generator) :
    ∃ slot after, g.below bound = .ok (slot, after) ∧ slot < bound := by
  unfold below
  rw [if_neg (Nat.ne_of_gt some)]
  exact ⟨(drawBelow bound 4096 g).1, (drawBelow bound 4096 g).2, rfl, drawBelow_lt some 4096 g⟩

end Generator

end LoadGen
