import LoadGen.RatePlan

namespace LoadGen

/-!
# Which rates have a plan

A plan needs a permit per second at least, and a connection that gets any rate at all gets one.

* `ceilDiv_pos`, `le_ceilDiv_of_mul_le` — the rate of a thread from below;
* `le_mul_ceilDiv`, `mul_ceilDiv_lt` — the rate of all threads between the rate and one more for each;
* `ceilDiv_le_iff` — how many parts of a size are enough;
* `lt_mul_shares`, `mul_shares_lt` — the same for the rate that is left when connections share it;
* `RatePlan.make_eq_ok`, `RatePlan.make_eq_zeroRate` — there is a plan if the threads have a rate for each
  of their connections, and none otherwise;
* `RatePlan.figures_of_make` — the figures of a plan that was made.
-/

/-! ### Quotients rounded up -/

theorem ceilDiv_pos {n d : Nat} (some : 0 < n) (parts : 0 < d) : 0 < ceilDiv n d := by
  unfold ceilDiv
  by_cases even : n % d = 0
  · rw [if_pos even]
    -- A positive multiple of `d` is at least `d`.
    have whole : d ≤ n := Nat.le_of_dvd some (Nat.dvd_of_mod_eq_zero even)
    exact Nat.div_pos whole parts
  · rw [if_neg even]
    exact Nat.succ_pos _

theorem le_ceilDiv_of_mul_le {n d k : Nat} (parts : 0 < d) (le : k * d ≤ n) : k ≤ ceilDiv n d := by
  have floor : k ≤ n / d := (Nat.le_div_iff_mul_le parts).mpr le
  unfold ceilDiv
  split
  · exact floor
  · omega

theorem le_mul_ceilDiv {n d : Nat} (parts : 0 < d) : n ≤ d * ceilDiv n d := by
  have hdiv : d * (n / d) + n % d = n := Nat.div_add_mod n d
  have hmod : n % d < d := Nat.mod_lt n parts
  unfold ceilDiv
  by_cases even : n % d = 0
  · rw [if_pos even]
    omega
  · rw [if_neg even, Nat.mul_succ]
    omega

theorem mul_ceilDiv_lt {n d : Nat} (parts : 0 < d) : d * ceilDiv n d < n + d := by
  have hdiv : d * (n / d) + n % d = n := Nat.div_add_mod n d
  unfold ceilDiv
  by_cases even : n % d = 0
  · rw [if_pos even]
    omega
  · rw [if_neg even, Nat.mul_succ]
    omega

theorem ceilDiv_le_iff {n d k : Nat} (parts : 0 < d) : ceilDiv n d ≤ k ↔ n ≤ d * k := by
  constructor
  · intro few
    exact Nat.le_trans (le_mul_ceilDiv parts) (Nat.mul_le_mul_left d few)
  · intro enough
    have less : d * ceilDiv n d < d * (k + 1) :=
      Nat.lt_of_lt_of_le (mul_ceilDiv_lt parts) (Nat.add_le_add_right enough d)
    exact Nat.le_of_lt_succ (Nat.lt_of_mul_lt_mul_left less)

/-! ### Shares of a quotient rounded up -/

section

variable {n parts shares : Nat}

/-- Rounding down takes less than one from each share. -/
theorem lt_mul_shares (some : 0 < parts) (some' : 0 < shares) :
    n < parts * (ceilDiv n parts / shares * shares) + parts * shares := by
  have lost : ceilDiv n parts < ceilDiv n parts / shares * shares + shares := by
    have whole := Nat.div_add_mod' (ceilDiv n parts) shares
    have rest := Nat.mod_lt (ceilDiv n parts) some'
    omega
  calc n ≤ parts * ceilDiv n parts := le_mul_ceilDiv some
    _ < parts * (ceilDiv n parts / shares * shares + shares) := Nat.mul_lt_mul_of_pos_left lost some
    _ = _ := Nat.mul_add _ _ _

theorem mul_shares_lt (some : 0 < parts) :
    parts * (ceilDiv n parts / shares * shares) < n + parts :=
  calc parts * (ceilDiv n parts / shares * shares)
      ≤ parts * ceilDiv n parts := Nat.mul_le_mul_left _ (Nat.div_mul_le_self _ _)
    _ < n + parts := mul_ceilDiv_lt some

end

/-! ### Plans -/

/-- What is left of a positive rate after its batches is positive. -/
theorem div_batchSizeFor_pos {rate : Nat} (some : 0 < rate) : 0 < rate / batchSizeFor rate := by
  have divides : batchSizeFor rate ∣ rate := batchSizeFor_dvd rate
  have within : batchSizeFor rate ≤ rate := Nat.le_of_dvd some divides
  have size : 0 < batchSizeFor rate := Nat.pos_of_dvd_of_pos divides some
  exact Nat.div_pos within size

namespace RatePlan

variable {rate threads concurrency : Nat}

/-- There is a plan if every connection of a thread gets an operation per second. -/
theorem make_eq_ok (parts : 0 < threads) (shares : 0 < concurrency)
    (enough : concurrency ≤ ceilDiv rate threads) :
    ∃ plan, make rate threads concurrency = .ok plan := by
  have some : 0 < ceilDiv rate threads / concurrency := Nat.div_pos enough shares
  have permits := div_batchSizeFor_pos some
  unfold make
  rw [if_neg (Nat.ne_of_gt parts), if_neg (Nat.ne_of_gt shares), dif_pos permits]
  exact ⟨_, rfl⟩

/-- There is none if some connection gets less. -/
theorem make_eq_zeroRate (parts : 0 < threads) (shares : 0 < concurrency)
    (short : ceilDiv rate threads < concurrency) :
    make rate threads concurrency = .error .zeroRate := by
  have none : ceilDiv rate threads / concurrency = 0 := Nat.div_eq_of_lt short
  unfold make
  rw [if_neg (Nat.ne_of_gt parts), if_neg (Nat.ne_of_gt shares)]
  simp only [none, Nat.zero_div, Nat.lt_irrefl, dite_false]

/-- The figures of a plan, each from those before it. -/
structure Figures (rate threads concurrency : Nat) (plan : RatePlan) : Prop where
  threads_pos : 0 < threads
  concurrency_pos : 0 < concurrency
  threadRate_eq : plan.threadRate = ceilDiv rate threads
  connectionRate_eq : plan.connectionRate = plan.threadRate / concurrency
  batchSize_eq : plan.batchSize = batchSizeFor plan.connectionRate
  tokensPerSec_eq : plan.tokensPerSec = plan.connectionRate / plan.batchSize

theorem figures_of_make {plan : RatePlan} (made : make rate threads concurrency = .ok plan) :
    plan.Figures rate threads concurrency := by
  unfold make at made
  split at made
  · cases made
  · split at made
    · cases made
    · simp only at made
      split at made
      · cases made
        exact ⟨Nat.pos_of_ne_zero ‹_›, Nat.pos_of_ne_zero ‹_›, rfl, rfl, rfl, rfl⟩
      · cases made

theorem connectionRate_of_make {plan : RatePlan} (made : make rate threads concurrency = .ok plan) :
    plan.connectionRate = ceilDiv rate threads / concurrency := by
  have figures := figures_of_make made
  rw [figures.connectionRate_eq, figures.threadRate_eq]

/-- A plan runs its rate in whole batches. -/
theorem tokensPerSec_mul_batchSize {plan : RatePlan} (made : make rate threads concurrency = .ok plan) :
    0 < plan.batchSize ∧ plan.tokensPerSec * plan.batchSize = plan.connectionRate := by
  have figures := figures_of_make made
  have permits := plan.tokensPerSec_pos
  rw [figures.tokensPerSec_eq] at permits
  constructor
  · apply Nat.pos_of_ne_zero
    intro none
    rw [none, Nat.div_zero] at permits
    exact Nat.lt_irrefl 0 permits
  · rw [figures.tokensPerSec_eq, figures.batchSize_eq]
    exact Nat.div_mul_cancel (batchSizeFor_dvd _)

end RatePlan

end LoadGen
