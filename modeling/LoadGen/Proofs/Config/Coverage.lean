import LoadGen.Proofs.Config.Plan
import Mathlib.Algebra.Order.Field.Rat
import Mathlib.Data.Rat.Floor
import Mathlib.Order.Bounds.Basic

namespace LoadGen

/-!
# Plans cover their rates

A plan is made where every connection of a thread gets an operation per second, and it covers the rate: the
threads round it up, by less than one operation each, and their connections round it down, by less than
one operation each.

* `ceilDiv_eq_ceil` — the rate of a thread is the least whole number above its exact share;
* `isGreatest_batchSizeFor` — a batch is as large as the rate allows;
* `RatePlan.make_cases` — every answer, and what it is the answer to;
* `RatePlan.plan_covers_rate` — the rate that a plan was made for, and the rate that it runs.
-/

/-- A quotient rounded up is the ceiling of the exact one. -/
theorem ceilDiv_eq_ceil (n : Nat) {d : Nat} (parts : 0 < d) : ceilDiv n d = ⌈(n : ℚ) / d⌉₊ := by
  have some : (0 : ℚ) < d := by exact_mod_cast parts
  apply Nat.le_antisymm
  · have above : n ≤ ⌈(n : ℚ) / d⌉₊ * d := by
      have ceil := Nat.le_ceil ((n : ℚ) / d)
      rw [div_le_iff₀ some] at ceil
      exact_mod_cast ceil
    have below : d * ceilDiv n d < n + d := mul_ceilDiv_lt parts
    apply Nat.le_of_lt_succ
    apply Nat.lt_of_mul_lt_mul_left (a := d)
    calc d * ceilDiv n d < n + d := below
      _ ≤ ⌈(n : ℚ) / d⌉₊ * d + d := Nat.add_le_add_right above d
      _ = d * (⌈(n : ℚ) / d⌉₊ + 1) := by rw [Nat.mul_add, Nat.mul_one, Nat.mul_comm]
  · rw [Nat.ceil_le, div_le_iff₀ some]
    have above : n ≤ d * ceilDiv n d := le_mul_ceilDiv parts
    rw [Nat.mul_comm] at above
    exact_mod_cast above

/-- A batch is the largest of ten, five and one that divides the rate. -/
theorem isGreatest_batchSizeFor (rate : Nat) :
    IsGreatest {size | size ∈ [10, 5, 1] ∧ size ∣ rate} (batchSizeFor rate) := by
  rw [batchSizeFor_eq]
  constructor
  · have divides := batchSizeFor_dvd rate
    rw [batchSizeFor_eq] at divides
    refine ⟨?_, divides⟩
    split
    · simp
    · split <;> simp
  · rintro size ⟨mem, divides⟩
    have whole : rate % size = 0 := Nat.mod_eq_zero_of_dvd divides
    simp only [List.mem_cons, List.not_mem_nil, or_false] at mem
    -- A candidate that divides the rate is passed over for a larger one only.
    rcases mem with rfl | rfl | rfl
    · rw [if_pos whole]
    · rw [if_pos whole]
      split <;> decide
    · split
      · decide
      · split <;> decide

namespace RatePlan

variable {rate threads concurrency : Nat}

/-- Every answer, and what it is the answer to. -/
theorem make_cases (rate threads concurrency : Nat) :
    (threads = 0 ∧ make rate threads concurrency = .error .zeroThreads) ∨
    (0 < threads ∧ concurrency = 0 ∧ make rate threads concurrency = .error .zeroConcurrency) ∨
    (0 < threads ∧ 0 < concurrency ∧ ⌈(rate : ℚ) / threads⌉₊ < concurrency ∧
      make rate threads concurrency = .error .zeroRate) ∨
    (0 < threads ∧ 0 < concurrency ∧ concurrency ≤ ⌈(rate : ℚ) / threads⌉₊ ∧
      ∃ plan, make rate threads concurrency = .ok plan) := by
  rcases Nat.eq_zero_or_pos threads with rfl | parts
  · exact .inl ⟨rfl, rfl⟩
  right
  rcases Nat.eq_zero_or_pos concurrency with rfl | shares
  · refine .inl ⟨parts, rfl, ?_⟩
    unfold make
    rw [if_neg (Nat.ne_of_gt parts), if_pos rfl]
  right
  rw [← ceilDiv_eq_ceil rate parts]
  rcases Nat.lt_or_ge (ceilDiv rate threads) concurrency with short | enough
  · exact .inl ⟨parts, shares, short, make_eq_zeroRate parts shares short⟩
  · exact .inr ⟨parts, shares, enough, make_eq_ok parts shares enough⟩

/-- **Plans cover their rates.**  Without threads, without connections, or with less than one operation per
    second for each connection of a thread there is the error that says so, in this order; otherwise
    there is a plan.  It runs the rate of a connection in whole batches, as large as they can be, and all
    connections of all threads together fall short of the rate by less than one operation each, and
    exceed it by less than one operation for each thread. -/
theorem plan_covers_rate (rate threads concurrency : Nat) :
    (make rate threads concurrency = .error .zeroThreads ↔ threads = 0) ∧
    (make rate threads concurrency = .error .zeroConcurrency ↔ 0 < threads ∧ concurrency = 0) ∧
    (make rate threads concurrency = .error .zeroRate ↔
      0 < threads ∧ 0 < concurrency ∧ ⌈(rate : ℚ) / threads⌉₊ < concurrency) ∧
    ((∃ plan, make rate threads concurrency = .ok plan) ↔
      0 < threads ∧ 0 < concurrency ∧ concurrency ≤ ⌈(rate : ℚ) / threads⌉₊) ∧
    ∀ plan, make rate threads concurrency = .ok plan →
      plan.threadRate = ⌈(rate : ℚ) / threads⌉₊ ∧
      plan.connectionRate = plan.threadRate / concurrency ∧
      plan.tokensPerSec * plan.batchSize = plan.connectionRate ∧
      IsGreatest {size | size ∈ [10, 5, 1] ∧ size ∣ plan.connectionRate} plan.batchSize ∧
      0 < plan.tokensPerSec ∧
      rate < threads * plan.connectionRate * concurrency + threads * concurrency ∧
      threads * plan.connectionRate * concurrency < rate + threads := by
  refine ⟨?_, ?_, ?_, ?_, fun plan made => ?_⟩
  case refine_5 =>
    have figures := figures_of_make made
    have shared := connectionRate_of_make made
    refine ⟨?_, figures.connectionRate_eq, (tokensPerSec_mul_batchSize made).2, ?_,
      plan.tokensPerSec_pos, ?_, ?_⟩
    · rw [figures.threadRate_eq]
      exact ceilDiv_eq_ceil rate figures.threads_pos
    · rw [figures.batchSize_eq]
      exact isGreatest_batchSizeFor plan.connectionRate
    · rw [shared, Nat.mul_assoc]
      exact lt_mul_shares figures.threads_pos figures.concurrency_pos
    · rw [shared, Nat.mul_assoc]
      exact mul_shares_lt figures.threads_pos
  all_goals
    rcases make_cases rate threads concurrency with ⟨none, answer⟩ | ⟨parts, none, answer⟩ |
      ⟨parts, shares, short, answer⟩ | ⟨parts, shares, enough, plan, answer⟩
    all_goals
      simp only [answer, Except.ok.injEq, Except.error.injEq, reduceCtorEq, exists_eq', exists_false,
        true_iff, false_iff]
      omega

/-- A thousand operations over three threads. -/
def thirds : RatePlan :=
  { threadRate := 334, connectionRate := 334, tokensPerSec := 334, batchSize := 1
    tokensPerSec_pos := by decide }

/-- Three threads run two operations too many, and cannot give five connections each of ten. -/
theorem plan_covers_rate_thirds :
    make 1000 3 1 = .ok thirds ∧
      IsGreatest {size | size ∈ [10, 5, 1] ∧ size ∣ thirds.connectionRate} thirds.batchSize ∧
      1000 < 3 * thirds.connectionRate * 1 + 3 * 1 ∧ 3 * thirds.connectionRate * 1 < 1000 + 3 ∧
      make 10 3 5 = .error .zeroRate := by
  have made : make 1000 3 1 = .ok thirds := by rfl
  obtain ⟨-, -, -, -, figures⟩ := plan_covers_rate 1000 3 1
  obtain ⟨-, -, -, size, -, above, below⟩ := figures thirds made
  obtain ⟨-, -, refused, -⟩ := plan_covers_rate 10 3 5
  have short : ⌈((10 : ℕ) : ℚ) / (3 : ℕ)⌉₊ < 5 := by
    rw [← ceilDiv_eq_ceil 10 (by decide)]
    decide
  exact ⟨made, size, above, below, refused.mpr ⟨by decide, by decide, short⟩⟩

end RatePlan

end LoadGen
