import LoadGen.Number.Binary64
import Mathlib.Algebra.Order.Field.Power
import Mathlib.Data.Rat.Floor
import Mathlib.Tactic.FieldSimp
import Mathlib.Tactic.Linarith
import Mathlib.Tactic.NormNum
import Mathlib.Tactic.Positivity
import Mathlib.Tactic.Ring

namespace LoadGen.Binary64

/-!
# Rounding goes to the nearest binary64 number

A positive rational is rounded on a grid: the multiples of a power of two that 53 binary digits can
show.  No binary64 number is nearer to it than the multiple that it is rounded to.  So rounding passes
no binary64 number, which is how bounds are carried through rounded operations.

* `magnitude_spec`, `scale_eq`, `roundEven_near` — what the parts of a rounding compute;
* `Rounds`, `exists_rounds` — the grid around a rational and the multiple it is rounded to;
* `Representable`, `representable_nearest` — the binary64 numbers, and every result is one;
* `nearest_near` — none is nearer;
* `le_nearest`, `nearest_le` — rounding passes no binary64 number;
* `nearest_eq_natCast` — a rational that is very close to a natural number is rounded to it;
* `ofNat_eq` — small counts are binary64 numbers;
* `le_roundHalfUp`, `roundHalfUp_le` — rounding to natural numbers passes none of them.
-/

variable {num den m n : ℕ} {e : ℤ} {x z : ℚ}

/-! ### The parts of a rounding -/

theorem value_eq (m : ℕ) (e : ℤ) : value m e = m * 2 ^ e := by
  unfold value powerOfTwo
  by_cases up : 0 ≤ e
  · obtain ⟨k, rfl⟩ := Int.eq_ofNat_of_zero_le up
    rw [if_pos up, Int.toNat_natCast, zpow_natCast]
    exact_mod_cast rfl
  · obtain ⟨k, rfl⟩ : ∃ k : ℕ, e = -k := ⟨(-e).toNat, by omega⟩
    rw [if_neg up, neg_neg, Int.toNat_natCast, Rat.mkRat_eq_div, zpow_neg, zpow_natCast,
      div_eq_mul_inv]
    exact_mod_cast rfl

/-- A fraction is measured in units of `2 ^ e`. -/
theorem scale_eq (num den : ℕ) (e : ℤ) :
    ((scale num den e).1 : ℚ) / (scale num den e).2 = num / den / 2 ^ e := by
  unfold scale powerOfTwo
  by_cases up : 0 ≤ e
  · obtain ⟨k, rfl⟩ := Int.eq_ofNat_of_zero_le up
    have unit : ((Nat.pow 2 k : ℕ) : ℚ) = 2 ^ k := by exact_mod_cast rfl
    rw [if_pos up, Int.toNat_natCast, zpow_natCast, Nat.cast_mul, unit, div_div]
  · obtain ⟨k, rfl⟩ : ∃ k : ℕ, e = -k := ⟨(-e).toNat, by omega⟩
    have unit : ((Nat.pow 2 k : ℕ) : ℚ) = 2 ^ k := by exact_mod_cast rfl
    rw [if_neg up, neg_neg, Int.toNat_natCast, zpow_neg, zpow_natCast, Nat.cast_mul, unit,
      div_inv_eq_mul, div_mul_eq_mul_div]

theorem scale_pos (den_pos : 0 < den) (e : ℤ) : 0 < (scale num den e).2 := by
  unfold scale powerOfTwo
  split
  · exact Nat.mul_pos den_pos (Nat.two_pow_pos _)
  · exact den_pos

/-- A fraction reaches a power of two exactly if it is at least one of its units. -/
theorem scale_le_iff (den_pos : 0 < den) (e : ℤ) :
    (scale num den e).2 ≤ (scale num den e).1 ↔ (2 : ℚ) ^ e ≤ num / den := by
  have unit : (0 : ℚ) < 2 ^ e := by positivity
  have parts : (0 : ℚ) < (scale num den e).2 := by exact_mod_cast scale_pos den_pos e
  calc (scale num den e).2 ≤ (scale num den e).1
      ↔ ((scale num den e).2 : ℚ) ≤ (scale num den e).1 := Nat.cast_le.symm
    _ ↔ (1 : ℚ) ≤ (scale num den e).1 / (scale num den e).2 := (one_le_div parts).symm
    _ ↔ (1 : ℚ) ≤ num / den / 2 ^ e := by rw [scale_eq]
    _ ↔ (2 : ℚ) ^ e ≤ num / den := one_le_div unit

theorem magnitude_eq (num den : ℕ) :
    magnitude num den =
      if (scale num den (num.log2 - den.log2)).2 ≤ (scale num den (num.log2 - den.log2)).1 then
        (num.log2 - den.log2 : ℤ)
      else num.log2 - den.log2 - 1 := by
  unfold magnitude scale
  by_cases up : 0 ≤ (num.log2 - den.log2 : ℤ)
  · simp only [if_pos up, decide_eq_true_eq]
  · simp only [if_neg up, decide_eq_true_eq]

theorem log2_spec (some : 0 < n) :
    (2 : ℚ) ^ (n.log2 : ℤ) ≤ n ∧ (n : ℚ) < 2 ^ (n.log2 + 1 : ℤ) := by
  constructor
  · rw [zpow_natCast]
    exact_mod_cast Nat.log2_self_le some.ne'
  · exact_mod_cast Nat.lt_log2_self

/-- The difference of the lengths is off by less than one in either direction. -/
theorem log2_sub_log2_spec (num_pos : 0 < num) (den_pos : 0 < den) :
    (2 : ℚ) ^ (num.log2 - den.log2 - 1 : ℤ) ≤ num / den ∧
      (num / den : ℚ) < 2 ^ (num.log2 - den.log2 + 1 : ℤ) := by
  have den_pos' : (0 : ℚ) < den := by exact_mod_cast den_pos
  obtain ⟨num_ge, num_lt⟩ := log2_spec num_pos
  obtain ⟨den_ge, den_lt⟩ := log2_spec den_pos
  constructor
  · rw [le_div_iff₀ den_pos']
    calc (2 : ℚ) ^ (num.log2 - den.log2 - 1 : ℤ) * den
        ≤ 2 ^ (num.log2 - den.log2 - 1 : ℤ) * 2 ^ (den.log2 + 1 : ℤ) := by gcongr
      _ = 2 ^ (num.log2 : ℤ) := by
        rw [← zpow_add₀ two_ne_zero]
        congr 1
        omega
      _ ≤ num := num_ge
  · rw [div_lt_iff₀ den_pos']
    calc (num : ℚ) < 2 ^ (num.log2 + 1 : ℤ) := num_lt
      _ = 2 ^ (num.log2 - den.log2 + 1 : ℤ) * 2 ^ (den.log2 : ℤ) := by
        rw [← zpow_add₀ two_ne_zero]
        congr 1
        omega
      _ ≤ 2 ^ (num.log2 - den.log2 + 1 : ℤ) * den := by gcongr

/-- The magnitude of a fraction is the exponent of the power of two below it. -/
theorem magnitude_spec (num_pos : 0 < num) (den_pos : 0 < den) :
    (2 : ℚ) ^ magnitude num den ≤ num / den ∧ (num / den : ℚ) < 2 ^ (magnitude num den + 1) := by
  obtain ⟨low, high⟩ := log2_sub_log2_spec num_pos den_pos
  rw [magnitude_eq]
  split
  case isTrue reaches => exact ⟨(scale_le_iff den_pos _).mp reaches, high⟩
  case isFalse short =>
    rw [scale_le_iff den_pos, not_le] at short
    rw [sub_add_cancel]
    exact ⟨low, short⟩

/-- A fraction is rounded to one of the integers around it, and not to the farther one. -/
theorem roundEven_cases (num den : ℕ) :
    (roundEven num den = num / den ∧ 2 * (num % den) ≤ den) ∨
      (roundEven num den = num / den + 1 ∧ den ≤ 2 * (num % den)) := by
  unfold roundEven
  by_cases below : 2 * (num % den) < den
  · exact .inl ⟨if_pos below, below.le⟩
  · by_cases above : den < 2 * (num % den)
    · exact .inr ⟨(if_neg below).trans (if_pos above), above.le⟩
    · have tie : 2 * (num % den) = den := by omega
      rcases Nat.mod_two_eq_zero_or_one (num / den) with even | odd
      · exact .inl ⟨(if_neg below).trans ((if_neg above).trans (by rw [even, Nat.add_zero])), tie.le⟩
      · exact .inr ⟨(if_neg below).trans ((if_neg above).trans (by rw [odd])), tie.ge⟩

/-- A fraction is at most a half away from the integer that it is rounded to. -/
theorem roundEven_near (den_pos : 0 < den) : |(roundEven num den : ℚ) - num / den| ≤ 1 / 2 := by
  have den_pos' : (0 : ℚ) < den := by exact_mod_cast den_pos
  have quotient : (num / den : ℚ) = (num / den : ℕ) + (num % den : ℕ) / den := by
    have parts : (num : ℚ) = den * (num / den : ℕ) + (num % den : ℕ) := by
      exact_mod_cast (Nat.div_add_mod num den).symm
    rw [eq_comm, ← sub_eq_zero]
    field_simp
    linarith
  have rest_nonneg : (0 : ℚ) ≤ (num % den : ℕ) / den := by positivity
  have rest_lt : ((num % den : ℕ) / den : ℚ) < 1 := by
    rw [div_lt_one den_pos']
    exact_mod_cast Nat.mod_lt num den_pos
  rw [quotient, abs_le]
  rcases roundEven_cases num den with ⟨down, low⟩ | ⟨up, high⟩
  · have half : ((num % den : ℕ) / den : ℚ) ≤ 1 / 2 := by
      have low' : 2 * ((num % den : ℕ) : ℚ) ≤ den := by exact_mod_cast low
      rw [div_le_iff₀ den_pos']
      linarith
    rw [down]
    constructor <;> linarith
  · have half : (1 / 2 : ℚ) ≤ (num % den : ℕ) / den := by
      have high' : (den : ℚ) ≤ 2 * ((num % den : ℕ) : ℚ) := by exact_mod_cast high
      rw [le_div_iff₀ den_pos']
      linarith
    rw [up, Nat.cast_add, Nat.cast_one]
    constructor <;> linarith

/-! ### The grid around a rational -/

/-- `x` is rounded to `m * 2 ^ e`: it is at most half a unit away, and the unit is the one with which 53
    binary digits show `x`, or the smallest one. -/
structure Rounds (x : ℚ) (m : ℕ) (e : ℤ) : Prop where
  deep : -1074 ≤ e
  near : |m - x / 2 ^ e| ≤ 1 / 2
  below : x < 2 ^ (e + 53)
  above : 2 ^ (e + 52) ≤ x ∨ e = -1074

/-- A fraction is rounded on the grid of its spacing. -/
theorem rounds_spacing (num_pos : 0 < num) (den_pos : 0 < den) :
    Rounds (num / den) (roundEven (scale num den (spacing num den)).1
      (scale num den (spacing num den)).2) (spacing num den) := by
  obtain ⟨low, high⟩ := magnitude_spec num_pos den_pos
  refine ⟨le_max_right _ _, ?_, ?_, ?_⟩
  · rw [← scale_eq]
    exact roundEven_near (scale_pos den_pos _)
  · refine high.trans_le (zpow_le_zpow_right₀ one_le_two ?_)
    unfold spacing
    omega
  · unfold spacing
    rcases max_choice (magnitude num den - 52) (-1074) with wide | deepest
    · rw [wide, sub_add_cancel]
      exact .inl low
    · exact .inr deepest

/-- A positive rational is rounded on its grid. -/
theorem exists_rounds (pos : 0 < x) :
    ∃ (m : ℕ) (e : ℤ), nearest x = m * 2 ^ e ∧ Rounds x m e := by
  have num_pos : 0 < x.num := Rat.num_pos.mpr pos
  have parts : (x.num.toNat : ℚ) / x.den = x := by
    have whole : (x.num.toNat : ℚ) = x.num := by exact_mod_cast Int.toNat_of_nonneg num_pos.le
    rw [whole, Rat.num_div_den]
  have rounds := rounds_spacing (Int.lt_toNat.mpr num_pos) x.den_pos
  rw [parts] at rounds
  refine ⟨_, _, ?_, rounds⟩
  unfold nearest
  rw [if_neg (not_le.mpr pos)]
  exact value_eq _ _

/-- A binary64 number: 53 binary digits, and none below the smallest unit. -/
def Representable (z : ℚ) : Prop := ∃ (m : ℕ) (e : ℤ), m < 2 ^ 53 ∧ -1074 ≤ e ∧ z = m * 2 ^ e

theorem Representable.nonneg (h : Representable z) : 0 ≤ z := by
  obtain ⟨m, e, -, -, rfl⟩ := h
  positivity

theorem representable_natCast (small : n < 2 ^ 53) : Representable n :=
  ⟨n, 0, small, by decide, by rw [zpow_zero, mul_one]⟩

namespace Rounds

/-- `x` is shown with 53 digits before the point. -/
theorem units_lt (h : Rounds x m e) : x / 2 ^ e < 2 ^ 53 := by
  have unit : (0 : ℚ) < 2 ^ e := by positivity
  rw [div_lt_iff₀ unit]
  calc x < 2 ^ (e + 53) := h.below
    _ = 2 ^ 53 * 2 ^ e := by rw [zpow_add₀ two_ne_zero, mul_comm]; norm_cast

/-- Digits may be carried into one more digit, which is then the only one. -/
theorem le_carry (h : Rounds x m e) : m ≤ 2 ^ 53 := by
  have close : (m : ℚ) ≤ x / 2 ^ e + 1 / 2 := by
    have := (abs_le.mp h.near).2
    linarith
  have less : (m : ℚ) < 2 ^ 53 + 1 := by
    have := h.units_lt
    linarith
  exact Nat.lt_succ_iff.mp (by exact_mod_cast less)

/-- What `x` is rounded to is a binary64 number. -/
theorem representable (h : Rounds x m e) : Representable (m * 2 ^ e) := by
  rcases Nat.lt_or_eq_of_le h.le_carry with fits | carry
  · exact ⟨m, e, fits, h.deep, rfl⟩
  · refine ⟨2 ^ 52, e + 1, by decide, by have := h.deep; omega, ?_⟩
    rw [carry, zpow_add₀ two_ne_zero]
    push_cast
    ring

/-- Every other multiple of the unit is at least half a unit away. -/
theorem half_le (h : Rounds x m e) {k : ℕ} (other : k ≠ m) : 1 / 2 ≤ |k - x / 2 ^ e| := by
  have apart : (1 : ℚ) ≤ |(k : ℚ) - m| := by
    have nonzero : (k : ℤ) - m ≠ 0 := by omega
    exact_mod_cast Int.one_le_abs nonzero
  have way : |(k : ℚ) - m| ≤ |k - x / 2 ^ e| + |x / 2 ^ e - m| := abs_sub_le _ _ _
  have near := h.near
  rw [abs_sub_comm] at near
  linarith

/-- No multiple of the unit is nearer. -/
theorem near_grid (h : Rounds x m e) (k : ℕ) : |m - x / 2 ^ e| ≤ |k - x / 2 ^ e| := by
  by_cases same : k = m
  · rw [same]
  · exact h.near.trans (h.half_le same)

/-- No binary64 number is nearer. -/
theorem near_representable (h : Rounds x m e) (number : Representable z) :
    |m - x / 2 ^ e| ≤ |z / 2 ^ e - x / 2 ^ e| := by
  have unit : (0 : ℚ) < 2 ^ e := by positivity
  obtain ⟨digits, exponent, few, deep, rfl⟩ := number
  by_cases finer : exponent < e
  · -- With a finer unit the number has too few digits to reach the first one of `x`.
    have wide : (2 : ℚ) ^ (e + 52) ≤ x := by
      rcases h.above with wide | deepest
      · exact wide
      · omega
    have first : (2 : ℚ) ^ 52 ≤ x / 2 ^ e := by
      rw [le_div_iff₀ unit]
      calc (2 : ℚ) ^ 52 * 2 ^ e = 2 ^ (e + 52) := by
            rw [zpow_add₀ two_ne_zero, mul_comm]; norm_cast
        _ ≤ x := wide
    have short : (digits * 2 ^ exponent : ℚ) / 2 ^ e ≤ 2 ^ 52 := by
      have few' : (digits : ℚ) ≤ 2 ^ 53 := by exact_mod_cast few.le
      rw [div_le_iff₀ unit]
      calc (digits : ℚ) * 2 ^ exponent ≤ 2 ^ 53 * 2 ^ (e - 1) := by
            gcongr
            · exact one_le_two
            · omega
        _ = 2 ^ 52 * 2 ^ e := by
            rw [zpow_sub₀ two_ne_zero]
            ring
    calc |m - x / 2 ^ e| ≤ |((2 ^ 52 : ℕ) : ℚ) - x / 2 ^ e| := h.near_grid _
      _ = x / 2 ^ e - 2 ^ 52 := by
        rw [abs_sub_comm, abs_of_nonneg] <;> push_cast <;> linarith
      _ ≤ x / 2 ^ e - digits * 2 ^ exponent / 2 ^ e := by linarith
      _ ≤ |digits * 2 ^ exponent / 2 ^ e - x / 2 ^ e| := by
        rw [abs_sub_comm]
        exact le_abs_self _
  · have multiple : (digits * 2 ^ exponent : ℚ) / 2 ^ e =
        (digits * 2 ^ (exponent - e).toNat : ℕ) := by
      have whole : exponent = (exponent - e).toNat + e := by omega
      rw [div_eq_iff unit.ne']
      nth_rewrite 1 [whole]
      rw [zpow_add₀ two_ne_zero, zpow_natCast]
      push_cast
      ring
    rw [multiple]
    exact h.near_grid _

end Rounds

/-! ### Rounding -/

theorem nearest_of_nonpos (nonpos : x ≤ 0) : nearest x = 0 := if_pos nonpos

theorem representable_nearest (x : ℚ) : Representable (nearest x) := by
  by_cases nonpos : x ≤ 0
  · rw [nearest_of_nonpos nonpos]
    exact_mod_cast representable_natCast (n := 0) (by decide)
  · obtain ⟨m, e, eq, rounds⟩ := exists_rounds (not_le.mp nonpos)
    rw [eq]
    exact rounds.representable

/-- No binary64 number is nearer to a rational than the one that it is rounded to. -/
theorem nearest_near (nonneg : 0 ≤ x) (number : Representable z) :
    |nearest x - x| ≤ |z - x| := by
  rcases nonneg.eq_or_lt with rfl | pos
  · rw [nearest_of_nonpos le_rfl, sub_zero, abs_zero]
    exact abs_nonneg _
  · obtain ⟨m, e, eq, rounds⟩ := exists_rounds pos
    have unit : (0 : ℚ) < 2 ^ e := by positivity
    have units (y : ℚ) : |y - x| = |y / 2 ^ e - x / 2 ^ e| * 2 ^ e := by
      rw [← sub_div, abs_div, abs_of_pos unit, div_mul_cancel₀ _ unit.ne']
    rw [units, units z, eq, mul_div_cancel_right₀ _ unit.ne']
    exact mul_le_mul_of_nonneg_right (rounds.near_representable number) unit.le

/-- Rounding does not pass a binary64 number downwards. -/
theorem le_nearest (number : Representable z) (le : z ≤ x) : z ≤ nearest x := by
  have near := nearest_near (number.nonneg.trans le) number
  rw [abs_of_nonpos (sub_nonpos.mpr le)] at near
  have := (abs_le.mp near).1
  linarith

/-- Rounding does not pass a binary64 number upwards. -/
theorem nearest_le (number : Representable z) (le : x ≤ z) : nearest x ≤ z := by
  by_cases nonneg : 0 ≤ x
  · have near := nearest_near nonneg number
    rw [abs_of_nonneg (sub_nonneg.mpr le)] at near
    have := (abs_le.mp near).2
    linarith
  · rw [nearest_of_nonpos (not_le.mp nonneg).le]
    exact number.nonneg

/-- A binary64 number is not changed. -/
theorem nearest_of_representable (number : Representable z) : nearest z = z :=
  le_antisymm (nearest_le number le_rfl) (le_nearest number le_rfl)

theorem nearest_nonneg (x : ℚ) : 0 ≤ nearest x := (representable_nearest x).nonneg

/-- A natural number below `2 ^ 53` is a binary64 number. -/
theorem ofNat_eq (small : n < 2 ^ 53) : ofNat n = n :=
  nearest_of_representable (representable_natCast small)

/-- A rational is rounded to a natural number that is nearer to it than half of the last of its 53 digits
    can show. -/
theorem nearest_eq_natCast (small : x < 2 ^ 53) (close : |(n : ℚ) - x| < x / 2 ^ 54) :
    nearest x = n := by
  have pos : 0 < x := by
    have := (abs_nonneg _).trans_lt close
    linarith
  obtain ⟨m, e, eq, rounds⟩ := exists_rounds pos
  have unit : (0 : ℚ) < 2 ^ e := by positivity
  -- The unit is no more than one, so the natural number is a multiple of it.
  have fine : e ≤ 0 := by
    rcases rounds.above with wide | deepest
    · have := (zpow_lt_zpow_iff_right₀ (one_lt_two : (1 : ℚ) < 2)).mp
        (wide.trans_lt (by exact_mod_cast small : x < 2 ^ (53 : ℤ)))
      omega
    · omega
  obtain ⟨k, rfl⟩ : ∃ k : ℕ, e = -k := ⟨(-e).toNat, by omega⟩
  have multiple : (n : ℚ) / 2 ^ (-(k : ℤ)) = (n * 2 ^ k : ℕ) := by
    rw [zpow_neg, zpow_natCast, div_inv_eq_mul]
    push_cast
    rfl
  have half : |((n * 2 ^ k : ℕ) : ℚ) - x / 2 ^ (-(k : ℤ))| < 1 / 2 := by
    rw [← multiple, ← sub_div, abs_div, abs_of_pos unit, div_lt_iff₀ unit]
    have digits := rounds.units_lt
    rw [div_lt_iff₀ unit] at digits
    linarith
  have same : n * 2 ^ k = m := by
    by_contra other
    exact not_le.mpr half (rounds.half_le other)
  rw [eq, ← same, ← multiple, div_mul_cancel₀ _ unit.ne']

/-! ### Rounding to natural numbers -/

theorem le_roundHalfUp (le : n ≤ x) : n ≤ roundHalfUp x := by
  show n ≤ ⌊x + 1 / 2⌋₊
  apply Nat.le_floor
  linarith

theorem roundHalfUp_le (le : x ≤ n) : roundHalfUp x ≤ n := by
  show ⌊x + 1 / 2⌋₊ ≤ n
  rw [← Nat.lt_succ_iff, Nat.floor_lt' (Nat.succ_ne_zero n), Nat.cast_succ]
  linarith

end LoadGen.Binary64
