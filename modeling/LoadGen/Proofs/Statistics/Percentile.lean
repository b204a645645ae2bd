import LoadGen.Limits
import LoadGen.Proofs.Statistics.Summary
import Mathlib.Algebra.Order.Floor.Semifield

namespace LoadGen

/-!
# Percentiles pick the right ranks

A rank is a rounded product of a rounded constant.  For as many latencies as a reservoir holds it still
truncates to the place that exact arithmetic gives, and no rounding of the interpolation leaves the two
latencies at this place.  The places of the two percentiles differ, or the higher one is past the
latencies, so the percentiles are ordered.

* `placeOf`, `Ranks` — the exact place, and when a rounded rank agrees with it;
* `ranks_p50`, `ranks_p90` — both ranks agree with their exact places;
* `interpolate_mem`, `interpolate_zero` — an interpolation stays between its ends;
* `AtRank` — what a percentile of sorted latencies is;
* `exists_percentile_atRank` — a percentile is that, if its rank agrees;
* `AtRank.le` — percentiles at different places are ordered;
* `percentiles_pick_ranks` — the percentiles of a whole summary.
-/

/-! ### Ranks -/

/-- The place of the quantile `q` among `n` values, counted from one and rounded down. -/
def placeOf (q : ℚ) (n : ℕ) : ℕ := ⌊q * (n + 1)⌋₊

/-- The rounded rank of `p` among `n` values lies at the exact place of `q`, and is this place if nothing
    had to be rounded down. -/
structure Ranks (p q : ℚ) (n : ℕ) : Prop where
  place : (rank p n).floor.toNat = placeOf q n
  whole : q * (n + 1) = placeOf q n → rank p n = placeOf q n

/-- A rank reaches a count exactly if the place does. -/
theorem Ranks.natCast_le_iff {p q : ℚ} {n : ℕ} (h : Ranks p q n) (k : ℕ) :
    (k : ℚ) ≤ rank p n ↔ k ≤ placeOf q n := by
  rw [← h.place]
  exact (Nat.le_floor_iff (Binary64.nearest_nonneg _)).symm

theorem ofNat_succ {n : ℕ} (few : n ≤ defaultReservoirCapacity) :
    Binary64.ofNat (n + 1) = n + 1 := by
  have small : n + 1 < 2 ^ 53 := Nat.lt_of_le_of_lt (Nat.succ_le_succ few) (by decide)
  rw [Binary64.ofNat_eq small, Nat.cast_add, Nat.cast_one]

/-- Half of a count is a binary64 number. -/
theorem ranks_p50 {n : ℕ} (few : n ≤ defaultReservoirCapacity) : Ranks p50 (1 / 2) n := by
  have half : Binary64.Representable (1 / 2 * (n + 1)) := by
    refine ⟨n + 1, -1, Nat.lt_of_le_of_lt (Nat.succ_le_succ few) (by decide), by decide, ?_⟩
    push_cast
    rw [zpow_neg_one]
    ring
  have exact : rank p50 n = 1 / 2 * (n + 1) := by
    unfold rank Binary64.mul p50
    rw [ofNat_succ few]
    exact Binary64.nearest_of_representable half
  refine ⟨?_, fun whole => ?_⟩
  · rw [exact]
    rfl
  · rw [exact]
    exact whole

/-- The binary64 number for nine tenths is too large by a fifth of a unit. -/
theorem p90_eq : p90 = 9 / 10 + 1 / (5 * 2 ^ 53) := by
  have value : p90 = 8106479329266893 / 2 ^ 53 := by decide +kernel
  rw [value]
  norm_num

theorem placeOf_half (n : ℕ) : placeOf (1 / 2) n = (n + 1) / 2 := by
  have halves : (1 / 2 : ℚ) * (n + 1) = ((n + 1 : ℕ) : ℚ) / (2 : ℕ) := by
    push_cast
    ring
  unfold placeOf
  rw [halves, Nat.floor_div_eq_div]

theorem placeOf_nineTenths (n : ℕ) : placeOf (9 / 10) n = 9 * (n + 1) / 10 := by
  have tenths : (9 / 10 : ℚ) * (n + 1) = ((9 * (n + 1) : ℕ) : ℚ) / (10 : ℕ) := by
    push_cast
    ring
  unfold placeOf
  rw [tenths, Nat.floor_div_eq_div]

/-- Tenths are rounded down by nine of them at most. -/
theorem le_placeOf_nineTenths (n : ℕ) : 9 / 10 * ((n : ℚ) + 1) ≤ placeOf (9 / 10) n + 9 / 10 := by
  have tenths : 9 * (n + 1) ≤ 10 * placeOf (9 / 10) n + 9 := by
    rw [placeOf_nineTenths]
    omega
  have tenths' : 9 * ((n : ℚ) + 1) ≤ 10 * placeOf (9 / 10) n + 9 := by exact_mod_cast tenths
  linarith

/-- The rank is rounded from the exact one and a surplus, which is small. -/
theorem rank_p90_eq {n : ℕ} (few : n ≤ defaultReservoirCapacity) :
    ∃ surplus : ℚ, surplus = (n + 1) / (5 * 2 ^ 53) ∧ 0 ≤ surplus ∧ surplus ≤ 31 / 32 - 9 / 10 ∧
      rank p90 n = Binary64.nearest (9 / 10 * (n + 1) + surplus) := by
  have count : (n : ℚ) + 1 ≤ 10000001 := by exact_mod_cast Nat.succ_le_succ few
  refine ⟨(n + 1) / (5 * 2 ^ 53), rfl, by positivity, ?_, ?_⟩
  · rw [div_le_iff₀ (by positivity)]
    norm_num
    linarith
  · unfold rank Binary64.mul
    rw [ofNat_succ few, p90_eq]
    congr 1
    ring

/-- What the constant and the rounding add does not reach the next place, and is lost where the place is
    exact. -/
theorem ranks_p90 {n : ℕ} (few : n ≤ defaultReservoirCapacity) : Ranks p90 (9 / 10) n := by
  obtain ⟨surplus, surplus_eq, nonneg, little, rank_eq⟩ := rank_p90_eq few
  have place_small : placeOf (9 / 10) n ≤ 10000000 := by
    have few' : n ≤ 10000000 := few
    rw [placeOf_nineTenths]
    omega
  have place_le : (placeOf (9 / 10) n : ℚ) ≤ 9 / 10 * (n + 1) := Nat.floor_le (by positivity)
  have le_place := le_placeOf_nineTenths n
  constructor
  · have low : (placeOf (9 / 10) n : ℚ) ≤ rank p90 n := by
      rw [rank_eq]
      apply Binary64.le_nearest (Binary64.representable_natCast (by omega))
      linarith
    have high : rank p90 n ≤ placeOf (9 / 10) n + 31 / 32 := by
      -- There are binary64 numbers between the largest fraction and the next place.
      have barrier : Binary64.Representable (placeOf (9 / 10) n + 31 / 32) := by
        refine ⟨32 * placeOf (9 / 10) n + 31, -5, by omega, by decide, ?_⟩
        rw [show (2 : ℚ) ^ (-5 : ℤ) = 1 / 32 by norm_num]
        push_cast
        ring
      rw [rank_eq]
      apply Binary64.nearest_le barrier
      linarith
    show ⌊rank p90 n⌋₊ = placeOf (9 / 10) n
    have rank_nonneg : 0 ≤ rank p90 n := Binary64.nearest_nonneg _
    rw [Nat.floor_eq_iff rank_nonneg]
    exact ⟨low, by linarith⟩
  · intro whole
    have place_small' : (placeOf (9 / 10) n : ℚ) ≤ 10000000 := by exact_mod_cast place_small
    rw [rank_eq, whole]
    apply Binary64.nearest_eq_natCast
    · linarith
    · -- Half a unit is at least the place over `2 ^ 54`, and the surplus is four ninths of that.
      have share : surplus = placeOf (9 / 10) n * (4 / 9) / 2 ^ 54 := by
        rw [surplus_eq, ← whole]
        ring
      have some : (0 : ℚ) < placeOf (9 / 10) n := by
        rw [← whole]
        positivity
      rw [sub_add_cancel_left, abs_neg, abs_of_nonneg nonneg]
      linarith

/-! ### Interpolation -/

/-- The ends are binary64 numbers, and so is the gap between them. -/
theorem interpolate_eq {lower upper : ℕ} (ordered : lower ≤ upper) (small : upper < 2 ^ 53)
    (fraction : ℚ) :
    interpolate lower upper fraction = Binary64.roundHalfUp
      (Binary64.add lower (Binary64.mul fraction (upper - lower : ℕ))) := by
  have gap : Binary64.sub upper lower = (upper - lower : ℕ) := by
    unfold Binary64.sub
    rw [← Nat.cast_sub ordered]
    exact Binary64.ofNat_eq (by omega)
  rw [← gap, ← Binary64.ofNat_eq small, ← Binary64.ofNat_eq (Nat.lt_of_le_of_lt ordered small)]
  rfl

/-- An interpolation does not leave its ends. -/
theorem interpolate_mem {lower upper : ℕ} (ordered : lower ≤ upper) (small : upper < 2 ^ 53)
    {fraction : ℚ} (le_one : fraction ≤ 1) :
    lower ≤ interpolate lower upper fraction ∧ interpolate lower upper fraction ≤ upper := by
  -- The way from the lower end is no longer than the gap, rounded or not.
  have way : Binary64.mul fraction (upper - lower : ℕ) ≤ (upper - lower : ℕ) :=
    Binary64.nearest_le (Binary64.representable_natCast (by omega))
      (mul_le_of_le_one_left (Nat.cast_nonneg _) le_one)
  have forward : 0 ≤ Binary64.mul fraction (upper - lower : ℕ) := Binary64.nearest_nonneg _
  rw [interpolate_eq ordered small]
  rw [Nat.cast_sub ordered] at way forward ⊢
  constructor
  · apply Binary64.le_roundHalfUp
    exact Binary64.le_nearest (Binary64.representable_natCast (by omega)) (by linarith)
  · apply Binary64.roundHalfUp_le
    exact Binary64.nearest_le (Binary64.representable_natCast small) (by linarith)

/-- Nothing of the way is the lower end. -/
theorem interpolate_zero {lower upper : ℕ} (ordered : lower ≤ upper) (small : upper < 2 ^ 53) :
    interpolate lower upper 0 = lower := by
  have way : Binary64.add lower (Binary64.mul 0 (upper - lower : ℕ)) = lower := by
    unfold Binary64.add Binary64.mul
    rw [zero_mul, Binary64.nearest_of_nonpos le_rfl, add_zero]
    exact Binary64.ofNat_eq (by omega)
  rw [interpolate_eq ordered small, way]
  exact Nat.le_antisymm (Binary64.roundHalfUp_le le_rfl) (Binary64.le_roundHalfUp le_rfl)

/-! ### Percentiles -/

/-- What the quantile `q` of ascending latencies is: the last one where its place is past them, and else
    between the two latencies at its place, the lower one of them where the place is exact. -/
structure AtRank (v : List Duration) (q : ℚ) (result : Duration) : Prop where
  past : v.length ≤ placeOf q v.length → v[v.length - 1]? = some result
  between : placeOf q v.length < v.length → ∃ lower upper,
    v[placeOf q v.length - 1]? = some lower ∧ v[placeOf q v.length]? = some upper ∧
      lower ≤ result ∧ result ≤ upper ∧
      (q * (v.length + 1) = placeOf q v.length → result = lower)

variable {v : List Duration} {p q q' : ℚ} {a b : Duration}

/-- Latencies in ascending order do not decrease from place to place. -/
theorem le_of_places (ascending : v.Pairwise (· ≤ ·)) {i j : ℕ} (le : i ≤ j)
    (at_i : v[i]? = some a) (at_j : v[j]? = some b) : a ≤ b := by
  obtain ⟨inside, rfl⟩ := List.getElem?_eq_some_iff.mp at_i
  obtain ⟨inside', rfl⟩ := List.getElem?_eq_some_iff.mp at_j
  rcases Nat.eq_or_lt_of_le le with rfl | lt
  · exact Nat.le_refl _
  · exact List.pairwise_iff_getElem.mp ascending i j inside inside' lt

/-- What is interpolated between two latencies lies between them, and is the lower one at an exact place. -/
theorem saturated_interpolate_mem (ordered : a ≤ b) (small : b.nanos < 2 ^ 53) (place : ℚ) :
    let result := Duration.saturated (interpolate a.nanos b.nanos (Binary64.fract place))
    a ≤ result ∧ result ≤ b ∧ (Binary64.fract place = 0 → result = a) := by
  intro result
  obtain ⟨above, below⟩ := interpolate_mem ordered small (Int.fract_lt_one place).le
  have nanos : result.nanos = interpolate a.nanos b.nanos (Binary64.fract place) :=
    Duration.saturated_nanos_of_lt (Nat.lt_trans (Nat.lt_of_le_of_lt below small) (by decide))
  refine ⟨?_, ?_, fun whole => Duration.ext ?_⟩
  · show a.nanos ≤ result.nanos
    rw [nanos]
    exact above
  · show result.nanos ≤ b.nanos
    rw [nanos]
    exact below
  · rw [nanos, whole]
    exact interpolate_zero ordered small

/-- A percentile is what its quantile is, if its rank agrees with the exact place. -/
theorem exists_percentile_atRank (ascending : v.Pairwise (· ≤ ·)) (filled : 0 < v.length)
    (count : v.length < 2 ^ 53) (small : ∀ value ∈ v, value.nanos < 2 ^ 53)
    (ranks : Ranks p q v.length) (first : 1 ≤ placeOf q v.length) :
    ∃ result, percentile v.toArray p = .ok result ∧ AtRank v q result := by
  have first' : 1 ≤ rank p v.toArray.size := by
    exact_mod_cast (ranks.natCast_le_iff 1).mpr first
  by_cases past : v.length ≤ placeOf q v.length
  · have past' : (v.toArray.size : ℚ) ≤ rank p v.toArray.size := (ranks.natCast_le_iff _).mpr past
    refine ⟨_, percentile_of_ge filled count first' past', fun _ => ?_, fun below => ?_⟩
    · exact List.getElem?_eq_getElem (Nat.sub_one_lt_of_lt filled)
    · exact absurd past (Nat.not_le_of_lt below)
  · have below : placeOf q v.length < v.length := Nat.lt_of_not_le past
    have below' : rank p v.toArray.size < v.toArray.size :=
      not_le.mp fun past' => past ((ranks.natCast_le_iff _).mp past')
    obtain ⟨inside, eq⟩ := percentile_of_lt count first' below'
    have place : (rank p v.toArray.size).floor.toNat = placeOf q v.length := ranks.place
    simp only [List.getElem_toArray, place] at eq
    have at_lower : v[placeOf q v.length - 1]? = some v[placeOf q v.length - 1] :=
      List.getElem?_eq_getElem _
    have at_upper : v[placeOf q v.length]? = some v[placeOf q v.length] :=
      List.getElem?_eq_getElem below
    obtain ⟨above, under, exact⟩ := saturated_interpolate_mem
      (le_of_places ascending (Nat.sub_le _ 1) at_lower at_upper)
      (small _ (List.getElem_mem below)) (rank p v.length)
    refine ⟨_, eq, fun past' => absurd past' past, fun _ =>
      ⟨_, _, at_lower, at_upper, above, under, fun whole => exact ?_⟩⟩
    rw [ranks.whole whole]
    exact Int.fract_natCast _

namespace AtRank

/-- A percentile is not above the last latency. -/
theorem le_last (h : AtRank v q a) (ascending : v.Pairwise (· ≤ ·))
    (last : v[v.length - 1]? = some b) : a ≤ b := by
  by_cases past : v.length ≤ placeOf q v.length
  · exact le_of_places ascending (Nat.le_refl _) (h.past past) last
  · obtain ⟨lower, upper, -, at_upper, -, under, -⟩ := h.between (Nat.lt_of_not_le past)
    exact Nat.le_trans under (le_of_places ascending (by omega) at_upper last)

/-- A percentile is not below the first latency. -/
theorem first_le (h : AtRank v q b) (ascending : v.Pairwise (· ≤ ·)) (first : v[0]? = some a) :
    a ≤ b := by
  by_cases past : v.length ≤ placeOf q v.length
  · exact le_of_places ascending (Nat.zero_le _) first (h.past past)
  · obtain ⟨lower, upper, at_lower, -, above, -, -⟩ := h.between (Nat.lt_of_not_le past)
    exact Nat.le_trans (le_of_places ascending (Nat.zero_le _) first at_lower) above

/-- A percentile at an exact place is the latency there. -/
theorem eq_of_whole (h : AtRank v q a) (inside : placeOf q v.length < v.length)
    (whole : q * (v.length + 1) = placeOf q v.length)
    (there : v[placeOf q v.length - 1]? = some b) : a = b := by
  obtain ⟨lower, _, at_lower, -, -, -, exact⟩ := h.between inside
  rw [exact whole]
  exact Option.some.inj (at_lower.symm.trans there)

/-- Percentiles are ordered if their places differ, or if the higher place is past the latencies. -/
theorem le (h : AtRank v q a) (h' : AtRank v q' b) (ascending : v.Pairwise (· ≤ ·))
    (apart : placeOf q v.length < placeOf q' v.length ∨ v.length ≤ placeOf q' v.length) : a ≤ b := by
  by_cases past : v.length ≤ placeOf q' v.length
  · exact h.le_last ascending (h'.past past)
  · have lt : placeOf q v.length < placeOf q' v.length := apart.resolve_right past
    obtain ⟨_, upper, -, at_upper, -, under, -⟩ := h.between (by omega)
    obtain ⟨lower, _, at_lower, -, above, -, -⟩ := h'.between (Nat.lt_of_not_le past)
    -- The place after the lower percentile is no later than the one before the higher percentile.
    have middle : upper ≤ lower := le_of_places ascending (by omega) at_upper at_lower
    exact Nat.le_trans under (Nat.le_trans middle above)

end AtRank

/-- **Percentiles pick the right ranks.**  Latencies that a reservoir can hold have a summary, whatever their
    order.  Both ranks of it truncate to the exact places, both percentiles are what their quantiles are,
    and they are ordered between the first latency and the last one. -/
theorem percentiles_pick_ranks {values v : List Duration} (filled : values ≠ [])
    (few : values.length ≤ defaultReservoirCapacity)
    (small : ∀ value ∈ values, value.nanos < 2 ^ 53) (same : v.Perm values)
    (ascending : v.Pairwise (· ≤ ·)) :
    ∃ s, summarize values = .ok s ∧
      Ranks p50 (1 / 2) values.length ∧ Ranks p90 (9 / 10) values.length ∧
      AtRank v (1 / 2) s.p50 ∧ AtRank v (9 / 10) s.p90 ∧
      ∃ first last, v[0]? = some first ∧ v[values.length - 1]? = some last ∧
        first ≤ s.p50 ∧ s.p50 ≤ s.p90 ∧ s.p90 ≤ s.max ∧ s.max = last := by
  have length : v.length = values.length := same.length_eq
  rw [← length] at few ⊢
  have nonempty : 0 < v.length := by
    rw [length]
    exact List.length_pos_of_ne_nil filled
  have count : v.length < 2 ^ 53 := Nat.lt_of_le_of_lt few (by decide)
  have small' : ∀ value ∈ v, value.nanos < 2 ^ 53 := fun value mem => small value (same.subset mem)
  have fits : totalNanos values < doubleWordCount := by
    calc totalNanos values ≤ values.length * (durationLimit - 1) := totalNanos_le values
      _ ≤ defaultReservoirCapacity * (durationLimit - 1) := by
        rw [← length]
        exact Nat.mul_le_mul_right _ few
      _ < doubleWordCount := by decide
  obtain ⟨median, middle, median_at⟩ := exists_percentile_atRank ascending nonempty count small'
    (ranks_p50 few) (by rw [placeOf_half]; omega)
  obtain ⟨ninth, high, ninth_at⟩ := exists_percentile_atRank ascending nonempty count small'
    (ranks_p90 few) (by rw [placeOf_nineTenths]; omega)
  have apart : placeOf (1 / 2) v.length < placeOf (9 / 10) v.length ∨
      v.length ≤ placeOf (9 / 10) v.length := by
    rw [placeOf_half, placeOf_nineTenths]
    omega
  have first : v[0]? = some v[0] := List.getElem?_eq_getElem nonempty
  have last : v[v.length - 1]? = some v[v.length - 1] :=
    List.getElem?_eq_getElem (Nat.sub_one_lt_of_lt nonempty)
  exact ⟨_, summarize_eq_ok (sortLatencies_eq same ascending) nonempty fits middle high, ranks_p50 few,
    ranks_p90 few, median_at, ninth_at, _, _, first, last, median_at.first_le ascending first,
    median_at.le ninth_at ascending apart, ninth_at.le_last ascending last, rfl⟩

/-- Nineteen latencies, among which both quantiles have exact places. -/
def nineteen : List Duration := (List.range 19).reverse.map Duration.clamped

theorem percentiles_pick_ranks_nineteen :
    ∃ s, summarize nineteen = .ok s ∧
      s.p50 = .clamped 9 ∧ s.p90 = .clamped 17 ∧ s.max = .clamped 18 := by
  obtain ⟨s, fine, -, -, median, ninth, _, last, -, there, -, -, -, max⟩ :=
    percentiles_pick_ranks (by decide) (by decide) (by decide) (List.reverse_perm nineteen) (by decide)
  have length : nineteen.reverse.length = 19 := by decide
  refine ⟨s, fine, ?_, ?_, ?_⟩
  · apply median.eq_of_whole <;> rw [length, placeOf_half]
    · decide
    · norm_num
    · decide
  · apply ninth.eq_of_whole <;> rw [length, placeOf_nineTenths]
    · decide
    · norm_num
    · decide
  · rw [max]
    exact (Option.some.inj there).symm

end LoadGen
