import LoadGen.Proofs.Number.Nearest
import LoadGen.Summary
import Mathlib.Data.List.Sort

namespace LoadGen

/-!
# What a summary depends on

Latencies have a summary if their sum is a 128-bit word, and it does not depend on their order.

* `sortLatencies_eq` — there is one way to sort latencies;
* `meanOf_eq` — the mean, or the sum that is no word;
* `percentile_of_ge`, `percentile_of_lt` — percentiles read inside the latencies;
* `summarize_eq_of_perm`, `summarize_eq_ok`, `exists_summarize_eq_ok` — the same for the whole summary.
-/

/-! ### Sorting -/

theorem pairwise_sortLatencies (values : List Duration) :
    (sortLatencies values).Pairwise fun a b => decide (a.nanos ≤ b.nanos) = true := by
  apply List.pairwise_mergeSort
  · intro a b c first second
    rw [decide_eq_true_eq] at first second ⊢
    exact Nat.le_trans first second
  · intro a b
    rw [Bool.or_eq_true, decide_eq_true_eq, decide_eq_true_eq]
    exact Nat.le_total a.nanos b.nanos

theorem sortLatencies_perm (values : List Duration) : (sortLatencies values).Perm values :=
  List.mergeSort_perm _ _

theorem length_sortLatencies (values : List Duration) :
    (sortLatencies values).length = values.length := (sortLatencies_perm values).length_eq

/-- There is one way to sort latencies. -/
theorem sortLatencies_eq {values sorted : List Duration} (same : sorted.Perm values)
    (ascending : sorted.Pairwise (· ≤ ·)) : sortLatencies values = sorted := by
  refine List.Perm.eq_of_pairwise ?_ (pairwise_sortLatencies values)
    (ascending.imp fun le => decide_eq_true le) ((sortLatencies_perm values).trans same.symm)
  intro a b _ _ le ge
  rw [decide_eq_true_eq] at le ge
  exact Duration.ext (Nat.le_antisymm le ge)

theorem sortLatencies_eq_of_perm {values values' : List Duration} (same : values.Perm values') :
    sortLatencies values = sortLatencies values' :=
  sortLatencies_eq ((sortLatencies_perm values').trans same.symm)
    ((pairwise_sortLatencies values').imp of_decide_eq_true)

/-! ### The mean -/

/-- The nanoseconds of all latencies. -/
def totalNanos (values : List Duration) : Nat := (values.map Duration.nanos).sum

theorem totalNanos_eq_of_perm {values values' : List Duration} (same : values.Perm values') :
    totalNanos values = totalNanos values' := (same.map Duration.nanos).sum_eq

theorem totalNanos_cons (value : Duration) (values : List Duration) :
    totalNanos (value :: values) = value.nanos + totalNanos values := by
  unfold totalNanos
  rw [List.map_cons, List.sum_cons]

/-- Latencies up to a bound add up to as many times the bound at most. -/
theorem totalNanos_le_mul {values : List Duration} {bound : Nat}
    (below : ∀ value ∈ values, value.nanos ≤ bound) : totalNanos values ≤ values.length * bound := by
  have sum := List.sum_le_card_nsmul (values.map Duration.nanos) bound (by simpa using below)
  rw [List.length_map] at sum
  exact sum

theorem mul_le_totalNanos {values : List Duration} {bound : Nat}
    (above : ∀ value ∈ values, bound ≤ value.nanos) : values.length * bound ≤ totalNanos values := by
  have sum := List.card_nsmul_le_sum (values.map Duration.nanos) bound (by simpa using above)
  rw [List.length_map] at sum
  exact sum

/-- Each latency is below its limit. -/
theorem totalNanos_le (values : List Duration) :
    totalNanos values ≤ values.length * (durationLimit - 1) :=
  totalNanos_le_mul fun value _ => Nat.le_sub_one_of_lt value.nanos_lt

/-- A sum is computed as it is, or it is no 128-bit word. -/
theorem foldlM_addNanos (values : List Duration) (sum : Nat) (small : sum < doubleWordCount) :
    values.foldlM addNanos sum =
      if sum + totalNanos values < doubleWordCount then .ok (sum + totalNanos values)
      else .error .addOverflow := by
  induction values generalizing sum with
  | nil =>
    rw [List.foldlM_nil, show totalNanos [] = 0 from rfl, Nat.add_zero, if_pos small]
    rfl
  | cons value values ih =>
    rw [List.foldlM_cons, totalNanos_cons, ← Nat.add_assoc]
    unfold addNanos
    by_cases fits : sum + value.nanos < doubleWordCount
    · rw [if_pos fits]
      exact ih _ fits
    · -- What is added later does not make it smaller.
      have beyond : ¬ sum + value.nanos + totalNanos values < doubleWordCount := by omega
      rw [if_neg fits, if_neg beyond]
      rfl

/-- The mean of some latencies, if their sum is a 128-bit word. -/
theorem meanOf_eq {values : List Duration} (some : values ≠ []) :
    meanOf values =
      if totalNanos values < doubleWordCount then
        .ok (.wrapped (totalNanos values / values.length))
      else .error .addOverflow := by
  have count : ¬ values.length = 0 := fun none => some (List.eq_nil_of_length_eq_zero none)
  unfold meanOf
  rw [foldlM_addNanos values 0 (by decide), Nat.zero_add]
  by_cases fits : totalNanos values < doubleWordCount
  · rw [if_pos fits, if_pos fits]
    show (if values.length = 0 then Except.error Fault.divideByZero
      else .ok (Duration.wrapped (totalNanos values / values.length))) = _
    rw [if_neg count]
  · rw [if_neg fits, if_neg fits]
    rfl

theorem meanOf_eq_of_perm {values values' : List Duration} (same : values.Perm values') :
    meanOf values = meanOf values' := by
  by_cases none : values = []
  · subst none
    rw [same.nil_eq]
  · have none' : values' ≠ [] := fun none' => none (by rw [none'] at same; exact same.eq_nil)
    rw [meanOf_eq none, meanOf_eq none', totalNanos_eq_of_perm same, same.length_eq]

/-! ### The whole summary -/

/-- The summary of latencies does not depend on their order. -/
theorem summarize_eq_of_perm {values values' : List Duration} (same : values.Perm values') :
    summarize values = summarize values' := by
  have empty : values.isEmpty = values'.isEmpty := same.isEmpty_eq
  unfold summarize
  rw [empty, sortLatencies_eq_of_perm same, meanOf_eq_of_perm same]

theorem latencyAt_eq_ok {sorted : Array Duration} {i : Nat} (inside : i < sorted.size) :
    latencyAt sorted i = .ok sorted[i] := dif_pos inside

/-- A rank past the latencies is the last one of them. -/
theorem percentile_of_ge {sorted : Array Duration} (some : 0 < sorted.size)
    (small : sorted.size < 2 ^ 53) {p : Rat} (first : 1 ≤ rank p sorted.size)
    (past : sorted.size ≤ rank p sorted.size) :
    percentile sorted p = .ok sorted[sorted.size - 1] := by
  have low : ¬ rank p sorted.size < 1 := not_lt.mpr first
  have high : Binary64.ofNat sorted.size ≤ rank p sorted.size := by
    rw [Binary64.ofNat_eq small]
    exact past
  unfold percentile
  rw [if_neg low, if_pos high]
  exact latencyAt_eq_ok (Nat.sub_one_lt_of_lt some)

/-- A rank among the latencies is interpolated between two neighbours of them. -/
theorem percentile_of_lt {sorted : Array Duration} (small : sorted.size < 2 ^ 53) {p : Rat}
    (first : 1 ≤ rank p sorted.size) (below : rank p sorted.size < sorted.size) :
    ∃ inside : (rank p sorted.size).floor.toNat < sorted.size,
      percentile sorted p = .ok (.saturated (interpolate
        sorted[(rank p sorted.size).floor.toNat - 1].nanos
        sorted[(rank p sorted.size).floor.toNat].nanos (Binary64.fract (rank p sorted.size)))) := by
  -- The place and the one before it are counted from one.
  have inside : (rank p sorted.size).floor.toNat < sorted.size := by
    have some : 0 < sorted.size := by
      exact_mod_cast zero_lt_one.trans_le (first.trans below.le)
    have floor : (rank p sorted.size).floor < sorted.size := by
      exact_mod_cast lt_of_le_of_lt (Rat.floor_le _) below
    omega
  have before : (rank p sorted.size).floor.toNat - 1 < sorted.size := by omega
  have low : ¬ rank p sorted.size < 1 := not_lt.mpr first
  have high : ¬ Binary64.ofNat sorted.size ≤ rank p sorted.size := by
    rw [Binary64.ofNat_eq small]
    exact not_le.mpr below
  refine ⟨inside, ?_⟩
  unfold percentile
  rw [if_neg low, if_neg high]
  simp only [latencyAt_eq_ok inside, latencyAt_eq_ok before]
  rfl

/-- Every percentile of some latencies has a place among them. -/
theorem exists_percentile_eq_ok {sorted : Array Duration} (some : 0 < sorted.size)
    (small : sorted.size < 2 ^ 53) (p : Rat) : ∃ value, percentile sorted p = .ok value := by
  by_cases first : 1 ≤ rank p sorted.size
  · by_cases past : sorted.size ≤ rank p sorted.size
    · exact ⟨_, percentile_of_ge some small first past⟩
    · obtain ⟨_, eq⟩ := percentile_of_lt small first (not_le.mp past)
      exact ⟨_, eq⟩
  · refine ⟨sorted[0], ?_⟩
    unfold percentile
    rw [if_pos (not_le.mp first)]
    exact latencyAt_eq_ok some

/-- The summary of some latencies, from its percentiles. -/
theorem summarize_eq_ok {values sorted : List Duration} {median ninth : Duration}
    (same : sortLatencies values = sorted) (some : 0 < sorted.length)
    (fits : totalNanos values < doubleWordCount)
    (middle : percentile sorted.toArray p50 = .ok median)
    (high : percentile sorted.toArray p90 = .ok ninth) :
    summarize values = .ok { mean := .wrapped (totalNanos values / values.length)
                             max := sorted[sorted.length - 1], p50 := median, p90 := ninth } := by
  subst same
  have filled : values ≠ [] := by
    rw [length_sortLatencies] at some
    exact List.length_pos_iff.mp some
  have last : latencyAt (sortLatencies values).toArray ((sortLatencies values).toArray.size - 1) =
      .ok (sortLatencies values)[(sortLatencies values).length - 1] :=
    latencyAt_eq_ok (Nat.sub_one_lt_of_lt some)
  unfold summarize
  rw [List.isEmpty_eq_false_iff.mpr filled]
  show (do
    let mean ← meanOf values
    let max ← latencyAt (sortLatencies values).toArray ((sortLatencies values).toArray.size - 1)
    let median ← percentile (sortLatencies values).toArray p50
    let ninth ← percentile (sortLatencies values).toArray p90
    return ⟨mean, max, median, ninth⟩ : Except Fault LatencySummary) = _
  rw [meanOf_eq filled, if_pos fits, last, middle, high]
  rfl

/-- Some latencies have a summary if their sum is a 128-bit word.  Its mean comes from their average, and
    its maximum is the last of them. -/
theorem exists_summary_of_ne_nil {values : List Duration} (filled : values ≠ [])
    (small : values.length < 2 ^ 53) (fits : totalNanos values < doubleWordCount) :
    ∃ summary, summarize values = .ok summary ∧
      summary.mean = .wrapped (totalNanos values / values.length) ∧
      (sortLatencies values)[values.length - 1]? = some summary.max := by
  have size : (sortLatencies values).length = values.length := length_sortLatencies values
  have nonempty : 0 < (sortLatencies values).length := by
    rw [size]
    exact List.length_pos_of_ne_nil filled
  have count : (sortLatencies values).length < 2 ^ 53 := by
    rw [size]
    exact small
  obtain ⟨median, middle⟩ := exists_percentile_eq_ok nonempty count p50
  obtain ⟨ninth, high⟩ := exists_percentile_eq_ok nonempty count p90
  refine ⟨_, summarize_eq_ok rfl nonempty fits middle high, rfl, ?_⟩
  rw [← size]
  exact List.getElem?_eq_getElem (Nat.sub_one_lt_of_lt nonempty)

/-- Latencies have a summary if their sum is a 128-bit word. -/
theorem exists_summarize_eq_ok {values : List Duration} (small : values.length < 2 ^ 53)
    (fits : totalNanos values < doubleWordCount) : ∃ summary, summarize values = .ok summary := by
  by_cases none : values = []
  · subst none
    exact ⟨_, rfl⟩
  · obtain ⟨summary, fine, -⟩ := exists_summary_of_ne_nil none small fits
    exact ⟨summary, fine⟩

end LoadGen
