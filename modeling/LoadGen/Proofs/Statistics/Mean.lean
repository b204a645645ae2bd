import LoadGen.Proofs.Statistics.Lock

namespace LoadGen

/-!
# The mean of a summary

A summary adds up nanoseconds in 128 bits, which no reservoir of the default capacity can leave, and takes
the quotient into 64 bits.  Its mean is the average of its latencies, rounded down, where this fits.
Where it does not, the mean is what is left of it, which can lie below all latencies.

* `averageNanos`, `averageNanos_le`, `le_averageNanos` — the average lies between its latencies;
* `exists_summary_of_few`, `Aggregator.exists_summary_of_held` — the mean and the maximum of a summary;
* `Aggregator.mean_is_average_iff` — when the mean is the average;
* `Aggregator.mean_below_all` — a mean that lies below all latencies.
-/

/-- The average of some latencies, rounded down to whole nanoseconds. -/
def averageNanos (values : List Duration) : Nat := totalNanos values / values.length

section

variable {values : List Duration} {bound : Duration}

theorem averageNanos_le (below : ∀ value ∈ values, value ≤ bound) : averageNanos values ≤ bound.nanos :=
  Nat.div_le_of_le_mul (totalNanos_le_mul below)

theorem le_averageNanos (filled : values ≠ []) (above : ∀ value ∈ values, bound ≤ value) :
    bound.nanos ≤ averageNanos values := by
  unfold averageNanos
  rw [Nat.le_div_iff_mul_le (List.length_pos_of_ne_nil filled), Nat.mul_comm]
  exact mul_le_totalNanos above

/-- The last latency in ascending order is one of them, and none is longer. -/
theorem last_is_greatest (last : (sortLatencies values)[values.length - 1]? = some bound) :
    bound ∈ values ∧ ∀ value ∈ values, value ≤ bound := by
  have same := sortLatencies_perm values
  have ascending : (sortLatencies values).Pairwise (· ≤ ·) :=
    (pairwise_sortLatencies values).imp of_decide_eq_true
  refine ⟨same.subset (List.mem_of_getElem? last), fun value mem => ?_⟩
  obtain ⟨i, inside, at_i⟩ := List.getElem_of_mem (same.symm.subset mem)
  rw [length_sortLatencies] at inside
  exact le_of_places ascending (Nat.le_sub_one_of_lt inside) (List.getElem?_eq_some_iff.mpr ⟨_, at_i⟩) last

/-- No more latencies than the default capacity have a summary.  Its mean is what 64 bits hold of their
    average, and its maximum is the longest of them. -/
theorem exists_summary_of_few (filled : values ≠ []) (few : values.length ≤ defaultReservoirCapacity) :
    ∃ summary, summarize values = .ok summary ∧
      summary.mean.nanos = averageNanos values % wordCount ∧
      summary.max ∈ values ∧ ∀ value ∈ values, value ≤ summary.max := by
  have fits : totalNanos values < doubleWordCount := by
    have sum := totalNanos_le values
    unfold defaultReservoirCapacity at few
    unfold durationLimit doubleWordCount wordCount nanosPerSec at *
    omega
  obtain ⟨summary, fine, mean, last⟩ :=
    exists_summary_of_ne_nil filled (Nat.lt_of_le_of_lt few (by decide)) fits
  refine ⟨summary, fine, ?_, last_is_greatest last⟩
  rw [mean]
  rfl

end

namespace Aggregator

/-- An aggregator that holds all its samples, and no more than the default capacity, has a summary of
    them, whatever else is called. -/
theorem exists_summary_of_held {capacity : Nat} {calls : List Call} (filled : samples calls ≠ [])
    (whole : (samples calls).length ≤ max capacity 1)
    (few : (samples calls).length ≤ defaultReservoirCapacity) :
    ∃ summary, (((empty capacity).after calls).call .summarize).2 = .ok (.summary summary) ∧
      summary.mean.nanos = averageNanos ((samples calls).map Sample.latency) % wordCount ∧
      summary.max ∈ (samples calls).map Sample.latency ∧
      ∀ latency ∈ (samples calls).map Sample.latency, latency ≤ summary.max := by
  have length : ((samples calls).map Sample.latency).length = (samples calls).length :=
    List.length_map _
  obtain ⟨-, sound, books⟩ := (Books.empty capacity).handles_all rfl
    (Nat.lt_of_le_of_lt few (by decide))
    (room_of_small (Nat.le_trans (Nat.min_le_right _ _) few))
  have held : ((empty capacity).after calls).tally.reservoir.values.toList =
      (samples calls).map Sample.latency := by
    apply books.tally.holds.whole
    rw [books.tally.holds.capacity_eq]
    exact length ▸ whole
  obtain ⟨summary, fine, mean, max⟩ :=
    exists_summary_of_few (List.map_eq_nil_iff.not.mpr filled) (length ▸ few)
  refine ⟨summary, call_summarize.mpr ⟨sound, summary, ?_, rfl⟩, mean, max⟩
  unfold Tally.summarize
  rw [held, fine]

/-- **The mean is the average where 64 bits hold it.**  An aggregator that holds all its samples, and no
    more than the default capacity, has a summary of them, whatever else is called.  Its maximum is the
    longest latency.  Its mean is the floor of the average exactly if this is a 64-bit count of
    nanoseconds, and the low 64 bits of it otherwise; so it never lies above the maximum, nor below the
    shortest latency while the average fits. -/
theorem mean_is_average_iff (capacity : Nat) (calls : List Call) (filled : samples calls ≠ [])
    (whole : (samples calls).length ≤ max capacity 1)
    (few : (samples calls).length ≤ defaultReservoirCapacity) :
    let latencies := (samples calls).map Sample.latency
    ∃ summary, (((empty capacity).after calls).call .summarize).2 = .ok (.summary summary) ∧
      summary.mean.nanos = averageNanos latencies % wordCount ∧
      (summary.mean.nanos = averageNanos latencies ↔ averageNanos latencies < wordCount) ∧
      (summary.max ∈ latencies ∧ ∀ latency ∈ latencies, latency ≤ summary.max) ∧
      summary.mean ≤ summary.max ∧
      (averageNanos latencies < wordCount →
        ∀ least, (∀ latency ∈ latencies, least ≤ latency) → least ≤ summary.mean) := by
  intro latencies
  obtain ⟨summary, fine, mean, max_mem, le_max⟩ := exists_summary_of_held filled whole few
  refine ⟨summary, fine, mean, ?_, ⟨max_mem, le_max⟩, ?_, fun fits least above => ?_⟩
  · rw [mean]
    exact Nat.mod_eq_iff_lt (by decide)
  · show summary.mean.nanos ≤ summary.max.nanos
    rw [mean]
    exact Nat.le_trans (Nat.mod_le _ _) (averageNanos_le le_max)
  · show least.nanos ≤ summary.mean.nanos
    rw [mean, Nat.mod_eq_of_lt fits]
    exact le_averageNanos (List.map_eq_nil_iff.not.mpr filled) above

theorem mean_is_average_iff_mixedCalls :
    ∃ summary, (((empty 3).after mixedCalls).call .summarize).2 = .ok (.summary summary) ∧
      summary.mean.nanos = 7 ∧ summary.max ≤ .clamped 9 ∧ .clamped 5 ≤ summary.mean := by
  obtain ⟨summary, fine, -, mean, ⟨max_mem, -⟩, -, least⟩ :=
    mean_is_average_iff 3 mixedCalls (by decide) (by decide) (by decide)
  have fits : averageNanos ((samples mixedCalls).map Sample.latency) < wordCount := by decide
  have max_le : ∀ latency ∈ (samples mixedCalls).map Sample.latency, latency ≤ .clamped 9 := by decide
  exact ⟨summary, fine, mean.mpr fits, max_le _ max_mem, least fits (.clamped 5) (by decide)⟩

/-- A latency of `2 ^ 64` nanoseconds, which is some 585 years. -/
def endless : Duration := .clamped wordCount

/-- The mean of one endless latency is no time at all. -/
theorem mean_below_all :
    averageNanos [endless] = wordCount ∧
      ∃ summary, (((empty defaultReservoirCapacity).after [.append ⟨endless, .success⟩ 0]).call
          .summarize).2 = .ok (.summary summary) ∧
        summary.mean = .zero ∧ summary.mean < endless ∧ summary.max = endless := by
  refine ⟨by decide, ?_⟩
  obtain ⟨summary, fine, mean, max_mem, -⟩ :=
    @exists_summary_of_held defaultReservoirCapacity [.append ⟨endless, .success⟩ 0] (by decide)
      (by decide) (by decide)
  have zero : summary.mean = .zero := Duration.ext mean
  refine ⟨summary, fine, zero, ?_, List.mem_singleton.mp max_mem⟩
  rw [zero]
  decide

end Aggregator

end LoadGen
