import LoadGen.Proofs.Statistics.Reservoir
import LoadGen.Proofs.Statistics.Summary
import LoadGen.Tally

namespace LoadGen

/-!
# What a tally keeps of its samples

A tally counts its samples by verdict and holds the latencies of both verdicts in one reservoir, so its
two counts add up to what the reservoir has seen.

* `Tally.IsOf` — a tally of some samples;
* `Tally.IsOf.append`, `Tally.IsOf.exists_append_eq_ok` — one more sample;
* `Tally.IsOf.exists_summarize_eq_ok` — a tally of a small capacity has a summary;
* `Tally.IsOf.counted_eq_of_perm`, `Tally.IsOf.summarize_eq_of_perm` — the order of the samples.
-/

namespace Tally

/-- What a tally of a requested capacity keeps of its samples, whatever was drawn for them. -/
structure IsOf (capacity : Nat) (samples : List Sample) (t : Tally) : Prop where
  counted_eq : ∀ v, t.counted v = (latenciesOf v samples).length
  holds : t.reservoir.Holds capacity (samples.map Sample.latency)

theorem isOf_empty (capacity : Nat) : IsOf capacity [] (empty capacity) where
  counted_eq v := by cases v <;> rfl
  holds := Reservoir.holds_empty capacity

variable {capacity : Nat} {samples : List Sample} {sample : Sample} {slot : Nat} {t t' : Tally}

/-- What an append does that does not break off. -/
theorem append_eq_ok (fine : t.append sample slot = .ok t') :
    t.reservoir.seen + 1 < wordCount ∧ t'.reservoir = t.reservoir.offer sample.latency slot ∧
      t'.elapsed = t.elapsed := by
  unfold append at fine
  rw [Reservoir.update_eq] at fine
  by_cases few : t.reservoir.seen + 1 < wordCount
  · rw [if_pos few] at fine
    replace fine : count { t with reservoir := t.reservoir.offer sample.latency slot } sample.verdict =
      .ok t' := fine
    refine ⟨few, ?_⟩
    unfold count at fine
    split at fine
    · cases sum : addWord t.success 1 <;> simp [sum, bind, Except.bind, pure, Except.pure] at fine
      rw [← fine]
      exact ⟨rfl, rfl⟩
    · cases sum : addWord t.error 1 <;> simp [sum, bind, Except.bind, pure, Except.pure] at fine
      rw [← fine]
      exact ⟨rfl, rfl⟩
  · rw [if_neg few] at fine
    cases fine

/-- A sample is counted if the counts stay words. -/
theorem exists_count_eq_ok {verdict : Verdict} (few : t.counted verdict + 1 < wordCount) :
    ∃ t', t.count verdict = .ok t' := by
  unfold count
  cases verdict with
  | success =>
    have sum : addWord t.success 1 = .ok (t.success + 1) := addWord_eq_ok_iff.mpr ⟨few, rfl⟩
    rw [sum]
    exact ⟨_, rfl⟩
  | error =>
    have sum : addWord t.error 1 = .ok (t.error + 1) := addWord_eq_ok_iff.mpr ⟨few, rfl⟩
    rw [sum]
    exact ⟨_, rfl⟩

/-- What a full reservoir adds up to is no less than what it adds up to before it is full. -/
theorem room_of_held {capacity held : Nat} (room : max capacity 1 * durationLimit ≤ doubleWordCount) :
    min (max capacity 1) held * durationLimit ≤ doubleWordCount :=
  Nat.le_trans (Nat.mul_le_mul_right _ (Nat.min_le_left _ _)) room

namespace IsOf

/-- The counts of both verdicts make up all samples, and all values that the reservoir has seen. -/
theorem counts_eq (h : IsOf capacity samples t) : t.success + t.error = samples.length := by
  have success : t.success = _ := h.counted_eq .success
  have error : t.error = _ := h.counted_eq .error
  rw [success, error]
  exact length_latenciesOf samples

theorem seen_eq (h : IsOf capacity samples t) : t.reservoir.seen = samples.length := by
  rw [h.holds.seen_eq, List.length_map]

theorem counted_le (h : IsOf capacity samples t) (v : Verdict) : t.counted v ≤ samples.length := by
  have sum := h.counts_eq
  cases v with
  | success => exact sum ▸ Nat.le_add_right t.success t.error
  | error => exact sum ▸ Nat.le_add_left t.error t.success

/-- One more sample. -/
theorem append (h : IsOf capacity samples t) (fine : t.append sample slot = .ok t') :
    IsOf capacity (samples ++ [sample]) t' where
  counted_eq v := by
    rw [counted_of_append fine v, h.counted_eq v, latenciesOf_append, List.length_append,
      latenciesOf_singleton]
    split <;> rfl
  holds := by
    obtain ⟨-, same, -⟩ := append_eq_ok fine
    rw [same, List.map_append]
    exact h.holds.offer sample.latency slot

/-- Appending breaks off only when the count of samples is no word any more. -/
theorem exists_append_eq_ok (h : IsOf capacity samples t) (few : samples.length + 1 < wordCount)
    (sample : Sample) (slot : Nat) : ∃ t', t.append sample slot = .ok t' := by
  have counted : t.counted sample.verdict + 1 < wordCount := by
    have le := h.counted_le sample.verdict
    omega
  unfold Tally.append
  rw [Reservoir.update_eq, h.seen_eq, if_pos few]
  show ∃ t', count { t with reservoir := t.reservoir.offer sample.latency slot } sample.verdict = .ok t'
  apply exists_count_eq_ok
  cases verdict : sample.verdict with
  | success | error =>
    rw [verdict] at counted
    exact counted

theorem finish (h : IsOf capacity samples t) (elapsed : Duration) :
    IsOf capacity samples (t.finish elapsed).1 := by
  unfold Tally.finish
  split
  · exact ⟨fun v => by rw [← h.counted_eq v]; cases v <;> rfl, h.holds⟩
  · exact h

/-- A reservoir holds no more latencies than it has room for, and no more than it was offered. -/
theorem length_values (h : IsOf capacity samples t) :
    t.reservoir.values.toList.length = min (max capacity 1) samples.length := by
  rw [Array.length_toList, h.holds.size_eq, h.holds.capacity_eq, List.length_map]

/-- The latencies that are held add up to a 128-bit word if that many of the longest do. -/
theorem totalNanos_lt (h : IsOf capacity samples t)
    (room : min (max capacity 1) samples.length * durationLimit ≤ doubleWordCount) :
    totalNanos t.reservoir.values.toList < doubleWordCount := by
  have sum := totalNanos_le t.reservoir.values.toList
  rw [h.length_values] at sum
  unfold durationLimit doubleWordCount wordCount nanosPerSec at *
  omega

theorem length_values_lt (h : IsOf capacity samples t)
    (room : min (max capacity 1) samples.length * durationLimit ≤ doubleWordCount) :
    t.reservoir.values.toList.length < 2 ^ 53 := by
  rw [h.length_values]
  unfold durationLimit doubleWordCount wordCount nanosPerSec at room
  omega

/-- A tally has a summary if as many of the longest latencies as it holds add up to a 128-bit word. -/
theorem exists_summarize_of_held (h : IsOf capacity samples t)
    (room : min (max capacity 1) samples.length * durationLimit ≤ doubleWordCount) :
    ∃ summary, t.summarize = .ok summary :=
  LoadGen.exists_summarize_eq_ok (h.length_values_lt room) (h.totalNanos_lt room)

/-- The latencies in a reservoir of such a capacity add up to a 128-bit word. -/
theorem exists_summarize_eq_ok (h : IsOf capacity samples t)
    (room : max capacity 1 * durationLimit ≤ doubleWordCount) :
    ∃ summary, t.summarize = .ok summary :=
  h.exists_summarize_of_held (room_of_held room)

/-! ### The order of the samples -/

variable {samples' : List Sample}

/-- Counts do not depend on the order of the samples. -/
theorem counted_eq_of_perm (h : IsOf capacity samples t) (h' : IsOf capacity samples' t')
    (same : samples.Perm samples') (v : Verdict) : t.counted v = t'.counted v := by
  rw [h.counted_eq, h'.counted_eq]
  unfold latenciesOf
  exact ((same.filter _).map _).length_eq

/-- While there is room for all, the summary does not depend on the order of the samples, nor on what
    was drawn for them. -/
theorem summarize_eq_of_perm (h : IsOf capacity samples t) (h' : IsOf capacity samples' t')
    (same : samples.Perm samples') (room : samples.length ≤ max capacity 1) :
    t.summarize = t'.summarize := by
  have values : t.reservoir.values.toList = samples.map Sample.latency := by
    apply h.holds.whole
    rw [h.holds.capacity_eq, List.length_map]
    exact room
  have values' : t'.reservoir.values.toList = samples'.map Sample.latency := by
    apply h'.holds.whole
    rw [h'.holds.capacity_eq, List.length_map, ← same.length_eq]
    exact room
  unfold Tally.summarize
  rw [values, values']
  exact LoadGen.summarize_eq_of_perm (same.map Sample.latency)

end IsOf

end Tally

end LoadGen
