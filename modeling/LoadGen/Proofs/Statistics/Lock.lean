import LoadGen.Proofs.Statistics.Bookkeeping
import LoadGen.Proofs.Statistics.Percentile

namespace LoadGen

/-!
# The lock of an aggregator is never spoiled

Steps under the lock count, draw, replace, add up, divide and look up places, and each of these can break
off.  What keeps them from it is what a tally is of its samples: its counts are counts of samples, a full
reservoir has every slot below its capacity, and a reservoir of the default capacity holds too little to
leave 128 bits.

* `Tally.Admits`, `Tally.IsOf.admits` — all that adding a sample relies on;
* `Tally.Summable`, `Tally.IsOf.summable` — all that a summary relies on;
* `Aggregator.Books.handles`, `Aggregator.Books.handles_all` — calls are answered, one or many;
* `Aggregator.lock_is_never_spoiled` — no call is refused or breaks off, and no step of one could.
-/

/-! ### Adding a sample -/

namespace Tally

/-- All that adding a sample relies on: the counts that it raises stay words, there is something to draw
    a slot from, and a slot that is replaced is there. -/
structure Admits (t : Tally) (sample : Sample) (slot : Nat) : Prop where
  seen : ∃ count, addWord t.reservoir.seen 1 = .ok count
  counted : ∃ count, addWord (t.counted sample.verdict) 1 = .ok count
  drawn : ∀ g : Generator, ∃ drawn after, t.draw g = .ok (drawn, after) ∧ drawn ≤ t.reservoir.seen
  there : t.reservoir.isFull = true → slot < t.reservoir.capacity → slot < t.reservoir.values.size

/-- All that a summary relies on: the latencies add up to a 128-bit word at every step, there is a mean of
    them if there are any, a rank that lies among them has a place there and one before it, and nothing
    else breaks off. -/
structure Summable (t : Tally) : Prop where
  sum : t.reservoir.values.toList.foldlM addNanos 0 = .ok (totalNanos t.reservoir.values.toList)
  mean : t.reservoir.values ≠ #[] → ∃ mean, meanOf t.reservoir.values.toList = .ok mean
  places : ∀ p, 1 ≤ rank p t.reservoir.values.size →
    rank p t.reservoir.values.size < Binary64.ofNat t.reservoir.values.size →
      1 ≤ (rank p t.reservoir.values.size).floor.toNat ∧
        (rank p t.reservoir.values.size).floor.toNat < t.reservoir.values.size
  summary : ∃ summary, t.summarize = .ok summary

variable {capacity : Nat} {samples : List Sample} {t : Tally}

/-- A draw is one of the values seen, or the new one. -/
theorem exists_draw_le (t : Tally) (g : Generator) :
    ∃ drawn after, t.draw g = .ok (drawn, after) ∧ drawn ≤ t.reservoir.seen := by
  unfold draw DrawingReservoir.draw
  cases full : t.reservoir.isFull with
  | true =>
    obtain ⟨slot, after, drawn, below⟩ := g.exists_below (Nat.succ_pos t.reservoir.seen)
    exact ⟨slot, after, drawn, Nat.le_of_lt_succ below⟩
  | false => exact ⟨0, g, rfl, Nat.zero_le _⟩

namespace IsOf

theorem admits (h : IsOf capacity samples t) (few : samples.length + 1 < wordCount) (sample : Sample)
    (slot : Nat) : t.Admits sample slot where
  seen := by
    rw [h.seen_eq]
    exact ⟨_, addWord_eq_ok_iff.mpr ⟨few, rfl⟩⟩
  counted := by
    have le := h.counted_le sample.verdict
    exact ⟨_, addWord_eq_ok_iff.mpr ⟨by omega, rfl⟩⟩
  drawn := t.exists_draw_le
  there full below := Nat.lt_of_lt_of_le below (of_decide_eq_true full)

theorem summable (h : IsOf capacity samples t)
    (room : min (max capacity 1) samples.length * durationLimit ≤ doubleWordCount) : t.Summable := by
  have fits := h.totalNanos_lt room
  have small := h.length_values_lt room
  refine ⟨?_, fun filled => ?_, fun p first below => ?_, h.exists_summarize_of_held room⟩
  · rw [foldlM_addNanos _ 0 (by decide), Nat.zero_add, if_pos fits]
  · rw [meanOf_eq (Array.toList_eq_nil_iff.not.mpr filled), if_pos fits]
    exact ⟨_, rfl⟩
  · rw [Array.length_toList] at small
    rw [Binary64.ofNat_eq small] at below
    constructor
    · exact (Nat.le_floor_iff (Binary64.nearest_nonneg _)).mpr (by exact_mod_cast first)
    · exact (Nat.floor_lt (Binary64.nearest_nonneg _)).mpr below

end IsOf

end Tally

/-! ### Answering calls -/

namespace Aggregator

variable {capacity : Nat} {done calls : List Call} {a : Aggregator}

/-- A call is answered if the samples can be counted and the latencies that are held can be added up. -/
theorem Books.handles (h : Books capacity done a) (sound : a.spoiled = false) (call : Call)
    (few : (samples (done ++ [call])).length < wordCount)
    (room : min (max capacity 1) (samples done).length * durationLimit ≤ doubleWordCount) :
    ∃ answer, (a.call call).2 = .ok answer ∧ (a.call call).1.spoiled = false ∧
      Books capacity (done ++ [call]) (a.call call).1 := by
  rcases h.answers sound call few with ⟨fine, sound'⟩ | ⟨rfl, fault, breaks⟩
  · have books := h.move (move_of_call a call)
    rw [if_pos fine] at books
    cases result : (a.call call).2 with
    | ok answer => exact ⟨answer, rfl, sound', books⟩
    | error failure =>
      rw [result] at fine
      cases fine
  · exact absurd breaks (h.summary_answers room fault)

/-- So are many. -/
theorem Books.handles_all (h : Books capacity done a) (sound : a.spoiled = false)
    (few : (samples (done ++ calls)).length < wordCount)
    (room : min (max capacity 1) (samples (done ++ calls)).length * durationLimit ≤ doubleWordCount) :
    a.answered calls = calls ∧ (a.after calls).spoiled = false ∧
      Books capacity (done ++ calls) (a.after calls) := by
  induction calls generalizing done a with
  | nil =>
    rw [List.append_nil]
    exact ⟨rfl, sound, h⟩
  | cons call calls ih =>
    rw [List.append_cons] at few room ⊢
    -- Fewer samples are counted, and no more latencies held, before the other calls.
    have fewer : (samples (done ++ [call])).length ≤ (samples (done ++ [call] ++ calls)).length := by
      rw [samples_append (done ++ [call]), List.length_append]
      omega
    have less : (samples done).length ≤ (samples (done ++ [call])).length := by
      rw [samples_append, List.length_append]
      omega
    obtain ⟨answer, fine, sound', books⟩ := h.handles sound call (Nat.lt_of_le_of_lt fewer few)
      (Nat.le_trans (Nat.mul_le_mul_right _ (by omega)) room)
    obtain ⟨all, rest⟩ := ih books sound' few room
    refine ⟨?_, rest⟩
    rw [answered_cons, all, fine]
    rfl

/-- As many of the longest latencies as the default capacity add up to a 128-bit word. -/
theorem room_of_small {held : Nat} (small : held ≤ defaultReservoirCapacity) :
    held * durationLimit ≤ doubleWordCount :=
  Nat.le_trans (Nat.mul_le_mul_right _ small) (by decide)

/-- **The lock of an aggregator is never spoiled.**  Whatever is called of an aggregator of at most the
    default capacity, with whatever is drawn, every call is answered as long as the samples can be counted:
    none is refused, and none breaks off under the lock.  Whenever a sample is added, its counts stay
    words, there is something to draw from, and a slot that is replaced is there.  Whenever a summary
    could be asked for, its sum is a 128-bit word, its mean divides by no zero, and both its percentiles
    lie inside the latencies. -/
theorem lock_is_never_spoiled (capacity : Nat) (calls : List Call)
    (small : capacity ≤ defaultReservoirCapacity) (few : (samples calls).length < wordCount) :
    (empty capacity).answered calls = calls ∧ ((empty capacity).after calls).spoiled = false ∧
    ∀ before call rest, calls = before ++ call :: rest →
      ((empty capacity).after before).spoiled = false ∧
      (∃ answer, (((empty capacity).after before).call call).2 = .ok answer) ∧
      (∀ sample slot, call = .append sample slot →
        ((empty capacity).after before).tally.Admits sample slot) ∧
      ((empty capacity).after before).tally.Summable := by
  have room (held : Nat) : min (max capacity 1) held * durationLimit ≤ doubleWordCount := by
    apply room_of_small
    unfold defaultReservoirCapacity at *
    omega
  have start := Books.empty capacity
  obtain ⟨all, sound, -⟩ := start.handles_all rfl few (room _)
  refine ⟨all, sound, ?_⟩
  rintro before call rest rfl
  -- The calls up to this one add no more samples than all of them.
  have upTo : (samples (before ++ [call])).length < wordCount := by
    rw [List.append_cons, samples_append (before ++ [call]), List.length_append] at few
    omega
  have earlier : (samples before).length < wordCount := by
    rw [samples_append, List.length_append] at upTo
    omega
  obtain ⟨-, sound, books⟩ := start.handles_all rfl earlier (room _)
  obtain ⟨answer, fine, -, -⟩ := books.handles sound call upTo (room _)
  refine ⟨sound, ⟨answer, fine⟩, ?_, books.tally.summable (room _)⟩
  rintro sample slot rfl
  rw [samples_append, List.length_append] at upTo
  exact books.tally.admits upTo sample slot

/-- The third sample replaces a latency, and the summary is of what is left. -/
theorem lock_is_never_spoiled_mixedCalls :
    (empty 2).answered (mixedCalls ++ [.summarize]) = mixedCalls ++ [.summarize] ∧
      ((empty 2).after (mixedCalls.take 5)).tally.Admits ⟨.clamped 7, .success⟩ 1 ∧
      ((empty 2).after (mixedCalls.take 5)).tally.reservoir.isFull = true ∧
      ((empty 2).after mixedCalls).tally.Summable ∧
      ∃ answer, (((empty 2).after mixedCalls).call .summarize).2 = .ok answer := by
  obtain ⟨all, -, each⟩ :=
    lock_is_never_spoiled 2 (mixedCalls ++ [.summarize]) (by decide) (by decide)
  obtain ⟨-, -, admits, -⟩ :=
    each (mixedCalls.take 5) (.append ⟨.clamped 7, .success⟩ 1)
      [.elapsed, .finish (.clamped 200), .summarize] rfl
  obtain ⟨-, answers, -, summable⟩ := each mixedCalls .summarize [] rfl
  exact ⟨all, admits _ _ rfl, by decide, summable, answers⟩

end Aggregator

end LoadGen
