import LoadGen.RunError
import LoadGen.Tally

namespace LoadGen

/-!
# Aggregators

The tally that all tasks of a run share, behind a lock, and beside it the count of samples that were
lost on the way.  A step that breaks off under the lock spoils it, and every later step is refused.

* `Aggregator.under` — a step under the lock;
* `Aggregator.append`, `Aggregator.finish`, `Aggregator.counts`, `Aggregator.elapsed`,
  `Aggregator.summarize` — the steps of the tally;
* `Aggregator.recordDropped` — one lost sample, which needs no lock.
-/

/-- A tally behind a lock, and the count of lost samples. -/
structure Aggregator where
  tally : Tally
  spoiled : Bool := false
  dropped : Nat := 0

namespace Aggregator

variable {α : Type}

/-- An aggregator without samples. -/
def empty (capacity : Nat) : Aggregator := { tally := .empty capacity }

/-- Runs a step under the lock. -/
def under (a : Aggregator) (step : Tally → Except Fault (Tally × α)) :
    Aggregator × Except (Failure RunError) α :=
  if a.spoiled then (a, refuse .poisoned)
  else match step a.tally with
    | .ok (tally, answer) => ({ a with tally }, .ok answer)
    | .error fault => ({ a with spoiled := true }, .error (.broken fault))

/-- Adds a sample.  `slot` is the draw for the reservoir. -/
def append (a : Aggregator) (sample : Sample) (slot : Nat) :
    Aggregator × Except (Failure RunError) Unit :=
  a.under fun t => do return (← t.append sample slot, ())

/-- Stamps the time of the run; the answer is what there is to tell about it. -/
def finish (a : Aggregator) (elapsed : Duration) :
    Aggregator × Except (Failure RunError) (Option Notice) :=
  a.under fun t => .ok (t.finish elapsed)

/-- Successes and errors so far. -/
def counts (a : Aggregator) : Aggregator × Except (Failure RunError) (Nat × Nat) :=
  a.under fun t => .ok (t, t.success, t.error)

/-- The stamped time of the run. -/
def elapsed (a : Aggregator) : Aggregator × Except (Failure RunError) (Option Duration) :=
  a.under fun t => .ok (t, t.elapsed)

/-- The latency statistics so far. -/
def summarize (a : Aggregator) : Aggregator × Except (Failure RunError) LatencySummary :=
  a.under fun t => do return (t, ← t.summarize)

/-- Counts a sample that was lost. -/
def recordDropped (a : Aggregator) : Aggregator := { a with dropped := a.dropped + 1 }

/-! ### Steps under the lock -/

theorem under_eq_ok {a a' : Aggregator} {step : Tally → Except Fault (Tally × α)} {answer : α}
    (h : a.under step = (a', .ok answer)) :
    ∃ tally, step a.tally = .ok (tally, answer) ∧ a' = { a with tally } := by
  unfold under at h
  split at h
  · cases h
  · split at h
    · cases h
      exact ⟨_, ‹_›, rfl⟩
    · cases h

theorem under_eq_error {a a' : Aggregator} {step : Tally → Except Fault (Tally × α)}
    {failure : Failure RunError} (h : a.under step = (a', .error failure)) :
    a'.tally = a.tally ∧ a'.dropped = a.dropped ∧
      (failure = .refused .poisoned ∨ ∃ fault, failure = .broken fault) := by
  unfold under at h
  split at h
  · cases h
    exact ⟨rfl, rfl, .inl rfl⟩
  · split at h
    · cases h
    · cases h
      exact ⟨rfl, rfl, .inr ⟨_, rfl⟩⟩

theorem append_eq_ok {a a' : Aggregator} {sample : Sample} {slot : Nat}
    (h : a.append sample slot = (a', .ok ())) :
    ∃ tally, a.tally.append sample slot = .ok tally ∧ a' = { a with tally } := by
  obtain ⟨tally, fine, rfl⟩ := under_eq_ok h
  cases append : a.tally.append sample slot with
  | error fault => simp [append, bind, Except.bind] at fine
  | ok t =>
    simp [append, bind, Except.bind, pure, Except.pure] at fine
    exact ⟨t, rfl, by rw [fine]⟩

theorem dropped_under (a : Aggregator) (step : Tally → Except Fault (Tally × α)) :
    (a.under step).1.dropped = a.dropped := by
  unfold under
  split
  · rfl
  · split <;> rfl

theorem dropped_counts (a : Aggregator) : a.counts.1.dropped = a.dropped := dropped_under a _

theorem dropped_finish (a : Aggregator) (elapsed : Duration) :
    (a.finish elapsed).1.dropped = a.dropped := dropped_under a _

theorem dropped_summarize (a : Aggregator) : a.summarize.1.dropped = a.dropped := dropped_under a _

/-- A step that keeps the counts of the tally keeps them under the lock. -/
theorem counted_under (a : Aggregator) {step : Tally → Except Fault (Tally × α)} {v : Verdict}
    (h : ∀ t t' answer, step t = .ok (t', answer) → t'.counted v = t.counted v) :
    (a.under step).1.tally.counted v = a.tally.counted v := by
  unfold under
  split
  · rfl
  · split
    · exact h _ _ _ ‹_›
    · rfl

theorem counted_counts (a : Aggregator) (v : Verdict) :
    a.counts.1.tally.counted v = a.tally.counted v := by
  refine counted_under a fun t t' answer h => ?_
  cases h
  rfl

theorem counted_finish (a : Aggregator) (elapsed : Duration) (v : Verdict) :
    (a.finish elapsed).1.tally.counted v = a.tally.counted v := by
  refine counted_under a fun t t' answer h => ?_
  simp only [Except.ok.injEq] at h
  have kept : (t.finish elapsed).1.counted v = t.counted v := by
    unfold Tally.finish
    split <;> cases v <;> rfl
  rw [h] at kept
  exact kept

theorem counted_summarize (a : Aggregator) (v : Verdict) :
    a.summarize.1.tally.counted v = a.tally.counted v := by
  refine counted_under a fun t t' answer h => ?_
  cases summary : t.summarize with
  | error fault => simp [summary, bind, Except.bind] at h
  | ok latency =>
    simp only [summary, bind, Except.bind, pure, Except.pure, Except.ok.injEq] at h
    cases h
    rfl

/-! ### Reading changes nothing -/

theorem counts_of_not_spoiled {a : Aggregator} (h : a.spoiled = false) :
    a.counts = (a, .ok (a.tally.success, a.tally.error)) := by
  cases a
  simp_all [counts, under]

theorem elapsed_of_not_spoiled {a : Aggregator} (h : a.spoiled = false) :
    a.elapsed = (a, .ok a.tally.elapsed) := by
  cases a
  simp_all [elapsed, under]

end Aggregator

end LoadGen
