import LoadGen.Notice
import LoadGen.Reservoir
import LoadGen.Sample
import LoadGen.Summary

namespace LoadGen

/-!
# Tallies

The statistics of the samples of a run: how many operations succeeded and failed, a reservoir of their
latencies, and the time the run took.

* `Tally.append` — one sample, with the draw of its slot in the reservoir;
* `Tally.finish` — the time of the run, of which the first stamp counts;
* `Tally.summarize` — the latency statistics so far.
-/

/-- Counts and latencies of the samples so far. -/
structure Tally where
  success : Nat := 0
  error : Nat := 0
  elapsed : Option Duration := none
  reservoir : Reservoir

namespace Tally

/-- A tally without samples. -/
def empty (capacity : Nat) : Tally := { reservoir := .empty capacity }

/-- The samples of a verdict so far. -/
def counted (t : Tally) : Verdict → Nat
  | .success => t.success
  | .error => t.error

/-- Counts a verdict. -/
def count (t : Tally) : Verdict → Except Fault Tally
  | .success => do return { t with success := ← addWord t.success 1 }
  | .error => do return { t with error := ← addWord t.error 1 }

/-- Adds a sample.  `slot` is the draw for the reservoir. -/
def append (t : Tally) (sample : Sample) (slot : Nat) : Except Fault Tally := do
  let reservoir ← t.reservoir.update sample.latency slot
  count { t with reservoir } sample.verdict

/-- Stamps the time the run took.  Only the first stamp counts; a later one is told about. -/
def finish (t : Tally) (elapsed : Duration) : Tally × Option Notice :=
  match t.elapsed with
  | none => ({ t with elapsed := some elapsed }, none)
  | some _ => (t, some (.elapsedAlreadyStamped elapsed))

/-- The statistics of the latencies in the reservoir. -/
def summarize (t : Tally) : Except Fault LatencySummary :=
  LoadGen.summarize t.reservoir.values.toList

/-- The draw for the next sample, from a generator. -/
def draw (t : Tally) (generator : Generator) : Except Fault (Nat × Generator) :=
  DrawingReservoir.draw ⟨t.reservoir, generator⟩

/-! ### A sample counts for its verdict -/

theorem counted_of_count {t t' : Tally} {verdict : Verdict} (h : t.count verdict = .ok t')
    (v : Verdict) : t'.counted v = t.counted v + if verdict = v then 1 else 0 := by
  cases verdict with
  | success =>
    cases sum : addWord t.success 1 <;> simp [count, sum, bind, Except.bind, pure, Except.pure] at h
    subst h
    cases v <;> simp [counted, (addWord_eq_ok_iff.mp sum).2]
  | error =>
    cases sum : addWord t.error 1 <;> simp [count, sum, bind, Except.bind, pure, Except.pure] at h
    subst h
    cases v <;> simp [counted, (addWord_eq_ok_iff.mp sum).2]

theorem counted_of_append {t t' : Tally} {sample : Sample} {slot : Nat}
    (h : t.append sample slot = .ok t') (v : Verdict) :
    t'.counted v = t.counted v + if sample.verdict = v then 1 else 0 := by
  cases update : t.reservoir.update sample.latency slot with
  | error fault => simp [append, update, bind, Except.bind] at h
  | ok reservoir =>
    simp only [append, update, bind, Except.bind] at h
    rw [counted_of_count h v]
    cases v <;> rfl

end Tally

end LoadGen
