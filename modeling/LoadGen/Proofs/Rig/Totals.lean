import LoadGen.Proofs.Rig.Draining
import Mathlib.Algebra.BigOperators.Group.Finset.Piecewise

namespace LoadGen

/-!
# Totals of a rig

What single workers did adds up to what the journal tells of all of them, and when everybody is over the
totals stay as they are.

* `Rig.length_filterMap_eq_sum` — a total is the sum over the workers;
* `Rig.AllOver` — every worker is over, so the tasks queue and drop nothing any more;
* `Rig.Gathered` — the collector has ended regularly after that, so the tally is that of the journal.
-/

namespace Rig

variable {j acts : List Act} {r r' start : Rig} {label : Label}

/-! ### Sums over the workers -/

section Sums

variable {all : Act → Option Sample} {own : Worker.Act → Option Sample} {n : Nat}

/-- One act adds to the total what it adds to its worker, if it adds anything. -/
theorem length_filterMap_singleton {act : Act} (same : ∀ id told, all (.worker id told) = own told)
    (other : (∃ id < n, ∃ told, act = .worker id told) ∨ all act = none) :
    ([act].filterMap all).length =
      ∑ id ∈ Finset.range n, ((ofWorker id [act]).filterMap own).length := by
  obtain ⟨id, lt, told, rfl⟩ | none := other
  · -- Of the summands only that of its worker counts.
    have one (k : Nat) : ((ofWorker k [.worker id told]).filterMap own).length =
        if id = k then (own told).toList.length else 0 := by
      by_cases here : id = k
      · simp only [ofWorker, Act.ofWorker?, if_pos here, List.filterMap_cons, List.filterMap_nil]
        cases own told <;> rfl
      · simp only [ofWorker, Act.ofWorker?, if_neg here, List.filterMap_cons, List.filterMap_nil]
        rfl
    rw [Finset.sum_congr rfl fun k _ => one k, Finset.sum_ite_eq, if_pos (Finset.mem_range.mpr lt)]
    simp only [List.filterMap_cons, same]
    cases own told <;> rfl
  · have silent (k : Nat) : (ofWorker k [act]).filterMap own = [] := by
      cases act with
      | worker id told =>
        rw [same] at none
        by_cases here : id = k <;> simp [ofWorker, Act.ofWorker?, here, none]
      | collector | offered | started | stopped | calledOff | retired => rfl
    rw [Finset.sum_congr rfl fun k _ => congrArg List.length (silent k)]
    simp [none]

/-- What is told of the first workers adds up to what is told of all, if nobody else adds to it. -/
theorem length_filterMap_eq_sum (same : ∀ id told, all (.worker id told) = own told)
    (others : ∀ act ∈ j, (∃ id < n, ∃ told, act = .worker id told) ∨ all act = none) :
    (j.filterMap all).length = ∑ id ∈ Finset.range n, ((ofWorker id j).filterMap own).length := by
  induction j with
  | nil => simp
  | cons act j ih =>
    have first := length_filterMap_singleton same (others act List.mem_cons_self)
    have rest := ih fun act mem => others act (List.mem_cons_of_mem _ mem)
    rw [← List.singleton_append, List.filterMap_append, List.length_append, first, rest,
      ← Finset.sum_add_distrib]
    refine Finset.sum_congr rfl fun id _ => ?_
    rw [ofWorker_append, List.filterMap_append, List.length_append]

end Sums

/-! ### When everybody is over -/

/-- Every worker is over. -/
def AllOver (r : Rig) : Prop := ∀ (i : Nat) (w : Worker), r.workers[i]? = some w → w.isOver = true

/-- When every worker is over, only the clock and the collector go on. -/
theorem AllOver.step (h : AllOver r) (moved : r.step label = some r') :
    r'.workers = r.workers ∧ queued (r.taskActs label) = [] ∧ lost (r.taskActs label) = [] := by
  obtain ⟨nanos, told, rfl⟩ | ⟨index, w, event, shared, w', here, next, told, rfl⟩ |
    ⟨c, event, shared, c', here, next, told, rfl⟩ := step_cases moved
  · rw [told]
    exact ⟨rfl, rfl, rfl⟩
  · have alive := (Worker.move_of_step next).alive
    rw [h index w here] at alive
    cases alive
  · rw [told]
    exact ⟨rfl, queued_collector _, lost_collector _⟩

/-- A collector that is over stays as it is. -/
theorem ending_of_step {ending : CollectorEnding}
    (ended : r.collector.bind Collector.ending? = some ending) (moved : r.step label = some r') :
    r'.collector.bind Collector.ending? = some ending := by
  obtain ⟨nanos, -, rfl⟩ | ⟨index, w, event, shared, w', -, -, -, rfl⟩ |
    ⟨c, event, shared, c', here, next, -, rfl⟩ := step_cases moved
  · exact ended
  · exact ended
  · rw [here] at ended
    exact absurd (Collector.stage_of_ending? ended) (Collector.move_of_step next).alive

/-- Every worker is over, and what the queues have taken they took before the collector was asked to
    stop. -/
structure Joined (j : List Act) (r : Rig) : Prop where
  gone : AllOver r
  queued_eq : queued (upTo .retired j) = queued j

/-- The collector has ended with a number of samples, after every worker was over. -/
structure Gathered (j : List Act) (r : Rig) (samples : Nat) : Prop extends Joined j r where
  ended : r.collector.bind Collector.ending? = some (.collected samples)

theorem Joined.append (h : Joined j r) (gone : AllOver r') (none : queued acts = [])
    (never : .retired ∉ acts) : Joined (j ++ acts) r' where
  gone := gone
  queued_eq := by
    by_cases asked : .retired ∈ j
    · rw [upTo_append asked, queued_append, none, List.append_nil, h.queued_eq]
    · have unasked : .retired ∉ j ++ acts := by
        intro mem
        exact (List.mem_append.mp mem).elim asked never
      rw [upTo_eq_self unasked]

/-- The tasks leave it at that. -/
theorem Joined.step (h : Joined j r) (moved : r.step label = some r') :
    Joined (j ++ r.taskActs label) r' := by
  obtain ⟨same, none, -⟩ := h.gone.step moved
  exact h.append (fun i w here => h.gone i w (same ▸ here)) none (not_mem_taskActs rfl)

theorem Gathered.step {samples : Nat} (h : Gathered j r samples) (moved : r.step label = some r') :
    Gathered (j ++ r.taskActs label) r' samples :=
  ⟨h.toJoined.step moved, ending_of_step h.ended moved⟩

/-- Nothing has happened on a rig. -/
structure Blank (r : Rig) : Prop where
  collector : r.collector = none
  queues : ∀ v, (r.shared.queue v).toList = []
  counted : ∀ v, r.shared.aggregator.tally.counted v = 0
  dropped : r.shared.aggregator.dropped = 0
  audits : r.shared.audits = []

/-- **The tally is that of the journal.**  When the collector has ended after every worker was over, it
    has added what the queues have taken, and nothing else. -/
theorem Gathered.counted_eq {samples : Nat} (h : Gathered j r samples) (blank : Blank start)
    (reached : Reached start j r) :
    samples = (queued j).length ∧
      ∀ v, r.shared.aggregator.tally.counted v = (latenciesOf v (queued j)).length := by
  obtain ⟨c, here, ended⟩ := Option.bind_eq_some_iff.mp h.ended
  obtain ⟨-, caught, collected, counted⟩ := reached.leaves_nothing blank.collector here ended
  have added_eq (v : Verdict) : latenciesOf v (added j) = latenciesOf v (queued j) := by
    obtain ⟨low, high⟩ := caught v
    rw [owed, h.queued_eq, blank.queues v, List.nil_append] at low
    rw [blank.queues v, List.nil_append] at high
    -- All that was queued is owed, and no more than that can be added.
    exact high.eq_of_length (Nat.le_antisymm high.length_le low.length_le)
  refine ⟨?_, fun v => ?_⟩
  · rw [collected, ← length_latenciesOf (added j), added_eq, added_eq, length_latenciesOf]
  · rw [counted, blank.counted, added_eq, Nat.zero_add]

end Rig

end LoadGen
