import LoadGen.Proofs.Rig.Books
import LoadGen.Proofs.Statistics.Bookkeeping

namespace LoadGen

/-!
# The order of arrival

The statistics of some samples do not depend on the order in which they are added: the counts never do,
and the summary does not while the reservoir has room for all of them.

* `Aggregator.appends` — samples that arrive, each with its draw;
* `Aggregator.arrive` — what they leave;
* `Rig.Reached.isOf` — the tally of a rig is one of the samples that its collector has added, in whatever
  order it has moved the two queues;
* `Aggregator.order_of_arrival` — two orders of the same samples.
-/

namespace Aggregator

/-- The calls that add samples as they arrive, each with its draw. -/
def appends (arrivals : List (Sample × Nat)) : List Call :=
  arrivals.map fun arrival => .append arrival.1 arrival.2

section

variable {capacity : Nat} {a b : Aggregator} {samples : List Sample}

/-- A spoiled lock stays spoiled. -/
theorem spoiled_of_call (off : a.spoiled = true) (call : Call) : (a.call call).1.spoiled = true := by
  have move := move_of_call a call
  generalize (a.call call).1 = a', (a.call call).2 = answer at move ⊢
  cases move with
  | refused | lost | told => exact off
  | broken => rfl
  | appended sound | finished _ sound | counted sound | timed sound | summarized sound =>
    rw [sound] at off
    cases off

theorem spoiled_after (off : a.spoiled = true) (calls : List Call) : (a.after calls).spoiled = true := by
  induction calls generalizing a with
  | nil => exact off
  | cons call calls ih => exact ih (spoiled_of_call off call)

/-- One sample is added if the count of samples stays a word. -/
theorem add_of_few (h : a.tally.IsOf capacity samples) (sound : a.spoiled = false)
    (few : samples.length + 1 < wordCount) (sample : Sample) (slot : Nat) :
    (a.call (.append sample slot)).1.spoiled = false ∧
      (a.call (.append sample slot)).1.tally.IsOf capacity (samples ++ [sample]) := by
  obtain ⟨tally, fine⟩ := h.exists_append_eq_ok few sample slot
  have move := move_of_call a (.append sample slot)
  generalize (a.call (.append sample slot)).1 = a', (a.call (.append sample slot)).2 = answer at move ⊢
  cases move with
  | refused off =>
    rw [sound] at off
    cases off
  | broken _ why =>
    rcases why with ⟨_, _, ⟨⟩, breaks⟩ | ⟨⟨⟩, -⟩
    rw [fine] at breaks
    cases breaks
  | appended _ added => exact ⟨sound, h.append added⟩

/-- A sample too many spoils the lock. -/
theorem add_of_many (h : a.tally.IsOf capacity samples) (many : wordCount ≤ samples.length + 1)
    (sample : Sample) (slot : Nat) : (a.call (.append sample slot)).1.spoiled = true := by
  have move := move_of_call a (.append sample slot)
  generalize (a.call (.append sample slot)).1 = a', (a.call (.append sample slot)).2 = answer at move ⊢
  cases move with
  | refused off => exact off
  | broken => rfl
  | appended _ added =>
    have few := (Tally.append_eq_ok added).1
    rw [h.seen_eq] at few
    omega

/-- Samples that arrive are added if their count is a word. -/
theorem arrive_of_few (h : a.tally.IsOf capacity samples) (sound : a.spoiled = false)
    (arrivals : List (Sample × Nat)) (few : samples.length + arrivals.length < wordCount) :
    (a.after (appends arrivals)).spoiled = false ∧
      (a.after (appends arrivals)).tally.IsOf capacity (samples ++ arrivals.map Prod.fst) := by
  induction arrivals generalizing a samples with
  | nil =>
    rw [List.map_nil, List.append_nil]
    exact ⟨sound, h⟩
  | cons arrival arrivals ih =>
    rw [List.length_cons] at few
    obtain ⟨sound', h'⟩ := add_of_few h sound (by omega) arrival.1 arrival.2
    have few' : (samples ++ [arrival.1]).length + arrivals.length < wordCount := by
      rw [List.length_append, List.length_singleton]
      omega
    rw [List.map_cons, List.append_cons]
    exact ih h' sound' few'

theorem arrive_of_many (h : a.tally.IsOf capacity samples) (sound : a.spoiled = false)
    (arrivals : List (Sample × Nat)) (start : samples.length < wordCount)
    (many : wordCount ≤ samples.length + arrivals.length) :
    (a.after (appends arrivals)).spoiled = true := by
  induction arrivals generalizing a samples with
  | nil =>
    rw [List.length_nil] at many
    omega
  | cons arrival arrivals ih =>
    rw [List.length_cons] at many
    by_cases few : samples.length + 1 < wordCount
    · obtain ⟨sound', h'⟩ := add_of_few h sound few arrival.1 arrival.2
      have length : (samples ++ [arrival.1]).length = samples.length + 1 := by
        rw [List.length_append, List.length_singleton]
      exact ih h' sound' (by omega) (by omega)
    · exact spoiled_after (add_of_many h (Nat.le_of_not_lt few) arrival.1 arrival.2) (appends arrivals)

/-- Nothing is heard from under a spoiled lock. -/
theorem call_of_spoiled (off : a.spoiled = true) {call : Call}
    (locked : call = .counts ∨ call = .summarize) :
    (a.call call).2 = .error (.refused .poisoned) := by
  have move := move_of_call a call
  generalize (a.call call).1 = a', (a.call call).2 = answer at move ⊢
  cases move with
  | refused => rfl
  | broken sound | counted sound | summarized sound =>
    rw [sound] at off
    cases off
  | appended | lost | finished | timed | told => simp at locked

end

end Aggregator

namespace Rig

variable {start r r' : Rig} {j : List Act} {capacity : Nat} {samples : List Sample}

/-- A step of the collector leaves the tally, but for a sample that it adds. -/
theorem isOf_of_collector {s s' : Shared} {c c' : Collector} {told : List Collector.Act}
    (h : s.aggregator.tally.IsOf capacity samples) (move : Collector.Move s c told s' c') :
    s'.aggregator.tally.IsOf capacity (samples ++ Collector.added told) := by
  cases move with
  | added at_ fine => exact h.append fine
  | took sample at_ next =>
    rw [Shared.aggregator_setQueue, show Collector.added [_] = [] from rfl, List.append_nil]
    exact h
  | @failed _ _ _ aggregator _ at_ tally dropped why =>
    rw [show Collector.added [] = [] from rfl, List.append_nil]
    show aggregator.tally.IsOf capacity samples
    rw [tally]
    exact h
  | looked | passed | turned | drained | rested | exited | woke =>
    rw [show Collector.added [] = [] from rfl, List.append_nil]
    exact h

/-- A step of a task leaves the tally, but for a sample that the collector adds. -/
theorem isOf_of_step {label : Label} (h : r.shared.aggregator.tally.IsOf capacity samples)
    (now : r.step label = some r') :
    r'.shared.aggregator.tally.IsOf capacity (samples ++ added (r.taskActs label)) := by
  obtain ⟨nanos, told, rfl⟩ | ⟨index, w, event, shared, w', here, moved, told, rfl⟩ |
    ⟨c, event, shared, c', here, moved, told, rfl⟩ := step_cases now
  · rw [told, show added [] = [] from rfl, List.append_nil]
    exact h
  · rw [told, added_worker, List.append_nil]
    show shared.aggregator.tally.IsOf capacity samples
    rw [(Worker.leaves_of_move (Worker.move_of_step moved)).tally_eq]
    exact h
  · rw [told, added_collector]
    exact isOf_of_collector h (Collector.move_of_step moved)

/-- No other deed adds a sample. -/
theorem added_acts {deed : Deed} (other : ∀ label, deed ≠ .task label) : added (r.acts deed) = [] := by
  cases deed with
  | task label => exact absurd rfl (other label)
  | offer sample =>
    simp only [acts]
    split <;> rfl
  | abort worker =>
    simp only [acts]
    split
    · rfl
    · split <;> rfl
  | retire | release =>
    simp only [acts]
    split <;> rfl
  | tell | start | stop | spawn | collect | count | stamp | summarize => rfl

theorem shared_abort (r : Rig) (worker : Nat) : (r.abort worker).shared = r.shared := by
  unfold abort
  split
  · split <;> rfl
  · rfl

theorem shared_collect (r : Rig) : r.collect.shared = r.shared := by
  unfold collect
  split <;> rfl

theorem isOf_of_deed {deed : Deed} (other : ∀ label, deed ≠ .task label)
    (h : r.shared.aggregator.tally.IsOf capacity samples) (now : r.perform deed = some r') :
    r'.shared.aggregator.tally.IsOf capacity samples := by
  cases deed with
  | task label => exact absurd rfl (other label)
  | offer sample =>
    cases now
    show Tally.IsOf capacity samples (Shared.aggregator (Shared.setQueue _ _ _)).tally
    rw [Shared.aggregator_setQueue]
    exact h
  | abort worker =>
    cases now
    rw [shared_abort]
    exact h
  | collect =>
    cases now
    rw [shared_collect]
    exact h
  | count =>
    cases now
    show (r.shared.aggregator.call .counts).1.tally.IsOf capacity samples
    exact Aggregator.isOf_of_call h rfl
  | stamp elapsed =>
    cases now
    show (r.shared.aggregator.call (.finish elapsed)).1.tally.IsOf capacity samples
    exact Aggregator.isOf_of_call h rfl
  | summarize =>
    cases now
    show (r.shared.aggregator.call .summarize).1.tally.IsOf capacity samples
    exact Aggregator.isOf_of_call h rfl
  | tell | start | stop | spawn | retire | release =>
    cases now
    exact h

/-- A deed leaves the tally, but for a sample that the collector adds. -/
theorem isOf_of_perform {deed : Deed} (h : r.shared.aggregator.tally.IsOf capacity samples)
    (now : r.perform deed = some r') :
    r'.shared.aggregator.tally.IsOf capacity (samples ++ added (r.acts deed)) := by
  by_cases task : ∃ label, deed = .task label
  · obtain ⟨label, rfl⟩ := task
    exact isOf_of_step h now
  · have other : ∀ label, deed ≠ .task label := fun label same => task ⟨label, same⟩
    rw [added_acts other, List.append_nil]
    exact isOf_of_deed other h now

/-- The tally of a rig is one of the samples that the collector has added, in their order. -/
theorem Reached.isOf (h : Reached start j r) (empty : start.shared.aggregator.tally.IsOf capacity samples) :
    r.shared.aggregator.tally.IsOf capacity (samples ++ added j) := by
  induction h with
  | start =>
    rw [show added [] = [] from rfl, List.append_nil]
    exact empty
  | next before now ih =>
    rw [added_append, ← List.append_assoc]
    exact isOf_of_perform ih now

end Rig

namespace Aggregator

variable {capacity : Nat} {a b : Aggregator} {samples samples' : List Sample}

/-- Two tallies with the same counts are read alike. -/
theorem call_counts_congr (sound : a.spoiled = false) (sound' : b.spoiled = false)
    (same : ∀ v, a.tally.counted v = b.tally.counted v) : (a.call .counts).2 = (b.call .counts).2 := by
  have success : a.tally.success = b.tally.success := same .success
  have error : a.tally.error = b.tally.error := same .error
  simp only [call, counts_of_not_spoiled sound, counts_of_not_spoiled sound', success, error]
  rfl

/-- Two tallies with the same summary are summarized alike. -/
theorem call_summarize_congr (sound : a.spoiled = false) (sound' : b.spoiled = false)
    (same : a.tally.summarize = b.tally.summarize) :
    (a.call .summarize).2 = (b.call .summarize).2 := by
  simp only [call, summarize, under_of_sound sound, under_of_sound sound', same]
  cases b.tally.summarize <;> rfl

/-- Two orders of the same samples, each with its own draws. -/
theorem arrivals_congr (capacity : Nat) (first second : List (Sample × Nat))
    (same : (first.map Prod.fst).Perm (second.map Prod.fst)) :
    (((empty capacity).after (appends first)).call .counts).2 =
        (((empty capacity).after (appends second)).call .counts).2 ∧
      (first.length ≤ max capacity 1 →
        (((empty capacity).after (appends first)).call .summarize).2 =
          (((empty capacity).after (appends second)).call .summarize).2) := by
  have length : first.length = second.length := by
    rw [← List.length_map Prod.fst, same.length_eq, List.length_map]
  have new : (empty capacity).tally.IsOf capacity [] := Tally.isOf_empty capacity
  by_cases few : first.length < wordCount
  · obtain ⟨sound, h⟩ := arrive_of_few new rfl first (by rw [List.length_nil]; omega)
    obtain ⟨sound', h'⟩ := arrive_of_few new rfl second (by rw [List.length_nil]; omega)
    refine ⟨call_counts_congr sound sound' fun v => h.counted_eq_of_perm h' same v, fun room => ?_⟩
    apply call_summarize_congr sound sound'
    refine h.summarize_eq_of_perm h' same ?_
    rw [List.nil_append, List.length_map]
    exact room
  · have none : ([] : List Sample).length < wordCount := by decide
    have off := arrive_of_many new rfl first none (by rw [List.length_nil]; omega)
    have off' := arrive_of_many new rfl second none (by rw [List.length_nil]; omega)
    refine ⟨?_, fun room => ?_⟩
    · rw [call_of_spoiled off (.inl rfl), call_of_spoiled off' (.inl rfl)]
    · rw [call_of_spoiled off (.inr rfl), call_of_spoiled off' (.inr rfl)]

/-- **The order of arrival does not matter.**  Samples that are added in two orders are counted alike, and
    while the reservoir has room for all of them they are summarized alike, whatever is drawn.  So are
    the samples that two collectors have moved out of their queues, in whatever turns they took. -/
theorem order_of_arrival (capacity : Nat) :
    (∀ first second : List (Sample × Nat), (first.map Prod.fst).Perm (second.map Prod.fst) →
      (((empty capacity).after (appends first)).call .counts).2 =
          (((empty capacity).after (appends second)).call .counts).2 ∧
        (first.length ≤ max capacity 1 →
          (((empty capacity).after (appends first)).call .summarize).2 =
            (((empty capacity).after (appends second)).call .summarize).2)) ∧
    ∀ (start start' r r' : Rig) (j j' : List Rig.Act),
      start.shared.aggregator = empty capacity → start'.shared.aggregator = empty capacity →
      Rig.Reached start j r → Rig.Reached start' j' r' → (Rig.added j).Perm (Rig.added j') →
      (∀ v, r.shared.aggregator.tally.counted v = r'.shared.aggregator.tally.counted v) ∧
        ((Rig.added j).length ≤ max capacity 1 →
          r.shared.aggregator.tally.summarize = r'.shared.aggregator.tally.summarize) := by
  refine ⟨arrivals_congr capacity, ?_⟩
  intro start start' r r' j j' empty empty' reached reached' same
  have h : r.shared.aggregator.tally.IsOf capacity ([] ++ Rig.added j) := by
    apply Rig.Reached.isOf reached
    rw [empty]
    exact Tally.isOf_empty capacity
  have h' : r'.shared.aggregator.tally.IsOf capacity ([] ++ Rig.added j') := by
    apply Rig.Reached.isOf reached'
    rw [empty']
    exact Tally.isOf_empty capacity
  exact ⟨h.counted_eq_of_perm h' same, h.summarize_eq_of_perm h' same⟩

/-- A success and an error. -/
def quick : Sample := ⟨.clamped 5, .success⟩

def slow : Sample := ⟨.clamped 7, .error⟩

/-- Both are taken in one turn. -/
def oneTurn : List Rig.Deed :=
  [.offer quick, .offer slow, .collect, .task (.collector .look), .task (.collector .pollSuccess),
    .task (.collector (.add 0)), .task (.collector .pollError), .task (.collector (.add 0))]

/-- The success comes when the collector has found its queue empty and has taken the error. -/
def twoTurns : List Rig.Deed :=
  [.offer slow, .collect, .task (.collector .look), .task (.collector .pollSuccess),
    .task (.collector .pollError), .offer quick, .task (.collector (.add 3)),
    .task (.collector .pollSuccess), .task (.collector (.add 1))]

theorem order_of_arrival_turns :
    (((empty 2).after (appends [(quick, 0), (slow, 0)])).call .summarize).2 =
        (((empty 2).after (appends [(slow, 3), (quick, 1)])).call .summarize).2 ∧
      ∃ r r', ({ shared := .fresh 2 2 } : Rig).performAll oneTurn = some r ∧
        ({ shared := .fresh 2 2 } : Rig).performAll twoTurns = some r' ∧
        r.shared.aggregator.tally.counted .success = r'.shared.aggregator.tally.counted .success ∧
        r.shared.aggregator.tally.summarize = r'.shared.aggregator.tally.summarize := by
  obtain ⟨arrivals, collectors⟩ := order_of_arrival 2
  have swap : [quick, slow].Perm [slow, quick] := .swap slow quick []
  obtain ⟨r, done⟩ : ∃ r, ({ shared := .fresh 2 2 } : Rig).performAll oneTurn = some r := ⟨_, rfl⟩
  obtain ⟨r', done'⟩ : ∃ r', ({ shared := .fresh 2 2 } : Rig).performAll twoTurns = some r' :=
    ⟨_, rfl⟩
  have added : Rig.added (({ shared := .fresh 2 2 } : Rig).journal oneTurn) = [quick, slow] := rfl
  have added' : Rig.added (({ shared := .fresh 2 2 } : Rig).journal twoTurns) = [slow, quick] := rfl
  have same := added'.symm ▸ added.symm ▸ swap
  obtain ⟨counted, summarized⟩ := collectors _ _ r r' _ _ rfl rfl (Trace.reached_of_run done)
    (Trace.reached_of_run done') same
  rw [added] at summarized
  exact ⟨(arrivals [(quick, 0), (slow, 0)] [(slow, 3), (quick, 1)] swap).2 (by decide), r, r', done,
    done', counted .success, summarized (by decide)⟩

end Aggregator

end LoadGen
