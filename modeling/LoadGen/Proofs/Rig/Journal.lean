import LoadGen.Proofs.Collector.Story
import LoadGen.Proofs.Trace
import LoadGen.Proofs.Worker.Operations
import LoadGen.Rig

namespace LoadGen

/-!
# The journal of a rig

What happens on a rig in one line: the stories of all its tasks, in the order in which they happen, and
between them what its owner does.

* `Rig.Deed` — a step of a task, or something that the owner or a stranger does;
* `Rig.Act` — one thing that can be told, and `Rig.acts` what a deed adds to the journal;
* `Rig.upTo` — the journal up to an act;
* `Rig.Move` — everything a deed can do; `move_of_perform` says that there is nothing else.
-/

namespace Rig

/-- What can be done to a rig: a step of a task, or a call of its owner or of a stranger. -/
inductive Deed where
  | task (label : Label)
  /-- Somebody offers a sample to its queue. -/
  | offer (sample : Sample)
  | tell (notice : Notice)
  /-- The start is given. -/
  | start
  /-- The stop is given. -/
  | stop
  | spawn (plan : RatePlan)
  | abort (worker : Nat)
  | collect
  /-- The collector is told to stop. -/
  | retire
  /-- The collector is let go of. -/
  | release
  | count
  | stamp (elapsed : Duration)
  | summarize

/-- Does a deed, if it can be done now. -/
def perform (r : Rig) : Deed → Option Rig
  | .task label => r.step label
  | .offer sample => some (r.offer sample).1
  | .tell notice => some (r.tell notice)
  | .start => some (r.signal Signal.start)
  | .stop => some (r.signal Signal.stop)
  | .spawn plan => some (r.spawn plan)
  | .abort worker => some (r.abort worker)
  | .collect => some r.collect
  | .retire => some r.stopCollector
  | .release => some r.releaseCollector
  | .count => some (r.aggregate Aggregator.counts).1
  | .stamp elapsed => some (r.aggregate (Aggregator.finish · elapsed)).1
  | .summarize => some (r.aggregate Aggregator.summarize).1

/-- What can be told of a rig. -/
inductive Act where
  | worker (id : Nat) (act : Worker.Act)
  | collector (act : Collector.Act)
  /-- A queue has taken a sample from somebody who is no worker. -/
  | offered (sample : Sample)
  /-- The start is given. -/
  | started
  /-- The stop is given, at an instant. -/
  | stopped (now : Nat)
  /-- A worker that is not over is called off, at an instant. -/
  | calledOff (worker now : Nat)
  /-- The collector is told to stop, or let go of. -/
  | retired
  deriving DecidableEq

/-- What a step of a task adds to the journal. -/
def taskActs (r : Rig) : Label → List Act
  | .pass _ => []
  | .worker index event =>
    match r.workers[index]? with
    | none => []
    | some w => (w.acts r.shared event).map (.worker index)
  | .collector event =>
    match r.collector with
    | none => []
    | some c => (c.acts r.shared event).map .collector

/-- What a deed adds to the journal. -/
def acts (r : Rig) : Deed → List Act
  | .task label => r.taskActs label
  | .offer sample => if (r.offer sample).2 = .queued then [.offered sample] else []
  | .start => [.started]
  | .stop => [.stopped r.shared.now]
  | .abort worker =>
    match r.workers[worker]? with
    | none => []
    | some w => if w.isOver then [] else [.calledOff worker r.shared.now]
  | .retire | .release => if r.collector.isSome then [.retired] else []
  | .tell _ | .spawn _ | .collect | .count | .stamp _ | .summarize => []

/-- The rig after some deeds, if all can be done. -/
abbrev performAll (r : Rig) (deeds : List Deed) : Option Rig := Trace.run perform r deeds

/-- The journal of some deeds. -/
abbrev journal (r : Rig) (deeds : List Deed) : List Act := Trace.told perform acts r deeds

/-- The rigs that deeds lead to, each with its journal. -/
abbrev Reached (start : Rig) (j : List Act) (r : Rig) : Prop := Trace.Reached perform acts start j r

theorem reached_of_perform {r r' : Rig} (deed : Deed) (h : r.perform deed = some r') :
    Reached r (r.acts deed) r' := Trace.Reached.start.next h

/-- The tasks tell their own stories only. -/
theorem mem_taskActs {r : Rig} {label : Label} {act : Act} (h : act ∈ r.taskActs label) :
    (∃ id told, act = .worker id told) ∨ ∃ told, act = .collector told := by
  unfold taskActs at h
  split at h
  · cases h
  · split at h
    · cases h
    · obtain ⟨told, -, rfl⟩ := List.mem_map.mp h
      exact .inl ⟨_, _, rfl⟩
  · split at h
    · cases h
    · obtain ⟨told, -, rfl⟩ := List.mem_map.mp h
      exact .inr ⟨_, rfl⟩

/-- Whether a task tells of an act. -/
def Act.isOfTask : Act → Bool
  | .worker .. | .collector _ => true
  | _ => false

theorem not_mem_taskActs {r : Rig} {label : Label} {act : Act} (other : act.isOfTask = false) :
    act ∉ r.taskActs label := by
  intro mem
  obtain ⟨id, told, rfl⟩ | ⟨told, rfl⟩ := mem_taskActs mem <;> cases other

/-- A step of a rig is time that passes, a step of a worker or a step of the collector. -/
theorem step_cases {r r' : Rig} {label : Label} (h : r.step label = some r') :
    (∃ nanos, r.taskActs label = [] ∧
        r' = { r with shared := { r.shared with now := r.shared.now + nanos } }) ∨
      (∃ index w event shared w', r.workers[index]? = some w ∧
        Worker.step r.shared w event = some (shared, w') ∧
        r.taskActs label = (w.acts r.shared event).map (.worker index) ∧
        r' = { r with shared }.setWorker index w') ∨
      ∃ c event shared c', r.collector = some c ∧
        Collector.step r.shared c event = some (shared, c') ∧
        r.taskActs label = (c.acts r.shared event).map .collector ∧
        r' = { r with shared, collector := some c' } := by
  cases label with
  | pass nanos =>
    cases h
    exact .inl ⟨nanos, rfl, rfl⟩
  | worker index event =>
    simp only [step, bind, Option.bind_eq_some_iff, pure, Option.some.injEq, Prod.exists] at h
    obtain ⟨w, here, shared, w', moved, rfl⟩ := h
    refine .inr (.inl ⟨index, w, event, shared, w', here, moved, ?_, rfl⟩)
    simp only [taskActs, here]
  | collector event =>
    simp only [step, bind, Option.bind_eq_some_iff, pure, Option.some.injEq, Prod.exists] at h
    obtain ⟨c, here, shared, c', moved, rfl⟩ := h
    refine .inr (.inr ⟨c, event, shared, c', here, moved, ?_, rfl⟩)
    simp only [taskActs, here]

/-- The tasks do not change the number of workers. -/
theorem size_of_step {r r' : Rig} {label : Label} (h : r.step label = some r') :
    r'.workers.size = r.workers.size := by
  obtain ⟨nanos, -, rfl⟩ | ⟨index, w, event, shared, w', -, -, -, rfl⟩ |
    ⟨c, event, shared, c', -, -, -, rfl⟩ := step_cases h
  · rfl
  · exact Array.size_setIfInBounds
  · rfl

/-- Time only passes. -/
theorem now_le_of_step {r r' : Rig} {label : Label} (h : r.step label = some r') :
    r.shared.now ≤ r'.shared.now := by
  obtain ⟨nanos, -, rfl⟩ | ⟨index, w, event, shared, w', -, moved, -, rfl⟩ |
    ⟨c, event, shared, c', -, moved, -, rfl⟩ := step_cases h
  · exact Nat.le_add_right _ _
  · exact Nat.le_of_eq (Worker.leaves_of_move (Worker.move_of_step moved)).now_eq.symm
  · exact Nat.le_of_eq (Collector.move_of_step moved).now_eq.symm

/-- The tasks say nothing about the sums at the end. -/
theorem audits_of_step {r r' : Rig} {label : Label} (h : r.step label = some r') :
    r'.shared.audits = r.shared.audits := by
  obtain ⟨nanos, -, rfl⟩ | ⟨index, w, event, shared, w', -, moved, -, rfl⟩ |
    ⟨c, event, shared, c', -, moved, -, rfl⟩ := step_cases h
  · rfl
  · exact (Worker.leaves_of_move (Worker.move_of_step moved)).audits_eq
  · exact (Collector.move_of_step moved).audits_eq

theorem mem_retire {r : Rig} {act : Act} (h : act ∈ r.acts .retire) : act = .retired := by
  simp only [acts] at h
  split at h
  · exact List.mem_singleton.mp h
  · cases h

/-! ### Calling off -/

section Abort

variable {r : Rig} {worker : Nat} {w : Worker}

theorem abort_of_alive (here : r.workers[worker]? = some w) (alive : w.isOver = false) :
    r.abort worker = r.setWorker worker { w with aborting := true } := by
  simp [abort, here, alive]

theorem acts_abort (here : r.workers[worker]? = some w) (alive : w.isOver = false) :
    r.acts (.abort worker) = [.calledOff worker r.shared.now] := by
  simp [acts, here, alive]

/-- A worker that is over is not called off. -/
theorem abort_of_isOver (here : r.workers[worker]? = some w) (gone : w.isOver = true) :
    r.abort worker = r := by
  simp [abort, here, gone]

theorem acts_abort_of_isOver (here : r.workers[worker]? = some w) (gone : w.isOver = true) :
    r.acts (.abort worker) = [] := by
  simp [acts, here, gone]

theorem mem_abort {act : Act} (h : act ∈ r.acts (.abort worker)) :
    act = .calledOff worker r.shared.now := by
  simp only [acts] at h
  split at h
  · cases h
  · split at h
    · cases h
    · exact List.mem_singleton.mp h

theorem size_abort (r : Rig) (worker : Nat) : (r.abort worker).workers.size = r.workers.size := by
  unfold abort
  split
  · split
    · rfl
    · exact Array.size_setIfInBounds
  · rfl

end Abort

/-! ### The past of an act -/

/-- The journal up to an act. -/
def upTo (mark : Act) (j : List Act) : List Act := j.takeWhile (· ≠ mark)

theorem isPrefix_upTo (mark : Act) (j : List Act) : upTo mark j <+: j := List.takeWhile_prefix _

/-- Only the first time counts. -/
theorem upTo_append {mark : Act} {j : List Act} (h : mark ∈ j) (more : List Act) :
    upTo mark (j ++ more) = upTo mark j := by
  induction j with
  | nil => cases h
  | cons act j ih =>
    by_cases here : act = mark
    · subst here
      simp [upTo]
    · -- The mark comes later, so the first act is in both.
      have later : mark ∈ j := (List.mem_cons.mp h).resolve_left fun eq => here eq.symm
      have rest := ih later
      unfold upTo at rest ⊢
      rw [List.cons_append, List.takeWhile_cons, List.takeWhile_cons, rest]

theorem upTo_eq_self {mark : Act} {j : List Act} (h : mark ∉ j) : upTo mark j = j := by
  have others : ∀ act ∈ j, decide (act ≠ mark) = true := by
    intro act mem
    exact decide_eq_true fun eq => h (eq ▸ mem)
  have all : (j ++ []).takeWhile _ = j ++ [].takeWhile _ := List.takeWhile_append_of_pos others
  rw [List.append_nil, List.takeWhile_nil, List.append_nil] at all
  exact all

theorem upTo_append_cons {mark : Act} {j : List Act} (h : mark ∉ j) (more : List Act) :
    upTo mark (j ++ mark :: more) = j := by
  have others : ∀ act ∈ j, decide (act ≠ mark) = true := by
    intro act mem
    exact decide_eq_true fun eq => h (eq ▸ mem)
  have first : (j ++ mark :: more).takeWhile _ = j ++ (mark :: more).takeWhile _ :=
    List.takeWhile_append_of_pos others
  rw [List.takeWhile_cons, if_neg (by simp), List.append_nil] at first
  exact first

/-! ### What a deed can do -/

/-- A deed, with what it adds to the journal. -/
inductive Move (r : Rig) : List Act → Rig → Prop where
  | nothing : Move r [] r
  | passed (nanos : Nat) :
      Move r [] { r with shared := { r.shared with now := r.shared.now + nanos } }
  | worked {index : Nat} {event : Worker.Event} {shared : Shared} {w w' : Worker}
      (here : r.workers[index]? = some w)
      (step : Worker.step r.shared w event = some (shared, w')) :
      Move r ((w.acts r.shared event).map (.worker index))
        ({ r with shared }.setWorker index w')
  | collected {event : Collector.Event} {shared : Shared} {c c' : Collector}
      (here : r.collector = some c) (step : Collector.step r.shared c event = some (shared, c')) :
      Move r ((c.acts r.shared event).map .collector) { r with shared, collector := some c' }
  | offered {sample : Sample} {queue : Queue Duration}
      (taken : (r.shared.queue sample.verdict).offer sample.latency = (queue, .queued)) :
      Move r [.offered sample] { r with shared := r.shared.setQueue sample.verdict queue }
  | told (notice : Notice) : Move r [] (r.tell notice)
  | started : Move r [.started] (r.signal Signal.start)
  | stopped : Move r [.stopped r.shared.now] (r.signal Signal.stop)
  | spawned (plan : RatePlan) : Move r [] (r.spawn plan)
  | calledOff {index : Nat} {w : Worker} (here : r.workers[index]? = some w)
      (alive : w.isOver = false) :
      Move r [.calledOff index r.shared.now] (r.setWorker index { w with aborting := true })
  | manned (vacant : r.receivers = true) :
      Move r [] { r with collector := some {}, receivers := false }
  | retired {c : Collector} {stop released : Bool} (here : r.collector = some c)
      (asked : (stop || released) = true) :
      Move r [.retired] { r with collector := some { c with stop, released } }
  | read {aggregator : Aggregator}
      (counted : ∀ v, aggregator.tally.counted v = r.shared.aggregator.tally.counted v)
      (dropped : aggregator.dropped = r.shared.aggregator.dropped) :
      Move r [] { r with shared := { r.shared with aggregator } }

theorem move_of_step {r r' : Rig} {label : Label} (h : r.step label = some r') :
    Move r (r.taskActs label) r' := by
  obtain ⟨nanos, told, rfl⟩ | ⟨index, w, event, shared, w', here, moved, told, rfl⟩ |
    ⟨c, event, shared, c', here, moved, told, rfl⟩ := step_cases h
  · exact told ▸ .passed nanos
  · exact told ▸ .worked here moved
  · exact told ▸ .collected here moved

theorem eq_of_collector {r : Rig} {c : Option Collector} (h : r.collector = c) :
    ({ r with collector := c } : Rig) = r := by
  subst h
  rfl

theorem move_of_offer (r : Rig) (sample : Sample) :
    Move r (r.acts (.offer sample)) (r.offer sample).1 := by
  obtain ⟨queue, answer, offered⟩ : ∃ queue answer,
      (r.shared.queue sample.verdict).offer sample.latency = (queue, answer) := ⟨_, _, rfl⟩
  simp only [acts, offer, offered]
  cases answer with
  | queued => exact .offered offered
  | full | closed =>
    rw [Queue.eq_of_offer offered nofun, Shared.setQueue_queue]
    exact .nothing

theorem move_of_abort (r : Rig) (worker : Nat) :
    Move r (r.acts (.abort worker)) (r.abort worker) := by
  simp only [acts, abort]
  cases here : r.workers[worker]? with
  | none => exact .nothing
  | some w =>
    simp only
    split
    · exact .nothing
    · exact .calledOff here (eq_false_of_ne_true ‹_›)

/-- **A deed does what one of the moves says.** -/
theorem move_of_perform {r r' : Rig} {deed : Deed} (h : r.perform deed = some r') :
    Move r (r.acts deed) r' := by
  cases deed with
  | task label => exact move_of_step h
  | offer sample =>
    cases h
    exact move_of_offer r sample
  | tell notice =>
    cases h
    exact .told notice
  | start =>
    cases h
    exact .started
  | stop =>
    cases h
    exact .stopped
  | spawn plan =>
    cases h
    exact .spawned plan
  | abort worker =>
    cases h
    exact move_of_abort r worker
  | collect =>
    cases h
    simp only [acts, collect]
    split
    · exact .manned ‹_›
    · exact .nothing
  | retire =>
    cases h
    obtain here | ⟨c, here⟩ := Option.eq_none_or_eq_some r.collector <;>
      simp only [acts, stopCollector, here, Option.map]
    · rw [eq_of_collector here]
      exact .nothing
    · exact .retired here (by simp)
  | release =>
    cases h
    obtain here | ⟨c, here⟩ := Option.eq_none_or_eq_some r.collector <;>
      simp only [acts, releaseCollector, here, Option.map]
    · rw [eq_of_collector here]
      exact .nothing
    · exact .retired here (by simp)
  | count =>
    cases h
    exact .read (Aggregator.counted_counts _) (Aggregator.dropped_counts _)
  | stamp elapsed =>
    cases h
    exact .read (Aggregator.counted_finish _ elapsed) (Aggregator.dropped_finish _ elapsed)
  | summarize =>
    cases h
    exact .read (Aggregator.counted_summarize _) (Aggregator.dropped_summarize _)

end Rig

end LoadGen
