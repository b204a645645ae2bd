import LoadGen.Proofs.Rig.Lives

namespace LoadGen

/-!
# The books of a rig

What became of the samples, by the journal and by the state that the tasks share.

* `Rig.queued`, `Rig.lost`, `Rig.taken`, `Rig.added` — the samples of a journal;
* `Rig.Books` — a stretch of a journal accounts for what has changed in the queues, in the tally and in
  the count of lost samples;
* `Rig.Reached.books` — every journal does.

The books of two stretches add up (`Books.trans`), so it is enough to look at the books of one deed.
-/

namespace Rig

variable {j more acts : List Act} {r r' start : Rig}

/-! ### The samples of a journal -/

/-- A sample that a queue has taken. -/
def Act.queued? : Act → Option Sample
  | .worker _ act => act.queued?
  | .offered sample => some sample
  | _ => none

/-- A sample that was dropped. -/
def Act.lost? : Act → Option Sample
  | .worker _ act => act.lost?
  | _ => none

/-- The samples that queues have taken, oldest first. -/
def queued (j : List Act) : List Sample := j.filterMap Act.queued?

/-- The samples that were dropped, oldest first. -/
def lost (j : List Act) : List Sample := j.filterMap Act.lost?

/-- The samples that the collector has taken out of the queues, oldest first. -/
def taken (j : List Act) : List Sample := Collector.taken (ofCollector j)

/-- The samples that the collector has added to the tally, oldest first. -/
def added (j : List Act) : List Sample := Collector.added (ofCollector j)

@[simp] theorem queued_append (j more : List Act) : queued (j ++ more) = queued j ++ queued more :=
  List.filterMap_append

@[simp] theorem lost_append (j more : List Act) : lost (j ++ more) = lost j ++ lost more :=
  List.filterMap_append

@[simp] theorem taken_append (j more : List Act) : taken (j ++ more) = taken j ++ taken more := by
  simp [taken]

@[simp] theorem added_append (j more : List Act) : added (j ++ more) = added j ++ added more := by
  simp [added]

@[simp] theorem queued_worker (id : Nat) (told : List Worker.Act) :
    queued (told.map (.worker id)) = Worker.queued told := by
  simp [queued, Worker.queued, List.filterMap_map, Function.comp_def, Act.queued?]

@[simp] theorem lost_worker (id : Nat) (told : List Worker.Act) :
    lost (told.map (.worker id)) = Worker.lost told := by
  simp [lost, Worker.lost, List.filterMap_map, Function.comp_def, Act.lost?]

@[simp] theorem queued_collector (told : List Collector.Act) : queued (told.map .collector) = [] := by
  simp [queued, List.filterMap_map, Function.comp_def, Act.queued?]

@[simp] theorem lost_collector (told : List Collector.Act) : lost (told.map .collector) = [] := by
  simp [lost, List.filterMap_map, Function.comp_def, Act.lost?]

theorem added_worker (id : Nat) (told : List Worker.Act) : added (told.map (.worker id)) = [] := by
  rw [added, ofCollector_worker]
  rfl

theorem added_collector (told : List Collector.Act) :
    added (told.map .collector) = Collector.added told := by rw [added, ofCollector_collector]

/-! ### The books of a stretch -/

/-- A stretch of a journal accounts for what has changed.  The queues give the samples in the order in
    which they took them; the tally has grown by what was added, and the count of lost samples by what
    was dropped. -/
structure Books (s : Shared) (j : List Act) (s' : Shared) : Prop where
  queue_eq : ∀ v, (s.queue v).toList ++ latenciesOf v (queued j) =
    latenciesOf v (taken j) ++ (s'.queue v).toList
  counted_eq : ∀ v, s'.aggregator.tally.counted v =
    s.aggregator.tally.counted v + (latenciesOf v (added j)).length
  dropped_eq : s'.aggregator.dropped = s.aggregator.dropped + (lost j).length

namespace Books

variable {s s' s'' : Shared}

/-- The books of a stretch without samples, in which only other things change. -/
theorem quiet (queued : queued acts = []) (taken : taken acts = []) (added : added acts = [])
    (lost : lost acts = []) (queue : ∀ v, (s'.queue v).toList = (s.queue v).toList)
    (counted : ∀ v, s'.aggregator.tally.counted v = s.aggregator.tally.counted v)
    (dropped : s'.aggregator.dropped = s.aggregator.dropped) : Books s acts s' where
  queue_eq v := by rw [queued, taken, queue, latenciesOf_nil, List.append_nil, List.nil_append]
  counted_eq v := by
    rw [added, counted]
    rfl
  dropped_eq := by
    rw [lost, dropped]
    rfl

/-- The books of two stretches add up. -/
theorem trans (h : Books s j s') (next : Books s' more s'') : Books s (j ++ more) s'' where
  queue_eq v := by
    rw [queued_append, taken_append, latenciesOf_append, latenciesOf_append, ← List.append_assoc,
      h.queue_eq, List.append_assoc, next.queue_eq, List.append_assoc]
  counted_eq v := by
    rw [next.counted_eq, h.counted_eq, added_append, latenciesOf_append, List.length_append,
      Nat.add_assoc]
  dropped_eq := by rw [next.dropped_eq, h.dropped_eq, lost_append, List.length_append, Nat.add_assoc]

/-- The books of a step of a worker. -/
theorem worked {told : List Worker.Act} (id : Nat) (leaves : Worker.Leaves told s s') :
    Books s (told.map (.worker id)) s' where
  queue_eq v := by
    rw [queued_worker, leaves.queue_eq]
    simp [taken, Collector.taken]
  counted_eq v := by
    rw [leaves.tally_eq]
    simp [added, Collector.added]
  dropped_eq := by rw [lost_worker, leaves.dropped_eq]

/-- The books of a step of the collector. -/
theorem collected {told : List Collector.Act} {c c' : Collector} (move : Collector.Move s c told s' c') :
    Books s (told.map .collector) s' := by
  cases move with
  | looked _ | passed _ _ | turned _ | drained _ _ | rested _ | woke _ =>
    exact .quiet rfl rfl rfl rfl (fun _ => rfl) (fun _ => rfl) rfl
  | exited _ _ => exact .quiet rfl rfl rfl rfl (fun v => by cases v <;> rfl) (fun _ => rfl) rfl
  | failed _ tally dropped _ =>
    refine .quiet rfl rfl rfl rfl (fun v => by cases v <;> rfl) (fun v => ?_) dropped
    exact congrArg (Tally.counted · v) tally
  | @took sample stopping drained queue at_ next =>
    refine ⟨fun v => ?_, fun v => ?_, ?_⟩
    · show (s.queue v).toList ++ [] = latenciesOf v [sample] ++ _
      rw [List.append_nil, Shared.queue_setQueue, latenciesOf_singleton]
      by_cases same : sample.verdict = v
      · rw [if_pos same, if_pos same, ← same]
        exact Queue.toList_of_take? next
      · rw [if_neg same, if_neg same]
        rfl
    · rw [Shared.aggregator_setQueue]
      rfl
    · rw [Shared.aggregator_setQueue]
      rfl
  | @added stopping drained slot sample tally at_ fine =>
    refine ⟨fun v => ?_, fun v => ?_, rfl⟩
    · show (s.queue v).toList ++ [] = [] ++ (s.queue v).toList
      rw [List.append_nil, List.nil_append]
    · show tally.counted v = s.aggregator.tally.counted v + (latenciesOf v [sample]).length
      rw [Tally.counted_of_append fine v, latenciesOf_singleton]
      by_cases same : sample.verdict = v
      · rw [if_pos same, if_pos same]
        rfl
      · rw [if_neg same, if_neg same]
        rfl

end Books

/-- The books of a deed. -/
theorem books_of_move (move : Move r acts r') : Books r.shared acts r'.shared := by
  cases move with
  | nothing | passed _ | told _ | started | stopped | spawned _ | calledOff _ _ | manned _
  | retired _ _ => exact .quiet rfl rfl rfl rfl (fun v => by cases v <;> rfl) (fun _ => rfl) rfl
  | worked here step => exact .worked _ (Worker.leaves_of_move (Worker.move_of_step step))
  | collected here step => exact .collected (Collector.move_of_step step)
  | read counted dropped =>
    exact .quiet rfl rfl rfl rfl (fun v => by cases v <;> rfl) counted dropped
  | @offered sample queue taken =>
    refine ⟨fun v => ?_, fun v => ?_, ?_⟩
    · show (r.shared.queue v).toList ++ latenciesOf v [sample] = _
      rw [Shared.queue_setQueue, latenciesOf_singleton]
      by_cases same : sample.verdict = v
      · rw [if_pos same, if_pos same, ← same]
        exact (Queue.toList_of_offer taken).symm
      · rw [if_neg same, if_neg same]
        exact List.append_nil _
    · rw [Shared.aggregator_setQueue]
      rfl
    · rw [Shared.aggregator_setQueue]
      rfl

/-- **Every journal accounts for what has changed.** -/
theorem Reached.books (h : Reached start j r) : Books start.shared j r.shared := by
  induction h with
  | start => exact .quiet rfl rfl rfl rfl (fun _ => rfl) (fun _ => rfl) rfl
  | next before now ih => exact ih.trans (books_of_move (move_of_perform now))

end Rig

end LoadGen
