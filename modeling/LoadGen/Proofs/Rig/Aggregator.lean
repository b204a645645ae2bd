import LoadGen.Proofs.Statistics.Arrival

namespace LoadGen

/-!
# The aggregator of a rig

Workers count lost samples, the collector adds samples, and only the owner stamps the time.  So the lock is
spoiled by a sample that cannot be counted any more, and by nothing else.

* `Aggregator.full_of_spoiled` — what has happened where a call has spoiled the lock;
* `Rig.aggregator_of_step` — what a task does to the aggregator;
* `Rig.elapsed_of_step` — the tasks leave the stamp;
* `Rig.Reached.full_of_spoiled` — a spoiled lock means that all the samples have come that can be counted;
* `Rig.counted_le_of_reached` — the counts only grow.
-/

namespace Aggregator

variable {capacity : Nat} {samples : List Sample} {a : Aggregator}

/-- A call spoils the lock only if it brings a sample too many. -/
theorem full_of_spoiled (h : a.tally.IsOf capacity samples)
    (room : max capacity 1 * durationLimit ≤ doubleWordCount) (sound : a.spoiled = false) {call : Call}
    (off : (a.call call).1.spoiled = true) : wordCount ≤ samples.length + 1 := by
  have move := move_of_call a call
  generalize (a.call call).1 = a', (a.call call).2 = answer at move off
  cases move with
  | @broken _ fault _ why =>
    rcases why with ⟨sample, slot, rfl, breaks⟩ | ⟨rfl, breaks⟩
    · apply Nat.le_of_not_lt
      intro few
      obtain ⟨tally, fine⟩ := h.exists_append_eq_ok few sample slot
      rw [breaks] at fine
      cases fine
    · obtain ⟨summary, fine⟩ := h.exists_summarize_eq_ok room
      rw [breaks] at fine
      cases fine
  | refused | appended | lost | finished | counted | timed | told | summarized =>
    have off : a.spoiled = true := off
    rw [sound] at off
    cases off

/-- A sample leaves the stamp, whether it can be counted or not. -/
theorem elapsed_append (a : Aggregator) (sample : Sample) (slot : Nat) :
    (a.append sample slot).1.tally.elapsed = a.tally.elapsed := by
  have move := move_of_call a (.append sample slot)
  show (a.call (.append sample slot)).1.tally.elapsed = a.tally.elapsed
  generalize (a.call (.append sample slot)).1 = a', (a.call (.append sample slot)).2 = answer at move ⊢
  cases move with
  | refused | broken => rfl
  | appended _ fine => exact (Tally.append_eq_ok fine).2.2

end Aggregator

namespace Worker

/-- A worker counts a lost sample, or leaves the aggregator. -/
theorem aggregator_of_move {acts : List Act} {s s' : Shared} {w w' : Worker} {event : Event}
    (move : Move s w event acts s' w') :
    s'.aggregator = s.aggregator ∨ s'.aggregator = s.aggregator.recordDropped := by
  cases move with
  | start _ | opened _ | refused _ _ | broken _ | announced _ | released _ _ | dismissed _ _ _
  | stopped _ _ | asked _ _ | permitted _ _ | skipped _ _ _ | begun _ _ _ | panicked _ | waited _ _
  | cancelled _ _ => exact .inl rfl
  | returned reply at_ returns =>
    cases reply with
    | ok | failed cause => exact .inl rfl
    | panicked message => cases returns
  | @closed ending at_ => cases ending <;> exact .inl rfl
  | queued at_ taken => exact .inl (Shared.aggregator_setQueue ..)
  | dropped at_ why => exact .inr rfl

end Worker

namespace Collector

variable {s s' : Shared} {c c' : Collector} {event : Event}

theorem aggregator_addSample {stopping : Bool} {drained : Nat} {sample : Sample} {slot : Nat} :
    (addSample s c stopping drained sample slot).1.aggregator = (s.aggregator.append sample slot).1 := by
  unfold addSample
  split
  · rename_i added
    rw [added]
  · rename_i failed
    rw [failed]
    rfl

/-- The collector adds a sample, or leaves the aggregator. -/
theorem aggregator_of_step (h : step s c event = some (s', c')) :
    s'.aggregator = s.aggregator ∨
      ∃ sample slot, s'.aggregator = (s.aggregator.append sample slot).1 := by
  by_cases holding : ∃ stopping drained sample, c.stage = .holding stopping drained sample
  · -- All it can do with the sample that it holds is to add it.
    obtain ⟨stopping, drained, sample, at_⟩ := holding
    cases event with
    | add slot =>
      simp only [step, at_, Option.some.injEq] at h
      refine .inr ⟨sample, slot, ?_⟩
      rw [← aggregator_addSample, h]
    | look | pollSuccess | pollError | wake =>
      simp only [step, at_] at h
      cases h
  · have move := move_of_step h
    generalize acts s c event = told at move
    cases move with
    | looked | passed | turned | drained | rested | exited | woke => exact .inl rfl
    | took => exact .inl (Shared.aggregator_setQueue ..)
    | added at_ _ | failed at_ _ _ _ => exact absurd ⟨_, _, _, at_⟩ holding

end Collector

namespace Rig

variable {start r r' : Rig} {j acts : List Act} {label : Label} {capacity : Nat}

/-- A task makes one of three calls, or leaves the aggregator. -/
theorem aggregator_of_step (h : r.step label = some r') :
    r'.shared.aggregator = r.shared.aggregator ∨
      r'.shared.aggregator = r.shared.aggregator.recordDropped ∨
      ∃ sample slot, r'.shared.aggregator = (r.shared.aggregator.append sample slot).1 := by
  obtain ⟨nanos, -, rfl⟩ | ⟨index, w, event, shared, w', -, moved, -, rfl⟩ |
    ⟨c, event, shared, c', -, moved, -, rfl⟩ := step_cases h
  · exact .inl rfl
  · exact (Worker.aggregator_of_move (Worker.move_of_step moved)).imp_right .inl
  · exact (Collector.aggregator_of_step moved).imp_right .inr

/-- The tasks leave the stamp. -/
theorem elapsed_of_step (h : r.step label = some r') :
    r'.shared.aggregator.tally.elapsed = r.shared.aggregator.tally.elapsed := by
  obtain same | lost | ⟨sample, slot, added⟩ := aggregator_of_step h
  · rw [same]
  · rw [lost]
    rfl
  · rw [added, Aggregator.elapsed_append]

/-- What a deed does to the aggregator is a call, if it does anything. -/
theorem exists_call_of_perform {deed : Deed} (h : r.perform deed = some r') :
    r'.shared.aggregator = r.shared.aggregator ∨
      ∃ call, r'.shared.aggregator = (r.shared.aggregator.call call).1 := by
  cases deed with
  | task label =>
    obtain same | lost | ⟨sample, slot, added⟩ := aggregator_of_step h
    · exact .inl same
    · exact .inr ⟨.recordDropped, lost⟩
    · exact .inr ⟨.append sample slot, added⟩
  | offer sample =>
    cases h
    exact .inl (Shared.aggregator_setQueue ..)
  | abort worker =>
    cases h
    rw [shared_abort]
    exact .inl rfl
  | collect =>
    cases h
    rw [shared_collect]
    exact .inl rfl
  | count =>
    cases h
    exact .inr ⟨.counts, rfl⟩
  | stamp elapsed =>
    cases h
    exact .inr ⟨.finish elapsed, rfl⟩
  | summarize =>
    cases h
    exact .inr ⟨.summarize, rfl⟩
  | tell | start | stop | spawn | retire | release =>
    cases h
    exact .inl rfl

/-- **A spoiled lock means that no sample can be counted any more.** -/
theorem Reached.full_of_spoiled (h : Reached start j r)
    (empty : start.shared.aggregator.tally.IsOf capacity [])
    (room : max capacity 1 * durationLimit ≤ doubleWordCount)
    (sound : start.shared.aggregator.spoiled = false) (off : r.shared.aggregator.spoiled = true) :
    wordCount ≤ (added j).length + 1 := by
  induction h with
  | start =>
    rw [sound] at off
    cases off
  | @next past r r' deed before now ih =>
    have tally : r.shared.aggregator.tally.IsOf capacity (added past) := Reached.isOf before empty
    have full : wordCount ≤ (added past).length + 1 := by
      cases before_ : r.shared.aggregator.spoiled with
      | true => exact ih before_
      | false =>
        obtain same | ⟨call, called⟩ := exists_call_of_perform now
        · rw [same, before_] at off
          cases off
        · rw [called] at off
          exact Aggregator.full_of_spoiled tally room before_ off
    rw [added_append, List.length_append]
    omega

/-- The counts only grow. -/
theorem counted_le_of_reached (h : Reached r acts r') (v : Verdict) :
    r.shared.aggregator.tally.counted v ≤ r'.shared.aggregator.tally.counted v := by
  rw [h.books.counted_eq v]
  exact Nat.le_add_right _ _

end Rig

end LoadGen
