import LoadGen.Proofs.Rig.Books

namespace LoadGen

/-!
# The collector leaves nothing behind

A collector reads its stop flag before it looks at the queues.  When it then finds both of them empty,
everything that was queued before it was asked to stop has passed through its hands, whatever is queued
in the meantime.

* `Rig.owed` — what was queued until the collector is asked to stop;
* `Rig.CaughtUp` — all of it has been taken;
* `Rig.Draining` — what a collector at a stage has caught up with;
* `Rig.collector_leaves_nothing` — what a collector that was stopped has added to the tally.
-/

namespace Rig

variable {j more acts : List Act} {r r' start : Rig} {s : Shared} {c c' : Collector}

theorem isPrefix_queued (h : j <+: more) (v : Verdict) :
    latenciesOf v (queued j) <+: latenciesOf v (queued more) := by
  obtain ⟨rest, rfl⟩ := h
  rw [queued_append, latenciesOf_append]
  exact List.prefix_append _ _

/-! ### Catching up -/

/-- The samples that were in the queue of a verdict at first, and those that it took until the collector
    was asked to stop, oldest first. -/
def owed (s : Shared) (j : List Act) (v : Verdict) : List Duration :=
  (s.queue v).toList ++ latenciesOf v (queued (upTo .retired j))

/-- The collector was asked to stop, and has taken everything of a verdict that was queued before. -/
structure CaughtUp (s : Shared) (j : List Act) (v : Verdict) : Prop where
  asked : .retired ∈ j
  taken_owed : owed s j v <+: latenciesOf v (taken j)

theorem CaughtUp.append {v : Verdict} (h : CaughtUp s j v) (more : List Act) :
    CaughtUp s (j ++ more) v where
  asked := List.mem_append_left _ h.asked
  taken_owed := by
    rw [owed, upTo_append h.asked, taken_append, latenciesOf_append]
    exact h.taken_owed.trans (List.prefix_append _ _)

/-- An empty queue holds nothing that was queued at any time before. -/
theorem Books.caughtUp {v : Verdict} {s' : Shared} (books : Books s j s') (asked : .retired ∈ j)
    (empty : (s'.queue v).toList = []) : CaughtUp s j v := by
  refine ⟨asked, ?_⟩
  have all := books.queue_eq v
  rw [empty, List.append_nil] at all
  rw [← all, owed, List.prefix_append_right_inj]
  exact isPrefix_queued (isPrefix_upTo _ j) v

end Rig

/-- Whether a collector saw the stop flag up when it looked at it last. -/
def Collector.Stage.isStopping : Collector.Stage → Bool
  | .success stopping _ | .error stopping _ _ | .holding stopping _ _ => stopping
  | _ => false

theorem Collector.Stage.Polls.isStopping_eq {stage : Stage} {verdict : Verdict} {stopping : Bool}
    {drained : Nat} (h : stage.Polls verdict stopping drained) : stage.isStopping = stopping := by
  cases verdict with
  | success =>
    cases h
    rfl
  | error =>
    obtain ⟨idle, rfl⟩ := h
    rfl

theorem Collector.isStopping_afterAdding (stopping : Bool) (drained : Nat) (verdict : Verdict) :
    (afterAdding stopping drained verdict).isStopping = stopping := by
  cases verdict <;> rfl

namespace Rig

variable {j more acts : List Act} {r r' start : Rig} {s : Shared} {c c' : Collector}

/-- What a collector has caught up with.  Having seen the flag up, it finds the queue of successes
    empty first, and the queue of errors empty last. -/
structure Draining (s : Shared) (j : List Act) (c : Collector) : Prop where
  asked : c.stage.isStopping = true → .retired ∈ j
  success : ∀ drained, c.stage = .error true drained true → CaughtUp s j .success
  ended : ∀ samples, c.stage = .finished (.collected samples) → ∀ v, CaughtUp s j v

namespace Draining

theorem append (h : Draining s j c) (more : List Act) : Draining s (j ++ more) c where
  asked stopping := List.mem_append_left _ (h.asked stopping)
  success drained at_ := (h.success drained at_).append more
  ended samples at_ v := (h.ended samples at_ v).append more

/-- At most stages it is enough to have seen the flag. -/
theorem of_asked (asked : c.stage.isStopping = true → .retired ∈ j)
    (other : ∀ drained, c.stage ≠ .error true drained true)
    (going : ∀ samples, c.stage ≠ .finished (.collected samples)) : Draining s j c where
  asked := asked
  success drained at_ := absurd at_ (other drained)
  ended samples at_ := absurd at_ (going samples)

/-- A step of the collector keeps what it has caught up with.  `books` are those before the step. -/
theorem collected {told : List Collector.Act} {s₀ s' : Shared} (h : Draining s₀ j c)
    (books : Books s₀ j s) (flag : (c.stop || c.released) = true → .retired ∈ j)
    (move : Collector.Move s c told s' c') : Draining s₀ (j ++ told.map .collector) c' := by
  have asked := h.asked
  cases move with
  | looked at_ =>
    refine of_asked (fun stopping => ?_) nofun nofun
    rw [List.map_nil, List.append_nil]
    exact flag stopping
  | took sample at_ next =>
    rw [at_.isStopping_eq] at asked
    exact of_asked (fun stopping => List.mem_append_left _ (asked stopping)) nofun nofun
  | passed at_ empty =>
    -- The queue of successes is empty; if the flag was up before, that part is done.
    rw [List.map_nil, List.append_nil]
    rw [at_] at asked
    refine ⟨asked, fun drained there => ?_, nofun⟩
    cases there
    exact books.caughtUp (asked rfl) empty
  | turned at_ =>
    rw [List.map_nil, List.append_nil]
    rw [at_] at asked
    exact of_asked asked nofun nofun
  | drained at_ some => exact of_asked nofun nofun nofun
  | rested at_ => exact of_asked nofun nofun nofun
  | exited at_ empty =>
    rw [List.map_nil, List.append_nil]
    rw [at_] at asked
    refine ⟨nofun, nofun, fun samples _ v => ?_⟩
    -- The queue of successes may have filled again, but not with anything that is owed.
    cases v with
    | success => exact h.success _ at_
    | error => exact books.caughtUp (asked rfl) empty
  | @added stopping drained slot sample tally at_ fine =>
    rw [at_] at asked
    refine of_asked (fun up => List.mem_append_left _ (asked ?_)) (fun _ => ?_) (fun _ => ?_)
    · rw [Collector.isStopping_afterAdding] at up
      exact up
    · cases sample.verdict <;> nofun
    · exact Collector.afterAdding_ne_finished _
  | @failed _ _ _ _ failure at_ tally dropped why =>
    cases failure <;> exact of_asked nofun nofun nofun
  | woke at_ => exact of_asked nofun nofun nofun

theorem move {s₀ : Shared} (h : ∀ c, r.collector = some c → Draining s₀ j c)
    (books : Books s₀ j r.shared) (manned : Manned j r) (move : Move r acts r')
    (here : r'.collector = some c') : Draining s₀ (j ++ acts) c' := by
  cases move with
  | nothing | passed _ | told _ | started | stopped | offered _ | spawned _ | calledOff _ _ | read _ _
  | worked _ _ => exact (h c' here).append _
  | manned vacant =>
    cases here
    exact of_asked nofun nofun nofun
  | collected there step =>
    cases here
    exact (h _ there).collected books (manned.asked _ there) (Collector.move_of_step step)
  | retired there asked =>
    cases here
    have kept := (h _ there).append [.retired]
    exact ⟨kept.asked, kept.success, kept.ended⟩

end Draining

/-- **A collector that is told to stop catches up before it ends.** -/
theorem Reached.draining (none : start.collector = none) (h : Reached start j r) :
    ∀ c, r.collector = some c → Draining start.shared j c := by
  induction h with
  | start =>
    intro c here
    rw [none] at here
    cases here
  | next before now ih =>
    intro c here
    exact Draining.move ih (Reached.books before) (Reached.manned none before) (move_of_perform now) here

/-! ### What is left behind -/

/-- A collector that ends without an error was asked to stop.  It has then added every sample that was
    queued before, in the order of its queue and for its own verdict, and nothing that no queue has
    taken.  It ends with their number, and by that number the tally has grown. -/
theorem Reached.leaves_nothing {samples : Nat} (none : start.collector = none)
    (h : Reached start j r) (here : r.collector = some c)
    (ended : c.ending? = some (.collected samples)) :
    .retired ∈ j ∧
    (∀ v, owed start.shared j v <+: latenciesOf v (added j) ∧
      latenciesOf v (added j) <+: (start.shared.queue v).toList ++ latenciesOf v (queued j)) ∧
    samples = (added j).length ∧
    (∀ v, r.shared.aggregator.tally.counted v =
      start.shared.aggregator.tally.counted v + (latenciesOf v (added j)).length) := by
  have at_ := Collector.stage_of_ending? ended
  have books := h.books
  have keeps := ((h.manned none).life c here).keeps
  have caught := (h.draining none c here).ended samples at_
  have taken_eq : taken j = added j := by
    have eq := keeps.taken_eq (by rw [at_]; rfl)
    rw [at_] at eq
    exact eq.trans (List.append_nil _)
  have collected : samples = (added j).length := by
    have eq := keeps.collected_eq (by rw [at_]; rfl)
    rw [at_] at eq
    exact (keeps.ending_eq samples at_).trans eq
  refine ⟨(caught .success).asked, fun v => ⟨?_, ?_⟩, collected, books.counted_eq⟩
  · rw [← taken_eq]
    exact (caught v).taken_owed
  · rw [books.queue_eq v, taken_eq]
    exact List.prefix_append _ _

/-- **The collector leaves nothing behind.**  Samples come in any order and number, from workers and
    from others, before, while and after the collector is asked to stop.  When it has ended without an
    error, all that was queued before it was asked is in the tally, once and under its own verdict, and
    nothing that was never queued; the number it ends with is the number of samples it added, which is
    what the counts of the tally have grown by. -/
theorem collector_leaves_nothing_behind {start r : Rig} (deeds : List Deed) {samples : Nat}
    (none : start.collector = none) (done : start.performAll deeds = some r)
    (ended : r.collector.bind Collector.ending? = some (.collected samples)) :
    (∀ v, owed start.shared (start.journal deeds) v <+:
        latenciesOf v (added (start.journal deeds)) ∧
      latenciesOf v (added (start.journal deeds)) <+:
        (start.shared.queue v).toList ++ latenciesOf v (queued (start.journal deeds))) ∧
    samples = (added (start.journal deeds)).length ∧
    (∀ v, r.shared.aggregator.tally.counted v = start.shared.aggregator.tally.counted v +
      (latenciesOf v (added (start.journal deeds))).length) ∧
    r.shared.aggregator.tally.success + r.shared.aggregator.tally.error =
      start.shared.aggregator.tally.success + start.shared.aggregator.tally.error + samples := by
  have reached : Reached start (start.journal deeds) r := Trace.reached_of_run done
  obtain ⟨c, here, ended⟩ := Option.bind_eq_some_iff.mp ended
  obtain ⟨-, caught, collected, counted⟩ := reached.leaves_nothing none here ended
  refine ⟨caught, collected, counted, ?_⟩
  have success := counted .success
  have error := counted .error
  have total := length_latenciesOf (added (start.journal deeds))
  simp only [Tally.counted] at success error
  omega

/-- Samples before and after the request to stop.  The second success comes while the collector is
    busy, and the third when it has found the queue of successes empty for the last time. -/
def lateDeeds : List Deed :=
  [.offer ⟨.clamped 5, .success⟩, .collect, .task (.collector .look), .offer ⟨.clamped 7, .error⟩,
    .task (.collector .pollSuccess), .retire, .task (.collector (.add 0)), .offer ⟨.clamped 9, .success⟩,
    .task (.collector .pollError), .task (.collector (.add 0)), .task (.collector .pollSuccess),
    .task (.collector (.add 0)), .task (.collector .pollError), .task (.collector .pollSuccess),
    .task (.collector .pollError), .task (.collector .look), .task (.collector .pollSuccess),
    .offer ⟨.clamped 11, .success⟩, .task (.collector .pollError)]

theorem collector_leaves_nothing_behind_lateDeeds :
    ∃ r, ({ shared := .fresh 2 4 } : Rig).performAll lateDeeds = some r ∧
      r.collector.bind Collector.ending? = some (.collected 3) ∧
      r.shared.aggregator.tally.success + r.shared.aggregator.tally.error = 0 + 0 + 3 := by
  have able : (({ shared := .fresh 2 4 } : Rig).performAll lateDeeds).isSome = true := rfl
  have done := (Option.some_get able).symm
  refine ⟨_, done, rfl, ?_⟩
  exact (collector_leaves_nothing_behind lateDeeds rfl done rfl).2.2.2

end Rig

end LoadGen
