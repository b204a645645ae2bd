import LoadGen.Collector

namespace LoadGen

/-!
# The story of a collector

What a collector takes out of the queues and what it adds to the tally.

* `Collector.Act` — one thing that can be told, and `Collector.acts` what one step adds to the story;
* `Collector.Move` — everything a step can do; `move_of_step` says that there is nothing else;
* `Collector.Life` — a collector from its first step on, whatever the others do meanwhile;
* `Collector.Keeps` — a collector that has not failed has added what it took, but for a sample in its
  hand, and counts what it added.
-/

namespace Collector

/-- What can be told of a collector. -/
inductive Act where
  /-- It takes a sample out of its queue. -/
  | took (sample : Sample)
  /-- It adds a sample to the tally. -/
  | added (sample : Sample)
  deriving DecidableEq

/-- What a step adds to the story. -/
def acts (s : Shared) (c : Collector) (event : Event) : List Act :=
  match event, c.stage with
  | .pollSuccess, .success .. => s.success.take?.toList.map fun next => .took ⟨next.1, .success⟩
  | .pollError, .error .. => s.error.take?.toList.map fun next => .took ⟨next.1, .error⟩
  | .add slot, .holding _ _ sample =>
    match (s.aggregator.append sample slot).2 with
    | .ok () => [.added sample]
    | .error _ => []
  | _, _ => []

/-- The stage at which a collector polls the queue of a verdict. -/
def Stage.Polls (stage : Stage) (verdict : Verdict) (stopping : Bool) (drained : Nat) : Prop :=
  match verdict with
  | .success => stage = .success stopping drained
  | .error => ∃ idle, stage = .error stopping drained idle

theorem Stage.Polls.ne_finished {stage : Stage} {verdict : Verdict} {stopping : Bool} {drained : Nat}
    {ending : CollectorEnding} (h : stage.Polls verdict stopping drained) :
    stage ≠ .finished ending := by
  rintro rfl
  cases verdict with
  | success => cases h
  | error =>
    obtain ⟨idle, h⟩ := h
    cases h

/-! ### What a step can do -/

/-- A step of a collector, with what it adds to the story. -/
inductive Move (s : Shared) (c : Collector) : List Act → Shared → Collector → Prop where
  | looked (at_ : c.stage = .looking) :
      Move s c [] s { c with stage := .success (c.stop || c.released) 0 }
  | took (sample : Sample) {stopping : Bool} {drained : Nat} {queue : Queue Duration}
      (at_ : c.stage.Polls sample.verdict stopping drained)
      (next : (s.queue sample.verdict).take? = some (sample.latency, queue)) :
      Move s c [.took sample] (s.setQueue sample.verdict queue)
        { c with stage := .holding stopping drained sample }
  | passed {stopping : Bool} {drained : Nat} (at_ : c.stage = .success stopping drained)
      (empty : s.success.toList = []) :
      Move s c [] s { c with stage := .error stopping drained true }
  | turned {stopping : Bool} {drained : Nat} (at_ : c.stage = .error stopping drained false) :
      Move s c [] s { c with stage := .success stopping drained }
  | drained {stopping : Bool} {drained : Nat} (at_ : c.stage = .error stopping drained true)
      (some : drained ≠ 0) :
      Move s c [] s { c with collected := c.collected + drained, stage := .looking }
  | rested {wake : Nat} (at_ : c.stage = .error false 0 true) :
      Move s c [] s { c with stage := .resting wake }
  | exited (at_ : c.stage = .error true 0 true) (empty : s.error.toList = []) :
      Move s c [] (s.tell (.collectorExiting c.collected)).closeQueues
        { c with stage := .finished (.collected c.collected) }
  | added {stopping : Bool} {drained slot : Nat} {sample : Sample} {tally : Tally}
      (at_ : c.stage = .holding stopping drained sample)
      (fine : s.aggregator.tally.append sample slot = .ok tally) :
      Move s c [.added sample] { s with aggregator := { s.aggregator with tally } }
        { c with stage := afterAdding stopping (drained + 1) sample.verdict }
  | failed {stopping : Bool} {drained : Nat} {sample : Sample} {aggregator : Aggregator}
      {failure : Failure RunError} (at_ : c.stage = .holding stopping drained sample)
      (tally : aggregator.tally = s.aggregator.tally)
      (dropped : aggregator.dropped = s.aggregator.dropped)
      (why : failure = .refused .poisoned ∨ ∃ fault, failure = .broken fault) :
      Move s c [] { s with aggregator }.closeQueues
        { c with stage := .finished (failedWith failure) }
  | woke {wake : Nat} (at_ : c.stage = .resting wake) : Move s c [] s { c with stage := .looking }

/-- **A step does what one of the moves says.** -/
theorem move_of_step {s s' : Shared} {c c' : Collector} {event : Event}
    (h : step s c event = some (s', c')) : Move s c (acts s c event) s' c' := by
  cases event with
  | look =>
    cases at_ : c.stage <;> simp [step, at_] at h
    obtain ⟨rfl, rfl⟩ := h
    exact .looked at_
  | pollSuccess =>
    cases at_ : c.stage <;> simp [step, at_] at h
    rename_i stopping drained
    simp only [acts, at_]
    split at h <;> rename_i next <;> obtain ⟨rfl, rfl⟩ := Prod.mk.inj (Option.some.inj h) <;>
      rw [next]
    · exact .took ⟨_, .success⟩ at_ next
    · exact .passed at_ (Queue.take?_eq_none_iff.mp next)
  | pollError =>
    cases at_ : c.stage <;> simp [step, at_] at h
    rename_i stopping drained idle
    simp only [acts, at_]
    split at h <;> rename_i next <;> rw [next]
    · obtain ⟨rfl, rfl⟩ := Prod.mk.inj (Option.some.inj h)
      exact .took ⟨_, .error⟩ ⟨idle, at_⟩ next
    · -- A turn has ended; what comes next depends on what was found in it, and since the last look.
      have empty := Queue.take?_eq_none_iff.mp next
      unfold turn at h
      cases idle with
      | false =>
        obtain ⟨rfl, rfl⟩ := Prod.mk.inj (Option.some.inj h)
        exact .turned at_
      | true =>
        simp only [Bool.not_true, Bool.false_eq_true, if_false] at h
        split at h
        · obtain ⟨rfl, rfl⟩ := Prod.mk.inj (Option.some.inj h)
          exact .drained at_ (by simp_all)
        · have none : drained = 0 := by simp_all
          subst none
          split at h <;> obtain ⟨rfl, rfl⟩ := Prod.mk.inj (Option.some.inj h)
          · rename_i stopping
            subst stopping
            exact .exited at_ empty
          · rename_i going
            rw [eq_false_of_ne_true going] at at_
            exact .rested at_
  | add slot =>
    cases at_ : c.stage <;> simp [step, at_] at h
    rename_i stopping drained sample
    simp only [acts, at_]
    unfold addSample at h
    split at h <;> rename_i answer <;> obtain ⟨rfl, rfl⟩ := Prod.mk.inj h <;> rw [answer]
    · obtain ⟨tally, fine, rfl⟩ := Aggregator.append_eq_ok answer
      exact .added at_ fine
    · obtain ⟨tally, dropped, why⟩ := Aggregator.under_eq_error answer
      exact .failed at_ tally dropped why
  | wake =>
    cases at_ : c.stage <;> simp [step, at_] at h
    obtain ⟨-, rfl, rfl⟩ := h
    exact .woke at_

/-- Only its owner asks a collector to stop. -/
theorem Move.asked_eq {acts : List Act} {s s' : Shared} {c c' : Collector}
    (move : Move s c acts s' c') : (c'.stop || c'.released) = (c.stop || c.released) := by
  cases move <;> rfl

theorem Move.signal_eq {acts : List Act} {s s' : Shared} {c c' : Collector}
    (move : Move s c acts s' c') : s'.signal = s.signal := by
  cases move with
  | took => exact Shared.signal_setQueue ..
  | looked | passed | turned | drained | rested | exited | added | failed | woke => rfl

theorem afterAdding_ne_finished {stopping : Bool} {drained : Nat} (verdict : Verdict)
    {ending : CollectorEnding} : afterAdding stopping drained verdict ≠ .finished ending := by
  cases verdict <;> nofun

theorem Move.now_eq {acts : List Act} {s s' : Shared} {c c' : Collector}
    (move : Move s c acts s' c') : s'.now = s.now := by
  cases move with
  | took => exact Shared.now_setQueue ..
  | looked | passed | turned | drained | rested | exited | added | failed | woke => rfl

theorem Move.audits_eq {acts : List Act} {s s' : Shared} {c c' : Collector}
    (move : Move s c acts s' c') : s'.audits = s.audits := by
  cases move with
  | took => exact Shared.audits_setQueue ..
  | looked | passed | turned | drained | rested | exited | added | failed | woke => rfl

/-- A collector that is over makes no move. -/
theorem Move.alive {acts : List Act} {s s' : Shared} {c c' : Collector} {ending : CollectorEnding}
    (move : Move s c acts s' c') : c.stage ≠ .finished ending := by
  intro finished
  cases move with
  | took _ at_ _ => exact at_.ne_finished finished
  | looked at_ | passed at_ _ | turned at_ | drained at_ _ | rested at_ | exited at_ _ | added at_ _
  | failed at_ _ _ _ | woke at_ =>
    rw [finished] at at_
    cases at_

theorem stage_of_ending? {c : Collector} {ending : CollectorEnding} (h : c.ending? = some ending) :
    c.stage = .finished ending := by
  unfold ending? at h
  split at h
  · cases h
    assumption
  · cases h

/-! ### Lives -/

/-- A collector with its story so far.  The shared state is any at each step, so the others may do what
    they like in between, and its owner may stop it or let go of it. -/
inductive Life : List Act → Collector → Prop where
  | spawned : Life [] {}
  | step {told : List Act} {s s' : Shared} {c c' : Collector} {event : Event} (life : Life told c)
      (next : Collector.step s c event = some (s', c')) : Life (told ++ acts s c event) c'
  | retired {told : List Act} {c : Collector} (stop released : Bool) (life : Life told c) :
      Life told { c with stop, released }

theorem Move.failed_eq {acts : List Act} {s s' : Shared} {c c' : Collector} {error : RunError}
    (move : Move s c acts s' c') (at_ : c'.stage = .finished (.failed error)) : error = .poisoned := by
  cases move with
  | failed _ _ _ why =>
    obtain rfl | ⟨fault, rfl⟩ := why <;> cases at_
    rfl
  | @added _ _ _ sample _ _ _ => cases afterAdding_ne_finished sample.verdict at_
  | looked | took | passed | turned | drained | rested | exited | woke => cases at_

/-- A collector fails with no error but that of a spoiled tally. -/
theorem Life.failed_eq {told : List Act} {c : Collector} {error : RunError} (life : Life told c)
    (at_ : c.stage = .finished (.failed error)) : error = .poisoned := by
  induction life with
  | spawned => cases at_
  | retired stop released life ih => exact ih at_
  | step life next ih => exact (move_of_step next).failed_eq at_

/-! ### The books of a collector -/

/-- The sample that a collector takes. -/
def Act.took? : Act → Option Sample
  | .took sample => some sample
  | .added _ => none

/-- The sample that a collector adds to the tally. -/
def Act.added? : Act → Option Sample
  | .took _ => none
  | .added sample => some sample

/-- The samples that were taken out of the queues, oldest first. -/
def taken (told : List Act) : List Sample := told.filterMap Act.took?

/-- The samples that were added to the tally, oldest first. -/
def added (told : List Act) : List Sample := told.filterMap Act.added?

@[simp] theorem taken_append (told more : List Act) : taken (told ++ more) = taken told ++ taken more :=
  List.filterMap_append

@[simp] theorem added_append (told more : List Act) : added (told ++ more) = added told ++ added more :=
  List.filterMap_append

/-- The sample in the hand of a collector. -/
def Stage.hand : Stage → List Sample
  | .holding _ _ sample => [sample]
  | _ => []

/-- Samples that were added since the last look at the stop flag. -/
def Stage.drained : Stage → Nat
  | .success _ drained | .error _ drained _ | .holding _ drained _ => drained
  | _ => 0

/-- Whether a collector has ended otherwise than by being stopped. -/
def Stage.isFailed : Stage → Bool
  | .finished (.failed _) | .finished (.panicked _) => true
  | _ => false

theorem Stage.Polls.empty_handed {stage : Stage} {verdict : Verdict} {stopping : Bool} {drained : Nat}
    (h : stage.Polls verdict stopping drained) :
    stage.isFailed = false ∧ stage.hand = [] ∧ stage.drained = drained := by
  cases verdict with
  | success =>
    cases h
    exact ⟨rfl, rfl, rfl⟩
  | error =>
    obtain ⟨idle, rfl⟩ := h
    exact ⟨rfl, rfl, rfl⟩

section AfterAdding

variable {stopping : Bool} {drained : Nat} (verdict : Verdict)

theorem hand_afterAdding : (afterAdding stopping drained verdict).hand = [] := by
  cases verdict <;> rfl

theorem drained_afterAdding : (afterAdding stopping drained verdict).drained = drained := by
  cases verdict <;> rfl

end AfterAdding

theorem isFailed_failedWith (failure : Failure RunError) :
    (Stage.finished (failedWith failure)).isFailed = true := by
  cases failure <;> rfl

/-- A collector that has not failed has added what it took, in order, but for the sample in its hand.
    It counts what it adds, and that is what it ends with. -/
structure Keeps (told : List Act) (c : Collector) : Prop where
  taken_eq : c.stage.isFailed = false → taken told = added told ++ c.stage.hand
  collected_eq : c.stage.isFailed = false → c.collected + c.stage.drained = (added told).length
  ending_eq : ∀ samples, c.stage = .finished (.collected samples) → samples = c.collected

namespace Keeps

variable {told acts : List Act} {c c' : Collector}

/-- A move that neither takes a sample nor adds one leaves the books as they are. -/
theorem idle (h : Keeps told c) (alive : c.stage.isFailed = false) (before : c.stage.hand = [])
    (after : c'.stage.hand = [])
    (same : c'.collected + c'.stage.drained = c.collected + c.stage.drained)
    (own : ∀ samples, c'.stage = .finished (.collected samples) → samples = c'.collected) :
    Keeps (told ++ []) c' where
  taken_eq _ := by rw [List.append_nil, h.taken_eq alive, before, after]
  collected_eq _ := by rw [List.append_nil, same, h.collected_eq alive]
  ending_eq := own

/-- A move keeps the books. -/
theorem move {s s' : Shared} (h : Keeps told c) (move : Move s c acts s' c') :
    Keeps (told ++ acts) c' := by
  cases move with
  | looked at_ | passed at_ _ | turned at_ | rested at_ | woke at_ =>
    exact h.idle (by rw [at_]; rfl) (by rw [at_]; rfl) rfl (by rw [at_]; rfl) nofun
  | drained at_ some => exact h.idle (by rw [at_]; rfl) (by rw [at_]; rfl) rfl (by rw [at_]; rfl) nofun
  | exited at_ empty =>
    refine h.idle (by rw [at_]; rfl) (by rw [at_]; rfl) rfl (by rw [at_]; rfl) ?_
    rintro _ ⟨⟩
    rfl
  | took sample at_ next =>
    obtain ⟨alive, none, drained⟩ := at_.empty_handed
    refine ⟨fun _ => ?_, fun _ => ?_, nofun⟩
    · rw [taken_append, h.taken_eq alive, none, added_append]
      simp [taken, added, Act.took?, Act.added?, Stage.hand]
    · rw [added_append, List.length_append, ← h.collected_eq alive, drained]
      rfl
  | added at_ fine =>
    have alive : c.stage.isFailed = false := by rw [at_]; rfl
    have taken := h.taken_eq alive
    have collected := h.collected_eq alive
    rw [at_] at taken collected
    refine ⟨fun _ => ?_, fun _ => ?_, fun _ gone => ?_⟩
    · rw [taken_append, added_append, taken, hand_afterAdding, List.append_nil]
      exact List.append_nil _
    · rw [added_append, List.length_append, ← collected, drained_afterAdding]
      rfl
    · exact absurd gone (afterAdding_ne_finished _)
  | @failed _ _ _ _ failure at_ tally dropped why =>
    rw [List.append_nil]
    have broken := isFailed_failedWith failure
    refine ⟨fun alive => ?_, fun alive => ?_, fun _ gone => ?_⟩
    · cases broken.symm.trans alive
    · cases broken.symm.trans alive
    · rw [show Stage.finished (failedWith failure) = _ from gone] at broken
      cases broken

end Keeps

/-- **Every collector keeps the books of its samples.** -/
theorem Life.keeps {told : List Act} {c : Collector} (life : Life told c) : Keeps told c := by
  induction life with
  | spawned => exact ⟨fun _ => rfl, fun _ => rfl, nofun⟩
  | step life next ih => exact ih.move (move_of_step next)
  | retired stop released life ih => exact ⟨ih.taken_eq, ih.collected_eq, ih.ending_eq⟩

end Collector

end LoadGen
