import LoadGen.Proofs.Rig.Lives

namespace LoadGen

/-!
# Signals and workers

No worker goes past the barrier before the start or the stop is given, and none runs unless the start
was given.

* `Rig.Heeds` — what the journal says of the signal, and of those who wait for it;
* `Rig.Reached.heeds` — it says so along every journal of a rig with a new signal.
-/

namespace Rig

variable {j acts : List Act} {r r' start : Rig}

/-- The signal is as the journal says, and the workers heed it. -/
structure Heeds (j : List Act) (r : Rig) : Prop where
  /-- Nothing is given yet: the signal is new and nobody was released. -/
  fresh : .started ∉ j → (∀ now, .stopped now ∉ j) → r.shared.signal = {}
  held : .started ∉ j → (∀ now, .stopped now ∉ j) → ∀ id phase, .worker id (.released phase) ∉ j
  running : r.shared.signal.phase = .running → .started ∈ j
  released : ∀ id, .worker id (.released .running) ∈ j → .started ∈ j

namespace Heeds

/-- A deed that leaves the signal alone, and releases workers only as the signal says. -/
theorem carry (h : Heeds j r) (same : r'.shared.signal = r.shared.signal)
    (heard : ∀ id phase, .worker id (.released phase) ∈ acts →
      r.shared.signal.startedAs? = some phase) : Heeds (j ++ acts) r' := by
  refine ⟨fun early going => ?_, fun early going id phase mem => ?_, fun running => ?_,
    fun id mem => ?_⟩
  · rw [same]
    exact h.fresh (fun mem => early (List.mem_append_left _ mem))
      fun now mem => going now (List.mem_append_left _ mem)
  · have early' : .started ∉ j := fun mem => early (List.mem_append_left _ mem)
    have going' : ∀ now, .stopped now ∉ j := fun now mem => going now (List.mem_append_left _ mem)
    obtain old | new := List.mem_append.mp mem
    · exact h.held early' going' id phase old
    · -- A new signal lets nobody go.
      have told := heard id phase new
      rw [h.fresh early' going'] at told
      cases told
  · rw [same] at running
    exact List.mem_append_left _ (h.running running)
  · obtain old | new := List.mem_append.mp mem
    · exact List.mem_append_left _ (h.released id old)
    · have running := Signal.phase_of_startedAs? (heard id .running new)
      exact List.mem_append_left _ (h.running running)

/-- A deed that leaves the signal alone and releases nobody. -/
theorem idle (h : Heeds j r) (same : r'.shared.signal = r.shared.signal)
    (none : ∀ id phase, .worker id (.released phase) ∉ acts) : Heeds (j ++ acts) r' :=
  h.carry same fun id phase mem => absurd mem (none id phase)

/-- A step of a worker, which is released only as the signal says. -/
theorem worked {told : List Worker.Act} {event : Worker.Event} {w w' : Worker} (h : Heeds j r)
    (index : Nat) (move : Worker.Move r.shared w event told r'.shared w') :
    Heeds (j ++ told.map (.worker index)) r' := by
  refine h.carry (Worker.leaves_of_move move).signal_eq fun id phase mem => ?_
  obtain ⟨act, mem, eq⟩ := List.mem_map.mp mem
  cases eq
  exact Worker.startedAs?_of_move move mem

theorem move (h : Heeds j r) (move : Move r acts r') : Heeds (j ++ acts) r' := by
  cases move with
  | nothing | passed _ | told _ | spawned _ | calledOff _ _ | manned _ | retired _ _ | read _ _ =>
    exact h.idle rfl (by simp)
  | offered taken => exact h.idle (Shared.signal_setQueue ..) (by simp)
  | collected here step => exact h.idle (Collector.move_of_step step).signal_eq (by simp)
  | worked here step => exact h.worked _ (Worker.move_of_step step)
  | started =>
    have now : Act.started ∈ j ++ [.started] := List.mem_append_right _ (List.mem_singleton_self _)
    exact ⟨fun early => absurd now early, fun early => absurd now early, fun _ => now, fun _ _ => now⟩
  | stopped =>
    have now : Act.stopped r.shared.now ∈ j ++ [.stopped r.shared.now] :=
      List.mem_append_right _ (List.mem_singleton_self _)
    refine ⟨fun _ going => absurd now (going _), fun _ going => absurd now (going _), nofun,
      fun id mem => ?_⟩
    have old : .worker id (.released .running) ∈ j :=
      (List.mem_append.mp mem).resolve_right (by simp)
    exact List.mem_append_left _ (h.released id old)

end Heeds

/-- **The workers of a rig with a new signal heed it.** -/
theorem Reached.heeds (fresh : start.shared.signal = {}) (h : Reached start j r) : Heeds j r := by
  induction h with
  | start => exact ⟨fun _ _ => fresh, by simp, by simp [fresh], by simp⟩
  | next before now ih => exact ih.move (move_of_perform now)

end Rig

end LoadGen
