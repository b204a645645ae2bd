import LoadGen.Proofs.Rig.Draining
import LoadGen.Proofs.Rig.Signals
import LoadGen.Proofs.Run.Moves
import LoadGen.Run

namespace LoadGen

/-!
# Histories of runs

What is told of a run along its steps: what its tasks do and what the controller does to them.

* `Run.acts`, `Run.journal` — what a step and a sequence of steps add to the journal;
* `Run.Reached` — the runs that can be reached, each with its journal;
* `Run.Reached.rig` — the rig of a run has come about by deeds, so what holds of rigs holds of it;
* `Run.IsNew` — a run before its first step; `Run.Reached.lives`, … — what holds of its tasks.
-/

namespace Run

variable {j : List Rig.Act} {r r' start : Run}

/-- What a step adds to the journal. -/
def acts (r : Run) : Label → List Rig.Act
  | .rig label => r.rig.taskActs label
  | .controller => r.controller.acts r.rig

/-- The journal of some steps. -/
abbrev journal (r : Run) (labels : List Label) : List Rig.Act := Trace.told step acts r labels

/-- The runs that steps lead to, each with its journal. -/
abbrev Reached (start : Run) (j : List Rig.Act) (r : Run) : Prop := Trace.Reached step acts start j r

theorem steps_eq_run (r : Run) (labels : List Label) : r.steps labels = Trace.run step r labels := by
  induction labels generalizing r with
  | nil => rfl
  | cons label labels ih =>
    cases h : r.step label with
    | none => simp [steps, Trace.run, h]
    | some next => simp [steps, Trace.run, h, ih]

theorem reached_of_steps {labels : List Label} (h : r.steps labels = some r') :
    Reached r (r.journal labels) r' := by
  rw [steps_eq_run] at h
  exact Trace.reached_of_run h

/-- Steps lead to a report if that is what they evaluate to. -/
theorem exists_report {labels : List Label}
    (reports : (r.steps labels).any (·.controller.result?.any (·.isOk)) = true) :
    ∃ r' report, r.steps labels = some r' ∧ r'.controller.result? = some (.ok report) := by
  obtain ⟨r', done, ends⟩ := (Option.any_eq_true _ _).mp reports
  obtain ⟨result, came, fine⟩ := (Option.any_eq_true _ _).mp ends
  obtain ⟨report, rfl⟩ := isOk_iff.mp fine
  exact ⟨r', report, done, came⟩

/-- A step of a run: a task moves on the rig, or the controller does. -/
theorem step_cases {label : Label} (h : r.step label = some r') :
    (∃ task, r.acts label = r.rig.taskActs task ∧ r.rig.step task = some r'.rig ∧
        r'.controller = r.controller) ∨
      Controller.Move r.rig r.controller (r.acts label) r'.rig r'.controller := by
  cases label with
  | rig task =>
    simp only [step, Option.map_eq_some_iff] at h
    obtain ⟨rig, moved, rfl⟩ := h
    exact .inl ⟨task, rfl, moved, rfl⟩
  | controller =>
    simp only [step, Option.map_eq_some_iff, Prod.exists] at h
    obtain ⟨rig, controller, moved, rfl⟩ := h
    exact .inr (Controller.move_of_step moved)

/-- **The rig of a run has come about by deeds.** -/
theorem Reached.rig (h : Reached start j r) : Rig.Reached start.rig j r.rig := by
  induction h with
  | start => exact .start
  | next before now ih =>
    obtain ⟨task, told, moved, -⟩ | move := step_cases now
    · rw [told]
      exact ih.trans (Rig.reached_of_perform (.task task) moved)
    · exact ih.trans (Controller.reached_of_move move)

/-! ### Runs from their beginning -/

/-- A run that has nothing on its rig yet. -/
structure IsNew (start : Run) : Prop where
  workers : start.rig.workers = #[]
  collector : start.rig.collector = none
  signal : start.rig.shared.signal = {}
  stage : start.controller.stage = .spawning

theorem isNew_fresh (queueCapacity reservoirCapacity : Nat) (config : RunConfig) (plan : RatePlan)
    (building : List Notice) (description : String) :
    IsNew (fresh queueCapacity reservoirCapacity config plan building description) :=
  ⟨rfl, rfl, rfl, rfl⟩

theorem Reached.lives (new : IsNew start) (h : Reached start j r) : Rig.Lives j r.rig :=
  h.rig.lives new.workers

theorem Reached.manned (new : IsNew start) (h : Reached start j r) : Rig.Manned j r.rig :=
  h.rig.manned new.collector

theorem Reached.heeds (new : IsNew start) (h : Reached start j r) : Rig.Heeds j r.rig :=
  h.rig.heeds new.signal

/-- What a run was begun with stays as it is. -/
theorem Reached.settings_eq (h : Reached start j r) :
    r.controller.config = start.controller.config ∧ r.controller.plan = start.controller.plan ∧
      r.controller.building = start.controller.building := by
  induction h with
  | start => exact ⟨rfl, rfl, rfl⟩
  | next before now ih =>
    obtain ⟨task, -, -, same⟩ | move := step_cases now
    · rw [same]
      exact ih
    · rw [move.config_eq, move.plan_eq, move.building_eq]
      exact ih

end Run

end LoadGen
