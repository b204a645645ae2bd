import LoadGen.Proofs.Config.Registration
import LoadGen.Proofs.Run.Barrier
import LoadGen.Staffing

namespace LoadGen

/-!
# Runs with the engines of a registry

Whatever was registered in which order, a registry answers all questions alike, and builds an engine by
the factory that was registered last under its name.  So a run whose configuration was accepted finds its
engine every time, and never ends because the name of the engine is unknown.

* `Registry.build_eq_some_iff`, `Registry.build_eq_none_iff` — what is built, and when nothing is;
* `Run.Sound`, `Run.Sound.stepFrom`, `Run.Sound.stepsFrom` — how far a run with a registry comes, which a
  step keeps up, and so do all steps;
* `Run.stepsFrom_eq_steps` — with an engine it goes the way of a run that needs no registry;
* `Registry.is_coherent` — what follows for every history of registrations.
-/

variable {α : Type}

namespace Registry

variable {registry : Registry (Factory α)} {history : List (String × Factory α)} {config : RunConfig}

/-- An engine comes from the last factory that was registered under its name. -/
theorem build_eq_some_iff {built : Except Fault α} :
    (ofHistory history).build config = some built ↔
      ∃ factory, IsLast history config.engine factory ∧ factory config = built := by
  unfold build
  simp only [Option.map_eq_some_iff, find?_eq_some_iff]

theorem build_eq_none_iff :
    (ofHistory history).build config = none ↔ ¬ IsRegistered history config.engine := by
  unfold build
  rw [Option.map_eq_none_iff, ← contains_ofHistory]
  unfold contains
  simp

/-- An engine is returned if its name was registered, unless its factory breaks off. -/
theorem exists_client_iff
    (answers : ∀ factory, IsLast history config.engine factory → ∃ client, factory config = .ok client) :
    (∃ client, (ofHistory history).build config = some (.ok client)) ↔
      IsRegistered history config.engine := by
  constructor
  · rintro ⟨client, built⟩
    obtain ⟨factory, last, -⟩ := build_eq_some_iff.mp built
    exact ⟨factory, last.mem⟩
  · intro registered
    obtain ⟨factory, last⟩ := registered.exists_isLast
    obtain ⟨client, answer⟩ := answers factory last
    exact ⟨client, build_eq_some_iff.mpr ⟨factory, last, answer⟩⟩

/-- An accepted configuration names a factory, so only a fault keeps its engine from being built. -/
theorem obstacle?_of_accepted {plan : RatePlan} {failure : Failure RunError}
    (accepted : config.validate registry = .ok plan) (obstacle : registry.obstacle? config = some failure) :
    ∃ fault, failure = .broken fault := by
  have known := contains_iff.mpr (RunConfig.isRunnable_of_ok accepted).engine
  obtain ⟨factory, found⟩ := Option.isSome_iff_exists.mp known
  unfold obstacle? build at obstacle
  rw [found, Option.map_some] at obstacle
  cases built : factory config with
  | ok client =>
    rw [built] at obstacle
    cases obstacle
  | error fault =>
    rw [built] at obstacle
    exact ⟨fault, (Option.some.inj obstacle).symm⟩

end Registry

theorem Controller.isSpawning_iff {r : Rig} {c : Controller} :
    c.isSpawning r = true ↔ c.stage = .spawning ∧ r.workers.size < c.config.threads.toNat := by
  unfold isSpawning
  cases c.stage <;> simp

namespace Run

variable {registry : Registry (Factory α)} {start r r' : Run} {j : List Rig.Act} {label : Label}
  {plan : RatePlan}

/-! ### One step -/

/-- A step with a registry is a step, or the end of a run that has no engine for the next worker. -/
theorem stepFrom_cases (h : r.stepFrom registry label = some r') :
    r.step label = some r' ∨
      r.controller.stage = .spawning ∧
        ∃ failure, registry.obstacle? r.controller.config = some failure ∧
          r'.controller.stage = .finished (.error failure) := by
  cases label with
  | rig task => exact .inl h
  | controller =>
    obtain ⟨⟨rig, c⟩, moved, rfl⟩ := Option.map_eq_some_iff.mp h
    have plain (moved : Controller.step r.rig r.controller = some (rig, c)) :
        r.step .controller = some ⟨rig, c⟩ :=
      Option.map_eq_some_iff.mpr ⟨_, moved, rfl⟩
    unfold Controller.stepFrom at moved
    split at moved
    · rename_i spawning
      split at moved
      · rename_i failure obstacle
        cases moved
        exact .inr ⟨(Controller.isSpawning_iff.mp spawning).1, failure, obstacle, rfl⟩
      · exact .inl (plain moved)
    · exact .inl (plain moved)

/-- With an engine it is just a step. -/
theorem stepFrom_eq_step (free : registry.obstacle? r.controller.config = none) (label : Label) :
    r.stepFrom registry label = r.step label := by
  cases label with
  | rig task => rfl
  | controller =>
    have same : r.controller.stepFrom registry r.rig = Controller.step r.rig r.controller := by
      unfold Controller.stepFrom
      rw [free]
      exact ite_self _
    unfold stepFrom
    rw [same]
    rfl

/-- Without an engine it is the end of the run. -/
theorem stepFrom_of_obstacle {failure : Failure RunError} (at_ : r.controller.stage = .spawning)
    (short : r.rig.workers.size < r.controller.config.threads.toNat)
    (obstacle : registry.obstacle? r.controller.config = some failure) :
    ∃ r', r.stepFrom registry .controller = some r' ∧
      r'.controller.result? = some (.error failure) := by
  have spawning := Controller.isSpawning_iff.mpr ⟨at_, short⟩
  unfold stepFrom Controller.stepFrom
  rw [if_pos spawning, obstacle]
  exact ⟨_, rfl, rfl⟩

theorem config_of_step (h : r.step label = some r') : r'.controller.config = r.controller.config := by
  obtain ⟨task, -, -, same⟩ | move := step_cases h
  · rw [same]
  · exact move.config_eq

/-- A run that is over stays as it ended. -/
theorem stage_of_step_finished {result : RunResult} (ended : r.controller.stage = .finished result)
    (h : r.step label = some r') : r'.controller.stage = .finished result := by
  cases label with
  | rig task =>
    obtain ⟨rig, -, rfl⟩ := Option.map_eq_some_iff.mp h
    exact ended
  | controller =>
    obtain ⟨next, moved, -⟩ := Option.map_eq_some_iff.mp h
    unfold Controller.step at moved
    rw [ended] at moved
    cases moved

/-! ### Whole runs -/

/-- Either a run has come as far as it would with any engines, or it broke off with a factory. -/
def Sound (start r : Run) : Prop :=
  (∃ j, Reached start j r) ∨ ∃ fault, r.controller.stage = .finished (.error (.broken fault))

/-- An accepted configuration keeps a step from ending the run otherwise. -/
theorem Sound.stepFrom (h : Sound start r)
    (accepted : start.controller.config.validate registry = .ok plan)
    (now : r.stepFrom registry label = some r') : Sound start r' := by
  rcases stepFrom_cases now with step | ⟨spawning, failure, obstacle, ended⟩
  · rcases h with ⟨j, reached⟩ | ⟨fault, ended⟩
    · exact .inl ⟨_, reached.next step⟩
    · exact .inr ⟨fault, stage_of_step_finished ended step⟩
  · rcases h with ⟨j, reached⟩ | ⟨fault, done⟩
    · rw [reached.settings_eq.1] at obstacle
      obtain ⟨fault, rfl⟩ := Registry.obstacle?_of_accepted accepted obstacle
      exact .inr ⟨fault, ended⟩
    · -- A run that is over spawns nobody.
      rw [done] at spawning
      cases spawning

theorem stepsFrom_cons {labels : List Label} :
    r.stepsFrom registry (label :: labels) = some r' ↔
      ∃ next, r.stepFrom registry label = some next ∧ next.stepsFrom registry labels = some r' :=
  Option.bind_eq_some_iff

/-- **So does it with all steps.** -/
theorem Sound.stepsFrom {labels : List Label} (h : Sound start r)
    (accepted : start.controller.config.validate registry = .ok plan)
    (done : r.stepsFrom registry labels = some r') : Sound start r' := by
  induction labels generalizing r with
  | nil =>
    cases done
    exact h
  | cons label labels ih =>
    obtain ⟨next, now, later⟩ := stepsFrom_cons.mp done
    exact ih (h.stepFrom accepted now) later

/-- No run of which every engine is built ends with its configuration. -/
theorem Reached.result_ne_config (new : IsNew start) (h : Reached start j r) (cause : ConfigError) :
    r.controller.result? ≠ some (refuse (.config cause)) := by
  intro came
  have stage := h.atBarrier new
  rw [Controller.stage_of_result? came] at stage
  obtain ⟨-, ⟨-, error, eq, blamed⟩ | ⟨-, late⟩⟩ := stage
  · cases eq
    cases blamed
  · cases late _ rfl

theorem Sound.result_ne_config (new : IsNew start) (h : Sound start r) (cause : ConfigError) :
    r.controller.result? ≠ some (refuse (.config cause)) := by
  rcases h with ⟨j, reached⟩ | ⟨fault, ended⟩
  · exact reached.result_ne_config new cause
  · unfold Controller.result?
    rw [ended]
    exact nofun

/-- **With an engine a run goes the way of a run that needs no registry.** -/
theorem stepsFrom_eq_steps (free : registry.obstacle? r.controller.config = none)
    (labels : List Label) : r.stepsFrom registry labels = r.steps labels := by
  induction labels generalizing r with
  | nil => rfl
  | cons label labels ih =>
    unfold stepsFrom steps
    rw [stepFrom_eq_step free]
    cases now : r.step label with
    | none => rfl
    | some next =>
      have same := config_of_step now
      exact ih (same ▸ free)

/-- A run that was not accepted would end before its first worker if nobody registered its engine. -/
theorem exists_unsupported (registry : Registry (Factory α)) {config : RunConfig}
    (unknown : registry.build config = none) (several : 0 < config.threads.toNat)
    (queueCapacity reservoirCapacity : Nat) (plan : RatePlan) (building : List Notice)
    (description : String) :
    ∃ r, (fresh queueCapacity reservoirCapacity config plan building description).stepFrom registry
        .controller = some r ∧
      r.controller.result? =
        some (refuse (.config (.unsupportedEngine config.engine registry.names))) := by
  have obstacle : registry.obstacle? config =
      some (.refused (.config (.unsupportedEngine config.engine registry.names))) := by
    unfold Registry.obstacle?
    rw [unknown]
  exact stepFrom_of_obstacle
    (r := fresh queueCapacity reservoirCapacity config plan building description) rfl several obstacle

end Run

/-! ### Everything that a registry tells -/

namespace Registry

/-- **A registry is coherent.**  After every history of registrations it has the names that were
    registered, lists them in strictly ascending order of their bytes, and builds an engine for them and
    for no others, by the factory that was registered last.  Two registrations of different names that
    follow each other can be swapped.  A run whose configuration was accepted never ends with an error of
    its configuration, and if its factory answers, goes the way of a run that has its engines at hand. -/
theorem is_coherent (history : List (String × Factory α)) :
    let registry := ofHistory history
    (∀ name,
      (registry.contains name = true ↔ IsRegistered history name) ∧
      (name ∈ registry.names ↔ IsRegistered history name) ∧
      ∀ config : RunConfig, config.engine = name →
        (∀ built, registry.build config = some built ↔
          ∃ factory, IsLast history name factory ∧ factory config = built) ∧
        (registry.build config = none ↔ ¬ IsRegistered history name) ∧
        ((∀ factory, IsLast history name factory → ∃ client, factory config = .ok client) →
          ((∃ client, registry.build config = some (.ok client)) ↔ IsRegistered history name))) ∧
    registry.names.Pairwise (fun a b => nameKey a < nameKey b) ∧
    registry.names.Nodup ∧
    (∀ name other, name ≠ other → ∀ entry entry' later,
      ofHistory (history ++ (name, entry) :: (other, entry') :: later) =
        ofHistory (history ++ (other, entry') :: (name, entry) :: later)) ∧
    ∀ config plan, config.validate registry = .ok plan →
      ∀ queueCapacity reservoirCapacity building description labels,
        let start := Run.fresh queueCapacity reservoirCapacity config plan building description
        (∀ r, start.stepsFrom registry labels = some r →
          ∀ cause, r.controller.result? ≠ some (refuse (.config cause))) ∧
        ((∃ client, registry.build config = some (.ok client)) →
          start.stepsFrom registry labels = start.steps labels) := by
  intro registry
  have ascending : registry.IsAscending := isAscending_ofHistory history
  refine ⟨fun name => ⟨contains_ofHistory, ?_, ?_⟩, ascending, ascending.nodup,
    fun name other ne entry entry' later => ofHistory_swap ne history later entry entry',
    fun config plan accepted => ?_⟩
  · rw [← contains_iff]
    exact contains_ofHistory
  · rintro config rfl
    exact ⟨fun built => build_eq_some_iff, build_eq_none_iff, exists_client_iff⟩
  · intro queueCapacity reservoirCapacity building description labels start
    have new : Run.IsNew start := Run.isNew_fresh ..
    refine ⟨fun r done cause => ?_, ?_⟩
    · have sound : Run.Sound start start := .inl ⟨[], .start⟩
      exact (sound.stepsFrom accepted done).result_ne_config new cause
    · rintro ⟨client, built⟩
      apply Run.stepsFrom_eq_steps
      show registry.obstacle? config = none
      unfold obstacle?
      rw [built]

/-- One name twice, with another one in between. -/
def renewed : List (String × Factory String) :=
  [("redis", fun _ => .ok "old"), ("http", fun config => .ok config.host),
    ("redis", fun config => .ok ("new " ++ config.host))]

/-- Two workers of the engine that was registered twice. -/
def renewedConfig : RunConfig :=
  { engine := "redis", host := "localhost:0", rate := 20, threads := 2
    duration := .ofSecs 1 }

def renewedPlan : RatePlan :=
  { threadRate := 10, connectionRate := 10, tokensPerSec := 1, batchSize := 10
    tokensPerSec_pos := Nat.one_pos }

/-- Their run before its first step. -/
def renewedStart : Run := Run.fresh 1 1 renewedConfig renewedPlan [] ""

theorem is_coherent_renewed :
    (∃ client, (ofHistory renewed).build renewedConfig = some (.ok client)) ∧
    ofHistory (renewed ++ [("h2c", fun _ => .ok ""), ("é", fun _ => .ok "")]) =
      ofHistory (renewed ++ [("é", fun _ => .ok ""), ("h2c", fun _ => .ok "")]) ∧
    ∃ r, renewedStart.stepsFrom (ofHistory renewed) [.controller, .controller, .controller] = some r ∧
      renewedStart.steps [.controller, .controller, .controller] = some r ∧
      r.rig.workers.size = 2 ∧ ∀ cause, r.controller.result? ≠ some (refuse (.config cause)) := by
  obtain ⟨names, -, -, swap, runs⟩ := is_coherent renewed
  obtain ⟨-, -, builds⟩ := names "redis"
  obtain ⟨-, -, client⟩ := builds renewedConfig rfl
  have answers : ∀ factory, IsLast renewed "redis" factory →
      ∃ client, factory renewedConfig = .ok client := by
    intro factory last
    have mem := last.mem
    simp only [renewed, List.mem_cons, Prod.mk.injEq, List.not_mem_nil] at mem
    rcases mem with ⟨-, rfl⟩ | ⟨-, rfl⟩ | ⟨-, rfl⟩ | none
    · exact ⟨_, rfl⟩
    · exact ⟨_, rfl⟩
    · exact ⟨_, rfl⟩
    · cases none
  have built := (client answers).mpr ⟨_, List.mem_cons_self⟩
  have accepted : renewedConfig.validate (ofHistory renewed) = .ok renewedPlan := by rfl
  have able : (renewedStart.stepsFrom (ofHistory renewed)
      [.controller, .controller, .controller]).isSome = true := by rfl
  have done := (Option.some_get able).symm
  obtain ⟨never, alike⟩ := runs renewedConfig renewedPlan accepted 1 1 [] "" _
  exact ⟨built, swap "h2c" "é" (by decide) _ _ [], _, done, (alike built).symm.trans done, by rfl,
    never _ done⟩

end Registry

end LoadGen
