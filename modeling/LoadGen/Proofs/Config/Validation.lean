import LoadGen.Proofs.Config.Plan
import LoadGen.Validate

namespace LoadGen

/-!
# Which configurations are accepted

A configuration is accepted if it meets eight demands.  Otherwise the error tells of the first demand
that is not met, with the values that do not meet it.  No error comes from the plan of a configuration
that meets all of them.

* `Demand.breach?` — the error of the first demand that is not met;
* `RunConfig.demands` — what is demanded of a configuration, in the order in which it is checked;
* `RunConfig.IsRunnable` — all demands are met;
* `RunConfig.validate_cases` — what validation answers, also if the product that it computes is no word;
* `RunConfig.validate_is_exact` — what follows for every answer.
-/

/-- Registered names are those that are listed. -/
theorem Registry.contains_iff {α : Type} {registry : Registry α} {name : String} :
    registry.contains name = true ↔ name ∈ registry.names := by
  unfold contains find? names
  rw [List.lookup_isSome_iff, List.mem_map]
  constructor
  · rintro ⟨entry, mem, same⟩
    exact ⟨entry, mem, (beq_iff_eq.mp same).symm⟩
  · rintro ⟨entry, mem, rfl⟩
    exact ⟨entry, mem, beq_self_eq_true _⟩

/-! ### Products of 64-bit words -/

/-- A product of three factors is computed as it is, or not at all. -/
theorem requiredRate_cases (threads concurrency : Nat) :
    requiredRate threads concurrency = .ok (threads * concurrency * minOpsPerConnection) ∨
      ∃ fault, requiredRate threads concurrency = .error fault := by
  unfold requiredRate mulWord
  by_cases small : threads * concurrency < wordCount
  · by_cases small' : threads * concurrency * minOpsPerConnection < wordCount
    · left
      simp [small, small', bind, Except.bind]
    · right
      simp [small, small', bind, Except.bind]
  · right
    simp [small, bind, Except.bind]

theorem requiredRate_eq_ok {threads concurrency : Nat}
    (small : threads * concurrency * minOpsPerConnection < wordCount) :
    requiredRate threads concurrency = .ok (threads * concurrency * minOpsPerConnection) := by
  have pair : threads * concurrency ≤ threads * concurrency * minOpsPerConnection :=
    Nat.le_mul_of_pos_right _ (by decide)
  have small' : threads * concurrency < wordCount := Nat.lt_of_le_of_lt pair small
  unfold requiredRate mulWord
  simp [small, small', bind, Except.bind]

/-! ### Demands -/

/-- Something that is demanded of a configuration: whether it is met, and what is reported if not. -/
structure Demand where
  met : Bool
  error : ConfigError

namespace Demand

variable {β : Type} {demands more : List Demand} {next rest : Except (Failure ConfigError) β}

/-- The error of the first demand that is not met. -/
def breach? (demands : List Demand) : Option ConfigError :=
  (demands.find? (!·.met)).map Demand.error

/-- Checks demands in their order, and goes on if all are met. -/
def check (demands : List Demand) (next : Except (Failure ConfigError) β) :
    Except (Failure ConfigError) β :=
  demands.foldr (fun demand rest => if demand.met then rest else refuse demand.error) next

/-- The first demand that is not met decides. -/
theorem check_eq (demands : List Demand) (next : Except (Failure ConfigError) β) :
    check demands next = match breach? demands with
      | some error => refuse error
      | none => next := by
  induction demands with
  | nil => rfl
  | cons demand demands ih =>
    unfold check breach? at ih ⊢
    rw [List.foldr_cons, List.find?_cons]
    cases met : demand.met with
    | true =>
      rw [if_pos rfl, Bool.not_true]
      exact ih
    | false =>
      rw [if_neg Bool.false_ne_true, Bool.not_false]
      rfl

theorem check_append : check (demands ++ more) next = check demands (check more next) :=
  List.foldr_append

/-- A check that fails when a demand is not met, ahead of others. -/
theorem check_cons {unmet : Prop} [Decidable unmet] {met : Bool} {error : ConfigError}
    (fails : unmet ↔ ¬ met = true) (same : rest = check demands next) :
    (if unmet then refuse error else rest) = check (⟨met, error⟩ :: demands) next := by
  subst same
  show _ = if met = true then check demands next else refuse error
  by_cases fine : met = true
  · rw [if_pos fine, if_neg fun failed => fails.mp failed fine]
  · rw [if_neg fine, if_pos (fails.mpr fine)]

theorem breach?_eq_none : breach? demands = none ↔ ∀ demand ∈ demands, demand.met = true := by
  unfold breach?
  rw [Option.map_eq_none_iff, List.find?_eq_none]
  simp

theorem breach?_append_of_some {error : ConfigError} (early : breach? demands = some error) :
    breach? (demands ++ more) = some error := by
  unfold breach? at early ⊢
  obtain ⟨demand, first, rfl⟩ := Option.map_eq_some_iff.mp early
  rw [List.find?_append, first]
  rfl

theorem breach?_append_of_none (early : breach? demands = none) :
    breach? (demands ++ more) = breach? more := by
  unfold breach? at early ⊢
  rw [List.find?_append, Option.map_eq_none_iff.mp early]
  rfl

end Demand

namespace RunConfig

variable {α : Type} (config : RunConfig) (registry : Registry α)

/-- The least rate that the connections of a configuration ask for. -/
def askedRate : Nat := config.threads.toNat * config.concurrency.toNat * 10

/-- What is demanded before the rate that is asked for is looked at, in order. -/
def plainDemands : List Demand :=
  [⟨config.host ≠ "", .missingHost⟩,
    ⟨0 < config.rate.toNat, .zeroRate⟩,
    ⟨config.engine ∈ registry.names, .unsupportedEngine config.engine registry.names⟩,
    ⟨0 < config.duration.nanos, .zeroDuration⟩,
    ⟨0 < config.threads.toNat, .zeroThreads⟩,
    ⟨0 < config.concurrency.toNat, .zeroConcurrency⟩]

/-- What is demanded after that, in order. -/
def lateDemands : List Demand :=
  [⟨config.concurrency.toNat = 1 ∨ config.askedRate ≤ config.rate.toNat,
      .concurrencyTooHigh config.askedRate config.rate.toNat⟩,
    ⟨1 ≤ config.options.complexity.toNat, .complexity config.options.complexity.toNat⟩]

/-- All that is demanded of a configuration, in order. -/
def demands : List Demand := config.plainDemands registry ++ config.lateDemands

/-- The plan that an accepted configuration gets. -/
def plan? : Except ConfigError RatePlan :=
  RatePlan.make config.rate.toNat config.threads.toNat config.concurrency.toNat

/-! ### The checks are the demands, in their order -/

/-- What follows the plain demands. -/
def checkRate : Except (Failure ConfigError) RatePlan := do
  let required ← Fault.lift (requiredRate config.threads.toNat config.concurrency.toNat)
  if 1 < config.concurrency ∧ config.rate.toNat < required then
    refuse (.concurrencyTooHigh required config.rate.toNat)
  else if config.options.complexity < 1 then
    refuse (.complexity config.options.complexity.toNat)
  else Failure.lift config.plan?

theorem eq_zero_iff_toNat (word : UInt32) : word = 0 ↔ ¬ 0 < word.toNat := by
  rw [← UInt32.toNat_inj]
  show word.toNat = 0 ↔ _
  omega

theorem validate_eq : config.validate registry =
    Demand.check (config.plainDemands registry) config.checkRate := by
  have host : config.host.isEmpty = true ↔ ¬ decide (config.host ≠ "") = true := by
    simp
  have rate : config.rate = 0 ↔ ¬ decide (0 < config.rate.toNat) = true := by
    rw [decide_eq_true_eq]
    exact eq_zero_iff_toNat _
  have engine : (!registry.contains config.engine) = true ↔
      ¬ decide (config.engine ∈ registry.names) = true := by
    rw [decide_eq_true_eq, ← Registry.contains_iff]
    simp
  have duration : config.duration.isZero = true ↔ ¬ decide (0 < config.duration.nanos) = true := by
    rw [decide_eq_true_eq]
    unfold Duration.isZero
    rw [beq_iff_eq]
    omega
  have threads : config.threads = 0 ↔ ¬ decide (0 < config.threads.toNat) = true := by
    rw [decide_eq_true_eq]
    exact eq_zero_iff_toNat _
  have concurrency : config.concurrency = 0 ↔ ¬ decide (0 < config.concurrency.toNat) = true := by
    rw [decide_eq_true_eq]
    exact eq_zero_iff_toNat _
  unfold validate plainDemands
  apply Demand.check_cons host
  apply Demand.check_cons rate
  apply Demand.check_cons engine
  apply Demand.check_cons duration
  apply Demand.check_cons threads
  apply Demand.check_cons concurrency
  rfl

theorem checkRate_eq {config : RunConfig}
    (asked : requiredRate config.threads.toNat config.concurrency.toNat = .ok config.askedRate) :
    config.checkRate = Demand.check config.lateDemands (Failure.lift config.plan?) := by
  have crowded : (1 < config.concurrency ∧ config.rate.toNat < config.askedRate) ↔
      ¬ decide (config.concurrency.toNat = 1 ∨ config.askedRate ≤ config.rate.toNat) = true := by
    -- Without connections no rate is asked for.
    have idle : config.concurrency.toNat = 0 → config.askedRate = 0 := by
      intro none
      unfold askedRate
      rw [none, Nat.mul_zero, Nat.zero_mul]
    rw [decide_eq_true_eq, UInt32.lt_iff_toNat_lt]
    show 1 < config.concurrency.toNat ∧ _ ↔ _
    omega
  have simple : config.options.complexity < 1 ↔
      ¬ decide (1 ≤ config.options.complexity.toNat) = true := by
    rw [decide_eq_true_eq, UInt32.lt_iff_toNat_lt]
    exact Nat.not_le.symm
  unfold checkRate lateDemands
  rw [asked]
  show (if 1 < config.concurrency ∧ config.rate.toNat < config.askedRate then _ else _) = _
  apply Demand.check_cons crowded
  apply Demand.check_cons simple
  rfl

theorem checkRate_of_broken {config : RunConfig} {fault : Fault}
    (broken : requiredRate config.threads.toNat config.concurrency.toNat = .error fault) :
    config.checkRate = .error (.broken fault) := by
  unfold checkRate
  rw [broken]
  rfl

/-- What validation answers: nothing, if the product that it computes is no word, or else the error of
    the first demand that is not met, or the plan. -/
theorem validate_cases :
    (∃ fault, config.validate registry = .error (.broken fault)) ∨
      config.validate registry =
        Demand.check (config.demands registry) (Failure.lift config.plan?) := by
  rw [validate_eq]
  rcases requiredRate_cases config.threads.toNat config.concurrency.toNat with asked | ⟨fault, broken⟩
  · right
    unfold demands
    rw [checkRate_eq asked, Demand.check_append]
  · rw [checkRate_of_broken broken, Demand.check_eq, Demand.check_eq]
    cases early : Demand.breach? (config.plainDemands registry) with
    | none => exact .inl ⟨fault, rfl⟩
    | some error =>
      -- A demand that comes before the product is not met.
      right
      unfold demands
      rw [Demand.breach?_append_of_some early]

/-! ### Configurations that meet all demands -/

/-- All demands are met. -/
structure IsRunnable : Prop where
  host : config.host ≠ ""
  rate : 0 < config.rate.toNat
  engine : config.engine ∈ registry.names
  duration : 0 < config.duration.nanos
  threads : 0 < config.threads.toNat
  concurrency : 0 < config.concurrency.toNat
  room : config.concurrency.toNat = 1 ∨ config.askedRate ≤ config.rate.toNat
  complexity : 1 ≤ config.options.complexity.toNat

variable {config registry}

theorem isRunnable_iff :
    config.IsRunnable registry ↔ Demand.breach? (config.demands registry) = none := by
  rw [Demand.breach?_eq_none]
  constructor
  · rintro ⟨host, rate, engine, duration, threads, concurrency, room, complexity⟩
    simp [demands, plainDemands, lateDemands, host, rate, engine, duration, threads, concurrency, room,
      complexity]
  · intro met
    simp [demands, plainDemands, lateDemands] at met
    obtain ⟨host, rate, engine, duration, threads, concurrency, room, complexity⟩ := met
    exact ⟨host, rate, engine, duration, threads, concurrency, room, complexity⟩

namespace IsRunnable

/-- Threads have a rate for each of their connections, and ten times that if there are several. -/
theorem concurrency_le (runnable : config.IsRunnable registry) :
    config.concurrency.toNat ≤ ceilDiv config.rate.toNat config.threads.toNat := by
  rcases runnable.room with single | room
  · rw [single]
    exact ceilDiv_pos runnable.rate runnable.threads
  · apply le_ceilDiv_of_mul_le runnable.threads
    unfold askedRate at room
    rw [Nat.mul_comm]
    omega

theorem ten_le_connectionRate (runnable : config.IsRunnable registry)
    (several : 1 < config.concurrency.toNat) :
    10 ≤ ceilDiv config.rate.toNat config.threads.toNat / config.concurrency.toNat := by
  have room : config.askedRate ≤ config.rate.toNat :=
    runnable.room.resolve_left (Nat.ne_of_gt several)
  rw [Nat.le_div_iff_mul_le runnable.concurrency]
  apply le_ceilDiv_of_mul_le runnable.threads
  calc 10 * config.concurrency.toNat * config.threads.toNat = config.askedRate := by
        unfold askedRate
        rw [Nat.mul_comm, Nat.mul_comm 10, Nat.mul_assoc]
    _ ≤ config.rate.toNat := room

/-- No product of such a configuration leaves its word. -/
theorem askedRate_lt (runnable : config.IsRunnable registry) : config.askedRate < wordCount := by
  have rate : config.rate.toNat < 4294967296 := config.rate.toNat_lt
  have threads : config.threads.toNat < 4294967296 := config.threads.toNat_lt
  unfold wordCount
  rcases runnable.room with single | room
  · unfold askedRate
    rw [single]
    omega
  · omega

/-- Such a configuration has a plan, and is accepted with it. -/
theorem validate_eq_ok (runnable : config.IsRunnable registry) :
    ∃ plan, config.plan? = .ok plan ∧ config.validate registry = .ok plan := by
  obtain ⟨plan, made⟩ :=
    RatePlan.make_eq_ok runnable.threads runnable.concurrency runnable.concurrency_le
  refine ⟨plan, made, ?_⟩
  have asked : requiredRate config.threads.toNat config.concurrency.toNat = .ok config.askedRate :=
    requiredRate_eq_ok runnable.askedRate_lt
  rw [validate_eq, checkRate_eq asked, ← Demand.check_append, Demand.check_eq]
  show (match Demand.breach? (config.demands registry) with
    | some error => refuse error
    | none => Failure.lift config.plan?) = .ok plan
  rw [isRunnable_iff.mp runnable]
  show Failure.lift config.plan? = .ok plan
  rw [show config.plan? = .ok plan from made]
  rfl

end IsRunnable

/-- An answer is the error of the first demand that is not met, or else the plan. -/
theorem validate_of_returns (returns : ∀ fault, config.validate registry ≠ .error (.broken fault)) :
    config.validate registry = match Demand.breach? (config.demands registry) with
      | some error => refuse error
      | none => Failure.lift config.plan? := by
  rcases validate_cases config registry with ⟨fault, broken⟩ | answer
  · exact absurd broken (returns fault)
  · rw [answer, Demand.check_eq]

theorem isRunnable_of_ok {plan : RatePlan} (accepted : config.validate registry = .ok plan) :
    config.IsRunnable registry := by
  have returns : ∀ fault, config.validate registry ≠ .error (.broken fault) := by
    rw [accepted]
    nofun
  have answer := validate_of_returns returns
  rw [accepted] at answer
  rw [isRunnable_iff]
  cases breach : Demand.breach? (config.demands registry) with
  | none => rfl
  | some error =>
    rw [breach] at answer
    cases answer

theorem refused_iff (returns : ∀ fault, config.validate registry ≠ .error (.broken fault))
    (error : ConfigError) :
    config.validate registry = refuse error ↔
      Demand.breach? (config.demands registry) = some error := by
  have answer := validate_of_returns returns
  cases breach : Demand.breach? (config.demands registry) with
  | none =>
    -- All demands are met, so there is a plan and nothing to refuse.
    obtain ⟨plan, -, accepted⟩ := (isRunnable_iff.mpr breach).validate_eq_ok
    rw [accepted]
    constructor <;> nofun
  | some first =>
    rw [answer, breach]
    constructor
    · intro same
      cases same
      rfl
    · intro same
      cases same
      rfl

/-- The demand for a rate is the only one that is reported as a rate of zero. -/
theorem rate_of_breach? (breach : Demand.breach? (config.demands registry) = some .zeroRate) :
    config.rate = 0 := by
  unfold Demand.breach? at breach
  obtain ⟨demand, first, error⟩ := Option.map_eq_some_iff.mp breach
  have mem := List.mem_of_find?_eq_some first
  have unmet := List.find?_some first
  simp only [demands, plainDemands, lateDemands, List.cons_append, List.nil_append, List.mem_cons,
    List.not_mem_nil, or_false] at mem
  rcases mem with rfl | rfl | rfl | rfl | rfl | rfl | rfl | rfl
  case inr.inl =>
    rw [eq_zero_iff_toNat]
    simpa using unmet
  all_goals cases error

/-- **Validation is exact.**  A configuration is accepted if and only if it meets all demands.  Whenever
    validation answers, it refuses with the error of the first demand that is not met, and with no other
    error: a configuration that meets all demands has a plan, so that the error of a zero rate is the
    answer to a zero rate only.  In the plan of an accepted configuration, several connections get ten
    operations per second each. -/
theorem validate_is_exact (config : RunConfig) (registry : Registry α) :
    ((∃ plan, config.validate registry = .ok plan) ↔ config.IsRunnable registry) ∧
    ((∀ fault, config.validate registry ≠ .error (.broken fault)) →
      ∀ error, config.validate registry = refuse error ↔
        Demand.breach? (config.demands registry) = some error) ∧
    (config.IsRunnable registry → ∃ plan,
      RatePlan.make config.rate.toNat config.threads.toNat config.concurrency.toNat = .ok plan ∧
      config.validate registry = .ok plan) ∧
    (config.validate registry = refuse .zeroRate → config.rate = 0) ∧
    ∀ plan, config.validate registry = .ok plan → 1 < config.concurrency →
      10 ≤ plan.connectionRate := by
  refine ⟨⟨?_, ?_⟩, refused_iff, IsRunnable.validate_eq_ok, ?_, ?_⟩
  · rintro ⟨plan, accepted⟩
    exact isRunnable_of_ok accepted
  · intro runnable
    obtain ⟨plan, -, accepted⟩ := runnable.validate_eq_ok
    exact ⟨plan, accepted⟩
  · intro refused
    have returns : ∀ fault, config.validate registry ≠ .error (.broken fault) := by
      rw [refused]
      nofun
    exact rate_of_breach? ((refused_iff returns _).mp refused)
  · intro plan accepted several
    have runnable : config.IsRunnable registry := isRunnable_of_ok accepted
    obtain ⟨made, plan_eq, same⟩ := runnable.validate_eq_ok
    rw [accepted] at same
    cases same
    rw [RatePlan.connectionRate_of_make plan_eq]
    exact runnable.ten_le_connectionRate (UInt32.lt_iff_toNat_lt.mp several)

/-- Twelve connections for a rate of a hundred, and a complexity of zero. -/
def crowded : RunConfig :=
  { engine := "noop", host := "localhost:0", rate := 100, threads := 3, concurrency := 4,
    duration := .clamped 1, options := { complexity := 0 } }

/-- Nine connections for a rate of a hundred. -/
def roomy : RunConfig := { crowded with concurrency := 3, options := {} }

theorem validate_is_exact_crowded :
    crowded.validate (Registry.ofHistory [("noop", ())]) = refuse (.concurrencyTooHigh 120 100) ∧
      ∃ plan, roomy.validate (Registry.ofHistory [("noop", ())]) = .ok plan ∧
        10 ≤ plan.connectionRate := by
  have returns (fault : Fault) :
      crowded.validate (Registry.ofHistory [("noop", ())]) ≠ .error (.broken fault) := by
    have answer : crowded.validate (Registry.ofHistory [("noop", ())]) =
        refuse (.concurrencyTooHigh 120 100) := by rfl
    rw [answer]
    nofun
  have first : Demand.breach? (crowded.demands (Registry.ofHistory [("noop", ())])) =
      some (.concurrencyTooHigh 120 100) := by rfl
  obtain ⟨-, refused, -⟩ := validate_is_exact crowded (Registry.ofHistory [("noop", ())])
  obtain ⟨accepted_iff, -, -, -, rates⟩ := validate_is_exact roomy (Registry.ofHistory [("noop", ())])
  have runnable : roomy.IsRunnable (Registry.ofHistory [("noop", ())]) :=
    isRunnable_iff.mpr (by rfl)
  obtain ⟨plan, accepted⟩ := accepted_iff.mpr runnable
  exact ⟨(refused returns _).mpr first, plan, accepted, rates plan accepted (by decide)⟩

end RunConfig

end LoadGen
