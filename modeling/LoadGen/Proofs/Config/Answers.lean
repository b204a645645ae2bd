import LoadGen.Proofs.Config.Validation

namespace LoadGen

/-!
# Which configurations are answered

Validation multiplies threads, connections and the least rate of a connection before anything bounds them.
Two of these factors always fit a 64-bit word together, all three need not.  Where they do not, validation
breaks off, although there is an error to report: such a product exceeds every rate.

* `requiredRate_eq_error_iff` — the product breaks off exactly if it is no word;
* `RunConfig.checkRate_eq_broken_iff` — after the plain demands nothing else breaks off;
* `RunConfig.breach?_of_wordCount_le` — the error that is owed where the product is no word;
* `RunConfig.validate_answers_iff` — when validation answers.
-/

/-- The product of three factors breaks off if it is no word, whichever product leaves its word. -/
theorem requiredRate_eq_error_iff {threads concurrency : Nat} {fault : Fault} :
    requiredRate threads concurrency = .error fault ↔
      wordCount ≤ threads * concurrency * minOpsPerConnection ∧ fault = .multiplyOverflow := by
  have grows : threads * concurrency ≤ threads * concurrency * minOpsPerConnection :=
    Nat.le_mul_of_pos_right _ (by decide)
  unfold requiredRate
  rw [bind_eq_error_iff, mulWord_eq_error_iff]
  constructor
  · rintro (⟨beyond, rfl⟩ | ⟨connections, pair, broken⟩)
    · exact ⟨Nat.le_trans beyond grows, rfl⟩
    · obtain ⟨-, rfl⟩ := mulWord_eq_ok_iff.mp pair
      exact mulWord_eq_error_iff.mp broken
  · rintro ⟨beyond, rfl⟩
    by_cases pair : threads * concurrency < wordCount
    · exact .inr ⟨_, mulWord_eq_ok_iff.mpr ⟨pair, rfl⟩, mulWord_eq_error_iff.mpr ⟨beyond, rfl⟩⟩
    · exact .inl ⟨Nat.le_of_not_lt pair, rfl⟩

/-- Checks break off only where what follows them does. -/
theorem Demand.check_eq_broken_iff {β : Type} {demands : List Demand}
    {next : Except (Failure ConfigError) β} {fault : Fault} :
    check demands next = .error (.broken fault) ↔
      breach? demands = none ∧ next = .error (.broken fault) := by
  rw [check_eq]
  cases breach? demands with
  | none => exact ⟨fun broken => ⟨rfl, broken⟩, And.right⟩
  | some error => exact ⟨nofun, fun broken => nomatch broken.1⟩

namespace RunConfig

variable {α : Type} {config : RunConfig} {registry : Registry α} {fault : Fault}

theorem checkRate_eq_broken_iff :
    config.checkRate = .error (.broken fault) ↔
      wordCount ≤ config.askedRate ∧ fault = .multiplyOverflow := by
  by_cases small : config.askedRate < wordCount
  · -- The product is a word, and all that is left to do is to refuse or to plan.
    have unbroken : config.checkRate ≠ .error (.broken fault) := by
      rw [checkRate_eq (requiredRate_eq_ok small)]
      intro broken
      exact Failure.lift_ne_broken config.plan? fault (Demand.check_eq_broken_iff.mp broken).2
    exact iff_of_false unbroken fun beyond => Nat.not_le_of_lt small beyond.1
  · have beyond : wordCount ≤ config.askedRate := Nat.le_of_not_lt small
    have broken : requiredRate config.threads.toNat config.concurrency.toNat =
        .error .multiplyOverflow := requiredRate_eq_error_iff.mpr ⟨beyond, rfl⟩
    rw [checkRate_of_broken broken, Except.error.injEq, Failure.broken.injEq]
    exact ⟨fun same => ⟨beyond, same.symm⟩, fun same => same.2.symm⟩

theorem validate_eq_broken_iff :
    config.validate registry = .error (.broken fault) ↔
      Demand.breach? (config.plainDemands registry) = none ∧
        wordCount ≤ config.askedRate ∧ fault = .multiplyOverflow := by
  rw [validate_eq, Demand.check_eq_broken_iff, checkRate_eq_broken_iff]

/-- A product that is no word is asked for by several connections, and exceeds every rate. -/
theorem breach?_of_wordCount_le (plain : Demand.breach? (config.plainDemands registry) = none)
    (beyond : wordCount ≤ config.askedRate) :
    Demand.breach? (config.demands registry) =
      some (.concurrencyTooHigh config.askedRate config.rate.toNat) := by
  have threads : config.threads.toNat < 4294967296 := config.threads.toNat_lt
  have rate : config.rate.toNat < 4294967296 := config.rate.toNat_lt
  have several : config.concurrency.toNat ≠ 1 := by
    intro single
    unfold askedRate wordCount at beyond
    rw [single] at beyond
    omega
  have crowded : ¬ config.askedRate ≤ config.rate.toNat := by
    unfold wordCount at beyond
    omega
  unfold demands
  rw [Demand.breach?_append_of_none plain]
  simp [Demand.breach?, lateDemands, several, crowded]

/-- **When validation answers.**  It gives a plan or an error if some demand is not met that comes before
    the product of threads, connections and ten, or if this product is a 64-bit word, and in no other
    case.  Where it gives neither, the product has left its word, and the first demand that is not met
    is that the product does not exceed the rate. -/
theorem validate_answers_iff (config : RunConfig) (registry : Registry α) :
    ((∃ plan, config.validate registry = .ok plan) ∨
        (∃ error, config.validate registry = refuse error) ↔
      (∃ demand ∈ config.plainDemands registry, demand.met = false) ∨ config.askedRate < wordCount) ∧
    ∀ fault, config.validate registry = .error (.broken fault) →
      fault = .multiplyOverflow ∧ Demand.breach? (config.demands registry) =
        some (.concurrencyTooHigh config.askedRate config.rate.toNat) := by
  have unmet : (∃ demand ∈ config.plainDemands registry, demand.met = false) ↔
      Demand.breach? (config.plainDemands registry) ≠ none := by
    rw [ne_eq, Demand.breach?_eq_none]
    simp
  constructor
  · rw [ok_or_refuse_iff, unmet]
    simp only [ne_eq, validate_eq_broken_iff]
    constructor
    · intro unbroken
      by_cases small : config.askedRate < wordCount
      · exact .inr small
      · exact .inl fun plain => unbroken .multiplyOverflow ⟨plain, Nat.le_of_not_lt small, rfl⟩
    · rintro (early | small) fault ⟨plain, beyond, -⟩
      · exact early plain
      · exact Nat.not_le_of_lt small beyond
  · intro fault broken
    obtain ⟨plain, beyond, same⟩ := validate_eq_broken_iff.mp broken
    exact ⟨same, breach?_of_wordCount_le plain beyond⟩

/-- So many threads and connections that ten times their product leaves its word. -/
def teeming : RunConfig :=
  { engine := "noop", host := "localhost:0", rate := 4294967295, threads := 3865470742,
    concurrency := 4294967101, duration := .clamped nanosPerSec }

/-- As many threads with two connections each. -/
def paired : RunConfig := { teeming with concurrency := 2 }

theorem validate_answers_iff_paired :
    ((∃ plan, paired.validate (Registry.ofHistory [("noop", ())]) = .ok plan) ∨
      ∃ error, paired.validate (Registry.ofHistory [("noop", ())]) = refuse error) ∧
    ¬ ((∃ plan, teeming.validate (Registry.ofHistory [("noop", ())]) = .ok plan) ∨
      ∃ error, teeming.validate (Registry.ofHistory [("noop", ())]) = refuse error) ∧
    Demand.breach? (teeming.demands (Registry.ofHistory [("noop", ())])) =
      some (.concurrencyTooHigh teeming.askedRate 4294967295) := by
  obtain ⟨answers, -⟩ := validate_answers_iff paired (Registry.ofHistory [("noop", ())])
  obtain ⟨answers', owed⟩ := validate_answers_iff teeming (Registry.ofHistory [("noop", ())])
  have broken : teeming.validate (Registry.ofHistory [("noop", ())]) =
      .error (.broken .multiplyOverflow) := by rfl
  refine ⟨answers.mpr (.inr (by decide)), fun answered => ?_, (owed _ broken).2⟩
  rcases answers'.mp answered with ⟨demand, mem, unmet⟩ | small
  · have met : ∀ demand ∈ teeming.plainDemands (Registry.ofHistory [("noop", ())]),
        demand.met = true := by decide
    rw [met demand mem] at unmet
    cases unmet
  · exact absurd small (by decide)

/-- **Some configurations are not answered.**  The product of these threads and connections breaks off.  Its
    low 64 bits are within the rate. -/
theorem teeming_breaks_off :
    teeming.validate (Registry.ofHistory [("noop", ())]) = .error (.broken .multiplyOverflow) ∧
      teeming.askedRate % wordCount ≤ teeming.rate.toNat :=
  ⟨by rfl, by decide⟩

end RunConfig

end LoadGen
