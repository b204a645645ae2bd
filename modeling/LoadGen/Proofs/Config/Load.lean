import LoadGen.Engine.Shipped
import LoadGen.Proofs.Config.Validation
import Mathlib.Tactic.Ring

namespace LoadGen

/-!
# The load that a plan puts on its target

A plan shares the rate of a thread among its connections, and so counts on an engine that sends a message
for each of them in one operation.  The HTTP engines do.  A multicast engine sends one datagram, however
many connections there are.

* `ShippedEngine.issued_of_execute` — an operation sends the messages that are counted for it;
* `ShippedEngine.messages_of_ofConfig?` — the count for the engine of a configuration;
* `RunConfig.ReachesRate` — the planned load is the rate, up to rounding;
* `RunConfig.reachesRate_of_shared`, `RunConfig.not_reachesRate_of_one` — engines with a message for
  each connection, and engines with a single one;
* `RunConfig.reaches_rate_iff` — which shipped engines reach the rate.
-/

namespace ShippedEngine

/-- An operation of an engine that is ready sends the messages that are counted for it. -/
theorem issued_of_execute {e : ShippedEngine} {network : Network} {s s' : EngineSession}
    {reply : CallReply} (ready : s.ready = true)
    (answered : e.call network s .execute = .ok (s', reply)) :
    s'.issued = s.issued + e.messagesPerOperation := by
  cases e with
  | http e =>
    -- A request that cannot be put together breaks off, and is not answered.
    have called : e.callIn network s .execute = .ok (s', reply) := answered
    unfold HttpEngine.callIn at called
    split at called
    · cases called
    · have sent : e.call (e.target network) s .execute =
          ({ s with issued := s.issued + e.requests }, _) := if_pos ready
      rw [sent] at called
      cases called
      rfl
  | multicast e =>
    have sent : e.call network s .execute = ({ s with issued := s.issued + 1 }, e.send network) :=
      if_pos ready
    have called : Except.ok (e.call network s .execute) = .ok (s', reply) := answered
    rw [sent] at called
    cases called
    rfl

/-- The names that are registered. -/
theorem names_shipped : shippedEngines.names = ["h2c", "http", "https", "multicast"] := by
  decide +kernel

/-- What is built for a name. -/
theorem find?_shipped (name : String) :
    shippedEngines.find? name =
      if name = "multicast" then some fun config => (MulticastEngine.build config).map .multicast
      else if name = "h2c" then some fun config => (HttpEngine.build .h2c config).map .http
      else if name = "https" then some fun config => (HttpEngine.build .tls config).map .http
      else if name = "http" then some fun config => (HttpEngine.build .plain config).map .http
      else none := by
  simp only [shippedEngines, Registry.ofHistory, List.foldl_cons, List.foldl_nil,
    Registry.find?_register, Registry.find?_empty]

theorem requests_of_build {kind : HttpKind} {config : RunConfig} {e : HttpEngine}
    (built : HttpEngine.build kind config = .ok e) : e.requests = max config.concurrency.toNat 1 := by
  unfold HttpEngine.build at built
  split at built
  · obtain ⟨_, -, same⟩ := bind_eq_ok_iff.mp built
    cases same
    rfl
  · cases built
    rfl

/-- The messages of an operation: one for each connection, or one datagram. -/
theorem messages_of_ofConfig? {config : RunConfig} {e : ShippedEngine}
    (built : ofConfig? config = some (.ok e)) :
    e.messagesPerOperation =
      if config.engine = "multicast" then 1 else max config.concurrency.toNat 1 := by
  have http {kind : HttpKind}
      (built : some ((HttpEngine.build kind config).map .http) = some (.ok e)) :
      e.messagesPerOperation = max config.concurrency.toNat 1 := by
    obtain ⟨engine, opened, rfl⟩ := map_eq_ok_iff.mp (Option.some.inj built)
    exact requests_of_build opened
  have multicast (built : some ((MulticastEngine.build config).map .multicast) = some (.ok e)) :
      e.messagesPerOperation = 1 := by
    obtain ⟨engine, -, rfl⟩ := map_eq_ok_iff.mp (Option.some.inj built)
    rfl
  unfold ofConfig? at built
  rw [find?_shipped] at built
  by_cases h : config.engine = "multicast"
  · rw [if_pos h] at built ⊢
    exact multicast built
  · rw [if_neg h] at built ⊢
    split at built
    · exact http built
    · split at built
      · exact http built
      · split at built
        · exact http built
        · cases built

end ShippedEngine

namespace RunConfig

variable {config : RunConfig} {plan : RatePlan}

/-- The messages per second that the workers of a configuration are planned to send. -/
def plannedLoad (config : RunConfig) (plan : RatePlan) (engine : ShippedEngine) : Nat :=
  config.threads.toNat * plan.tokensPerSec * plan.batchSize * engine.messagesPerOperation

/-- The planned load falls short of the rate by less than a message for each connection, and exceeds it
    by less than one for each thread. -/
def ReachesRate (config : RunConfig) (plan : RatePlan) (engine : ShippedEngine) : Prop :=
  config.rate.toNat < config.plannedLoad plan engine + config.threads.toNat * config.concurrency.toNat ∧
    config.plannedLoad plan engine < config.rate.toNat + config.threads.toNat

/-- The load by the rate of a connection. -/
theorem plannedLoad_eq (made : config.plan? = .ok plan) (engine : ShippedEngine) :
    config.plannedLoad plan engine = config.threads.toNat *
      (ceilDiv config.rate.toNat config.threads.toNat / config.concurrency.toNat) *
        engine.messagesPerOperation := by
  have whole := (RatePlan.tokensPerSec_mul_batchSize made).2
  have share := RatePlan.connectionRate_of_make made
  unfold plannedLoad
  rw [Nat.mul_assoc _ plan.tokensPerSec, whole, share]

/-- An engine that sends a message for each connection puts the rate on its target. -/
theorem reachesRate_of_shared {engine : ShippedEngine} (made : config.plan? = .ok plan)
    (threads : 0 < config.threads.toNat) (concurrency : 0 < config.concurrency.toNat)
    (shared : engine.messagesPerOperation = config.concurrency.toNat) :
    config.ReachesRate plan engine := by
  have load := plannedLoad_eq made engine
  rw [shared, Nat.mul_assoc] at load
  unfold ReachesRate
  rw [load]
  exact ⟨lt_mul_shares threads concurrency, mul_shares_lt threads⟩

/-- An engine that sends a single message for several connections does not: its load is at most half of
    the rate, while the connections that were allowed for are at most a tenth of it. -/
theorem not_reachesRate_of_one {engine : ShippedEngine} (made : config.plan? = .ok plan)
    (threads : 0 < config.threads.toNat) (several : 1 < config.concurrency.toNat)
    (room : config.askedRate ≤ config.rate.toNat) (one : engine.messagesPerOperation = 1) :
    ¬ config.ReachesRate plan engine := by
  have load := plannedLoad_eq made engine
  have below := mul_ceilDiv_lt (n := config.rate.toNat) threads
  rw [one, Nat.mul_one] at load
  unfold askedRate at room
  unfold ReachesRate
  rw [load]
  generalize ceilDiv config.rate.toNat config.threads.toNat = rate at *
  have half : 2 * (config.threads.toNat * (rate / config.concurrency.toNat)) ≤
      config.threads.toNat * rate := by
    have floor : rate / config.concurrency.toNat * config.concurrency.toNat ≤ rate :=
      Nat.div_mul_le_self _ _
    have twice : rate / config.concurrency.toNat * 2 ≤
        rate / config.concurrency.toNat * config.concurrency.toNat := Nat.mul_le_mul_left _ several
    calc 2 * (config.threads.toNat * (rate / config.concurrency.toNat))
        = config.threads.toNat * (rate / config.concurrency.toNat * 2) := by ring
      _ ≤ config.threads.toNat * rate := Nat.mul_le_mul_left _ (Nat.le_trans twice floor)
  have slots : 2 * config.threads.toNat ≤ config.threads.toNat * config.concurrency.toNat := by
    rw [Nat.mul_comm]
    exact Nat.mul_le_mul_left _ several
  intro reaches
  omega

/-- **Which engines reach the rate.**  The engine of an accepted configuration is a shipped one, and its
    operation sends the messages that are counted for it.  Its planned load is the rate, up to rounding,
    if it sends a message for each connection, as every engine but multicast does, or if there is one
    connection only.  With several connections a multicast engine does not reach the rate. -/
theorem reaches_rate_iff (config : RunConfig) {plan : RatePlan}
    (accepted : config.validate shippedEngines = .ok plan) :
    config.engine ∈ ["h2c", "http", "https", "multicast"] ∧
    ∃ built, ShippedEngine.ofConfig? config = some built ∧ ∀ engine, built = .ok engine →
      (∀ (network : Network) (s s' : EngineSession) (reply : CallReply), s.ready = true →
        engine.call network s .execute = .ok (s', reply) →
          s'.issued = s.issued + engine.messagesPerOperation) ∧
      (config.ReachesRate plan engine ↔
        config.engine ≠ "multicast" ∨ config.concurrency.toNat = 1) := by
  have runnable : config.IsRunnable shippedEngines := isRunnable_of_ok accepted
  obtain ⟨made, plan_eq, same⟩ := runnable.validate_eq_ok
  rw [accepted] at same
  cases same
  have known := runnable.engine
  refine ⟨by rwa [ShippedEngine.names_shipped] at known, ?_⟩
  obtain ⟨build, found⟩ := Option.isSome_iff_exists.mp (Registry.contains_iff.mpr known)
  have named : ShippedEngine.ofConfig? config = some (build config) := by
    unfold ShippedEngine.ofConfig?
    rw [found]
    rfl
  refine ⟨build config, named, fun engine built => ⟨?_, ?_⟩⟩
  · intro network s s' reply ready answered
    exact ShippedEngine.issued_of_execute ready answered
  · rw [built] at named
    have messages := ShippedEngine.messages_of_ofConfig? named
    have some := runnable.concurrency
    by_cases shared : config.engine ≠ "multicast" ∨ config.concurrency.toNat = 1
    · have count : engine.messagesPerOperation = config.concurrency.toNat := by
        rw [messages]
        rcases shared with http | single
        · rw [if_neg http]
          omega
        · rw [single]
          split <;> rfl
      exact iff_of_true (reachesRate_of_shared plan_eq runnable.threads some count) shared
    · obtain ⟨multicast, notOne⟩ := not_or.mp shared
      have several : 1 < config.concurrency.toNat := by omega
      rw [if_pos (not_not.mp multicast)] at messages
      have room := runnable.room.resolve_left notOne
      exact iff_of_false
        (not_reachesRate_of_one plan_eq runnable.threads several room messages) shared

/-- Five connections for a rate of a hundred. -/
def fanned (engine : String) : RunConfig :=
  { engine, host := "localhost:0", rate := 100, concurrency := 5, duration := .clamped 1 }

/-- Two permits per second, with ten operations each. -/
def fannedPlan : RatePlan :=
  { threadRate := 100, connectionRate := 20, tokensPerSec := 2, batchSize := 10
    tokensPerSec_pos := Nat.two_pos }

theorem fanned_accepted {engine : String} (known : engine ∈ shippedEngines.names) :
    (fanned engine).validate shippedEngines = .ok fannedPlan := by
  have runnable : (fanned engine).IsRunnable shippedEngines :=
    { host := by show "localhost:0" ≠ ""; decide
      rate := by show 0 < 100; decide
      engine := known
      duration := by show 0 < (Duration.clamped 1).nanos; decide
      threads := by show 0 < 1; decide
      concurrency := by show 0 < 5; decide
      room := .inr (by show 1 * 5 * 10 ≤ 100; decide)
      complexity := by show 1 ≤ 1; decide }
  obtain ⟨plan, made, accepted⟩ := runnable.validate_eq_ok
  have same : (fanned engine).plan? = .ok fannedPlan := by
    show RatePlan.make 100 1 5 = .ok fannedPlan
    rfl
  rw [made] at same
  cases same
  exact accepted

theorem ofConfig?_fanned_http : ShippedEngine.ofConfig? (fanned "http") =
    some (.ok (.http (HttpEngine.ofConfig .plain (fanned "http")))) := by
  unfold ShippedEngine.ofConfig?
  rw [ShippedEngine.find?_shipped]
  rfl

theorem ofConfig?_fanned_multicast : ShippedEngine.ofConfig? (fanned "multicast") =
    some (.ok (.multicast (MulticastEngine.ofConfig (fanned "multicast")))) := by
  unfold ShippedEngine.ofConfig?
  rw [ShippedEngine.find?_shipped]
  rfl

/-- With an HTTP engine these connections reach their rate, with a multicast engine they do not. -/
theorem reaches_rate_iff_fanned :
    (fanned "http").ReachesRate fannedPlan (.http (HttpEngine.ofConfig .plain (fanned "http"))) ∧
    ¬ (fanned "multicast").ReachesRate fannedPlan
        (.multicast (MulticastEngine.ofConfig (fanned "multicast"))) := by
  have accepted : (fanned "http").validate shippedEngines = .ok fannedPlan :=
    fanned_accepted (by decide +kernel)
  have accepted' : (fanned "multicast").validate shippedEngines = .ok fannedPlan :=
    fanned_accepted (by decide +kernel)
  obtain ⟨-, _, found, reaches⟩ := reaches_rate_iff (fanned "http") accepted
  obtain ⟨-, _, found', reaches'⟩ := reaches_rate_iff (fanned "multicast") accepted'
  rw [ofConfig?_fanned_http] at found
  rw [ofConfig?_fanned_multicast] at found'
  cases found
  cases found'
  refine ⟨(reaches _ rfl).2.mpr (.inl (by decide)), fun reached => ?_⟩
  exact absurd ((reaches' _ rfl).2.mp reached) (by decide)

/-- **A shipped engine falls short of the rate.**  For a rate of a hundred, with five connections, twenty
    datagrams per second are planned. -/
theorem multicast_falls_short :
    (fanned "multicast").validate shippedEngines = .ok fannedPlan ∧
    ∃ engine, ShippedEngine.ofConfig? (fanned "multicast") = some (.ok engine) ∧
      (fanned "multicast").plannedLoad fannedPlan engine +
          (fanned "multicast").threads.toNat * (fanned "multicast").concurrency.toNat <
        (fanned "multicast").rate.toNat :=
  ⟨fanned_accepted (by decide +kernel), _, ofConfig?_fanned_multicast, by decide⟩

end RunConfig

end LoadGen
