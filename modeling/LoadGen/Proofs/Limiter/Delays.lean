import LoadGen.Proofs.Limiter.Permits
import LoadGen.Rehearsal.Pacing

namespace LoadGen

/-!
# What becomes of a delay

A permit that comes more than the tolerance late pushes back all that are due after it.  A smaller delay
leaves them where they were, so that the permits after it come closer together, or all at once.

* `Limiter.Permit.madeUp` — the part of a delay that is made up;
* `Limiter.Permit.granted_add_le` — permits are a period apart, but for what is made up;
* `Limiter.Counter.Reached.count_granted_le` — how many permits can come at one instant;
* `Limiter.Counter.small_delays_are_made_up` — which delays are made up, and at which rates it matters;
* `Limiter.Counter.permits_come_at_once` — permits that do not keep their distance.
-/

namespace Limiter

namespace Permit

/-- The part of the delay of a permit that the permits after it make up. -/
def madeUp (p : Permit) : Nat :=
  if p.granted ≤ p.due + lateTolerance then p.granted - p.due else 0

theorem madeUp_le (p : Permit) : p.madeUp ≤ lateTolerance := by
  unfold madeUp
  split <;> omega

/-- The next permit is due a period after this one came, but for what is made up. -/
theorem Precedes.granted_add_le {period : Nat} {p q : Permit} (h : Precedes period p q)
    (ripe : p.due ≤ p.granted) : p.granted + period ≤ q.due + p.madeUp := by
  rw [h.due_eq, nextDue, madeUp]
  split <;> split <;> omega

/-- **Permits are a period apart, but for what is made up.** -/
theorem granted_add_le {period n : Nat} {p q : Permit} {later : List Permit}
    (chain : (p :: later).IsChain (Precedes period)) (ripe : p.due ≤ p.granted)
    (there : later[n]? = some q) : p.granted + (n + 1) * period ≤ q.due + p.madeUp := by
  cases later with
  | nil => simp at there
  | cons next later =>
    -- Only the next permit can make up for this one; from there on due instants are a period apart.
    obtain ⟨first, chain⟩ := List.isChain_cons_cons.mp chain
    have step := first.granted_add_le ripe
    have rest := due_add_le chain there
    rw [Nat.succ_mul]
    omega

/-- So many permits come at one instant at most. -/
theorem count_granted_le {period : Nat} (some_ : 0 < period) (instant : Nat) {permits : List Permit}
    (ripe : ∀ p ∈ permits, p.due ≤ p.granted) (chain : permits.IsChain (Precedes period)) :
    permits.countP (fun p => p.granted = instant) ≤ lateTolerance / period + 1 := by
  induction permits with
  | nil => exact Nat.zero_le _
  | cons p later ih =>
    by_cases here : p.granted = instant
    · -- The first permit of the instant has made up for no more than the tolerance.
      apply Counter.countP_le_of_lt
      intro k q there same
      cases k with
      | zero => exact Nat.succ_pos _
      | succ n =>
        have apart := granted_add_le chain (ripe p List.mem_cons_self) there
        have most := p.madeUp_le
        have due := ripe q (List.mem_cons_of_mem p (List.mem_of_getElem? there))
        have same : q.granted = instant := of_decide_eq_true same
        have few : (n + 1) * period ≤ lateTolerance := by omega
        exact Nat.lt_succ_of_le ((Nat.le_div_iff_mul_le some_).mpr few)
    · rw [List.countP_cons_of_neg (by simpa using here)]
      exact ih (fun q mem => ripe q (List.mem_cons_of_mem p mem)) chain.tail

end Permit

namespace Counter

section

variable {rate : Nat} {permits : List Permit} {c : Counter}

/-- Permits are a period apart, but for what is made up. -/
theorem Reached.granted_add_le (h : Reached (ofRate rate) permits c) {i n : Nat} {p q : Permit}
    (here : permits[i]? = some p) (there : permits[i + (n + 1)]? = some q) :
    p.granted + (n + 1) * max (nanosPerSec / rate) 1 ≤ q.granted + p.madeUp := by
  have orderly := h.orderly
  have ripe := orderly.ripe p (List.mem_of_getElem? here)
  have ripe' := orderly.ripe q (List.mem_of_getElem? there)
  obtain ⟨within, same⟩ := List.getElem?_eq_some_iff.mp here
  have rest : permits.drop i = p :: permits.drop (i + 1) := by
    rw [← same, List.getElem_cons_drop]
  have chain := orderly.chain.drop i
  rw [rest] at chain
  have later : (permits.drop (i + 1))[n]? = some q := by
    rw [List.getElem?_drop, Nat.add_assoc, Nat.add_comm 1 n]
    exact there
  have apart := Permit.granted_add_le chain ripe later
  omega

/-- So many permits come at one instant at most. -/
theorem Reached.count_granted_le (h : Reached (ofRate rate) permits c) (instant : Nat) :
    permits.countP (fun p => p.granted = instant) ≤
      lateTolerance / max (nanosPerSec / rate) 1 + 1 :=
  Permit.count_granted_le (Nat.le_max_right _ 1) instant h.orderly.ripe h.orderly.chain

/-- Permits come one at a time if the period is longer than the tolerance. -/
theorem Reached.pairwise_lt (h : Reached (ofRate rate) permits c)
    (long : lateTolerance < max (nanosPerSec / rate) 1) :
    permits.Pairwise fun p q => p.granted < q.granted := by
  rw [List.pairwise_iff_getElem]
  intro i j hi hj lt
  obtain ⟨n, rfl⟩ : ∃ n, j = i + (n + 1) := ⟨j - i - 1, by omega⟩
  have apart := h.granted_add_le (List.getElem?_eq_getElem hi) (List.getElem?_eq_getElem hj)
  have most := permits[i].madeUp_le
  rw [Nat.succ_mul] at apart
  omega

end

/-- The periods that are longer than the tolerance. -/
theorem lateTolerance_lt_iff (rate : Nat) :
    lateTolerance < max (nanosPerSec / rate) 1 ↔ 0 < rate ∧ rate < 200 := by
  rcases Nat.eq_zero_or_pos rate with rfl | some_
  · simp
  · have share : 5000001 ≤ nanosPerSec / rate ↔ 5000001 * rate ≤ nanosPerSec :=
      Nat.le_div_iff_mul_le some_
    have longer : lateTolerance < max (nanosPerSec / rate) 1 ↔ 5000001 ≤ nanosPerSec / rate := by
      simp only [lateTolerance, nanosPerMilli]
      omega
    rw [longer, share]
    simp only [nanosPerSec]
    omega

/-- A delay within the tolerance is made up at once. -/
theorem exists_madeUp (rate : Nat) {delay : Nat} (small : delay ≤ lateTolerance) :
    ∃ permits c p q, Reached (ofRate rate) permits c ∧ permits = [p, q] ∧ p.granted = p.due + delay ∧
      q.granted = p.granted + (max (nanosPerSec / rate) 1 - delay) := by
  let period := max (nanosPerSec / rate) 1
  have reached := exists_streak rate (fun k => max delay (k * period)) 1
    (fun k _ => Nat.max_le.mpr ⟨Nat.le_max_left _ _,
      Nat.le_trans (Nat.mul_le_mul_right _ (Nat.le_succ k)) (Nat.le_max_right _ _)⟩)
    (fun k _ => Nat.le_max_right _ _)
    (fun k _ => Nat.max_le.mpr ⟨Nat.le_add_left_of_le small, Nat.le_add_right _ _⟩)
  refine ⟨_, _, ⟨0, 0, delay⟩, ⟨delay, period, max delay period⟩, reached, ?_, ?_, ?_⟩
  · simp [streak, List.range_succ, again, period]
  · simp
  · show max delay period = delay + (period - delay)
    omega

/-- A task that is woken for the first permit when the tolerance is over gets the others at once. -/
theorem exists_burst (rate : Nat) :
    ∃ permits c, Reached (ofRate rate) permits c ∧
      permits.length = lateTolerance / max (nanosPerSec / rate) 1 + 1 ∧
      ∀ p ∈ permits, p.granted = lateTolerance := by
  refine ⟨_, _, exists_streak rate (fun _ => lateTolerance)
    (lateTolerance / max (nanosPerSec / rate) 1) (fun _ _ => Nat.le_refl _) (fun k le => ?_)
    (fun k _ => Nat.le_add_left _ _), ?_, ?_⟩
  · exact Nat.le_trans (Nat.mul_le_mul_right _ le) (Nat.div_mul_le_self _ _)
  · simp [streak]
  · intro p mem
    obtain ⟨k, -, rfl⟩ := List.mem_map.mp mem
    rfl

/-- **Small delays are made up.**  Permits are a period apart, but for the delay of the earlier one, which
    is made up if it is within the tolerance, and not at all if it is greater.  So the permits of all tasks
    come one at a time exactly if the period is longer than the tolerance, as it is below 200 permits per
    second; else as many can come at one instant as periods fit into the tolerance, and one more. -/
theorem small_delays_are_made_up (rate : Nat) :
    (∀ permits c, Reached (ofRate rate) permits c → ∀ i n p q,
      permits[i]? = some p → permits[i + (n + 1)]? = some q →
        p.granted + (n + 1) * max (nanosPerSec / rate) 1 ≤ q.granted + p.madeUp) ∧
    (∀ delay ≤ lateTolerance, ∃ permits c p q, Reached (ofRate rate) permits c ∧ permits = [p, q] ∧
      p.granted = p.due + delay ∧ q.granted = p.granted + (max (nanosPerSec / rate) 1 - delay)) ∧
    ((∀ permits c, Reached (ofRate rate) permits c →
      permits.Pairwise fun p q => p.granted < q.granted) ↔ 0 < rate ∧ rate < 200) ∧
    (∀ permits c, Reached (ofRate rate) permits c → ∀ instant,
      permits.countP (fun p => p.granted = instant) ≤ lateTolerance / max (nanosPerSec / rate) 1 + 1) ∧
    ∃ permits c, Reached (ofRate rate) permits c ∧
      permits.length = lateTolerance / max (nanosPerSec / rate) 1 + 1 ∧
      ∀ p ∈ permits, p.granted = lateTolerance := by
  refine ⟨fun permits c h i n p q here there => h.granted_add_le here there,
    fun delay small => exists_madeUp rate small, ?_, fun permits c h instant => h.count_granted_le instant,
    exists_burst rate⟩
  rw [← lateTolerance_lt_iff]
  constructor
  · intro apart
    -- A delay of the whole tolerance brings the next permit forward to the same instant.
    obtain ⟨permits, c, p, q, reached, rfl, -, next⟩ := exists_madeUp rate (Nat.le_refl lateTolerance)
    have later : p.granted < q.granted := by simpa using apart _ c reached
    omega
  · intro long permits c h
    exact h.pairwise_lt long

theorem small_delays_are_made_up_hundred :
    (∀ permits c, Reached (ofRate 100) permits c →
      permits.Pairwise fun p q => p.granted < q.granted) ∧
    ∃ permits c, Reached (ofRate 1000) permits c ∧ permits.length = 6 ∧
      ∀ p ∈ permits, p.granted = lateTolerance := by
  obtain ⟨-, -, apart, -, -⟩ := small_delays_are_made_up 100
  obtain ⟨-, -, -, -, burst⟩ := small_delays_are_made_up 1000
  exact ⟨apart.mpr (by decide), burst⟩

/-- **Permits come at once.**  At a thousand permits per second, a task that asks for its second permit three
    milliseconds after the first gets it two milliseconds late, and two more at the same instant. -/
theorem permits_come_at_once :
    (∃ c p q, Reached (ofRate 1000) [⟨0, 0, 0⟩, p, q] c ∧ p.due < p.granted ∧
      ¬ p.granted + max (nanosPerSec / 1000) 1 ≤ q.granted ∧ p.granted = q.granted) ∧
    Rehearsal.Pacing.times (.ofRate 1000) [.acquire 1, .sleep 3, .acquire 4] = [0, 3, 3, 3, 3, 4] := by
  refine ⟨?_, by decide +kernel⟩
  let visits : List Visit := [⟨0, 0⟩, ⟨3000000, 3000000⟩, ⟨3000000, 3000000⟩]
  have able : (Trace.run serve (ofRate 1000) visits).isSome = true := by decide
  obtain ⟨c, done⟩ := Option.isSome_iff_exists.mp able
  have reached : Reached (ofRate 1000) _ c := Trace.reached_of_run done
  have told : Trace.told serve permits (ofRate 1000) visits =
      [⟨0, 0, 0⟩, ⟨3000000, 1000000, 3000000⟩, ⟨3000000, 2000000, 3000000⟩] := by decide +kernel
  rw [told] at reached
  exact ⟨c, _, _, reached, by decide, by decide, rfl⟩

end Counter

end Limiter

end LoadGen
