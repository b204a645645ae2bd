import LoadGen.Limiter
import LoadGen.Proofs.Trace
import Mathlib.Data.List.Chain

namespace LoadGen

/-!
# Permits one after another

A task asks for a permit whenever it likes, and takes it whenever it is woken, but not before it is due.
The instants of its permits are all that a limiter depends on.

* `Limiter.Counter.serve` — one visit of the task, if it can go like this;
* `Limiter.Counter.Reached` — the limiters that visits lead to, each with the permits it has handed out;
* `Limiter.Permit.Precedes`, `Limiter.Counter.Reached.orderly` — permits follow from each other;
* `Limiter.Permit.due_add_le` — so they are due a period apart;
* `Limiter.Counter.capacity_is_never_banked` — no permit comes before its time, whatever the task does.
-/

namespace Limiter

/-- When a task asks for a permit, and when it is there to take it. -/
structure Visit where
  asked : Nat
  taken : Nat
  deriving DecidableEq

/-- When a permit was asked for, when it was due, and when it was handed out. -/
structure Permit where
  asked : Nat
  due : Nat
  granted : Nat
  deriving DecidableEq

/-- A limiter, and the instant at which its last permit was handed out. -/
structure Counter where
  limiter : Limiter
  since : Nat := 0
  deriving DecidableEq

/-! ### One permit after another -/

namespace Permit

/-- A permit is due as the one before it says, and comes no earlier than that one. -/
structure Precedes (period : Nat) (p q : Permit) : Prop where
  due_eq : q.due = nextDue period p.due p.granted
  granted_le : p.granted ≤ q.granted

theorem Precedes.due_add_le {period : Nat} {p q : Permit} (h : Precedes period p q) :
    p.due + period ≤ q.due := by
  rw [h.due_eq]
  exact add_period_le_nextDue

/-- **Permits are due a period apart**, however late they are taken. -/
theorem due_add_le {period k : Nat} {p q : Permit} {later : List Permit}
    (chain : (p :: later).IsChain (Precedes period)) (there : (p :: later)[k]? = some q) :
    p.due + k * period ≤ q.due := by
  -- Each permit is due a period after the one before it at the earliest, so places count periods.
  induction later generalizing p k with
  | nil =>
    cases k with
    | zero => simp_all
    | succ k => simp at there
  | cons next later ih =>
    obtain ⟨first, chain⟩ := List.isChain_cons_cons.mp chain
    cases k with
    | zero => simp_all
    | succ k =>
      have step := first.due_add_le
      have rest := ih chain there
      rw [Nat.succ_mul]
      omega

end Permit

/-! ### Visits -/

namespace Counter

/-- A visit, if it can go like this: nobody asks before the last permit was handed out, and no permit is
    taken before it is due. -/
def serve (c : Counter) (visit : Visit) : Option Counter :=
  if c.since ≤ visit.asked ∧ visit.asked ≤ visit.taken ∧
      (c.limiter.ask visit.asked).isDue visit.taken then
    some ⟨(c.limiter.ask visit.asked).grant visit.taken, visit.taken⟩
  else none

/-- The permit of a visit. -/
def permits (c : Counter) (visit : Visit) : List Permit :=
  [⟨visit.asked, c.limiter.due.getD visit.asked, visit.taken⟩]

/-- The limiter for a number of permits per second, which nobody has asked. -/
def ofRate (rate : Nat) : Counter := { limiter := .ofRate rate }

/-- The limiters that visits lead to, each with the permits it has handed out. -/
abbrev Reached (start : Counter) (handed : List Permit) (c : Counter) : Prop :=
  Trace.Reached serve permits start handed c

/-- What a visit does. -/
theorem serve_eq_some {c c' : Counter} {visit : Visit} (h : c.serve visit = some c') :
    c.since ≤ visit.asked ∧ visit.asked ≤ visit.taken ∧
      c.limiter.due.getD visit.asked ≤ visit.taken ∧
      c' = ⟨⟨c.limiter.period, some (nextDue c.limiter.period.nanos (c.limiter.due.getD visit.asked)
        visit.taken)⟩, visit.taken⟩ := by
  unfold serve at h
  split at h
  · rename_i able
    obtain ⟨free, on, due⟩ := able
    refine ⟨free, on, by simpa [isDue, ask] using due, ?_⟩
    simp [← Option.some.inj h, grant, ask]
  · cases h

/-- A visit to a limiter that has handed out a permit, once the next one is due. -/
theorem serve_of_due {limiter : Limiter} {due since : Nat} (visit : Visit)
    (next : limiter.due = some due) (free : since ≤ visit.asked) (on : visit.asked ≤ visit.taken)
    (ripe : due ≤ visit.taken) :
    serve ⟨limiter, since⟩ visit =
      some ⟨⟨limiter.period, some (nextDue limiter.period.nanos due visit.taken)⟩, visit.taken⟩ := by
  simp [serve, free, on, isDue, ask, grant, next, ripe]

/-- The permits that have been handed out follow from each other, and the next one will. -/
structure Orderly (period : Nat) (handed : List Permit) (c : Counter) : Prop where
  period_eq : c.limiter.period.nanos = period
  /-- The first permit is due when it is asked for. -/
  first : ∀ p ∈ handed.head?, p.due = p.asked
  ripe : ∀ p ∈ handed, p.due ≤ p.granted
  chain : handed.IsChain (Permit.Precedes period)
  due_eq : c.limiter.due = handed.getLast?.map fun p => nextDue period p.due p.granted
  since_eq : ∀ p ∈ handed.getLast?, p.granted = c.since

/-- A visit keeps the order. -/
theorem Orderly.serve {period : Nat} {handed : List Permit} {c c' : Counter} {visit : Visit}
    (h : Orderly period handed c) (served : c.serve visit = some c') :
    Orderly period (handed ++ c.permits visit) c' := by
  obtain ⟨free, on, ripe, rfl⟩ := serve_eq_some served
  refine ⟨h.period_eq, ?_, ?_, ?_, ?_, ?_⟩
  · intro p head
    cases handed with
    | nil =>
      -- Nothing was due before, so this permit is due at once.
      have none : c.limiter.due = none := h.due_eq
      simp only [permits, none, List.nil_append, List.head?_cons, Option.mem_def,
        Option.some.injEq] at head
      rw [← head]
      rfl
    | cons first later => exact h.first p head
  · intro p mem
    rcases List.mem_append.mp mem with old | new
    · exact h.ripe p old
    · rw [List.mem_singleton.mp new]
      exact ripe
  · refine List.isChain_append.mpr ⟨h.chain, .singleton _, ?_⟩
    rintro p last q ⟨⟩
    have due := h.due_eq
    have before := h.since_eq p last
    rw [Option.mem_def.mp last, Option.map_some] at due
    refine ⟨?_, show p.granted ≤ visit.taken by omega⟩
    show c.limiter.due.getD visit.asked = nextDue period p.due p.granted
    rw [due, Option.getD_some]
  · simp [permits, h.period_eq]
  · simp [permits]

/-- **All permits that are handed out follow from each other.** -/
theorem Reached.orderly {rate : Nat} {handed : List Permit} {c : Counter}
    (h : Reached (ofRate rate) handed c) : Orderly (max (nanosPerSec / rate) 1) handed c := by
  induction h with
  | start => exact ⟨rfl, nofun, nofun, .nil, rfl, nofun⟩
  | next before now ih => exact ih.serve now

/-! ### A task that is hardly ever late -/

/-- When a task asks for its permits that asks for the first at once, and for each of the others as soon as
    it has taken the one before. -/
def again (taken : Nat → Nat) : Nat → Nat
  | 0 => 0
  | k + 1 => taken k

/-- The permits of such a task, when each is due a period after the one before. -/
def streak (period : Nat) (taken : Nat → Nat) (count : Nat) : List Permit :=
  (List.range count).map fun k => ⟨again taken k, k * period, taken k⟩

theorem streak_succ (period : Nat) (taken : Nat → Nat) (count : Nat) :
    streak period taken (count + 1) =
      streak period taken count ++ [⟨again taken count, count * period, taken count⟩] := by
  simp [streak, List.range_succ]

/-- A permit that is taken within the tolerance leaves the schedule as it is. -/
theorem nextDue_of_near (period : Nat) {due now : Nat} (near : now ≤ due + lateTolerance) :
    nextDue period due now = due + period := by
  rw [nextDue, if_neg (Nat.not_lt_of_le near)]

/-- **Permits that are taken within the tolerance are due a period apart**, exactly. -/
theorem exists_streak (rate : Nat) (taken : Nat → Nat) (count : Nat)
    (on : ∀ k < count, taken k ≤ taken (k + 1))
    (ripe : ∀ k ≤ count, k * max (nanosPerSec / rate) 1 ≤ taken k)
    (near : ∀ k ≤ count, taken k ≤ k * max (nanosPerSec / rate) 1 + lateTolerance) :
    Reached (ofRate rate) (streak (max (nanosPerSec / rate) 1) taken (count + 1))
      ⟨⟨periodOf rate, some ((count + 1) * max (nanosPerSec / rate) 1)⟩, taken count⟩ := by
  induction count with
  | zero =>
    have next := nextDue_of_near (max (nanosPerSec / rate) 1) (near 0 (Nat.le_refl 0))
    have served : (ofRate rate).serve ⟨0, taken 0⟩ =
        some ⟨⟨periodOf rate, some ((0 + 1) * max (nanosPerSec / rate) 1)⟩, taken 0⟩ := by
      rw [Nat.zero_mul, Nat.zero_add] at next
      simp [serve, ofRate, Limiter.ofRate, isDue, ask, grant, periodOf, next]
    have told : streak (max (nanosPerSec / rate) 1) taken (0 + 1) =
        [] ++ (ofRate rate).permits ⟨0, taken 0⟩ := by
      simp [streak, again, permits, ofRate, Limiter.ofRate]
    rw [told]
    exact Trace.Reached.start.next served
  | succ count ih =>
    have before := ih (fun k lt => on k (by omega)) (fun k le => ripe k (by omega))
      fun k le => near k (by omega)
    have next := nextDue_of_near (max (nanosPerSec / rate) 1) (near (count + 1) (Nat.le_refl _))
    let limiter : Limiter := ⟨periodOf rate, some ((count + 1) * max (nanosPerSec / rate) 1)⟩
    have due : limiter.due = some ((count + 1) * max (nanosPerSec / rate) 1) := rfl
    have served := serve_of_due ⟨taken count, taken (count + 1)⟩ due (Nat.le_refl (taken count))
      (on count (by omega)) (ripe (count + 1) (Nat.le_refl _))
    rw [show limiter.period.nanos = max (nanosPerSec / rate) 1 from rfl, next, ← Nat.succ_mul] at served
    rw [streak_succ]
    exact before.next served

/-! ### How many permits come in a stretch of time -/

/-- No more elements are of a kind than there are places before which all of them stand. -/
theorem countP_le_of_lt {α : Type} {l : List α} {kind : α → Bool} {bound : Nat}
    (before : ∀ k a, l[k]? = some a → kind a = true → k < bound) : l.countP kind ≤ bound := by
  have none : (l.drop bound).countP kind = 0 := by
    rw [List.countP_eq_zero]
    intro a mem holds
    obtain ⟨k, there⟩ := List.mem_iff_getElem?.mp mem
    rw [List.getElem?_drop] at there
    have place := before _ a there holds
    omega
  calc l.countP kind = (l.take bound ++ l.drop bound).countP kind := by rw [List.take_append_drop]
    _ = (l.take bound).countP kind := by rw [List.countP_append, none, Nat.add_zero]
    _ ≤ (l.take bound).length := List.countP_le_length
    _ ≤ bound := List.length_take_le bound l

/-- **No permit comes before its time.** -/
theorem Reached.le_granted {rate k : Nat} {permits : List Permit} {c : Counter} {first p : Permit}
    (h : Reached (ofRate rate) permits c) (head : permits.head? = some first)
    (there : permits[k]? = some p) : first.asked + k * max (nanosPerSec / rate) 1 ≤ p.granted := by
  have orderly := h.orderly
  have asked := orderly.first first head
  have ripe := orderly.ripe p (List.mem_of_getElem? there)
  obtain ⟨later, rfl⟩ := List.head?_eq_some_iff.mp head
  have due := Permit.due_add_le orderly.chain there
  omega

/-- **Unused capacity is never banked.**  Counted from zero, no permit comes earlier than its number of
    periods after the first was asked for, whenever the task asks and however late it is woken.  So no more
    permits come in a window than whole periods fit into it, and one more; and a task that asks again at
    once and is woken when its permit is due gets as many. -/
theorem capacity_is_never_banked (rate : Nat) :
    (∀ (permits : List Permit) (c : Counter) (first : Permit),
      Reached (ofRate rate) permits c → permits.head? = some first →
      (∀ k p, permits[k]? = some p → first.asked + k * max (nanosPerSec / rate) 1 ≤ p.granted) ∧
      ∀ window, permits.countP (fun p => p.granted ≤ first.asked + window) ≤
        window / max (nanosPerSec / rate) 1 + 1) ∧
    ∀ window, ∃ permits c first, Reached (ofRate rate) permits c ∧ permits.head? = some first ∧
      permits.countP (fun p => p.granted ≤ first.asked + window) =
        window / max (nanosPerSec / rate) 1 + 1 := by
  let period := max (nanosPerSec / rate) 1
  have some_ : 0 < period := Nat.le_max_right _ 1
  refine ⟨fun permits c first h head => ⟨fun k p there => h.le_granted head there, fun window => ?_⟩,
    fun window => ?_⟩
  · apply countP_le_of_lt
    intro k p there within
    have late : first.asked + k * period ≤ p.granted := h.le_granted head there
    have early := of_decide_eq_true within
    exact Nat.lt_succ_of_le ((Nat.le_div_iff_mul_le some_).mpr (by omega))
  · -- Every permit of this task comes when it is due.
    have steady (k : Nat) : k * period ≤ (k + 1) * period := Nat.mul_le_mul_right _ (Nat.le_succ k)
    refine ⟨_, _, ⟨0, 0, 0⟩, exists_streak rate (· * period) (window / period)
      (fun k _ => steady k) (fun k _ => Nat.le_refl _) (fun k _ => Nat.le_add_right _ _), ?_, ?_⟩
    · simp [streak, again, List.head?_range]
    · rw [streak, List.countP_map, List.countP_eq_length.mpr, List.length_range]
      intro k mem
      have few : k ≤ window / period := Nat.le_of_lt_succ (List.mem_range.mp mem)
      have within : k * period ≤ window :=
        Nat.le_trans (Nat.mul_le_mul_right _ few) (Nat.div_mul_le_self _ _)
      simpa using within

/-- A task of twenty permits per second that does not ask for half a second. -/
def idler : List Visit :=
  [⟨0, 0⟩, ⟨500000000, 500000000⟩, ⟨500000000, 550000000⟩, ⟨550000000, 600000000⟩]

theorem capacity_is_never_banked_idler :
    ∃ permits c, Reached (ofRate 20) permits c ∧ permits.map Permit.granted = idler.map Visit.taken ∧
      (∀ k p, permits[k]? = some p → 0 + k * max (nanosPerSec / 20) 1 ≤ p.granted) ∧
      permits.countP (fun p => p.granted ≤ 0 + 600000000) ≤ 13 := by
  have able : (Trace.run serve (ofRate 20) idler).isSome = true := by decide
  obtain ⟨c, done⟩ := Option.isSome_iff_exists.mp able
  have reached : Reached (ofRate 20) _ c := Trace.reached_of_run done
  obtain ⟨spaced, few⟩ := (capacity_is_never_banked 20).1 _ c ⟨0, 0, 0⟩ reached (by decide)
  exact ⟨_, c, reached, by decide, spaced, few 600000000⟩

end Counter

end Limiter

end LoadGen
