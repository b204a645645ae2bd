import LoadGen.Proofs.Config.Plan
import LoadGen.Proofs.Worker.Stopping
import Mathlib.Tactic.Ring

namespace LoadGen

/-!
# The pace of a worker

How many operations a worker can start in a stretch of time, when its clock never goes back.  Every
operation belongs to a batch, every batch has a permit, and permits are a period apart.  The period is
a whole number of nanoseconds, rounded down, so that a worker can get ahead of its rate.

* `Worker.Scene.Timed` — the scenes that can be reached, with the instant of everything that is told;
* `Worker.Scene.Timed.halt` — a trace up to an instant is a trace;
* `Worker.Scene.Spaced` — when a worker gets its permits;
* `Worker.Scene.Timed.startedBy_le` — no more than one batch a period, and one at the first instant;
* `Worker.Scene.exists_timed` — a worker that is never late starts as many;
* `Worker.Scene.pace_bound` — the rates that no worker gets ahead of.
-/

namespace Worker

namespace Scene

/-! ### A clock that never goes back -/

/-- Whether the clock stays or goes forward. -/
def Deed.goesOn (c : Scene) : Deed → Bool
  | .others shared => c.shared.now ≤ shared.now
  | _ => true

/-- Does a deed that does not turn the clock back. -/
def advance (c : Scene) (deed : Deed) : Option Scene :=
  if deed.goesOn c then c.perform deed else none

/-- What is told at an instant, with the instant. -/
def stampedAt (now : Nat) (acts : List Act) : List (Nat × Act) := acts.map fun act => (now, act)

/-- What a deed adds to the journal, with the instant. -/
def stamps (c : Scene) (deed : Deed) : List (Nat × Act) := stampedAt c.shared.now (c.acts deed)

/-- The scenes that deeds lead to while the clock never goes back, each with the journal and its
    instants. -/
abbrev Timed (start : Scene) (told : List (Nat × Act)) (c : Scene) : Prop :=
  Trace.Reached advance stamps start told c

/-- The instant at which a permit was first asked for. -/
def firstAsk? (told : List (Nat × Act)) : Option Nat :=
  (told.find? fun stamp => stamp.2 = .looked false).map Prod.fst

/-- The number of operations that were called by an instant. -/
def startedBy (limit : Nat) (told : List (Nat × Act)) : Nat :=
  calls ((told.filter fun stamp => stamp.1 ≤ limit).map Prod.snd)

theorem firstAsk?_append (told more : List (Nat × Act)) :
    firstAsk? (told ++ more) = (firstAsk? told).or (firstAsk? more) := by
  unfold firstAsk?
  rw [List.find?_append, Option.map_or]

section

variable {id : Nat} {plan : RatePlan} {shared : Shared} {start c c' : Scene} {deed : Deed}
  {told : List (Nat × Act)} {limit : Nat}

theorem perform_of_advance (h : c.advance deed = some c') : c.perform deed = some c' := by
  unfold advance at h
  split at h
  · exact h
  · cases h

/-- Time passes only while nothing is told. -/
theorem now_of_advance (h : c.advance deed = some c') :
    c.shared.now ≤ c'.shared.now ∧ (c'.shared.now = c.shared.now ∨ c.stamps deed = []) := by
  unfold advance at h
  split at h
  · rename_i on
    cases deed with
    | own event =>
      obtain ⟨⟨shared, worker⟩, moved, rfl⟩ := Option.map_eq_some_iff.mp h
      have same : shared.now = c.shared.now := (leaves_of_move (move_of_step moved)).now_eq
      exact ⟨Nat.le_of_eq same.symm, .inl same⟩
    | others shared =>
      cases h
      exact ⟨of_decide_eq_true on, .inr rfl⟩
    | start | stop | release =>
      obtain ⟨-, rfl⟩ := give_eq_some h
      exact ⟨Nat.le_refl _, .inl rfl⟩
  · cases h

theorem map_snd_stampedAt (now : Nat) (acts : List Act) :
    (stampedAt now acts).map Prod.snd = acts := by
  unfold stampedAt
  rw [List.map_map]
  exact List.map_id _

/-- Without the instants it is a journal. -/
theorem Timed.untimed (h : Timed start told c) : Reached start (told.map Prod.snd) c := by
  induction h with
  | start => exact .start
  | next before now ih =>
    rw [List.map_append, stamps, map_snd_stampedAt]
    exact ih.next (perform_of_advance now)

/-- Everything that is told lies between the start and now. -/
theorem Timed.stamp_le (h : Timed start told c) :
    start.shared.now ≤ c.shared.now ∧
      ∀ stamp ∈ told, start.shared.now ≤ stamp.1 ∧ stamp.1 ≤ c.shared.now := by
  induction h with
  | start => exact ⟨Nat.le_refl _, nofun⟩
  | @next past c c' deed before now ih =>
    obtain ⟨on, -⟩ := now_of_advance now
    refine ⟨Nat.le_trans ih.1 on, fun stamp mem => ?_⟩
    rcases List.mem_append.mp mem with old | new
    · exact ⟨(ih.2 stamp old).1, Nat.le_trans (ih.2 stamp old).2 on⟩
    · obtain ⟨act, -, rfl⟩ := List.mem_map.mp new
      exact ⟨ih.1, on⟩

/-- What a deed tells, it tells by an instant or after it. -/
theorem filter_stamps (limit : Nat) (c : Scene) (deed : Deed) :
    ((c.stamps deed).filter fun stamp => stamp.1 ≤ limit) =
      if c.shared.now ≤ limit then c.stamps deed else [] := by
  unfold stamps stampedAt
  split
  · rename_i early
    rw [List.filter_eq_self]
    intro stamp mem
    obtain ⟨act, -, rfl⟩ := List.mem_map.mp mem
    exact decide_eq_true early
  · rename_i late
    rw [List.filter_eq_nil_iff]
    intro stamp mem
    obtain ⟨act, -, rfl⟩ := List.mem_map.mp mem
    exact fun early => late (of_decide_eq_true early)

/-- A trace up to an instant is a trace. -/
theorem Timed.halt (early : start.shared.now ≤ limit) (h : Timed start told c) :
    ∃ c₁, Timed start (told.filter fun stamp => stamp.1 ≤ limit) c₁ ∧ c₁.shared.now ≤ limit ∧
      (c.shared.now ≤ limit → c₁ = c) := by
  induction h with
  | start => exact ⟨start, .start, early, fun _ => rfl⟩
  | @next past c c' deed before now ih =>
    obtain ⟨c₁, upTo, within, same⟩ := ih
    obtain ⟨on, still⟩ := now_of_advance now
    rw [List.filter_append, filter_stamps]
    by_cases here : c.shared.now ≤ limit
    · rw [if_pos here]
      obtain rfl := same here
      by_cases there : c'.shared.now ≤ limit
      · exact ⟨c', upTo.next now, there, fun _ => rfl⟩
      · -- The instant lies in a stretch in which nothing is told.
        have silent : c₁.stamps deed = [] := still.resolve_left fun same => there (same ▸ here)
        rw [silent, List.append_nil]
        exact ⟨c₁, upTo, within, fun later => absurd later there⟩
    · rw [if_neg here, List.append_nil]
      exact ⟨c₁, upTo, within, fun later => absurd (Nat.le_trans on later) here⟩

/-! ### Operations, batches and permits -/

/-- Whether a worker has a permit that it has not used. -/
def permits : Stage → Nat
  | .permitted => 1
  | _ => 0

theorem permits_proceed (w : Worker) (left : Nat) : permits (w.proceed left).stage = 0 := by
  unfold proceed
  split <;> rfl

/-- A batch that is started uses a permit. -/
theorem begun_le_of_move {s s' : Shared} {w w' : Worker} {event : Event} {acts : List Worker.Act}
    (move : Worker.Move s w event acts s' w') :
    (sights s event).count .begun + permits w'.stage ≤
      (sights s event).count .granted + permits w.stage := by
  cases move with
  | permitted => exact Nat.le_add_right 1 _
  | skipped at_ unseen _ | begun at_ unseen _ =>
    -- An empty batch uses up its permit as well.
    rw [at_, sights, unseen]
    exact Nat.le_refl 1
  | stopped at_ seen =>
    rw [sights_of_stopped at_ seen]
    exact Nat.zero_le _
  | queued at_ taken =>
    rw [permits_proceed]
    exact Nat.zero_le _
  | dropped at_ why =>
    rw [permits_proceed, sights_of_dropped s why]
    exact Nat.zero_le _
  | asked _ unseen =>
    rw [sights, unseen]
    exact Nat.zero_le _
  | start | opened | refused | broken | announced | released | dismissed | returned | panicked | waited
  | closed | cancelled => exact Nat.zero_le _

theorem count_own (target : Act) (acts : List Worker.Act) (other : ∀ act, target ≠ .own act) :
    (acts.map Act.own).count target = 0 := by
  rw [List.count_eq_zero]
  intro mem
  obtain ⟨act, -, same⟩ := List.mem_map.mp mem
  exact other act same.symm

/-- Every batch has a permit of its own. -/
theorem Reached.begun_le {told : List Act} (h : Reached (fresh id plan shared) told c) :
    told.count .begun + permits c.worker.stage ≤ told.count .granted := by
  refine h.induct (motive := fun told c =>
    told.count .begun + permits c.worker.stage ≤ told.count .granted) (Nat.le_refl 0) ?_
  intro told acts c c' h move
  rw [List.count_append, List.count_append]
  cases move with
  | @own event acts shared worker step move told =>
    have next := begun_le_of_move move
    rw [List.count_append, List.count_append, count_own .begun acts nofun, count_own .granted acts nofun]
    show _ + permits worker.stage ≤ _
    omega
  | others _ | started _ | stopped _ => exact h

/-- Every operation is one of a batch that was started. -/
theorem Reached.calls_le {told : List Act} (h : Reached (fresh id plan shared) told c) :
    calls told + c.worker.stage.uncalled ≤ plan.batchSize * told.count .begun := by
  -- What is left of a batch is counted with the calls, so that only its start adds anything.
  refine (h.induct (motive := fun told c => c.worker.batchSize = plan.batchSize ∧
    calls told + c.worker.stage.uncalled ≤ plan.batchSize * told.count .begun)
    ⟨rfl, Nat.zero_le _⟩ ?_).2
  intro told acts c c' ⟨size, h⟩ move
  rw [List.count_append, calls_append, Nat.mul_add]
  cases move with
  | @own event acts shared worker step move told =>
    have next := move.uncalled_le
    rw [size] at next
    rw [List.count_append, count_own .begun acts nofun, calls_step, Nat.add_zero]
    refine ⟨move.batchSize_eq.trans size, ?_⟩
    show _ + worker.stage.uncalled ≤ _
    omega
  | others _ | started _ | stopped _ => exact ⟨size, h⟩

/-- No more operations are called than the permits are good for. -/
theorem Reached.calls_le_granted {told : List Act} (h : Reached (fresh id plan shared) told c) :
    calls told ≤ plan.batchSize * told.count .granted := by
  have batches := h.begun_le
  have operations := h.calls_le
  calc calls told ≤ plan.batchSize * told.count .begun := by omega
    _ ≤ plan.batchSize * told.count .granted := Nat.mul_le_mul_left _ (by omega)

/-! ### The space between permits -/

/-- Whether a worker waits for a permit or has one. -/
def isPaced : Stage → Bool
  | .pacing | .permitted => true
  | _ => false

theorem isPaced_proceed (w : Worker) (left : Nat) : isPaced (w.proceed left).stage = false := by
  unfold proceed
  split <;> rfl

/-- When a worker has asked for its first permit, when the next is due, and how many it has had.  Each
    was due a period after the one before it, or later. -/
inductive Spaced (period now : Nat) (stage : Stage) : Option Nat → Option Nat → Nat → Prop where
  | unasked (idle : isPaced stage = false) : Spaced period now stage none none 0
  | asked {first due granted : Nat} (next : first + granted * period ≤ due)
      (last : first + granted * period ≤ now + period) :
      Spaced period now stage (some first) (some due) granted

namespace Spaced

variable {period now later granted : Nat} {stage stage' : Stage} {first due : Option Nat}

/-- Time passes, and the worker goes on to a stage at which it has no new permit. -/
theorem stroll (h : Spaced period now stage first due granted) (on : now ≤ later)
    (idle : isPaced stage = false → isPaced stage' = false) :
    Spaced period later stage' first due granted := by
  cases h with
  | unasked at_ => exact .unasked (idle at_)
  | asked next last => exact .asked next (Nat.le_trans last (Nat.add_le_add_right on _))

/-- The worker asks for a permit; the first time it is due at once. -/
theorem ask (h : Spaced period now stage first due granted) :
    Spaced period now stage' (first.or (some now)) (some (due.getD now)) granted := by
  cases h with
  | unasked =>
    show Spaced period now stage' (some now) (some now) 0
    exact .asked (by omega) (by omega)
  | asked next last => exact .asked next last

/-- The worker gets a permit that is due. -/
theorem grant {due : Nat} (h : Spaced period now stage first (some due) granted) (ripe : due ≤ now) :
    Spaced period now stage' first (some (Limiter.nextDue period due now)) (granted + 1) := by
  cases h with
  | asked next last =>
    have later : due + period ≤ Limiter.nextDue period due now := Limiter.add_period_le_nextDue
    exact .asked (by rw [Nat.succ_mul]; omega) (by rw [Nat.succ_mul]; omega)

end Spaced

/-- What a worker tells of itself is no look. -/
theorem firstAsk?_own (now : Nat) (acts : List Worker.Act) :
    firstAsk? (stampedAt now (acts.map Act.own)) = none := by
  have none : (stampedAt now (acts.map Act.own)).find?
      (fun stamp => stamp.2 = .looked false) = none := by
    rw [List.find?_eq_none]
    intro stamp mem
    obtain ⟨act, own, rfl⟩ := List.mem_map.mp mem
    obtain ⟨told, -, rfl⟩ := List.mem_map.mp own
    nofun
  rw [firstAsk?, none]
  rfl

/-- A step asks for a permit, gets it, or goes on. -/
theorem Spaced.move {period : Nat} {first : Option Nat} {granted : Nat} {s s' : Shared} {w w' : Worker}
    {event : Event} {acts : List Worker.Act} (same : w.limiter.period.nanos = period)
    (h : Spaced period s.now w.stage first w.limiter.due granted)
    (move : Worker.Move s w event acts s' w') :
    Spaced period s.now w'.stage (first.or (firstAsk? (stampedAt s.now (sights s event))))
      w'.limiter.due (granted + (sights s event).count .granted) := by
  -- Most steps are no look and no permit.
  have goes {stage : Stage} (idle : isPaced stage = false) :
      Spaced period s.now stage (first.or none) w.limiter.due (granted + 0) := by
    rw [Option.or_none]
    exact h.stroll (Nat.le_refl _) fun _ => idle
  cases move with
  | asked at_ unseen =>
    rw [sights, unseen]
    exact h.ask
  | permitted at_ due =>
    rw [at_] at h
    show Spaced period s.now .permitted (first.or none) (w.limiter.grant s.now).due (granted + 1)
    rw [Option.or_none]
    unfold Limiter.isDue at due
    unfold Limiter.grant
    cases at' : w.limiter.due with
    | none =>
      rw [at'] at h
      cases h with
      | unasked idle => cases idle
    | some ripe =>
      rw [at'] at h due
      rw [same]
      exact h.grant (of_decide_eq_true due)
  | skipped at_ unseen _ | begun at_ unseen _ =>
    -- A worker that has a permit has asked for it before.
    rw [at_] at h
    rw [sights, unseen]
    generalize w.limiter.due = due at h
    cases h with
    | unasked idle => cases idle
    | asked next last => exact .asked next last
  | stopped at_ seen =>
    rw [sights_of_stopped at_ seen]
    exact goes rfl
  | queued at_ taken => exact goes (isPaced_proceed w _)
  | dropped at_ why =>
    rw [sights_of_dropped s why]
    exact goes (isPaced_proceed w _)
  | start | opened | refused | broken | announced | released | dismissed | returned | panicked | waited
  | closed | cancelled => exact goes rfl

/-- **Permits are a period apart**, whatever the clock does. -/
theorem Timed.spaced (h : Timed (fresh id plan shared) told c) :
    Spaced (Limiter.periodOf plan.tokensPerSec).nanos c.shared.now c.worker.stage (firstAsk? told)
      c.worker.limiter.due ((told.map Prod.snd).count .granted) := by
  induction h with
  | start => exact .unasked rfl
  | @next past c c' deed before now ih =>
    obtain ⟨on, -⟩ := now_of_advance now
    have move := move_of_perform (perform_of_advance now)
    rw [List.map_append, List.count_append, firstAsk?_append, stamps, map_snd_stampedAt]
    generalize c.acts deed = acts at move ⊢
    cases move with
    | @own event acts shared' worker step move told =>
      have period : c.worker.limiter.period.nanos = (Limiter.periodOf plan.tokensPerSec).nanos :=
        congrArg Duration.nanos (Timed.untimed before).life.period_eq
      have asks : firstAsk? (stampedAt c.shared.now (sights c.shared event ++ acts.map .own)) =
          firstAsk? (stampedAt c.shared.now (sights c.shared event)) := by
        rw [stampedAt, List.map_append, firstAsk?_append]
        exact (congrArg _ (firstAsk?_own _ acts)).trans (Option.or_none)
      rw [asks, List.count_append, count_own .granted acts nofun, Nat.add_zero]
      exact (ih.move period move).stroll on fun idle => idle
    | others _ | started _ | stopped _ =>
      show Spaced _ _ _ ((firstAsk? past).or none) _ (_ + 0)
      rw [Option.or_none]
      exact ih.stroll on fun idle => idle

/-- So many permits fit between the first ask and an instant. -/
theorem Spaced.granted_le {period now first window granted : Nat} {stage : Stage} {due : Option Nat}
    (h : Spaced period now stage (some first) due granted) (some : 0 < period)
    (within : now ≤ first + window) : granted ≤ window / period + 1 := by
  cases h with
  | asked next last =>
    rw [← Nat.sub_le_iff_le_add, Nat.le_div_iff_mul_le some, Nat.sub_mul, Nat.one_mul]
    omega

/-- What is told later does not change when a permit was first asked for. -/
theorem firstAsk?_filter {first : Nat} (asked : firstAsk? told = some first) (early : first ≤ limit) :
    firstAsk? (told.filter fun stamp => stamp.1 ≤ limit) = some first := by
  obtain ⟨ask, found, rfl⟩ := Option.map_eq_some_iff.mp asked
  obtain ⟨looks, before, after, rfl, other⟩ := List.find?_eq_some_iff_append.mp found
  have still : ((before ++ ask :: after).filter fun stamp => stamp.1 ≤ limit).find?
      (fun stamp => stamp.2 = .looked false) = some ask := by
    rw [List.find?_filter, List.find?_eq_some_iff_append]
    refine ⟨by simp [early, of_decide_eq_true looks], before, after, rfl, fun stamp mem => ?_⟩
    have silent : stamp.2 ≠ .looked false := by simpa using other stamp mem
    simp [silent]
  rw [firstAsk?, still]
  rfl

/-- **No more than one batch a period.**  From the first ask for a permit on, a worker starts one batch at
    once, and one more for every period that has passed. -/
theorem Timed.startedBy_le {first : Nat} (window : Nat) (h : Timed (fresh id plan shared) told c)
    (asked : firstAsk? told = some first) :
    startedBy (first + window) told ≤
      plan.batchSize * (window / (Limiter.periodOf plan.tokensPerSec).nanos + 1) := by
  -- The ask is told of between the start and now.
  obtain ⟨ask, found, rfl⟩ := Option.map_eq_some_iff.mp asked
  have early := ((Timed.stamp_le h).2 ask (List.mem_of_find?_eq_some found)).1
  obtain ⟨c₁, upTo, within, -⟩ := Timed.halt (Nat.le_trans early (Nat.le_add_right _ window)) h
  have still : firstAsk? (told.filter fun stamp => stamp.1 ≤ ask.1 + window) = some ask.1 :=
    firstAsk?_filter asked (Nat.le_add_right _ _)
  have spaced := Timed.spaced upTo
  rw [still] at spaced
  have permits := spaced.granted_le (Limiter.period_pos _) within
  exact Nat.le_trans (Timed.untimed upTo).calls_le_granted (Nat.mul_le_mul_left _ permits)

/-! ### A worker that is never late -/

theorem timed_own (event : Event) {worker : Worker} {told : List Act}
    (moved : Worker.step c.shared c.worker event = some (shared, worker))
    (tells : sights c.shared event ++
      (c.worker.heard c.shared event ++ worker.stage.call?.toList.map Worker.Act.called).map .own = told) :
    Timed c (stampedAt c.shared.now told) { shared, worker } := by
  have now : c.advance (.own event) = some { shared, worker } := by
    show (Worker.step c.shared c.worker event).map _ = _
    rw [moved]
    rfl
  have acts : c.acts (.own event) = told := by
    rw [← tells, acts, Worker.acts, moved]
  rw [← acts]
  exact Trace.Reached.start.next now

theorem timed_others (c : Scene) (shared : Shared) (on : c.shared.now ≤ shared.now) :
    Timed c [] { c with shared := { shared with signal := c.shared.signal } } := by
  have now : c.advance (.others shared) =
      some { c with shared := { shared with signal := c.shared.signal } } := by
    unfold advance
    rw [if_pos (show Deed.goesOn c (.others shared) = true from decide_eq_true on)]
    rfl
  exact Trace.Reached.start.next now

/-- An operation that returns at once, whose sample is taken at once. -/
theorem exists_operation (s : Shared) (w : Worker) (left : Nat) :
    ∃ s' told, Timed ⟨s, { w with stage := .executing left }⟩ told ⟨s', w.proceed left⟩ ∧
      s'.now = s.now ∧ s'.signal = s.signal ∧
      calls (told.map Prod.snd) = (nextCalls left).countP Worker.Act.isCall := by
  let pending : Pending :=
    { sample := ⟨.zero, .success⟩, left, deadline := s.now + sampleSendTimeout.nanos }
  let s₁ : Shared := { s with metrics := s.metrics.record .success }
  let s₂ : Shared := { s₁ with success := .empty 1 }
  let s₃ : Shared := { s₂ with success := (Queue.empty 1).push .zero }
  have returned : Timed ⟨s, { w with stage := .executing left }⟩
      (stampedAt s.now [.own (.executed .ok .zero)]) ⟨s₁, { w with stage := .sending pending }⟩ :=
    timed_own (.executed .ok .zero) rfl rfl
  -- Somebody takes the samples that are there.
  have emptied : Timed ⟨s₁, { w with stage := .sending pending }⟩ []
      ⟨s₂, { w with stage := .sending pending }⟩ :=
    timed_others _ s₂ (Nat.le_refl _)
  have taken : Timed ⟨s₂, { w with stage := .sending pending }⟩
      (stampedAt s.now ((.queued pending.sample :: nextCalls left).map .own)) ⟨s₃, w.proceed left⟩ := by
    refine timed_own .send rfl ?_
    rw [call?_proceed]
    rfl
  refine ⟨s₃, _, Trace.Reached.trans returned (Trace.Reached.trans emptied taken), rfl, rfl, ?_⟩
  rw [List.map_append, List.nil_append, map_snd_stampedAt, map_snd_stampedAt, calls_append]
  have own : calls ((Worker.Act.queued pending.sample :: nextCalls left).map Act.own) =
      (nextCalls left).countP Worker.Act.isCall := calls_step s₂ .send _
  rw [own]
  exact Nat.zero_add _

/-- The rest of a batch, at one instant. -/
theorem exists_batch (left : Nat) (s : Shared) (w : Worker) :
    ∃ s' told executed, Timed ⟨s, { w with stage := .executing (left + 1) }⟩ told
        ⟨s', { w with stage := .between, executed }⟩ ∧
      s'.now = s.now ∧ s'.signal = s.signal ∧ calls (told.map Prod.snd) = left := by
  induction left generalizing s w with
  | zero =>
    obtain ⟨s', told, reached, now, signal, count⟩ := exists_operation s w 1
    exact ⟨s', told, _, reached, now, signal, count⟩
  | succ left ih =>
    obtain ⟨s₁, told, reached, now, signal, count⟩ := exists_operation s w (left + 2)
    obtain ⟨s₂, more, executed, rest, now', signal', count'⟩ :=
      ih s₁ { w with executed := w.executed + 1 }
    refine ⟨s₂, told ++ more, executed, Trace.Reached.trans reached rest, now'.trans now,
      signal'.trans signal, ?_⟩
    rw [List.map_append, calls_append, count, count']
    exact Nat.add_comm 1 left

/-- A batch on a permit that is due now. -/
theorem exists_turn {s : Shared} {w : Worker} (unstopped : s.signal.isStopped = false)
    (due : w.limiter.due.getD s.now = s.now) (some_ : 0 < w.batchSize) :
    ∃ s' told executed, Timed ⟨s, { w with stage := .between }⟩ told
        ⟨s', { w with stage := .between, executed, limiter :=
          { w.limiter with due := some (s.now + w.limiter.period.nanos) } }⟩ ∧
      s'.now = s.now ∧ s'.signal = s.signal ∧ calls (told.map Prod.snd) = w.batchSize ∧
      firstAsk? told = some s.now := by
  obtain ⟨left, size⟩ : ∃ left, w.batchSize = left + 1 := ⟨w.batchSize - 1, by omega⟩
  let asked : Limiter := { w.limiter with due := some s.now }
  let granted : Limiter := { w.limiter with due := some (s.now + w.limiter.period.nanos) }
  have ask : Timed ⟨s, { w with stage := .between }⟩ (stampedAt s.now [.looked false])
      ⟨s, { w with stage := .pacing, limiter := asked }⟩ := by
    refine timed_own .checkStop ?_ (by rw [sights, unstopped]; rfl)
    simp [step, unstopped, Limiter.ask, due, asked]
  have grant : Timed ⟨s, { w with stage := .pacing, limiter := asked }⟩ (stampedAt s.now [.granted])
      ⟨s, { w with stage := .permitted, limiter := granted }⟩ := by
    refine timed_own .permit ?_ rfl
    simp [step, Limiter.isDue, Limiter.grant, Limiter.nextDue, asked, granted]
  have begin_ : Timed ⟨s, { w with stage := .permitted, limiter := granted }⟩
      (stampedAt s.now [.looked false, .begun, .own (.called .execute)])
      ⟨s, { w with stage := .executing (left + 1), limiter := granted }⟩ := by
    refine timed_own .recheckStop ?_ (by rw [sights, unstopped]; rfl)
    simp [step, unstopped, size]
  obtain ⟨s', told, executed, batch, now, signal, count⟩ :=
    exists_batch left s { w with limiter := granted }
  refine ⟨s', _, executed, Trace.Reached.trans ask (Trace.Reached.trans grant
    (Trace.Reached.trans begin_ batch)), now, signal, ?_, ?_⟩
  · rw [List.map_append, List.map_append, List.map_append, map_snd_stampedAt, map_snd_stampedAt,
      map_snd_stampedAt, calls_append, calls_append, calls_append, count, size]
    show 0 + (0 + (1 + left)) = left + 1
    omega
  · rw [firstAsk?_append]
    rfl

/-- A worker is released. -/
def opening : List Deed := upToBarrier ++ [.start, .own .release]

/-- A worker that gets its permits as soon as they are due, and whose operations return at once. -/
theorem exists_timed (id : Nat) (plan : RatePlan) (shared : Shared) (some_ : 0 < plan.batchSize)
    (turns : Nat) :
    ∃ told s executed, Timed (fresh id plan shared) told
        ⟨s, { ofPlan id plan with
          state := .running, ready := true, stage := .between, executed
          limiter := ⟨Limiter.periodOf plan.tokensPerSec,
            some (shared.now + (turns + 1) * (Limiter.periodOf plan.tokensPerSec).nanos)⟩ }⟩ ∧
      s.now = shared.now + turns * (Limiter.periodOf plan.tokensPerSec).nanos ∧
      s.signal.isStopped = false ∧ calls (told.map Prod.snd) = plan.batchSize * (turns + 1) ∧
      firstAsk? told = some shared.now := by
  induction turns with
  | zero =>
    let w : Worker := { ofPlan id plan with state := .running, ready := true }
    let s₀ : Shared := ({ shared with signal := { phase := .running } } : Shared).tell
      (.workerPacing id plan.batchSize (Limiter.periodOf plan.tokensPerSec))
    have along : Trace.run advance (fresh id plan shared) opening =
        some ⟨s₀, { w with stage := .between }⟩ := rfl
    have opened : Timed (fresh id plan shared) _ ⟨s₀, { w with stage := .between }⟩ :=
      Trace.reached_of_run along
    obtain ⟨s, told, executed, turn, now, signal, count, asked⟩ :=
      exists_turn (s := s₀) (w := w) rfl rfl some_
    rw [Nat.zero_add, Nat.one_mul, Nat.zero_mul, Nat.add_zero, Nat.mul_one]
    refine ⟨_, s, executed, Trace.Reached.trans opened turn, now, ?_, ?_, ?_⟩
    · rw [signal]
      rfl
    · rw [List.map_append, calls_append, count]
      exact Nat.zero_add _
    · rw [firstAsk?_append, asked]
      rfl
  | succ turns ih =>
    obtain ⟨told, s, executed, reached, now, unstopped, count, asked⟩ := ih
    let period := (Limiter.periodOf plan.tokensPerSec).nanos
    let later : Shared := { s with now := s.now + period }
    let w : Worker := { ofPlan id plan with
      state := .running, ready := true, executed
      limiter := ⟨Limiter.periodOf plan.tokensPerSec, some (shared.now + (turns + 1) * period)⟩ }
    have instant : later.now = shared.now + (turns + 1) * period := by
      rw [Nat.succ_mul, ← Nat.add_assoc, ← now]
    -- The worker rests until its next permit is due, and nothing is told meanwhile.
    have passed : Timed ⟨s, { w with stage := .between }⟩ [] ⟨later, { w with stage := .between }⟩ :=
      timed_others _ later (Nat.le_add_right _ _)
    obtain ⟨s', more, executed', turn, now', signal, count', -⟩ :=
      exists_turn (s := later) (w := w) unstopped instant.symm some_
    have next : later.now + period = shared.now + (turns + 1 + 1) * period := by
      rw [instant, Nat.succ_mul (turns + 1), Nat.add_assoc]
    rw [show later.now + w.limiter.period.nanos = _ from next] at turn
    refine ⟨_, s', executed', Trace.Reached.trans reached (Trace.Reached.trans passed turn),
      now'.trans instant, ?_, ?_, ?_⟩
    · rw [signal]
      exact unstopped
    · rw [List.nil_append, List.map_append, calls_append, count, count']
      show plan.batchSize * (turns + 1) + plan.batchSize = plan.batchSize * (turns + 1 + 1)
      rw [Nat.mul_succ plan.batchSize (turns + 1)]
    · rw [firstAsk?_append, asked]
      rfl

/-- A worker that is never late starts as many operations as there can be. -/
theorem exists_startedBy (id : Nat) (plan : RatePlan) (shared : Shared) (some_ : 0 < plan.batchSize)
    (window : Nat) :
    ∃ told c, Timed (fresh id plan shared) told c ∧ firstAsk? told = some shared.now ∧
      startedBy (shared.now + window) told =
        plan.batchSize * (window / (Limiter.periodOf plan.tokensPerSec).nanos + 1) := by
  obtain ⟨told, s, executed, reached, now, -, count, asked⟩ :=
    exists_timed id plan shared some_ (window / (Limiter.periodOf plan.tokensPerSec).nanos)
  refine ⟨told, _, reached, asked, ?_⟩
  -- All of that is told within the window.
  have within : s.now ≤ shared.now + window := by
    rw [now]
    exact Nat.add_le_add_left (Nat.div_mul_le_self _ _) _
  have whole : (told.filter fun stamp => stamp.1 ≤ shared.now + window) = told := by
    rw [List.filter_eq_self]
    intro stamp mem
    exact decide_eq_true (Nat.le_trans ((Timed.stamp_le reached).2 stamp mem).2 within)
  rw [startedBy, whole, count]

/-! ### Rates that no worker gets ahead of -/

/-- A period is no shorter than the share of a second if the rate divides the second, or if there are more
    permits than nanoseconds. -/
theorem le_mul_periodOf_iff {tokens : Nat} (some : 0 < tokens) :
    nanosPerSec ≤ tokens * (Limiter.periodOf tokens).nanos ↔
      tokens ∣ nanosPerSec ∨ nanosPerSec ≤ tokens := by
  show nanosPerSec ≤ tokens * max (nanosPerSec / tokens) 1 ↔ _
  constructor
  · intro h
    by_cases many : nanosPerSec ≤ tokens
    · exact .inr many
    · left
      have share : 1 ≤ nanosPerSec / tokens := Nat.div_pos (Nat.le_of_not_le many) some
      rw [Nat.max_eq_left share] at h
      exact ⟨_, Nat.le_antisymm h (Nat.mul_div_le _ _)⟩
  · rintro (whole | many)
    · calc nanosPerSec = tokens * (nanosPerSec / tokens) := (Nat.mul_div_cancel' whole).symm
        _ ≤ tokens * max (nanosPerSec / tokens) 1 := Nat.mul_le_mul_left _ (Nat.le_max_left _ _)
    · calc nanosPerSec ≤ tokens * 1 := by rw [Nat.mul_one]; exact many
        _ ≤ tokens * max (nanosPerSec / tokens) 1 := Nat.mul_le_mul_left _ (Nat.le_max_right _ _)

/-- Whether no worker of a plan gets more than a batch ahead of its rate in any number of seconds. -/
def KeepsRate (plan : RatePlan) : Prop :=
  ∀ (id : Nat) (shared : Shared) (told : List (Nat × Act)) (c : Scene) (first seconds : Nat),
    1 ≤ seconds → Timed (fresh id plan shared) told c → firstAsk? told = some first →
      startedBy (first + seconds * nanosPerSec) told ≤
        seconds * plan.connectionRate + plan.batchSize

/-- **The pace of a worker.**  In a window from its first ask for a permit on, a worker starts at most one
    batch for every whole period and one more, and there are workers that start as many.  The period is
    rounded down, so no worker gets more than a batch ahead of its rate exactly if nothing is rounded:
    if the number of permits divides the nanoseconds of a second, or exceeds them. -/
theorem pace_bound {rate threads concurrency : Nat} {plan : RatePlan}
    (made : RatePlan.make rate threads concurrency = .ok plan) :
    (∀ (id : Nat) (shared : Shared) (told : List (Nat × Act)) (c : Scene) (first window : Nat),
      Timed (fresh id plan shared) told c → firstAsk? told = some first →
        startedBy (first + window) told ≤
          plan.batchSize * (window / (Limiter.periodOf plan.tokensPerSec).nanos + 1)) ∧
    (∀ (id : Nat) (shared : Shared) (window : Nat), ∃ told c, Timed (fresh id plan shared) told c ∧
      firstAsk? told = some shared.now ∧ startedBy (shared.now + window) told =
        plan.batchSize * (window / (Limiter.periodOf plan.tokensPerSec).nanos + 1)) ∧
    (KeepsRate plan ↔ plan.tokensPerSec ∣ nanosPerSec ∨ nanosPerSec ≤ plan.tokensPerSec) := by
  obtain ⟨some, whole⟩ := RatePlan.tokensPerSec_mul_batchSize made
  have bound (id : Nat) (shared : Shared) (told : List (Nat × Act)) (c : Scene) (first window : Nat)
      (h : Timed (fresh id plan shared) told c) (asked : firstAsk? told = .some first) :=
    Timed.startedBy_le window h asked
  have attained (id : Nat) (shared : Shared) := exists_startedBy id plan shared some
  refine ⟨bound, attained, ?_⟩
  rw [← le_mul_periodOf_iff plan.tokensPerSec_pos]
  have period := Limiter.period_pos plan.tokensPerSec
  generalize (Limiter.periodOf plan.tokensPerSec).nanos = space at *
  constructor
  · intro keeps
    -- As many seconds as the period has nanoseconds make up for any rounding.
    obtain ⟨told, c, h, asked, count⟩ := attained 0 (.fresh 1 1) (space * nanosPerSec)
    have few := keeps 0 (.fresh 1 1) told c _ space period h asked
    rw [count, Nat.mul_div_cancel_left _ period, ← whole] at few
    have batches : plan.batchSize * (nanosPerSec + 1) ≤
        plan.batchSize * (plan.tokensPerSec * space + 1) :=
      calc _ ≤ space * (plan.tokensPerSec * plan.batchSize) + plan.batchSize := few
        _ = plan.batchSize * (plan.tokensPerSec * space + 1) := by ring
    exact Nat.le_of_succ_le_succ (Nat.le_of_mul_le_mul_left batches some)
  · intro exact_ id shared told c first seconds _ h asked
    have periods : seconds * nanosPerSec / space ≤ seconds * plan.tokensPerSec := by
      apply Nat.div_le_of_le_mul
      calc seconds * nanosPerSec ≤ seconds * (plan.tokensPerSec * space) := Nat.mul_le_mul_left _ exact_
        _ = space * (seconds * plan.tokensPerSec) := by ring
    calc startedBy (first + seconds * nanosPerSec) told
        ≤ plan.batchSize * (seconds * nanosPerSec / space + 1) := bound id shared told c first _ h asked
      _ ≤ plan.batchSize * (seconds * plan.tokensPerSec + 1) :=
          Nat.mul_le_mul_left _ (Nat.succ_le_succ periods)
      _ = seconds * plan.connectionRate + plan.batchSize := by rw [← whole]; ring

end

/-- Two permits per second, which divide it. -/
def even : RatePlan :=
  { threadRate := 20, connectionRate := 20, tokensPerSec := 2, batchSize := 10
    tokensPerSec_pos := Nat.two_pos }

/-- So many permits per second do not divide it. -/
def uneven : RatePlan :=
  { threadRate := 31741, connectionRate := 31741, tokensPerSec := 31741, batchSize := 1
    tokensPerSec_pos := by decide }

theorem pace_bound_uneven : KeepsRate even ∧ ¬ KeepsRate uneven := by
  have made : RatePlan.make 20 1 1 = .ok even := by rfl
  have made' : RatePlan.make 31741 1 1 = .ok uneven := by rfl
  obtain ⟨-, -, keeps⟩ := pace_bound made
  obtain ⟨-, -, keeps'⟩ := pace_bound made'
  refine ⟨keeps.mpr (.inl (by decide)), fun kept => ?_⟩
  rcases keeps'.mp kept with divides | many
  · exact absurd divides (by decide)
  · exact absurd many (by decide)

/-- **A worker gets ahead of its rate.**  With this plan a worker can start more than a batch over its rate
    in the first second. -/
theorem uneven_gets_ahead :
    RatePlan.make 31741 1 1 = .ok uneven ∧
    ∃ told c, Timed (fresh 0 uneven (.fresh 1 1)) told c ∧ firstAsk? told = some 0 ∧
      1 * uneven.connectionRate + uneven.batchSize < startedBy (0 + 1 * nanosPerSec) told := by
  obtain ⟨told, c, h, asked, count⟩ :=
    exists_startedBy 0 uneven (.fresh 1 1) (by decide) (1 * nanosPerSec)
  refine ⟨by rfl, told, c, h, asked, ?_⟩
  have many : startedBy (0 + 1 * nanosPerSec) told = 31743 := count.trans (by decide)
  rw [many]
  decide

end Scene

end Worker

end LoadGen
