import LoadGen.Proofs.Worker.Stopping

namespace LoadGen

/-!
# Queues that nobody drains

A worker whose queues are only filled.  Each queue takes the samples of its verdict until it is full, and
every later one is dropped after a wait, so what is taken and what is dropped of one verdict does not
depend on the other.  All operations are recorded, those of dropped samples too.

* `Metrics.recordAll`, `Worker.metrics_of_move` — what a step records;
* `Worker.Overflows` — of each verdict the first samples are queued and the others dropped;
* `Worker.Scene.Undrained` — the scenes that can be reached while nobody else touches the queues;
* `Worker.Scene.Backlog`, `Worker.Scene.Undrained.backlog` — what a worker leaves in them;
* `Worker.Scene.exists_undrained` — a worker can be through with any samples;
* `Worker.Scene.backpressure_drops_overflow` — queues, losses and metrics of all operations.
-/

namespace Metrics

/-- Counts the operations of some samples. -/
def recordAll (m : Metrics) (samples : List Sample) : Metrics :=
  samples.foldl (fun m sample => m.record sample.verdict) m

theorem recordAll_append (m : Metrics) (samples more : List Sample) :
    m.recordAll (samples ++ more) = (m.recordAll samples).recordAll more := List.foldl_append

theorem recordAll_eq (m : Metrics) (samples : List Sample) :
    m.recordAll samples =
      { success := m.success + (latenciesOf .success samples).length
        error := m.error + (latenciesOf .error samples).length
        latency := m.latency + samples.length } := by
  induction samples generalizing m with
  | nil => rfl
  | cons sample samples ih =>
    rw [← List.singleton_append, recordAll_append, ih, latenciesOf_append, latenciesOf_append,
      latenciesOf_singleton, latenciesOf_singleton]
    cases verdict : sample.verdict <;>
      simp [recordAll, record, verdict] <;> omega

end Metrics

namespace Worker

section

variable {acts : List Act} {s s' : Shared} {w w' : Worker} {event : Event}

/-- A step records the operation that returned in it, whatever becomes of its sample. -/
theorem metrics_of_move (move : Move s w event acts s' w') :
    s'.metrics = s.metrics.recordAll (returned acts) := by
  cases move with
  | start _ | opened _ | refused _ _ | broken _ | announced _ | released _ _ | dismissed _ _ _
  | stopped _ _ | asked _ _ | permitted _ _ | skipped _ _ _ | begun _ _ _ | panicked _ | waited _ _
  | cancelled _ _ => rfl
  | returned reply at_ returns =>
    cases reply with
    | ok | failed cause =>
      cases returns
      rfl
    | panicked message => cases returns
  | closed at_ =>
    rename_i ending
    cases ending <;> rfl
  | queued at_ taken =>
    rw [Shared.metrics_setQueue, ← List.singleton_append, returned_append, returned_nextCalls]
    rfl
  | dropped at_ why =>
    rw [← List.singleton_append, returned_append, returned_nextCalls]
    rfl

/-- The sample of the operation that returns in a step. -/
def Event.returned : Event → List Sample
  | .executed reply latency => (reply.verdict?.map fun verdict => ⟨latency, verdict⟩).toList
  | _ => []

theorem returned_of_move (move : Move s w event acts s' w') : returned acts = event.returned := by
  cases move with
  | start | opened | refused | broken | announced | released | dismissed | asked | permitted | skipped
  | begun | panicked | waited | closed | cancelled => rfl
  | stopped at_ _ => rcases at_ with ⟨rfl, -⟩ | ⟨rfl, -⟩ <;> rfl
  | returned reply at_ returns => simp [returned, Act.returned?, Event.returned, returns]
  | queued at_ taken =>
    rw [← List.singleton_append, returned_append, returned_nextCalls]
    rfl
  | dropped at_ why =>
    rw [← List.singleton_append, returned_append, returned_nextCalls]
    rcases why with ⟨rfl, -⟩ | ⟨rfl, -⟩ <;> rfl

/-- A step neither resizes nor closes a queue. -/
theorem queue_of_move (move : Move s w event acts s' w') (v : Verdict) :
    (s'.queue v).capacity = (s.queue v).capacity ∧ (s'.queue v).isClosed = (s.queue v).isClosed := by
  cases move with
  | start _ | opened _ | refused _ _ | broken _ | announced _ | released _ _ | dismissed _ _ _
  | stopped _ _ | asked _ _ | permitted _ _ | skipped _ _ _ | begun _ _ _ | panicked _ | waited _ _
  | cancelled _ _ | dropped _ _ => cases v <;> exact ⟨rfl, rfl⟩
  | returned reply at_ returns => cases reply <;> cases v <;> exact ⟨rfl, rfl⟩
  | closed at_ =>
    rename_i ending
    cases ending <;> cases v <;> exact ⟨rfl, rfl⟩
  | queued at_ taken =>
    rw [Shared.queue_setQueue]
    split
    · rename_i same
      rw [← same]
      exact Queue.shape_of_offer taken
    · exact ⟨rfl, rfl⟩

end

/-! ### Samples that find room, and samples that do not -/

theorem queued_append (told more : List Act) : queued (told ++ more) = queued told ++ queued more :=
  List.filterMap_append

theorem lost_append (told more : List Act) : lost (told ++ more) = lost told ++ lost more :=
  List.filterMap_append

/-- Of each verdict, as many samples as a queue can hold are queued, and the others are dropped. -/
structure Overflows (capacity : Nat) (told : List Act) : Prop where
  queued_eq : ∀ v, latenciesOf v (queued told) = (latenciesOf v (settled told)).take capacity
  lost_eq : ∀ v, latenciesOf v (lost told) = (latenciesOf v (settled told)).drop capacity

namespace Overflows

variable {capacity : Nat} {told acts : List Act} {sample : Sample}

theorem quiet (h : Overflows capacity told) (taken : queued acts = []) (dropped : lost acts = [])
    (done : settled acts = []) : Overflows capacity (told ++ acts) where
  queued_eq v := by
    rw [queued_append, settled_append, taken, done, List.append_nil, List.append_nil]
    exact h.queued_eq v
  lost_eq v := by
    rw [lost_append, settled_append, dropped, done, List.append_nil, List.append_nil]
    exact h.lost_eq v

/-- A sample is among the first of its verdict if it is queued while there is room. -/
theorem queue (h : Overflows capacity told)
    (room : (latenciesOf sample.verdict (settled told)).length < capacity) (left : Nat) :
    Overflows capacity (told ++ .queued sample :: nextCalls left) := by
  have one : queued (.queued sample :: nextCalls left) = [sample] :=
    congrArg (sample :: ·) (queued_nextCalls left)
  have none : lost (.queued sample :: nextCalls left) = [] := lost_nextCalls left
  have done : settled (.queued sample :: nextCalls left) = [sample] :=
    congrArg (sample :: ·) (settled_nextCalls left)
  constructor <;> intro v
  · rw [queued_append, settled_append, one, done, latenciesOf_append, latenciesOf_append, h.queued_eq,
      latenciesOf_singleton]
    split
    · rename_i same
      rw [same] at room
      rw [List.take_of_length_le (Nat.le_of_lt room), List.take_of_length_le]
      rw [List.length_append, List.length_singleton]
      exact room
    · rw [List.append_nil, List.append_nil]
  · rw [lost_append, settled_append, none, done, List.append_nil, latenciesOf_append, h.lost_eq,
      latenciesOf_singleton]
    split
    · rename_i same
      rw [same] at room
      rw [List.drop_of_length_le (Nat.le_of_lt room), List.drop_of_length_le]
      rw [List.length_append, List.length_singleton]
      exact room
    · rw [List.append_nil]

/-- It is one of the others if it is dropped while there is no room. -/
theorem lose (h : Overflows capacity told)
    (full : capacity ≤ (latenciesOf sample.verdict (settled told)).length) (left : Nat) :
    Overflows capacity (told ++ .lost sample :: nextCalls left) := by
  have none : queued (.lost sample :: nextCalls left) = [] := queued_nextCalls left
  have one : lost (.lost sample :: nextCalls left) = [sample] :=
    congrArg (sample :: ·) (lost_nextCalls left)
  have done : settled (.lost sample :: nextCalls left) = [sample] :=
    congrArg (sample :: ·) (settled_nextCalls left)
  constructor <;> intro v
  · rw [queued_append, settled_append, none, done, List.append_nil, latenciesOf_append, h.queued_eq,
      latenciesOf_singleton]
    split
    · rename_i same
      rw [same] at full
      exact (List.take_append_of_le_length full).symm
    · rw [List.append_nil]
  · rw [lost_append, settled_append, one, done, latenciesOf_append, latenciesOf_append, h.lost_eq,
      latenciesOf_singleton]
    split
    · rename_i same
      rw [same] at full
      exact (List.drop_append_of_le_length full).symm
    · rw [List.append_nil, List.append_nil]

/-- As many samples of a verdict are queued as there are and as a queue can hold. -/
theorem length_queued (h : Overflows capacity told) (v : Verdict) :
    (latenciesOf v (queued told)).length = min capacity (latenciesOf v (settled told)).length := by
  rw [h.queued_eq, List.length_take]

/-- All samples that are dropped are beyond the room for their own verdict. -/
theorem length_lost (h : Overflows capacity told) :
    (lost told).length = (latenciesOf .success (settled told)).length - capacity +
      ((latenciesOf .error (settled told)).length - capacity) := by
  rw [← length_latenciesOf, h.lost_eq, h.lost_eq, List.length_drop, List.length_drop]

end Overflows

namespace Scene

/-! ### Queues that only the worker touches -/

/-- What the others leave, but for the queues, the metrics and the count of lost samples. -/
def keep (c : Scene) (left : Shared) : Shared :=
  { left with
    success := c.shared.success
    error := c.shared.error
    metrics := c.shared.metrics
    aggregator := { left.aggregator with dropped := c.shared.aggregator.dropped } }

/-- Does a deed, of which the others leave to the worker what it fills and counts. -/
def performAlone (c : Scene) : Deed → Option Scene
  | .others shared => c.perform (.others (c.keep shared))
  | deed => c.perform deed

/-- The scenes that deeds lead to while nobody else touches what the worker fills and counts, each with
    its journal. -/
abbrev Undrained (start : Scene) (told : List Act) (c : Scene) : Prop :=
  Trace.Reached performAlone acts start told c

/-- A state with the same queues and the same counts. -/
structure Spared (s s' : Shared) : Prop where
  queue_eq : ∀ v, s'.queue v = s.queue v
  metrics_eq : s'.metrics = s.metrics
  dropped_eq : s'.aggregator.dropped = s.aggregator.dropped

section

variable {id : Nat} {plan : RatePlan} {shared first : Shared} {start c c' : Scene} {deed : Deed}
  {told : List Act} {capacity : Nat}

/-- A deed is a step of the worker, or it spares what the worker fills and counts. -/
theorem performAlone_cases (h : c.performAlone deed = some c') :
    (∃ event shared worker, Worker.Move c.shared c.worker event (c.worker.acts c.shared event) shared
        worker ∧ c' = ⟨shared, worker⟩ ∧ own (c.acts deed) = c.worker.acts c.shared event) ∨
      Spared c.shared c'.shared ∧ c'.worker = c.worker ∧ own (c.acts deed) = [] := by
  cases deed with
  | own event =>
    obtain ⟨⟨shared, worker⟩, moved, rfl⟩ := Option.map_eq_some_iff.mp h
    exact .inl ⟨event, shared, worker, move_of_step moved, rfl, own_acts _ _ _⟩
  | others left =>
    cases h
    exact .inr ⟨⟨fun v => by cases v <;> rfl, rfl, rfl⟩, rfl, rfl⟩
  | start | stop | release =>
    obtain ⟨-, rfl⟩ := give_eq_some h
    exact .inr ⟨⟨fun v => by cases v <;> rfl, rfl, rfl⟩, rfl, rfl⟩

/-- Sparing deeds are deeds, and tell the same. -/
theorem Undrained.reached (h : Undrained start told c) : Reached start told c := by
  induction h with
  | start => exact .start
  | @next past c c' deed before now ih =>
    cases deed with
    | others left =>
      have now' : c.perform (.others (c.keep left)) = some c' := now
      have next : Reached start (past ++ c.acts (.others (c.keep left))) c' := ih.next now'
      exact next
    | own | start | stop | release => exact ih.next now

/-- What a worker leaves in two queues that were empty and that it alone fills. -/
structure Backlog (capacity : Nat) (first : Shared) (told : List Worker.Act) (c : Scene) : Prop where
  queue_eq : ∀ v, (c.shared.queue v).toList = latenciesOf v (queued told)
  capacity_eq : ∀ v, (c.shared.queue v).capacity = capacity
  open_ : ∀ v, (c.shared.queue v).isClosed = false
  dropped_eq : c.shared.aggregator.dropped = first.aggregator.dropped + (lost told).length
  metrics_eq : c.shared.metrics = first.metrics.recordAll (returned told)
  overflows : Overflows capacity told
  /-- A queue that was full when the worker looked at it is full. -/
  refused : ∀ pending, c.worker.stage = .sending pending → pending.refused = true →
    (c.shared.queue pending.sample.verdict).isFull = true

namespace Backlog

variable {told acts : List Worker.Act}

/-- A queue is full if there were as many samples of its verdict as it can hold. -/
theorem isFull_iff (h : Backlog capacity first told c) (v : Verdict) :
    (c.shared.queue v).isFull = true ↔ capacity ≤ (latenciesOf v (settled told)).length := by
  have size : (c.shared.queue v).size = min capacity (latenciesOf v (settled told)).length := by
    rw [← Queue.length_toList, h.queue_eq, h.overflows.length_queued]
  unfold Queue.isFull
  rw [decide_eq_true_iff, h.capacity_eq, size]
  omega

theorem spare {s : Shared} (h : Backlog capacity first told c) (spared : Spared c.shared s) :
    Backlog capacity first told { c with shared := s } where
  queue_eq v := (congrArg Queue.toList (spared.queue_eq v)).trans (h.queue_eq v)
  capacity_eq v := (congrArg Queue.capacity (spared.queue_eq v)).trans (h.capacity_eq v)
  open_ v := (congrArg Queue.isClosed (spared.queue_eq v)).trans (h.open_ v)
  dropped_eq := spared.dropped_eq.trans h.dropped_eq
  metrics_eq := spared.metrics_eq.trans h.metrics_eq
  overflows := h.overflows
  refused pending at_ refused :=
    (congrArg Queue.isFull (spared.queue_eq _)).trans (h.refused pending at_ refused)

/-- Samples overflow as they are settled. -/
theorem overflow {s' : Shared} {w' : Worker} {event : Event} (h : Backlog capacity first told c)
    (move : Worker.Move c.shared c.worker event acts s' w') : Overflows capacity (told ++ acts) := by
  cases move with
  | start | opened | refused | broken | announced | released | dismissed | stopped | asked | permitted
  | skipped | begun | returned | panicked | waited | closed | cancelled =>
    exact h.overflows.quiet rfl rfl rfl
  | queued at_ taken =>
    rename_i pending queue
    have room : ¬ (c.shared.queue pending.sample.verdict).isFull = true := Queue.room_of_offer taken
    rw [h.isFull_iff] at room
    exact h.overflows.queue (Nat.lt_of_not_le room) pending.left
  | dropped at_ why =>
    rename_i pending reason
    have full : (c.shared.queue pending.sample.verdict).isFull = true := by
      rcases why with ⟨-, closed, -⟩ | ⟨-, late, -⟩
      · -- Nobody closes a queue that is filled.
        rw [h.open_] at closed
        cases closed
      · exact h.refused pending at_ (Bool.and_eq_true_iff.mp late).1
    exact h.overflows.lose ((h.isFull_iff _).mp full) pending.left

/-- A step of the worker keeps the backlog. -/
theorem move {s' : Shared} {w' : Worker} {event : Event} (h : Backlog capacity first told c)
    (move : Worker.Move c.shared c.worker event acts s' w') :
    Backlog capacity first (told ++ acts) ⟨s', w'⟩ where
  queue_eq v := by
    rw [(leaves_of_move move).queue_eq, h.queue_eq, queued_append, latenciesOf_append]
  capacity_eq v := (queue_of_move move v).1.trans (h.capacity_eq v)
  open_ v := (queue_of_move move v).2.trans (h.open_ v)
  dropped_eq := by
    rw [(leaves_of_move move).dropped_eq, h.dropped_eq, lost_append, List.length_append, Nat.add_assoc]
  metrics_eq := by
    rw [metrics_of_move move, h.metrics_eq, returned_append, Metrics.recordAll_append]
  overflows := h.overflow move
  refused pending at_ refused := by
    cases move with
    | waited at' full =>
      cases at_
      exact full
    | returned reply at' returns =>
      cases at_
      cases refused
    | queued | dropped =>
      -- Once a sample is settled, none is on its way.
      have none := congrArg Stage.inFlight at_
      rw [inFlight_proceed] at none
      cases none
    | start | opened | refused | broken | announced | released | dismissed | stopped | asked | permitted
    | skipped | begun | panicked | closed | cancelled => cases at_

end Backlog

/-- **What a worker leaves in queues that nobody drains.** -/
theorem Undrained.backlog (h : Undrained start told c)
    (first : Backlog capacity start.shared [] start) : Backlog capacity start.shared (own told) c := by
  induction h with
  | start => exact first
  | @next past c c' deed before now ih =>
    rw [own_append]
    rcases performAlone_cases now with ⟨event, shared, worker, move, rfl, told⟩ | ⟨spared, same, told⟩
    · rw [told]
      exact ih.move move
    · rw [told, List.append_nil]
      have left := ih.spare spared
      rw [← same] at left
      exact left

/-! ### A worker that gets through its operations -/

/-- Whether a worker can get from one scene to another while nobody drains its queues, with these samples
    of the operations that return on the way. -/
def Leads (c : Scene) (samples : List Sample) (c' : Scene) : Prop :=
  ∃ told, Undrained c told c' ∧ returned (own told) = samples

theorem Leads.trans {c'' : Scene} {samples more : List Sample} (first : Leads c samples c')
    (next : Leads c' more c'') : Leads c (samples ++ more) c'' := by
  obtain ⟨told, reached, rfl⟩ := first
  obtain ⟨told', reached', rfl⟩ := next
  refine ⟨told ++ told', Trace.Reached.trans reached reached', ?_⟩
  rw [own_append, returned_append]

theorem leads_own {s s' : Shared} {w w' : Worker} (event : Event)
    (moved : Worker.step s w event = some (s', w')) : Leads ⟨s, w⟩ event.returned ⟨s', w'⟩ := by
  have now : performAlone ⟨s, w⟩ (.own event) = some ⟨s', w'⟩ := by
    show (Worker.step s w event).map _ = _
    rw [moved]
    rfl
  refine ⟨_, Trace.Reached.start.next now, ?_⟩
  rw [List.nil_append, ← returned_of_move (move_of_step moved)]
  exact congrArg returned (own_acts s event _)

/-- Time can pass. -/
theorem leads_later (s : Shared) (w : Worker) (now : Nat) : Leads ⟨s, w⟩ [] ⟨{ s with now }, w⟩ :=
  ⟨[], Trace.Reached.start.next (show performAlone ⟨s, w⟩ (.others { s with now }) = _ from rfl), rfl⟩

/-- A sample is settled: it is queued, or it is dropped at once or after a wait. -/
theorem leads_settle (s : Shared) (w : Worker) (pending : Pending) :
    ∃ s', Leads ⟨s, { w with stage := .sending pending }⟩ [] ⟨s', w.proceed pending.left⟩ ∧
      s'.signal = s.signal := by
  cases offer : (s.queue pending.sample.verdict).offer pending.sample.latency with
  | mk queue answer =>
    cases answer with
    | queued =>
      refine ⟨s.setQueue pending.sample.verdict queue, leads_own .send ?_, Shared.signal_setQueue ..⟩
      simp [step, trySend, offer, proceed]
    | closed =>
      refine ⟨s.lose .queueClosed, leads_own .send ?_, rfl⟩
      simp [step, trySend, offer, proceed]
    | full =>
      let refused : Pending := { pending with refused := true }
      let later : Shared := { s with now := max s.now pending.deadline }
      have waits : Leads ⟨s, { w with stage := .sending pending }⟩ []
          ⟨s, { w with stage := .sending refused }⟩ :=
        leads_own .send (by simp [step, trySend, offer, refused])
      have late : mayGiveUp later refused = true :=
        Bool.and_eq_true_iff.mpr ⟨rfl, decide_eq_true (Nat.le_max_right _ _)⟩
      have gives : Leads ⟨later, { w with stage := .sending refused }⟩ []
          ⟨later.lose (.queueFull sampleSendTimeout), w.proceed pending.left⟩ :=
        leads_own .giveUp (by simp [step, late, proceed, refused])
      exact ⟨_, (waits.trans (leads_later s _ _)).trans gives, rfl⟩

/-- An operation returns, and its sample is settled. -/
theorem leads_operation (s : Shared) (w : Worker) (left : Nat) (sample : Sample) :
    ∃ s', Leads ⟨s, { w with stage := .executing left }⟩ [sample] ⟨s', w.proceed left⟩ ∧
      s'.signal = s.signal := by
  let pending : Pending := { sample, left, deadline := s.now + sampleSendTimeout.nanos }
  obtain ⟨s₁, returns, signal⟩ : ∃ s₁, Leads ⟨s, { w with stage := .executing left }⟩ [sample]
      ⟨s₁, { w with stage := .sending pending }⟩ ∧ s₁.signal = s.signal := by
    obtain ⟨latency, verdict⟩ := sample
    cases verdict with
    | success => exact ⟨_, leads_own (.executed .ok latency) rfl, rfl⟩
    | error => exact ⟨_, leads_own (.executed (.failed .notReady) latency) rfl, rfl⟩
  obtain ⟨s₂, settles, signal'⟩ := leads_settle s₁ w pending
  exact ⟨s₂, returns.trans settles, signal'.trans signal⟩

/-- A permit comes as soon as it is due, and a batch begins. -/
theorem leads_turn {s : Shared} {w : Worker} (unstopped : s.signal.isStopped = false)
    (some_ : 0 < w.batchSize) :
    ∃ s' limiter, Leads ⟨s, { w with stage := .between }⟩ []
        ⟨s', { w with stage := .executing w.batchSize, limiter }⟩ ∧ s'.signal = s.signal := by
  let asked : Limiter := w.limiter.ask s.now
  let later : Shared := { s with now := max s.now (w.limiter.due.getD s.now) }
  let granted : Limiter := asked.grant later.now
  have ask : Leads ⟨s, { w with stage := .between }⟩ []
      ⟨s, { w with stage := .pacing, limiter := asked }⟩ :=
    leads_own .checkStop (by simp [step, unstopped, asked])
  have due : asked.isDue later.now = true := decide_eq_true (Nat.le_max_right _ _)
  have grant : Leads ⟨later, { w with stage := .pacing, limiter := asked }⟩ []
      ⟨later, { w with stage := .permitted, limiter := granted }⟩ :=
    leads_own .permit (by simp [step, due, granted])
  have begin_ : Leads ⟨later, { w with stage := .permitted, limiter := granted }⟩ []
      ⟨later, { w with stage := .executing w.batchSize, limiter := granted }⟩ := by
    refine leads_own .recheckStop ?_
    have unstopped' : later.signal.isStopped = false := unstopped
    simp [step, unstopped', Nat.ne_of_gt some_]
  exact ⟨later, granted, ((ask.trans (leads_later s _ _)).trans grant).trans begin_, rfl⟩

/-- The rest of a batch. -/
theorem leads_batch (samples : List Sample) (sample : Sample) (s : Shared) (w : Worker) :
    ∃ s', Leads ⟨s, { w with stage := .executing (samples.length + 1) }⟩ (sample :: samples)
        ⟨s', { w with stage := .between, executed := w.executed + (samples.length + 1) }⟩ ∧
      s'.signal = s.signal := by
  induction samples generalizing sample s w with
  | nil => exact leads_operation s w 1 sample
  | cons next samples ih =>
    obtain ⟨s₁, first, signal⟩ := leads_operation s w (samples.length + 2) sample
    obtain ⟨s₂, rest, signal'⟩ := ih next s₁ { w with executed := w.executed + 1 }
    refine ⟨s₂, ?_, signal'.trans signal⟩
    have all := first.trans rest
    rw [Nat.add_right_comm w.executed 1] at all
    exact all

/-- Any number of batches. -/
theorem leads_batches (turns : Nat) {samples : List Sample} {s : Shared} {w : Worker}
    (whole : samples.length = turns * w.batchSize) (some_ : 0 < w.batchSize)
    (unstopped : s.signal.isStopped = false) :
    ∃ s' limiter, Leads ⟨s, { w with stage := .between }⟩ samples
        ⟨s', { w with stage := .between, executed := w.executed + samples.length, limiter }⟩ ∧
      s'.signal = s.signal := by
  induction turns generalizing samples s w with
  | zero =>
    rw [Nat.zero_mul] at whole
    rw [List.eq_nil_of_length_eq_zero whole]
    exact ⟨s, w.limiter, ⟨[], .start, rfl⟩, rfl⟩
  | succ turns ih =>
    rw [Nat.succ_mul] at whole
    have size : (samples.take w.batchSize).length = w.batchSize := by
      rw [List.length_take]
      omega
    have rest : (samples.drop w.batchSize).length = turns * w.batchSize := by
      rw [List.length_drop]
      omega
    obtain ⟨s₁, limiter, turn, signal⟩ := leads_turn unstopped some_
    cases batch : samples.take w.batchSize with
    | nil =>
      rw [batch] at size
      exact absurd some_ (Nat.not_lt_of_le (Nat.le_of_eq size.symm))
    | cons sample first =>
      rw [batch] at size
      obtain ⟨s₂, done, signal'⟩ := leads_batch first sample s₁ { w with limiter }
      rw [← List.length_cons, size] at done
      obtain ⟨s₃, limiter', others, signal''⟩ :=
        @ih (samples.drop w.batchSize) s₂ { w with executed := w.executed + w.batchSize, limiter } rest some_
          (by rw [signal', signal]; exact unstopped)
      refine ⟨s₃, limiter', ?_, signal''.trans (signal'.trans signal)⟩
      have all := (turn.trans done).trans others
      have executed : w.executed + w.batchSize + (samples.drop w.batchSize).length =
          w.executed + samples.length := by omega
      rw [List.nil_append, ← batch, List.take_append_drop, executed] at all
      exact all

/-- A worker can be through with any samples that make up whole batches. -/
theorem exists_undrained (id : Nat) {plan : RatePlan} (shared : Shared) {samples : List Sample}
    (some_ : 0 < plan.batchSize) (whole : plan.batchSize ∣ samples.length) :
    ∃ told c, Undrained (fresh id plan shared) told c ∧
      c.worker.stage = .finished (.executed samples.length) ∧ returned (own told) = samples := by
  obtain ⟨turns, length⟩ := whole
  let w : Worker := { ofPlan id plan with state := .running, ready := true }
  let s : Shared := ({ shared with signal := { phase := .running } } : Shared).tell
    (.workerPacing id plan.batchSize (Limiter.periodOf plan.tokensPerSec))
  have opened : Leads (fresh id plan shared) [] ⟨s, { w with stage := .between }⟩ := by
    have along : Trace.run performAlone (fresh id plan shared) (upToBarrier ++ [.start, .own .release]) =
      some ⟨s, { w with stage := .between }⟩ := rfl
    exact ⟨_, Trace.reached_of_run along, rfl⟩
  obtain ⟨s₁, limiter, done, signal⟩ :=
    @leads_batches turns samples s w (by rw [length, Nat.mul_comm]; rfl) some_ rfl
  let v : Worker := { w with stage := .between, executed := 0 + samples.length, limiter }
  let s₂ : Shared := { s₁ with signal := s₁.signal.stop }
  have stopped : Leads ⟨s₁, v⟩ [] ⟨s₂, v⟩ := by
    have now : performAlone ⟨s₁, v⟩ .stop = some ⟨s₂, v⟩ := by
      have held : s₁.signal.released = false := congrArg Signal.released signal
      show (if s₁.signal.released then none else some _) = _
      rw [held]
      rfl
    exact ⟨_, Trace.Reached.start.next now, rfl⟩
  have left : Leads ⟨s₂, v⟩ [] ⟨s₂, v.close (.executed (0 + samples.length))⟩ :=
    leads_own .checkStop rfl
  have closed := @leads_own s₂ _ (v.close (.executed (0 + samples.length))) _ .closed rfl
  obtain ⟨told, reached, returns⟩ := (((opened.trans done).trans stopped).trans left).trans closed
  refine ⟨told, _, reached, ?_, ?_⟩
  · rw [Nat.zero_add]
  · rw [returns]
    simp [Event.returned]

theorem backlog_fresh (id : Nat) (plan : RatePlan) (empty : ∀ v, shared.queue v = .empty capacity) :
    Backlog capacity shared [] (fresh id plan shared) := by
  have new (v : Verdict) : (fresh id plan shared).shared.queue v = .empty capacity := by
    cases v with
    | success => exact empty .success
    | error => exact empty .error
  refine ⟨fun v => ?_, fun v => ?_, fun v => ?_, rfl, rfl, ⟨fun v => ?_, fun v => ?_⟩, nofun⟩
  · rw [new v]
    rfl
  · rw [new v]
    rfl
  · rw [new v]
    rfl
  · exact List.take_nil.symm
  · exact List.drop_nil.symm

end

/-- **Backpressure drops the overflow of each verdict.**  Let a worker fill two empty queues that nobody
    drains.  Of the operations that returned, all but one whose sample is on its way are settled: each
    queue holds the first latencies of its verdict, as many as it has room for and in their order, and all
    later ones of that verdict are dropped and counted, so that a sample with room in its own queue is
    never dropped.  Every operation is recorded, whatever became of its sample.  And a worker can be
    through with any samples that make up whole batches. -/
theorem backpressure_drops_overflow (id : Nat) (plan : RatePlan) (shared : Shared) (capacity : Nat)
    (empty : ∀ v, shared.queue v = .empty capacity) :
    (∀ told c, Undrained (fresh id plan shared) told c →
      let ops := returned (own told)
      let done := settled (own told)
      ops = done ++ c.worker.stage.inFlight ∧
      (∀ v, (c.shared.queue v).toList = (latenciesOf v done).take capacity) ∧
      c.shared.aggregator.dropped = shared.aggregator.dropped +
        ((latenciesOf .success done).length - capacity +
          ((latenciesOf .error done).length - capacity)) ∧
      (∀ v, latenciesOf v (lost (own told)) = (latenciesOf v done).drop capacity) ∧
      (∀ v, (latenciesOf v done).length ≤ capacity → latenciesOf v (lost (own told)) = []) ∧
      c.shared.metrics =
        { success := shared.metrics.success + (latenciesOf .success ops).length
          error := shared.metrics.error + (latenciesOf .error ops).length
          latency := shared.metrics.latency + ops.length }) ∧
    ∀ samples : List Sample, 0 < plan.batchSize → plan.batchSize ∣ samples.length →
      ∃ told c, Undrained (fresh id plan shared) told c ∧
        c.worker.stage = .finished (.executed samples.length) ∧ returned (own told) = samples := by
  refine ⟨fun told c undrained => ?_, fun samples some_ whole => exists_undrained id shared some_ whole⟩
  intro ops done
  have backlog := Undrained.backlog undrained (backlog_fresh id plan empty)
  have reached := Undrained.reached undrained
  have alive : c.worker.stage ≠ .cancelled := fun off => by
    have aborting := reached.life.aborting_of_cancelled off
    rw [reached.aborting_eq] at aborting
    cases aborting
  refine ⟨reached.life.settles.returned_eq alive, fun v => ?_, ?_, backlog.overflows.lost_eq,
    fun v few => ?_, ?_⟩
  · rw [backlog.queue_eq, backlog.overflows.queued_eq]
  · rw [backlog.dropped_eq, backlog.overflows.length_lost]
    rfl
  · rw [backlog.overflows.lost_eq]
    exact List.drop_of_length_le few
  · rw [backlog.metrics_eq, Metrics.recordAll_eq]
    rfl

/-- Three successes and an error, for queues that hold one sample each. -/
def crammed : List Sample :=
  [⟨.clamped 1, .success⟩, ⟨.clamped 2, .success⟩, ⟨.clamped 3, .error⟩, ⟨.clamped 4, .success⟩]

theorem backpressure_drops_overflow_crammed :
    ∃ told c, Undrained (fresh 0 pairs (.fresh 1 8)) told c ∧
      c.worker.stage = .finished (.executed 4) ∧
      c.shared.success.toList = [.clamped 1] ∧ c.shared.error.toList = [.clamped 3] ∧
      c.shared.aggregator.dropped = 2 ∧
      c.shared.metrics = { success := 3, error := 1, latency := 4 } := by
  obtain ⟨each, through⟩ :=
    backpressure_drops_overflow 0 pairs (.fresh 1 8) 1 fun v => by cases v <;> rfl
  obtain ⟨told, c, undrained, ended, returns⟩ := through crammed (by decide) (by decide)
  obtain ⟨settles, queues, dropped, -, -, metrics⟩ := each told c undrained
  rw [ended, returns] at settles
  -- No sample of a worker that is over is on its way.
  have done : settled (own told) = crammed := (settles.trans (List.append_nil _)).symm
  rw [done] at queues dropped
  rw [returns] at metrics
  exact ⟨told, c, undrained, ended, queues .success, queues .error, dropped, metrics⟩

end Scene

end Worker

end LoadGen
