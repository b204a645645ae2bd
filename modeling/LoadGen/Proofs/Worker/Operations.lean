import LoadGen.Proofs.Worker.Story

namespace LoadGen

/-!
# The operations of a worker

Every operation that returned leaves one sample, with its latency and its verdict, and the samples are
settled in the order of the operations: a queue takes them, or they are dropped.

* `Worker.returned`, `Worker.settled` — the samples of a story, by what was heard of the operation and by
  what became of the sample;
* `Worker.Settles` — the two lists agree but for a sample on its way, and the worker counts them;
* `Worker.Leaves` — what a step leaves in the state that the tasks share.
-/

/-- The operations that a worker which was stopped ends with. -/
def Ending.operations? : Ending → Option Nat
  | .executed operations => some operations
  | _ => none

namespace Worker

/-- The sample of an operation that returned. -/
def Act.returned? : Act → Option Sample
  | .executed reply latency => reply.verdict?.map fun verdict => ⟨latency, verdict⟩
  | _ => none

/-- A sample that a queue has taken or that was dropped. -/
def Act.settled? : Act → Option Sample
  | .queued sample | .lost sample => some sample
  | _ => none

/-- A sample that a queue has taken. -/
def Act.queued? : Act → Option Sample
  | .queued sample => some sample
  | _ => none

/-- A sample that was dropped. -/
def Act.lost? : Act → Option Sample
  | .lost sample => some sample
  | _ => none

/-- The samples of the operations that returned, oldest first. -/
def returned (told : List Act) : List Sample := told.filterMap Act.returned?

/-- The samples that queues have taken or that were dropped, oldest first. -/
def settled (told : List Act) : List Sample := told.filterMap Act.settled?

/-- The samples that queues have taken, oldest first. -/
def queued (told : List Act) : List Sample := told.filterMap Act.queued?

/-- The samples that were dropped, oldest first. -/
def lost (told : List Act) : List Sample := told.filterMap Act.lost?

/-- The sample that is on its way into a queue. -/
def Stage.inFlight : Stage → List Sample
  | .sending pending => [pending.sample]
  | _ => []

/-- The operations that a worker ends with. -/
def Stage.operations? : Stage → Option Nat
  | .closing ending | .finished ending => ending.operations?
  | _ => none

@[simp] theorem returned_append (told more : List Act) :
    returned (told ++ more) = returned told ++ returned more := List.filterMap_append

@[simp] theorem settled_append (told more : List Act) :
    settled (told ++ more) = settled told ++ settled more := List.filterMap_append

/-- Every sample that is settled was queued or was dropped. -/
theorem length_settled (told : List Act) :
    (settled told).length = (queued told).length + (lost told).length := by
  induction told with
  | nil => rfl
  | cons act told ih =>
    unfold settled queued lost at ih ⊢
    cases act with
    | queued sample | lost sample =>
      simp only [List.filterMap_cons, Act.settled?, Act.queued?, Act.lost?, List.length_cons]
      omega
    | called | opened | released | executed => exact ih

@[simp] theorem returned_nextCalls (left : Nat) : returned (nextCalls left) = [] := by
  unfold nextCalls
  split <;> rfl

@[simp] theorem settled_nextCalls (left : Nat) : settled (nextCalls left) = [] := by
  unfold nextCalls
  split <;> rfl

theorem inFlight_proceed (w : Worker) (left : Nat) : (w.proceed left).stage.inFlight = [] := by
  unfold proceed
  split <;> rfl

theorem operations?_proceed (w : Worker) (left : Nat) :
    (w.proceed left).stage.operations? = none := by
  unfold proceed
  split <;> rfl

/-- What a worker has settled: every operation that returned, in order, but for one whose sample is on
    its way; `executed` is their number, and so is what the worker ends with. -/
structure Settles (told : List Act) (w : Worker) : Prop where
  returned_eq : w.stage ≠ .cancelled → returned told = settled told ++ w.stage.inFlight
  executed_eq : w.executed = (settled told).length
  operations_eq : ∀ operations, w.stage.operations? = some operations → operations = w.executed

namespace Settles

variable {told acts : List Act} {w w' : Worker}

/-- A move that neither hears of an operation nor settles one leaves the books as they are. -/
theorem idle (h : Settles told w) (alive : w.stage ≠ .cancelled) (before : w.stage.inFlight = [])
    (after : w'.stage.inFlight = []) (back : returned acts = []) (done : settled acts = [])
    (same : w'.executed = w.executed)
    (own : ∀ operations, w'.stage.operations? = some operations → operations = w'.executed) :
    Settles (told ++ acts) w' where
  returned_eq _ := by simp [h.returned_eq alive, before, after, back, done]
  executed_eq := by simp [same, h.executed_eq, done]
  operations_eq := own

/-- The sample that was on its way is settled. -/
theorem settle {act : Act} {pending : Pending} (h : Settles told w)
    (at_ : w.stage = .sending pending) (back : act.returned? = none)
    (done : act.settled? = some pending.sample) :
    Settles (told ++ act :: nextCalls pending.left) (w.proceed pending.left) where
  returned_eq _ := by
    have eq := h.returned_eq (by rw [at_]; nofun)
    rw [at_] at eq
    rw [returned_append, settled_append, eq, inFlight_proceed, ← List.singleton_append,
      returned_append, settled_append, returned_nextCalls, settled_nextCalls]
    simp [returned, settled, Stage.inFlight, back, done]
  executed_eq := by
    rw [settled_append, List.length_append, ← h.executed_eq, ← List.singleton_append,
      settled_append, settled_nextCalls]
    simp [settled, done, proceed]
  operations_eq operations eq := by
    rw [operations?_proceed] at eq
    cases eq

/-- A move keeps the books. -/
theorem move {s s' : Shared} {event : Event} (h : Settles told w)
    (story : Story told w.ready w.stage) (move : Move s w event acts s' w') :
    Settles (told ++ acts) w' := by
  cases move with
  | start at_ | opened at_ | refused at_ _ | broken at_ | announced at_ | released at_ _
  | asked at_ _ | permitted at_ _ | skipped at_ _ _ | begun at_ _ _ | panicked at_ =>
    exact h.idle (by rw [at_]; nofun) (by rw [at_]; rfl) rfl rfl rfl rfl nofun
  | dismissed at_ told idle =>
    -- It ends with no operations, and by its story there were none.
    rw [at_] at story
    have none : w.executed = 0 := by
      rw [h.executed_eq, story.of_waiting.1]
      rfl
    refine h.idle (by rw [at_]; nofun) (by rw [at_]; rfl) rfl rfl rfl rfl ?_
    rintro _ ⟨⟩
    exact none.symm
  | stopped at_ seen =>
    refine h.idle ?_ ?_ rfl rfl rfl rfl ?_
    · rcases at_ with ⟨-, at_⟩ | ⟨-, at_⟩ <;> rw [at_] <;> nofun
    · rcases at_ with ⟨-, at_⟩ | ⟨-, at_⟩ <;> rw [at_] <;> rfl
    · rintro _ ⟨⟩
      rfl
  | returned reply at_ returns =>
    -- The operation has returned, and its sample is on its way.
    have eq := h.returned_eq (by rw [at_]; nofun)
    rw [at_] at eq
    refine ⟨fun _ => ?_, ?_, nofun⟩
    · rw [returned_append, settled_append, eq]
      simp [returned, settled, Act.returned?, Act.settled?, returns, Stage.inFlight]
    · rw [settled_append, List.length_append, ← h.executed_eq]
      rfl
  | queued at_ taken => exact h.settle at_ rfl rfl
  | dropped at_ why => exact h.settle at_ rfl rfl
  | waited at_ full =>
    have eq := h.returned_eq (by rw [at_]; nofun)
    rw [at_] at eq
    rw [List.append_nil]
    exact ⟨fun _ => eq, h.executed_eq, nofun⟩
  | closed at_ =>
    have eq := h.returned_eq (by rw [at_]; nofun)
    have own := h.operations_eq
    rw [at_] at eq own
    rw [List.append_nil]
    exact ⟨fun _ => eq, h.executed_eq, own⟩
  | cancelled at_ off =>
    rw [List.append_nil]
    exact ⟨fun alive => absurd rfl alive, h.executed_eq, nofun⟩

end Settles

/-- **Every worker keeps the books of its operations.** -/
theorem Life.settles {id : Nat} {plan : RatePlan} {told : List Act} {w : Worker}
    (life : Life id plan told w) : Settles told w := by
  induction life with
  | spawned => exact ⟨fun _ => rfl, rfl, nofun⟩
  | step life next ih => exact ih.move life.story (move_of_step next)
  | calledOff life ih => exact ⟨ih.returned_eq, ih.executed_eq, ih.operations_eq⟩

/-! ### What a step leaves -/

/-- What a step of a worker leaves in the shared state: the samples it queued are at the ends of their
    queues, those it dropped are counted, and the tally, the signal and the clock are as they were.
    No worker says anything about the sums at the end. -/
structure Leaves (acts : List Act) (s s' : Shared) : Prop where
  queue_eq : ∀ v, (s'.queue v).toList = (s.queue v).toList ++ latenciesOf v (queued acts)
  dropped_eq : s'.aggregator.dropped = s.aggregator.dropped + (lost acts).length
  tally_eq : s'.aggregator.tally = s.aggregator.tally
  signal_eq : s'.signal = s.signal
  now_eq : s'.now = s.now
  audits_eq : s'.audits = s.audits

namespace Leaves

variable {acts : List Act} {s s' : Shared}

/-- A step that neither queues nor drops a sample. -/
theorem quiet (none : queued acts = []) (kept : lost acts = []) (success : s'.success = s.success)
    (error : s'.error = s.error) (aggregator : s'.aggregator = s.aggregator)
    (signal : s'.signal = s.signal) (now : s'.now = s.now) (audits : s'.audits = s.audits) :
    Leaves acts s s' where
  queue_eq v := by
    rw [none]
    cases v <;> simp [Shared.queue, success, error, latenciesOf]
  dropped_eq := by rw [kept, aggregator]; rfl
  tally_eq := by rw [aggregator]
  signal_eq := signal
  now_eq := now
  audits_eq := audits

end Leaves

theorem queued_nextCalls (left : Nat) : queued (nextCalls left) = [] := by
  unfold nextCalls
  split <;> rfl

theorem lost_nextCalls (left : Nat) : lost (nextCalls left) = [] := by
  unfold nextCalls
  split <;> rfl

/-- What every step leaves. -/
theorem leaves_of_move {acts : List Act} {s s' : Shared} {w w' : Worker} {event : Event}
    (move : Move s w event acts s' w') : Leaves acts s s' := by
  cases move with
  | start _ | opened _ | refused _ _ | broken _ | announced _ | released _ _ | dismissed _ _ _
  | stopped _ _ | asked _ _ | permitted _ _ | skipped _ _ _ | begun _ _ _ | panicked _ | waited _ _
  | cancelled _ _ => exact .quiet rfl rfl rfl rfl rfl rfl rfl rfl
  | returned reply at_ returns =>
    cases reply with
    | ok => exact .quiet rfl rfl rfl rfl rfl rfl rfl rfl
    | failed cause => exact .quiet rfl rfl rfl rfl rfl rfl rfl rfl
    | panicked message => cases returns
  | @closed ending at_ =>
    cases ending with
    | executed operations => exact .quiet rfl rfl rfl rfl rfl rfl rfl rfl
    | failed cause => exact .quiet rfl rfl rfl rfl rfl rfl rfl rfl
    | panicked message => exact .quiet rfl rfl rfl rfl rfl rfl rfl rfl
  | @queued pending queue at_ taken =>
    have one : queued (.queued pending.sample :: nextCalls pending.left) = [pending.sample] :=
      congrArg (pending.sample :: ·) (queued_nextCalls _)
    have none : lost (.queued pending.sample :: nextCalls pending.left) = [] := lost_nextCalls _
    have kept := Shared.aggregator_setQueue s pending.sample.verdict queue
    refine ⟨fun v => ?_, ?_, ?_, Shared.signal_setQueue .., Shared.now_setQueue ..,
      Shared.audits_setQueue ..⟩
    · rw [one, Shared.queue_setQueue, latenciesOf_singleton]
      by_cases same : pending.sample.verdict = v
      · rw [if_pos same, if_pos same, ← same]
        exact Queue.toList_of_offer taken
      · rw [if_neg same, if_neg same, List.append_nil]
    · rw [none, kept]
      rfl
    · rw [kept]
  | @dropped pending event reason at_ why =>
    have none : queued (.lost pending.sample :: nextCalls pending.left) = [] := queued_nextCalls _
    have one : lost (.lost pending.sample :: nextCalls pending.left) = [pending.sample] :=
      congrArg (pending.sample :: ·) (lost_nextCalls _)
    refine ⟨fun v => ?_, ?_, rfl, rfl, rfl, ?_⟩
    · rw [none, latenciesOf_nil, List.append_nil]
      cases v <;> rfl
    · rw [one]
      rfl
    · obtain ⟨-, -, rfl⟩ | ⟨-, -, rfl⟩ := why <;> rfl

end Worker

end LoadGen
