import LoadGen.Proofs.Worker.Stopping

namespace LoadGen

/-!
# The life of a worker

What a worker calls of its engine, how it ends, and what others see of it on the way.

* `Worker.engineCalls`, `Worker.lifeCalls` — the calls of a story, and those of a whole life;
* `Worker.Breaks` — where an operation may have broken off, by stage;
* `Worker.Shown` — the published state, by stage;
* `Worker.Scene.Follows` — the protocol that a worker follows with its engine;
* `Worker.Scene.Publishes` — what can be said of a worker from its published state;
* `Worker.Scene.lifecycle` — every worker does both, wherever the start, the stop and the release come.
-/

namespace Worker

/-! ### The calls of an engine -/

/-- The call of the engine that an act begins. -/
def Act.call? : Act → Option EngineCall
  | .called call => some call
  | _ => none

/-- The calls of the engine, oldest first. -/
def engineCalls (told : List Act) : List EngineCall := told.filterMap Act.call?

/-- The calls of a whole life: the engine is opened, executes operations, and is closed. -/
def lifeCalls (operations : Nat) : List EngineCall :=
  .connect :: (List.replicate operations .execute ++ [.close])

theorem engineCalls_append (told more : List Act) :
    engineCalls (told ++ more) = engineCalls told ++ engineCalls more := List.filterMap_append

/-- Operations call nothing else. -/
theorem engineCalls_of_operating {told : List Act}
    (operating : ∀ act ∈ told, act.isOperating = true) :
    engineCalls told = List.replicate (engineCalls told).length .execute := by
  apply List.eq_replicate_of_mem
  intro call mem
  obtain ⟨act, seen, begins⟩ := List.mem_filterMap.mp mem
  have own := operating act seen
  cases act with
  | called other =>
    cases begins
    cases call with
    | execute => rfl
    | connect | close => cases own
  | opened | released | executed | queued | lost => cases begins

/-- The operations that were called, counted by the acts or by the calls. -/
theorem count_engineCalls (told : List Act) :
    (engineCalls told).count .execute = told.countP Act.isCall := by
  unfold engineCalls
  rw [List.count_filterMap]
  congr 1
  funext act
  cases act with
  | called call => cases call <;> rfl
  | opened | released | executed | queued | lost => rfl

theorem count_lifeCalls (operations : Nat) : (lifeCalls operations).count .execute = operations := by
  simp [lifeCalls, List.count_append]

/-- A beginning that an act is no part of lies before the act. -/
theorem prefix_of_not_mem {first before after : List Act} {act : Act}
    (h : first <+: before ++ act :: after) (other : act ∉ first) : first <+: before := by
  rcases List.prefix_or_prefix_of_prefix h (List.prefix_append before _) with inside | ⟨rest, longer⟩
  · exact inside
  · cases rest with
    | nil =>
      have same : first = before := longer.symm.trans (List.append_nil before)
      exact same ▸ List.prefix_refl _
    | cons next rest =>
      -- The act would be the first that the beginning has more.
      obtain ⟨tail, eq⟩ := h
      rw [← longer, List.append_assoc] at eq
      have same : next = act := (List.cons.inj (List.append_cancel_left eq)).1
      have mem : act ∈ first := by
        rw [← longer, same]
        exact List.mem_append_right _ List.mem_cons_self
      exact absurd mem other

namespace Story

variable {told : List Act} {ready : Bool} {stage : Stage} {ending : Ending}

/-- A worker that was released has opened its engine first, and calls nothing but operations then. -/
theorem engineCalls_released {more : List Act} (operating : ∀ act ∈ more, act.isOperating = true) :
    engineCalls (openedActs ++ .released .running :: more) =
      .connect :: List.replicate (engineCalls more).length .execute := by
  rw [← engineCalls_of_operating operating]
  rfl

/-- At every moment the calls are the beginning of those of a whole life. -/
theorem engineCalls_prefix (story : Story told ready stage) :
    ∃ operations, engineCalls told <+: lifeCalls operations := by
  induction story with
  | spawned => exact ⟨0, List.nil_prefix⟩
  | opening | broken | announcing | waiting => exact ⟨0, [.close], rfl⟩
  | refused | dismissed => exact ⟨0, List.prefix_refl _⟩
  | cancelled story ih => exact ih
  | working more operating _ =>
    rw [engineCalls_released operating]
    exact ⟨_, [.close], rfl⟩
  | left more operating _ _ =>
    refine ⟨(engineCalls more).length, ?_⟩
    rw [← List.cons_append, ← List.append_assoc, engineCalls_append, engineCalls_released operating]
    exact List.prefix_refl _

/-- A worker that has ended by itself has made all calls of its life, unless opening its engine broke
    off. -/
theorem engineCalls_finished (story : Story told ready (.finished ending))
    (unbroken : ∀ message, .opened (.panicked message) ∉ told) :
    ∃ operations, engineCalls told = lifeCalls operations := by
  cases story with
  | broken message => exact absurd (by simp) (unbroken message)
  | refused | dismissed => exact ⟨0, rfl⟩
  | working more operating at_ => cases at_
  | left more operating own at_ =>
    refine ⟨(engineCalls more).length, ?_⟩
    rw [← List.cons_append, ← List.append_assoc, engineCalls_append, engineCalls_released operating]
    rfl

/-- What comes before an operation that is called. -/
theorem before_execute {before after : List Act} (story : Story told ready stage)
    (eq : told = before ++ .called .execute :: after) :
    .opened (.opened true) ∈ before ∧ .released .running ∈ before := by
  -- The story opens with three acts that are no operations.
  have opens : ∃ more, told = openedActs ++ .released .running :: more := by
    have mem : .called .execute ∈ told := by simp [eq]
    clear eq
    induction story with
    | spawned | opening | broken | refused | announcing | waiting | dismissed =>
      simp [openedActs] at mem
    | cancelled story ih => exact ih mem
    | working more | left more => exact ⟨_, rfl⟩
  obtain ⟨more, opens⟩ := opens
  have first : openedActs ++ [.released .running] <+: before ++ .called .execute :: after := by
    rw [← eq, opens]
    exact ⟨more, by rw [List.append_assoc, List.singleton_append]⟩
  have inside := prefix_of_not_mem first (by simp [openedActs])
  exact ⟨inside.subset (by simp [openedActs]), inside.subset (by simp [openedActs])⟩

/-- A worker whose engine could not be opened ends with the error of that. -/
theorem ending_of_refusal {reply : OpenReply} {cause : EngineError}
    (story : Story told ready (.finished ending)) (mem : .opened reply ∈ told)
    (refusal : reply.refusal? = some cause) :
    told = [.called .connect, .opened reply, .called .close] ∧ ending = .failed cause := by
  cases story with
  | broken message =>
    have same : reply = .panicked message := by simpa using mem
    rw [same] at refusal
    cases refusal
  | @refused reply' cause' _ refusal' at_ =>
    obtain rfl : reply = reply' := by simpa using mem
    rw [refusal] at refusal'
    cases refusal'
    rcases at_ with at_ | at_ <;> cases at_
    exact ⟨rfl, rfl⟩
  | dismissed =>
    have same : reply = .opened true := by simpa [openedActs] using mem
    rw [same] at refusal
    cases refusal
  | working more operating at_ => cases at_
  | left more operating own at_ =>
    have none : .opened reply ∉ more := not_mem_of_operating operating rfl
    have same : reply = .opened true := by simpa [openedActs, none] using mem
    rw [same] at refusal
    cases refusal

/-- A worker that ends with an error could not open its engine. -/
theorem refusal_of_failed {cause : EngineError} (story : Story told ready (.finished (.failed cause))) :
    ∃ reply, .opened reply ∈ told ∧ reply.refusal? = some cause := by
  cases story with
  | @refused reply _ _ refusal at_ =>
    rcases at_ with at_ | at_ <;> cases at_
    exact ⟨reply, by simp, refusal⟩
  | dismissed _ at_ => rcases at_ with at_ | at_ <;> cases at_
  | working more operating at_ => cases at_
  | left more operating own at_ =>
    rcases at_ with at_ | at_ <;> cases at_
    exact absurd rfl (own cause)

/-- A call that broke off before a worker was ready is the opening of its engine. -/
theorem opened_of_unready {message : String} (story : Story told false (.finished (.panicked message))) :
    .opened (.panicked message) ∈ told := by
  cases story with
  | broken => simp
  | refused _ at_ => rcases at_ with at_ | at_ <;> cases at_

end Story

/-! ### Operations that break off -/

/-- Where a call may have broken off, by stage.  A worker tells nothing after an operation that broke
    off but that it closes its engine. -/
inductive Breaks : List Act → Stage → Prop where
  | sound {told : List Act} {stage : Stage} (none : ∀ act ∈ told, act.isBreak = false)
      (at_ : stage.isBroken = false) : Breaks told stage
  | opening (message : String) :
      Breaks [.called .connect, .opened (.panicked message)] (.finished (.panicked message))
  | executing {before : List Act} {message : String} {latency : Duration} {stage : Stage}
      (none : ∀ act ∈ before, act.isBreak = false)
      (at_ : stage = .closing (.panicked message) ∨ stage = .finished (.panicked message)) :
      Breaks (before ++ [.executed (.panicked message) latency, .called .close]) stage

theorem isBreak_nextCalls (left : Nat) : ∀ act ∈ nextCalls left, act.isBreak = false := by
  unfold nextCalls
  split <;> simp [Act.isBreak]

namespace Breaks

variable {told acts : List Act} {stage stage' : Stage} {s s' : Shared} {w w' : Worker} {event : Event}

/-- Where nothing has to be closed after a call that broke off, none has broken off. -/
theorem none_of_sound (h : Breaks told stage) (at_ : stage.isBroken = false) :
    ∀ act ∈ told, act.isBreak = false := by
  cases h with
  | sound none _ => exact none
  | opening message => cases at_
  | executing none at' => rcases at' with rfl | rfl <;> cases at_

/-- Nothing breaks off. -/
theorem go (h : Breaks told stage) (at_ : stage.isBroken = false)
    (quiet : ∀ act ∈ acts, act.isBreak = false) (at' : stage'.isBroken = false) :
    Breaks (told ++ acts) stage' := by
  refine .sound (fun act mem => ?_) at'
  exact (List.mem_append.mp mem).elim (h.none_of_sound at_ act) (quiet act)

theorem move (h : Breaks told w.stage) (story : Story told w.ready w.stage)
    (stays : w.aborting = false) (move : Move s w event acts s' w') :
    Breaks (told ++ acts) w'.stage := by
  cases move with
  | start at_ | opened at_ | announced at_ | released at_ _ | dismissed at_ _ _ | asked at_ _
  | permitted at_ _ | skipped at_ _ _ | begun at_ _ _ | waited at_ _ =>
    exact h.go (at_ ▸ rfl) (by simp [Act.isBreak]) rfl
  | @refused reply cause at_ refusal =>
    have quiet : Act.isBreak (.opened reply) = false := by
      cases reply with
      | opened ready | failed cause => rfl
      | panicked message => cases refusal
    exact h.go (at_ ▸ rfl) (by simp [quiet]; rfl) rfl
  | broken at_ =>
    rw [at_] at story
    obtain ⟨rfl, -⟩ := story.of_opening
    exact .opening _
  | stopped at_ seen =>
    have sound : w.stage.isBroken = false := by
      rcases at_ with ⟨-, at_⟩ | ⟨-, at_⟩ <;> rw [at_] <;> rfl
    exact h.go sound (by simp [Act.isBreak]) rfl
  | @returned reply verdict latency left at_ returns =>
    -- An answer that has a verdict is no break.
    have quiet : Act.isBreak (.executed reply latency) = false := by
      cases reply with
      | ok | failed cause => rfl
      | panicked message => cases returns
    exact h.go (at_ ▸ rfl) (by simp [quiet]) rfl
  | panicked at_ => exact .executing (h.none_of_sound (at_ ▸ rfl)) (.inl rfl)
  | queued at_ taken | dropped at_ why =>
    refine h.go (at_ ▸ rfl) ?_ (isBroken_proceed w _)
    intro act mem
    rcases List.mem_cons.mp mem with rfl | next
    · rfl
    · exact isBreak_nextCalls _ act next
  | @closed ending at_ =>
    rw [at_] at h
    rw [List.append_nil]
    cases h with
    | sound none at' => exact .sound none ((isBroken_finished ending).trans at')
    | executing none at' =>
      rcases at' with at' | at' <;> cases at'
      exact .executing none (.inr rfl)
  | cancelled at_ off =>
    rw [stays] at off
    cases off

/-- Where an operation breaks off, the engine is closed at once, and the worker ends with the message
    of that. -/
theorem at_break {before after : List Act} {message : String} {latency : Duration}
    (h : Breaks told stage) (eq : told = before ++ .executed (.panicked message) latency :: after) :
    after = [.called .close] ∧
      (stage = .closing (.panicked message) ∨ stage = .finished (.panicked message)) := by
  have mem : .executed (.panicked message) latency ∈ told := by
    rw [eq]
    exact List.mem_append_right _ List.mem_cons_self
  cases h with
  | sound none _ => exact absurd (none _ mem) (by simp [Act.isBreak])
  | opening _ => simp at mem
  | @executing first message' latency' _ none at_ =>
    -- What was told before the break has no break in it.
    have other : .executed (.panicked message) latency ∉ first := fun early =>
      absurd (none _ early) (by simp [Act.isBreak])
    have inside : first <+: before := prefix_of_not_mem ⟨_, eq⟩ other
    obtain ⟨more, rfl⟩ := inside
    rw [List.append_assoc] at eq
    have rest := List.append_cancel_left eq
    cases more with
    | nil =>
      rw [List.nil_append] at rest
      cases rest
      exact ⟨rfl, at_⟩
    | cons act more =>
      have far : .executed (.panicked message) latency ∈ [Act.called .close] := by
        rw [(List.cons.inj rest).2]
        exact List.mem_append_right _ List.mem_cons_self
      simp at far

/-- A worker that ends with a message has an operation that broke off with it, unless opening its
    engine broke off. -/
theorem executed_of_finished {message : String} (h : Breaks told (.finished (.panicked message)))
    (unbroken : ∀ message, .opened (.panicked message) ∉ told) :
    ∃ latency, .executed (.panicked message) latency ∈ told := by
  cases h with
  | sound none at_ => cases at_
  | opening message => exact absurd (by simp) (unbroken message)
  | @executing _ _ latency _ none at_ =>
    rcases at_ with at_ | at_ <;> cases at_
    exact ⟨latency, by simp⟩

end Breaks

section

variable {id : Nat} {plan : RatePlan} {told : List Act} {w : Worker}

/-- What holds of a new worker and is kept by every step holds of a worker that nobody calls off. -/
theorem Life.induct {motive : List Act → Worker → Prop} (life : Life id plan told w)
    (stays : w.aborting = false) (first : motive [] (.ofPlan id plan))
    (next : ∀ {told acts : List Act} {s s' : Shared} {w w' : Worker} {event : Event},
      Life id plan told w → w.aborting = false → motive told w → Move s w event acts s' w' →
        motive (told ++ acts) w') :
    motive told w := by
  induction life with
  | spawned => exact first
  | step life now ih =>
    have move := move_of_step now
    have stays := move.aborting_eq.symm.trans stays
    exact next life stays (ih stays) move
  | calledOff life ih => cases stays

/-- A worker that nobody calls off closes its engine as soon as an operation breaks off. -/
theorem Life.breaks (life : Life id plan told w) (stays : w.aborting = false) : Breaks told w.stage :=
  life.induct (motive := fun told w => Breaks told w.stage) stays (.sound nofun rfl)
    fun life stays breaks move => breaks.move life.story stays move

end

/-! ### The published state -/

/-- What others see of a worker that nobody calls off, by stage. -/
inductive Shown : Stage → WorkerState → Bool → Prop where
  | spawned : Shown .spawned .constructed false
  | opening : Shown .opening .initializing false
  | announcing : Shown .announcing .waitingForStart false
  | waiting : Shown .waiting .waitingForStart true
  | working {stage : Stage} (at_ : stage.isWorking = true) : Shown stage .running true
  | refused (cause : EngineError) : Shown (.closing (.failed cause)) .initializing false
  | leaving {ending : Ending} {state : WorkerState}
      (after : state = .waitingForStart ∨ state = .running) : Shown (.closing ending) state true
  | closed (ending : Ending) (ready : Bool) : Shown (.finished ending) .stopped ready
  | broken (message : String) : Shown (.finished (.panicked message)) .initializing false

namespace Shown

variable {stage stage' : Stage} {state : WorkerState} {ready : Bool} {s s' : Shared} {w w' : Worker}
  {event : Event} {acts : List Act}

theorem of_spawned (h : Shown .spawned state ready) : state = .constructed ∧ ready = false := by
  cases h with
  | spawned => exact ⟨rfl, rfl⟩
  | working at_ => cases at_

theorem of_opening (h : Shown .opening state ready) : state = .initializing ∧ ready = false := by
  cases h with
  | opening => exact ⟨rfl, rfl⟩
  | working at_ => cases at_

theorem of_announcing (h : Shown .announcing state ready) :
    state = .waitingForStart ∧ ready = false := by
  cases h with
  | announcing => exact ⟨rfl, rfl⟩
  | working at_ => cases at_

theorem of_waiting (h : Shown .waiting state ready) : state = .waitingForStart ∧ ready = true := by
  cases h with
  | waiting => exact ⟨rfl, rfl⟩
  | working at_ => cases at_

/-- A worker that works shows that it runs. -/
theorem of_working (h : Shown stage state ready) (at_ : stage.isWorking = true) :
    state = .running ∧ ready = true := by
  cases h with
  | working => exact ⟨rfl, rfl⟩
  | spawned | opening | announcing | waiting | refused | leaving | closed | broken => cases at_

/-- A step shows what comes next, and the state only grows. -/
theorem move (h : Shown w.stage w.state w.ready) (stays : w.aborting = false)
    (move : Move s w event acts s' w') :
    Shown w'.stage w'.state w'.ready ∧ w.state.order ≤ w'.state.order := by
  -- The operations change nothing that is shown, and leave it to the closing.
  have goes {stage : Stage} (at_ : w.stage.isWorking = true) (at' : stage.isWorking = true) :
      Shown stage w.state w.ready ∧ w.state.order ≤ w.state.order := by
    obtain ⟨state, ready⟩ := h.of_working at_
    rw [state, ready]
    exact ⟨.working at', Nat.le_refl _⟩
  have leaves (ending : Ending) (at_ : w.stage.isWorking = true) :
      Shown (.closing ending) w.state w.ready ∧ w.state.order ≤ w.state.order := by
    obtain ⟨state, ready⟩ := h.of_working at_
    rw [ready]
    exact ⟨.leaving (.inr state), Nat.le_refl _⟩
  cases move with
  | start at_ =>
    obtain ⟨state, ready⟩ := (at_ ▸ h).of_spawned
    show Shown .opening .initializing w.ready ∧ w.state.order ≤ WorkerState.initializing.order
    rw [state, ready]
    exact ⟨.opening, by decide⟩
  | opened at_ =>
    obtain ⟨state, ready⟩ := (at_ ▸ h).of_opening
    show Shown .announcing .waitingForStart w.ready ∧
      w.state.order ≤ WorkerState.waitingForStart.order
    rw [state, ready]
    exact ⟨.announcing, by decide⟩
  | refused at_ refusal =>
    obtain ⟨state, ready⟩ := (at_ ▸ h).of_opening
    show Shown (.closing (.failed _)) w.state w.ready ∧ w.state.order ≤ w.state.order
    rw [state, ready]
    exact ⟨.refused _, Nat.le_refl _⟩
  | broken at_ =>
    obtain ⟨state, ready⟩ := (at_ ▸ h).of_opening
    show Shown (.finished (.panicked _)) w.state w.ready ∧ w.state.order ≤ w.state.order
    rw [state, ready]
    exact ⟨.broken _, Nat.le_refl _⟩
  | announced at_ =>
    obtain ⟨state, -⟩ := (at_ ▸ h).of_announcing
    show Shown .waiting w.state true ∧ w.state.order ≤ w.state.order
    rw [state]
    exact ⟨.waiting, Nat.le_refl _⟩
  | released at_ told =>
    obtain ⟨state, ready⟩ := (at_ ▸ h).of_waiting
    show Shown .between .running w.ready ∧ w.state.order ≤ WorkerState.running.order
    rw [state, ready]
    exact ⟨.working rfl, by decide⟩
  | dismissed at_ told idle =>
    obtain ⟨state, ready⟩ := (at_ ▸ h).of_waiting
    show Shown (.closing _) w.state w.ready ∧ w.state.order ≤ w.state.order
    rw [ready]
    exact ⟨.leaving (.inl state), Nat.le_refl _⟩
  | stopped at_ seen =>
    have working : w.stage.isWorking = true := by
      rcases at_ with ⟨-, at_⟩ | ⟨-, at_⟩ <;> rw [at_] <;> rfl
    exact leaves _ working
  | asked at_ _ | permitted at_ _ | skipped at_ _ _ | begun at_ _ _ | returned _ at_ _
  | waited at_ _ => exact goes (at_ ▸ rfl) rfl
  | queued at_ _ | dropped at_ _ => exact goes (at_ ▸ rfl) (isWorking_proceed w _)
  | panicked at_ => exact leaves _ (at_ ▸ rfl)
  | closed at_ =>
    refine ⟨.closed _ _, ?_⟩
    show w.state.order ≤ WorkerState.stopped.order
    cases w.state <;> decide
  | cancelled at_ off =>
    rw [stays] at off
    cases off

/-- A worker that is over shows that it has stopped, unless opening its engine broke off. -/
theorem of_finished {ending : Ending} (h : Shown (.finished ending) state ready) :
    state = .stopped ∨ ready = false ∧ ∃ message, ending = .panicked message := by
  cases h with
  | closed => exact .inl rfl
  | broken message => exact .inr ⟨rfl, message, rfl⟩
  | working at_ => cases at_

/-- A worker is ready only when its engine is open. -/
theorem le_order (h : Shown stage state true) :
    WorkerState.waitingForStart.order ≤ state.order := by
  cases h with
  | waiting | working | closed => decide
  | leaving after => rcases after with rfl | rfl <;> decide

end Shown

/-- A worker that nobody calls off shows where it is. -/
theorem Life.shown {id : Nat} {plan : RatePlan} {told : List Act} {w : Worker}
    (life : Life id plan told w) (stays : w.aborting = false) : Shown w.stage w.state w.ready :=
  life.induct (motive := fun _ w => Shown w.stage w.state w.ready) stays .spawned
    fun _ stays shown move => (shown.move stays move).1

/-- A worker that nobody calls off ends when its engine is closed, or when opening it breaks off. -/
theorem Move.closed_of_over {s s' : Shared} {w w' : Worker} {event : Event} {acts : List Act}
    (move : Move s w event acts s' w') (stays : w.aborting = false) (gone : w'.isOver = true) :
    (event = .closed ∧ ∃ ending, w.stage = .closing ending ∧ w'.stage = .finished ending) ∨
      ∃ message, event = .opened (.panicked message) := by
  cases move with
  | @closed ending at_ => exact .inl ⟨rfl, ending, at_, rfl⟩
  | @broken message at_ => exact .inr ⟨message, rfl⟩
  | cancelled alive off =>
    rw [stays] at off
    cases off
  | queued at_ taken | dropped at_ why =>
    rw [isOver_proceed] at gone
    cases gone
  | start | opened | refused | announced | released | dismissed | stopped | asked | permitted
  | skipped | begun | returned | panicked | waited => cases gone

/-! ### The protocol -/

namespace Scene

/-- The protocol that a worker follows with its engine. -/
structure Follows (told : List Act) (c : Scene) : Prop where
  /-- The calls are those of a life so far, and of a whole one at its end. -/
  begun : ∃ operations, engineCalls (own told) <+: lifeCalls operations
  whole : c.worker.isOver = true → ∃ operations, engineCalls (own told) = lifeCalls operations
  /-- A worker that ends by itself returns the number of operations it called. -/
  executed : ∀ operations, c.worker.stage = .finished (.executed operations) →
    engineCalls (own told) = lifeCalls operations
  /-- Nothing is executed before the engine is open and ready and the worker is released to run. -/
  released : ∀ before after, told = before ++ .own (.called .execute) :: after →
    .own (.opened (.opened true)) ∈ before ∧ .own (.released .running) ∈ before
  /-- A worker whose engine could not be opened closes it, and ends with the error of that. -/
  refused : ∀ reply cause, .own (.opened reply) ∈ told → reply.refusal? = some cause →
    c.worker.isOver = true →
      own told = [.called .connect, .opened reply, .called .close] ∧
        c.worker.stage = .finished (.failed cause)
  failed : ∀ cause, c.worker.stage = .finished (.failed cause) →
    ∃ reply, .own (.opened reply) ∈ told ∧ reply.refusal? = some cause
  /-- After an operation that breaks off the worker only closes its engine, and ends with the message
      of that. -/
  broken : ∀ before after message latency,
    told = before ++ .own (.executed (.panicked message) latency) :: after →
      own after = [.called .close] ∧
        (c.worker.isOver = true → c.worker.stage = .finished (.panicked message))
  panicked : ∀ message, c.worker.stage = .finished (.panicked message) →
    ∃ latency, .own (.executed (.panicked message) latency) ∈ told
  /-- What a worker ends with comes out when its engine is closed, and not before. -/
  closed : ∀ deed c', c.perform deed = some c' → c.worker.isOver = false → c'.worker.isOver = true →
    (∃ message, deed = .own (.opened (.panicked message))) ∨
      deed = .own .closed ∧
        ∃ ending, c.worker.stage = .closing ending ∧ c'.worker.stage = .finished ending

/-- What can be said of a worker from what it publishes. -/
structure Publishes (told : List Act) (c : Scene) : Prop where
  /-- A worker that is over shows that it has stopped. -/
  stopped : c.worker.isOver = true → c.worker.state = .stopped
  /-- A worker that shows that it is ready waits for the start, or waited for it. -/
  waiting : c.worker.ready = true → WorkerState.waitingForStart.order ≤ c.worker.state.order
  opened : c.worker.ready = true → .own (.opened (.opened true)) ∈ told
  unready : ∀ reply cause, .own (.opened reply) ∈ told → reply.refusal? = some cause →
    c.worker.ready = false
  /-- The state only grows, and a worker that was ready stays so. -/
  grows : ∀ more later, Reached c more later →
    c.worker.state.order ≤ later.worker.state.order ∧
      (c.worker.ready = true → later.worker.ready = true)

section

variable {id : Nat} {plan : RatePlan} {shared : Shared} {start c : Scene} {told : List Act}

/-- The story of the worker is cut where the journal is. -/
theorem own_cut {before after : List Act} {act : Worker.Act}
    (eq : told = before ++ .own act :: after) : own told = own before ++ act :: own after := by
  rw [eq, own_append]
  rfl

/-- Every worker follows the protocol, as long as opening its engine returns. -/
theorem Reached.follows (h : Reached (fresh id plan shared) told c)
    (returns : ∀ message, .own (.opened (.panicked message)) ∉ told) : Follows told c := by
  have stays : c.worker.aborting = false := h.aborting_eq
  have story := h.life.story
  have breaks := h.life.breaks stays
  have unbroken : ∀ message, .opened (.panicked message) ∉ own told := fun message mem =>
    returns message (mem_own.mp mem)
  have whole (gone : c.worker.isOver = true) :
      ∃ operations, engineCalls (own told) = lifeCalls operations := by
    obtain ⟨ending, at_⟩ := h.finished gone
    rw [at_] at story
    exact story.engineCalls_finished unbroken
  constructor
  case begun => exact story.engineCalls_prefix
  case whole => exact whole
  case executed =>
    intro operations at_
    -- The operations in the calls of the life are those that the journal counts.
    obtain ⟨count, same⟩ := whole (by rw [isOver, at_])
    have called : operations = calls told := (h.whole at_).1
    rw [same, called, calls, ← count_engineCalls, same, count_lifeCalls]
  case released =>
    intro before after eq
    obtain ⟨opened, released⟩ := story.before_execute (own_cut eq)
    exact ⟨mem_own.mp opened, mem_own.mp released⟩
  case refused =>
    intro reply cause mem refusal gone
    obtain ⟨ending, at_⟩ := h.finished gone
    rw [at_] at story ⊢
    obtain ⟨told, rfl⟩ := story.ending_of_refusal (mem_own.mpr mem) refusal
    exact ⟨told, rfl⟩
  case failed =>
    intro cause at_
    rw [at_] at story
    obtain ⟨reply, mem, refusal⟩ := story.refusal_of_failed
    exact ⟨reply, mem_own.mp mem, refusal⟩
  case broken =>
    intro before after message latency eq
    obtain ⟨closing, at_⟩ := breaks.at_break (own_cut eq)
    refine ⟨closing, fun gone => at_.resolve_left fun open_ => ?_⟩
    rw [isOver, open_] at gone
    cases gone
  case panicked =>
    intro message at_
    rw [at_] at breaks
    obtain ⟨latency, mem⟩ := breaks.executed_of_finished unbroken
    exact ⟨latency, mem_own.mp mem⟩
  case closed =>
    intro deed c' now alive gone
    cases deed with
    | own event =>
      obtain ⟨⟨shared, worker⟩, moved, rfl⟩ := Option.map_eq_some_iff.mp now
      rcases (move_of_step moved).closed_of_over stays gone with ⟨rfl, closed⟩ | ⟨message, rfl⟩
      · exact .inr ⟨rfl, closed⟩
      · exact .inl ⟨message, rfl⟩
    | others shared =>
      cases now
      rw [alive] at gone
      cases gone
    | start | stop | release =>
      obtain ⟨-, rfl⟩ := give_eq_some now
      rw [alive] at gone
      cases gone

/-- What a worker publishes only grows. -/
theorem Reached.publishes_grow {more : List Act} {later : Scene}
    (shown : Shown start.worker.stage start.worker.state start.worker.ready)
    (stays : start.worker.aborting = false) (h : Reached start more later) :
    start.worker.state.order ≤ later.worker.state.order ∧
      (start.worker.ready = true → later.worker.ready = true) := by
  refine (h.induct (motive := fun _ c => c.worker.aborting = false ∧
    Shown c.worker.stage c.worker.state c.worker.ready ∧
    start.worker.state.order ≤ c.worker.state.order ∧
      (start.worker.ready = true → c.worker.ready = true))
    ⟨stays, shown, Nat.le_refl _, fun ready => ready⟩ ?_).2.2
  intro told acts c c' ⟨stays, shown, order, ready⟩ move
  cases move with
  | own step move told =>
    obtain ⟨shown', order'⟩ := shown.move stays move
    exact ⟨move.aborting_eq.trans stays, shown', Nat.le_trans order order', fun before =>
      move.ready_of_ready (ready before)⟩
  | others _ | started _ | stopped _ => exact ⟨stays, shown, order, ready⟩

/-- What every worker publishes, as long as opening its engine returns. -/
theorem Reached.publishes (h : Reached (fresh id plan shared) told c)
    (returns : ∀ message, .own (.opened (.panicked message)) ∉ told) : Publishes told c := by
  have stays : c.worker.aborting = false := h.aborting_eq
  have story := h.life.story
  have shown := h.life.shown stays
  constructor
  case stopped =>
    intro gone
    obtain ⟨ending, at_⟩ := h.finished gone
    rw [at_] at shown
    rcases shown.of_finished with stopped | ⟨unready, message, rfl⟩
    · exact stopped
    · -- A worker that was never ready executes nothing that could have broken off.
      rw [at_, unready] at story
      exact absurd (mem_own.mp story.opened_of_unready) (returns message)
  case waiting =>
    intro ready
    rw [ready] at shown
    exact shown.le_order
  case opened =>
    intro ready
    exact mem_own.mp (story.opened_of_ready ready)
  case unready =>
    intro reply cause mem refusal
    refine eq_false_of_ne_true fun ready => ?_
    have same := story.opened_unique (mem_own.mpr mem) (story.opened_of_ready ready)
    rw [same] at refusal
    cases refusal
  case grows => exact fun more later on => Reached.publishes_grow shown stays on

/-- **The life of a worker.**  Wherever the start, the stop and the release of the signal come, and
    whatever the operations answer: a worker opens its engine, executes operations only once it is
    ready and released to run, and closes the engine, whether it was stopped, could not be opened or
    broke off in an operation, which it ends with only after the closing.  The state that it publishes
    only grows up to the last one, and it shows that it is ready only while, or after, its engine is open
    for the start.  Opening the engine has to return for that. -/
theorem lifecycle (id : Nat) (plan : RatePlan) (shared : Shared) {told : List Act} {c : Scene}
    (reached : Reached (fresh id plan shared) told c)
    (returns : ∀ message, .own (.opened (.panicked message)) ∉ told) :
    Follows told c ∧ Publishes told c := ⟨reached.follows returns, reached.publishes returns⟩

end

/-- The second operation of a batch breaks off, before the stop. -/
def breakOff : List Deed :=
  upToBarrier ++
    [.start, .own .release, .own .checkStop, .own .permit, .own .recheckStop,
      .own (.executed .ok (.clamped 1)), .own .send,
      .own (.executed (.panicked "connection reset") (.clamped 2)), .stop, .own .closed]

/-- The engine opens but is not ready, and the signal is let go of while it is being closed. -/
def unready : List Deed := [.own .start, .own (.opened (.opened false)), .release, .own .closed]

theorem lifecycle_breakOff :
    (∃ c, (fresh 0 pairs (.fresh 4 8)).performAll breakOff = some c ∧
      c.worker.stage = .finished (.panicked "connection reset") ∧
      engineCalls (own ((fresh 0 pairs (.fresh 4 8)).journal breakOff)) = lifeCalls 2 ∧
      Follows ((fresh 0 pairs (.fresh 4 8)).journal breakOff) c ∧
      Publishes ((fresh 0 pairs (.fresh 4 8)).journal breakOff) c) ∧
    ∃ c, (fresh 0 pairs (.fresh 4 8)).performAll unready = some c ∧
      c.worker.stage = .finished (.failed .notReady) ∧
      engineCalls (own ((fresh 0 pairs (.fresh 4 8)).journal unready)) = lifeCalls 0 ∧
      Follows ((fresh 0 pairs (.fresh 4 8)).journal unready) c ∧
      Publishes ((fresh 0 pairs (.fresh 4 8)).journal unready) c := by
  -- Each engine answers once to being opened, and that answer is no message.
  have returns {told : List Act} (reply : OpenReply) (once : .opened reply ∈ own told)
      {c : Scene} (reached : Reached (fresh 0 pairs (.fresh 4 8)) told c)
      (other : ∀ message, reply ≠ .panicked message) (message : String) :
      .own (.opened (.panicked message)) ∉ told := fun mem =>
    other message (reached.life.story.opened_unique once (mem_own.mpr mem))
  constructor
  · obtain ⟨c, done, at_⟩ : ∃ c, (fresh 0 pairs (.fresh 4 8)).performAll breakOff = some c ∧
        c.worker.stage = .finished (.panicked "connection reset") := ⟨_, rfl, rfl⟩
    have reached : Reached (fresh 0 pairs (.fresh 4 8)) _ c := Trace.reached_of_run done
    obtain ⟨follows, publishes⟩ := lifecycle 0 pairs (.fresh 4 8) reached
      (returns (.opened true) (by decide) reached nofun)
    exact ⟨c, done, at_, rfl, follows, publishes⟩
  · obtain ⟨c, done, at_⟩ : ∃ c, (fresh 0 pairs (.fresh 4 8)).performAll unready = some c ∧
        c.worker.stage = .finished (.failed .notReady) := ⟨_, rfl, rfl⟩
    have reached : Reached (fresh 0 pairs (.fresh 4 8)) _ c := Trace.reached_of_run done
    obtain ⟨follows, publishes⟩ := lifecycle 0 pairs (.fresh 4 8) reached
      (returns (.opened false) (by decide) reached nofun)
    exact ⟨c, done, at_, rfl, follows, publishes⟩

end Scene

end Worker

end LoadGen
