import LoadGen.Proofs.Run.Timetable

namespace LoadGen

/-!
# Waiting for the workers

A controller waits for its workers one after another, and all of them share one deadline.  What becomes
of a worker depends on its own fate and on the deadline, not on the workers that it was kept waiting by.

* `Run.Fate`, `Run.isFated` — when a worker ends if it is left alone, and how;
* `Run.isAttentive` — no time passes while the controller could go on;
* `Run.Parting`, `Run.Parting.due` — what a controller does about a worker, and what it should do;
* `Controller.step_eq_none_of_joining` — a controller waits for a busy worker only, and for a while;
* `Controller.Parts`, `Controller.part_of_step` — what becomes of the worker it looks at;
* `Run.Parted`, `Run.AtJoining` — what the partings with the first workers leave behind;
* `Run.exists_retiring` — by the deadline it goes on, even if no worker ever ends;
* `Run.joining_is_bounded_and_fair` — what follows when the controller has done with all of them.
-/

/-! ### What is said of a worker at the end -/

/-- Whether a notice says what became of a worker that has not ended well. -/
def Notice.isFarewell : Notice → Bool
  | workerFailed .. | workerExited .. | workerBusy .. => true
  | _ => false

/-- What the log says of workers that have not ended well, oldest notice first. -/
def Shared.farewells (s : Shared) : List Notice := s.log.filter Notice.isFarewell

section Farewells

variable {s s' : Shared}

theorem Shared.farewells_tell (s : Shared) (notice : Notice) :
    (s.tell notice).farewells = s.farewells ++ if notice.isFarewell then [notice] else [] := by
  simp [farewells, log, tell, List.filter_cons]

theorem Shared.farewells_setQueue (s : Shared) (verdict : Verdict) (queue : Queue Duration) :
    (s.setQueue verdict queue).farewells = s.farewells := by
  cases verdict <;> rfl

/-- A notice of another kind. -/
theorem Shared.farewells_tell_of_not (s : Shared) (notice : Notice) (other : notice.isFarewell = false) :
    (s.tell notice).farewells = s.farewells := by
  rw [farewells_tell, other]
  exact List.append_nil _

/-- A worker says nothing of how it is parted with. -/
theorem Worker.Move.farewells_eq {acts : List Act} {w w' : Worker} {event : Event}
    (move : Move s w event acts s' w') : s'.farewells = s.farewells := by
  cases move with
  | start | opened | broken | announced | stopped | asked | permitted | skipped | begun | panicked
  | waited | cancelled => rfl
  | refused | released | dismissed => exact Shared.farewells_tell_of_not _ _ rfl
  | queued => exact Shared.farewells_setQueue ..
  | returned reply _ returns =>
    cases reply with
    | ok => rfl
    | failed cause => exact Shared.farewells_tell_of_not s (.operationFailed cause) rfl
    | panicked message => cases returns
  | @closed ending =>
    cases ending with
    | executed operations => exact Shared.farewells_tell_of_not _ _ rfl
    | failed | panicked => rfl
  | dropped _ why =>
    obtain ⟨-, -, rfl⟩ | ⟨-, -, rfl⟩ := why <;> exact Shared.farewells_tell_of_not _ _ rfl

/-- Nor does the collector. -/
theorem Collector.Move.farewells_eq {acts : List Act} {c c' : Collector} (move : Move s c acts s' c') :
    s'.farewells = s.farewells := by
  cases move with
  | took => exact Shared.farewells_setQueue ..
  | exited => exact Shared.farewells_tell_of_not _ _ rfl
  | looked | passed | turned | drained | rested | added | failed | woke => rfl

end Farewells

namespace Rig

/-- The tasks say nothing of how they are parted with. -/
theorem farewells_of_step {r r' : Rig} {label : Label} (h : r.step label = some r') :
    r'.shared.farewells = r.shared.farewells := by
  obtain ⟨nanos, -, rfl⟩ | ⟨index, w, event, shared, w', -, moved, -, rfl⟩ |
    ⟨c, event, shared, c', -, moved, -, rfl⟩ := step_cases h
  · rfl
  · exact (Worker.move_of_step moved).farewells_eq
  · exact (Collector.move_of_step moved).farewells_eq

/-- The worker that is called off. -/
def Act.calledOff? : Act → Option Nat
  | .calledOff id _ => some id
  | _ => none

/-- The workers that were called off, in that order. -/
def calledOff (j : List Act) : List Nat := j.filterMap Act.calledOff?

theorem calledOff_append (j more : List Act) : calledOff (j ++ more) = calledOff j ++ calledOff more :=
  List.filterMap_append

/-- The tasks call nobody off. -/
theorem calledOff_taskActs (r : Rig) (label : Label) : calledOff (r.taskActs label) = [] := by
  apply List.filterMap_eq_nil_iff.mpr
  intro act mem
  obtain ⟨id, told, rfl⟩ | ⟨told, rfl⟩ := mem_taskActs mem <;> rfl

end Rig

/-! ### Fates and partings -/

/-- Whether a worker has ended like this, or has not ended at all. -/
def Worker.meets (w : Worker) : Option Ending → Bool
  | some ending => w.stage == .finished ending
  | none => !w.isOver

namespace Run

/-- When a worker ends if it is left alone, and how. -/
structure Fate where
  instant : Nat
  ending : Ending
  deriving DecidableEq

/-- How a worker has ended by an instant.  A worker without a fate never ends. -/
def endingBy (fate : Option Fate) (now : Nat) : Option Ending :=
  (fate.filter (·.instant ≤ now)).map Fate.ending

theorem endingBy_eq_some {fate : Option Fate} {now : Nat} {ending : Ending} :
    endingBy fate now = some ending ↔ ∃ instant ≤ now, fate = some ⟨instant, ending⟩ := by
  cases fate with
  | none => simp [endingBy]
  | some f =>
    simp only [endingBy, Option.map_eq_some_iff, Option.filter_eq_some_iff, decide_eq_true_eq]
    constructor
    · rintro ⟨_, ⟨⟨⟩, early⟩, rfl⟩
      exact ⟨f.instant, early, rfl⟩
    · rintro ⟨instant, early, ⟨⟩⟩
      exact ⟨_, ⟨rfl, early⟩, rfl⟩

/-- A worker that has not ended by now has not ended before. -/
theorem endingBy_eq_none {fate : Option Fate} {early now : Nat} (le : early ≤ now)
    (none : endingBy fate now = none) : endingBy fate early = Option.none := by
  rw [Option.eq_none_iff_forall_ne_some] at none ⊢
  intro ending ended
  obtain ⟨instant, before, rfl⟩ := endingBy_eq_some.mp ended
  exact none ending (endingBy_eq_some.mpr ⟨instant, Nat.le_trans before le, rfl⟩)

/-- Whether each worker that the controller parts with has come to its fate by then. -/
def isFated (fates : Nat → Option Fate) (r : Run) (label : Label) : Bool :=
  match label, r.controller.stage with
  | .controller, .joining _ _ worker =>
    (r.rig.workers[worker]?).all fun w => w.meets (endingBy (fates worker) r.rig.shared.now)
  | _, _ => true

/-- Whether time passes only while the controller waits, and not beyond what it waits for. -/
def isAttentive (r : Run) (label : Label) : Bool :=
  label.nanos == 0 ||
    (Controller.step r.rig r.controller).isNone &&
      r.controller.wakeAt?.all fun wake => r.rig.shared.now + label.nanos ≤ wake

/-- What a controller does about a worker. -/
inductive Parting where
  /-- It adds up what the worker has executed. -/
  | counted (operations : Nat)
  /-- It tells what went wrong. -/
  | logged (notice : Notice)
  /-- It calls the worker off. -/
  | calledOff

namespace Parting

/-- What is done about a worker that has ended. -/
def ofEnding (id : Nat) : Ending → Parting
  | .executed operations => .counted operations
  | .failed cause => .logged (.workerFailed id cause)
  | .panicked message => .logged (.workerExited id (panickedReason message))

/-- What should be done about a worker: whatever it has come to by the deadline. -/
def due (id : Nat) (fate : Option Fate) (deadline : Nat) : Parting :=
  (endingBy fate deadline).elim .calledOff (ofEnding id)

theorem due_of_le {id instant deadline : Nat} {ending : Ending} (early : instant ≤ deadline) :
    due id (some ⟨instant, ending⟩) deadline = ofEnding id ending := by
  rw [due, endingBy_eq_some.mpr ⟨instant, early, rfl⟩]
  rfl

/-- The operations that are added up. -/
def operations : Parting → Nat
  | counted operations => operations
  | logged _ | calledOff => 0

/-- What is told. -/
def notices (id : Nat) (grace : Duration) : Parting → List Notice
  | counted _ => []
  | logged notice => [notice]
  | calledOff => [.workerBusy id grace]

/-- Who is called off. -/
def leavers (id : Nat) : Parting → List Nat
  | counted _ | logged _ => []
  | calledOff => [id]

/-- Whether a worker was parted with as it should be.  A worker that ends after the deadline but before
    the controller gets round to it is taken in, too. -/
def IsFair (id : Nat) (fate : Option Fate) (deadline : Nat) (p : Parting) : Prop :=
  p = due id fate deadline ∨ ∃ f, fate = some f ∧ deadline < f.instant ∧ p = ofEnding id f.ending

end Parting

end Run

/-! ### One look at a worker -/

namespace Controller

variable {r r' : Rig} {c c' : Controller} {closing : Closing} {deadline worker : Nat}

/-- **A controller waits for a worker only while it is busy and the deadline has not come.** -/
theorem step_eq_none_of_joining (at_ : c.stage = .joining closing deadline worker) :
    step r c = none ↔
      r.shared.now < deadline ∧ ∃ w, r.workers[worker]? = some w ∧ w.isOver = false := by
  simp only [step, at_]
  cases here : r.workers[worker]? with
  | none => simp
  | some w =>
    cases gone : w.isOver with
    | true => simp [gone]
    | false => simp [gone]

/-- When there is nobody left, the controller turns to the collector. -/
theorem step_of_joining_none (at_ : c.stage = .joining closing deadline worker)
    (none : r.workers[worker]? = none) :
    step r c = some (r, { c with stage := .retiring closing }) ∧ acts r c = [] := by
  simp only [step, acts, Rig.acts, at_, none, goto, and_self]

/-- When it goes on from a worker, it goes on to the next one. -/
theorem next_of_joining {w : Worker} (at_ : c.stage = .joining closing deadline worker)
    (here : r.workers[worker]? = some w) (h : step r c = some (r', c')) :
    r'.workers.size = r.workers.size ∧
      ∃ closing', c' = { c with stage := .joining closing' deadline (worker + 1) } := by
  simp only [step, at_, goto, here] at h
  split at h
  · rename_i gone
    cases h
    exact ⟨by rw [(takeEnded_eq r closing worker gone).1.workers_eq], _, rfl⟩
  · split at h <;> cases h
    exact ⟨Rig.size_abort _ _, _, rfl⟩

/-- What the controller does about a worker that has ended. -/
theorem takeEnded_of_finished (r : Rig) (closing : Closing) (id : Nat) {w : Worker} {ending : Ending}
    (gone : w.stage = .finished ending) :
    (takeEnded r closing id w).2 =
        { closing with executed := closing.executed + (Run.Parting.ofEnding id ending).operations } ∧
      ∀ grace, (takeEnded r closing id w).1.shared.farewells =
        r.shared.farewells ++ (Run.Parting.ofEnding id ending).notices id grace := by
  unfold takeEnded
  rw [gone]
  cases ending with
  | executed operations => exact ⟨rfl, fun _ => (List.append_nil _).symm⟩
  | failed | panicked => exact ⟨rfl, fun _ => Shared.farewells_tell ..⟩

/-- What a step at a worker leaves behind, if the controller parts with the worker like this. -/
structure Parts (p : Run.Parting) (r : Rig) (c : Controller) (closing : Closing) (deadline worker : Nat)
    (r' : Rig) (c' : Controller) : Prop where
  controller_eq : c' = { c with
    stage := .joining { closing with executed := closing.executed + p.operations } deadline (worker + 1) }
  size_eq : r'.workers.size = r.workers.size
  farewells_eq : r'.shared.farewells = r.shared.farewells ++ p.notices worker (grace c.plan)
  calledOff_eq : Rig.calledOff (acts r c) = p.leavers worker

/-- A worker that has ended is taken in. -/
theorem parts_of_finished {w : Worker} {ending : Ending}
    (at_ : c.stage = .joining closing deadline worker) (here : r.workers[worker]? = some w)
    (gone : w.stage = .finished ending) (h : step r c = some (r', c')) :
    Parts (.ofEnding worker ending) r c closing deadline worker r' c' := by
  have ended : w.isOver = true := by rw [Worker.isOver, gone]
  obtain ⟨taken, told⟩ := takeEnded_of_finished r closing worker gone
  obtain ⟨size, -⟩ := next_of_joining at_ here h
  simp only [step, at_, goto, here, if_pos ended, Option.some.injEq] at h
  cases h
  refine ⟨by rw [taken], size, told _, ?_⟩
  simp only [acts, at_, Rig.acts_abort_of_isOver here ended]
  cases ending <;> rfl

/-- A worker that is busy is called off, and not before the deadline. -/
theorem parts_of_busy {w : Worker} (at_ : c.stage = .joining closing deadline worker)
    (here : r.workers[worker]? = some w) (busy : w.isOver = false) (h : step r c = some (r', c')) :
    deadline ≤ r.shared.now ∧ Parts .calledOff r c closing deadline worker r' c' := by
  have late : deadline ≤ r.shared.now := by
    apply Nat.le_of_not_lt
    intro early
    rw [(step_eq_none_of_joining at_).mpr ⟨early, w, here, busy⟩] at h
    cases h
  obtain ⟨size, -⟩ := next_of_joining at_ here h
  simp only [step, at_, goto, here, busy, Bool.false_eq_true, if_false, if_pos late,
    Option.some.injEq] at h
  cases h
  refine ⟨late, rfl, size, ?_, ?_⟩
  · rw [Rig.shared_abort]
    exact Shared.farewells_tell ..
  · simp only [acts, at_, Rig.acts_abort here busy]
    rfl

/-- **A worker is parted with as it should be.**  Only if the controller is late it may find that the worker
    has ended after the deadline. -/
theorem part_of_step {fate : Option Run.Fate} {w : Worker}
    (at_ : c.stage = .joining closing deadline worker) (here : r.workers[worker]? = some w)
    (fated : w.meets (Run.endingBy fate r.shared.now) = true) (h : step r c = some (r', c')) :
    ∃ p : Run.Parting, p.IsFair worker fate deadline ∧
      (r.shared.now ≤ deadline → p = .due worker fate deadline) ∧
      Parts p r c closing deadline worker r' c' := by
  cases ended : Run.endingBy fate r.shared.now with
  | some ending =>
    rw [ended] at fated
    have gone : w.stage = .finished ending := eq_of_beq fated
    refine ⟨.ofEnding worker ending, ?_, fun soon => ?_, parts_of_finished at_ here gone h⟩
    · obtain ⟨instant, past, rfl⟩ := Run.endingBy_eq_some.mp ended
      -- A late look can find a worker that ended after the deadline.
      by_cases early : instant ≤ deadline
      · exact .inl (Run.Parting.due_of_le early).symm
      · exact .inr ⟨_, rfl, Nat.lt_of_not_le early, rfl⟩
    · obtain ⟨instant, past, rfl⟩ := Run.endingBy_eq_some.mp ended
      exact (Run.Parting.due_of_le (Nat.le_trans past soon)).symm
  | none =>
    rw [ended] at fated
    have busy : w.isOver = false := by simpa [Worker.meets] using fated
    obtain ⟨late, parts⟩ := parts_of_busy at_ here busy h
    -- It had not ended at the deadline either.
    have due : Run.Parting.due worker fate deadline = .calledOff := by
      rw [Run.Parting.due, Run.endingBy_eq_none late ended]
      rfl
    exact ⟨.calledOff, .inl due.symm, fun _ => due.symm, parts⟩

/-- Whether the controller waits for the workers. -/
def Stage.isJoining : Stage → Bool
  | .joining .. => true
  | _ => false

/-- Whether the controller has done with the workers, and has turned to the collector. -/
def Stage.isAfterParting : Stage → Bool
  | .awaiting _ | .tallying .. | .auditing .. | .summarizing .. | .finished _ => true
  | _ => false

theorem Stage.isAfterParting_of_step (on : c.stage.isAfterParting = true)
    (h : step r c = some (r', c')) : c'.stage.isAfterParting = true := by
  have move := move_of_step h
  generalize acts r c = told at move
  cases move with
  | refused | overflowed | retired | gathered | failed | tallied | agreed | audited | unread | reported => rfl
  | surveyed at_ => obtain at_ | at_ := at_ <;> rw [at_] at on <;> cases on
  | ran at_ =>
    cases stage : c.stage with
    | awaiting | tallying | auditing | summarizing | finished =>
      rw [stage] at at_
      cases at_
    | _ =>
      rw [stage] at on
      cases on
  | spawned at_ | manned at_ | polled at_ | asked at_ | doubted at_ | trusted at_ | blamed at_
  | counted at_ | complete at_ | incomplete at_ | calledOff at_ | collected at_ | started at_
  | stopped at_ | stamped at_ | paused at_ | joined at_ | gaveUp at_ | parted at_ =>
    rw [at_] at on
    cases on

end Controller

/-! ### Partings one after another -/

namespace Run

/-- What the partings with the first workers leave behind, and that everybody was parted with as it
    should be. -/
structure Parted (fates : Nat → Option Fate) (deadline : Nat) (attentive : Prop) (start : Run)
    (closing : Closing) (partings : List Parting) (j : List Rig.Act) (r : Rig) (closing' : Closing) :
    Prop where
  size_eq : r.workers.size = start.rig.workers.size
  closing_eq : closing' =
    { closing with executed := closing.executed + (partings.map Parting.operations).sum }
  farewells_eq : r.shared.farewells = start.rig.shared.farewells ++
    (partings.mapIdx fun id p => p.notices id (Controller.grace start.controller.plan)).flatten
  calledOff_eq : Rig.calledOff j = (partings.mapIdx fun id p => p.leavers id).flatten
  fair : ∀ (id : Nat) (p : Parting), partings[id]? = some p → p.IsFair id (fates id) deadline
  punctual : attentive →
    ∀ (id : Nat) (p : Parting), partings[id]? = some p → p = .due id (fates id) deadline

section

variable {fates : Nat → Option Fate} {deadline : Nat} {attentive : Prop} {start : Run}
  {closing closing' : Closing} {partings : List Parting} {j : List Rig.Act} {r r' : Rig}

/-- The tasks leave it. -/
theorem Parted.task {label : Rig.Label}
    (h : Parted fates deadline attentive start closing partings j r closing')
    (moved : r.step label = some r') :
    Parted fates deadline attentive start closing partings (j ++ r.taskActs label) r' closing' where
  size_eq := (Rig.size_of_step moved).trans h.size_eq
  closing_eq := h.closing_eq
  farewells_eq := (Rig.farewells_of_step moved).trans h.farewells_eq
  calledOff_eq := by
    rw [Rig.calledOff_append, Rig.calledOff_taskActs, List.append_nil]
    exact h.calledOff_eq
  fair := h.fair
  punctual := h.punctual

/-- What holds of all partings holds of one more. -/
theorem forall_concat {p : Parting} {kind : Nat → Parting → Prop}
    (all : ∀ id q, partings[id]? = some q → kind id q) (last : kind partings.length p) :
    ∀ id q, (partings ++ [p])[id]? = some q → kind id q := by
  intro id q there
  rcases Nat.lt_trichotomy id partings.length with before | rfl | past
  · rw [List.getElem?_append_left before] at there
    exact all id q there
  · rw [List.getElem?_concat_length] at there
    cases there
    exact last
  · rw [List.getElem?_eq_none (by simp; omega)] at there
    cases there

/-- One more parting. -/
theorem Parted.part {p : Parting} {c c' : Controller}
    (h : Parted fates deadline attentive start closing partings j r closing')
    (plan : c.plan = start.controller.plan)
    (parts : Controller.Parts p r c closing' deadline partings.length r' c')
    (fair : p.IsFair partings.length (fates partings.length) deadline)
    (due : attentive → p = .due partings.length (fates partings.length) deadline) :
    Parted fates deadline attentive start closing (partings ++ [p]) (j ++ c.acts r) r'
      { closing' with executed := closing'.executed + p.operations } where
  size_eq := parts.size_eq.trans h.size_eq
  closing_eq := by
    rw [h.closing_eq]
    simp [Nat.add_assoc]
  farewells_eq := by
    rw [parts.farewells_eq, h.farewells_eq, plan, List.mapIdx_concat, List.flatten_concat,
      List.append_assoc]
  calledOff_eq := by
    rw [Rig.calledOff_append, h.calledOff_eq, parts.calledOff_eq, List.mapIdx_concat,
      List.flatten_concat]
  fair := forall_concat h.fair fair
  punctual attentively := forall_concat (h.punctual attentively) (due attentively)

end

/-- What holds while a controller waits for the workers, and when it has done with them. -/
def AtJoining (fates : Nat → Option Fate) (deadline : Nat) (attentive : Prop) (start : Run)
    (closing : Closing) (j : List Rig.Act) (r : Run) : Prop :=
  match r.controller.stage with
  | .joining closing' deadline' worker =>
    deadline' = deadline ∧ worker ≤ r.rig.workers.size ∧ (attentive → r.rig.shared.now ≤ deadline) ∧
      ∃ partings, partings.length = worker ∧
        Parted fates deadline attentive start closing partings j r.rig closing'
  | .retiring closing' =>
    (attentive → r.rig.shared.now ≤ deadline) ∧
      ∃ partings, partings.length = r.rig.workers.size ∧
        Parted fates deadline attentive start closing partings j r.rig closing'
  | stage => stage.isAfterParting = true

/-- Whether a step is one of the waiting for the workers. -/
def isJoin (r : Run) : Label → Bool
  | .controller => r.controller.stage.isJoining
  | .rig _ => false

/-- How many steps are steps of the waiting for the workers. -/
def joins (r : Run) (labels : List Label) : Nat :=
  (Trace.told step (fun r label => if r.isJoin label then [()] else []) r labels).length

theorem joins_cons {r next : Run} {label : Label} {labels : List Label}
    (now : r.step label = some next) :
    r.joins (label :: labels) = (if r.isJoin label then 1 else 0) + next.joins labels := by
  rw [joins, Trace.told_cons now, List.length_append]
  split <;> rfl

/-- The steps of the waiting that are left, one for each worker and one to find that there are no more. -/
def joinsLeft (r : Run) : Nat :=
  match r.controller.stage with
  | .joining _ _ worker => r.rig.workers.size + 1 - worker
  | _ => 0

section

variable {fates : Nat → Option Fate} {deadline : Nat} {attentive : Prop} {start : Run}
  {closing : Closing} {j : List Rig.Act} {r r' : Run}

/-- An attentive controller lets no time pass beyond the deadline. -/
theorem le_of_isAttentive {label : Label} {wake : Nat} (soon : r.rig.shared.now ≤ wake)
    (heeds : r.isAttentive label = true)
    (waits : Controller.step r.rig r.controller = none → r.controller.wakeAt? = some wake) :
    r.rig.shared.now + label.nanos ≤ wake := by
  rcases Bool.or_eq_true_iff.mp heeds with still | rests
  · rw [eq_of_beq still]
    exact soon
  · obtain ⟨none, awake⟩ := Bool.and_eq_true_iff.mp rests
    rw [waits (Option.isNone_iff_eq_none.mp none)] at awake
    exact of_decide_eq_true awake

/-- The tasks keep what holds. -/
theorem AtJoining.task {label : Rig.Label} {rig : Rig}
    (h : AtJoining fates deadline attentive start closing j r) (moved : r.rig.step label = some rig)
    (heeds : attentive → r.isAttentive (.rig label) = true) :
    AtJoining fates deadline attentive start closing (j ++ r.rig.taskActs label)
      ⟨rig, r.controller⟩ := by
  have later := Rig.now_of_step moved
  have size := Rig.size_of_step moved
  unfold AtJoining at h ⊢
  cases at_ : r.controller.stage with
  | joining closing' deadline' worker =>
    rw [at_] at h
    obtain ⟨rfl, within, soon, partings, length, parted⟩ := h
    refine ⟨rfl, size ▸ within, fun attentively => ?_, partings, length, parted.task moved⟩
    rw [later]
    exact le_of_isAttentive (soon attentively) (heeds attentively) fun _ => by
      rw [Controller.wakeAt?, at_]
  | retiring closing' =>
    rw [at_] at h
    obtain ⟨soon, partings, length, parted⟩ := h
    refine ⟨fun attentively => ?_, partings, length.trans size.symm, parted.task moved⟩
    rw [later]
    refine le_of_isAttentive (soon attentively) (heeds attentively) fun none => ?_
    -- It can go on at once.
    simp [Controller.step, at_] at none
  | _ =>
    rw [at_] at h
    exact h

/-- Later on nothing is left to do. -/
theorem AtJoining.of_isAfterParting (after : r.controller.stage.isAfterParting = true) :
    AtJoining fates deadline attentive start closing j r ∧ r.joinsLeft = 0 := by
  unfold AtJoining joinsLeft
  cases at_ : r.controller.stage with
  | awaiting | tallying | auditing | summarizing | finished => exact ⟨rfl, rfl⟩
  | _ =>
    rw [at_] at after
    cases after

/-- A look at a worker keeps what holds, and there is one less to go. -/
theorem AtJoining.look {rig : Rig} {c : Controller} {closing' : Closing} {deadline' worker : Nat}
    (h : AtJoining fates deadline attentive start closing j r)
    (plan : r.controller.plan = start.controller.plan) (fated : r.isFated fates .controller = true)
    (at_ : r.controller.stage = .joining closing' deadline' worker)
    (moved : Controller.step r.rig r.controller = some (rig, c)) :
    AtJoining fates deadline attentive start closing (j ++ r.controller.acts r.rig) ⟨rig, c⟩ ∧
      1 + joinsLeft ⟨rig, c⟩ ≤ r.joinsLeft := by
  rw [AtJoining, at_] at h
  obtain ⟨rfl, within, soon, partings, length, parted⟩ := h
  cases here : r.rig.workers[worker]? with
  | none =>
    obtain ⟨next, told⟩ := Controller.step_of_joining_none at_ here
    rw [next] at moved
    cases moved
    rw [told, List.append_nil]
    have all : r.rig.workers.size ≤ worker := Array.getElem?_eq_none_iff.mp here
    refine ⟨⟨soon, partings, length.trans (Nat.le_antisymm within all), parted⟩, ?_⟩
    simp only [joinsLeft, at_]
    omega
  | some w =>
    have less := (Array.getElem?_eq_some_iff.mp here).1
    have now := Controller.now_of_step moved
    simp only [isFated, at_, here, Option.all_some] at fated
    obtain ⟨p, fair, due, parts⟩ := Controller.part_of_step at_ here fated moved
    subst length
    have next := parted.part plan parts fair fun attentively => due (soon attentively)
    have size := parts.size_eq
    rw [parts.controller_eq]
    refine ⟨⟨rfl, size ▸ less, now ▸ soon, partings ++ [p], ?_, next⟩, ?_⟩
    · rw [List.length_append, List.length_singleton]
    · simp only [joinsLeft, at_, size]
      omega

/-- A step of the controller keeps what holds. -/
theorem AtJoining.move {rig : Rig} {c : Controller}
    (h : AtJoining fates deadline attentive start closing j r)
    (plan : r.controller.plan = start.controller.plan) (fated : r.isFated fates .controller = true)
    (moved : Controller.step r.rig r.controller = some (rig, c)) :
    AtJoining fates deadline attentive start closing (j ++ r.controller.acts r.rig) ⟨rig, c⟩ ∧
      (if r.isJoin .controller then 1 else 0) + joinsLeft ⟨rig, c⟩ ≤ r.joinsLeft := by
  cases joining : r.controller.stage.isJoining with
  | true =>
    rw [isJoin, if_pos joining]
    cases at_ : r.controller.stage with
    | joining => exact h.look plan fated at_ moved
    | _ =>
      rw [at_] at joining
      cases joining
  | false =>
    rw [isJoin, joining, if_neg (by decide), Nat.zero_add]
    -- It turns to the collector, or has done so before.
    have after : c.stage.isAfterParting = true := by
      cases at_ : r.controller.stage with
      | joining =>
        rw [at_] at joining
        cases joining
      | retiring =>
        simp only [Controller.step, at_, Controller.goto, Option.some.injEq] at moved
        cases moved
        rfl
      | _ =>
        rw [AtJoining, at_] at h
        refine Controller.Stage.isAfterParting_of_step ?_ moved
        rw [at_]
        exact h
    obtain ⟨kept, none⟩ := of_isAfterParting (r := ⟨rig, c⟩) after
    rw [none]
    exact ⟨kept, Nat.zero_le _⟩

/-- **What holds while a controller waits is kept along the way**, and each worker is looked at once. -/
theorem AtJoining.steps {labels : List Label}
    (h : AtJoining fates deadline attentive start closing j r)
    (plan : r.controller.plan = start.controller.plan) (done : r.steps labels = some r')
    (fated : r.keeps (isFated fates) labels = true)
    (heeds : attentive → r.keeps isAttentive labels = true) :
    AtJoining fates deadline attentive start closing (j ++ r.journal labels) r' ∧
      r.joins labels + r'.joinsLeft ≤ r.joinsLeft := by
  -- The journal so far is carried along, since the partings in it are counted from the start.
  induction labels generalizing r j with
  | nil =>
    cases done
    refine ⟨?_, Nat.le_of_eq (Nat.zero_add _)⟩
    rw [journal, Trace.told, List.append_nil]
    exact h
  | cons label labels ih =>
    obtain ⟨next, now, rest⟩ := Option.bind_eq_some_iff.mp done
    obtain ⟨met, fated⟩ := Bool.and_eq_true_iff.mp (keeps_cons now ▸ fated)
    have both (attentively : attentive) := Bool.and_eq_true_iff.mp (keeps_cons now ▸ heeds attentively)
    rw [journal, Trace.told_cons now, joins_cons now, ← List.append_assoc]
    have kept : AtJoining fates deadline attentive start closing (j ++ r.acts label) next ∧
        next.controller.plan = start.controller.plan ∧
        (if r.isJoin label then 1 else 0) + next.joinsLeft ≤ r.joinsLeft := by
      cases label with
      | rig label =>
        obtain ⟨rig, moved, rfl⟩ := Option.map_eq_some_iff.mp now
        refine ⟨h.task moved fun attentively => (both attentively).1, plan, ?_⟩
        rw [isJoin, if_neg (by decide), Nat.zero_add, joinsLeft, Rig.size_of_step moved]
        exact Nat.le_refl _
      | controller =>
        obtain ⟨⟨rig, c⟩, moved, rfl⟩ := Option.map_eq_some_iff.mp now
        obtain ⟨kept, less⟩ := h.move plan met moved
        exact ⟨kept, (Controller.move_of_step moved).plan_eq.trans plan, less⟩
    obtain ⟨kept, plan, less⟩ := kept
    obtain ⟨kept, less'⟩ := ih kept plan rest fated fun attentively => (both attentively).2
    refine ⟨kept, ?_⟩
    omega

/-- When the deadline has come, the controller is held up by nobody, even if the workers do nothing. -/
theorem exists_retiring_of_late {closing : Closing} {deadline worker : Nat}
    (at_ : r.controller.stage = .joining closing deadline worker) (late : deadline ≤ r.rig.shared.now)
    (within : worker ≤ r.rig.workers.size) :
    ∃ r' closing', r.steps (List.replicate (r.rig.workers.size + 1 - worker) .controller) = some r' ∧
      r'.controller.stage = .retiring closing' ∧ r'.rig.shared.now = r.rig.shared.now := by
  -- By induction on the workers that are left: a controller that is late parts with each of them at once.
  induction left : r.rig.workers.size - worker generalizing r closing worker with
  | zero =>
    have all : r.rig.workers.size = worker := by omega
    have none : r.rig.workers[worker]? = none := Array.getElem?_eq_none (Nat.le_of_eq all)
    obtain ⟨next, -⟩ := Controller.step_of_joining_none at_ none
    refine ⟨⟨r.rig, { r.controller with stage := .retiring closing }⟩, closing, ?_, rfl, rfl⟩
    have one : r.rig.workers.size + 1 - worker = 1 := by omega
    simp [one, steps, step, next]
  | succ left ih =>
    have here : r.rig.workers[worker]? = some r.rig.workers[worker] :=
      Array.getElem?_eq_getElem (by omega)
    cases moved : Controller.step r.rig r.controller with
    | none =>
      obtain ⟨early, -⟩ := (Controller.step_eq_none_of_joining at_).mp moved
      omega
    | some next =>
      obtain ⟨rig, c⟩ := next
      obtain ⟨size, closing', rfl⟩ := Controller.next_of_joining at_ here moved
      have now := Controller.now_of_step moved
      obtain ⟨r', last, done, retiring, same⟩ :=
        ih (r := ⟨rig, { r.controller with stage := .joining closing' deadline (worker + 1) }⟩) rfl
          (now ▸ late) (by rw [size]; omega) (by rw [size]; omega)
      refine ⟨r', last, ?_, retiring, same.trans now⟩
      have one : r.rig.workers.size + 1 - worker = rig.workers.size + 1 - (worker + 1) + 1 := by omega
      have first : r.step .controller =
          some ⟨rig, { r.controller with stage := .joining closing' deadline (worker + 1) }⟩ := by
        simp [step, moved]
      rw [one, List.replicate_succ, steps, first]
      exact done

/-- **A controller goes on to the collector by the deadline**, however many workers are left. -/
theorem exists_retiring {closing : Closing} {deadline worker : Nat}
    (at_ : r.controller.stage = .joining closing deadline worker)
    (within : worker ≤ r.rig.workers.size) :
    ∃ r' closing',
      r.steps (.rig (.pass (deadline - r.rig.shared.now)) ::
        List.replicate (r.rig.workers.size + 1 - worker) .controller) = some r' ∧
      r'.controller.stage = .retiring closing' ∧
      r'.rig.shared.now = max r.rig.shared.now deadline := by
  let waited : Run := { r with rig := { r.rig with
    shared := { r.rig.shared with now := r.rig.shared.now + (deadline - r.rig.shared.now) } } }
  have now : waited.rig.shared.now = max r.rig.shared.now deadline := by
    show r.rig.shared.now + (deadline - r.rig.shared.now) = _
    omega
  obtain ⟨r', closing', done, retiring, same⟩ :=
    exists_retiring_of_late (r := waited) at_ (by omega) within
  exact ⟨r', closing', done, retiring, same.trans now⟩

/-- A controller that begins to wait. -/
theorem AtJoining.of_began {period : Nat}
    (began : start.controller.stage = .joining closing (start.rig.shared.now + period) 0) :
    AtJoining fates (start.rig.shared.now + period) attentive start closing [] start := by
  rw [AtJoining, began]
  refine ⟨rfl, Nat.zero_le _, fun _ => Nat.le_add_right _ _, [], rfl, rfl, rfl, ?_, rfl, nofun, nofun⟩
  exact (List.append_nil _).symm

end

/-- **Waiting for the workers is bounded, and fair to those that have ended.**  Each worker is looked at once,
    and the controller waits only while the deadline has not come, however many workers there are and
    whatever they do.  It parts with each of them in one of three ways, according to what the worker has
    come to by the deadline: it counts the operations of a worker that has ended well, tells what went wrong
    with one that has not, and calls off one that has not ended.  No other worker makes a difference. -/
theorem joining_is_bounded_and_fair (fates : Nat → Option Fate) {start r : Run} {labels : List Label}
    {closing : Closing} {period : Nat}
    (began : start.controller.stage = .joining closing (start.rig.shared.now + period) 0)
    (done : start.steps labels = some r) (fated : start.keeps (isFated fates) labels = true) :
    let deadline := start.rig.shared.now + period
    let size := start.rig.workers.size
    start.joins labels ≤ size + 1 ∧
    (∀ closing' deadline' worker, r.controller.stage = .joining closing' deadline' worker →
      (Controller.step r.rig r.controller = none ↔
        r.rig.shared.now < deadline ∧ ∃ w, r.rig.workers[worker]? = some w ∧ w.isOver = false) ∧
      (start.keeps isAttentive labels = true → r.rig.shared.now ≤ deadline) ∧
      ∃ r' closing'',
        r.steps (.rig (.pass (deadline - r.rig.shared.now)) ::
          List.replicate (size + 1 - worker) .controller) = some r' ∧
        r'.controller.stage = .retiring closing'' ∧
        r'.rig.shared.now = max r.rig.shared.now deadline) ∧
    ∀ closing', r.controller.stage = .retiring closing' →
      (start.keeps isAttentive labels = true → r.rig.shared.now ≤ deadline) ∧
      ∃ partings : List Parting, partings.length = size ∧
        closing' = { closing with
          executed := closing.executed + (partings.map Parting.operations).sum } ∧
        r.rig.shared.farewells = start.rig.shared.farewells ++
          (partings.mapIdx fun id p =>
            p.notices id (Controller.grace start.controller.plan)).flatten ∧
        Rig.calledOff (start.journal labels) = (partings.mapIdx fun id p => p.leavers id).flatten ∧
        (∀ (id : Nat) (p : Parting), partings[id]? = some p → p.IsFair id (fates id) deadline) ∧
        (start.keeps isAttentive labels = true →
          partings = (List.range size).map fun id => .due id (fates id) deadline) := by
  intro deadline size
  obtain ⟨kept, less⟩ := AtJoining.steps (.of_began began) rfl done fated id
  rw [List.nil_append] at kept
  refine ⟨?_, fun closing' deadline' worker at_ => ?_, fun closing' at_ => ?_⟩
  · have all : start.joinsLeft = size + 1 := by rw [joinsLeft, began]; rfl
    omega
  · rw [AtJoining, at_] at kept
    obtain ⟨rfl, within, soon, partings, -, parted⟩ := kept
    have reached := exists_retiring at_ within
    rw [parted.size_eq] at reached
    exact ⟨Controller.step_eq_none_of_joining at_, soon, reached⟩
  · rw [AtJoining, at_] at kept
    obtain ⟨soon, partings, length, parted⟩ := kept
    have length : partings.length = size := length.trans parted.size_eq
    refine ⟨soon, partings, length, parted.closing_eq, parted.farewells_eq, parted.calledOff_eq, parted.fair,
      fun attentively => List.ext_getElem (by simp [length]) fun id here there => ?_⟩
    rw [List.getElem_map, List.getElem_range]
    exact parted.punctual attentively id _ (List.getElem?_eq_getElem here)

/-- Five workers: one that hangs, one that is about to end well, two that have not ended well, and one
    that ends too late. -/
def crowd : Run :=
  let plan : RatePlan :=
    { threadRate := 10, connectionRate := 10, tokensPerSec := 1, batchSize := 10
      tokensPerSec_pos := Nat.one_pos }
  let worker (id : Nat) (stage : Worker.Stage) : Worker := { Worker.ofPlan id plan with stage }
  { rig :=
      { shared := .fresh 1 1
        workers := #[worker 0 (.executing 3), worker 1 (.closing (.executed 7)),
          worker 2 (.finished (.failed .notReady)), worker 3 (.finished (.panicked "boom")),
          worker 4 (.closing (.executed 2))] }
    controller :=
      { config :=
          { engine := "scripted", host := "localhost:0", threads := 5, rate := 50
            duration := .clamped 500000000 }
        plan, building := [], description := ""
        stage := .joining { elapsed := .clamped 500000000 } 3 0 } }

def crowdFates : Nat → Option Fate
  | 1 => some ⟨1, .executed 7⟩
  | 2 => some ⟨0, .failed .notReady⟩
  | 3 => some ⟨0, .panicked "boom"⟩
  | 4 => some ⟨5, .executed 2⟩
  | _ => none

/-- The hanging worker takes up the whole time. -/
def crowdLabels : List Label :=
  [.rig (.pass 1), .rig (.worker 1 .closed), .rig (.pass 2), .controller, .controller, .controller,
    .controller, .controller, .controller]

theorem joining_is_bounded_and_fair_crowd :
    crowd.joins crowdLabels = 6 ∧ crowd.keeps isAttentive crowdLabels = true ∧
    ∃ r closing', crowd.steps crowdLabels = some r ∧ r.controller.stage = .retiring closing' ∧
      r.rig.shared.now ≤ 3 ∧ closing'.executed = 7 ∧
      Rig.calledOff (crowd.journal crowdLabels) = [0, 4] := by
  have began : crowd.controller.stage =
      .joining { elapsed := .clamped 500000000 } (crowd.rig.shared.now + 3) 0 := by rfl
  have able : (crowd.steps crowdLabels).isSome = true := by rfl
  have attentive : crowd.keeps isAttentive crowdLabels = true := by decide
  have done := (Option.some_get able).symm
  obtain ⟨-, -, parted⟩ := joining_is_bounded_and_fair crowdFates began done (by decide)
  obtain ⟨soon, partings, -, closing_eq, -, calledOff_eq, -, all⟩ := parted _ rfl
  have all := all attentive
  refine ⟨by rfl, attentive, _, _, done, rfl, soon attentive, ?_, ?_⟩
  · rw [closing_eq, all]
    rfl
  · rw [calledOff_eq, all]
    rfl

end Run

end LoadGen
