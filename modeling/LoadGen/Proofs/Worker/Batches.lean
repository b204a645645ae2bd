import LoadGen.Proofs.Worker.Scene
import Mathlib.Algebra.GroupWithZero.Nat

namespace LoadGen

/-!
# Batches

The operations of a worker fall into batches of one size.  Between batches all of them are whole; within
one, the newest lacks what the stage says is left of it.

* `Worker.Scene.calls`, `Worker.Scene.answers`, `Worker.Scene.batches` — what a journal tells of operations;
* `Worker.Scene.Paced` — how operations fall into batches, stage by stage;
* `Worker.Scene.Reached.paced` — those of every worker do;
* `Worker.Scene.Reached.whole` — what a worker has done that ended by itself.
-/

namespace Worker

/-- Whether operations of a batch are under way at a stage. -/
def Stage.inBatch : Stage → Bool
  | .executing _ | .sending _ => true
  | _ => false

/-- Whether the engine is being closed or has been closed after a call that broke off. -/
def Stage.isBroken : Stage → Bool
  | .closing (.panicked _) | .finished (.panicked _) => true
  | _ => false

/-- Whether an act is the call of an operation. -/
def Act.isCall : Act → Bool
  | .called .execute => true
  | _ => false

/-- Whether an act is the end of an operation. -/
def Act.isAnswer : Act → Bool
  | .executed .. => true
  | _ => false

theorem isBroken_finished (ending : Ending) :
    (Stage.finished ending).isBroken = (Stage.closing ending).isBroken := by
  cases ending <;> rfl

theorem Move.batchSize_eq {acts : List Act} {s s' : Shared} {w w' : Worker} {event : Event}
    (move : Move s w event acts s' w') : w'.batchSize = w.batchSize := by
  cases move <;> rfl

theorem calls_nextCalls (left : Nat) :
    (nextCalls left).countP Act.isCall = if left ≤ 1 then 0 else 1 := by
  unfold nextCalls
  split <;> rfl

namespace Scene

/-! ### What a journal tells of operations -/

/-- The number of operations that were called. -/
def calls (told : List Act) : Nat := (own told).countP Worker.Act.isCall

/-- The number of operations that have ended. -/
def answers (told : List Act) : Nat := (own told).countP Worker.Act.isAnswer

/-- Takes down one act: the start of a batch, or the end of one more operation of it. -/
def note (sizes : List Nat) : Act → List Nat
  | .begun => 0 :: sizes
  | .own (.executed ..) => sizes.modifyHead (· + 1)
  | _ => sizes

/-- How many operations of each batch have ended, newest batch first. -/
def batches (told : List Act) : List Nat := told.foldl note []

theorem calls_append (told more : List Act) : calls (told ++ more) = calls told + calls more := by
  unfold calls
  rw [own_append, List.countP_append]

theorem answers_append (told more : List Act) :
    answers (told ++ more) = answers told + answers more := by
  unfold answers
  rw [own_append, List.countP_append]

theorem batches_append (told more : List Act) :
    batches (told ++ more) = more.foldl note (batches told) := List.foldl_append

/-- What a worker sees and starts in a step is neither a call of its engine nor an answer. -/
theorem calls_step (s : Shared) (event : Event) (acts : List Worker.Act) :
    calls (sights s event ++ acts.map .own) = acts.countP Worker.Act.isCall := by
  unfold calls
  rw [own_acts]

theorem answers_step (s : Shared) (event : Event) (acts : List Worker.Act) :
    answers (sights s event ++ acts.map .own) = acts.countP Worker.Act.isAnswer := by
  unfold answers
  rw [own_acts]

theorem calls_eq_zero {told : List Act} : calls told = 0 ↔ .own (.called .execute) ∉ told := by
  unfold calls
  rw [List.countP_eq_zero, ← mem_own]
  constructor
  · intro none mem
    exact none _ mem rfl
  · intro none act mem
    unfold Worker.Act.isCall
    split
    · exact absurd mem none
    · exact Bool.false_ne_true

theorem foldl_nextCalls (sizes : List Nat) (left : Nat) :
    ((nextCalls left).map .own).foldl note sizes = sizes := by
  unfold nextCalls
  split <;> rfl

/-! ### Operations fall into batches -/

/-- What a worker at a stage has executed, how many operations of each batch have ended, and how many
    were called.  Between batches all are whole; within one, the newest lacks what is left of it. -/
inductive Paced (size : Nat) : Stage → Nat → List Nat → Nat → Prop where
  | idle {stage : Stage} {sizes : List Nat} (at_ : stage.inBatch = false)
      (whole : ∀ ran ∈ sizes, ran = size) : Paced size stage sizes.sum sizes sizes.sum
  | executing {left ran : Nat} {older : List Nat} (some : 0 < left) (fits : ran + left = size)
      (whole : ∀ ran ∈ older, ran = size) :
      Paced size (.executing left) (ran + older.sum) (ran :: older) (ran + older.sum + 1)
  | sending {pending : Pending} {ran : Nat} {older : List Nat} (some : 0 < pending.left)
      (fits : ran + pending.left = size) (whole : ∀ ran ∈ older, ran = size) :
      Paced size (.sending pending) (ran + older.sum) ((ran + 1) :: older) (ran + older.sum + 1)
  | broken {stage : Stage} {executed count : Nat} {sizes : List Nat} (at_ : stage.isBroken = true) :
      Paced size stage executed sizes count

namespace Paced

variable {size executed count : Nat} {stage stage' : Stage} {sizes : List Nat} {s s' : Shared}
  {w w' : Worker} {event : Event} {acts : List Worker.Act}

/-- Between batches all are whole, and all operations that were called are executed. -/
theorem rest (h : Paced size stage executed sizes count) (idle : stage.inBatch = false)
    (sound : stage.isBroken = false) :
    (∀ ran ∈ sizes, ran = size) ∧ executed = sizes.sum ∧ count = sizes.sum := by
  cases h with
  | idle at_ whole => exact ⟨whole, rfl, rfl⟩
  | executing | sending => cases idle
  | broken at_ =>
    rw [sound] at at_
    cases at_

/-- A worker goes on between batches. -/
theorem stroll (h : Paced size stage executed sizes count) (idle : stage.inBatch = false)
    (sound : stage.isBroken = false) (idle' : stage'.inBatch = false) :
    Paced size stage' executed sizes count := by
  obtain ⟨whole, rfl, rfl⟩ := h.rest idle sound
  exact .idle idle' whole

/-- A batch of no operations is whole at once. -/
theorem skip (h : Paced size .permitted executed sizes count) (empty : size = 0) :
    Paced size .between executed (0 :: sizes) count := by
  obtain ⟨whole, rfl, rfl⟩ := h.rest rfl rfl
  have sum : sizes.sum = (0 :: sizes).sum := by rw [List.sum_cons, Nat.zero_add]
  rw [sum]
  refine .idle rfl fun ran mem => ?_
  rcases List.mem_cons.mp mem with rfl | old
  · exact empty.symm
  · exact whole ran old

/-- A batch is started. -/
theorem begin (h : Paced size .permitted executed sizes count) (some : 0 < size) :
    Paced size (.executing size) executed (0 :: sizes) (count + 1) := by
  obtain ⟨whole, rfl, rfl⟩ := h.rest rfl rfl
  have none : sizes.sum = 0 + sizes.sum := (Nat.zero_add _).symm
  rw [none]
  exact .executing some (Nat.zero_add _) whole

/-- An operation has ended. -/
theorem answer {left : Nat} {pending : Pending} (h : Paced size (.executing left) executed sizes count)
    (same : pending.left = left) :
    Paced size (.sending pending) executed (sizes.modifyHead (· + 1)) count := by
  subst same
  cases h with
  | idle at_ => cases at_
  | executing some fits whole => exact .sending some fits whole
  | broken at_ => cases at_

/-- A sample waits for its queue. -/
theorem wait {pending pending' : Pending} (h : Paced size (.sending pending) executed sizes count)
    (same : pending'.left = pending.left) : Paced size (.sending pending') executed sizes count := by
  cases h with
  | idle at_ => cases at_
  | sending some fits whole => exact .sending (same ▸ some) (same ▸ fits) whole
  | broken at_ => cases at_

/-- The sample of an operation is settled.  Either the batch is whole, or its next operation is
    called. -/
theorem settle {pending : Pending} (h : Paced w.batchSize (.sending pending) w.executed sizes count) :
    Paced w.batchSize (w.proceed pending.left).stage (w.executed + 1)
      (((nextCalls pending.left).map Act.own).foldl note sizes)
      (count + (nextCalls pending.left).countP Worker.Act.isCall) := by
  rw [foldl_nextCalls, calls_nextCalls]
  generalize w.executed = executed, w.batchSize = size at h ⊢
  unfold proceed
  cases h with
  | idle at_ => cases at_
  | broken at_ => cases at_
  | @sending _ ran older some fits whole =>
    by_cases last : pending.left ≤ 1
    · rw [if_pos last, if_pos last]
      have full : ran + 1 = size := by omega
      have sum : ran + older.sum + 1 = ((ran + 1) :: older).sum := by
        rw [List.sum_cons]
        omega
      rw [Nat.add_zero, sum]
      refine .idle rfl fun other mem => ?_
      rcases List.mem_cons.mp mem with rfl | old
      · exact full
      · exact whole other old
    · rw [if_neg last, if_neg last]
      have fits' : ran + 1 + (pending.left - 1) = size := by omega
      have sum : ran + older.sum + 1 = ran + 1 + older.sum := by omega
      rw [sum]
      exact .executing (by omega) fits' whole

/-- A step of a worker that nobody calls off. -/
theorem move (h : Paced w.batchSize w.stage w.executed sizes count) (stays : w.aborting = false)
    (move : Worker.Move s w event acts s' w') :
    Paced w'.batchSize w'.stage w'.executed
      ((sights s event ++ acts.map Act.own).foldl note sizes)
      (count + acts.countP Worker.Act.isCall) := by
  cases move with
  | start at_ | opened at_ | refused at_ _ | announced at_ | released at_ _ | dismissed at_ _ _
  | asked at_ _ | permitted at_ _ =>
    rw [at_] at h
    show Paced w.batchSize _ w.executed sizes count
    exact h.stroll rfl rfl rfl
  | broken at_ => exact .broken rfl
  | stopped at_ seen =>
    rw [sights_of_stopped at_ seen]
    show Paced w.batchSize _ w.executed sizes count
    rcases at_ with ⟨-, at_⟩ | ⟨-, at_⟩
    · rw [at_] at h
      exact h.stroll rfl rfl rfl
    · rw [at_] at h
      exact h.stroll rfl rfl rfl
  | skipped at_ unseen empty =>
    rw [at_] at h
    unfold sights
    rw [unseen]
    exact h.skip empty
  | begun at_ unseen some =>
    rw [at_] at h
    unfold sights
    rw [unseen]
    exact h.begin (Nat.pos_of_ne_zero some)
  | returned reply at_ returns =>
    rw [at_] at h
    show Paced w.batchSize _ w.executed (sizes.modifyHead (· + 1)) count
    exact h.answer rfl
  | panicked at_ => exact .broken rfl
  | queued at_ taken =>
    rw [at_] at h
    exact h.settle
  | dropped at_ why =>
    rw [at_] at h
    rw [sights_of_dropped s why]
    exact h.settle
  | waited at_ full =>
    rw [at_] at h
    exact h.wait rfl
  | @closed ending at_ =>
    rw [at_] at h
    by_cases broken : (Stage.closing ending).isBroken = true
    · exact .broken ((isBroken_finished ending).trans broken)
    · exact h.stroll rfl (eq_false_of_ne_true broken) rfl
  | cancelled alive off =>
    rw [stays] at off
    cases off

end Paced

section

variable {id : Nat} {plan : RatePlan} {shared : Shared} {start c : Scene} {told : List Act}

theorem Reached.batchSize_eq (h : Reached start told c) :
    c.worker.batchSize = start.worker.batchSize := by
  refine h.induct (motive := fun _ c => c.worker.batchSize = start.worker.batchSize) rfl ?_
  intro told acts c c' same move
  cases move with
  | own step move told => exact move.batchSize_eq.trans same
  | others _ | started _ | stopped _ => exact same

/-- The operations of a worker fall into batches, whatever happens to its signal. -/
theorem Reached.paced (h : Reached (fresh id plan shared) told c) :
    Paced c.worker.batchSize c.worker.stage c.worker.executed (batches told) (calls told) := by
  refine (h.induct (motive := fun told c => c.worker.aborting = false ∧
    Paced c.worker.batchSize c.worker.stage c.worker.executed (batches told) (calls told)) ?_ ?_).2
  · have none : Paced plan.batchSize .spawned [].sum [] [].sum := .idle rfl nofun
    exact ⟨rfl, none⟩
  · intro told acts c c' ⟨stays, paced⟩ move
    rw [batches_append, calls_append]
    cases move with
    | own step move told =>
      rw [calls_step]
      exact ⟨move.aborting_eq.trans stays, paced.move stays move⟩
    | others _ | started _ | stopped _ => exact ⟨stays, paced⟩

/-- A worker that has ended by itself after `n` operations has called so many, in whole batches. -/
theorem Reached.whole {n : Nat} (h : Reached (fresh id plan shared) told c)
    (at_ : c.worker.stage = .finished (.executed n)) :
    n = calls told ∧ n = plan.batchSize * (batches told).length ∧
      ∀ ran ∈ batches told, ran = plan.batchSize := by
  have size : c.worker.batchSize = plan.batchSize := h.batchSize_eq
  have executed : n = c.worker.executed := by
    apply h.life.settles.operations_eq
    rw [at_]
    rfl
  have paced := h.paced
  rw [at_, size] at paced
  obtain ⟨whole, sum, count⟩ := paced.rest rfl rfl
  have product : (batches told).sum = plan.batchSize * (batches told).length := by
    rw [List.eq_replicate_of_mem whole, List.sum_replicate_nat, List.length_replicate, Nat.mul_comm]
  refine ⟨?_, ?_, whole⟩
  · rw [executed, sum, count]
  · rw [executed, sum, product]

end

end Scene

end Worker

end LoadGen
