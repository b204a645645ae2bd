import LoadGen.Proofs.Rig.Journal

namespace LoadGen

/-!
# The lives of tasks on a rig

The story of one task is what the journal tells of it.  Each worker of a rig that was empty at first
lives its life in the place of its number, whatever the others do, and so does the collector.

* `Rig.ofWorker`, `Rig.ofCollector` — the stories of single tasks in a journal;
* `Rig.Outlasts` — what holds of a worker for good;
* `Rig.Lives`, `Rig.Reached.lives` — every worker lives, and is called off only if the journal says so;
* `Rig.Manned`, `Rig.Reached.manned` — the collector lives, and is asked to stop only if the journal
  says so.
-/

namespace Rig

variable {j acts : List Act} {r r' start : Rig}

/-! ### The story of one task -/

/-- What is told of a worker. -/
def Act.ofWorker? (id : Nat) : Act → Option Worker.Act
  | .worker k act => if k = id then some act else none
  | _ => none

/-- What is told of the collector. -/
def Act.ofCollector? : Act → Option Collector.Act
  | .collector act => some act
  | _ => none

/-- The story of a worker. -/
def ofWorker (id : Nat) (j : List Act) : List Worker.Act := j.filterMap (Act.ofWorker? id)

/-- The story of the collector. -/
def ofCollector (j : List Act) : List Collector.Act := j.filterMap Act.ofCollector?

@[simp] theorem ofWorker_nil (id : Nat) : ofWorker id [] = [] := rfl

@[simp] theorem ofWorker_append (id : Nat) (j more : List Act) :
    ofWorker id (j ++ more) = ofWorker id j ++ ofWorker id more := List.filterMap_append

@[simp] theorem ofCollector_append (j more : List Act) :
    ofCollector (j ++ more) = ofCollector j ++ ofCollector more := List.filterMap_append

@[simp] theorem ofWorker_worker_self (id : Nat) (told : List Worker.Act) :
    ofWorker id (told.map (.worker id)) = told := by
  simp [ofWorker, List.filterMap_map, Function.comp_def, Act.ofWorker?]

theorem ofWorker_worker_ne {id k : Nat} (h : k ≠ id) (told : List Worker.Act) :
    ofWorker id (told.map (.worker k)) = [] := by
  simp [ofWorker, List.filterMap_map, Function.comp_def, Act.ofWorker?, h]

@[simp] theorem ofWorker_collector (id : Nat) (told : List Collector.Act) :
    ofWorker id (told.map .collector) = [] := by
  simp [ofWorker, List.filterMap_map, Function.comp_def, Act.ofWorker?]

@[simp] theorem ofCollector_worker (id : Nat) (told : List Worker.Act) :
    ofCollector (told.map (.worker id)) = [] := by
  simp [ofCollector, List.filterMap_map, Function.comp_def, Act.ofCollector?]

@[simp] theorem ofCollector_collector (told : List Collector.Act) :
    ofCollector (told.map .collector) = told := by
  simp [ofCollector, List.filterMap_map, Function.comp_def, Act.ofCollector?]

/-- The story of a worker has what the journal tells of it. -/
theorem mem_ofWorker {id : Nat} {act : Worker.Act} : act ∈ ofWorker id j ↔ .worker id act ∈ j := by
  simp only [ofWorker, List.mem_filterMap]
  constructor
  · rintro ⟨other, mem, eq⟩
    cases other with
    | worker k told =>
      simp only [Act.ofWorker?, Option.ite_none_right_eq_some, Option.some.injEq] at eq
      obtain ⟨rfl, rfl⟩ := eq
      exact mem
    | collector | offered | started | stopped | calledOff | retired => cases eq
  · intro mem
    exact ⟨_, mem, by simp [Act.ofWorker?]⟩

/-! ### What later deeds cannot change -/

/-- What holds of a worker for good: it has told that it is ready, it is over in some way, or it is
    being called off. -/
structure Outlasts (w w' : Worker) : Prop where
  ready : w.ready = true → w'.ready = true
  stage : w.isOver = true → w'.stage = w.stage
  aborting : w.aborting = true → w'.aborting = true

theorem Outlasts.refl (w : Worker) : Outlasts w w := ⟨id, fun _ => rfl, id⟩

theorem Outlasts.trans {w w' w'' : Worker} (h : Outlasts w w') (next : Outlasts w' w'') :
    Outlasts w w'' where
  ready := next.ready ∘ h.ready
  stage gone := by
    have same := h.stage gone
    have gone' : w'.isOver = true := by
      rw [Worker.isOver, same]
      exact gone
    rw [next.stage gone', same]
  aborting := next.aborting ∘ h.aborting

/-- Every worker stays in its place. -/
theorem Move.outlasts {i : Nat} {w : Worker} (move : Move r acts r') (here : r.workers[i]? = some w) :
    ∃ w', r'.workers[i]? = some w' ∧ Outlasts w w' := by
  have replaced {index : Nat} {v v' : Worker} (at_ : r.workers[index]? = some v)
      (outlasts : Outlasts v v') :
      ∃ w', (r.workers.setIfInBounds index v')[i]? = some w' ∧ Outlasts w w' := by
    rw [Array.getElem?_setIfInBounds]
    by_cases same : index = i
    · subst same
      have within : index < r.workers.size := (Array.getElem?_eq_some_iff.mp here).1
      rw [here] at at_
      cases at_
      rw [if_pos rfl, if_pos within]
      exact ⟨v', rfl, outlasts⟩
    · rw [if_neg same]
      exact ⟨w, here, .refl w⟩
  cases move with
  | nothing | passed | told | collected | offered | started | stopped | manned | retired | read =>
    exact ⟨w, here, .refl w⟩
  | worked there step =>
    have moved := Worker.move_of_step step
    refine replaced there ⟨moved.ready_of_ready, fun gone => ?_, fun off => ?_⟩
    · rw [moved.alive] at gone
      cases gone
    · rw [moved.aborting_eq]
      exact off
  | calledOff there alive => exact replaced there ⟨id, fun _ => rfl, fun _ => rfl⟩
  | spawned plan =>
    -- A new worker takes a place behind all others.
    have within : i < r.workers.size := (Array.getElem?_eq_some_iff.mp here).1
    refine ⟨w, ?_, .refl w⟩
    rw [Rig.spawn, Array.getElem?_push, if_neg (Nat.ne_of_lt within)]
    exact here

theorem Reached.outlasts {i : Nat} {w : Worker} (h : Reached start j r)
    (here : start.workers[i]? = some w) : ∃ w', r.workers[i]? = some w' ∧ Outlasts w w' := by
  induction h with
  | start => exact ⟨w, here, .refl w⟩
  | next before now ih =>
    obtain ⟨w', there, first⟩ := ih
    obtain ⟨w'', there, next⟩ := (move_of_perform now).outlasts there
    exact ⟨w'', there, first.trans next⟩

/-! ### Workers -/

/-- Every worker lives in the place of its number.  It is being called off only if the journal says so,
    and nothing is told of a worker that has no place yet. -/
structure Lives (j : List Act) (r : Rig) : Prop where
  life : ∀ i w, r.workers[i]? = some w → ∃ plan, Worker.Life i plan (ofWorker i j) w
  aborting : ∀ i w, r.workers[i]? = some w → w.aborting = true → ∃ now, .calledOff i now ∈ j
  unborn : ∀ i, r.workers.size ≤ i → ofWorker i j = []

namespace Lives

/-- A deed that leaves the workers alone and tells nothing of them. -/
theorem idle (h : Lives j r) (same : r'.workers = r.workers) (none : ∀ i, ofWorker i acts = []) :
    Lives (j ++ acts) r' where
  life i w here := by
    rw [same] at here
    rw [ofWorker_append, none, List.append_nil]
    exact h.life i w here
  aborting i w here off := by
    rw [same] at here
    obtain ⟨now, mem⟩ := h.aborting i w here off
    exact ⟨now, List.mem_append_left _ mem⟩
  unborn i above := by
    rw [same] at above
    rw [ofWorker_append, none, h.unborn i above]
    rfl

/-- A deed that changes one worker. -/
theorem change {index : Nat} {w w' : Worker} (h : Lives j r) (here : r.workers[index]? = some w)
    (there : r'.workers = r.workers.setIfInBounds index w')
    (none : ∀ i, index ≠ i → ofWorker i acts = [])
    (life : ∀ plan, Worker.Life index plan (ofWorker index j) w →
      Worker.Life index plan (ofWorker index j ++ ofWorker index acts) w')
    (off : w'.aborting = true → w.aborting = true ∨ ∃ now, .calledOff index now ∈ acts) :
    Lives (j ++ acts) r' := by
  have within : index < r.workers.size := (Array.getElem?_eq_some_iff.mp here).1
  refine ⟨fun i v at_ => ?_, fun i v at_ aborting => ?_, fun i above => ?_⟩
  · rw [there, Array.getElem?_setIfInBounds] at at_
    rw [ofWorker_append]
    by_cases same : index = i
    · subst same
      rw [if_pos rfl, if_pos within] at at_
      cases at_
      obtain ⟨plan, before⟩ := h.life index w here
      exact ⟨plan, life plan before⟩
    · rw [if_neg same] at at_
      rw [none i same, List.append_nil]
      exact h.life i v at_
  · rw [there, Array.getElem?_setIfInBounds] at at_
    by_cases same : index = i
    · subst same
      rw [if_pos rfl, if_pos within] at at_
      cases at_
      obtain before | ⟨now, mem⟩ := off aborting
      · obtain ⟨now, mem⟩ := h.aborting index w here before
        exact ⟨now, List.mem_append_left _ mem⟩
      · exact ⟨now, List.mem_append_right _ mem⟩
    · rw [if_neg same] at at_
      obtain ⟨now, mem⟩ := h.aborting i v at_ aborting
      exact ⟨now, List.mem_append_left _ mem⟩
  · rw [there, Array.size_setIfInBounds] at above
    rw [ofWorker_append, none i (by omega), h.unborn i above]
    rfl

/-- A deed that adds a worker. -/
theorem spawn (h : Lives j r) (plan : RatePlan) : Lives (j ++ []) (r.spawn plan) := by
  rw [List.append_nil]
  refine ⟨fun i w here => ?_, fun i w here off => ?_, fun i above => ?_⟩
  · simp only [Rig.spawn, Array.getElem?_push] at here
    split at here
    · rename_i newest
      subst newest
      cases here
      rw [h.unborn _ (Nat.le_refl _)]
      exact ⟨plan, .spawned⟩
    · exact h.life i w here
  · simp only [Rig.spawn, Array.getElem?_push] at here
    split at here
    · cases here
      cases off
    · exact h.aborting i w here off
  · simp only [Rig.spawn, Array.size_push] at above
    exact h.unborn i (by omega)

theorem move (h : Lives j r) (move : Move r acts r') : Lives (j ++ acts) r' := by
  cases move with
  | nothing | passed _ | told _ | started | stopped | offered _ | manned _ | retired _ _ | read _ _ =>
    exact h.idle rfl fun _ => rfl
  | collected here step => exact h.idle rfl fun i => ofWorker_collector i _
  | worked here step =>
    refine h.change here rfl (fun i other => ofWorker_worker_ne other _) (fun plan life => ?_) ?_
    · rw [ofWorker_worker_self]
      exact life.step step
    · intro off
      rw [(Worker.move_of_step step).aborting_eq] at off
      exact .inl off
  | spawned plan => exact h.spawn plan
  | calledOff here alive =>
    refine h.change here rfl (fun _ _ => rfl) (fun plan life => ?_) ?_
    · exact (List.append_nil _).symm ▸ life.calledOff
    · intro _
      exact .inr ⟨_, List.mem_singleton_self _⟩

end Lives

/-- **Every worker of a rig that was empty at first lives its life.** -/
theorem Reached.lives (empty : start.workers = #[]) (h : Reached start j r) : Lives j r := by
  induction h with
  | start => exact ⟨by simp [empty], by simp [empty], fun _ _ => rfl⟩
  | next before now ih => exact ih.move (move_of_perform now)

/-- What is told of a worker is told of one that has its place. -/
theorem Lives.exists_of_mem {id : Nat} {act : Worker.Act} (h : Lives j r) (mem : .worker id act ∈ j) :
    ∃ w, r.workers[id]? = some w := by
  have within : id < r.workers.size := by
    apply Nat.lt_of_not_le
    intro above
    have told := mem_ofWorker.mpr mem
    rw [h.unborn id above] at told
    cases told
  exact ⟨_, Array.getElem?_eq_getElem within⟩

/-! ### The collector -/

/-- The collector lives.  It is asked to stop only if the journal says so, and there is none as long as
    it can still be given the queues. -/
structure Manned (j : List Act) (r : Rig) : Prop where
  life : ∀ c, r.collector = some c → Collector.Life (ofCollector j) c
  asked : ∀ c, r.collector = some c → (c.stop || c.released) = true → .retired ∈ j
  vacant : r.collector = none → ofCollector j = []
  keeps : r.collector.isSome = true → r.receivers = false

namespace Manned

/-- A deed that leaves the collector alone and tells nothing of it. -/
theorem idle (h : Manned j r) (same : r'.collector = r.collector) (receivers : r'.receivers = r.receivers)
    (none : ofCollector acts = []) : Manned (j ++ acts) r' where
  life c here := by
    rw [same] at here
    rw [ofCollector_append, none, List.append_nil]
    exact h.life c here
  asked c here asked := by
    rw [same] at here
    exact List.mem_append_left _ (h.asked c here asked)
  vacant here := by
    rw [same] at here
    rw [ofCollector_append, none, h.vacant here]
    rfl
  keeps here := by
    rw [same] at here
    rw [receivers, h.keeps here]

theorem move (h : Manned j r) (move : Move r acts r') : Manned (j ++ acts) r' := by
  cases move with
  | nothing | passed _ | told _ | started | stopped | offered _ | spawned _ | calledOff _ _ | read _ _ =>
    exact h.idle rfl rfl rfl
  | worked here step => exact h.idle rfl rfl (ofCollector_worker _ _)
  | manned vacant =>
    -- A collector that was there would have the queues.
    have none : r.collector = none := by
      cases here : r.collector with
      | none => rfl
      | some c =>
        rw [h.keeps (by rw [here]; rfl)] at vacant
        cases vacant
    rw [List.append_nil]
    refine ⟨fun c here => ?_, fun c here asked => ?_, nofun, fun _ => rfl⟩
    · cases here
      rw [h.vacant none]
      exact .spawned
    · cases here
      cases asked
  | collected here step =>
    refine ⟨fun c there => ?_, fun c there asked => ?_, nofun, fun _ => h.keeps (by rw [here]; rfl)⟩
    · cases there
      rw [ofCollector_append, ofCollector_collector]
      exact (h.life _ here).step step
    · cases there
      rw [(Collector.move_of_step step).asked_eq] at asked
      exact List.mem_append_left _ (h.asked _ here asked)
  | retired here asked =>
    refine ⟨fun c there => ?_, fun c there _ => ?_, nofun, fun _ => h.keeps (by rw [here]; rfl)⟩
    · cases there
      rw [ofCollector_append]
      exact (List.append_nil _).symm ▸ (h.life _ here).retired _ _
    · exact List.mem_append_right _ (List.mem_singleton_self _)

end Manned

/-- **The collector of a rig that had none at first lives its life.** -/
theorem Reached.manned (none : start.collector = none) (h : Reached start j r) : Manned j r := by
  induction h with
  | start => exact ⟨by simp [none], by simp [none], fun _ => rfl, by simp [none]⟩
  | next before now ih => exact ih.move (move_of_perform now)

end Rig

end LoadGen
