import LoadGen.Proofs.Rig.Totals
import LoadGen.Proofs.Run.Barrier

namespace LoadGen

/-!
# The accounts of a run

In a run that ends with a report, and in which nobody was called off, every operation that returned is in
the report once: as a success, as an error, or as a sample that was dropped.

* `Run.executed` — the operations of the workers that ended regularly;
* `Run.Open` — the time before the collector is asked to stop;
* `Run.Reported` — the figures of a report are those of the journal;
* `Run.AtAccounts` — what holds at a stage of the controller, and `Run.Reached.accounts` that it does;
* `Run.accounts_balance` — what follows for the report.
-/

namespace Run

variable {j acts : List Rig.Act} {r r' : Rig} {building : List Notice} {label : Rig.Label}

/-! ### Operations of the workers that ended regularly -/

/-- The operations that the worker with a number ended with. -/
def executedAt (r : Rig) (id : Nat) : Nat := (r.workers[id]?).elim 0 Controller.operationsOf

/-- The operations that the first workers ended with. -/
def executedBelow (r : Rig) (bound : Nat) : Nat := ∑ id ∈ Finset.range bound, executedAt r id

/-- The operations that all workers ended with. -/
def executed (r : Rig) : Nat := executedBelow r r.workers.size

theorem executed_congr (same : r'.workers = r.workers) : executed r' = executed r := by
  unfold executed executedBelow executedAt
  rw [same]

/-- All workers below a number are over. -/
def OverBelow (r : Rig) (bound : Nat) : Prop :=
  ∀ i < bound, ∃ w, r.workers[i]? = some w ∧ w.isOver = true

/-- A worker that is over stays so, with the operations that it ended with. -/
theorem OverBelow.reached {bound : Nat} (h : OverBelow r bound) (reached : Rig.Reached r acts r') :
    OverBelow r' bound ∧ executedBelow r' bound = executedBelow r bound := by
  refine ⟨fun i lt => ?_, Finset.sum_congr rfl fun i mem => ?_⟩
  · obtain ⟨w, here, gone⟩ := h i lt
    obtain ⟨w', there, outlasts⟩ := reached.outlasts here
    refine ⟨w', there, ?_⟩
    rw [Worker.isOver, outlasts.stage gone]
    exact gone
  · obtain ⟨w, here, gone⟩ := h i (Finset.mem_range.mp mem)
    obtain ⟨w', there, outlasts⟩ := reached.outlasts here
    unfold executedAt
    rw [here, there]
    show w'.stage.operations?.getD 0 = w.stage.operations?.getD 0
    rw [outlasts.stage gone]

/-! ### What is told of the sums -/

/-- Whatever is told of sums that do not agree is told when an engine is built. -/
def Undisputed (building : List Notice) (r : Rig) : Prop :=
  ∀ notice ∈ r.shared.audits, notice ∈ building

theorem Undisputed.congr (h : Undisputed building r) (same : r'.shared.audits = r.shared.audits) :
    Undisputed building r' := by
  unfold Undisputed
  rw [same]
  exact h

theorem mem_audits_foldl_tell {notices : List Notice} {notice : Notice}
    (mem : notice ∈ (notices.foldl Rig.tell r).shared.audits) :
    notice ∈ r.shared.audits ∨ (notice ∈ notices ∧ notice.isAudit = true) := by
  induction notices generalizing r with
  | nil => exact .inl mem
  | cons first notices ih =>
    obtain before | ⟨mem, audit⟩ := ih mem
    · have told : notice ∈ (first :: r.shared.notices).filter Notice.isAudit := before
      obtain ⟨mem, audit⟩ := List.mem_filter.mp told
      obtain rfl | mem := List.mem_cons.mp mem
      · exact .inr ⟨List.mem_cons_self, audit⟩
      · exact .inl (List.mem_filter.mpr ⟨mem, audit⟩)
    · exact .inr ⟨List.mem_cons_of_mem _ mem, audit⟩

/-- What is told before a worker is spawned is told of its engine. -/
theorem Undisputed.announced {c : Controller} (h : Undisputed c.building r) :
    Undisputed c.building (((c.announced r).foldl Rig.tell r).spawn c.plan) := by
  intro notice mem
  obtain before | ⟨mem, audit⟩ := mem_audits_foldl_tell mem
  · exact h notice before
  · obtain own | described := List.mem_append.mp mem
    · exact own
    · split at described
      · rw [List.mem_singleton.mp described] at audit
        cases audit
      · cases described

/-! ### What holds at a stage -/

/-- The collector was not asked to stop, and nothing was told of sums that do not agree. -/
structure Open (building : List Notice) (j : List Rig.Act) (r : Rig) : Prop where
  unasked : .retired ∉ j
  undisputed : Undisputed building r

/-- The counts of successes and of errors are those of the samples that the queues have taken. -/
def CountsOf (j : List Rig.Act) (counts : Nat × Nat) : Prop :=
  counts.1 = (latenciesOf .success (Rig.queued j)).length ∧
    counts.2 = (latenciesOf .error (Rig.queued j)).length

/-- The figures of a report are those of the journal, and if they agree with what the workers executed
    nothing was told against it. -/
structure Reported (building : List Notice) (j : List Rig.Act) (r : Rig) (counts : Nat × Nat)
    (dropped : Nat) : Prop where
  counts_eq : CountsOf j counts
  dropped_eq : dropped = (Rig.lost j).length
  gathered : Rig.Gathered j r (Rig.queued j).length
  undisputed : executed r = (Rig.queued j).length + dropped → Undisputed building r

/-- What holds at a stage of a run in which nobody is called off. -/
def AtAccounts (building : List Notice) (j : List Rig.Act) (r : Rig) : Controller.Stage → Prop
  | .pausing closing => Open building j r ∧ closing.executed = 0
  | .joining closing _ worker =>
    Open building j r ∧ worker ≤ r.workers.size ∧ OverBelow r worker ∧
      closing.executed = executedBelow r worker
  | .retiring closing => Open building j r ∧ Rig.AllOver r ∧ closing.executed = executed r
  | .awaiting closing => Undisputed building r ∧ Rig.Joined j r ∧ closing.executed = executed r
  | .tallying closing samples =>
    Undisputed building r ∧ Rig.Gathered j r samples ∧ closing.executed = executed r
  | .auditing closing samples counts =>
    (Undisputed building r ∧ Rig.Gathered j r samples ∧ closing.executed = executed r) ∧
      CountsOf j counts
  | .summarizing _ counts dropped => Reported building j r counts dropped
  | .finished (.ok report) => Reported building j r (report.success, report.error) report.dropped
  | .finished (.error _) | .callingOff .. => True
  | _ => Open building j r

/-! ### The tasks keep what holds -/

theorem Open.step (h : Open building j r) (moved : r.step label = some r') :
    Open building (j ++ r.taskActs label) r' where
  unasked := not_mem_append h.unasked (Rig.not_mem_taskActs rfl)
  undisputed := h.undisputed.congr (Rig.audits_of_step moved)

theorem CountsOf.append {counts : Nat × Nat} (h : CountsOf j counts) (none : Rig.queued acts = []) :
    CountsOf (j ++ acts) counts := by
  unfold CountsOf
  rw [Rig.queued_append, none, List.append_nil]
  exact h

theorem Reported.step {counts : Nat × Nat} {dropped : Nat} (h : Reported building j r counts dropped)
    (moved : r.step label = some r') : Reported building (j ++ r.taskActs label) r' counts dropped := by
  obtain ⟨same, queued, lost⟩ := h.gathered.gone.step moved
  have gathered := h.gathered.step moved
  refine ⟨h.counts_eq.append queued, ?_, ?_, ?_⟩
  · rw [Rig.lost_append, lost, List.append_nil]
    exact h.dropped_eq
  · rw [Rig.queued_append, queued, List.append_nil]
    exact gathered
  · intro agree
    rw [executed_congr same, Rig.queued_append, queued, List.append_nil] at agree
    exact (h.undisputed agree).congr (Rig.audits_of_step moved)

theorem AtAccounts.task {stage : Controller.Stage} (h : AtAccounts building j r stage)
    (moved : r.step label = some r') : AtAccounts building (j ++ r.taskActs label) r' stage := by
  have audits := Rig.audits_of_step moved
  cases stage with
  | pausing closing => exact ⟨h.1.step moved, h.2⟩
  | joining closing deadline worker =>
    obtain ⟨open_, within, gone, sum⟩ := h
    have reached : Rig.Reached r (r.taskActs label) r' :=
      Rig.reached_of_perform (.task label) moved
    obtain ⟨gone', same⟩ := gone.reached reached
    exact ⟨open_.step moved, Rig.size_of_step moved ▸ within, gone', sum.trans same.symm⟩
  | retiring closing =>
    obtain ⟨open_, gone, sum⟩ := h
    obtain ⟨same, -, -⟩ := gone.step moved
    refine ⟨open_.step moved, fun i w here => gone i w (same ▸ here), ?_⟩
    rw [executed_congr same]
    exact sum
  | awaiting closing =>
    obtain ⟨fair, joined, sum⟩ := h
    obtain ⟨same, -, -⟩ := joined.gone.step moved
    exact ⟨fair.congr audits, joined.step moved, sum.trans (executed_congr same).symm⟩
  | tallying closing samples =>
    obtain ⟨fair, gathered, sum⟩ := h
    obtain ⟨same, -, -⟩ := gathered.gone.step moved
    exact ⟨fair.congr audits, gathered.step moved, sum.trans (executed_congr same).symm⟩
  | auditing closing samples counts =>
    obtain ⟨⟨fair, gathered, sum⟩, counts⟩ := h
    obtain ⟨same, queued, -⟩ := gathered.gone.step moved
    exact ⟨⟨fair.congr audits, gathered.step moved, sum.trans (executed_congr same).symm⟩,
      counts.append queued⟩
  | summarizing closing counts dropped => exact Reported.step h moved
  | finished result =>
    cases result with
    | ok report => exact Reported.step h moved
    | error failure => trivial
  | callingOff error worker => trivial
  | spawning | polling | asking | examining | counting | ready | starting | launching | planning
  | resting | reporting | checking | stopping | stamping => exact Open.step h moved

/-! ### The controller keeps what holds -/

theorem Open.move (h : Open building j r) (unasked : .retired ∉ acts)
    (same : r'.shared.audits = r.shared.audits) : Open building (j ++ acts) r' :=
  ⟨not_mem_append h.unasked unasked, h.undisputed.congr same⟩

theorem AtAccounts.of_isRunning {stage : Controller.Stage} (running : stage.isRunning = true) :
    AtAccounts building j r stage ↔ Open building j r := by
  cases stage with
  | launching | planning | resting | reporting | checking | stopping => exact Iff.rfl
  | _ => cases running

theorem audits_collect (r : Rig) : r.collect.shared.audits = r.shared.audits := by
  unfold Rig.collect
  split <;> rfl

/-- What the queues have taken when the collector is asked to stop is all they will ever take. -/
theorem joined_of_retire (unasked : .retired ∉ j) (gone : Rig.AllOver r) :
    Rig.Joined (j ++ r.acts .retire) r.stopCollector := by
  refine ⟨gone, ?_⟩
  have told : r.acts .retire = if r.collector.isSome then [.retired] else [] := rfl
  rw [told]
  by_cases manned : r.collector.isSome = true
  · rw [if_pos manned, Rig.upTo_append_cons unasked, Rig.queued_append]
    exact (List.append_nil _).symm
  · rw [if_neg manned, List.append_nil, Rig.upTo_eq_self unasked]

theorem gathered_congr {samples : Nat} (h : Rig.Gathered j r samples)
    (workers : r'.workers = r.workers) (collector : r'.collector = r.collector) :
    Rig.Gathered j r' samples := by
  refine ⟨⟨?_, h.queued_eq⟩, ?_⟩
  · unfold Rig.AllOver
    rw [workers]
    exact h.gone
  · rw [collector]
    exact h.ended

/-- The figures that are read at the end are those of the journal. -/
theorem reported_of_gathered {start : Rig} {samples : Nat} {counts : Nat × Nat}
    (blank : Rig.Blank start) (reached : Rig.Reached start j r)
    (gathered : Rig.Gathered j r samples) (counts_eq : CountsOf j counts)
    (fair : Undisputed building r) :
    Reported building j r counts r.shared.aggregator.dropped := by
  have total := (gathered.counted_eq blank reached).1
  subst total
  have lost := reached.books.dropped_eq
  rw [blank.dropped, Nat.zero_add] at lost
  exact ⟨counts_eq, lost, gathered, fun _ => fair⟩

/-- The controller keeps what holds at a stage, as long as it calls nobody off. -/
theorem AtAccounts.move {start : Rig} {c c' : Controller} (blank : Rig.Blank start)
    (reached : Rig.Reached start j r) (h : AtAccounts c.building j r c.stage)
    (kept : ∀ i now, .calledOff i now ∉ acts) (move : Controller.Move r c acts r' c') :
    AtAccounts c.building (j ++ acts) r' c'.stage := by
  cases move with
  | spawned at_ room =>
    rw [at_] at h ⊢
    exact ⟨not_mem_append h.unasked List.not_mem_nil, h.undisputed.announced⟩
  | manned at_ _ | polled at_ | asked at_ _ _ | doubted at_ _ _ | trusted at_ _ _ | counted at_ _
  | incomplete at_ | complete at_ _ _ | started at_ =>
    rw [at_] at h
    exact Open.move h (by simp) rfl
  | surveyed at_ none =>
    have before : Open c.building j r := by
      obtain at_ | at_ := at_ <;> rw [at_] at h <;> exact h
    exact before.move (by simp) rfl
  | blamed | calledOff | refused | overflowed | failed | unread => trivial
  | collected at_ =>
    rw [at_] at h
    exact Open.move h (by simp) (audits_collect r)
  | ran at_ quiet on late =>
    exact (of_isRunning on).mpr (((of_isRunning at_).mp h).move (by simp) quiet.audits_eq)
  | stopped at_ =>
    rw [at_] at h
    exact Open.move h (by simp) rfl
  | stamped at_ quiet none late =>
    rw [at_] at h
    exact ⟨Open.move h (by simp) quiet.audits_eq, none⟩
  | paused at_ =>
    rw [at_] at h
    obtain ⟨open_, none⟩ := h
    refine ⟨open_.move (by simp) rfl, Nat.zero_le _, fun i lt => absurd lt (Nat.not_lt_zero i), ?_⟩
    exact none
  | @joined closing deadline worker w _ at_ here gone quiet =>
    rw [at_] at h
    obtain ⟨open_, within, past, sum⟩ := h
    obtain ⟨past', same⟩ := past.reached quiet.reached
    have there : r'.workers[worker]? = some w := quiet.workers_eq ▸ here
    refine ⟨open_.move (by simp) quiet.audits_eq, ?_, fun i lt => ?_, ?_⟩
    · exact (Array.getElem?_eq_some_iff.mp there).1
    · obtain before | eq := Nat.lt_succ_iff_lt_or_eq.mp lt
      · exact past' i before
      · exact eq ▸ ⟨w, there, gone⟩
    · -- The worker is taken in with its operations, which are the last summand.
      show closing.executed + Controller.operationsOf w = executedBelow r' (worker + 1)
      have own : executedAt r' worker = Controller.operationsOf w := by
        unfold executedAt
        rw [there]
        rfl
      rw [executedBelow, Finset.sum_range_succ, own, sum, ← same]
      rfl
  | gaveUp => exact absurd (List.mem_singleton_self _) (kept _ _)
  | @parted closing deadline worker at_ none =>
    rw [at_] at h
    obtain ⟨open_, within, past, sum⟩ := h
    -- It has passed all workers.
    have all : worker = r.workers.size := Nat.le_antisymm within (Array.getElem?_eq_none_iff.mp none)
    subst all
    refine ⟨open_.move (by simp) rfl, fun i w here => ?_, sum⟩
    obtain ⟨w', there, gone⟩ := past i (Array.getElem?_eq_some_iff.mp here).1
    rw [here] at there
    cases there
    exact gone
  | retired at_ =>
    rw [at_] at h
    obtain ⟨open_, gone, sum⟩ := h
    exact ⟨open_.undisputed, joined_of_retire open_.unasked gone, sum⟩
  | gathered at_ fine ended =>
    rw [at_] at h
    obtain ⟨fair, joined, sum⟩ := h
    rw [List.append_nil]
    exact ⟨fair, ⟨joined, ended⟩, sum⟩
  | tallied at_ quiet =>
    rw [at_] at h
    obtain ⟨fair, gathered, sum⟩ := h
    have counted := (gathered.counted_eq blank reached).2
    have gathered' := gathered_congr gathered quiet.workers_eq quiet.collector_eq
    rw [List.append_nil]
    refine ⟨⟨fair.congr quiet.audits_eq, gathered', ?_⟩, counted .success, counted .error⟩
    exact sum.trans (executed_congr quiet.workers_eq).symm
  | agreed at_ equal =>
    rw [at_] at h
    obtain ⟨⟨fair, gathered, sum⟩, counts⟩ := h
    rw [List.append_nil]
    exact reported_of_gathered blank reached gathered counts fair
  | @audited closing samples counts at_ unequal =>
    rw [at_] at h
    obtain ⟨⟨fair, gathered, sum⟩, counts⟩ := h
    have total := (gathered.counted_eq blank reached).1
    obtain ⟨counts, lost, gathered, -⟩ := reported_of_gathered blank reached gathered counts fair
    -- Something is told against the figures only because they do not agree.
    rw [List.append_nil]
    refine ⟨counts, lost, gathered_congr gathered rfl rfl, fun agree => ?_⟩
    rw [← total] at agree
    exact absurd (sum.trans agree) unequal
  | reported at_ quiet success error lost =>
    rw [at_] at h
    obtain ⟨counts, lost_eq, gathered, fair⟩ : Reported _ _ _ _ _ := h
    have gathered' := gathered_congr gathered quiet.workers_eq quiet.collector_eq
    rw [List.append_nil]
    show Reported _ _ _ (_, _) _
    rw [success, error, lost]
    refine ⟨counts, lost_eq, gathered', fun agree => ?_⟩
    rw [executed_congr quiet.workers_eq] at agree
    exact (fair agree).congr quiet.audits_eq

end Run

/-- A controller gives the start and the stop, calls workers off and asks the collector to stop; it tells
    nothing else. -/
theorem Controller.Move.silent {r r' : Rig} {c c' : Controller} {acts : List Rig.Act} {act : Rig.Act}
    (move : Move r c acts r' c') (mem : act ∈ acts) : act.queued? = none ∧ act.lost? = none := by
  cases move with
  | blamed | stopped | started | gaveUp =>
    cases List.mem_singleton.mp mem
    exact ⟨rfl, rfl⟩
  | calledOff =>
    cases Rig.mem_abort mem
    exact ⟨rfl, rfl⟩
  | retired =>
    cases Rig.mem_retire mem
    exact ⟨rfl, rfl⟩
  | _ => cases mem

namespace Run

variable {j : List Rig.Act} {start r : Run}

/-- **At every stage the accounts are in order, as long as nobody is called off.** -/
theorem Reached.accounts (blank : Rig.Blank start.rig) (at_ : start.controller.stage = .spawning)
    (h : Reached start j r) (kept : ∀ i now, .calledOff i now ∉ j) :
    AtAccounts start.controller.building j r.rig r.controller.stage := by
  induction h with
  | start =>
    rw [at_]
    refine ⟨List.not_mem_nil, fun notice mem => ?_⟩
    rw [blank.audits] at mem
    cases mem
  | next before now ih =>
    have stage := ih fun i now mem => kept i now (List.mem_append_left _ mem)
    obtain ⟨task, told, moved, same⟩ | move := step_cases now
    · rw [told, same]
      exact stage.task moved
    · have own := (Reached.settings_eq before).2.2
      rw [← own] at stage ⊢
      refine stage.move blank (Reached.rig before) (fun i now mem => ?_) move
      exact kept i now (List.mem_append_right _ mem)

/-- In a run nobody but the workers queues samples or drops them. -/
theorem Reached.told_by (new : IsNew start) (h : Reached start j r) {act : Rig.Act} (mem : act ∈ j) :
    (∃ id < r.rig.workers.size, ∃ told, act = .worker id told) ∨
      (act.queued? = none ∧ act.lost? = none) := by
  have source : (∃ id told, act = .worker id told) ∨ (act.queued? = none ∧ act.lost? = none) := by
    induction h with
    | start => cases mem
    | next before now ih =>
      obtain old | fresh := List.mem_append.mp mem
      · exact ih old
      · obtain ⟨task, told, -, -⟩ | move := step_cases now
        · rw [told] at fresh
          obtain story | ⟨told, rfl⟩ := Rig.mem_taskActs fresh
          · exact .inl story
          · exact .inr ⟨rfl, rfl⟩
        · exact .inr (move.silent fresh)
  obtain ⟨id, told, rfl⟩ | silent := source
  · obtain ⟨w, here⟩ := (Reached.lives new h).exists_of_mem mem
    exact .inl ⟨id, (Array.getElem?_eq_some_iff.mp here).1, told, rfl⟩
  · exact .inr silent

/-- The samples of a verdict that queues have taken are those of the workers. -/
theorem Reached.length_queued (new : IsNew start) (h : Reached start j r) (v : Verdict) :
    (latenciesOf v (Rig.queued j)).length =
      ∑ id ∈ Finset.range r.rig.workers.size,
        (latenciesOf v (Worker.queued (Rig.ofWorker id j))).length := by
  have all (v : Verdict) : (latenciesOf v (Rig.queued j)).length =
      (j.filterMap fun act => act.queued?.filter (·.verdict = v)).length := by
    rw [latenciesOf, List.length_map, Rig.queued, List.filter_filterMap]
  have own (told : List Worker.Act) : (latenciesOf v (Worker.queued told)).length =
      (told.filterMap fun act => act.queued?.filter (·.verdict = v)).length := by
    rw [latenciesOf, List.length_map, Worker.queued, List.filter_filterMap]
  rw [all, Finset.sum_congr rfl fun id _ => own (Rig.ofWorker id j)]
  refine Rig.length_filterMap_eq_sum (fun _ _ => rfl) fun act mem => ?_
  refine (Reached.told_by new h mem).imp id fun silent => ?_
  rw [silent.1]
  rfl

/-- The samples that were dropped are those of the workers. -/
theorem Reached.length_lost (new : IsNew start) (h : Reached start j r) :
    (Rig.lost j).length =
      ∑ id ∈ Finset.range r.rig.workers.size, (Worker.lost (Rig.ofWorker id j)).length :=
  Rig.length_filterMap_eq_sum (fun _ _ => rfl) fun _ mem =>
    (Reached.told_by new h mem).imp id fun silent => silent.2

/-- When every worker is over and nobody was called off, every operation that returned was settled. -/
theorem Reached.returned_eq (new : IsNew start) (h : Reached start j r) (gone : Rig.AllOver r.rig)
    (kept : ∀ i now, .calledOff i now ∉ j) (id : Nat) :
    Worker.returned (Rig.ofWorker id j) = Worker.settled (Rig.ofWorker id j) := by
  have lives := Reached.lives new h
  by_cases within : id < r.rig.workers.size
  · have here := Array.getElem?_eq_getElem within
    obtain ⟨plan, life⟩ := lives.life id _ here
    have past := gone id _ here
    have settles := life.settles.returned_eq
    cases stage : (r.rig.workers[id]).stage with
    | finished ending =>
      -- Nothing is on its way any more.
      rw [stage] at settles
      exact (settles nofun).trans (List.append_nil _)
    | cancelled =>
      obtain ⟨now, mem⟩ := lives.aborting id _ here (life.aborting_of_cancelled stage)
      exact absurd mem (kept id now)
    | _ => simp [Worker.isOver, stage] at past
  · rw [lives.unborn id (Nat.le_of_not_lt within)]
    rfl

/-- What the workers executed that all ended regularly is what was queued and what was dropped. -/
theorem Reached.executed_eq (new : IsNew start) (h : Reached start j r)
    (regular : ∀ i < r.rig.workers.size, ∃ w operations,
      r.rig.workers[i]? = some w ∧ w.stage = .finished (.executed operations)) :
    executed r.rig = (Rig.queued j).length + (Rig.lost j).length := by
  have own (id : Nat) (lt : id < r.rig.workers.size) : executedAt r.rig id =
      (latenciesOf .success (Worker.queued (Rig.ofWorker id j))).length +
        (latenciesOf .error (Worker.queued (Rig.ofWorker id j))).length +
        (Worker.lost (Rig.ofWorker id j)).length := by
    obtain ⟨w, operations, here, stage⟩ := regular id lt
    obtain ⟨plan, life⟩ := (Reached.lives new h).life id w here
    -- The worker counts what it settles, and that is what it ended with.
    have settles := life.settles
    have ended : operations = w.executed :=
      settles.operations_eq operations (by rw [stage]; rfl)
    rw [length_latenciesOf, ← Worker.length_settled, ← settles.executed_eq, ← ended]
    unfold executedAt
    rw [here]
    show w.stage.operations?.getD 0 = operations
    rw [stage]
    rfl
  rw [← length_latenciesOf (Rig.queued j), Reached.length_queued new h, Reached.length_queued new h,
    Reached.length_lost new h, ← Finset.sum_add_distrib, ← Finset.sum_add_distrib]
  exact Finset.sum_congr rfl fun id mem => own id (Finset.mem_range.mp mem)

/-! ### The report -/

theorem blank_fresh (queueCapacity reservoirCapacity : Nat) (config : RunConfig) (plan : RatePlan)
    (building : List Notice) (description : String) :
    Rig.Blank (fresh queueCapacity reservoirCapacity config plan building description).rig :=
  ⟨rfl, fun v => by cases v <;> rfl, fun v => by cases v <;> rfl, rfl, rfl⟩

/-- **No sample is lost or counted twice.**  In a run that ends with a report, and in which nobody was
    called off, every operation that returned was settled in its order: a queue has taken its sample, or
    the sample was dropped.  The report has as many successes, errors and dropped samples as there are of
    these over all workers, and together they are the operations that returned.  If all workers ended
    regularly, they executed what was collected and what was dropped, and nothing was told against it. -/
theorem accounts_balance (queueCapacity reservoirCapacity : Nat) (config : RunConfig) (plan : RatePlan)
    (building : List Notice) (description : String) (labels : List Label) {r : Run} {report : RunReport}
    (done : (fresh queueCapacity reservoirCapacity config plan building description).steps labels =
      some r)
    (came : r.controller.result? = some (.ok report)) :
    let j := (fresh queueCapacity reservoirCapacity config plan building description).journal labels
    let workers := Finset.range config.threads.toNat
    (∀ i now, .calledOff i now ∉ j) →
      (∀ i, Worker.returned (Rig.ofWorker i j) = Worker.settled (Rig.ofWorker i j)) ∧
      report.success = ∑ i ∈ workers, (latenciesOf .success (Worker.queued (Rig.ofWorker i j))).length ∧
      report.error = ∑ i ∈ workers, (latenciesOf .error (Worker.queued (Rig.ofWorker i j))).length ∧
      report.dropped = ∑ i ∈ workers, (Worker.lost (Rig.ofWorker i j)).length ∧
      report.success + report.error + report.dropped =
        ∑ i ∈ workers, (Worker.returned (Rig.ofWorker i j)).length ∧
      ((∀ i ∈ workers, ∃ w operations,
          r.rig.workers[i]? = some w ∧ w.stage = .finished (.executed operations)) →
        (∃ collected, r.rig.collector.bind Collector.ending? = some (.collected collected) ∧
          executed r.rig = collected + report.dropped) ∧
        ∀ executed collected dropped, .unaccounted executed collected dropped ∈ r.rig.shared.notices →
          .unaccounted executed collected dropped ∈ building) := by
  intro j workers kept
  have new := isNew_fresh queueCapacity reservoirCapacity config plan building description
  have blank := blank_fresh queueCapacity reservoirCapacity config plan building description
  have reached := reached_of_steps done
  have stage := Reached.accounts blank rfl reached kept
  have barrier := reached.atBarrier new
  rw [Controller.stage_of_result? came] at stage barrier
  obtain ⟨counts, lost, gathered, fair⟩ : Reported _ _ _ _ _ := stage
  have size : r.rig.workers.size = config.threads.toNat := barrier.1
  have settled := reached.returned_eq new gathered.gone kept
  have success := counts.1.trans (reached.length_queued new .success)
  have error := counts.2.trans (reached.length_queued new .error)
  have dropped := lost.trans (reached.length_lost new)
  rw [size] at success error dropped
  refine ⟨settled, success, error, dropped, ?_, fun regular => ?_⟩
  · -- What is settled of a worker is a success, an error or a loss.
    have own (i : Nat) : (Worker.returned (Rig.ofWorker i j)).length =
        (latenciesOf .success (Worker.queued (Rig.ofWorker i j))).length +
          (latenciesOf .error (Worker.queued (Rig.ofWorker i j))).length +
          (Worker.lost (Rig.ofWorker i j)).length := by
      rw [settled, Worker.length_settled, length_latenciesOf]
    rw [Finset.sum_congr rfl fun i _ => own i, Finset.sum_add_distrib, Finset.sum_add_distrib, ← success,
      ← error, ← dropped]
  · have agree : executed r.rig = (Rig.queued j).length + report.dropped := by
      rw [lost]
      exact reached.executed_eq new fun i lt => regular i (Finset.mem_range.mpr (size ▸ lt))
    refine ⟨⟨_, gathered.ended, agree⟩, fun executed collected dropped mem => ?_⟩
    exact fair agree _ (List.mem_filter.mpr ⟨mem, rfl⟩)

/-- A run of one worker with queues and a reservoir for one sample. -/
def tight : Run :=
  fresh 1 1 { engine := "scripted", host := "localhost:0", duration := .clamped 500000000 }
    { threadRate := 3, connectionRate := 3, tokensPerSec := 1, batchSize := 3
      tokensPerSec_pos := Nat.one_pos } [] ""

/-- A success is queued, another one is dropped because the queue stays full, and a failure is queued. -/
def tightLabels : List Label :=
  [.controller, .controller, .rig (.worker 0 .start), .rig (.worker 0 (.opened (.opened true))),
    .rig (.worker 0 .announce), .controller, .controller, .controller, .controller, .controller,
    .controller, .controller, .controller, .controller, .rig (.worker 0 .release),
    .rig (.worker 0 .checkStop), .rig (.worker 0 .permit), .rig (.worker 0 .recheckStop),
    .rig (.worker 0 (.executed .ok (.clamped 5))), .rig (.worker 0 .send),
    .rig (.worker 0 (.executed .ok (.clamped 7))), .rig (.worker 0 .send),
    .rig (.pass 1000000000), .controller, .controller, .controller, .controller, .controller,
    .rig (.worker 0 .giveUp), .rig (.worker 0 (.executed (.failed .notReady) (.clamped 9))),
    .rig (.collector .look), .rig (.collector .pollSuccess), .rig (.worker 0 .send),
    .rig (.worker 0 .checkStop), .rig (.worker 0 .closed), .controller, .controller, .controller,
    .controller, .rig (.collector (.add 0)), .rig (.collector .pollError), .rig (.collector (.add 0)),
    .rig (.collector .pollSuccess), .rig (.collector .pollError), .rig (.collector .look),
    .rig (.collector .pollSuccess), .rig (.collector .pollError), .controller, .controller, .controller,
    .controller]

theorem accounts_balance_tightLabels :
    ∃ r report, tight.steps tightLabels = some r ∧ r.controller.result? = some (.ok report) ∧
      report.success + report.error + report.dropped = 3 ∧
      ∃ collected, r.rig.collector.bind Collector.ending? = some (.collected collected) ∧
        executed r.rig = collected + report.dropped := by
  have reports : (tight.steps tightLabels).any (·.controller.result?.any (·.isOk)) = true := by
    decide +kernel
  have stages : (tight.steps tightLabels).bind (·.rig.workers[0]?.map Worker.stage) =
      some (.finished (.executed 3)) := by decide +kernel
  have told : (tight.journal tightLabels).all (fun act => match act with
      | .calledOff _ _ => false
      | _ => true) = true := by rfl
  obtain ⟨r, report, done, came⟩ := exists_report reports
  rw [done] at stages
  obtain ⟨w, here, stage⟩ := Option.map_eq_some_iff.mp stages
  have kept (i now : Nat) : .calledOff i now ∉ tight.journal tightLabels := by
    intro mem
    cases List.all_eq_true.mp told _ mem
  obtain ⟨-, -, -, -, total, regular⟩ := accounts_balance _ _ _ _ _ _ tightLabels done came kept
  refine ⟨r, report, done, came, total, (regular fun i mem => ?_).1⟩
  obtain rfl : i = 0 := Nat.lt_one_iff.mp (Finset.mem_range.mp mem)
  exact ⟨w, 3, here, stage⟩

end Run

end LoadGen
