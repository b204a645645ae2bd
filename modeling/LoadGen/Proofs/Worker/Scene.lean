import LoadGen.Proofs.Trace
import LoadGen.Proofs.Worker.Operations

namespace LoadGen

/-!
# A worker and the owner of its signal

One worker that nobody calls off, among others that do what they like with all that is shared but the
signal.  The owner of the signal starts it, stops it or lets go of it at any moment.

* `Worker.Scene` — the worker and what it shares;
* `Worker.Scene.Deed`, `Worker.Scene.Act` — what can happen, and what can be told of it;
* `Worker.Scene.Move` — everything a deed can do; `move_of_perform` says that there is nothing else;
* `Worker.Scene.Reached.life` — the worker of a scene has a life;
* `Worker.Scene.Reached.dismissed` — a worker whose signal is stopped before it is started is not let run.
-/

namespace Signal

variable {signal : Signal}

/-- Starting a signal that was stopped changes nothing for those who wait. -/
theorem startedAs?_start (off : signal.startedAs? = some .stopped) (held : signal.released = false) :
    signal.start.startedAs? = some .stopped := by
  cases phase : signal.phase with
  | pending => simp [startedAs?, phase, held] at off
  | running => simp [startedAs?, phase] at off
  | stopped =>
    unfold start
    rw [phase, if_neg (by decide)]
    exact off

/-- Letting go of a signal that is not running counts as its stop. -/
theorem startedAs?_release (idle : signal.phase ≠ .running) :
    signal.release.startedAs? = some .stopped := by
  cases phase : signal.phase with
  | pending | stopped => simp [startedAs?, release, phase]
  | running => exact absurd phase idle

theorem isStopped_release (signal : Signal) : signal.release.isStopped = true := by
  unfold release isStopped
  exact Bool.or_true _

theorem isStopped_stop (signal : Signal) : signal.stop.isStopped = true := rfl

end Signal

namespace Worker

/-- A worker and what it shares with others. -/
structure Scene where
  shared : Shared
  worker : Worker

namespace Scene

/-- What can happen around a worker that is not called off. -/
inductive Deed where
  /-- A step of the worker. -/
  | own (event : Event)
  /-- The others leave what they share in some state. -/
  | others (shared : Shared)
  | start
  | stop
  /-- The owner of the signal lets go of it. -/
  | release

/-- What can be told of a scene. -/
inductive Act where
  | own (act : Worker.Act)
  /-- The worker looks at the stop, before it asks for a permit or before it starts a batch. -/
  | looked (stopped : Bool)
  /-- The worker gets a permit. -/
  | granted
  /-- The worker starts a batch. -/
  | begun
  | started
  /-- The signal is stopped, or let go of. -/
  | stopped
  deriving DecidableEq

/-- The owner does something to its signal, unless it has let go of it. -/
def give (c : Scene) (change : Signal → Signal) : Option Scene :=
  if c.shared.signal.released then none
  else some { c with shared := { c.shared with signal := change c.shared.signal } }

/-- Does a deed, if it can be done now. -/
def perform (c : Scene) : Deed → Option Scene
  | .own event => (step c.shared c.worker event).map fun (shared, worker) => { shared, worker }
  | .others shared => some { c with shared := { shared with signal := c.shared.signal } }
  | .start => c.give Signal.start
  | .stop => c.give Signal.stop
  | .release => c.give Signal.release

/-- What the worker sees and starts in a step. -/
def sights (s : Shared) : Event → List Act
  | .checkStop => [.looked s.signal.isStopped]
  | .permit => [.granted]
  | .recheckStop => .looked s.signal.isStopped :: if s.signal.isStopped then [] else [.begun]
  | _ => []

/-- What a deed adds to the journal. -/
def acts (c : Scene) : Deed → List Act
  | .own event => sights c.shared event ++ (c.worker.acts c.shared event).map .own
  | .others _ => []
  | .start => [.started]
  | .stop | .release => [.stopped]

/-- The scene after some deeds, if all can be done. -/
abbrev performAll (c : Scene) (deeds : List Deed) : Option Scene := Trace.run perform c deeds

/-- The journal of some deeds. -/
abbrev journal (c : Scene) (deeds : List Deed) : List Act := Trace.told perform acts c deeds

/-- The scenes that deeds lead to, each with its journal. -/
abbrev Reached (start : Scene) (told : List Act) (c : Scene) : Prop :=
  Trace.Reached perform acts start told c

/-- A worker of a plan before anything has happened to it or to its signal. -/
def fresh (id : Nat) (plan : RatePlan) (shared : Shared) : Scene :=
  { shared := { shared with signal := {} }, worker := .ofPlan id plan }

/-- What the worker tells of itself. -/
def Act.own? : Act → Option Worker.Act
  | .own act => some act
  | _ => none

/-- The story of the worker. -/
def own (told : List Act) : List Worker.Act := told.filterMap Act.own?

theorem own_append (told more : List Act) : own (told ++ more) = own told ++ own more :=
  List.filterMap_append

theorem mem_own {told : List Act} {act : Worker.Act} : act ∈ own told ↔ .own act ∈ told := by
  unfold own
  rw [List.mem_filterMap]
  constructor
  · rintro ⟨seen, mem, same⟩
    cases seen with
    | own act' =>
      cases same
      exact mem
    | looked | granted | begun | started | stopped => cases same
  · intro mem
    exact ⟨_, mem, rfl⟩

theorem own_sights (s : Shared) (event : Event) : own (sights s event) = [] := by
  unfold sights
  split
  · rfl
  · rfl
  · split <;> rfl
  · rfl

/-- A worker that sees the stop starts nothing. -/
theorem sights_of_stopped {s : Shared} {event : Event} {between permitted : Prop}
    (looks : event = .checkStop ∧ between ∨ event = .recheckStop ∧ permitted)
    (seen : s.signal.isStopped = true) : sights s event = [.looked true] := by
  unfold sights
  rw [seen]
  rcases looks with ⟨rfl, -⟩ | ⟨rfl, -⟩ <;> rfl

/-- A worker that loses a sample looks at nothing. -/
theorem sights_of_dropped (s : Shared) {event : Event} {closed late : Prop}
    (why : event = .send ∧ closed ∨ event = .giveUp ∧ late) : sights s event = [] := by
  rcases why with ⟨rfl, -⟩ | ⟨rfl, -⟩ <;> rfl

/-- A step adds to the story what the worker tells of it. -/
theorem own_acts (s : Shared) (event : Event) (acts : List Worker.Act) :
    own (sights s event ++ acts.map .own) = acts := by
  rw [own_append, own_sights, List.nil_append]
  unfold own
  rw [List.filterMap_map]
  exact List.filterMap_some

/-! ### What a deed can do -/

/-- A deed, with what it adds to the journal. -/
inductive Move (c : Scene) : List Act → Scene → Prop where
  | own {event : Event} {acts : List Worker.Act} {shared : Shared} {worker : Worker}
      (step : Worker.step c.shared c.worker event = some (shared, worker))
      (move : Worker.Move c.shared c.worker event acts shared worker)
      (told : acts = c.worker.acts c.shared event) :
      Move c (sights c.shared event ++ acts.map .own) { shared, worker }
  | others {shared : Shared} (same : shared.signal = c.shared.signal) : Move c [] { c with shared }
  | started (held : c.shared.signal.released = false) :
      Move c [.started] { c with shared := { c.shared with signal := c.shared.signal.start } }
  | stopped {signal : Signal}
      (off : signal = c.shared.signal.stop ∨ signal = c.shared.signal.release) :
      Move c [.stopped] { c with shared := { c.shared with signal } }

theorem give_eq_some {c c' : Scene} {change : Signal → Signal} (h : c.give change = some c') :
    c.shared.signal.released = false ∧
      c' = { c with shared := { c.shared with signal := change c.shared.signal } } := by
  unfold give at h
  split at h
  · cases h
  · cases h
    exact ⟨eq_false_of_ne_true ‹_›, rfl⟩

/-- **A deed does what one of the moves says.** -/
theorem move_of_perform {c c' : Scene} {deed : Deed} (h : c.perform deed = some c') :
    Move c (c.acts deed) c' := by
  cases deed with
  | own event =>
    obtain ⟨⟨shared, worker⟩, moved, rfl⟩ := Option.map_eq_some_iff.mp h
    exact .own moved (move_of_step moved) rfl
  | others shared =>
    cases h
    exact .others rfl
  | start =>
    obtain ⟨held, rfl⟩ := give_eq_some h
    exact .started held
  | stop =>
    obtain ⟨-, rfl⟩ := give_eq_some h
    exact .stopped (.inl rfl)
  | release =>
    obtain ⟨-, rfl⟩ := give_eq_some h
    exact .stopped (.inr rfl)

/-- What holds at the start and is kept by every move holds of every scene that is reached. -/
theorem Reached.induct {start c : Scene} {told : List Act} {motive : List Act → Scene → Prop}
    (h : Reached start told c) (first : motive [] start)
    (next : ∀ {told acts : List Act} {c c' : Scene}, motive told c → Move c acts c' →
      motive (told ++ acts) c') : motive told c := by
  induction h with
  | start => exact first
  | next before now ih => exact next ih (move_of_perform now)

section

variable {id : Nat} {plan : RatePlan} {shared : Shared} {start c : Scene} {told : List Act}

/-- The worker of a scene lives its life, whatever happens to its signal. -/
theorem Reached.life (h : Reached (fresh id plan shared) told c) :
    Life id plan (own told) c.worker := by
  refine h.induct (motive := fun told c => Life id plan (own told) c.worker) .spawned ?_
  intro told acts c c' life move
  rw [own_append]
  cases move with
  | own step move told =>
    rw [own_acts, told]
    exact life.step step
  | others _ | started _ | stopped _ =>
    show Life id plan (_ ++ []) _
    rw [List.append_nil]
    exact life

/-- Nobody calls it off. -/
theorem Reached.aborting_eq (h : Reached start told c) :
    c.worker.aborting = start.worker.aborting := by
  refine h.induct (motive := fun _ c => c.worker.aborting = start.worker.aborting) rfl ?_
  intro told acts c c' same move
  cases move with
  | own step move told => exact move.aborting_eq.trans same
  | others _ | started _ | stopped _ => exact same

/-! ### The signal of a scene -/

/-- A signal that was stopped stays so. -/
theorem Move.isStopped {acts : List Act} {c c' : Scene} (move : Move c acts c')
    (off : c.shared.signal.isStopped = true) : c'.shared.signal.isStopped = true := by
  cases move with
  | own step move told => exact (congrArg Signal.isStopped (leaves_of_move move).signal_eq).trans off
  | others same => exact (congrArg Signal.isStopped same).trans off
  | started held => exact (Signal.isStopped_start _).trans off
  | stopped change =>
    rcases change with rfl | rfl
    · exact Signal.isStopped_stop _
    · exact Signal.isStopped_release _

/-- A worker is released to run only as its signal says. -/
theorem startedAs?_of_released {s s' : Shared} {w w' : Worker} {event : Event}
    {acts : List Worker.Act} (move : Worker.Move s w event acts s' w')
    (mem : .own (.released .running) ∈ sights s event ++ acts.map Act.own) :
    s.signal.startedAs? = some .running := by
  rw [← mem_own, own_acts] at mem
  exact startedAs?_of_move move mem

/-- Before the start the signal is not running, and the worker is not released to run. -/
theorem Reached.unstarted (idle : start.shared.signal.phase ≠ .running) (h : Reached start told c)
    (never : .started ∉ told) :
    c.shared.signal.phase ≠ .running ∧ .own (.released .running) ∉ told := by
  refine h.induct (motive := fun told c => .started ∉ told →
    c.shared.signal.phase ≠ .running ∧ .own (.released .running) ∉ told)
    (fun _ => ⟨idle, List.not_mem_nil⟩) ?_ never
  intro told acts c c' early move never
  rw [List.mem_append, not_or] at never
  obtain ⟨still, unreleased⟩ := early never.1
  rw [List.mem_append, not_or]
  cases move with
  | own step move told =>
    have same := (leaves_of_move move).signal_eq
    refine ⟨fun running => still (same ▸ running), unreleased, fun mem => ?_⟩
    exact still (Signal.phase_of_startedAs? (startedAs?_of_released move mem))
  | others same => exact ⟨fun running => still (same ▸ running), unreleased, List.not_mem_nil⟩
  | started held => exact absurd (List.mem_singleton_self _) never.2
  | stopped change =>
    refine ⟨?_, unreleased, by simp⟩
    rcases change with rfl | rfl
    · nofun
    · exact still

/-- After a stop that came before the start, the worker is never released to run. -/
theorem Reached.dismissed (off : start.shared.signal.startedAs? = some .stopped)
    (h : Reached start told c) : .own (.released .running) ∉ told := by
  refine (h.induct (motive := fun told c => c.shared.signal.startedAs? = some .stopped ∧
    .own (.released .running) ∉ told) ⟨off, List.not_mem_nil⟩ ?_).2
  intro told acts c c' ⟨still, unreleased⟩ move
  rw [List.mem_append, not_or]
  cases move with
  | own step move told =>
    have same := (leaves_of_move move).signal_eq
    refine ⟨same ▸ still, unreleased, fun mem => ?_⟩
    have running := startedAs?_of_released move mem
    rw [still] at running
    cases running
  | others same => exact ⟨same ▸ still, unreleased, List.not_mem_nil⟩
  | started held => exact ⟨Signal.startedAs?_start still held, unreleased, by simp⟩
  | stopped change =>
    refine ⟨?_, unreleased, by simp⟩
    rcases change with rfl | rfl
    · rfl
    · refine Signal.startedAs?_release fun running => ?_
      simp [Signal.startedAs?, running] at still

end

end Scene

end Worker

end LoadGen
