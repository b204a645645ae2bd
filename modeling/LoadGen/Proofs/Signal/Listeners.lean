import LoadGen.Proofs.Trace
import LoadGen.Signal

namespace LoadGen

/-!
# What listeners are told

A signal moves forward only.  What a listener is told depends on what the owner of the signal has done
so far, and on nothing else: not on who asks, how often, or since when it listens.

* `SignalDesk.Reached` — the desks that calls lead to, each with the calls and their answers;
* `SignalDesk.Given`, `SignalDesk.LetGo` — what the owner has done, read off these;
* `SignalDesk.Move` — everything a call can do; `move_of_call` says that there is nothing else;
* `SignalDesk.Remembers` — a signal is what its owner has made of it;
* `SignalDesk.listeners_agree` — what every listener is told at every moment.

A wait that is not over is looked at again later, so each look is a call of its own.
-/

theorem Phase.order_le_stopped (phase : Phase) : phase.order ≤ stopped.order := by
  cases phase <;> decide

/-- Stopped is the last phase. -/
theorem Phase.eq_stopped_of_order_le {phase : Phase} (last : stopped.order ≤ phase.order) :
    phase = .stopped := by
  cases phase with
  | stopped => rfl
  | pending | running => simp [order] at last

namespace SignalDesk

/-- A call with its answer. -/
abbrev Entry := Call × Answer

/-- Makes a call.  None is turned away. -/
def perform (desk : SignalDesk) (c : Call) : Option SignalDesk := some (desk.call c).1

/-- What a call adds to the journal. -/
def acts (desk : SignalDesk) (c : Call) : List Entry := [(c, (desk.call c).2)]

/-- The journal of some calls. -/
abbrev journal (desk : SignalDesk) (cs : List Call) : List Entry := Trace.told perform acts desk cs

/-- The desks that calls lead to, each with its journal. -/
abbrev Reached (start : SignalDesk) (told : List Entry) (desk : SignalDesk) : Prop :=
  Trace.Reached perform acts start told desk

/-- The answers to some calls are those of their journal. -/
theorem calls_eq (desk : SignalDesk) (cs : List Call) :
    desk.calls cs = (desk.journal cs).map Prod.snd := by
  induction cs generalizing desk with
  | nil => rfl
  | cons c cs ih =>
    have next : perform desk c = some (desk.call c).1 := rfl
    rw [journal, Trace.told_cons next, List.map_append, calls, ih]
    rfl

/-! ### What the owner has done -/

/-- The owner has made a call to its signal, and still had it. -/
def Given (c : Call) (told : List Entry) : Prop := ∃ phase, (c, .phase phase) ∈ told

/-- The owner has let go of its signal. -/
def LetGo (told : List Entry) : Prop := (.release, .released) ∈ told

section

variable {c c' : Call} {answer : Answer} {told : List Entry}

theorem given_append :
    Given c (told ++ [(c', answer)]) ↔ Given c told ∨ c = c' ∧ ∃ phase, answer = .phase phase := by
  unfold Given
  constructor
  · rintro ⟨phase, mem⟩
    rcases List.mem_append.mp mem with old | new
    · exact .inl ⟨phase, old⟩
    · obtain ⟨rfl, rfl⟩ := Prod.mk.inj (List.mem_singleton.mp new)
      exact .inr ⟨rfl, phase, rfl⟩
  · rintro (⟨phase, old⟩ | ⟨rfl, phase, rfl⟩)
    · exact ⟨phase, List.mem_append_left _ old⟩
    · exact ⟨phase, List.mem_append_right _ (List.mem_singleton_self _)⟩

theorem letGo_append :
    LetGo (told ++ [(c', answer)]) ↔ LetGo told ∨ c' = .release ∧ answer = .released := by
  unfold LetGo
  rw [List.mem_append, List.mem_singleton, Prod.mk.injEq]
  constructor
  · rintro (old | ⟨rfl, rfl⟩)
    · exact .inl old
    · exact .inr ⟨rfl, rfl⟩
  · rintro (old | ⟨rfl, rfl⟩)
    · exact .inl old
    · exact .inr ⟨rfl, rfl⟩

end

/-! ### What a call can do -/

/-- Whether a call can change the signal. -/
def Call.isOwners : Call → Bool
  | .start | .stop | .release => true
  | _ => false

/-- A call, with its answer and the desk after it. -/
inductive Move (desk : SignalDesk) : Call → Answer → SignalDesk → Prop where
  /-- The desk stays as it is. -/
  | read {c : Call} {answer : Answer} (other : c.isOwners = false) : Move desk c answer desk
  /-- There is no signal any more. -/
  | refused {c : Call} (gone : desk.signal.released = true) : Move desk c .gone desk
  | enrolled {c : Call} (other : c.isOwners = false) :
      Move desk c (.listener desk.listeners) { desk with listeners := desk.listeners + 1 }
  | started (held : desk.signal.released = false) :
      Move desk .start (.phase desk.signal.start.phase) { desk with signal := desk.signal.start }
  | stopped (held : desk.signal.released = false) :
      Move desk .stop (.phase .stopped) { desk with signal := desk.signal.stop }
  | released : Move desk .release .released { desk with signal := desk.signal.release }

/-- **A call does what one of the moves says.** -/
theorem move_of_call (desk : SignalDesk) (c : Call) :
    Move desk c (desk.call c).2 (desk.call c).1 := by
  cases c with
  | listen =>
    simp only [call]
    split
    · exact .refused ‹_›
    · exact .enrolled rfl
  | clone listener =>
    simp only [call]
    split
    · exact .enrolled rfl
    · exact .read rfl
  | start =>
    simp only [call, own]
    split
    · exact .refused ‹_›
    · exact .started (eq_false_of_ne_true ‹_›)
  | stop =>
    simp only [call, own]
    split
    · exact .refused ‹_›
    · exact .stopped (eq_false_of_ne_true ‹_›)
  | phase =>
    simp only [call, own]
    split
    · exact .refused ‹_›
    · exact .read rfl
  | release => exact .released
  | isStopped listener => exact .read rfl
  | waitForStart listener => exact .read rfl

section

variable {start desk desk' : SignalDesk} {c : Call} {answer : Answer} {told : List Entry}

/-- What holds at the start and is kept by every move holds of every desk that is reached. -/
theorem Reached.induct {motive : List Entry → SignalDesk → Prop} (h : Reached start told desk)
    (first : motive [] start)
    (next : ∀ {told : List Entry} {c : Call} {answer : Answer} {desk desk' : SignalDesk},
      motive told desk → Move desk c answer desk' → motive (told ++ [(c, answer)]) desk') :
    motive told desk := by
  induction h with
  | start => exact first
  | @next told desk _ c before now ih =>
    cases now
    exact next ih (move_of_call desk c)

/-! ### Signals move forward -/

/-- The phase stays, or a start takes it from pending to running, or a stop ends it. -/
theorem Move.phase_cases (move : Move desk c answer desk') :
    desk'.signal.phase = desk.signal.phase ∨
      (c = .start ∧ desk.signal.phase = .pending ∧ desk'.signal.phase = .running) ∨
      (c = .stop ∧ desk'.signal.phase = .stopped) := by
  cases move with
  | read | refused | enrolled | released => exact .inl rfl
  | stopped => exact .inr (.inr ⟨rfl, rfl⟩)
  | started =>
    by_cases idle : desk.signal.phase = .pending
    · have running : desk.signal.start.phase = .running := by
        unfold Signal.start
        rw [if_pos idle]
      exact .inr (.inl ⟨rfl, idle, running⟩)
    · have same : desk.signal.start.phase = desk.signal.phase := by
        unfold Signal.start
        rw [if_neg idle]
      exact .inl same

/-- Whatever is called, the phase moves forward, and nobody stops listening. -/
theorem Reached.forward (h : Reached start told desk) :
    start.signal.phase.order ≤ desk.signal.phase.order ∧ start.listeners ≤ desk.listeners := by
  refine h.induct (motive := fun _ desk => start.signal.phase.order ≤ desk.signal.phase.order ∧
    start.listeners ≤ desk.listeners) ⟨Nat.le_refl _, Nat.le_refl _⟩ ?_
  intro told c answer desk desk' ⟨phases, listeners⟩ move
  constructor
  · rcases move.phase_cases with same | ⟨-, idle, running⟩ | ⟨-, off⟩
    · rw [same]
      exact phases
    · rw [idle] at phases
      rw [running]
      exact Nat.le_trans phases (by decide)
    · rw [off]
      exact Phase.order_le_stopped _
  · cases move with
    | read | refused | started | stopped | released => exact listeners
    | enrolled => exact Nat.le_succ_of_le listeners

/-! ### Signals are what their owner has made of them -/

/-- A signal is what its owner has made of it. -/
structure Remembers (told : List Entry) (desk : SignalDesk) : Prop where
  stopped_iff : desk.signal.phase = .stopped ↔ Given .stop told
  pending_iff : desk.signal.phase = .pending ↔ ¬ Given .start told ∧ ¬ Given .stop told
  released_iff : desk.signal.released = true ↔ LetGo told

namespace Remembers

theorem empty : Remembers [] {} where
  stopped_iff := by simp [Given]
  pending_iff := by simp [Given]
  released_iff := by simp [LetGo]

/-- What is no call of the owner to its signal leaves the signal as it is. -/
theorem idle (h : Remembers told desk) (same : desk'.signal = desk.signal)
    (quiet : c.isOwners = false ∨ answer = .gone) : Remembers (told ++ [(c, answer)]) desk' := by
  have unstarted : ¬ (.start = c ∧ ∃ phase, answer = .phase phase) := by
    rintro ⟨rfl, phase, rfl⟩
    simp [Call.isOwners] at quiet
  have unstopped : ¬ (.stop = c ∧ ∃ phase, answer = .phase phase) := by
    rintro ⟨rfl, phase, rfl⟩
    simp [Call.isOwners] at quiet
  have held : ¬ (c = .release ∧ answer = .released) := by
    rintro ⟨rfl, rfl⟩
    simp [Call.isOwners] at quiet
  refine ⟨?_, ?_, ?_⟩
  · rw [same, h.stopped_iff, given_append, or_iff_left unstopped]
  · rw [same, h.pending_iff, given_append, given_append, or_iff_left unstarted,
      or_iff_left unstopped]
  · rw [same, h.released_iff, letGo_append, or_iff_left held]

/-- A call keeps what is remembered. -/
theorem move (h : Remembers told desk) (move : Move desk c answer desk') :
    Remembers (told ++ [(c, answer)]) desk' := by
  cases move with
  | read other => exact h.idle rfl (.inl other)
  | refused gone => exact h.idle rfl (.inr rfl)
  | enrolled other => exact h.idle rfl (.inl other)
  | started held =>
    -- A start changes a pending signal only, so one that comes late leaves what a stop has done.
    obtain ⟨stopped_iff, pending_iff, released_iff⟩ := h
    refine ⟨?_, ?_, ?_⟩
    · rw [given_append, ← stopped_iff]
      unfold Signal.start
      split
      · simp_all
      · simp
    · rw [given_append]
      unfold Signal.start
      split <;> simp_all
    · rw [letGo_append, ← released_iff]
      unfold Signal.start
      split <;> simp
  | stopped held =>
    refine ⟨?_, ?_, ?_⟩
    · simp [given_append, Signal.stop]
    · simp [given_append, Signal.stop]
    · rw [letGo_append, ← h.released_iff]
      simp [Signal.stop]
  | released =>
    refine ⟨?_, ?_, ?_⟩
    · rw [given_append, ← h.stopped_iff]
      simp [Signal.release]
    · rw [given_append, given_append]
      simpa [Signal.release] using h.pending_iff
    · simp [letGo_append, Signal.release]

end Remembers

/-- **A signal is what its owner has made of it**, whoever has listened meanwhile. -/
theorem Reached.remembers (h : Reached {} told desk) : Remembers told desk :=
  h.induct (motive := Remembers) .empty fun remembers move => remembers.move move

/-! ### What a listener is told -/

/-- What a listener is told that waits for the start, or looks at the stop. -/
structure Informs (told : List Entry) (desk : SignalDesk) (listener : Nat) : Prop where
  waiting_iff : (desk.call (.waitForStart listener)).2 = .waiting ↔
    ¬ Given .start told ∧ ¬ Given .stop told ∧ ¬ LetGo told
  running_iff : (desk.call (.waitForStart listener)).2 = .phase .running ↔
    Given .start told ∧ ¬ Given .stop told
  stopped_iff : (desk.call (.waitForStart listener)).2 = .phase .stopped ↔
    Given .stop told ∨ ¬ Given .start told ∧ LetGo told
  ne_pending : (desk.call (.waitForStart listener)).2 ≠ .phase .pending
  isStopped_iff : (desk.call (.isStopped listener)).2 = .stopped true ↔ Given .stop told ∨ LetGo told
  goesOn_iff : (desk.call (.isStopped listener)).2 = .stopped false ↔
    ¬ Given .stop told ∧ ¬ LetGo told

variable {listener : Nat}

theorem call_waitForStart (here : listener < desk.listeners) :
    (desk.call (.waitForStart listener)).2 = (desk.signal.startedAs?.map .phase).getD .waiting :=
  if_pos here

theorem call_isStopped (here : listener < desk.listeners) :
    (desk.call (.isStopped listener)).2 = .stopped desk.signal.isStopped := if_pos here

/-- Every listener is told what the signal remembers. -/
theorem Remembers.informs (h : Remembers told desk) (here : listener < desk.listeners) :
    Informs told desk listener := by
  have stopped_iff := h.stopped_iff
  have pending_iff := h.pending_iff
  have released_iff := h.released_iff
  -- The phase decides what a wait is told; that the signal is gone counts only while it is pending.
  cases phase : desk.signal.phase with
  | pending =>
    rw [phase] at stopped_iff pending_iff
    obtain ⟨unstarted, unstopped⟩ := pending_iff.mp rfl
    cases released : desk.signal.released with
    | false =>
      have held : ¬ LetGo told := fun gone => by simp [released_iff.mpr gone] at released
      have waits : desk.signal.startedAs? = none := by simp [Signal.startedAs?, phase, released]
      have goesOn : desk.signal.isStopped = false := by simp [Signal.isStopped, phase, released]
      constructor <;>
        simp [call_waitForStart here, call_isStopped here, waits, goesOn, unstarted, unstopped, held]
    | true =>
      have gone : LetGo told := released_iff.mp released
      have waits : desk.signal.startedAs? = some .stopped := by
        simp [Signal.startedAs?, phase, released]
      have stops : desk.signal.isStopped = true := by simp [Signal.isStopped, released]
      constructor <;>
        simp [call_waitForStart here, call_isStopped here, waits, stops, unstarted, unstopped, gone]
  | running =>
    rw [phase] at stopped_iff pending_iff
    have unstopped : ¬ Given .stop told := fun given => by cases stopped_iff.mpr given
    have started : Given .start told :=
      Classical.byContradiction fun unstarted => by cases pending_iff.mpr ⟨unstarted, unstopped⟩
    have waits : desk.signal.startedAs? = some .running := by simp [Signal.startedAs?, phase]
    have stops : desk.signal.isStopped = desk.signal.released := by simp [Signal.isStopped, phase]
    constructor <;>
      simp [call_waitForStart here, call_isStopped here, waits, stops, started, unstopped,
        ← released_iff]
  | stopped =>
    have off : Given .stop told := stopped_iff.mp phase
    have waits : desk.signal.startedAs? = some .stopped := by simp [Signal.startedAs?, phase]
    have stops : desk.signal.isStopped = true := by simp [Signal.isStopped, phase]
    constructor <;> simp [call_waitForStart here, call_isStopped here, waits, stops, off]

/-- What the owner has done stays done. -/
theorem Given.append (h : Given c told) (more : List Entry) : Given c (told ++ more) := by
  obtain ⟨phase, mem⟩ := h
  exact ⟨phase, List.mem_append_left _ mem⟩

/-- **A signal moves forward only, and all listeners agree.**  A start takes a pending signal to
    running, a stop ends it, and no other call changes its phase; it never goes back.  Whoever
    listens, since whenever, is told the same: a wait goes on until there was a start, a stop, or the
    signal was let go of, and ends as running only after a start and before any stop; and the stop is
    seen from the first stop or the release on, for ever. -/
theorem listeners_agree (reached : Reached {} told desk) :
    (∀ c, (desk.call c).1.signal.phase = desk.signal.phase ∨
      (c = .start ∧ desk.signal.phase = .pending ∧ (desk.call c).1.signal.phase = .running) ∨
      (c = .stop ∧ (desk.call c).1.signal.phase = .stopped)) ∧
    (∀ listener < desk.listeners, Informs told desk listener) ∧
    ∀ more later, Reached desk more later →
      desk.signal.phase.order ≤ later.signal.phase.order ∧
      (desk.signal.phase = .stopped → later.signal.phase = .stopped) ∧
      (Given .stop told ∨ LetGo told →
        ∀ listener < later.listeners, (later.call (.isStopped listener)).2 = .stopped true) := by
  refine ⟨fun c => (move_of_call desk c).phase_cases, fun _ here => reached.remembers.informs here, ?_⟩
  intro more later onward
  have forward := onward.forward.1
  refine ⟨forward, fun off => ?_, fun off listener here => ?_⟩
  · rw [off] at forward
    exact Phase.eq_stopped_of_order_le forward
  · -- What has been done before the later calls has been done before the look.
    have remembers := Reached.remembers (Trace.Reached.trans reached onward)
    rw [(remembers.informs here).isStopped_iff]
    rcases off with given | gone
    · exact .inl (given.append more)
    · exact .inr (List.mem_append_left _ gone)

end

/-- The stop comes before the start, and one listener is made after both. -/
def lateStart : List Call := [.listen, .waitForStart 0, .stop, .start, .clone 0]

/-- The signal is let go of while the run goes on. -/
def letGoRunning : List Call := [.listen, .start, .release, .clone 0]

theorem listeners_agree_lateStart :
    (∃ desk told, Reached {} told desk ∧ told.map Prod.snd = calls {} lateStart ∧
      desk.listeners = 2 ∧ desk.signal.phase = .stopped ∧ Informs told desk 0 ∧ Informs told desk 1 ∧
      (desk.call (.waitForStart 1)).2 = .phase .stopped ∧
      (desk.call (.isStopped 1)).2 = .stopped true ∧ (desk.call .start).1.signal.phase = .stopped) ∧
    ∃ desk told, Reached {} told desk ∧ told.map Prod.snd = calls {} letGoRunning ∧
      Informs told desk 1 ∧ (desk.call (.waitForStart 1)).2 = .phase .running ∧
      (desk.call (.isStopped 1)).2 = .stopped true := by
  constructor
  · obtain ⟨desk, done⟩ : ∃ desk, Trace.run perform {} lateStart = some desk := ⟨_, rfl⟩
    have reached : Reached {} (journal {} lateStart) desk := Trace.reached_of_run done
    obtain ⟨-, informs, later⟩ := listeners_agree reached
    cases done
    have given : Given .stop (journal {} lateStart) := ⟨.stopped, by decide⟩
    have again (d : SignalDesk) : Trace.run perform d [.start] = some (d.call .start).1 := rfl
    have restart := later _ _ (Trace.reached_of_run (again _))
    exact ⟨_, _, reached, (calls_eq {} lateStart).symm, rfl, rfl, informs 0 (by decide),
      informs 1 (by decide), (informs 1 (by decide)).stopped_iff.mpr (.inl given),
      (informs 1 (by decide)).isStopped_iff.mpr (.inl given), restart.2.1 rfl⟩
  · obtain ⟨desk, done⟩ : ∃ desk, Trace.run perform {} letGoRunning = some desk := ⟨_, rfl⟩
    have reached : Reached {} (journal {} letGoRunning) desk := Trace.reached_of_run done
    obtain ⟨-, informs, -⟩ := listeners_agree reached
    cases done
    have started : Given .start (journal {} letGoRunning) := ⟨.running, by decide⟩
    have gone : LetGo (journal {} letGoRunning) := by
      unfold LetGo
      decide
    have unstopped : ¬ Given .stop (journal {} letGoRunning) := by
      rintro ⟨phase, mem⟩
      cases phase <;> revert mem <;> decide
    exact ⟨_, _, reached, (calls_eq {} letGoRunning).symm, informs 1 (by decide),
      (informs 1 (by decide)).running_iff.mpr ⟨started, unstopped⟩,
      (informs 1 (by decide)).isStopped_iff.mpr (.inr gone)⟩

end SignalDesk

end LoadGen
