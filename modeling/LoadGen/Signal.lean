namespace LoadGen

/-!
# Run signals

One signal tells every worker when to start and when to stop.  It moves forward only: from pending to
running to stopped, or from pending straight to stopped.  A signal that its owner lets go of counts as
stopped for those who listen.

* `Signal.start`, `Signal.stop`, `Signal.release` — what the owner does;
* `Signal.isStopped`, `Signal.startedAs?` — what a listener sees;
* `SignalDesk` — a signal with its listeners, one call at a time.
-/

/-- How far a run has come. -/
inductive Phase where
  | pending | running | stopped
  deriving DecidableEq, Repr

/-- The name of a phase. -/
def Phase.name : Phase → String
  | pending => "Pending"
  | running => "Running"
  | stopped => "Stopped"

/-- Phases in the order in which a run goes through them. -/
def Phase.order : Phase → Nat
  | pending => 0
  | running => 1
  | stopped => 2

/-- The phase of a run, and whether its owner has let go of the signal. -/
structure Signal where
  phase : Phase := .pending
  released : Bool := false
  deriving DecidableEq

namespace Signal

/-- Starts a run that is pending. -/
def start (s : Signal) : Signal := if s.phase = .pending then { s with phase := .running } else s

/-- Stops a run. -/
def stop (s : Signal) : Signal := { s with phase := .stopped }

/-- Lets go of the signal. -/
def release (s : Signal) : Signal := { s with released := true }

/-- Whether a listener that looks now has to stop. -/
def isStopped (s : Signal) : Bool := s.phase == .stopped || s.released

/-- What a listener that waits for the start is told now, if its wait is over. -/
def startedAs? (s : Signal) : Option Phase :=
  match s.phase with
  -- Nobody is left who could start the run.
  | .pending => if s.released then some .stopped else none
  | phase => some phase

theorem isStopped_start (s : Signal) : s.start.isStopped = s.isStopped := by
  unfold start isStopped
  split
  · simp_all; rfl
  · rfl

/-- Only a run that was started lets those who wait go on as running. -/
theorem phase_of_startedAs? {s : Signal} (h : s.startedAs? = some .running) : s.phase = .running := by
  cases phase : s.phase with
  | running => rfl
  | pending | stopped => simp [startedAs?, phase] at h

end Signal

/-! ### Listeners -/

/-- A signal and the number of its listeners, who are numbered from zero. -/
structure SignalDesk where
  signal : Signal := {}
  listeners : Nat := 0

namespace SignalDesk

/-- A call of the owner or of a listener. -/
inductive Call where
  | listen | clone (listener : Nat) | start | stop | phase | release
  | isStopped (listener : Nat) | waitForStart (listener : Nat)
  deriving DecidableEq, Repr

/-- What a call is answered. -/
inductive Answer where
  | listener (number : Nat) | phase (phase : Phase) | waiting | stopped (answer : Bool)
  /-- The signal has just been let go of. -/
  | released
  /-- There is no signal any more. -/
  | gone
  /-- There is no such listener. -/
  | nobody
  deriving DecidableEq, Repr

/-- A call of the owner, who is told the phase after it. -/
def own (desk : SignalDesk) (change : Signal → Signal) : SignalDesk × Answer :=
  if desk.signal.released then (desk, .gone)
  else ({ desk with signal := change desk.signal }, .phase (change desk.signal).phase)

/-- One more listener. -/
def enroll (desk : SignalDesk) : SignalDesk × Answer :=
  ({ desk with listeners := desk.listeners + 1 }, .listener desk.listeners)

/-- Makes a call. -/
def call (desk : SignalDesk) : Call → SignalDesk × Answer
  | .listen => if desk.signal.released then (desk, .gone) else desk.enroll
  | .clone listener => if listener < desk.listeners then desk.enroll else (desk, .nobody)
  | .start => desk.own Signal.start
  | .stop => desk.own Signal.stop
  | .phase => desk.own id
  | .release => ({ desk with signal := desk.signal.release }, .released)
  | .isStopped listener =>
    (desk, if listener < desk.listeners then .stopped desk.signal.isStopped else .nobody)
  | .waitForStart listener =>
    (desk,
      if listener < desk.listeners then (desk.signal.startedAs?.map .phase).getD .waiting
      else .nobody)

/-- Makes calls one after another. -/
def calls (desk : SignalDesk) : List Call → List Answer
  | [] => []
  | c :: cs => (desk.call c).2 :: calls (desk.call c).1 cs

end SignalDesk

end LoadGen
