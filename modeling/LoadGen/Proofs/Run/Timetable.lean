import LoadGen.Proofs.Config.Plan
import LoadGen.Proofs.Run.Turns

namespace LoadGen

/-!
# When progress is reported

The lines of a run are due a second apart, and the last one is due at its end.  A line is told no earlier
than it is due, so there are no more lines than seconds that have begun, however late a rest ends.  How many
are missing in the end is a matter of how far the loop has fallen behind.

* `Run.Slack`, `Run.slack` — how far the loop has fallen behind after some steps;
* `Run.Driven` — what the lines are when the time is up;
* `Run.AtTime` — what the clock and the lines are at a stage, and `Run.AtTime.run` that they are;
* `Run.turns_add_togo_le` — each line takes four steps.
-/

namespace Duration

theorem clamped_le_clamped {m n : Nat} (h : m ≤ n) : clamped m ≤ clamped n := by
  show (clamped m).nanos ≤ (clamped n).nanos
  unfold clamped
  by_cases within : n < durationLimit
  · rw [dif_pos within, dif_pos (Nat.lt_of_le_of_lt h within)]
    exact h
  · rw [dif_neg within]
    split
    · exact Nat.le_sub_one_of_lt ‹_›
    · exact Nat.le_refl _

theorem le_nanos_clamped {m n : Nat} (within : m < durationLimit) (h : m ≤ n) : m ≤ (clamped n).nanos := by
  have mono : (clamped m).nanos ≤ (clamped n).nanos := clamped_le_clamped h
  rw [clamped, dif_pos within] at mono
  exact mono

theorem le_clamped {d : Duration} {n : Nat} (h : d.nanos ≤ n) : d ≤ clamped n :=
  le_nanos_clamped d.nanos_lt h

end Duration

namespace Rig

/-- The time that passes. -/
def Label.nanos : Label → Nat
  | .pass nanos => nanos
  | .worker .. | .collector _ => 0

/-- The tasks take no time. -/
theorem now_of_step {r r' : Rig} {label : Label} (h : r.step label = some r') :
    r'.shared.now = r.shared.now + label.nanos := by
  cases label with
  | pass nanos =>
    cases h
    rfl
  | worker index event =>
    simp only [step, bind, Option.bind_eq_some_iff, pure, Option.some.injEq, Prod.exists] at h
    obtain ⟨w, -, shared, w', moved, rfl⟩ := h
    exact (Worker.leaves_of_move (Worker.move_of_step moved)).now_eq
  | collector event =>
    simp only [step, bind, Option.bind_eq_some_iff, pure, Option.some.injEq, Prod.exists] at h
    obtain ⟨c, -, shared, c', moved, rfl⟩ := h
    exact (Collector.move_of_step moved).now_eq

end Rig

namespace Run

/-! ### Clocks -/

/-- The time that passes in a step. -/
def Label.nanos : Label → Nat
  | .rig label => label.nanos
  | .controller => 0

/-- How far the progress loop has fallen behind. -/
structure Slack where
  /-- The time by which its rests have ended late, and that has passed outside of them. -/
  late : Nat := 0
  /-- The time that has passed between the last line and the look whether the time is up. -/
  paused : Nat := 0

/-- What a step adds.  A rest that goes on after its end makes the loop late. -/
def Slack.after (slack : Slack) (r : Run) (label : Label) : Slack :=
  match r.controller.stage with
  | .resting _ _ wake =>
    { slack with late := slack.late + (r.rig.shared.now + label.nanos - max r.rig.shared.now wake) }
  | .planning .. => { slack with late := slack.late + label.nanos }
  | .reporting .. => { late := slack.late + label.nanos }
  | .checking .. => { late := slack.late + label.nanos, paused := slack.paused + label.nanos }
  | _ => slack

/-- How far the loop has fallen behind after some steps. -/
def slack (r : Run) (before : Slack) : List Label → Slack
  | [] => before
  | label :: labels =>
    match r.step label with
    | none => before
    | some next => next.slack (before.after r label) labels

theorem slack_cons {r next : Run} {label : Label} (now : r.step label = some next) (before : Slack)
    (labels : List Label) :
    r.slack before (label :: labels) = next.slack (before.after r label) labels := by
  rw [slack, now]

/-- Whether all steps are of a kind. -/
def keeps (kind : Run → Label → Bool) (r : Run) (labels : List Label) : Bool :=
  (Trace.told step (fun r label => [kind r label]) r labels).all id

theorem keeps_cons {kind : Run → Label → Bool} {r next : Run} {label : Label} {labels : List Label}
    (now : r.step label = some next) :
    r.keeps kind (label :: labels) = (kind r label && next.keeps kind labels) := by
  rw [keeps, Trace.told_cons now]
  rfl

/-- Whether a step is one of the progress loop. -/
def isTurn (r : Run) : Label → Bool
  | .controller => r.controller.stage.isLooping
  | .rig _ => false

/-- How many steps are steps of the progress loop. -/
def turns (r : Run) (labels : List Label) : Nat :=
  (Trace.told step (fun r label => if r.isTurn label then [()] else []) r labels).length

theorem turns_cons {r next : Run} {label : Label} {labels : List Label}
    (now : r.step label = some next) :
    r.turns (label :: labels) = (if r.isTurn label then 1 else 0) + next.turns labels := by
  rw [turns, Trace.told_cons now, List.length_append]
  split <;> rfl

/-! ### Lines -/

/-- How many lines a run of a length has if all its rests are on time. -/
def lineCount (length : Duration) : Nat := ceilDiv length.nanos progressInterval.nanos

/-- When a line is due: a second after the one before it, and no later than the end. -/
def dueAt (length : Duration) (start count : Nat) : Nat :=
  start + min (count * progressInterval.nanos) length.nanos

section

variable {length : Duration} {start count : Nat}

theorem lt_lineCount (early : count * progressInterval.nanos < length.nanos) :
    count < lineCount length := by
  apply Nat.lt_of_not_le
  intro many
  have enough := (ceilDiv_le_iff (by decide)).mp many
  rw [Nat.mul_comm] at enough
  exact absurd early (Nat.not_lt_of_le enough)

/-- Before the last line is due there is a whole second for each line. -/
theorem dueAt_of_lt (early : count * progressInterval.nanos < length.nanos) :
    dueAt length start count = start + count * progressInterval.nanos := by
  rw [dueAt, Nat.min_eq_left (Nat.le_of_lt early)]

/-- A line is due a second after the one before it, or at the end. -/
theorem dueAt_succ (early : count * progressInterval.nanos < length.nanos) :
    dueAt length start (count + 1) =
      min (dueAt length start count + progressInterval.nanos) (start + length.nanos) := by
  rw [dueAt_of_lt early, Nat.add_assoc, Nat.add_min_add_left, dueAt, Nat.add_mul, Nat.one_mul]

/-- A line that is due before the end leaves time for another one. -/
theorem lt_of_dueAt_lt (before : dueAt length start count < start + length.nanos) :
    count * progressInterval.nanos < length.nanos := by
  unfold dueAt at before
  omega

/-- The last line is due at the end. -/
theorem dueAt_lineCount (length : Duration) (start : Nat) :
    dueAt length start (lineCount length) = start + length.nanos := by
  have enough : length.nanos ≤ progressInterval.nanos * lineCount length := le_mul_ceilDiv (by decide)
  rw [Nat.mul_comm] at enough
  rw [dueAt, Nat.min_eq_right enough]

theorem dueAt_le (length : Duration) (start count : Nat) :
    dueAt length start count ≤ start + length.nanos := Nat.add_le_add_left (Nat.min_le_right _ _) _

end

/-- The last line was told of a clock that was read at an instant, when the line was due. -/
structure ReadAt (length : Duration) (lines : List Progress) (start read : Nat) : Prop where
  told : ∃ last earlier, lines = last :: earlier ∧ last.elapsed = .clamped (read - start)
  due : dueAt length start lines.length ≤ read

/-- What the lines are when the time is up and the loop has fallen behind. -/
structure Driven (slack : Slack) (length : Duration) (lines : List Progress) : Prop where
  length_pos : 0 < lines.length
  /-- The clock was read for the last line, which was due, and after the pause again, when the time was up. -/
  read : ∃ start read check, ReadAt length lines start read ∧ read ≤ check ∧
    start + length.nanos ≤ check ∧ check ≤ read + slack.paused
  /-- The last line lacks no more of the time of the run than what passed in between. -/
  elapsed : ∀ last ∈ lines.head?, length.nanos ≤ last.elapsed.nanos + slack.paused
  /-- If no line was left out, the last line is one of the end of the run. -/
  elapsed_of_all : lines.length = lineCount length → ∀ last ∈ lines.head?, length ≤ last.elapsed
  /-- There are as many lines as a run has that is shorter by as much as the loop is late. -/
  enough : ceilDiv (length.nanos - slack.late) progressInterval.nanos ≤ lines.length
  /-- If the loop is late by less than the last interval, there is a line for each second that has begun. -/
  count_eq : (lineCount length - 1) * progressInterval.nanos + slack.late < length.nanos →
    lines.length = lineCount length

/-- What the clock and the lines are at a stage. -/
def AtTime (slack : Slack) (length : Duration) (now : Nat) (lines : List Progress) :
    Controller.Stage → Prop
  | .spawning | .polling _ | .asking .. | .examining .. | .counting .. | .callingOff .. | .ready
  | .starting | .launching => lines = []
  | .planning start deadline =>
    deadline = start + length.nanos ∧ lines.length * progressInterval.nanos < length.nanos ∧
      dueAt length start lines.length ≤ now ∧ now ≤ dueAt length start lines.length + slack.late
  | .resting start deadline wake =>
    deadline = start + length.nanos ∧ lines.length * progressInterval.nanos < length.nanos ∧
      dueAt length start (lines.length + 1) ≤ wake ∧ wake ≤ now + progressInterval.nanos ∧
      max now wake ≤ dueAt length start (lines.length + 1) + slack.late
  | .reporting start deadline _ =>
    deadline = start + length.nanos ∧ lines.length * progressInterval.nanos < length.nanos ∧
      dueAt length start (lines.length + 1) ≤ now ∧
      now ≤ dueAt length start (lines.length + 1) + slack.late
  | .checking start deadline =>
    deadline = start + length.nanos ∧
      (∃ count, lines.length = count + 1 ∧ count * progressInterval.nanos < length.nanos) ∧
      now ≤ dueAt length start lines.length + slack.late ∧
      ∃ read, ReadAt length lines start read ∧ read ≤ now ∧ now ≤ read + slack.paused
  | stage =>
    lines.length ≤ lineCount length ∧ (stage.wrong? = none → Driven slack length lines)

section AtTime

variable {slack : Slack} {length : Duration} {now : Nat} {lines : List Progress}
  {stage : Controller.Stage}

theorem AtTime.of_isEarly (early : stage.isEarly = true) :
    AtTime slack length now lines stage ↔ lines = [] := by
  cases stage with
  | spawning | polling | asking | examining | counting | callingOff | ready | starting | launching =>
    exact Iff.rfl
  | _ => cases early

/-- There are never more lines than seconds that have begun. -/
theorem AtTime.length_le (h : AtTime slack length now lines stage) :
    lines.length ≤ lineCount length := by
  cases stage with
  | spawning | polling | asking | examining | counting | callingOff | ready | starting | launching =>
    cases h
    exact Nat.zero_le _
  | planning | resting | reporting => exact Nat.le_of_lt (lt_lineCount h.2.1)
  | checking =>
    obtain ⟨-, ⟨count, told, early⟩, -⟩ := h
    rw [told]
    exact lt_lineCount early
  | stopping | stamping | pausing | joining | retiring | awaiting | tallying | auditing | summarizing
  | finished => exact h.1

/-- What holds once the time is up. -/
theorem AtTime.of_driven (late : stage.isEarly = false) (idle : stage.isLooping = false) :
    AtTime slack length now lines stage ↔
      lines.length ≤ lineCount length ∧
        (stage.wrong? = none → Driven slack length lines) := by
  cases stage with
  | spawning | polling | asking | examining | counting | callingOff | ready | starting | launching =>
    cases late
  | planning | resting | reporting | checking => cases idle
  | stopping | stamping | pausing | joining | retiring | awaiting | tallying | auditing | summarizing
  | finished => exact Iff.rfl

/-- Time that passes makes the loop fall behind, and changes nothing else. -/
theorem AtTime.pass {r : Run} (label : Label)
    (h : AtTime slack length r.rig.shared.now lines r.controller.stage) :
    AtTime (slack.after r label) length (r.rig.shared.now + label.nanos) lines r.controller.stage := by
  have later {bound behind : Nat} (h : r.rig.shared.now ≤ bound + behind) :
      r.rig.shared.now + label.nanos ≤ bound + (behind + label.nanos) := by omega
  unfold Slack.after
  generalize r.controller.stage = stage at h ⊢
  cases stage with
  | planning | reporting =>
    obtain ⟨ends, early, due, behind⟩ := h
    exact ⟨ends, early, Nat.le_add_right_of_le due, later behind⟩
  | resting =>
    obtain ⟨ends, early, due, soon, behind⟩ := h
    refine ⟨ends, early, due, by omega, ?_⟩
    dsimp only
    omega
  | checking =>
    obtain ⟨ends, told, behind, read, readAt, past, paused⟩ := h
    exact ⟨ends, told, later behind, read, readAt, Nat.le_add_right_of_le past, later paused⟩
  | spawning | polling | asking | examining | counting | callingOff | ready | starting | launching
  | stopping | stamping | pausing | joining | retiring | awaiting | tallying | auditing | summarizing
  | finished => exact h

/-- When the time is up, the lines are as many as the loop has kept up with. -/
theorem driven_of_checked {start read : Nat} (told : 0 < lines.length)
    (most : lines.length ≤ lineCount length) (behind : now ≤ dueAt length start lines.length + slack.late)
    (readAt : ReadAt length lines start read) (past : read ≤ now) (paused : now ≤ read + slack.paused)
    (up : start + length.nanos ≤ now) : Driven slack length lines := by
  obtain ⟨last, earlier, lines_eq, elapsed⟩ := readAt.told
  have short := length.nanos_lt
  have mem_eq {line : Progress} (mem : line ∈ lines.head?) : line = last := by
    rw [lines_eq] at mem
    cases mem
    rfl
  have kept : length.nanos ≤ lines.length * progressInterval.nanos + slack.late := by
    unfold dueAt at behind
    omega
  refine ⟨told, ⟨start, read, now, readAt, past, up, paused⟩, fun line mem => ?_, fun all line mem => ?_,
    ?_, fun early => ?_⟩
  · -- Where the time since the start cannot be told, what is told instead is long enough.
    rw [mem_eq mem, elapsed]
    have lacking : length.nanos - slack.paused ≤ (Duration.clamped (read - start)).nanos :=
      Duration.le_nanos_clamped (by omega) (by omega)
    omega
  · have end_ := readAt.due
    rw [all, dueAt_lineCount] at end_
    rw [mem_eq mem, elapsed]
    exact Duration.le_clamped (by omega)
  · refine (ceilDiv_le_iff (by decide)).mpr ?_
    rw [Nat.mul_comm]
    omega
  · -- With a line less the time would not be up.
    refine Nat.le_antisymm most (Nat.le_of_not_lt fun fewer => ?_)
    have least := Nat.mul_le_mul_right progressInterval.nanos (Nat.le_sub_one_of_lt fewer)
    omega

/-- A turn of the loop keeps what holds.  No line is told before it is due, and the loop ends only when
    the time is up. -/
theorem AtTime.turn {r : Rig} {c c' : Controller} (turn : Controller.Turn r c c')
    (h : AtTime slack length r.shared.now c.progress c.stage) :
    AtTime slack length r.shared.now c'.progress c'.stage := by
  cases turn with
  | @planned start _ at_ =>
    rw [at_] at h
    obtain ⟨rfl, early, due, behind⟩ := h
    have last := dueAt_le length start c.progress.length
    refine ⟨rfl, early, ?_, Nat.min_le_left _ _, ?_⟩
    · rw [dueAt_succ early]
      exact Nat.le_min.mpr ⟨Nat.le_trans (Nat.min_le_left _ _) (Nat.add_le_add_right due _),
        Nat.min_le_right _ _⟩
    · -- The rest ends as long after the next line is due as it began after the one before, or earlier.
      rw [dueAt_succ early]
      generalize dueAt length start c.progress.length = before at behind last ⊢
      generalize progressInterval.nanos = second
      omega
  | counted at_ awake =>
    rw [at_] at h
    obtain ⟨rfl, early, due, soon, behind⟩ := h
    exact ⟨rfl, early, Nat.le_trans due awake, Nat.le_trans (Nat.le_max_left _ _) behind⟩
  | refused at_ off =>
    rw [at_] at h
    exact ⟨AtTime.length_le h, nofun⟩
  | @told start _ _ at_ =>
    rw [at_] at h
    obtain ⟨rfl, early, due, behind⟩ := h
    exact ⟨rfl, ⟨_, rfl, early⟩, behind, r.shared.now, ⟨⟨_, _, rfl, rfl⟩, due⟩, Nat.le_refl _,
      Nat.le_add_right _ _⟩
  | again at_ before =>
    rw [at_] at h
    obtain ⟨rfl, ⟨count, told, early⟩, behind, read, readAt, past, paused⟩ := h
    -- The time is not up, so what was due by now was not due at the end.
    have due := Nat.le_trans readAt.due past
    exact ⟨rfl, lt_of_dueAt_lt (Nat.lt_of_le_of_lt due before), due, behind⟩
  | @ended start _ at_ late =>
    rw [at_] at h
    obtain ⟨rfl, ⟨count, told, early⟩, behind, read, readAt, past, paused⟩ := h
    have most : c.progress.length ≤ lineCount length := told ▸ lt_lineCount early
    exact ⟨most, fun _ =>
      driven_of_checked (told ▸ Nat.succ_pos _) most behind readAt past paused late⟩

/-- So does a step of the controller. -/
theorem AtTime.advance {r : Rig} {c c' : Controller} (advance : Controller.Advance r c c')
    (some : 0 < c.config.duration.nanos)
    (h : AtTime slack c.config.duration r.shared.now c.progress c.stage) :
    AtTime slack c.config.duration r.shared.now c'.progress c'.stage := by
  cases advance with
  | prepared at_ on => exact (of_isEarly on).mpr ((of_isEarly at_).mp h)
  | launched at_ =>
    rw [at_] at h
    have none : c.progress = [] := h
    show AtTime _ _ _ c.progress _
    rw [none]
    have first : dueAt c.config.duration r.shared.now 0 = r.shared.now := by
      rw [dueAt, Nat.zero_mul, Nat.zero_min, Nat.add_zero]
    refine ⟨rfl, ?_, Nat.le_of_eq first, first.symm ▸ Nat.le_add_right _ _⟩
    rw [List.length_nil, Nat.zero_mul]
    exact some
  | turned turn => exact h.turn turn
  | stopped at_ | audited at_ | reported at_ | tallied at_ =>
    rw [at_] at h
    exact h
  | stamped at_ _ wrong =>
    rw [at_] at h
    exact ⟨h.1, fun sound => h.2 (wrong sound)⟩
  | closed at_ on _ wrong =>
    obtain ⟨late, idle⟩ := Controller.Stage.late_of_unread? at_
    obtain ⟨late', idle'⟩ := Controller.Stage.late_of_unread? on
    refine (of_driven late' idle').mpr ?_
    show _ ∧ (Controller.Stage.wrong? _ = none → _)
    rw [wrong]
    exact (of_driven late idle).mp h
  | failed at_ => exact ⟨h.length_le, nofun⟩

end AtTime

/-! ### The end of the loop -/

/-- The steps of the loop that are left, four for each line. -/
def togo (limit count : Nat) : Controller.Stage → Nat
  | .spawning | .polling _ | .asking .. | .examining .. | .counting .. | .callingOff .. | .ready
  | .starting | .launching => 4 * limit
  | .planning .. => 4 * (limit - count)
  | .resting .. => 4 * (limit - count) - 1
  | .reporting .. => 4 * (limit - count) - 2
  | .checking .. => 4 * (limit - count) + 1
  | _ => 0

theorem togo_of_isEarly {stage : Controller.Stage} (early : stage.isEarly = true) (limit count : Nat) :
    togo limit count stage = 4 * limit := by
  cases stage with
  | spawning | polling | asking | examining | counting | callingOff | ready | starting | launching => rfl
  | _ => cases early

theorem togo_of_driven {stage : Controller.Stage} (late : stage.isEarly = false)
    (idle : stage.isLooping = false) (limit count : Nat) : togo limit count stage = 0 := by
  cases stage with
  | spawning | polling | asking | examining | counting | callingOff | ready | starting | launching =>
    cases late
  | planning | resting | reporting | checking => cases idle
  | stopping | stamping | pausing | joining | retiring | awaiting | tallying | auditing | summarizing
  | finished => rfl

section

variable {slack : Slack} {length : Duration} {r : Rig} {c c' : Controller}

/-- A turn is a step of the loop less to go. -/
theorem togo_of_turn (turn : Controller.Turn r c c')
    (h : AtTime slack length r.shared.now c.progress c.stage) :
    togo (lineCount length) c'.progress.length c'.stage + 1 ≤
      togo (lineCount length) c.progress.length c.stage := by
  cases turn with
  | planned at_ | counted at_ | refused at_ | told at_ =>
    rw [at_] at h ⊢
    have few := lt_lineCount h.2.1
    simp only [togo, List.length_cons]
    omega
  | again at_ before =>
    rw [at_]
    exact Nat.le_refl _
  | ended at_ late =>
    rw [at_]
    exact Nat.le_add_left _ _

/-- No other step makes it more. -/
theorem togo_of_advance (advance : Controller.Advance r c c') (idle : c.stage.isLooping = false) :
    togo (lineCount length) c'.progress.length c'.stage ≤
      togo (lineCount length) c.progress.length c.stage := by
  cases advance with
  | prepared at_ on => rw [togo_of_isEarly at_, togo_of_isEarly on]
  | launched at_ =>
    rw [at_]
    exact Nat.mul_le_mul_left 4 (Nat.sub_le _ _)
  | turned turn =>
    cases turn with
    | planned at_ | counted at_ | refused at_ | told at_ | again at_ | ended at_ =>
      rw [at_] at idle
      cases idle
  | stopped | stamped | tallied | audited | reported | failed => exact Nat.zero_le _
  | closed at_ on =>
    obtain ⟨late, idle⟩ := Controller.Stage.late_of_unread? on
    rw [togo_of_driven late idle]
    exact Nat.zero_le _

end

section

variable {slack : Slack} {r r' : Run} {label : Label} {labels : List Label}

/-- What the clock and the lines of a run are. -/
def IsTimed (slack : Slack) (r : Run) : Prop :=
  AtTime slack r.controller.config.duration r.rig.shared.now r.controller.progress r.controller.stage

/-- The steps of the loop that are left to a run. -/
def left (r : Run) : Nat :=
  togo (lineCount r.controller.config.duration) r.controller.progress.length r.controller.stage

/-- A step keeps what holds, and if it is one of the loop there is one less to go. -/
theorem IsTimed.step (h : r.IsTimed slack) (long : 0 < r.controller.config.duration.nanos)
    (now : r.step label = some r') :
    r'.IsTimed (slack.after r label) ∧ r'.controller.config = r.controller.config ∧
      (if r.isTurn label then 1 else 0) + r'.left ≤ r.left := by
  have later := AtTime.pass label h
  cases label with
  | rig label =>
    obtain ⟨rig, moved, rfl⟩ := Option.map_eq_some_iff.mp now
    refine ⟨?_, rfl, Nat.le_of_eq (Nat.zero_add _)⟩
    show AtTime _ _ rig.shared.now _ _
    rw [Rig.now_of_step moved]
    exact later
  | controller =>
    obtain ⟨⟨rig, c⟩, moved, rfl⟩ := Option.map_eq_some_iff.mp now
    have advance := Controller.advance_of_step moved
    have config : c.config = r.controller.config := (Controller.move_of_step moved).config_eq
    refine ⟨?_, config, ?_⟩
    · show AtTime _ c.config.duration rig.shared.now c.progress c.stage
      rw [config, Controller.now_of_step moved]
      exact AtTime.advance advance long later
    · show (if r.controller.stage.isLooping then 1 else 0) +
        togo (lineCount c.config.duration) c.progress.length c.stage ≤ r.left
      rw [config]
      cases on : r.controller.stage.isLooping with
      | true =>
        rw [if_pos rfl, Nat.add_comm]
        exact togo_of_turn (Controller.turn_of_step on moved).2 h
      | false =>
        rw [if_neg (by decide), Nat.zero_add]
        exact togo_of_advance advance on

/-- **A run keeps its timetable, and its loop ends.**  Whatever time passes and whatever the tasks do, each
    line takes four steps. -/
theorem IsTimed.steps (h : r.IsTimed slack) (long : 0 < r.controller.config.duration.nanos)
    (done : r.steps labels = some r') :
    r'.IsTimed (r.slack slack labels) ∧ r'.controller.config = r.controller.config ∧
      r.turns labels + r'.left ≤ r.left := by
  induction labels generalizing r slack with
  | nil =>
    cases done
    exact ⟨h, rfl, Nat.le_of_eq (Nat.zero_add _)⟩
  | cons label labels ih =>
    obtain ⟨next, now, rest⟩ := Option.bind_eq_some_iff.mp done
    obtain ⟨timed, config, less⟩ := h.step long now
    obtain ⟨timed', config', less'⟩ := ih timed (config ▸ long) rest
    rw [slack_cons now, turns_cons now]
    exact ⟨timed', config'.trans config, by omega⟩

/-- The loop is held up by nothing but its rests, and they are short. -/
theorem IsTimed.exists_turn (h : r.IsTimed slack) (on : r.controller.stage.isLooping = true) :
    ∃ nanos ≤ progressInterval.nanos, ∃ r', r.steps [.rig (.pass nanos), .controller] = some r' := by
  have rested : ∃ nanos ≤ progressInterval.nanos, ∀ start deadline wake,
      r.controller.stage = .resting start deadline wake → wake ≤ r.rig.shared.now + nanos := by
    unfold IsTimed at h
    cases at_ : r.controller.stage with
    | resting start deadline wake =>
      rw [at_] at h
      obtain ⟨-, -, -, soon, -⟩ := h
      refine ⟨wake - r.rig.shared.now, by omega, ?_⟩
      rintro _ _ _ ⟨⟩
      omega
    | _ => exact ⟨0, Nat.zero_le _, nofun⟩
  obtain ⟨nanos, short, awake⟩ := rested
  refine ⟨nanos, short, ?_⟩
  obtain ⟨rig, c, moved⟩ := Controller.exists_turn on (r := { r.rig with
    shared := { r.rig.shared with now := r.rig.shared.now + nanos } }) awake
  refine ⟨⟨rig, c⟩, ?_⟩
  show (Option.map _ (Controller.step _ r.controller)).bind _ = _
  rw [moved]
  rfl

end

end Run

end LoadGen
