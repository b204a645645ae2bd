import LoadGen.Aggregator
import LoadGen.Proofs.Statistics.Tally
import LoadGen.Report

namespace LoadGen

/-!
# The books of an aggregator

The calls that any number of tasks make of one aggregator, in the order in which the lock and the counter
let them pass.

* `Aggregator.Call`, `Aggregator.Answer`, `Aggregator.call` — one call;
* `Aggregator.Move` — everything a call can do; `move_of_call` says that there is nothing else;
* `Aggregator.after`, `Aggregator.answered` — many calls, and those of them that were answered;
* `Aggregator.Books` — what the calls that were answered have left;
* `Aggregator.bookkeeping` — the books are right after any calls.
-/

namespace Aggregator

/-- A call of an aggregator. -/
inductive Call where
  /-- Adds a sample; `slot` is the draw for it. -/
  | append (sample : Sample) (slot : Nat)
  | recordDropped
  | finish (elapsed : Duration)
  | counts
  | elapsed
  | dropped
  | summarize
  deriving DecidableEq

/-- What a call is answered. -/
inductive Answer where
  | done
  /-- A run was stamped, and this is to be told of it. -/
  | stamped (notice : Option Notice)
  | counts (success error : Nat)
  | elapsed (elapsed : Option Duration)
  | dropped (samples : Nat)
  | summary (summary : LatencySummary)

/-- Carries out a call. -/
def call (a : Aggregator) : Call → Aggregator × Except (Failure RunError) Answer
  | .append sample slot => (a.append sample slot).map id (·.map fun _ => .done)
  | .recordDropped => (a.recordDropped, .ok .done)
  | .finish elapsed => (a.finish elapsed).map id (·.map .stamped)
  | .counts => a.counts.map id (·.map fun counts => .counts counts.1 counts.2)
  | .elapsed => a.elapsed.map id (·.map .elapsed)
  | .dropped => (a, .ok (.dropped a.dropped))
  | .summarize => a.summarize.map id (·.map .summary)

/-- The aggregator after some calls. -/
def after (a : Aggregator) (calls : List Call) : Aggregator :=
  calls.foldl (fun a call => (a.call call).1) a

/-- Those of some calls that are answered, neither refused nor broken off. -/
def answered (a : Aggregator) : List Call → List Call
  | [] => []
  | call :: calls =>
    (if (a.call call).2.isOk then [call] else []) ++ answered (a.call call).1 calls

namespace Call

/-- Whether a call only asks. -/
def isRead : Call → Bool
  | .counts | .elapsed | .dropped | .summarize => true
  | _ => false

/-- The sample that a call adds. -/
def sample? : Call → Option Sample
  | .append sample _ => some sample
  | _ => none

/-- The time that a call stamps. -/
def stamp? : Call → Option Duration
  | .finish time => some time
  | _ => none

end Call

/-- The samples that calls add. -/
def samples (calls : List Call) : List Sample := calls.filterMap Call.sample?

/-- The times that calls stamp. -/
def stamps (calls : List Call) : List Duration := calls.filterMap Call.stamp?

/-! ### What a call can do -/

/-- A call, with what it leaves and what it is answered. -/
inductive Move (a : Aggregator) :
    Call → Aggregator → Except (Failure RunError) Answer → Prop where
  | refused {call : Call} (off : a.spoiled = true) (locked : call ≠ .recordDropped) :
      Move a call a (.error (.refused .poisoned))
  | broken {call : Call} {fault : Fault} (sound : a.spoiled = false)
      (why : (∃ sample slot, call = .append sample slot ∧
          a.tally.append sample slot = .error fault) ∨
        call = .summarize ∧ a.tally.summarize = .error fault) :
      Move a call { a with spoiled := true } (.error (.broken fault))
  | appended {sample : Sample} {slot : Nat} {tally : Tally} (sound : a.spoiled = false)
      (fine : a.tally.append sample slot = .ok tally) :
      Move a (.append sample slot) { a with tally } (.ok .done)
  | lost : Move a .recordDropped a.recordDropped (.ok .done)
  | finished (elapsed : Duration) (sound : a.spoiled = false) :
      Move a (.finish elapsed) { a with tally := (a.tally.finish elapsed).1 }
        (.ok (.stamped (a.tally.finish elapsed).2))
  | counted (sound : a.spoiled = false) :
      Move a .counts a (.ok (.counts a.tally.success a.tally.error))
  | timed (sound : a.spoiled = false) : Move a .elapsed a (.ok (.elapsed a.tally.elapsed))
  | told : Move a .dropped a (.ok (.dropped a.dropped))
  | summarized {summary : LatencySummary} (sound : a.spoiled = false)
      (fine : a.tally.summarize = .ok summary) : Move a .summarize a (.ok (.summary summary))

theorem under_of_spoiled {α : Type} {a : Aggregator} (off : a.spoiled = true)
    (step : Tally → Except Fault (Tally × α)) : a.under step = (a, refuse .poisoned) := by
  unfold under
  rw [off]
  rfl

theorem under_of_sound {α : Type} {a : Aggregator} (sound : a.spoiled = false)
    (step : Tally → Except Fault (Tally × α)) : a.under step = match step a.tally with
      | .ok (tally, answer) => ({ a with tally }, .ok answer)
      | .error fault => ({ a with spoiled := true }, .error (.broken fault)) := by
  unfold under
  rw [sound]
  rfl

/-- **A call does what one of the moves says.** -/
theorem move_of_call (a : Aggregator) (call : Call) : Move a call (a.call call).1 (a.call call).2 := by
  cases off : a.spoiled with
  | true =>
    cases call with
    | recordDropped => exact .lost
    | dropped => exact .told
    | append | finish | counts | elapsed | summarize =>
      simp only [Aggregator.call, append, finish, counts, elapsed, summarize, under_of_spoiled off]
      exact .refused off (by simp)
  | false =>
    cases call with
    | recordDropped => exact .lost
    | dropped => exact .told
    | counts =>
      rw [Aggregator.call, counts_of_not_spoiled off]
      exact .counted off
    | elapsed =>
      rw [Aggregator.call, elapsed_of_not_spoiled off]
      exact .timed off
    | finish elapsed =>
      simp only [Aggregator.call, finish, under_of_sound off]
      exact .finished elapsed off
    | append sample slot =>
      simp only [Aggregator.call, append, under_of_sound off]
      cases fine : a.tally.append sample slot with
      | ok tally => exact .appended off fine
      | error fault => exact .broken off (.inl ⟨sample, slot, rfl, fine⟩)
    | summarize =>
      simp only [Aggregator.call, summarize, under_of_sound off]
      cases fine : a.tally.summarize with
      | ok summary => exact .summarized off fine
      | error fault => exact .broken off (.inr ⟨rfl, fine⟩)

theorem answered_cons (a : Aggregator) (call : Call) (calls : List Call) :
    a.answered (call :: calls) =
      (if (a.call call).2.isOk then [call] else []) ++ (a.call call).1.answered calls := rfl

theorem after_cons (a : Aggregator) (call : Call) (calls : List Call) :
    a.after (call :: calls) = (a.call call).1.after calls := rfl

theorem samples_append (calls more : List Call) :
    samples (calls ++ more) = samples calls ++ samples more := List.filterMap_append

theorem stamps_append (calls more : List Call) :
    stamps (calls ++ more) = stamps calls ++ stamps more := List.filterMap_append

theorem length_samples_le (calls : List Call) : (samples calls).length ≤ calls.length :=
  List.length_filterMap_le _ _

theorem answered_sublist (a : Aggregator) (calls : List Call) : (a.answered calls).Sublist calls := by
  induction calls generalizing a with
  | nil => exact .slnil
  | cons call calls ih =>
    rw [answered_cons]
    by_cases fine : (a.call call).2.isOk = true
    · rw [if_pos fine]
      exact (ih _).cons_cons call
    · rw [if_neg fine]
      exact (ih _).cons call

/-- Counting a lost sample is never refused. -/
theorem count_answered (a : Aggregator) (calls : List Call) :
    (a.answered calls).count .recordDropped = calls.count .recordDropped := by
  induction calls generalizing a with
  | nil => rfl
  | cons call calls ih =>
    rw [answered_cons, List.count_append, ih, List.count_cons, Nat.add_comm]
    congr 1
    by_cases lost : call = .recordDropped
    · subst lost
      rfl
    · have other : (call == .recordDropped) = false := beq_eq_false_iff_ne.mpr lost
      rw [other]
      by_cases fine : (a.call call).2.isOk = true
      · rw [if_pos fine, List.count_singleton, other]
      · rw [if_neg fine]
        rfl

/-! ### Books -/

/-- What the calls that were answered have left of an aggregator of a requested capacity. -/
structure Books (capacity : Nat) (done : List Call) (a : Aggregator) : Prop where
  tally : a.tally.IsOf capacity (samples done)
  elapsed_eq : a.tally.elapsed = (stamps done).head?
  dropped_eq : a.dropped = done.count .recordDropped

namespace Books

variable {capacity : Nat} {done : List Call} {a a' : Aggregator} {call : Call}

theorem empty (capacity : Nat) : Books capacity [] (empty capacity) where
  tally := Tally.isOf_empty capacity
  elapsed_eq := rfl
  dropped_eq := rfl

/-- A call is entered as what it adds, stamps and drops. -/
theorem enter (call : Call) (tally : a.tally.IsOf capacity (samples done ++ samples [call]))
    (elapsed : a.tally.elapsed = (stamps done ++ stamps [call]).head?)
    (dropped : a.dropped = done.count .recordDropped + [call].count .recordDropped) :
    Books capacity (done ++ [call]) a where
  tally := by
    rw [samples_append]
    exact tally
  elapsed_eq := by
    rw [stamps_append]
    exact elapsed
  dropped_eq := by
    rw [List.count_append]
    exact dropped

/-- A call that only asks adds, stamps and drops nothing. -/
theorem read (h : Books capacity done a) (asks : call.isRead = true) :
    Books capacity (done ++ [call]) a := by
  have tally : samples done ++ [] = samples done := List.append_nil _
  have elapsed : stamps done ++ [] = stamps done := List.append_nil _
  cases call with
  | append | recordDropped | finish => cases asks
  | counts | elapsed | dropped | summarize =>
    exact .enter _ (tally.symm ▸ h.tally) (elapsed.symm ▸ h.elapsed_eq) h.dropped_eq

/-- A call that is answered is entered. -/
theorem move {answer : Except (Failure RunError) Answer} (h : Books capacity done a)
    (move : Move a call a' answer) :
    Books capacity (done ++ if answer.isOk then [call] else []) a' := by
  cases move with
  | refused off locked =>
    show Books capacity (done ++ []) a
    rw [List.append_nil]
    exact h
  | broken sound why =>
    show Books capacity (done ++ []) _
    rw [List.append_nil]
    exact ⟨h.tally, h.elapsed_eq, h.dropped_eq⟩
  | appended sound fine =>
    refine .enter _ (h.tally.append fine) ?_ h.dropped_eq
    rw [show stamps [_] = [] from rfl, List.append_nil, ← h.elapsed_eq]
    exact (Tally.append_eq_ok fine).2.2
  | lost =>
    refine .enter _ ?_ ?_ ?_
    · rw [show samples [_] = [] from rfl, List.append_nil]
      exact h.tally
    · rw [show stamps [_] = [] from rfl, List.append_nil]
      exact h.elapsed_eq
    · exact congrArg (· + 1) h.dropped_eq
  | finished elapsed sound =>
    refine .enter _ ?_ ?_ h.dropped_eq
    · rw [show samples [_] = [] from rfl, List.append_nil]
      exact h.tally.finish elapsed
    · -- Only the first stamp counts.
      rw [show stamps [_] = [elapsed] from rfl, List.head?_append, ← h.elapsed_eq]
      show (a.tally.finish elapsed).1.elapsed = _
      unfold Tally.finish
      cases first : a.tally.elapsed with
      | none => rfl
      | some _ => exact first
  | counted sound | timed sound | told | summarized sound fine => exact h.read rfl

/-- Whatever is called, those calls that are answered are entered. -/
theorem after (h : Books capacity done a) (calls : List Call) :
    Books capacity (done ++ a.answered calls) (a.after calls) := by
  induction calls generalizing done a with
  | nil =>
    show Books capacity (done ++ []) a
    rw [List.append_nil]
    exact h
  | cons call calls ih =>
    rw [answered_cons, after_cons, ← List.append_assoc]
    exact ih (h.move (move_of_call a call))

end Books

/-! ### Which calls are answered -/

section

variable {capacity : Nat} {done calls : List Call} {a : Aggregator}

/-- A summary is the only call that can break off before the counts leave their words. -/
theorem Books.answers (h : Books capacity done a) (sound : a.spoiled = false) (call : Call)
    (few : (samples (done ++ [call])).length < wordCount) :
    ((a.call call).2.isOk = true ∧ (a.call call).1.spoiled = false) ∨
      call = .summarize ∧ ∃ fault, (a.call call).2 = .error (.broken fault) := by
  have move := move_of_call a call
  generalize (a.call call).1 = a', (a.call call).2 = answer at move ⊢
  cases move with
  | refused off locked =>
    rw [sound] at off
    cases off
  | @broken _ fault _ why =>
    rcases why with ⟨sample, slot, rfl, breaks⟩ | ⟨rfl, breaks⟩
    · have few' : (samples done).length + 1 < wordCount := by
        rw [samples_append, List.length_append] at few
        exact few
      obtain ⟨tally, fine⟩ := h.tally.exists_append_eq_ok few' sample slot
      rw [breaks] at fine
      cases fine
    · exact .inr ⟨rfl, fault, rfl⟩
  | appended | lost | finished | counted | timed | told | summarized => exact .inl ⟨rfl, sound⟩

/-- All calls are answered, or a summary among them breaks off. -/
theorem Books.answered_cases (h : Books capacity done a) (sound : a.spoiled = false)
    (few : (samples (done ++ calls)).length < wordCount) :
    a.answered calls = calls ∨ ∃ before after fault, calls = before ++ .summarize :: after ∧
      ((a.after before).call .summarize).2 = .error (.broken fault) := by
  induction calls generalizing done a with
  | nil => exact .inl rfl
  | cons call calls ih =>
    rw [List.append_cons] at few
    have first : (samples (done ++ [call])).length < wordCount := by
      rw [samples_append (done ++ [call]), List.length_append] at few
      omega
    rcases h.answers sound call first with ⟨fine, sound'⟩ | ⟨rfl, fault, breaks⟩
    · have books := h.move (move_of_call a call)
      rw [if_pos fine] at books
      rw [answered_cons, if_pos fine]
      rcases ih books sound' few with all | ⟨before, rest, fault, rfl, breaks⟩
      · rw [all]
        exact .inl rfl
      · exact .inr ⟨call :: before, rest, fault, rfl, breaks⟩
    · exact .inr ⟨[], calls, fault, rfl, breaks⟩

/-- No summary breaks off if as many of the longest latencies as are held add up to a 128-bit word. -/
theorem Books.summary_answers (h : Books capacity done a)
    (room : min (max capacity 1) (samples done).length * durationLimit ≤ doubleWordCount)
    (fault : Fault) :
    (a.call .summarize).2 ≠ .error (.broken fault) := by
  intro breaks
  have move := move_of_call a .summarize
  rw [breaks] at move
  generalize (a.call .summarize).1 = a' at move
  cases move with
  | broken sound why =>
    rcases why with ⟨sample, slot, other, -⟩ | ⟨-, broke⟩
    · cases other
    · obtain ⟨summary, fine⟩ := h.tally.exists_summarize_of_held room
      rw [broke] at fine
      cases fine

/-! ### Asking changes nothing -/

/-- What a call that only asks is answered by an aggregator as it is. -/
inductive Shows (a : Aggregator) : Call → Answer → Prop where
  | counts : Shows a .counts (.counts a.tally.success a.tally.error)
  | elapsed : Shows a .elapsed (.elapsed a.tally.elapsed)
  | dropped : Shows a .dropped (.dropped a.dropped)
  | summary {summary : LatencySummary} (fine : a.tally.summarize = .ok summary) :
      Shows a .summarize (.summary summary)

theorem shows_of_read {call : Call} {answer : Answer} (asks : call.isRead = true)
    (fine : (a.call call).2 = .ok answer) : (a.call call).1 = a ∧ a.Shows call answer := by
  have move := move_of_call a call
  rw [fine] at move
  generalize (a.call call).1 = a' at move ⊢
  cases move with
  | appended | lost | finished => cases asks
  | counted => exact ⟨rfl, .counts⟩
  | timed => exact ⟨rfl, .elapsed⟩
  | told => exact ⟨rfl, .dropped⟩
  | summarized sound summary => exact ⟨rfl, .summary summary⟩

/-- A call that adds no sample leaves the tally one of the samples that it has. -/
theorem isOf_of_call {samples : List Sample} {call : Call} (h : a.tally.IsOf capacity samples)
    (adds : call.sample? = none) : (a.call call).1.tally.IsOf capacity samples := by
  have move := move_of_call a call
  generalize (a.call call).1 = a', (a.call call).2 = answer at move ⊢
  cases move with
  | appended => cases adds
  | finished elapsed => exact h.finish elapsed
  | refused | broken | lost | counted | timed | told | summarized => exact h

/-- A call that adds no sample leaves the reservoir and the lock, if the reservoir has a summary. -/
theorem reservoir_of_call {call : Call} {summary : LatencySummary} (adds : call.sample? = none)
    (sound : a.spoiled = false) (fine : a.tally.summarize = .ok summary) :
    (a.call call).1.spoiled = false ∧ (a.call call).1.tally.reservoir = a.tally.reservoir := by
  have move := move_of_call a call
  generalize (a.call call).1 = a', (a.call call).2 = answer at move ⊢
  cases move with
  | refused off locked =>
    rw [sound] at off
    cases off
  | broken _ why =>
    rcases why with ⟨sample, slot, rfl, -⟩ | ⟨-, breaks⟩
    · cases adds
    · rw [fine] at breaks
      cases breaks
  | appended => cases adds
  | finished elapsed =>
    refine ⟨sound, ?_⟩
    show (a.tally.finish elapsed).1.reservoir = a.tally.reservoir
    unfold Tally.finish
    split <;> rfl
  | lost | counted | timed | told | summarized => exact ⟨sound, rfl⟩

theorem call_summarize {answer : Answer} : (a.call .summarize).2 = .ok answer ↔
    a.spoiled = false ∧ ∃ summary, a.tally.summarize = .ok summary ∧ answer = .summary summary := by
  constructor
  · intro fine
    have move := move_of_call a .summarize
    rw [fine] at move
    generalize (a.call .summarize).1 = a' at move
    cases move with
    | summarized sound summary => exact ⟨sound, _, summary, rfl⟩
  · rintro ⟨sound, summary, fine, rfl⟩
    simp only [Aggregator.call, summarize, under_of_sound sound, fine]
    rfl

/-- Two summaries are equal if no sample was added between them. -/
theorem summary_kept {answer : Answer} {between : List Call}
    (adds : ∀ call ∈ between, call.sample? = none) (first : (a.call .summarize).2 = .ok answer) :
    ((a.after between).call .summarize).2 = .ok answer := by
  induction between generalizing a with
  | nil => exact first
  | cons call between ih =>
    obtain ⟨sound, summary, fine, rfl⟩ := call_summarize.mp first
    obtain ⟨sound', same⟩ := reservoir_of_call (adds call List.mem_cons_self) sound fine
    rw [after_cons]
    refine ih (fun call mem => adds call (List.mem_cons_of_mem _ mem)) ?_
    refine call_summarize.mpr ⟨sound', summary, ?_, rfl⟩
    unfold Tally.summarize at fine ⊢
    rw [same, fine]

/-! ### Lost samples -/

/-- An aggregator but for its count of lost samples. -/
def withDropped (a : Aggregator) (dropped : Nat) : Aggregator := { a with dropped }

theorem under_withDropped {α : Type} (a : Aggregator) (dropped : Nat)
    (step : Tally → Except Fault (Tally × α)) :
    ((a.withDropped dropped).under step).1 = (a.under step).1.withDropped dropped := by
  cases off : a.spoiled with
  | true =>
    have off' : (a.withDropped dropped).spoiled = true := off
    rw [under_of_spoiled off, under_of_spoiled off']
  | false =>
    have sound' : (a.withDropped dropped).spoiled = false := off
    rw [under_of_sound off, under_of_sound sound']
    show (match step a.tally with
      | .ok (tally, answer) => _
      | .error fault => _ : Aggregator × Except (Failure RunError) α).1 = _
    cases step a.tally <;> rfl

/-- No other call looks at the count of lost samples. -/
theorem call_withDropped (a : Aggregator) (dropped : Nat) {call : Call}
    (other : call ≠ .recordDropped) :
    ((a.withDropped dropped).call call).1 = (a.call call).1.withDropped dropped := by
  cases call with
  | recordDropped => exact absurd rfl other
  | dropped => rfl
  | append | finish | counts | elapsed | summarize =>
    simp only [Aggregator.call, append, finish, counts, elapsed, summarize, Prod.map_fst, id_eq,
      under_withDropped]

/-- Without the calls that count lost samples, all else is the same. -/
theorem after_withDropped (a : Aggregator) (dropped : Nat) (calls : List Call) :
    (a.withDropped dropped).after (calls.filter (· ≠ .recordDropped)) =
      (a.after calls).withDropped dropped := by
  induction calls generalizing a with
  | nil => rfl
  | cons call calls ih =>
    by_cases lost : call = .recordDropped
    · subst lost
      exact ih a.recordDropped
    · have kept : (call :: calls).filter (· ≠ .recordDropped) =
          call :: calls.filter (· ≠ .recordDropped) :=
        List.filter_cons_of_pos (decide_eq_true lost)
      rw [kept, after_cons, after_cons, call_withDropped a dropped lost]
      exact ih _

end

/-- **Aggregators keep their books.**  Whatever is called, and in whatever order the tasks come: the counts
    are those of the samples that were added, and make up what the reservoir has seen, so that the total
    of a report of them is a word; the reservoir holds as many latencies of both verdicts together as it
    can; lost samples are counted apart from all else; the time of the run is the first that was stamped;
    and a call that only asks changes nothing, so that summaries are equal if no sample was added between
    them.  All calls are answered unless a summary breaks off, and none does if a reservoir full of the
    longest latencies adds up to a 128-bit word. -/
theorem bookkeeping (capacity : Nat) (calls : List Call) (few : calls.length < wordCount) :
    let a := (empty capacity).after calls
    let done := (empty capacity).answered calls
    (a.tally.success = (latenciesOf .success (samples done)).length ∧
      a.tally.error = (latenciesOf .error (samples done)).length) ∧
    (a.tally.success + a.tally.error = a.tally.reservoir.seen ∧
      ∀ report : RunReport, report.success ≤ a.tally.success → report.error ≤ a.tally.error →
        report.total = .ok (report.success + report.error)) ∧
    (a.tally.reservoir.values.size = min (max capacity 1) (a.tally.success + a.tally.error) ∧
      a.tally.reservoir.values.toList.Subperm ((samples done).map Sample.latency)) ∧
    (a.dropped = calls.count .recordDropped ∧
      (empty capacity).after (calls.filter (· ≠ .recordDropped)) = a.withDropped 0) ∧
    a.tally.elapsed = (stamps done).head? ∧
    (∀ call answer, call.isRead = true → (a.call call).2 = .ok answer →
      (a.call call).1 = a ∧ a.Shows call answer) ∧
    (∀ between answer, (∀ call ∈ between, call.sample? = none) →
      (a.call .summarize).2 = .ok answer → ((a.after between).call .summarize).2 = .ok answer) ∧
    (done = calls ∨ ∃ before rest fault, calls = before ++ .summarize :: rest ∧
      (((empty capacity).after before).call .summarize).2 = .error (.broken fault)) ∧
    (max capacity 1 * durationLimit ≤ doubleWordCount → done = calls) := by
  intro a done
  have books : Books capacity done a := (Books.empty capacity).after calls
  have fewer : (samples done).length ≤ calls.length :=
    Nat.le_trans (length_samples_le done) ((empty capacity).answered_sublist calls).length_le
  have count : a.tally.success + a.tally.error = (samples done).length := books.tally.counts_eq
  have all : done = calls ∨ ∃ before rest fault, calls = before ++ .summarize :: rest ∧
      (((empty capacity).after before).call .summarize).2 = .error (.broken fault) := by
    exact (Books.empty capacity).answered_cases rfl (Nat.lt_of_le_of_lt (length_samples_le calls) few)
  refine ⟨⟨books.tally.counted_eq .success, books.tally.counted_eq .error⟩, ⟨?_, ?_⟩, ⟨?_, ?_⟩,
    ⟨?_, after_withDropped (empty capacity) 0 calls⟩, books.elapsed_eq, fun _ _ => shows_of_read,
    fun _ _ => summary_kept, all, ?_⟩
  · rw [count, books.tally.seen_eq]
  · intro report success error
    exact addWord_eq_ok_iff.mpr ⟨by omega, rfl⟩
  · rw [books.tally.holds.size_eq, books.tally.holds.capacity_eq, List.length_map, count]
  · exact books.tally.holds.kept
  · rw [books.dropped_eq]
    exact count_answered _ _
  · intro room
    rcases all with all | ⟨before, rest, fault, -, breaks⟩
    · exact all
    · exact absurd breaks (((Books.empty capacity).after before).summary_answers
        (Tally.room_of_held room) fault)

/-- Three samples, one of which replaces another, a lost one and two stamps. -/
def mixedCalls : List Call :=
  [.append ⟨.clamped 5, .success⟩ 0, .recordDropped, .append ⟨.clamped 9, .error⟩ 0, .counts,
    .finish (.clamped 100), .append ⟨.clamped 7, .success⟩ 1, .elapsed, .finish (.clamped 200)]

theorem bookkeeping_mixedCalls :
    (((empty 2).after mixedCalls).tally.success = 2 ∧ ((empty 2).after mixedCalls).tally.error = 1) ∧
      ((empty 2).after mixedCalls).tally.reservoir.seen = 3 ∧
      ((empty 2).after mixedCalls).tally.reservoir.values.size = 2 ∧
      ((empty 2).after mixedCalls).dropped = 1 ∧
      ((empty 2).after mixedCalls).tally.elapsed = some (.clamped 100) ∧
      ({ success := 2, error := 1, dropped := 1, elapsed := .clamped 100, latency := .zero } :
        RunReport).total = .ok 3 ∧
      (((empty 2).after mixedCalls).call .elapsed).1 = (empty 2).after mixedCalls ∧
      ∃ answer, (((empty 2).after mixedCalls).call .summarize).2 = .ok answer ∧
        ((((empty 2).after mixedCalls).after [.recordDropped, .counts]).call .summarize).2 =
          .ok answer := by
  obtain ⟨⟨success, error⟩, ⟨seen, total⟩, ⟨size, -⟩, ⟨dropped, -⟩, elapsed, reads, kept, -, all⟩ :=
    bookkeeping 2 mixedCalls (by decide)
  rw [all (by decide)] at success error elapsed
  rw [success, error] at seen size total
  obtain ⟨summary, fine⟩ :=
    ((Books.empty 2).after mixedCalls).tally.exists_summarize_eq_ok (by decide)
  have first : (((empty 2).after mixedCalls).call .summarize).2 = .ok (.summary summary) :=
    call_summarize.mpr ⟨rfl, summary, fine, rfl⟩
  exact ⟨⟨success, error⟩, seen.symm, size, dropped, elapsed, total _ (by decide) (by decide),
    (reads .elapsed _ rfl rfl).1, .summary summary, first,
    kept [.recordDropped, .counts] _ (by decide) first⟩

end Aggregator

end LoadGen
