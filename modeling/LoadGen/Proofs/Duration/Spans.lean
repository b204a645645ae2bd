import LoadGen.Duration.Reader

namespace LoadGen.Duration

/-!
# Texts of durations as spans

A text with units is a sequence of spans, of some seconds and some nanoseconds each, that are added up
from left to right.  A text that is refused has the spans that are added before its refusal.

* `addSpan_eq_ok_iff`, `addSpan_eq_broken_iff` — what comes of adding one span;
* `Spans` — a sequence of spans, and `Spans.ofText`, the sequence of a text;
* `read_eq` — reading numbers with units adds up the spans of the text;
* `Brims` — the texts whose spans fill all `2 ^ 64` seconds, the last of them by a whole second of
  nanoseconds;
* `ofText_eq_broken_iff` — reading breaks off at these texts and no others.
-/

open LoadGen.Text

variable {sum total : Duration} {secs nanos : Nat} {fault : Fault}

/-! ### Adding a span -/

theorem lift_word?_bind {α : Type} (n : Nat) (next : Nat → Except (Failure ReadError) α) :
    (Failure.lift (word? n) >>= next) =
      if n < wordCount then next n else refuse .unrepresentable := by
  unfold word?
  split <;> rfl

/-- The seconds that are carried by words. -/
def carried (nanos : Nat) : Nat := if nanosPerSec < nanos then nanos / nanosPerSec else 0

theorem carried_mul_add (nanos : Nat) :
    carried nanos * nanosPerSec + (if nanosPerSec < nanos then nanos % nanosPerSec else nanos) =
      nanos := by
  unfold carried
  split
  · exact Nat.div_add_mod' nanos nanosPerSec
  · exact Nat.zero_add nanos

/-- A span is refused if a word leaves its range.  Otherwise all of it is added. -/
theorem addSpan_eq (sum : Duration) (secs nanos : Nat) :
    addSpan sum secs nanos =
      if sum.subsec + nanos < wordCount ∧
          sum.secs + (secs + carried (sum.subsec + nanos)) < wordCount then
        Fault.lift (ofNanos? (sum.nanos + (secs * nanosPerSec + nanos)))
      else refuse .unrepresentable := by
  have carry : (if nanosPerSec < sum.subsec + nanos then
      secs + (sum.subsec + nanos) / nanosPerSec else secs) = secs + carried (sum.subsec + nanos) := by
    unfold carried
    split <;> rfl
  -- What is carried and what is left are all of the nanoseconds.
  have kept : (sum.secs + (secs + carried (sum.subsec + nanos))) * nanosPerSec +
      (if nanosPerSec < sum.subsec + nanos then (sum.subsec + nanos) % nanosPerSec
        else sum.subsec + nanos) = sum.nanos + (secs * nanosPerSec + nanos) := by
    have parts := sum.secs_mul_add_subsec
    have surplus := carried_mul_add (sum.subsec + nanos)
    grind
  unfold addSpan
  simp only [lift_word?_bind, carry, ofParts, kept]
  by_cases room : sum.secs + (secs + carried (sum.subsec + nanos)) < wordCount
  · have fits : secs + carried (sum.subsec + nanos) < wordCount := by omega
    simp only [if_pos fits, room, and_true, if_true]
  · simp only [room, ite_self, and_false, if_false]

theorem lift_ofNanos?_eq_ok_iff {ε : Type} {n : Nat} :
    (Fault.lift (ofNanos? n) : Except (Failure ε) Duration) = .ok total ↔ total.nanos = n := by
  unfold ofNanos?
  split
  · rw [Fault.lift, Except.ok.injEq, Duration.ext_iff, eq_comm]
  · have := total.nanos_lt
    simp only [Fault.lift, reduceCtorEq, false_iff]
    omega

theorem lift_ofNanos?_eq_broken_iff {ε : Type} {n : Nat} :
    (Fault.lift (ofNanos? n) : Except (Failure ε) Duration) = .error (.broken fault) ↔
      fault = .durationOverflow ∧ durationLimit ≤ n := by
  unfold ofNanos?
  split
  · simp only [Fault.lift, reduceCtorEq, false_iff]
    omega
  · simp only [Fault.lift, Except.error.injEq, Failure.broken.injEq, eq_comm (b := fault),
      Nat.not_lt.mp ‹_›, and_true]

/-- Whether no word leaves its range when a span is added. -/
theorem words_fit_iff (sum : Duration) (secs nanos : Nat) :
    sum.secs + (secs + carried (sum.subsec + nanos)) < wordCount ↔
      sum.nanos + (secs * nanosPerSec + nanos) < durationLimit ∨
        sum.subsec + nanos = nanosPerSec ∧ sum.nanos + (secs * nanosPerSec + nanos) = durationLimit := by
  have parts := sum.secs_mul_add_subsec
  have surplus := carried_mul_add (sum.subsec + nanos)
  have left : nanosPerSec < sum.subsec + nanos → (sum.subsec + nanos) % nanosPerSec < nanosPerSec :=
    fun _ => Nat.mod_lt _ (by decide)
  unfold durationLimit wordCount nanosPerSec at *
  -- Less than a second is left, unless exactly one second is, which is never carried.
  split at surplus <;> omega

/-- A span that is added is added exactly. -/
theorem addSpan_eq_ok_iff : addSpan sum secs nanos = .ok total ↔
    sum.subsec + nanos < wordCount ∧ total.nanos = sum.nanos + (secs * nanosPerSec + nanos) := by
  have bound := total.nanos_lt
  have words := words_fit_iff sum secs nanos
  rw [addSpan_eq]
  split
  · rename_i fits
    simp only [lift_ofNanos?_eq_ok_iff, fits.1, true_and]
  · simp only [refuse, reduceCtorEq, false_iff]
    omega

/-- Adding breaks off if it brings the nanoseconds to a whole second, which is not carried by words, and
    with it the sum to all seconds of a word. -/
theorem addSpan_eq_broken_iff : addSpan sum secs nanos = .error (.broken fault) ↔
    fault = .durationOverflow ∧ sum.subsec + nanos = nanosPerSec ∧
      sum.nanos + (secs * nanosPerSec + nanos) = durationLimit := by
  have words := words_fit_iff sum secs nanos
  rw [addSpan_eq]
  split
  · rename_i fits
    rw [lift_ofNanos?_eq_broken_iff]
    refine and_congr_right fun _ => ?_
    have room := words.mp fits.2
    omega
  · rename_i unfit
    simp only [refuse, reduceCtorEq, Except.error.injEq, false_iff]
    rintro ⟨-, whole, full⟩
    have small : sum.subsec + nanos < wordCount := whole ▸ by decide
    exact unfit ⟨small, words.mpr (.inr ⟨whole, full⟩)⟩

/-! ### Sequences of spans -/

/-- The spans that are added one after another, up to a refusal. -/
inductive Spans where
  | finished
  | refused (error : ReadError)
  | add (secs nanos : Nat) (rest : Spans)

namespace Spans

/-- Adds all spans to a sum. -/
def addUp : Spans → Duration → Except (Failure ReadError) Duration
  | finished, sum => .ok sum
  | refused error, _ => refuse error
  | add secs nanos rest, sum => addSpan sum secs nanos >>= rest.addUp

/-- Spans followed by others, unless they are refused. -/
def append : Spans → Spans → Spans
  | finished, more => more
  | refused error, _ => refused error
  | add secs nanos rest, more => add secs nanos (rest.append more)

theorem addUp_append (first more : Spans) (sum : Duration) :
    (first.append more).addUp sum = first.addUp sum >>= more.addUp := by
  induction first generalizing sum with
  | finished => rfl
  | refused error => rfl
  | add secs nanos rest ih =>
    show (addSpan sum secs nanos >>= (rest.append more).addUp) =
      (addSpan sum secs nanos >>= rest.addUp) >>= more.addUp
    rw [bind_assoc]
    exact bind_congr ih

/-- The span that is read, or its refusal. -/
def ofSpan : Except ReadError (Nat × Nat) → Spans
  | .ok (secs, nanos) => add secs nanos finished
  | .error error => refused error

theorem addUp_ofSpan (span : Except ReadError (Nat × Nat)) (sum : Duration) :
    (ofSpan span).addUp sum = Failure.lift span >>= fun (secs, nanos) => addSpan sum secs nanos := by
  cases span with
  | error error => rfl
  | ok span =>
    show (addSpan sum span.1 span.2 >>= Except.ok) = addSpan sum span.1 span.2
    exact bind_pure _

/-- The spans of a number with the unit named by `word`. -/
def ofNumber (count : Nat) (fraction : Option Fraction) (word : String) : Spans :=
  if word.isEmpty then refused (.unitNeeded count)
  else match TimeUnit.ofWord? word with
    | none => refused (.unknownUnit word)
    | some u =>
      (ofSpan (wholeSpan count u)).append (fraction.elim finished fun f => ofSpan (fractionSpan f u))

theorem addNumber_eq (sum : Duration) (count : Nat) (fraction : Option Fraction) (word : String) :
    addNumber sum count fraction word = (ofNumber count fraction word).addUp sum := by
  unfold addNumber ofNumber
  split
  · rfl
  · cases TimeUnit.ofWord? word with
    | none => rfl
    | some u =>
      show _ = ((ofSpan _).append _).addUp sum
      rw [addUp_append, addUp_ofSpan, bind_assoc]
      refine bind_congr fun (secs, nanos) => bind_congr fun sum => ?_
      cases fraction with
      | none => rfl
      | some f => exact (addUp_ofSpan _ sum).symm

/-- The spans of the number that the character `c` ends, if it ends one. -/
def ofEnded (c : Char) : Scan → Spans
  | .unit count f letters => if endsUnit c then ofNumber count f (unitName letters) else finished
  | _ => finished

theorem settle_eq (sum : Duration) (c : Char) (s : Scan) :
    s.settle sum c = (ofEnded c s).addUp sum := by
  cases s with
  | gap | whole | fraction => rfl
  | unit count f letters =>
    show ite _ _ _ = addUp (ite _ _ _) sum
    split
    · exact addNumber_eq sum count f _
    · rfl

/-- The spans at the end of a text. -/
def ofEnd (blank : Bool) : Scan → Spans
  | .gap _ => if blank then refused .empty else finished
  | .whole count => ofNumber count none ""
  | .fraction count f behind =>
    if f.denominator == 1 then refused (.invalidCharacter behind) else ofNumber count (some f) ""
  | .unit count f letters => ofNumber count f (unitName letters)

theorem finish_eq (sum : Duration) (blank : Bool) (s : Scan) :
    finish sum blank s = (ofEnd blank s).addUp sum := by
  cases s with
  | gap start =>
    show ite _ _ _ = addUp (ite _ _ _) sum
    split <;> rfl
  | whole count => exact addNumber_eq sum count none _
  | fraction count f behind =>
    show ite _ _ _ = addUp (ite _ _ _) sum
    split
    · rfl
    · exact addNumber_eq sum count (some f) _
  | unit count f letters => exact addNumber_eq sum count f _

/-- The spans of the characters from `offset` on. -/
def ofChars (offset : Nat) (blank : Bool) (s : Scan) : List Char → Spans
  | [] => ofEnd blank s
  | c :: cs =>
    (ofEnded c s).append
      (match s.next offset c with
      | .ok s => ofChars (offset + c.utf8Size) (blank && isBlank c) s cs
      | .error error => refused error)

theorem scan_eq (sum : Duration) (offset : Nat) (blank : Bool) (s : Scan) (cs : List Char) :
    scan sum offset blank s cs = (ofChars offset blank s cs).addUp sum := by
  induction cs generalizing sum offset blank s with
  | nil => exact finish_eq sum blank s
  | cons c cs ih =>
    unfold scan ofChars step
    rw [addUp_append, settle_eq, bind_assoc]
    refine bind_congr fun sum => ?_
    cases s.next offset c with
    | error error => rfl
    | ok next => exact ih sum _ _ next

/-- The spans of a text. -/
def ofText (text : String) : Spans := ofChars 0 true (.gap 0) text.toList

/-- Whether a sum is brought to exactly all seconds of a word by a span that brings its nanoseconds to
    exactly a second. -/
inductive Brims : Duration → Spans → Prop
  | here {sum : Duration} {secs nanos : Nat} {rest : Spans}
      (whole : sum.subsec + nanos = nanosPerSec)
      (full : sum.nanos + (secs * nanosPerSec + nanos) = durationLimit) :
      Brims sum (add secs nanos rest)
  | later {sum total : Duration} {secs nanos : Nat} {rest : Spans}
      (word : sum.subsec + nanos < wordCount)
      (added : total.nanos = sum.nanos + (secs * nanosPerSec + nanos))
      (brims : Brims total rest) : Brims sum (add secs nanos rest)

/-- Adding spans up breaks off if they brim. -/
theorem addUp_eq_broken_iff {spans : Spans} :
    spans.addUp sum = .error (.broken fault) ↔ fault = .durationOverflow ∧ spans.Brims sum := by
  induction spans generalizing sum with
  | finished => exact iff_of_false (by simp [addUp]) fun h => nomatch h.2
  | refused error => exact iff_of_false (by simp [addUp, refuse]) fun h => nomatch h.2
  | add secs nanos rest ih =>
    show (addSpan sum secs nanos >>= rest.addUp) = _ ↔ _
    simp only [bind_eq_error_iff, addSpan_eq_broken_iff, addSpan_eq_ok_iff, ih]
    constructor
    · rintro (⟨rfl, whole, full⟩ | ⟨total, ⟨word, added⟩, rfl, brims⟩)
      · exact ⟨rfl, .here whole full⟩
      · exact ⟨rfl, .later word added brims⟩
    · rintro ⟨rfl, whole, full⟩
      · exact .inl ⟨rfl, whole, full⟩
      · exact .inr ⟨_, ⟨‹_›, ‹_›⟩, rfl, ‹_›⟩

end Spans

/-! ### Texts -/

/-- Whether a text is no bare count of seconds and the spans that it starts with bring the sum to exactly
    all seconds of a word, the last of them by bringing its nanoseconds to exactly a second. -/
def Brims (text : String) : Prop :=
  (∀ secs, readUnsigned wordCount text.toList ≠ .ok secs) ∧ (Spans.ofText text).Brims zero

/-- Reading numbers with units adds up their spans. -/
theorem read_eq (text : String) : read text.toList = (Spans.ofText text).addUp zero :=
  Spans.scan_eq zero 0 true (.gap 0) text.toList

/-- Reading a text breaks off if the text brims. -/
theorem ofText_eq_broken_iff {text : String} :
    ofText text = .error (.broken fault) ↔ fault = .durationOverflow ∧ Brims text := by
  unfold ofText Brims
  cases bare : readUnsigned wordCount text.toList with
  | ok secs => exact iff_of_false (by simp) fun h => h.2.1 secs rfl
  | error error =>
    show read text.toList = _ ↔ _
    rw [read_eq, Spans.addUp_eq_broken_iff]
    simp

end LoadGen.Duration
