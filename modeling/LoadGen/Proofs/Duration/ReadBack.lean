import LoadGen.Duration.Written
import LoadGen.Proofs.CommandLine.Words
import LoadGen.Proofs.Duration.Spans
import LoadGen.Proofs.Text.Numerals

namespace LoadGen.Duration

/-!
# Written durations are read back

A written duration is a row of counts with their units.  Its reader finds these counts and no others, and
adds them up without leaving a word.

* `Spans.ofItems`, `ofChars_texts` — the spans of a row of counts, which its text has;
* `Fits`, `addUp_ofItems` — counts that can be added without a carry, and what they add up to;
* `shown`, `fits_of_mem_shown` — the counts of a written duration, which fit;
* `written_is_read_back` — the text of every duration is read as the duration.
-/

open LoadGen.Text

/-! ### Names of units -/

theorem unitWord_mem (count : Nat) (u : TimeUnit) : unitWord count u ∈ u.spellings := by
  cases u with
  | year | month | week | day =>
    show ite _ _ _ ∈ _
    split <;> decide
  | hour | minute | second | millisecond | microsecond | nanosecond =>
    simp [unitWord, TimeUnit.spellings]

theorem ofWord?_of_mem {u : TimeUnit} {word : String} (mem : word ∈ u.spellings) :
    TimeUnit.ofWord? word = some u := by
  have all : ∀ u ∈ TimeUnit.all, ∀ word ∈ u.spellings, TimeUnit.ofWord? word = some u := by decide
  exact all u u.mem_all word mem

/-- A letter of a unit is neither a digit nor blank. -/
def IsLetter (c : Char) : Prop := isUnitLetter c = true ∧ c.isDigit = false ∧ isBlank c = false

instance (c : Char) : Decidable (IsLetter c) := by unfold IsLetter; infer_instance

theorem isLetter_of_mem {u : TimeUnit} {word : String} (mem : word ∈ u.spellings) :
    word.toList ≠ [] ∧ ∀ c ∈ word.toList, IsLetter c := by
  have all : ∀ u ∈ TimeUnit.all, ∀ word ∈ u.spellings,
    word.toList ≠ [] ∧ word.toList.all (fun c => decide (IsLetter c)) = true := by decide
  obtain ⟨named, letters⟩ := all u u.mem_all word mem
  exact ⟨named, fun c here => of_decide_eq_true (List.all_eq_true.mp letters c here)⟩

/-! ### The text of a count -/

theorem toList_itemText (item : Nat × TimeUnit) :
    (itemText item).toList = Nat.toDigits 10 item.1 ++ (unitWord item.1 item.2).toList := by
  unfold itemText
  rw [String.toList_append]
  congr 1
  exact Nat.toList_repr

namespace Spans

variable {n : Nat}

theorem append_finished (spans : Spans) : spans.append finished = spans := by
  induction spans with
  | finished | refused => rfl
  | add secs nanos rest ih => exact congrArg (add secs nanos) ih

/-- The spans of a row of counts. -/
def ofItems : List (Nat × TimeUnit) → Spans
  | [] => finished
  | (count, u) :: rest => (ofSpan (wholeSpan count u)).append (ofItems rest)

theorem ofNumber_unitWord (count : Nat) (u : TimeUnit) :
    ofNumber count none (unitWord count u) = ofSpan (wholeSpan count u) := by
  have mem := unitWord_mem count u
  have named : (unitWord count u).isEmpty = false := by
    rw [← Bool.not_eq_true, String.isEmpty_iff]
    intro none
    exact (isLetter_of_mem mem).1 (by rw [none]; rfl)
  unfold ofNumber
  rw [named, ofWord?_of_mem mem]
  exact append_finished _

/-- A character that ends no number is taken, and the reading goes on. -/
theorem ofChars_cons {c : Char} {s s' : Scan} {cs : List Char} {offset : Nat} {blank : Bool}
    (goes : ofEnded c s = finished) (next : s.next offset c = .ok s') :
    ofChars offset blank s (c :: cs) = ofChars (offset + c.utf8Size) (blank && isBlank c) s' cs := by
  rw [ofChars, goes, next]
  rfl

/-- Digits of a count are read one by one. -/
theorem ofChars_digits {digits : List Char} (all : ∀ c ∈ digits, c.isDigit = true)
    (small : Nat.ofDigitChars 10 digits n < wordCount) (cs : List Char) (offset : Nat) (blank : Bool) :
    ∃ offset' blank', ofChars offset blank (.whole n) (digits ++ cs) =
      ofChars offset' blank' (.whole (Nat.ofDigitChars 10 digits n)) cs := by
  induction digits generalizing n offset blank with
  | nil => exact ⟨offset, blank, rfl⟩
  | cons c digits ih =>
    have digit := digitValue?_of_isDigit (all c List.mem_cons_self)
    rw [Nat.ofDigitChars_cons] at small ⊢
    have within : n * 10 + (c.toNat - '0'.toNat) < wordCount := by
      have := le_ofDigitChars digits (10 * n + (c.toNat - '0'.toNat))
      omega
    have next : Scan.next offset c (.whole n) = .ok (.whole (10 * n + (c.toNat - '0'.toNat))) := by
      unfold Scan.next word?
      simp only [digit, if_pos within]
      rw [Nat.mul_comm]
      rfl
    obtain ⟨offset', blank', rest⟩ :=
      ih (fun c mem => all c (List.mem_cons_of_mem _ mem)) small (offset + c.utf8Size)
        (blank && isBlank c)
    exact ⟨offset', blank', (ofChars_cons rfl next).trans rest⟩

/-- A count is read from its digits. -/
theorem ofChars_count (small : n < wordCount) (cs : List Char) (start offset : Nat) (blank : Bool) :
    ∃ offset' blank', ofChars offset blank (.gap start) (Nat.toDigits 10 n ++ cs) =
      ofChars offset' blank' (.whole n) cs := by
  have value : Nat.ofDigitChars 10 (Nat.toDigits 10 n) 0 = n := Nat.ofDigitChars_ten_toDigits
  have all : ∀ c ∈ Nat.toDigits 10 n, c.isDigit = true := fun c mem =>
    Nat.isDigit_of_mem_toDigits (by decide) (by decide) mem
  cases digits : Nat.toDigits 10 n with
  | nil => exact absurd digits Nat.toDigits_ne_nil
  | cons c rest =>
    rw [digits] at value all
    have digit := digitValue?_of_isDigit (all c List.mem_cons_self)
    rw [Nat.ofDigitChars_cons, Nat.mul_zero, Nat.zero_add] at value
    have next : Scan.next offset c (.gap start) = .ok (.whole (c.toNat - '0'.toNat)) := by
      unfold Scan.next
      simp only [digit]
      rfl
    obtain ⟨offset', blank', later⟩ :=
      ofChars_digits (n := c.toNat - '0'.toNat) (fun c mem => all c (List.mem_cons_of_mem _ mem))
        (value ▸ small) cs (offset + c.utf8Size) (blank && isBlank c)
    rw [value] at later
    exact ⟨offset', blank', (ofChars_cons rfl next).trans later⟩

/-- Letters of a unit are read one by one. -/
theorem ofChars_letters {word : List Char} (all : ∀ c ∈ word, IsLetter c) (letters cs : List Char)
    (offset : Nat) (blank : Bool) :
    ∃ offset' blank', ofChars offset blank (.unit n none letters) (word ++ cs) =
      ofChars offset' blank' (.unit n none (word.reverse ++ letters)) cs := by
  induction word generalizing letters offset blank with
  | nil => exact ⟨offset, blank, rfl⟩
  | cons c word ih =>
    obtain ⟨letter, nodigit, visible⟩ := all c List.mem_cons_self
    have digit : digitValue? c = none := digitValue?_eq_none (ne_true_of_eq_false nodigit)
    have next : Scan.next offset c (.unit n none letters) = .ok (.unit n none (c :: letters)) := by
      unfold Scan.next
      simp only [digit, visible, letter, if_true]
      rfl
    have goes : ofEnded c (.unit n none letters) = finished := by
      unfold ofEnded endsUnit
      simp only [digit, visible]
      rfl
    obtain ⟨offset', blank', rest⟩ :=
      ih (fun c mem => all c (List.mem_cons_of_mem _ mem)) (c :: letters) (offset + c.utf8Size)
        (blank && isBlank c)
    rw [List.reverse_cons, List.append_assoc]
    exact ⟨offset', blank', (ofChars_cons goes next).trans rest⟩

/-- The name of a unit is read behind a count. -/
theorem ofChars_name {word : List Char} (some : word ≠ []) (all : ∀ c ∈ word, IsLetter c)
    (cs : List Char) (offset : Nat) (blank : Bool) :
    ∃ offset' blank', ofChars offset blank (.whole n) (word ++ cs) =
      ofChars offset' blank' (.unit n none word.reverse) cs := by
  cases word with
  | nil => exact absurd rfl some
  | cons c word =>
    obtain ⟨letter, nodigit, visible⟩ := all c List.mem_cons_self
    have digit : digitValue? c = none := digitValue?_eq_none (ne_true_of_eq_false nodigit)
    have next : Scan.next offset c (.whole n) = .ok (.unit n none [c]) := by
      unfold Scan.next
      simp only [digit, visible, letter, if_true]
      rfl
    obtain ⟨offset', blank', rest⟩ :=
      ofChars_letters (n := n) (fun c mem => all c (List.mem_cons_of_mem _ mem)) [c] cs
        (offset + c.utf8Size) (blank && isBlank c)
    rw [List.reverse_cons]
    exact ⟨offset', blank', (ofChars_cons rfl next).trans rest⟩

theorem ofChars_item {item : Nat × TimeUnit} (small : item.1 < wordCount) (cs : List Char)
    (start offset : Nat) (blank : Bool) :
    ∃ offset' blank', ofChars offset blank (.gap start) ((itemText item).toList ++ cs) =
      ofChars offset' blank' (.unit item.1 none (unitWord item.1 item.2).toList.reverse) cs := by
  obtain ⟨named, letters⟩ := isLetter_of_mem (unitWord_mem item.1 item.2)
  obtain ⟨offset₁, blank₁, counted⟩ :=
    ofChars_count small ((unitWord item.1 item.2).toList ++ cs) start offset blank
  obtain ⟨offset₂, blank₂, called⟩ := ofChars_name (n := item.1) named letters cs offset₁ blank₁
  exact ⟨offset₂, blank₂, by rw [toList_itemText, List.append_assoc, counted, called]⟩

theorem ofNumber_unitName (item : Nat × TimeUnit) :
    ofNumber item.1 none (unitName (unitWord item.1 item.2).toList.reverse) =
      ofSpan (wholeSpan item.1 item.2) := by
  unfold unitName
  rw [List.reverse_reverse, String.ofList_toList]
  exact ofNumber_unitWord _ _

/-- **The spans of a text of counts are those of the counts.** -/
theorem ofChars_texts {items : List (Nat × TimeUnit)} (some : items ≠ [])
    (small : ∀ item ∈ items, item.1 < wordCount) (start offset : Nat) (blank : Bool) :
    ofChars offset blank (.gap start) (" ".intercalate (items.map itemText)).toList = ofItems items := by
  induction items generalizing start offset blank with
  | nil => exact absurd rfl some
  | cons item rest ih =>
    have first := small item List.mem_cons_self
    cases rest with
    | nil =>
      obtain ⟨offset', blank', read⟩ := ofChars_item first [] start offset blank
      rw [List.append_nil] at read
      rw [List.map_singleton, String.intercalate_singleton, read]
      show ofNumber item.1 none (unitName (unitWord item.1 item.2).toList.reverse) = _
      rw [ofNumber_unitName]
      exact (append_finished _).symm
    | cons next rest =>
      obtain ⟨offset', blank', read⟩ := ofChars_item first
        (' ' :: (" ".intercalate ((next :: rest).map itemText)).toList) start offset blank
      have text : (" ".intercalate ((item :: next :: rest).map itemText)).toList =
          (itemText item).toList ++ ' ' :: (" ".intercalate ((next :: rest).map itemText)).toList := by
        rw [List.map_cons, String.intercalate_cons_of_ne_nil (by simp), String.toList_append,
          String.toList_append, List.append_assoc]
        rfl
      -- The blank ends the number, and a gap follows.
      have ended (letters : List Char) : ofEnded ' ' (.unit item.1 none letters) =
          ofNumber item.1 none (unitName letters) := by
        unfold ofEnded
        simp only
        rw [if_pos (by decide)]
      have gap (letters : List Char) : Scan.next offset' ' ' (.unit item.1 none letters) =
          .ok (.gap (offset' + ' '.utf8Size)) := by
        unfold Scan.next
        rw [show digitValue? ' ' = none by decide, show isBlank ' ' = true by decide]
        rfl
      rw [text, read, ofChars, ended, gap, ofNumber_unitName]
      simp only
      rw [ih (List.cons_ne_nil _ _) fun item mem => small item (List.mem_cons_of_mem _ mem)]
      rfl

end Spans

/-! ### Counts that fit -/

/-- Whether a count is a part of a duration, and less than a second if its unit is. -/
def Fits (item : Nat × TimeUnit) : Prop :=
  item.1 * item.2.nanos < if item.2.secs = 0 then nanosPerSec else durationLimit

/-- A count of a unit of a second or more is a span of whole seconds. -/
theorem wholeSpan_of_coarse {count : Nat} {u : TimeUnit} (coarse : u.secs ≠ 0)
    (small : count * u.secs < wordCount) : wholeSpan count u = .ok (count * u.secs, 0) := by
  cases u with
  | nanosecond | microsecond | millisecond => exact absurd rfl coarse
  | second | minute | hour | day | week | month | year =>
    unfold wholeSpan word?
    simp only
    rw [if_pos small]
    rfl

/-- A count of a smaller unit that makes less than a second is a span of nanoseconds. -/
theorem wholeSpan_of_fine {count : Nat} {u : TimeUnit} (fine : u.secs = 0)
    (small : count * u.nanos < nanosPerSec) : wholeSpan count u = .ok (0, count * u.nanos) := by
  have word : word? (count * u.nanos) = .ok (count * u.nanos) :=
    if_pos (Nat.lt_trans small (by decide))
  cases u with
  | nanosecond => simp [wholeSpan, TimeUnit.nanos, pure, Except.pure]
  | microsecond =>
    show (do return (0, ← word? (count * TimeUnit.microsecond.nanos))) = _
    rw [word]
    rfl
  | millisecond =>
    show (do return (0, ← word? (count * TimeUnit.millisecond.nanos))) = _
    rw [word]
    rfl
  | second | minute | hour | day | week | month | year => cases fine

theorem nanos_of_coarse {u : TimeUnit} (coarse : u.secs ≠ 0) : u.nanos = u.secs * nanosPerSec := by
  cases u with
  | nanosecond | microsecond | millisecond => exact absurd rfl coarse
  | second | minute | hour | day | week | month | year => rfl

/-- A count that fits is a span of a word of seconds, or of less than a second. -/
theorem Fits.wholeSpan_eq {count : Nat} {u : TimeUnit} (fits : Fits (count, u)) :
    ∃ secs nanos, wholeSpan count u = .ok (secs, nanos) ∧ nanos < nanosPerSec ∧
      secs * nanosPerSec + nanos = count * u.nanos := by
  unfold Fits at fits
  by_cases fine : u.secs = 0
  · rw [if_pos fine] at fits
    exact ⟨0, count * u.nanos, wholeSpan_of_fine fine fits, fits, by omega⟩
  · rw [if_neg fine] at fits
    have whole : count * u.nanos = count * u.secs * nanosPerSec := by
      rw [nanos_of_coarse fine, Nat.mul_assoc]
    have small : count * u.secs < wordCount := by
      simp only [whole] at fits
      exact Nat.lt_of_mul_lt_mul_right fits
    exact ⟨count * u.secs, 0, wholeSpan_of_coarse fine small, by decide, by rw [whole, Nat.add_zero]⟩

/-- The count of such an item is a word. -/
theorem Fits.count_lt {item : Nat × TimeUnit} (fits : Fits item) : item.1 < wordCount := by
  have least : item.1 ≤ item.1 * item.2.nanos := Nat.le_mul_of_pos_right _ item.2.nanos_pos
  unfold Fits at fits
  by_cases fine : item.2.secs = 0
  · rw [if_pos fine] at fits
    exact Nat.lt_trans (Nat.lt_of_le_of_lt least fits) (by decide)
  · rw [if_neg fine, nanos_of_coarse fine, ← Nat.mul_assoc] at fits
    have small : item.1 * item.2.secs < wordCount := Nat.lt_of_mul_lt_mul_right fits
    exact Nat.lt_of_le_of_lt (Nat.le_mul_of_pos_right _ (Nat.pos_of_ne_zero fine)) small

/-- **Counts that fit are added up exactly**, as long as they make up a duration. -/
theorem addUp_ofItems {items : List (Nat × TimeUnit)} (fit : ∀ item ∈ items, Fits item)
    (sum : Duration) (room : sum.nanos + total items < durationLimit) :
    ∃ all, (Spans.ofItems items).addUp sum = .ok all ∧ all.nanos = sum.nanos + total items := by
  induction items generalizing sum with
  | nil => exact ⟨sum, rfl, rfl⟩
  | cons item rest ih =>
    obtain ⟨count, u⟩ := item
    obtain ⟨secs, nanos, span, less, same⟩ := (fit (count, u) List.mem_cons_self).wholeSpan_eq
    have parts : total ((count, u) :: rest) = count * u.nanos + total rest := rfl
    have inside : sum.nanos + (secs * nanosPerSec + nanos) < durationLimit := by omega
    -- Less than a second comes to less than a second: no word is left.
    have added : addSpan sum secs nanos =
        .ok ⟨sum.nanos + (secs * nanosPerSec + nanos), inside⟩ := by
      rw [addSpan_eq_ok_iff]
      have below := sum.subsec_lt
      exact ⟨Nat.lt_trans (Nat.add_lt_add below less) (by decide), rfl⟩
    obtain ⟨all, later, value⟩ := ih (fun item mem => fit item (List.mem_cons_of_mem _ mem))
      ⟨sum.nanos + (secs * nanosPerSec + nanos), inside⟩ (by simp only; omega)
    refine ⟨all, ?_, by simp only at value; omega⟩
    show ((Spans.ofSpan (wholeSpan count u)).append (Spans.ofItems rest)).addUp sum = .ok all
    rw [Spans.addUp_append, Spans.addUp_ofSpan, span]
    show (addSpan sum secs nanos >>= (Spans.ofItems rest).addUp) = .ok all
    rw [added]
    exact later

/-! ### The counts of a written duration -/

/-- What counts of the units leave over. -/
def left : List TimeUnit → Nat → Nat
  | [], n => n
  | u :: us, n => left us (n % u.nanos)

theorem breakdown_append (us vs : List TimeUnit) (n : Nat) :
    breakdown (us ++ vs) n = breakdown us n ++ breakdown vs (left us n) := by
  induction us generalizing n with
  | nil => rfl
  | cons u us ih => exact congrArg ((n / u.nanos, u) :: ·) (ih _)

/-- A count is part of what is counted. -/
theorem of_mem_breakdown {us : List TimeUnit} {n : Nat} {item : Nat × TimeUnit}
    (mem : item ∈ breakdown us n) : item.2 ∈ us ∧ item.1 * item.2.nanos ≤ n := by
  induction us generalizing n with
  | nil => cases mem
  | cons u us ih =>
    rcases List.mem_cons.mp mem with rfl | later
    · exact ⟨List.mem_cons_self, Nat.div_mul_le_self n u.nanos⟩
    · obtain ⟨known, part⟩ := ih later
      exact ⟨List.mem_cons_of_mem _ known, Nat.le_trans part (Nat.mod_le n u.nanos)⟩

theorem fits_of_mem_breakdown {n : Nat} (bound : n < durationLimit) {item : Nat × TimeUnit}
    (mem : item ∈ breakdown writtenUnits n) : Fits item := by
  -- Below the seconds less than a second is left.
  have cut : writtenUnits = [.year, .month, .day, .hour, .minute, .second] ++
      [.millisecond, .microsecond, .nanosecond] := rfl
  have rest : left [.year, .month, .day, .hour, .minute, .second] n < nanosPerSec :=
    Nat.mod_lt _ (by decide)
  rw [cut, breakdown_append, List.mem_append] at mem
  unfold Fits
  rcases mem with coarse | fine
  · obtain ⟨known, part⟩ := of_mem_breakdown coarse
    have unit : item.2.secs ≠ 0 := by
      have all : ∀ u ∈ [TimeUnit.year, .month, .day, .hour, .minute, .second], u.secs ≠ 0 := by decide
      exact all _ known
    rw [if_neg unit]
    omega
  · obtain ⟨known, part⟩ := of_mem_breakdown fine
    have unit : item.2.secs = 0 := by
      have all : ∀ u ∈ [TimeUnit.millisecond, .microsecond, .nanosecond], u.secs = 0 := by decide
      exact all _ known
    rw [if_pos unit]
    omega

/-- Counts of zero add nothing. -/
theorem total_filter (items : List (Nat × TimeUnit)) :
    total (items.filter fun item => item.1 != 0) = total items := by
  induction items with
  | nil => rfl
  | cons item rest ih =>
    obtain ⟨count, u⟩ := item
    by_cases zero : count = 0
    · subst zero
      simpa [total] using ih
    · simpa [total, zero] using ih

theorem total_items (d : Duration) : total d.items = d.nanos := by
  unfold items
  rw [total_filter]
  exact total_breakdown [.year, .month, .day, .hour, .minute, .second, .millisecond, .microsecond] _

/-- The counts that are written: those that are not zero, or no seconds. -/
def shown (d : Duration) : List (Nat × TimeUnit) := if d.isZero then [(0, .second)] else d.items

theorem written_eq (d : Duration) : d.written = " ".intercalate (d.shown.map itemText) := by
  unfold written shown
  split
  · decide
  · rfl

theorem total_shown (d : Duration) : total d.shown = d.nanos := by
  unfold shown
  split
  · rename_i zero
    exact (beq_iff_eq.mp zero).symm
  · exact total_items d

theorem shown_ne_nil (d : Duration) : d.shown ≠ [] := by
  unfold shown
  split
  · exact List.cons_ne_nil _ _
  · rename_i positive
    intro none
    have nothing := total_items d
    rw [none] at nothing
    exact positive (beq_iff_eq.mpr nothing.symm)

theorem fits_of_mem_shown {d : Duration} {item : Nat × TimeUnit} (mem : item ∈ d.shown) :
    Fits item := by
  unfold shown at mem
  split at mem
  · rw [List.mem_singleton.mp mem]
    unfold Fits
    decide
  · exact fits_of_mem_breakdown d.nanos_lt (List.mem_filter.mp mem).1

/-! ### Reading it back -/

theorem spans_written (d : Duration) : Spans.ofText d.written = Spans.ofItems d.shown := by
  unfold Spans.ofText
  rw [written_eq]
  exact Spans.ofChars_texts d.shown_ne_nil (fun item mem => (fits_of_mem_shown mem).count_lt) 0 0 true

/-- Some counts are less than all of them. -/
theorem total_take_le (items : List (Nat × TimeUnit)) (k : Nat) : total (items.take k) ≤ total items := by
  induction items generalizing k with
  | nil => simp
  | cons item rest ih =>
    cases k with
    | zero => exact Nat.zero_le _
    | succ k => exact Nat.add_le_add_left (ih k) _

/-- The sum of the first counts is exact. -/
theorem addUp_take_shown (d : Duration) (k : Nat) :
    ∃ sum, (Spans.ofItems (d.shown.take k)).addUp zero = .ok sum ∧ sum.nanos = total (d.shown.take k) := by
  have part := total_take_le d.shown k
  rw [total_shown] at part
  have room : zero.nanos + total (d.shown.take k) < durationLimit := by
    have bound := d.nanos_lt
    show 0 + _ < _
    omega
  obtain ⟨sum, added, value⟩ :=
    addUp_ofItems (fun item mem => fits_of_mem_shown (List.mem_of_mem_take mem)) zero room
  exact ⟨sum, added, value.trans (Nat.zero_add _)⟩

/-- The text of a count starts with a digit and has a letter behind its digits. -/
theorem exists_itemText (item : Nat × TimeUnit) : ∃ first letter front back,
    (itemText item).toList = first :: front ++ letter :: back ∧ first.isDigit = true ∧
      IsLetter letter := by
  obtain ⟨named, letters⟩ := isLetter_of_mem (unitWord_mem item.1 item.2)
  cases digits : Nat.toDigits 10 item.1 with
  | nil => exact absurd digits Nat.toDigits_ne_nil
  | cons first front =>
    cases word : (unitWord item.1 item.2).toList with
    | nil => exact absurd word named
    | cons letter back =>
      have digit : first.isDigit = true :=
        Nat.isDigit_of_mem_toDigits (by decide) (by decide) (digits ▸ List.mem_cons_self)
      refine ⟨first, letter, front, back, ?_, digit, letters letter (word ▸ List.mem_cons_self)⟩
      rw [toList_itemText, digits, word]

/-- So does a written duration. -/
theorem exists_written (d : Duration) : ∃ first letter front back,
    d.written.toList = first :: front ++ letter :: back ∧ first.isDigit = true ∧ IsLetter letter := by
  cases items : d.shown with
  | nil => exact absurd items d.shown_ne_nil
  | cons item rest =>
    obtain ⟨first, letter, front, back, text, digit, isLetter⟩ := exists_itemText item
    rw [written_eq, items, List.map_cons]
    cases rest with
    | nil =>
      rw [List.map_nil, String.intercalate_singleton]
      exact ⟨first, letter, front, back, text, digit, isLetter⟩
    | cons next rest =>
      rw [String.intercalate_cons_of_ne_nil (by simp), String.append_assoc, String.toList_append, text]
      exact ⟨first, letter, front, _, List.append_assoc .., digit, isLetter⟩

/-- A written duration has a letter, and so it is no bare count of seconds. -/
theorem readUnsigned_written (d : Duration) :
    ∃ error, readUnsigned wordCount d.written.toList = .error error := by
  obtain ⟨first, letter, front, back, text, digit, -, other, -⟩ := exists_written d
  cases read : readUnsigned wordCount d.written.toList with
  | error error => exact ⟨error, rfl⟩
  | ok n =>
    obtain ⟨⟨digits, shape, -, all, -⟩, -⟩ := readUnsigned_eq_ok_iff.mp read
    rw [text] at shape
    rcases shape with rfl | signed
    · have mem : letter ∈ first :: front ++ letter :: back :=
        List.mem_append_right _ List.mem_cons_self
      exact absurd (all letter mem) (ne_true_of_eq_false other)
    · -- The first character is a digit, and so no sign.
      obtain ⟨rfl, -⟩ := List.cons.inj signed
      exact absurd digit (by decide)

theorem ofText_written (d : Duration) : ofText d.written = .ok d := by
  obtain ⟨error, bare⟩ := d.readUnsigned_written
  have whole : d.shown.take d.shown.length = d.shown := List.take_length
  obtain ⟨all, added, value⟩ := d.addUp_take_shown d.shown.length
  rw [whole] at added value
  have same : all = d := Duration.ext (value.trans d.total_shown)
  unfold ofText
  rw [bare]
  show read d.written.toList = .ok d
  rw [read_eq, spans_written, added, same]

/-- It is taken for the value of the setting, too. -/
theorem ofWords_written (d : Duration) : CommandLine.ofWords ["-d", d.written] =
    .ok { config := { engine := "", host := "", duration := d } } := by
  obtain ⟨first, letter, front, back, text, digit, -⟩ := exists_written d
  have named : CommandLine.Progress.read {} "-d" = .ok { pending := some (.duration, none) } := by
    have letter : "-d" = String.ofList ['-', 'd'] := by decide
    rw [letter, CommandLine.Progress.read_names (s := .duration) (.short rfl) rfl]
    rfl
  -- A text that starts with a digit is a value.
  have valued : CommandLine.Progress.read { pending := some (.duration, none) } d.written =
      .ok { pending := some (.duration, some d.written) } := by
    have plain : first ≠ '-' := by
      rintro rfl
      exact absurd digit (by decide)
    unfold CommandLine.Progress.read
    rw [text]
    simp only [Bool.false_eq_true, if_false]
    split <;> simp_all [CommandLine.Progress.takePlain]
  have read : CommandLine.readDuration .duration d.written = .ok d := by
    unfold CommandLine.readDuration
    rw [ofText_written]
  have made : CommandLine.Progress.settle { pending := some (.duration, some d.written) } =
      .ok { line.config := { engine := "", host := "", duration := d }, given := [.duration] } := by
    unfold CommandLine.Progress.settle CommandLine.Progress.make
    simp only
    unfold CommandLine.assign
    simp only [read]
    rfl
  have words : ["-d", d.written].foldlM CommandLine.Progress.read {} =
      .ok { pending := some (.duration, some d.written) } := by
    rw [List.foldlM_cons, named]
    show (CommandLine.Progress.read _ d.written >>= fun p => .ok p) = _
    rw [valued]
    rfl
  unfold CommandLine.ofWords
  rw [words]
  show (CommandLine.Progress.settle _ >>= _) = _
  rw [made]
  rfl

/-- **A written duration is read back.**  The text of every duration is no bare count of seconds.  Its spans
    are those of the counts that it shows; their sum is exact after each of them, so that no word is left
    and nothing is rounded; and it comes to the duration, also when the text is given as the duration of a
    run. -/
theorem written_is_read_back (d : Duration) :
    (∃ error, readUnsigned wordCount d.written.toList = .error error) ∧
    Spans.ofText d.written = Spans.ofItems d.shown ∧
    (∀ k, ∃ sum, (Spans.ofItems (d.shown.take k)).addUp zero = .ok sum ∧
      sum.nanos = total (d.shown.take k)) ∧
    ofText d.written = .ok d ∧
    CommandLine.ofWords ["-d", d.written] =
      .ok { config := { engine := "", host := "", duration := d } } :=
  ⟨readUnsigned_written d, spans_written d, addUp_take_shown d, ofText_written d, ofWords_written d⟩

-- The longest duration, whose words are both full.
example : written ⟨durationLimit - 1, by decide⟩ =
    "584542046090years 7months 15days 17h 5m 3s 999ms 999us 999ns" := by cbv

end LoadGen.Duration
