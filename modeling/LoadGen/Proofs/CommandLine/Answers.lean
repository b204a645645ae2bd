import LoadGen.Proofs.CommandLine.Words
import LoadGen.Proofs.Duration.Spans

namespace LoadGen.CommandLine

/-!
# Command lines that have no answer

A command line is answered with what it asks for or with a refusal, or reading it breaks off.

* `Looks` — the values that reading a command line comes to look at;
* `broken_iff` — reading breaks off where a duration is looked at that breaks off;
* `Looks.gives` — values that are looked at stand in the command line;
* `answers_iff` — a command line has an answer unless a duration that brims is looked at.
-/

variable {words : List String} {word value : String} {s : Setting} {fault : Fault}

/-! ### What breaks off -/

theorem readHalfWord_ne_broken (s : Setting) (value : String) (fault : Fault) :
    readHalfWord s value ≠ .error (.broken fault) := by
  unfold readHalfWord invalid refuse
  split
  · simp
  · split <;> simp

theorem readDuration_broken_iff :
    readDuration s value = .error (.broken fault) ↔
      Duration.ofText value = .error (.broken fault) := by
  unfold readDuration
  cases Duration.ofText value with
  | ok d => simp
  | error failure => cases failure <;> simp [invalid, refuse]

/-- Of all values only durations break off. -/
theorem assign_broken_iff {line : CommandLine} :
    line.assign s value = .error (.broken fault) ↔
      s = .duration ∧ Duration.ofText value = .error (.broken fault) := by
  constructor
  · intro broken
    cases s with
    | duration => exact ⟨rfl, readDuration_broken_iff.mp (map_eq_error_iff.mp broken)⟩
    | rate | threads | concurrency | complexity =>
      exact absurd (map_eq_error_iff.mp broken) (readHalfWord_ne_broken _ value fault)
    | dataSize =>
      have read : readWord .dataSize value = .error (.broken fault) := map_eq_error_iff.mp broken
      unfold readWord invalid refuse at read
      split at read <;> simp at read
    | keepalive =>
      have read : readChoice .keepalive value = .error (.broken fault) := map_eq_error_iff.mp broken
      unfold readChoice refuse at read
      repeat' split at read
      all_goals simp at read
    | metricsAddress =>
      have read : readAddress .metricsAddress value = .error (.broken fault) :=
        map_eq_error_iff.mp broken
      unfold readAddress invalid refuse at read
      split at read <;> simp at read
    | host | engine | password | db | method | sql | topic | body =>
      exact absurd broken (by simp [assign])
  · rintro ⟨rfl, broken⟩
    exact map_eq_error_iff.mpr (readDuration_broken_iff.mpr broken)

namespace Progress

variable {p q : Progress} {attached : Option (List Char)}

theorem make_broken_iff {value : Option String} :
    p.make s value = .error (.broken fault) ↔
      s = .duration ∧ s ∉ p.given ∧
        ∃ text, value = some text ∧ Duration.ofText text = .error (.broken fault) := by
  cases value with
  | none => simp [make, refuse]
  | some value =>
    unfold make
    by_cases mem : s ∈ p.given
    · simp [mem, refuse]
    · simp [mem, bind_eq_error_iff, assign_broken_iff, pure, Except.pure]

theorem settle_broken_iff :
    p.settle = .error (.broken fault) ↔
      ∃ text, p.pending = some (.duration, some text) ∧ .duration ∉ p.given ∧
        Duration.ofText text = .error (.broken fault) := by
  unfold settle
  cases pending : p.pending with
  | none => simp
  | some named =>
    obtain ⟨s, value⟩ := named
    simp only [make_broken_iff]
    constructor
    · rintro ⟨rfl, new, text, rfl, broken⟩
      exact ⟨text, rfl, new, broken⟩
    · rintro ⟨text, same, new, broken⟩
      cases same
      exact ⟨rfl, new, text, rfl, broken⟩

theorem divert_broken_iff {answer : Refusal} :
    p.divert answer = .error (.broken fault) ↔ p.settle = .error (.broken fault) := by
  unfold divert
  simp [bind_eq_error_iff, refuse]

/-- A value that is attached is looked at once what is pending is settled. -/
theorem take_broken_iff :
    p.take s attached = .error (.broken fault) ↔
      p.settle = .error (.broken fault) ∨
        ∃ q value, p.settle = .ok q ∧ attached = some value ∧
          q.make s (some (String.ofList value)) = .error (.broken fault) := by
  unfold take
  rw [bind_eq_error_iff]
  cases attached with
  | none => simp [pure, Except.pure]
  | some value => simp

/-- A known name settles what is pending. -/
theorem read_broken_of_settle (settle : p.settle = .error (.broken fault)) (known : IsKnown word)
    (going : p.trailing = false) : p.read word = .error (.broken fault) := by
  cases known with
  | names names =>
    rw [read_names names going]
    exact take_broken_iff.mpr (.inl settle)
  | attaches attaches =>
    rw [read_attaches attaches going]
    exact take_broken_iff.mpr (.inl settle)
  | diverts diverts =>
    obtain ⟨answer, read⟩ := read_diverts diverts going
    rw [read]
    exact divert_broken_iff.mpr settle

end Progress

/-! ### Values that are looked at -/

/-- Whether reading a command line comes to look at a value of a setting that it has not made before. -/
inductive Looks (words : List String) (s : Setting) (value : String) : Prop
  /-- The value is attached to its name, and what is pending before it is settled. -/
  | attached {front back : List String} {word : String} {p q : Progress}
      (parts : words = front ++ word :: back) (read : front.foldlM Progress.read {} = .ok p)
      (going : p.trailing = false) (attaches : Attaches s value word) (settled : p.settle = .ok q)
      (new : s ∉ q.given)
  /-- The value has come in a word of its own, and the command line ends or goes on with a known name. -/
  | apart {front back : List String} {p : Progress}
      (parts : words = front ++ back) (read : front.foldlM Progress.read {} = .ok p)
      (pending : p.pending = some (s, some value)) (new : s ∉ p.given)
      (next : ∀ word rest, back = word :: rest → p.trailing = false ∧ IsKnown word)

theorem looks_of_settle {front back : List String} {p : Progress}
    (read : front.foldlM Progress.read {} = .ok p)
    (next : ∀ word rest, back = word :: rest → p.trailing = false ∧ IsKnown word)
    (broken : p.settle = .error (.broken fault)) :
    ∃ text, Looks (front ++ back) .duration text ∧ Duration.ofText text = .error (.broken fault) := by
  obtain ⟨text, pending, new, broken⟩ := Progress.settle_broken_iff.mp broken
  exact ⟨text, .apart rfl read pending new next, broken⟩

theorem looks_of_read {front back : List String} {p : Progress}
    (read : front.foldlM Progress.read {} = .ok p)
    (broken : p.read word = .error (.broken fault)) :
    ∃ text, Looks (front ++ word :: back) .duration text ∧
      Duration.ofText text = .error (.broken fault) := by
  have going : p.trailing = false := by
    apply Bool.eq_false_iff.mpr
    intro trailing
    rw [Progress.read_trailing word trailing] at broken
    cases broken
  have known (known : IsKnown word) :
      ∀ next rest, word :: back = next :: rest → p.trailing = false ∧ IsKnown next := by
    intro next rest same
    cases same
    exact ⟨going, known⟩
  have reads := Progress.reads word going
  generalize p.read word = answer at reads broken
  cases reads with
  | refused | trails | apart => cases broken
  | diverted diverts =>
    exact looks_of_settle read (known (.diverts diverts)) (Progress.divert_broken_iff.mp broken)
  | named names =>
    obtain before | ⟨q, value, -, same, -⟩ := Progress.take_broken_iff.mp broken
    · exact looks_of_settle read (known (.names names)) before
    · cases same
  | attached attaches =>
    obtain before | ⟨q, value, settled, same, broken⟩ := Progress.take_broken_iff.mp broken
    · exact looks_of_settle read (known (.attaches attaches)) before
    · cases same
      obtain ⟨rfl, new, text, same, broken⟩ := Progress.make_broken_iff.mp broken
      rw [String.ofList_toList] at same
      cases same
      exact ⟨_, .attached rfl read going attaches settled new, broken⟩

/-- A command line breaks off at a duration that is looked at. -/
theorem broken_iff :
    ofWords words = .error (.broken fault) ↔
      ∃ text, Looks words .duration text ∧ Duration.ofText text = .error (.broken fault) := by
  unfold ofWords
  rw [bind_eq_error_iff, foldlM_eq_error_iff]
  constructor
  · -- Either a word breaks off, or what is still pending at the end.
    rintro (⟨front, word, back, p, rfl, read, broken⟩ | ⟨p, read, later⟩)
    · exact looks_of_read read broken
    · obtain broken | ⟨q, -, done⟩ := bind_eq_error_iff.mp later
      · have looked := looks_of_settle read (fun _ _ (none : [] = _ :: _) => nomatch none) broken
        rwa [List.append_nil] at looked
      · cases done
  · rintro ⟨text, looks, broken⟩
    cases looks with
    | @attached front back word p q parts read going attaches settled new =>
      refine .inl ⟨front, word, back, p, parts, read, ?_⟩
      rw [Progress.read_attaches attaches going, Progress.take_broken_iff]
      refine .inr ⟨q, text.toList, settled, rfl, ?_⟩
      rw [Progress.make_broken_iff, String.ofList_toList]
      exact ⟨rfl, new, text, rfl, broken⟩
    | @apart front back p parts read pending new next =>
      have settle : p.settle = .error (.broken fault) :=
        Progress.settle_broken_iff.mpr ⟨text, pending, new, broken⟩
      cases back with
      | nil =>
        rw [parts, List.append_nil]
        exact .inr ⟨p, read, bind_eq_error_iff.mpr (.inl settle)⟩
      | cons word rest =>
        obtain ⟨going, known⟩ := next word rest rfl
        have failed := Progress.read_broken_of_settle settle known going
        exact .inl ⟨front, word, rest, p, parts, read, failed⟩

/-! ### Values that are looked at are given -/

/-- Whether a command line gives a value to a setting: in the word of its name, or in the next one. -/
inductive Gives (words : List String) (s : Setting) (value : String) : Prop
  | attached {word : String} (attaches : Attaches s value word) (mem : word ∈ words)
  | apart {name : String} (names : Names s name) (next : [name, value] <:+: words)

theorem Gives.append (gives : Gives words s value) (more : List String) :
    Gives (words ++ more) s value := by
  cases gives with
  | attached attaches mem => exact .attached attaches (List.mem_append_left more mem)
  | apart names next => exact .apart names (next.trans (List.prefix_append words more).isInfix)

namespace Progress

variable {p q : Progress}

theorem make_eq_ok {value : Option String} (made : p.make s value = .ok q) : q.pending = p.pending := by
  cases value with
  | none => simp [make, refuse] at made
  | some value =>
    unfold make at made
    dsimp only at made
    split at made
    · simp [refuse] at made
    · obtain ⟨line, -, done⟩ := bind_eq_ok_iff.mp made
      cases done
      rfl

theorem settle_eq_ok (settled : p.settle = .ok q) : q.pending = none := by
  unfold settle at settled
  split at settled
  · cases settled
    assumption
  · exact make_eq_ok settled

theorem take_eq_ok {attached : Option (List Char)} (taken : p.take s attached = .ok q) :
    q.pending = if attached.isSome then none else some (s, none) := by
  obtain ⟨settled, settle, next⟩ := bind_eq_ok_iff.mp taken
  cases attached with
  | none =>
    cases next
    rfl
  | some value => exact (make_eq_ok next).trans (settle_eq_ok settle)

theorem divert_ne_ok (answer : Refusal) : p.divert answer ≠ .ok q := by
  intro diverted
  obtain ⟨settled, -, refused⟩ := bind_eq_ok_iff.mp diverted
  cases refused

/-- What the words that have been read say about a setting that is pending. -/
structure Follows (words : List String) (p : Progress) : Prop where
  gives : ∀ s value, p.pending = some (s, some value) → Gives words s value
  -- Behind two dashes no value is taken any more.
  names : ∀ s, p.pending = some (s, none) → p.trailing = false →
    ∃ front name, Names s name ∧ words = front ++ [name]

namespace Follows

theorem start : Follows [] {} := ⟨nofun, nofun⟩

/-- One more word. -/
theorem read (follows : Follows words p) (read : p.read word = .ok q) :
    Follows (words ++ [word]) q := by
  have going : p.trailing = false := by
    apply Bool.eq_false_iff.mpr
    intro trailing
    rw [Progress.read_trailing word trailing] at read
    cases read
  have reads := reads word going
  generalize p.read word = answer at reads read
  cases reads with
  | refused answer => cases read
  | diverted diverts => exact absurd read (divert_ne_ok _)
  | trails =>
    cases read
    exact ⟨fun s value pending => (follows.gives s value pending).append [word], nofun⟩
  | attached attaches =>
    have pending : q.pending = none := take_eq_ok read
    exact ⟨fun _ _ named => by simp [pending] at named, fun _ named => by simp [pending] at named⟩
  | named names =>
    -- The setting waits for the word after its name.
    have pending : q.pending = some (_, none) := take_eq_ok read
    refine ⟨fun _ _ named => by simp [pending] at named, fun t named _ => ⟨words, word, ?_, rfl⟩⟩
    rw [pending] at named
    cases named
    exact names
  | apart pending =>
    cases read
    obtain ⟨front, name, names, rfl⟩ := follows.names _ pending going
    refine ⟨fun t value named => ?_, nofun⟩
    cases named
    exact .apart names ⟨front, [], by simp⟩

/-- All words. -/
theorem foldlM_read {more : List String} (follows : Follows words p)
    (read : more.foldlM Progress.read p = .ok q) : Follows (words ++ more) q := by
  induction more generalizing words p with
  | nil =>
    cases read
    rwa [List.append_nil]
  | cons word more ih =>
    rw [List.foldlM_cons] at read
    obtain ⟨next, first, read⟩ := bind_eq_ok_iff.mp read
    rw [← List.singleton_append, ← List.append_assoc]
    exact ih (follows.read first) read

end Follows

end Progress

/-- A value that is looked at stands in the command line, with the name of its setting. -/
theorem Looks.gives (looks : Looks words s value) : Gives words s value := by
  cases looks with
  | attached parts read going attaches settled new => exact .attached attaches (by simp [parts])
  | apart parts read pending new next =>
    rw [parts]
    exact ((Progress.Follows.start.foldlM_read read).gives s value pending).append _

/-! ### Answers -/

/-- **Every command line has an answer, unless it comes to look at a duration that brims.**  What it looks
    at stands in it, with a name of the setting.  Likewise every text is read or refused as a duration,
    unless it brims. -/
theorem answers_iff (words : List String) (text : String) :
    (((∃ line, ofWords words = .ok line) ∨ ∃ answer, ofWords words = refuse answer) ↔
      ∀ value, Looks words .duration value → ¬ Duration.Brims value) ∧
    (∀ value, Looks words .duration value → Gives words .duration value) ∧
    (((∃ d, Duration.ofText text = .ok d) ∨ ∃ error, Duration.ofText text = refuse error) ↔
      ¬ Duration.Brims text) := by
  rw [ok_or_refuse_iff, ok_or_refuse_iff]
  refine ⟨?_, fun value looks => looks.gives, ?_⟩
  · constructor
    · intro sound value looks brims
      have broken := Duration.ofText_eq_broken_iff.mpr ⟨rfl, brims⟩
      exact sound _ (broken_iff.mpr ⟨value, looks, broken⟩)
    · intro sound fault failed
      obtain ⟨value, looks, broken⟩ := broken_iff.mp failed
      exact sound value looks (Duration.ofText_eq_broken_iff.mp broken).2
  · constructor
    · intro sound brims
      exact sound _ (Duration.ofText_eq_broken_iff.mpr ⟨rfl, brims⟩)
    · intro sound fault broken
      exact sound (Duration.ofText_eq_broken_iff.mp broken).2

/-- A command line that gives such a duration, and one that ends a nanosecond earlier. -/
theorem answers_iff_lastSecond :
    (∃ value, Gives ["-d", "18446744073709551615s 1000000000ns"] .duration value ∧
        Duration.Brims value) ∧
      ∀ value, Looks ["-d", "18446744073709551615s 999999999ns"] .duration value →
        ¬ Duration.Brims value := by
  have breaks : ofWords ["-d", "18446744073709551615s 1000000000ns"] =
      .error (.broken .durationOverflow) := rfl
  have reads : ∃ line, ofWords ["-d", "18446744073709551615s 999999999ns"] = .ok line := ⟨_, rfl⟩
  obtain ⟨sound, gives, -⟩ := answers_iff ["-d", "18446744073709551615s 1000000000ns"] ""
  constructor
  · apply Classical.byContradiction
    intro none
    obtain ⟨line, read⟩ | ⟨answer, read⟩ :=
      sound.mpr fun value looks brims => none ⟨value, gives value looks, brims⟩
    · cases breaks.symm.trans read
    · cases breaks.symm.trans read
  · exact (answers_iff _ "").1.mp (.inl reads)

/-- A whole second on top of the last one breaks off, though a nanosecond more is refused. -/
theorem last_second_breaks_off :
    ofWords ["-d", "18446744073709551615s 1000000000ns"] = .error (.broken .durationOverflow) ∧
      ofWords ["-d", "18446744073709551615s 1000000001ns"] =
        refuse (.usage (.invalidValue .duration "18446744073709551615s 1000000001ns"
          Duration.ReadError.unrepresentable.message)) := ⟨rfl, rfl⟩

end LoadGen.CommandLine
