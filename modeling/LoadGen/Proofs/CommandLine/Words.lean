import LoadGen.CommandLine.Reader

namespace LoadGen.CommandLine

/-!
# Words of a command line

* `Names`, `Attaches`, `Diverts` — the words with a name that is known;
* `Progress.Reads` — what reading a word can come to;
* `Progress.read_names`, `Progress.read_attaches`, `Progress.read_diverts` — what it comes to for a word
  with a known name.
-/

variable {word value : String} {s : Setting}

/-! ### Names and values -/

/-- Whether a word is a name of a setting. -/
inductive Names : Setting → String → Prop
  | long (s : Setting) : Names s ("--" ++ s.long)
  | short {s : Setting} {letter : Char} (known : s.short? = some letter) :
      Names s (String.ofList ['-', letter])

/-- Whether a word gives a value to a setting.  Behind a letter the sign of equality can be left out. -/
inductive Attaches : Setting → String → String → Prop
  | equality {s : Setting} {name value : String} (named : Names s name) :
      Attaches s value (name ++ "=" ++ value)
  | letter {s : Setting} {letter first : Char} {rest : List Char} (known : s.short? = some letter)
      (plain : first ≠ '=') :
      Attaches s (String.ofList (first :: rest)) (String.ofList ('-' :: letter :: first :: rest))

/-- Whether a word asks for something else than a run. -/
inductive Diverts : String → Prop
  | help : Diverts "--help"
  | version : Diverts "--version"
  | letter {letter : Char} {rest : List Char} (known : letter = 'h' ∨ letter = 'V') :
      Diverts (String.ofList ('-' :: letter :: rest))

/-- Whether a word starts with a name that is known. -/
inductive IsKnown (word : String) : Prop
  | names {s : Setting} (names : Names s word)
  | attaches {s : Setting} {value : String} (attaches : Attaches s value word)
  | diverts (diverts : Diverts word)

namespace Progress

variable {p : Progress}

/-! ### One word -/

/-- What reading a word comes to, before two dashes. -/
inductive Reads (p : Progress) (word : String) : Reading Progress → Prop
  | refused (answer : Refusal) : Reads p word (refuse answer)
  | trails : Reads p word (.ok { p with trailing := true })
  | apart {s : Setting} (pending : p.pending = some (s, none)) :
      Reads p word (.ok { p with pending := some (s, some word) })
  | named {s : Setting} (names : Names s word) : Reads p word (p.take s none)
  | attached {s : Setting} {value : String} (attaches : Attaches s value word) :
      Reads p word (p.take s (some value.toList))
  | diverted {answer : Refusal} (diverts : Diverts word) : Reads p word (p.divert answer)

theorem Reads.taken {value : List Char} (attaches : Attaches s (String.ofList value) word) :
    Reads p word (p.take s (some value)) := by
  have taken := Reads.attached (p := p) attaches
  rwa [String.toList_ofList] at taken

theorem reads_takePlain : Reads p word (p.takePlain word) := by
  unfold takePlain
  split
  · exact .apart ‹_›
  · exact .refused _

theorem reads_takeFlag {name : String} {answer : Refusal} {attached : Option (List Char)}
    (diverts : attached = none → Diverts word) : Reads p word (p.takeFlag name answer attached) := by
  cases attached with
  | none => exact .diverted (diverts rfl)
  | some value => exact .refused _

/-- A long name, with the value that is attached to it. -/
theorem reads_takeLong {name : List Char} {attached : Option (List Char)}
    (parts : word.toList = '-' :: '-' :: (name ++ attached.elim [] ('=' :: ·))) :
    Reads p word (p.takeLong (String.ofList name) attached) := by
  have bare (none : attached = none) : word = "--" ++ String.ofList name := by
    subst none
    rw [← String.toList_inj, parts]
    simp
  unfold takeLong
  cases known : Setting.ofLong? (String.ofList name) with
  | some s =>
    have same : s.long = String.ofList name := by simpa using List.find?_some known
    cases attached with
    | none =>
      rw [bare rfl, ← same]
      exact .named (.long s)
    | some value =>
      have shape : word = "--" ++ s.long ++ "=" ++ String.ofList value := by
        rw [← String.toList_inj, parts, same]
        simp
      exact .taken (shape ▸ .equality (.long s))
  | none =>
    show Reads p word (ite _ _ _)
    split
    · rename_i help
      refine reads_takeFlag fun none => ?_
      rw [bare none, help]
      exact .help
    · split
      · rename_i version
        refine reads_takeFlag fun none => ?_
        rw [bare none, version]
        exact .version
      · exact .refused _

/-- A letter, with the rest of its word. -/
theorem reads_takeShort {letter : Char} {rest : List Char}
    (parts : word.toList = '-' :: letter :: rest) : Reads p word (p.takeShort letter rest) := by
  have shape : word = String.ofList ('-' :: letter :: rest) := by
    rw [← parts, String.ofList_toList]
  unfold takeShort
  cases known : Setting.ofShort? letter with
  | some s =>
    have same : s.short? = some letter := by simpa using List.find?_some known
    show Reads p word (p.take s (attachedTo rest))
    unfold attachedTo
    split
    · exact .named (shape ▸ .short same)
    · rename_i value
      have equality : word = String.ofList ['-', letter] ++ "=" ++ String.ofList value := by
        rw [← String.toList_inj, parts]
        simp
      exact .taken (equality ▸ .equality (.short same))
    · rename_i bare equality
      cases rest with
      | nil => exact absurd rfl bare
      | cons first rest =>
        have plain : first ≠ '=' := fun same => equality rest (same ▸ rfl)
        exact .taken (shape ▸ .letter same plain)
  | none =>
    show Reads p word (ite _ _ _)
    split
    · exact .diverted (shape ▸ .letter (.inl ‹_›))
    · split
      · exact .diverted (shape ▸ .letter (.inr ‹_›))
      · exact .refused _

/-- Behind two dashes every word is refused. -/
theorem read_trailing (word : String) (trailing : p.trailing = true) : p.read word = unknown word :=
  if_pos trailing

theorem reads (word : String) (going : p.trailing = false) : Reads p word (p.read word) := by
  unfold read
  rw [going, if_neg Bool.false_ne_true]
  split
  · exact .trails
  · rename_i body _ parts
    have joined := Text.splitOnce_join '=' body
    show Reads p word
      (p.takeLong (String.ofList (Text.splitOnce '=' body).1) (Text.splitOnce '=' body).2)
    exact reads_takeLong (parts.trans (by rw [joined]))
  · exact reads_takeShort ‹_›
  · exact reads_takePlain

/-! Words with a known name are read in one way. -/

theorem read_short {letter : Char} (rest : List Char) (going : p.trailing = false)
    (other : letter ≠ '-') :
    p.read (String.ofList ('-' :: letter :: rest)) = p.takeShort letter rest := by
  unfold read
  rw [going, if_neg Bool.false_ne_true, String.toList_ofList]
  split <;> simp_all

theorem read_letter {letter : Char} (known : s.short? = some letter) (rest : List Char)
    (going : p.trailing = false) :
    p.read (String.ofList ('-' :: letter :: rest)) = p.take s (attachedTo rest) := by
  have found : letter ≠ '-' ∧ Setting.ofShort? letter = some s := by
    cases s <;> cases known <;> decide
  rw [read_short rest going found.1]
  unfold takeShort
  rw [found.2]

/-- A long name with an attached value. -/
theorem read_attached (p : Progress) (s : Setting) (value : String) (going : p.trailing = false) :
    p.read ("--" ++ s.long ++ "=" ++ value) = p.take s (some value.toList) := by
  have text : ("--" ++ s.long ++ "=" ++ value).toList =
      '-' :: '-' :: (s.long.toList ++ '=' :: value.toList) := by
    simp [String.toList_append]
  have plain : '=' ∉ s.long.toList := by cases s <;> decide
  have known : Setting.ofLong? s.long = some s := by cases s <;> decide
  unfold read
  rw [going, if_neg Bool.false_ne_true, text]
  cases h : s.long.toList ++ '=' :: value.toList with
  | nil => simp at h
  | cons c body =>
    show p.takeLong (String.ofList (Text.splitOnce '=' (c :: body)).1)
      (Text.splitOnce '=' (c :: body)).2 = _
    rw [← h, Text.splitOnce_append plain]
    show p.takeLong (String.ofList s.long.toList) (some value.toList) = _
    unfold takeLong
    rw [String.ofList_toList, known]

theorem read_names (names : Names s word) (going : p.trailing = false) :
    p.read word = p.take s none := by
  cases names with
  | long =>
    unfold read
    rw [going]
    cases s <;> rfl
  | short known => exact read_letter known [] going

theorem read_attaches (attaches : Attaches s value word) (going : p.trailing = false) :
    p.read word = p.take s (some value.toList) := by
  cases attaches with
  | equality names =>
    cases names with
    | long => exact read_attached p s value going
    | @short letter known =>
      have shape : String.ofList ['-', letter] ++ "=" ++ value =
          String.ofList ('-' :: letter :: '=' :: value.toList) := by
        rw [← String.toList_inj]
        simp
      rw [shape]
      exact read_letter known _ going
  | letter known plain =>
    rw [read_letter known _ going, String.toList_ofList]
    unfold attachedTo
    split <;> simp_all

theorem read_diverts (diverts : Diverts word) (going : p.trailing = false) :
    ∃ answer, p.read word = p.divert answer := by
  cases diverts with
  | help =>
    refine ⟨.help, ?_⟩
    unfold read
    rw [going]
    rfl
  | version =>
    refine ⟨.version, ?_⟩
    unfold read
    rw [going]
    rfl
  | letter known =>
    obtain rfl | rfl := known
    · exact ⟨.help, read_short _ going (by decide)⟩
    · exact ⟨.version, read_short _ going (by decide)⟩

end Progress

end LoadGen.CommandLine
