import LoadGen.CommandLine.Value
import LoadGen.Text.Split

namespace LoadGen.CommandLine

/-!
# Reading command lines

Words are read from left to right.  A value can be attached to the name of its setting, as in
`--rate=5`, `-r=5` and `-r5`, and is then looked at at once.  A value in a word of its own is looked at
when the next name comes, or at the end.  An unknown word is refused before anything that is still
pending.

* `Progress` — what has been read;
* `Progress.make` — makes a setting;
* `Progress.settle` — makes the setting that is pending;
* `Progress.read` — reads one word;
* `ofWords` — reads a command line.
-/

/-- What has been read of a command line. -/
structure Progress where
  line : CommandLine := {}
  /-- The settings that have been made. -/
  given : List Setting := []
  /-- The setting that was named last, with its value once that has come. -/
  pending : Option (Setting × Option String) := none
  /-- Whether only values without a name may follow. -/
  trailing : Bool := false

namespace Progress

/-- Makes a setting.  Each can be made once. -/
def make (p : Progress) (s : Setting) : Option String → Reading Progress
  | none => refuse (.usage (.missingValue s))
  | some value =>
    if p.given.contains s then refuse (.usage (.repeated s))
    else do return { p with line := ← p.line.assign s value, given := s :: p.given }

/-- Makes the setting that is pending. -/
def settle (p : Progress) : Reading Progress :=
  match p.pending with
  | none => .ok p
  | some (s, value) => { p with pending := none }.make s value

/-- Takes a setting whose value is attached, or still to come. -/
def take (p : Progress) (s : Setting) (attached : Option (List Char)) : Reading Progress := do
  let p ← p.settle
  match attached with
  | some value => p.make s (some (String.ofList value))
  | none => return { p with pending := some (s, none) }

/-- Refuses a word that nobody knows. -/
def unknown (word : String) : Reading Progress := refuse (.usage (.unknownWord word))

/-- Answers with something else than a run, once what is pending is settled. -/
def divert (p : Progress) (answer : Refusal) : Reading Progress := do
  let _ ← p.settle
  refuse answer

/-- Takes an option without a value. -/
def takeFlag (p : Progress) (name : String) (answer : Refusal) :
    Option (List Char) → Reading Progress
  | some value => refuse (.usage (.unneededValue name (String.ofList value)))
  | none => p.divert answer

/-- Takes a long name, with the value that is attached to it. -/
def takeLong (p : Progress) (name : String) (attached : Option (List Char)) : Reading Progress :=
  match Setting.ofLong? name with
  | some s => p.take s attached
  | none =>
    if name = "help" then p.takeFlag "--help" .help attached
    else if name = "version" then p.takeFlag "--version" .version attached
    else unknown ("--" ++ name)

/-- What is attached to a letter: the rest of the word, without one sign of equality. -/
def attachedTo : List Char → Option (List Char)
  | [] => none
  | '=' :: value => some value
  | value => some value

/-- Takes a letter, with the rest of its word. -/
def takeShort (p : Progress) (letter : Char) (rest : List Char) : Reading Progress :=
  match Setting.ofShort? letter with
  | some s => p.take s (attachedTo rest)
  | none =>
    if letter = 'h' then p.divert .help
    else if letter = 'V' then p.divert .version
    else unknown (String.ofList ['-', letter])

/-- Takes a word that is no name: the value that is still to come, or nothing known. -/
def takePlain (p : Progress) (word : String) : Reading Progress :=
  match p.pending with
  | some (s, none) => .ok { p with pending := some (s, some word) }
  | _ => unknown word

/-- Reads one word. -/
def read (p : Progress) (word : String) : Reading Progress :=
  if p.trailing then unknown word
  else match word.toList with
    | ['-', '-'] => .ok { p with trailing := true }
    | '-' :: '-' :: body =>
      let (name, attached) := Text.splitOnce '=' body
      p.takeLong (String.ofList name) attached
    | '-' :: letter :: rest => p.takeShort letter rest
    -- A lone dash is a value like any other.
    | _ => p.takePlain word

end Progress

/-- Reads a command line. -/
def ofWords (words : List String) : Reading CommandLine := do
  let p ← words.foldlM Progress.read {}
  return (← p.settle).line

end LoadGen.CommandLine
