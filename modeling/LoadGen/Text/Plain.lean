namespace LoadGen.Text

/-!
# Plain texts

What is left of a text when nothing in it can move the cursor of a terminal or change its colours.  A
terminal takes an escape, and what belongs to it, as an order: a control sequence.

* `Sequence` — where in a control sequence a reader stands;
* `Sequence.next` — where the next character leads, and whether it is shown;
* `plain` — the text without control characters and control sequences;
* `firstLine` — its first line.
-/

/-- Where in a control sequence a reader stands. -/
inductive Sequence where
  /-- In no control sequence. -/
  | outside
  /-- Behind the escape. -/
  | begun
  /-- Behind the escape and marks, which a letter or a digit ends. -/
  | marks
  /-- In the numbers of an order, which a letter ends. -/
  | order
  /-- At the beginning of an order to a device. -/
  | device
  /-- In the numbers of an order to a device. -/
  | deviceNumbers
  /-- In the marks of an order to a device. -/
  | deviceMarks
  /-- In an order to the system, which a bell ends. -/
  | system
  /-- In a text that the terminal does not show. -/
  | concealed
  deriving DecidableEq, Repr

/-- The control characters that only leave a blank. -/
def blankControls : List Char := ['\t', '\n', '\x0c', '\r']

/-- Whether a character is a control character that does more than to leave a blank. -/
def isTerminalControl (c : Char) : Bool :=
  (c < ' ' && !(blankControls.contains c)) || c == '\x7f'

/-- Whether a character is a mark that stands between an escape and its letter. -/
def isSequenceMark (c : Char) : Bool := ' ' ≤ c && c ≤ '/'

/-- Whether a character is a letter, or one of the marks beside letters. -/
def isSequenceLetter (c : Char) : Bool := '@' ≤ c && c ≤ '~'

/-- The byte that ends a concealed text, even in the middle of a character. -/
def terminator : UInt8 := 0x9c

namespace Sequence

/-- The place behind an escape and one more character. -/
def ofKind (c : Char) : Sequence :=
  if isSequenceMark c then marks
  else if c == '[' then order
  else if c == ']' then system
  else if c == 'P' then device
  else if c == 'X' || c == '^' || c == '_' then concealed
  else if '0' ≤ c && c ≤ '~' then outside
  else begun

/-- The place where a character leads that neither begins a control sequence nor breaks one off. -/
def step (s : Sequence) (c : Char) : Sequence :=
  match s with
  | outside => outside
  | begun => ofKind c
  | marks => if '0' ≤ c && c ≤ '~' then outside else marks
  | order => if isSequenceLetter c then outside else order
  | device =>
    if isSequenceMark c then deviceMarks
    else if isSequenceLetter c then concealed
    else if '0' ≤ c && c ≤ '?' then deviceNumbers
    else device
  | deviceNumbers =>
    if isSequenceMark c then deviceMarks
    else if '<' ≤ c && c ≤ '~' then concealed
    else deviceNumbers
  | deviceMarks => if '0' ≤ c && c ≤ '~' then concealed else deviceMarks
  | system => if c == '\x07' then outside else system
  | concealed => if (String.utf8EncodeChar c).contains terminator then outside else concealed

/-- Whether a blank breaks a control sequence off. -/
def yieldsToBlanks : Sequence → Bool
  | outside | begun | marks | order => true
  | device | deviceNumbers | deviceMarks | system | concealed => false

/-- Where a character leads, and whether it is shown. -/
def next (s : Sequence) (c : Char) : Sequence × Bool :=
  -- An escape begins anew, and two characters cancel a sequence, wherever they stand.
  if c == '\x1b' then (begun, false)
  else if c == '\x18' || c == '\x1a' then (outside, false)
  else if s.yieldsToBlanks && blankControls.contains c then (outside, true)
  else (s.step c, s = outside && !isTerminalControl c)

end Sequence

/-- The characters outside of control sequences, without control characters. -/
def plainChars : Sequence → List Char → List Char
  | _, [] => []
  | s, c :: cs =>
    match s.next c with
    | (s, true) => c :: plainChars s cs
    | (s, false) => plainChars s cs

/-- The text without control characters and control sequences. -/
def plain (s : String) : String := String.ofList (plainChars .outside s.toList)

/-- The first line of a text, without its end. -/
def firstLine (s : String) : String :=
  let line := s.toList.takeWhile (· != '\n')
  String.ofList (if line.getLast? == some '\r' then line.dropLast else line)

end LoadGen.Text
