import LoadGen.Domain.Joining
import LoadGen.Domain.Punycode
import LoadGen.Text.Normal

namespace LoadGen.Domain

/-!
# Domain names

A domain name can have characters of any language.  It is looked up in an ASCII form, in which labels with
other characters are written with a mark of their own.

* `Label.ofText?` — a label between two points, read from its image;
* `ofText?` — the ASCII form of a name, if it is one.
-/

/-! ### Labels -/

/-- What an ASCII form of other characters begins with. -/
def formMark : List Char := "xn--".toList

/-- The most characters of a label that has an ASCII form of its own. -/
def encodeLimit : Nat := 1000

/-- The most characters of such a form behind its mark. -/
def decodeLimit : Nat := 2000

/-- Whether all characters are ASCII. -/
def isAscii (cs : List Char) : Bool := cs.all (·.toNat < 0x80)

/-- A label: its characters, and its ASCII form. -/
structure Label where
  text : List Char
  form : List Char

/-- Whether a label with other characters than ASCII can stand in a name. -/
def isProper (text : List Char) : Bool :=
  !(text.head?.any Text.isMark) && joinersInPlace text

/-- The label that an ASCII form stands for, which is its own image in normal form. -/
def Label.ofForm? (form : List Char) : Option Label := do
  let digits := form.drop formMark.length
  if digits.getLast?.all (· == '-') || decodeLimit < digits.length then none
  else
    let text ← decode? digits
    if mapped? text = some text && Text.normalize text = text && isProper text then some { text, form }
    else none

/-- The label of an image. -/
def Label.ofText? (text : List Char) : Option Label :=
  if formMark.isPrefixOf text then if isAscii text then ofForm? text else none
  else if isAscii text then some { text, form := text }
  else if isProper text && text.length ≤ encodeLimit then
    some { text, form := formMark ++ encode text }
  else none

/-! ### Names -/

/-- The marks that cannot stand in a name. -/
def forbiddenMarks : List Char := "%#/:<>?@[\\]^|".toList

/-- Whether a character cannot stand in the ASCII form of a name. -/
def isForbidden (c : Char) : Bool := c ≤ ' ' || c == '\x7f' || forbiddenMarks.contains c

/-- The parts of a text between points. -/
def splitLabels : List Char → List (List Char)
  | [] => [[]]
  | c :: cs =>
    if c == '.' then [] :: splitLabels cs
    else match splitLabels cs with
      | first :: rest => (c :: first) :: rest
      | [] => [[c]]

/-- The ASCII form of a name. -/
def ofText? (cs : List Char) : Option String := do
  let labels ← (splitLabels (Text.normalize (← mapped? cs))).mapM Label.ofText?
  let form := ['.'].intercalate (labels.map Label.form)
  let isOneWay := labels.all (readsOneWay ·.text) || !labels.any (isRightToLeft ·.text)
  if isOneWay && !form.any isForbidden then some (String.ofList form) else none

end LoadGen.Domain
