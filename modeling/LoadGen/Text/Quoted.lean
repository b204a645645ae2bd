import LoadGen.Text.Extending
import LoadGen.Text.Unprintable

namespace LoadGen.Text

/-!
# Quoted texts

A quoted text stands between double quotes.  Quotes, backslashes and the common controls have short
escapes; a character that cannot be seen on its own is written by its code point.

* `escapeChar` — how one character is written between the quotes;
* `quote` — a quoted text;
* `quoteList` — a bracketed list of quoted texts.
-/

/-- Digits of a code point, lower case, without padding. -/
def hexDigits (n : Nat) : List Char := Nat.toDigits 16 n

/-- The escape that names a character by its code point. -/
def escapeCode (c : Char) : List Char :=
  '\\' :: 'u' :: '\x7b' :: hexDigits c.toNat ++ ['\x7d']

/-- How a character is written between the quotes. -/
def escapeChar (c : Char) : List Char :=
  match c with
  | '"' => ['\\', '"']
  | '\\' => ['\\', '\\']
  | '\n' => ['\\', 'n']
  | '\r' => ['\\', 'r']
  | '\t' => ['\\', 't']
  | '\x00' => ['\\', '0']
  | c =>
    if ' ' ≤ c ∧ c ≤ '~' then [c]
    else if isExtending c || isUnprintable c then escapeCode c
    else [c]

/-- The characters of a quoted text. -/
def quoteChars (cs : List Char) : List Char := '"' :: cs.flatMap escapeChar ++ ['"']

/-- A quoted text. -/
def quote (s : String) : String := String.ofList (quoteChars s.toList)

/-- A bracketed list of quoted texts. -/
def quoteList (texts : List String) : String :=
  "[" ++ ", ".intercalate (texts.map quote) ++ "]"

end LoadGen.Text
