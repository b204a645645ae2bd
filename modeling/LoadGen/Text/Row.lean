import LoadGen.Text.Percent

namespace LoadGen.Text

/-!
# Rows of tables

A table of characters is written in rows, and a row in entries with blanks between them.  An entry holds
the code points of its characters in hexadecimal digits, with points between them.

* `rowEntries` — the entries of a row;
* `entryChar`, `entryChars` — what an entry holds.
-/

/-- The entries of a row. -/
def rowEntries (row : String) : List String := row.splitOn " "

/-- The number that hexadecimal digits are. -/
def readHex (digits : String) : Nat :=
  digits.toList.foldl (fun n c => 16 * n + (hexValue? c).getD 0) 0

/-- The character of an entry. -/
def entryChar (entry : String) : Char := .ofNat (readHex entry)

/-- The characters of an entry. -/
def entryChars (entry : String) : List Char := (entry.splitOn ".").map entryChar

end LoadGen.Text
