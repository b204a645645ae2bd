namespace LoadGen.Text

/-!
# Tokens

The names that HTTP allows for methods and headers: ASCII letters, digits and a few marks.

* `isToken` — whether a text is such a name.
-/

/-- The marks that can stand in a token. -/
def tokenMarks : List Char := "!#$%&'*+-.^_`|~".toList

/-- Whether a character can stand in a token. -/
def isTokenChar (c : Char) : Bool := c.isAlphanum || tokenMarks.contains c

/-- Whether a text is a token. -/
def isToken (s : String) : Bool := !s.isEmpty && s.toList.all isTokenChar

end LoadGen.Text
