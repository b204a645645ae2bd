namespace LoadGen

/-!
# Words

How many values the words of each width have.  The counts are written out, so that arithmetic on them
is arithmetic on numerals.
-/

/-- Number of values of a 16-bit word. -/
abbrev quarterWordCount : Nat := 65536

/-- Number of values of a 32-bit word. -/
abbrev halfWordCount : Nat := 4294967296

/-- Number of values of a 64-bit word. -/
abbrev wordCount : Nat := 18446744073709551616

/-- Number of values of a 64-bit word that are not negative when one bit is the sign. -/
abbrev signedWordCount : Nat := 9223372036854775808

/-- Number of values of a 128-bit word. -/
abbrev doubleWordCount : Nat := 340282366920938463463374607431768211456

end LoadGen
