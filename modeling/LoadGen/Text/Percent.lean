namespace LoadGen.Text

/-!
# Percent escapes

In addresses a byte can be written as a percent sign and two hexadecimal digits.

* `percentEncode` — writes the characters of a class, and all that are not ASCII, by their bytes;
* `percentDecode` — reads the escapes of a text;
* `percentDecodeText?` — the same, where the bytes make up a text again.
-/

/-- The value of a hexadecimal digit of either case. -/
def hexValue? (c : Char) : Option Nat :=
  if '0' ≤ c ∧ c ≤ '9' then some (c.toNat - '0'.toNat)
  else if 'a' ≤ c ∧ c ≤ 'f' then some (c.toNat - 'a'.toNat + 10)
  else if 'A' ≤ c ∧ c ≤ 'F' then some (c.toNat - 'A'.toNat + 10)
  else none

/-- The hexadecimal digit of a value, upper case. -/
def hexDigit (n : Nat) : Char := (Nat.digitChar n).toUpper

/-- The escape of a byte. -/
def percentByte (b : UInt8) : List Char := ['%', hexDigit (b.toNat / 16), hexDigit (b.toNat % 16)]

/-- Escapes the characters of a class and all that are not ASCII. -/
def percentEncode (isEscaped : Char → Bool) (cs : List Char) : List Char :=
  cs.flatMap fun c =>
    if isEscaped c || 0x80 ≤ c.toNat then (String.utf8EncodeChar c).flatMap percentByte else [c]

/-- The bytes of a text whose escapes are read.  A percent sign without two digits is itself. -/
def percentDecode : List Char → List UInt8
  | '%' :: a :: b :: cs =>
    match hexValue? a, hexValue? b with
    | some high, some low => .ofNat (16 * high + low) :: percentDecode cs
    | _, _ => String.utf8EncodeChar '%' ++ percentDecode (a :: b :: cs)
  | c :: cs => String.utf8EncodeChar c ++ percentDecode cs
  | [] => []

/-- The text whose escapes are read, if its bytes are a text. -/
def percentDecodeText? (s : String) : Option String :=
  String.fromUTF8? ⟨(percentDecode s.toList).toArray⟩

end LoadGen.Text
