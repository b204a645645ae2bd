import LoadGen.Text.Percent

namespace LoadGen.Net

/-!
# Internet addresses

Addresses of both versions, with their usual written forms.

* `Ipv4`, `Ipv6` — the addresses;
* `readIpv4?`, `readIpv6?` — an address at the beginning of a text, and the rest of the text;
* `readNumeralIpv4?` — an address of version four in any of its notations;
* `Ipv4.shown`, `Ipv6.shown` — the canonical written form.
-/

/-- An address of four bytes. -/
structure Ipv4 where
  bits : UInt32
  deriving DecidableEq

/-- An address of eight groups of sixteen bits. -/
structure Ipv6 where
  groups : List UInt16
  length_eq : groups.length = 8
  deriving DecidableEq

/-! ### Writing -/

namespace Ipv4

/-- The address of four bytes, first byte first. -/
def ofBytes (a b c d : Nat) : Ipv4 := ⟨.ofNat (((a * 256 + b) * 256 + c) * 256 + d)⟩

/-- The address of up to four numbers, of which the last fills the bytes that the others leave. -/
def ofNumbers? (numbers : List Nat) : Option Ipv4 := do
  let last ← numbers.getLast?
  let front := numbers.dropLast
  if 4 < numbers.length || front.any (255 < ·) || Nat.pow 256 (4 - front.length) ≤ last then none
  else
    let value := front.zipIdx.foldl (fun n (part, i) => n + part * Nat.pow 256 (3 - i)) last
    return ⟨.ofNat value⟩

/-- The byte with a number, counted from the last one. -/
def byte (ip : Ipv4) (index : Nat) : Nat := ip.bits.toNat / Nat.pow 256 index % 256

/-- The upper half. -/
def high (ip : Ipv4) : UInt16 := .ofNat (ip.bits.toNat / 65536)

/-- The lower half. -/
def low (ip : Ipv4) : UInt16 := .ofNat (ip.bits.toNat % 65536)

/-- Four decimal numbers with points between them. -/
def shown (ip : Ipv4) : String := s!"{ip.byte 3}.{ip.byte 2}.{ip.byte 1}.{ip.byte 0}"

end Ipv4

namespace Ipv6

/-- The address of eight groups. -/
def ofGroups? (groups : List UInt16) : Option Ipv6 :=
  if h : groups.length = 8 then some ⟨groups, h⟩ else none

/-- A group, in hexadecimal digits. -/
def groupText (g : UInt16) : String := String.ofList (Nat.toDigits 16 g.toNat)

/-- Groups with colons between them. -/
def groupsText (groups : List UInt16) : String := ":".intercalate (groups.map groupText)

/-- Number of zero groups at the beginning. -/
def leadingZeros (groups : List UInt16) : Nat := (groups.takeWhile (· == 0)).length

/-- Place and length of the longest run of zero groups, the first of several. -/
def longestZeros (groups : List UInt16) : Nat × Nat :=
  (List.range groups.length).foldl
    (fun best i =>
      let run := leadingZeros (groups.drop i)
      if best.2 < run then (i, run) else best)
    (0, 0)

/-- The groups, with the longest run of at least two zero groups left out. -/
def compressed (ip : Ipv6) : String :=
  let (start, run) := longestZeros ip.groups
  if 1 < run then
    groupsText (ip.groups.take start) ++ "::" ++ groupsText (ip.groups.drop (start + run))
  else groupsText ip.groups

/-- The address of version four that is mapped into this one, if there is one. -/
def mapped? (ip : Ipv6) : Option Ipv4 :=
  match ip.groups with
  | [0, 0, 0, 0, 0, 0xffff, high, low] => some ⟨.ofNat (high.toNat * 65536 + low.toNat)⟩
  | _ => none

/-- The canonical written form. -/
def shown (ip : Ipv6) : String :=
  match ip.mapped? with
  | some v4 => "::ffff:" ++ v4.shown
  | none => ip.compressed

end Ipv6

/-! ### Reading -/

/-- The value of a digit in a base of up to sixteen. -/
def digitIn? (base : Nat) (c : Char) : Option Nat :=
  (Text.hexValue? c).filter (· < base)

/-- A number below `limit` at the beginning of a text, in at most `most` digits if a bound is given. -/
def readNumber? (base limit : Nat) (most : Option Nat) (zeroFirst : Bool) (cs : List Char) :
    Option (Nat × List Char) :=
  let isDigit (c : Char) : Bool := (digitIn? base c).isSome
  let digits := cs.takeWhile isDigit
  let value := digits.foldl (fun n c => base * n + (digitIn? base c).getD 0) 0
  let tooMany := most.any (· < digits.length)
  let badZero := !zeroFirst && digits.head? == some '0' && 1 < digits.length
  if digits.isEmpty || tooMany || badZero || limit ≤ value then none
  else some (value, cs.dropWhile isDigit)

/-- The rest of a text that begins with a character. -/
def expect? (c : Char) : List Char → Option (List Char)
  | d :: cs => if c = d then some cs else none
  | [] => none

/-- A byte of an address. -/
def readByte? (cs : List Char) : Option (Nat × List Char) := readNumber? 10 256 (some 3) false cs

/-- An address of version four at the beginning of a text. -/
def readIpv4? (cs : List Char) : Option (Ipv4 × List Char) := do
  let (a, cs) ← readByte? cs
  let (b, cs) ← readByte? (← expect? '.' cs)
  let (c, cs) ← readByte? (← expect? '.' cs)
  let (d, cs) ← readByte? (← expect? '.' cs)
  return (.ofBytes a b c d, cs)

/-- A number that is hexadecimal behind `0x`, octal behind `0`, and decimal otherwise. -/
def readNumeral? (part : List Char) : Option Nat :=
  let number := match part with
    | '0' :: 'x' :: digits | '0' :: 'X' :: digits => readNumber? 16 4294967296 none true digits
    | '0' :: digits => readNumber? 8 4294967296 none true ('0' :: digits)
    | digits => readNumber? 10 4294967296 none true digits
  match number with
  | some (n, []) => some n
  | _ => none

/-- The address of version four that a text is in the notation of one to four numbers with points
    between them. -/
def readNumeralIpv4? (s : String) : Option Ipv4 := do
  Ipv4.ofNumbers? (← (s.splitOn ".").mapM fun part => readNumeral? part.toList)

/-- At most a number of groups with colons between them, of which the last two can be written as an
    address of version four.  The flag tells whether they were. -/
def readGroups : Nat → Bool → List Char → List UInt16 × Bool × List Char
  | 0, _, cs => ([], false, cs)
  | n + 1, first, cs =>
    match if first then some cs else expect? ':' cs with
    | none => ([], false, cs)
    | some body =>
      -- An address of version four takes up two groups.
      match if 1 ≤ n then readIpv4? body else none with
      | some (ip, rest) => ([ip.high, ip.low], true, rest)
      | none =>
        match readNumber? 16 65536 (some 4) true body with
        | none => ([], false, cs)
        | some (group, rest) =>
          let (groups, embedded, rest) := readGroups n false rest
          (.ofNat group :: groups, embedded, rest)

/-- An address of version six at the beginning of a text. -/
def readIpv6? (cs : List Char) : Option (Ipv6 × List Char) := do
  let (front, embedded, cs) := readGroups 8 true cs
  if front.length = 8 then return (← Ipv6.ofGroups? front, cs)
  else if embedded then none
  else
    -- Two colons stand for one zero group or more.
    let cs ← expect? ':' (← expect? ':' cs)
    let (back, _, cs) := readGroups (7 - front.length) true cs
    let zeros := List.replicate (8 - front.length - back.length) 0
    return (← Ipv6.ofGroups? (front ++ zeros ++ back), cs)

end LoadGen.Net
