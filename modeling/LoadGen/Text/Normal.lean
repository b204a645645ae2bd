import LoadGen.Text.CombiningClass
import LoadGen.Text.Composition

namespace LoadGen.Text

/-!
# Normal forms of texts

Texts that look the same can differ in their characters: a letter with an accent is one character or two,
and two marks on a letter come in either order.  The normal form has the fewest characters, and marks in
the order of their classes.

* `decomposed` — a text with every character taken apart, and marks in order;
* `composed` — a text with what can be put together put together;
* `normalize` — the normal form.
-/

/-- The most steps in which a character is taken apart. -/
def compositionDepth : Nat := 4

/-- The characters that a character is made of. -/
def partsOf : Nat → Char → List Char
  | 0, c => [c]
  | depth + 1, c =>
    match decompose? c with
    | some (a, b) => partsOf depth a ++ [b]
    | none => [c]

/-- Puts a character before a text, but behind marks of lower classes. -/
def place (c : Char) : List Char → List Char
  | [] => [c]
  | d :: ds =>
    if combiningClass d != 0 && combiningClass d < combiningClass c then d :: place c ds else c :: d :: ds

/-- A text with every character taken apart, and marks in order. -/
def decomposed (cs : List Char) : List Char :=
  (cs.flatMap (partsOf compositionDepth)).foldr place []

/-- A text with what can be put together put together.  `base` is the last character that is no mark, and
    `marks` those behind it that it did not take up, newest first. -/
def composedAfter (base : Char) (marks : List Char) : List Char → List Char
  | [] => base :: marks.reverse
  | c :: cs =>
    -- A mark of the same class keeps a character from the base.
    let isNear := match marks with
      | [] => true
      | m :: _ => combiningClass m < combiningClass c
    match if isNear then compose? base c else none with
    | some base => composedAfter base marks cs
    | none =>
      if combiningClass c = 0 then base :: (marks.reverse ++ composedAfter c [] cs)
      else composedAfter base (c :: marks) cs

/-- A text with what can be put together put together. -/
def composed : List Char → List Char
  | [] => []
  | c :: cs => composedAfter c [] cs

/-- The normal form of a text. -/
def normalize (cs : List Char) : List Char := composed (decomposed cs)

end LoadGen.Text
