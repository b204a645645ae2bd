namespace LoadGen.Text

/-!
# Splitting texts

* `splitOnce` — the parts before and after the first character of a kind;
* `segments` — the parts between all characters of a kind.
-/

/-- The part before the first `c`, and the part after it, if there is a `c`. -/
def splitOnce (c : Char) (cs : List Char) : List Char × Option (List Char) :=
  match cs.dropWhile (· != c) with
  | _ :: rest => (cs.takeWhile (· != c), some rest)
  | [] => (cs, none)

/-- The parts, with the character between them, make up the text. -/
theorem splitOnce_join (c : Char) (cs : List Char) :
    (splitOnce c cs).1 ++ (splitOnce c cs).2.elim [] (c :: ·) = cs := by
  have whole := List.takeWhile_append_dropWhile (p := (· != c)) (l := cs)
  have first := List.head?_dropWhile_not (· != c) cs
  unfold splitOnce
  split
  · rename_i a rest tail
    rw [tail] at whole first
    obtain rfl : a = c := by simpa using first
    exact whole
  · exact List.append_nil cs

theorem splitOnce_append {c : Char} {front : List Char} (out : c ∉ front) (rest : List Char) :
    splitOnce c (front ++ c :: rest) = (front, some rest) := by
  have kept : ∀ a ∈ front, (a != c) = true := fun a mem =>
    bne_iff_ne.mpr fun same => out (same ▸ mem)
  unfold splitOnce
  rw [List.dropWhile_append_of_pos kept, List.takeWhile_append_of_pos kept]
  simp

/-- The parts of a text between its characters `c`. -/
def segments (c : Char) (text : String) : List String := (text.toList.splitOn c).map String.ofList

end LoadGen.Text
