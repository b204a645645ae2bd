import LoadGen.Text.Split

namespace LoadGen.Text

/-!
# Segments make up a text

* `not_mem_of_mem_splitOn` — a segment does not contain what segments are cut at;
* `segments_eq_iff` — the segments of a text are the parts without the cutting character that make it up.
-/

variable {c : Char}

theorem not_mem_of_mem_splitOn {cs piece : List Char} (mem : piece ∈ cs.splitOn c) : c ∉ piece := by
  induction cs generalizing piece with
  | nil =>
    obtain rfl := List.mem_singleton.mp (List.splitOn_nil c ▸ mem)
    exact List.not_mem_nil
  | cons a cs ih =>
    rw [List.splitOn_cons_eq_if_modifyHead] at mem
    by_cases cut : (a == c) = true
    · rw [if_pos cut] at mem
      rcases List.mem_cons.mp mem with rfl | mem
      · exact List.not_mem_nil
      · exact ih mem
    · rw [if_neg cut] at mem
      cases pieces : cs.splitOn c with
      | nil => exact absurd pieces (List.splitOn_ne_nil c cs)
      | cons first rest =>
        rw [pieces, List.modifyHead_cons] at mem
        rw [pieces] at ih
        rcases List.mem_cons.mp mem with rfl | mem
        · -- The first piece has become longer by a character that is not cut at.
          intro here
          rcases List.mem_cons.mp here with rfl | here
          · exact cut (beq_self_eq_true c)
          · exact ih List.mem_cons_self here
        · exact ih (List.mem_cons_of_mem _ mem)

/-- **Segments are the parts that make up a text and have nothing to cut at.** -/
theorem segments_eq_iff {text : String} {parts : List String} (some : parts ≠ []) :
    segments c text = parts ↔
      text = (String.singleton c).intercalate parts ∧ ∀ part ∈ parts, c ∉ part.toList := by
  have lists (pieces : List (List Char)) :
      (pieces.map String.ofList).map String.toList = pieces := by
    rw [List.map_map]
    exact List.map_id'' (fun _ => String.toList_ofList) pieces
  unfold segments
  constructor
  · rintro rfl
    refine ⟨?_, fun part mem => ?_⟩
    · rw [← String.toList_inj, String.toList_intercalate, lists, String.toList_singleton]
      exact (List.intercalate_splitOn c).symm
    · obtain ⟨piece, cut, rfl⟩ := List.mem_map.mp mem
      rw [String.toList_ofList]
      exact not_mem_of_mem_splitOn cut
  · rintro ⟨rfl, clean⟩
    rw [String.toList_intercalate, String.toList_singleton, List.splitOn_intercalate]
    · rw [List.map_map]
      exact List.map_id'' (fun _ => String.ofList_toList) parts
    · intro piece mem
      obtain ⟨part, here, rfl⟩ := List.mem_map.mp mem
      exact clean part here
    · simpa using some

end LoadGen.Text
