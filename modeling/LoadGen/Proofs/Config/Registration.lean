import LoadGen.Proofs.Config.Validation
import Mathlib.Data.List.Induction
import Mathlib.Data.List.Nodup

namespace LoadGen

/-!
# What registrations leave

A registry is in ascending order, and under each name it has what was registered last.  It is made by
these two facts: registries in order that find the same are the same.

* `nameKey_injective`, `nameKey_total` — names are put into a strict order;
* `Registry.IsAscending`, `Registry.isAscending_ofHistory` — the order of a registry;
* `Registry.IsLast`, `Registry.find?_eq_some_iff` — what a name finds;
* `Registry.IsAscending.eq_of_find?`, `Registry.ofHistory_swap` — registries that find the same.
-/

/-! ### The order of names -/

theorem nameKey_injective {name other : String} (same : nameKey name = nameKey other) : name = other :=
  String.toByteArray_inj.mp (ByteArray.ext (Array.toList_inj.mp same))

theorem nameKey_total {name other : String} (ne : name ≠ other)
    (not_lt : ¬ nameKey name < nameKey other) : nameKey other < nameKey name := by
  by_contra not_gt
  exact ne (nameKey_injective (List.le_antisymm not_gt not_lt))

namespace Registry

variable {α : Type} {r s : Registry α} {history : List (String × α)} {name : String} {entry : α}

/-- Whether every name comes before the names that follow it. -/
def IsAscending (r : Registry α) : Prop := r.names.Pairwise fun a b => nameKey a < nameKey b

/-- A registration adds its name to the names. -/
theorem mem_names_register {other : String} :
    other ∈ (r.register name entry).names ↔ other = name ∨ other ∈ r.names := by
  rw [← contains_iff, ← contains_iff]
  unfold contains
  rw [find?_register]
  split <;> simp_all

/-- An entry is inserted where the order wants it. -/
theorem IsAscending.register (h : r.IsAscending) (name : String) (entry : α) :
    (r.register name entry).IsAscending := by
  obtain ⟨entries⟩ := r
  show ((insert name entry entries).map (·.1)).Pairwise _
  change (entries.map (·.1)).Pairwise _ at h
  induction entries with
  | nil => exact List.pairwise_singleton _ _
  | cons first rest ih =>
    obtain ⟨key, old⟩ := first
    obtain ⟨before, sorted⟩ := List.pairwise_cons.mp h
    unfold insert
    by_cases same : name = key
    · rw [if_pos same]
      subst same
      exact h
    · rw [if_neg same]
      by_cases lt : nameKey name < nameKey key
      · rw [if_pos lt]
        refine List.pairwise_cons.mpr ⟨fun other mem => ?_, h⟩
        rcases List.mem_cons.mp mem with rfl | mem
        · exact lt
        · exact List.lt_trans lt (before other mem)
      · rw [if_neg lt]
        refine List.pairwise_cons.mpr ⟨fun other mem => ?_, ih sorted⟩
        -- What is inserted into the rest is the name, and what was there.
        rcases (mem_names_register (r := ⟨rest⟩)).mp mem with rfl | mem
        · exact nameKey_total same lt
        · exact before other mem

theorem ofHistory_concat (history : List (String × α)) (step : String × α) :
    ofHistory (history ++ [step]) = (ofHistory history).register step.1 step.2 :=
  List.foldl_concat ..

theorem isAscending_ofHistory (history : List (String × α)) : (ofHistory history).IsAscending := by
  induction history using List.reverseRecOn with
  | nil => exact List.Pairwise.nil
  | append_singleton history step ih =>
    rw [ofHistory_concat]
    exact ih.register step.1 step.2

theorem IsAscending.entries (h : r.IsAscending) :
    r.entries.Pairwise fun a b => nameKey a.1 < nameKey b.1 := by
  unfold IsAscending names at h
  rwa [List.pairwise_map] at h

/-- Names in order are all different. -/
theorem IsAscending.nodup (h : r.IsAscending) : r.names.Nodup := by
  refine h.imp fun {a b} lt same => ?_
  subst same
  exact List.lt_irrefl _ lt

/-! ### What a name finds -/

/-- Whether a name was registered. -/
def IsRegistered (history : List (String × α)) (name : String) : Prop := ∃ entry, (name, entry) ∈ history

/-- Whether an entry is the one that was registered last under a name. -/
def IsLast (history : List (String × α)) (name : String) (entry : α) : Prop :=
  ∃ front back, history = front ++ (name, entry) :: back ∧ ∀ step ∈ back, step.1 ≠ name

/-- A registry looks through its history backwards. -/
theorem find?_ofHistory (history : List (String × α)) (name : String) :
    (ofHistory history).find? name = history.reverse.lookup name := by
  induction history using List.reverseRecOn with
  | nil => rfl
  | append_singleton history step ih =>
    rw [ofHistory_concat, find?_register, List.reverse_concat, lookup_cons_eq, ih]

theorem find?_eq_some_iff :
    (ofHistory history).find? name = some entry ↔ IsLast history name entry := by
  rw [find?_ofHistory, List.lookup_eq_some_iff]
  constructor
  · -- What stands first backwards was registered last.
    rintro ⟨back, front, cut, other⟩
    refine ⟨front.reverse, back.reverse, ?_, fun step mem same => ?_⟩
    · rw [← List.reverse_reverse history, cut]
      simp
    · exact absurd same.symm (bne_iff_ne.mp (other step (List.mem_reverse.mp mem)))
  · rintro ⟨front, back, rfl, other⟩
    refine ⟨back.reverse, front.reverse, by simp, fun step mem => ?_⟩
    exact bne_iff_ne.mpr (other step (List.mem_reverse.mp mem)).symm

theorem IsLast.mem (last : IsLast history name entry) : (name, entry) ∈ history := by
  obtain ⟨front, back, rfl, -⟩ := last
  exact List.mem_append_right _ List.mem_cons_self

theorem contains_ofHistory :
    (ofHistory history).contains name = true ↔ IsRegistered history name := by
  unfold contains
  rw [find?_ofHistory, List.lookup_isSome_iff]
  constructor
  · rintro ⟨⟨key, entry⟩, mem, same⟩
    obtain rfl : name = key := beq_iff_eq.mp same
    exact ⟨entry, List.mem_reverse.mp mem⟩
  · rintro ⟨entry, mem⟩
    exact ⟨(name, entry), List.mem_reverse.mpr mem, beq_self_eq_true name⟩

/-- A name that was registered was so for a last time. -/
theorem IsRegistered.exists_isLast (registered : IsRegistered history name) :
    ∃ entry, IsLast history name entry := by
  have found := contains_ofHistory.mpr registered
  obtain ⟨entry, here⟩ := Option.isSome_iff_exists.mp found
  exact ⟨entry, find?_eq_some_iff.mp here⟩

/-! ### Registries that find the same -/

/-- In order, an entry is found under its name. -/
theorem IsAscending.mem_iff (h : r.IsAscending) :
    (name, entry) ∈ r.entries ↔ r.find? name = some entry := by
  have nodup := h.nodup
  obtain ⟨entries⟩ := r
  change (entries.map (·.1)).Nodup at nodup
  show _ ∈ entries ↔ entries.lookup name = some entry
  induction entries with
  | nil => simp
  | cons first rest ih =>
    obtain ⟨key, old⟩ := first
    obtain ⟨out, nodup⟩ := List.nodup_cons.mp nodup
    have sorted : IsAscending ⟨rest⟩ := (List.pairwise_cons.mp h).2
    have later : (name, entry) ∈ rest ↔ rest.lookup name = some entry := ih sorted nodup
    rw [List.mem_cons, lookup_cons_eq]
    by_cases same : name = key
    · -- The first entry has the name, and so no other one has it.
      subst same
      have absent : (name, entry) ∉ rest := fun mem => out (List.mem_map.mpr ⟨_, mem, rfl⟩)
      simp [absent, eq_comm]
    · simp [same, later]

/-- **Registries in order that find the same are the same.** -/
theorem IsAscending.eq_of_find? (hr : r.IsAscending) (hs : s.IsAscending)
    (same : ∀ name, r.find? name = s.find? name) : r = s := by
  have perm : r.entries.Perm s.entries := by
    rw [List.perm_ext_iff_of_nodup (List.Nodup.of_map _ hr.nodup) (List.Nodup.of_map _ hs.nodup)]
    rintro ⟨name, entry⟩
    rw [hr.mem_iff, hs.mem_iff, same]
  -- The same entries can be put in order in one way only.
  have entries : r.entries = s.entries :=
    List.Perm.eq_of_pairwise (fun _ _ _ _ lt gt => absurd gt (List.lt_asymm lt))
      hr.entries hs.entries perm
  cases r
  cases s
  exact congrArg mk entries

/-- Registrations of different names can be swapped. -/
theorem IsAscending.register_comm {other : String} (h : r.IsAscending) (ne : name ≠ other)
    (entry entry' : α) :
    (r.register name entry).register other entry' = (r.register other entry').register name entry := by
  refine ((h.register name entry).register other entry').eq_of_find?
    ((h.register other entry').register name entry) fun key => ?_
  simp only [find?_register]
  by_cases first : key = name
  · have other' : key ≠ other := first ▸ ne
    rw [if_neg other', if_pos first, if_pos first]
  · rw [if_neg first, if_neg first]

theorem ofHistory_append (history later : List (String × α)) :
    ofHistory (history ++ later) =
      later.foldl (fun r step => r.register step.1 step.2) (ofHistory history) :=
  List.foldl_append

/-- So can they anywhere in a history. -/
theorem ofHistory_swap {other : String} (ne : name ≠ other) (history later : List (String × α))
    (entry entry' : α) :
    ofHistory (history ++ (name, entry) :: (other, entry') :: later) =
      ofHistory (history ++ (other, entry') :: (name, entry) :: later) := by
  rw [ofHistory_append, ofHistory_append]
  exact congrArg (later.foldl _) ((isAscending_ofHistory history).register_comm ne entry entry')

end Registry

end LoadGen
