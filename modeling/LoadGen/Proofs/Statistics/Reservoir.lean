import LoadGen.Reservoir
import Mathlib.Data.List.Perm.Basic
import Mathlib.Data.List.Perm.Subperm

namespace LoadGen

/-!
# What a reservoir holds

A reservoir has seen every value that it was offered, and holds as many of them as it can.  While there
is room for all, it holds them as they came, whatever was drawn.

* `Reservoir.Holds` — what a reservoir holds of the values that it was offered;
* `Reservoir.Holds.offer` — one more value, with any draw;
* `Reservoir.update_eq` — nothing breaks off before the count of values leaves its word.
-/

namespace Reservoir

/-- What a reservoir of a requested capacity holds of the values that it was offered: as many as it can,
    distinct places holding distinct offers, and all of them in their order while there is room. -/
structure Holds (capacity : Nat) (offered : List Duration) (r : Reservoir) : Prop where
  capacity_eq : r.capacity = max capacity 1
  seen_eq : r.seen = offered.length
  size_eq : r.values.size = min r.capacity offered.length
  kept : r.values.toList.Subperm offered
  whole : offered.length ≤ r.capacity → r.values.toList = offered

theorem holds_empty (capacity : Nat) : Holds capacity [] (empty capacity) where
  capacity_eq := rfl
  seen_eq := rfl
  size_eq := (Nat.min_zero _).symm
  kept := .refl _
  whole _ := rfl

variable {capacity : Nat} {offered : List Duration} {r : Reservoir}

/-- Replacing a value keeps distinct offers in distinct places. -/
theorem subperm_set {values : List Duration} (kept : values.Subperm offered) (value : Duration)
    {slot : Nat} (inside : slot < values.length) :
    (values.set slot value).Subperm (offered ++ [value]) := by
  have rest : (values.eraseIdx slot).Subperm offered :=
    (List.eraseIdx_sublist values slot).subperm.trans kept
  have moved : (value :: values.eraseIdx slot).Subperm (value :: offered) :=
    (List.subperm_cons value).mpr rest
  have placed : (values.set slot value).Subperm (value :: offered) :=
    (List.set_perm_cons_eraseIdx inside value).subperm.trans moved
  exact placed.trans (List.perm_append_singleton value offered).symm.subperm

namespace Holds

/-- One more value. -/
theorem offer (h : Holds capacity offered r) (value : Duration) (slot : Nat) :
    Holds capacity (offered ++ [value]) (r.offer value slot) := by
  obtain ⟨capacity_eq, seen_eq, size_eq, kept, whole⟩ := h
  have length : (offered ++ [value]).length = offered.length + 1 := List.length_append
  refine ⟨?_, ?_, ?_, ?_, ?_⟩
  · rw [capacity_offer, capacity_eq]
  · rw [seen_offer, seen_eq, length]
  · rw [size_offer, capacity_offer, length]
    split <;> omega
  · unfold Reservoir.offer
    split
    · show (r.values.push value).toList.Subperm _
      rw [Array.toList_push]
      exact (List.subperm_append_right [value]).mpr kept
    · split
      · -- A full reservoir has every slot below its capacity.
        have inside : slot < r.values.toList.length := by
          rw [Array.length_toList]
          omega
        show (r.values.setIfInBounds slot value).toList.Subperm _
        rw [Array.toList_setIfInBounds]
        exact subperm_set kept value inside
      · exact kept.trans (List.sublist_append_left offered [value]).subperm
  · intro room
    rw [capacity_offer, length] at room
    have vacant : r.values.size < r.capacity := by omega
    unfold Reservoir.offer
    rw [if_pos vacant]
    show (r.values.push value).toList = _
    rw [Array.toList_push, whole (by omega)]

end Holds

/-- Only the count of values can break off: every slot that is replaced is there. -/
theorem update_eq (r : Reservoir) (value : Duration) (slot : Nat) :
    r.update value slot =
      if r.seen + 1 < wordCount then .ok (r.offer value slot) else .error .addOverflow := by
  unfold update addWord
  by_cases few : r.seen + 1 < wordCount
  · rw [if_pos few, if_pos few]
    show (if r.values.size < r.capacity then .ok (r.offer value slot)
      else if slot < r.capacity ∧ r.values.size ≤ slot then .error (.outOfBounds r.values.size slot)
      else .ok (r.offer value slot) : Except Fault Reservoir) = .ok (r.offer value slot)
    by_cases vacant : r.values.size < r.capacity
    · rw [if_pos vacant]
    · have inside : ¬ (slot < r.capacity ∧ r.values.size ≤ slot) := by omega
      rw [if_neg vacant, if_neg inside]
  · rw [if_neg few, if_neg few]
    rfl

end Reservoir

end LoadGen
