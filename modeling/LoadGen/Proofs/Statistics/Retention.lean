import LoadGen.Proofs.Statistics.Reservoir

namespace LoadGen

/-!
# What a reservoir retains

A reservoir is offered values and emptied, in any order and with any draws.  What it holds depends on the
values since it was last emptied only, and holds at every moment what a new reservoir would hold of
them.

* `Reservoir.Call`, `Reservoir.perform` — one call, with the draw for it;
* `Reservoir.offered` — the values that were offered since the last call that emptied the reservoir;
* `Reservoir.Holds.perform_cases` — one call keeps what a reservoir holds, or breaks off;
* `Reservoir.Holds.of_performAll`, `Reservoir.Holds.performAll_eq_ok_iff` — the same for many calls;
* `Reservoir.getElem?_offer_of_full` — a full reservoir changes in the drawn slot only;
* `DrawingReservoir.exists_slots` — a generator draws some of these draws;
* `Reservoir.sample_retains_stream` — the whole life of a reservoir.
-/

namespace Reservoir

/-- A call of a reservoir. -/
inductive Call where
  | update (value : Duration)
  | clear

/-- Carries out a call.  `slot` is the draw for it, which only an update of a full reservoir looks at. -/
def perform (r : Reservoir) (call : Call) (slot : Nat) : Except Fault Reservoir :=
  match call with
  | .update value => r.update value slot
  | .clear => .ok r.clear

/-- Carries out calls, each with its draw. -/
def performAll (r : Reservoir) (calls : List (Call × Nat)) : Except Fault Reservoir :=
  calls.foldlM (fun r call => r.perform call.1 call.2) r

/-- The values since the reservoir was last emptied, after one more call. -/
def offeredAfter (past : List Duration) : Call → List Duration
  | .update value => past ++ [value]
  | .clear => []

/-- The values that were offered since the last call that emptied the reservoir. -/
def offered (calls : List Call) : List Duration := calls.foldl offeredAfter []

variable {capacity : Nat} {past : List Duration} {r r' : Reservoir}

/-! ### One call -/

theorem Holds.clear (h : Holds capacity past r) : Holds capacity [] r.clear where
  capacity_eq := h.capacity_eq
  seen_eq := rfl
  size_eq := (Nat.min_zero _).symm
  kept := .refl _
  whole _ := rfl

/-- One call keeps what a reservoir holds, or it breaks off because the values since the reservoir was last
    emptied are too many to count. -/
theorem Holds.perform_cases (h : Holds capacity past r) (call : Call) (slot : Nat) :
    (∃ r', r.perform call slot = .ok r' ∧ Holds capacity (offeredAfter past call) r' ∧
      (offeredAfter past call).length < wordCount) ∨
    (r.perform call slot = .error .addOverflow ∧
      wordCount ≤ (offeredAfter past call).length) := by
  cases call with
  | clear => exact .inl ⟨r.clear, rfl, h.clear, Nat.two_pow_pos 64⟩
  | update value =>
    have length : (offeredAfter past (.update value)).length = past.length + 1 := List.length_append
    have update : r.perform (.update value) slot =
        if past.length + 1 < wordCount then .ok (r.offer value slot) else .error .addOverflow := by
      rw [← h.seen_eq]
      exact update_eq r value slot
    rw [update, length]
    by_cases few : past.length + 1 < wordCount
    · rw [if_pos few]
      exact .inl ⟨_, rfl, h.offer value slot, few⟩
    · rw [if_neg few]
      exact .inr ⟨rfl, Nat.le_of_not_lt few⟩

/-- A full reservoir keeps its size, and changes in the drawn slot only. -/
theorem getElem?_offer_of_full (full : r.capacity ≤ r.values.size) (value : Duration) (slot : Nat) :
    (r.offer value slot).values.size = r.values.size ∧
      ∀ other, other ≠ slot → (r.offer value slot).values[other]? = r.values[other]? := by
  have unable : ¬ r.values.size < r.capacity := Nat.not_lt.mpr full
  refine ⟨by rw [size_offer, if_neg unable], fun other ne => ?_⟩
  unfold offer
  rw [if_neg unable]
  split
  · show (r.values.setIfInBounds slot value)[other]? = _
    rw [Array.getElem?_setIfInBounds_ne ne.symm]
  · rfl

/-! ### Many calls -/

theorem performAll_cons (r : Reservoir) (call : Call × Nat) (calls : List (Call × Nat)) :
    r.performAll (call :: calls) = r.perform call.1 call.2 >>= fun r => r.performAll calls :=
  List.foldlM_cons

/-- Calls keep what a reservoir holds. -/
theorem Holds.of_performAll (h : Holds capacity past r) {calls : List (Call × Nat)}
    (done : r.performAll calls = .ok r') :
    Holds capacity ((calls.map Prod.fst).foldl offeredAfter past) r' := by
  induction calls generalizing past r with
  | nil =>
    cases done
    exact h
  | cons call calls ih =>
    rw [performAll_cons] at done
    obtain ⟨mid, first, rest⟩ := bind_eq_ok_iff.mp done
    rcases h.perform_cases call.1 call.2 with ⟨_, fine, h', -⟩ | ⟨broken, -⟩
    · rw [fine] at first
      cases first
      exact ih h' rest
    · rw [broken] at first
      cases first

/-- Calls are carried out to the end exactly if the values since the reservoir was last emptied are never
    too many to count. -/
theorem Holds.performAll_eq_ok_iff (h : Holds capacity past r) (few : past.length < wordCount)
    (calls : List (Call × Nat)) :
    (∃ r', r.performAll calls = .ok r') ↔
      ∀ front, front <+: calls →
        ((front.map Prod.fst).foldl offeredAfter past).length < wordCount := by
  induction calls generalizing past r with
  | nil =>
    refine iff_of_true ⟨r, rfl⟩ fun front start => ?_
    rw [List.prefix_nil.mp start]
    exact few
  | cons call calls ih =>
    rw [performAll_cons]
    rcases h.perform_cases call.1 call.2 with ⟨mid, fine, h', few'⟩ | ⟨broken, many⟩
    · rw [fine]
      show (∃ r', mid.performAll calls = .ok r') ↔ _
      rw [ih h' few']
      constructor
      · intro rest front start
        rcases List.prefix_cons_iff.mp start with rfl | ⟨later, rfl, onward⟩
        · exact few
        · exact rest later onward
      · intro all front start
        exact all (call :: front) (List.cons_prefix_cons.mpr ⟨rfl, start⟩)
    · rw [broken]
      refine iff_of_false (fun ⟨r', done⟩ => nomatch done) fun all => ?_
      exact Nat.not_le_of_lt (all [call] (List.cons_prefix_cons.mpr ⟨rfl, List.nil_prefix⟩)) many

end Reservoir

/-! ### Generators draw for the calls -/

namespace DrawingReservoir

open Reservoir

/-- Carries out a call, with a draw of its own. -/
def perform (d : DrawingReservoir) : Call → Except Fault DrawingReservoir
  | .update value => d.update value
  | .clear => .ok d.clear

/-- Carries out calls. -/
def performAll (d : DrawingReservoir) (calls : List Call) : Except Fault DrawingReservoir :=
  calls.foldlM perform d

/-- There is always something to draw. -/
theorem exists_draw (d : DrawingReservoir) : ∃ slot after, d.draw = .ok (slot, after) := by
  unfold draw
  split
  · obtain ⟨slot, after, drawn, -⟩ := d.generator.exists_below (Nat.succ_pos d.reservoir.seen)
    exact ⟨slot, after, drawn⟩
  · exact ⟨0, d.generator, rfl⟩

theorem exists_slot (d : DrawingReservoir) (call : Call) :
    ∃ slot after, d.perform call = (d.reservoir.perform call slot).map (⟨·, after⟩) := by
  cases call with
  | clear => exact ⟨0, d.generator, rfl⟩
  | update value =>
    obtain ⟨slot, after, drawn⟩ := d.exists_draw
    refine ⟨slot, after, ?_⟩
    show d.update value = (d.reservoir.update value slot).map _
    unfold update
    rw [drawn]
    show (d.reservoir.update value slot >>= _) = _
    cases d.reservoir.update value slot <;> rfl

/-- A generator draws some draw for each call. -/
theorem exists_slots (d : DrawingReservoir) (calls : List Call) :
    ∃ slots : List Nat, slots.length = calls.length ∧
      (d.performAll calls).map reservoir = d.reservoir.performAll (calls.zip slots) := by
  induction calls generalizing d with
  | nil => exact ⟨[], rfl, rfl⟩
  | cons call calls ih =>
    obtain ⟨slot, after, first⟩ := d.exists_slot call
    have split : d.performAll (call :: calls) = d.perform call >>= fun d => d.performAll calls :=
      List.foldlM_cons
    rw [split, first]
    cases drawn : d.reservoir.perform call slot with
    | error fault =>
      refine ⟨slot :: List.replicate calls.length 0, by simp, ?_⟩
      rw [List.zip_cons_cons, performAll_cons, drawn]
      rfl
    | ok r =>
      obtain ⟨slots, length, rest⟩ := ih ⟨r, after⟩
      refine ⟨slot :: slots, by simp [length], ?_⟩
      rw [List.zip_cons_cons, performAll_cons, drawn]
      exact rest

end DrawingReservoir

namespace Reservoir

/-- **A reservoir retains its stream.**  Calls are carried out to the end unless the values since the
    reservoir was last emptied are too many to count.  After them it has seen these values, and holds as
    many of them as it can: distinct slots hold distinct ones of them, and it holds all of them in their
    order while there is room.  An update beyond that changes the drawn slot at most.  All this is so
    for any draws, and a generator draws some of them. -/
theorem sample_retains_stream (capacity : Nat) :
    (∀ calls : List (Call × Nat),
      ((∃ r, (empty capacity).performAll calls = .ok r) ↔
        ∀ front, front <+: calls → (offered (front.map Prod.fst)).length < wordCount) ∧
      ∀ r, (empty capacity).performAll calls = .ok r →
        Holds capacity (offered (calls.map Prod.fst)) r ∧
        (∃ place : Fin r.values.toList.length → Fin (offered (calls.map Prod.fst)).length,
          Function.Injective place ∧
            ∀ slot, (offered (calls.map Prod.fst))[place slot] = r.values.toList[slot]) ∧
        ∀ value slot r', r.update value slot = .ok r' → r.capacity ≤ r.seen →
          r'.values.size = r.values.size ∧
            ∀ other, other ≠ slot → r'.values[other]? = r.values[other]?) ∧
    ∀ (g : Generator) (calls : List Call), ∃ slots : List Nat, slots.length = calls.length ∧
      (DrawingReservoir.performAll ⟨empty capacity, g⟩ calls).map DrawingReservoir.reservoir =
        (empty capacity).performAll (calls.zip slots) := by
  refine ⟨fun calls => ⟨?_, fun r done => ?_⟩, fun g => DrawingReservoir.exists_slots _⟩
  · exact (holds_empty capacity).performAll_eq_ok_iff (by decide) calls
  · have h : Holds capacity (offered (calls.map Prod.fst)) r :=
      (holds_empty capacity).of_performAll done
    refine ⟨h, ⟨h.kept.idxInj, h.kept.idxInj_injective, fun slot => h.kept.getElem_idxInj_eq_getElem⟩,
      fun value slot r' updated beyond => ?_⟩
    have full : r.capacity ≤ r.values.size := by
      rw [h.size_eq, ← h.seen_eq]
      exact Nat.le_min.mpr ⟨Nat.le_refl _, beyond⟩
    rw [update_eq] at updated
    split at updated
    · cases updated
      exact getElem?_offer_of_full full value slot
    · cases updated

/-- A value that is forgotten, and three values for two slots. -/
def refilled : List (Call × Nat) :=
  [(.update (.clamped 5), 0), (.clear, 0), (.update (.clamped 7), 0), (.update (.clamped 8), 0),
    (.update (.clamped 9), 0)]

theorem sample_retains_stream_refilled :
    ∃ r, (empty 2).performAll refilled = .ok r ∧ r.values = #[.clamped 9, .clamped 8] ∧
      Holds 2 [.clamped 7, .clamped 8, .clamped 9] r ∧
      ∀ value slot r', r.update value slot = .ok r' →
        r'.values.size = 2 ∧ ∀ other, other ≠ slot → r'.values[other]? = r.values[other]? := by
  refine ⟨_, rfl, rfl, ?_, fun value slot r' updated => ?_⟩
  · exact (((sample_retains_stream 2).1 refilled).2 _ rfl).1
  · exact (((sample_retains_stream 2).1 refilled).2 _ rfl).2.2 value slot r' updated (by decide)

end Reservoir

end LoadGen
