import LoadGen.Proofs.Statistics.Reservoir
import Mathlib.Algebra.BigOperators.Fin
import Mathlib.Algebra.BigOperators.Intervals
import Mathlib.Algebra.Order.Field.Rat
import Mathlib.Data.Fin.Tuple.Basic
import Mathlib.Data.Fintype.BigOperators
import Mathlib.Data.Nat.Factorial.Basic
import Mathlib.Tactic.FieldSimp
import Mathlib.Tactic.Ring

namespace LoadGen

/-!
# Samples are uniform

A reservoir holds the values at some places of its stream.  Which places these are depends on the draws
alone, so that sequences of draws are counted by the places that are held after them.  One more value
either takes the slot of a place that was held, or is let go after one of the draws past the capacity.

* `Reservoir.Draws` — the sequences of draws after the first values, for which there is room;
* `Reservoir.held`, `Reservoir.kept` — the places that are held, by slot and as a set;
* `Reservoir.card_filter_kept` — how one more draw changes a count of sequences;
* `Reservoir.card_kept_eq`, `Reservoir.card_mem_kept` — the sequences that hold a set, or a place;
* `Reservoir.values_sampled`, `DrawingReservoir.exists_draws` — reservoirs hold what these sequences say,
  and generators draw them;
* `Reservoir.sample_is_uniform` — every set of places is equally likely.
-/

namespace Reservoir

open Finset

variable {capacity later : ℕ}

/-! ### Sequences of draws -/

/-- The draws for the values after the first `capacity`: each is below the number of values up to its
    own. -/
abbrev Draws (capacity later : ℕ) : Type := (i : Fin later) → Fin (capacity + i + 1)

namespace Draws

/-- The draws before the last one. -/
def before (draws : Draws capacity (later + 1)) : Draws capacity later := fun i => draws i.castSucc

/-- The last draw. -/
def last (draws : Draws capacity (later + 1)) : Fin (capacity + later + 1) := draws (Fin.last later)

/-- A sequence of draws is the last one behind all others. -/
def split (capacity later : ℕ) :
    Draws capacity (later + 1) ≃ Draws capacity later × Fin (capacity + later + 1) :=
  (Fin.snocEquiv fun i : Fin (later + 1) => Fin (capacity + i + 1)).symm.trans (Equiv.prodComm _ _)

theorem card_succ (capacity later : ℕ) : Fintype.card (Draws capacity (later + 1)) =
    Fintype.card (Draws capacity later) * (capacity + later + 1) := by
  rw [Fintype.card_congr (split capacity later), Fintype.card_prod, Fintype.card_fin]

/-- The sequences of draws are as many as the product of their ranges. -/
theorem card_eq (capacity later : ℕ) :
    Fintype.card (Draws capacity later) = ∏ n ∈ Ioc capacity (capacity + later), n := by
  induction later with
  | zero => simp
  | succ later ih =>
    rw [card_succ, ih, ← Nat.add_assoc, prod_Ioc_succ_top (Nat.le_add_right capacity later)]

end Draws

/-! ### The places that are held -/

/-- The place in the stream of the value in each slot. -/
def held : {later : ℕ} → Draws capacity later → Fin capacity → ℕ
  | 0, _ => fun slot => slot
  | later + 1, draws =>
    if inside : draws.last.val < capacity then
      Function.update (held draws.before) ⟨draws.last, inside⟩ (capacity + later)
    else held draws.before

/-- The places in the stream of the values that are held. -/
def kept (draws : Draws capacity later) : Finset ℕ := univ.image (held draws)

theorem held_lt (draws : Draws capacity later) (slot : Fin capacity) :
    held draws slot < capacity + later := by
  induction later with
  | zero => exact slot.isLt
  | succ later ih =>
    unfold held
    split
    · by_cases h : slot = ⟨draws.last, ‹_›⟩
      · rw [h, Function.update_self]
        omega
      · rw [Function.update_of_ne h]
        have := ih draws.before
        omega
    · have := ih draws.before
      omega

theorem held_injective (draws : Draws capacity later) : Function.Injective (held draws) := by
  induction later with
  | zero => exact Fin.val_injective
  | succ later ih =>
    have fresh (slot : Fin capacity) : held draws.before slot ≠ capacity + later :=
      Nat.ne_of_lt (held_lt draws.before slot)
    unfold held
    split
    · intro a b same
      rw [Function.update_apply, Function.update_apply] at same
      split at same <;> split at same
      · simp_all
      · exact absurd same.symm (fresh b)
      · exact absurd same (fresh a)
      · exact ih draws.before same
    · exact ih draws.before

theorem card_kept (draws : Draws capacity later) : (kept draws).card = capacity := by
  unfold kept
  rw [card_image_of_injective _ (held_injective draws), card_univ, Fintype.card_fin]

theorem kept_subset (draws : Draws capacity later) : kept draws ⊆ range (capacity + later) := by
  intro place mem
  obtain ⟨slot, -, rfl⟩ := mem_image.mp mem
  exact mem_range.mpr (held_lt draws slot)

theorem newest_not_mem_kept (draws : Draws capacity later) : capacity + later ∉ kept draws :=
  fun mem => absurd (mem_range.mp (kept_subset draws mem)) (Nat.lt_irrefl _)

/-- A draw within the capacity puts the newest value in the place of another. -/
theorem kept_of_lt {draws : Draws capacity (later + 1)} (inside : draws.last.val < capacity) :
    kept draws =
      insert (capacity + later) ((kept draws.before).erase (held draws.before ⟨draws.last, inside⟩)) := by
  have update : held draws =
      Function.update (held draws.before) ⟨draws.last, inside⟩ (capacity + later) := by
    rw [held, dif_pos inside]
  ext place
  simp only [kept, update, mem_image, mem_univ, true_and, mem_insert, mem_erase]
  constructor
  · rintro ⟨slot, rfl⟩
    by_cases h : slot = ⟨draws.last, inside⟩
    · rw [h, Function.update_self]
      exact .inl rfl
    · rw [Function.update_of_ne h]
      exact .inr ⟨fun same => h (held_injective draws.before same), slot, rfl⟩
  · rintro (rfl | ⟨other, slot, rfl⟩)
    · exact ⟨_, Function.update_self _ _ _⟩
    · refine ⟨slot, Function.update_of_ne ?_ _ _⟩
      rintro rfl
      exact other rfl

/-- Any other draw leaves the sample alone. -/
theorem kept_of_le {draws : Draws capacity (later + 1)} (outside : capacity ≤ draws.last.val) :
    kept draws = kept draws.before := by
  unfold kept
  rw [held, dif_neg (Nat.not_lt.mpr outside)]

/-! ### Counting sequences by their last draw -/

/-- One more value: each place that is held is given up for one draw, and `later + 1` draws change
    nothing. -/
theorem card_filter_kept (P : Finset ℕ → Prop) [DecidablePred P] :
    #{draws : Draws capacity (later + 1) | P (kept draws)} =
      ∑ draws : Draws capacity later,
        (#{gone ∈ kept draws | P (insert (capacity + later) ((kept draws).erase gone))} +
          if P (kept draws) then later + 1 else 0) := by
  rw [card_filter, ← (Draws.split capacity later).symm.sum_comp, Fintype.sum_prod_type]
  refine sum_congr rfl fun draws _ => ?_
  let next (slot : Fin (capacity + (later + 1))) : Draws capacity (later + 1) :=
    (Draws.split capacity later).symm (draws, slot)
  have parts (slot : Fin (capacity + (later + 1))) :
      (next slot).before = draws ∧ (next slot).last = slot :=
    Prod.mk.inj ((Draws.split capacity later).apply_symm_apply (draws, slot))
  -- The draws are those within the capacity, and those past it.
  show ∑ slot : Fin (capacity + (later + 1)), (if P (kept (next slot)) then 1 else 0) = _
  rw [Fin.sum_univ_add]
  congr 1
  · have given (slot : Fin capacity) : kept (next (slot.castAdd (later + 1))) =
        insert (capacity + later) ((kept draws).erase (held draws slot)) := by
      obtain ⟨front, drawn⟩ := parts (slot.castAdd (later + 1))
      have inside : (next (slot.castAdd (later + 1))).last.val < capacity := by
        rw [drawn]
        exact slot.isLt
      rw [kept_of_lt inside]
      simp only [front, drawn]
      rfl
    simp only [given]
    rw [card_filter, kept, sum_image fun a _ b _ same => held_injective draws same]
  · have left (slot : Fin (later + 1)) : kept (next (slot.natAdd capacity)) = kept draws := by
      obtain ⟨front, drawn⟩ := parts (slot.natAdd capacity)
      rw [kept_of_le (by rw [drawn]; exact Nat.le_add_right _ _), front]
    simp only [left, sum_const, card_univ, Fintype.card_fin, smul_eq_mul, mul_ite, mul_one, mul_zero]

/-! ### Every sample is kept equally often -/

/-- A sample comes about with the newest value if one place too many was held before. -/
theorem insert_erase_eq_iff {sample rest : Finset ℕ} {newest gone : ℕ} (new : newest ∉ sample)
    (new' : newest ∉ rest) :
    (gone ∈ sample ∧ insert newest (sample.erase gone) = insert newest rest) ↔
      gone ∉ rest ∧ sample = insert gone rest := by
  have new'' : newest ∉ sample.erase gone := fun mem => new (mem_of_mem_erase mem)
  constructor
  · rintro ⟨mem, same⟩
    have left : sample.erase gone = rest := by
      rw [← erase_insert new'', same, erase_insert new']
    have out : gone ∉ rest := by
      rw [← left]
      exact notMem_erase _ _
    exact ⟨out, (erase_eq_iff_eq_insert mem out).mp left⟩
  · rintro ⟨out, rfl⟩
    exact ⟨mem_insert_self _ _, by rw [erase_insert out]⟩

/-- Samples with the newest value: the place that it took is any of those that are not held. -/
theorem card_kept_insert {rest : Finset ℕ} {count : ℕ} (older : rest ⊆ range (capacity + later))
    (each : ∀ gone ∈ range (capacity + later) \ rest,
      #{draws : Draws capacity later | kept draws = insert gone rest} = count) :
    ∑ draws : Draws capacity later, #{gone ∈ kept draws |
        insert (capacity + later) ((kept draws).erase gone) = insert (capacity + later) rest} =
      (capacity + later - rest.card) * count := by
  have new : capacity + later ∉ rest := fun mem => absurd (mem_range.mp (older mem)) (Nat.lt_irrefl _)
  have turned (draws : Draws capacity later) :
      {gone ∈ kept draws |
        insert (capacity + later) ((kept draws).erase gone) = insert (capacity + later) rest} =
      {gone ∈ range (capacity + later) \ rest | kept draws = insert gone rest} := by
    ext gone
    rw [mem_filter, mem_filter, insert_erase_eq_iff (newest_not_mem_kept draws) new, mem_sdiff]
    constructor
    · rintro ⟨out, same⟩
      exact ⟨⟨kept_subset draws (same ▸ mem_insert_self _ _), out⟩, same⟩
    · rintro ⟨⟨-, out⟩, same⟩
      exact ⟨out, same⟩
  calc _ = ∑ draws : Draws capacity later,
        #{gone ∈ range (capacity + later) \ rest | kept draws = insert gone rest} := by
        simp only [turned]
    _ = ∑ gone ∈ range (capacity + later) \ rest,
        #{draws : Draws capacity later | kept draws = insert gone rest} := by
        simp only [card_filter]
        exact sum_comm
    _ = (capacity + later - rest.card) * count := by
        rw [sum_const_nat each, card_sdiff_of_subset older, card_range]

/-- **Every sample is kept by equally many sequences.** -/
theorem card_kept_eq {chosen : Finset ℕ} (inside : chosen ⊆ range (capacity + later))
    (size : chosen.card = capacity) :
    #{draws : Draws capacity later | kept draws = chosen} = later.factorial := by
  induction later generalizing chosen with
  | zero =>
    -- Nothing is drawn, and all values are held.
    have all (draws : Draws capacity 0) : kept draws = chosen := by
      have whole : chosen = range capacity := eq_of_subset_of_card_le inside (by simp [size])
      rw [whole]
      exact eq_of_subset_of_card_le (kept_subset draws) (by rw [card_kept, card_range])
    simp [all]
  | succ later ih =>
    have older {place : ℕ} (mem : place ∈ chosen) (other : place ≠ capacity + later) :
        place ∈ range (capacity + later) := by
      have := mem_range.mp (inside mem)
      rw [mem_range]
      omega
    rw [card_filter_kept fun sample => sample = chosen, sum_add_distrib, Nat.factorial_succ]
    by_cases h : capacity + later ∈ chosen
    · -- The newest value is in the sample, so that the last draw gave up another place for it.
      have rest : chosen.erase (capacity + later) ⊆ range (capacity + later) :=
        fun place mem => older (mem_of_mem_erase mem) (ne_of_mem_erase mem)
      have left : #(chosen.erase (capacity + later)) + 1 = capacity := by
        rw [card_erase_add_one h, size]
      have each (gone : ℕ) (mem : gone ∈ range (capacity + later) \ chosen.erase (capacity + later)) :
          #{draws : Draws capacity later | kept draws = insert gone (chosen.erase (capacity + later))} =
            later.factorial := by
        obtain ⟨old, out⟩ := mem_sdiff.mp mem
        exact ih (insert_subset old rest) (by rw [card_insert_of_notMem out, left])
      have unchanged (draws : Draws capacity later) : kept draws ≠ chosen := by
        rintro rfl
        exact newest_not_mem_kept draws h
      have counted := card_kept_insert rest each
      rw [insert_erase h] at counted
      rw [counted]
      simp only [unchanged, if_false, sum_const_zero, add_zero]
      congr 1
      omega
    · -- The newest value is not in the sample, so that the last draw changed nothing.
      have unmoved (draws : Draws capacity later) :
          #{gone ∈ kept draws | insert (capacity + later) ((kept draws).erase gone) = chosen} = 0 := by
        rw [card_eq_zero, filter_eq_empty_iff]
        intro gone _ same
        exact h (same ▸ mem_insert_self _ _)
      have subset : chosen ⊆ range (capacity + later) := fun place mem =>
        older mem fun same => h (same ▸ mem)
      simp only [unmoved, sum_const_zero, zero_add]
      rw [← sum_filter, sum_const, ih subset size, smul_eq_mul, Nat.mul_comm]

/-- A place is held after one in so many sequences. -/
theorem card_mem_kept (place : ℕ) (inside : place < capacity + later) :
    #{draws : Draws capacity later | place ∈ kept draws} * (capacity + later) =
      capacity * Fintype.card (Draws capacity later) := by
  induction later with
  | zero =>
    have all (draws : Draws capacity 0) : place ∈ kept draws := by
      have whole : kept draws = range capacity :=
        eq_of_subset_of_card_le (kept_subset draws) (by rw [card_kept, card_range])
      rw [whole]
      exact mem_range.mpr inside
    simp [all]
  | succ later ih =>
    rw [card_filter_kept fun sample => place ∈ sample, Draws.card_succ, ← Nat.add_assoc]
    by_cases h : place = capacity + later
    · -- The newest value is held after a draw within the capacity.
      subst h
      have count (draws : Draws capacity later) :
          (#{gone ∈ kept draws | capacity + later ∈ insert (capacity + later) ((kept draws).erase gone)} +
            if capacity + later ∈ kept draws then later + 1 else 0) = capacity := by
        rw [if_neg (newest_not_mem_kept draws)]
        simp [card_kept]
      simp only [count, sum_const, card_univ, smul_eq_mul]
      ring
    · -- An older one stays, unless its own slot is drawn.
      have count (draws : Draws capacity later) :
          (#{gone ∈ kept draws | place ∈ insert (capacity + later) ((kept draws).erase gone)} +
            if place ∈ kept draws then later + 1 else 0) =
          if place ∈ kept draws then capacity + later else 0 := by
        by_cases mem : place ∈ kept draws
        · have others : {gone ∈ kept draws |
              place ∈ insert (capacity + later) ((kept draws).erase gone)} =
              (kept draws).erase place := by
            ext gone
            simp [h, mem, and_comm, eq_comm]
          have some := card_erase_add_one mem
          rw [card_kept] at some
          rw [if_pos mem, if_pos mem, others]
          omega
        · rw [if_neg mem, if_neg mem]
          simp [h, mem]
      simp only [count]
      rw [← sum_filter, sum_const, smul_eq_mul]
      rw [ih (by omega)]
      ring

/-! ### Samples of a stream -/

/-- The reservoir when as many values of a stream have come as it has room for. Nothing is drawn. -/
def filled (capacity : ℕ) (stream : ℕ → Duration) : Reservoir :=
  (List.range capacity).foldl (fun r place => r.offer (stream place) 0) (empty capacity)

/-- The reservoir when so many more values of a stream have come as there are draws. -/
def sampled (capacity : ℕ) (stream : ℕ → Duration) : {later : ℕ} → Draws capacity later → Reservoir
  | 0, _ => filled capacity stream
  | later + 1, draws =>
    (sampled capacity stream draws.before).offer (stream (capacity + later)) draws.last

theorem holds_filling (capacity : ℕ) (stream : ℕ → Duration) (count : ℕ) :
    Holds capacity ((List.range count).map stream)
      ((List.range count).foldl (fun r place => r.offer (stream place) 0) (empty capacity)) := by
  induction count with
  | zero => exact holds_empty capacity
  | succ count ih =>
    rw [List.range_succ, List.map_append, List.foldl_append]
    exact ih.offer (stream count) 0

theorem holds_sampled (stream : ℕ → Duration) (draws : Draws capacity later) :
    Holds capacity ((List.range (capacity + later)).map stream) (sampled capacity stream draws) := by
  induction later with
  | zero => exact holds_filling capacity stream capacity
  | succ later ih =>
    rw [← Nat.add_assoc, List.range_succ, List.map_append]
    exact (ih draws.before).offer (stream (capacity + later)) draws.last

/-- A slot of a row of values is changed. -/
theorem set_ofFn (values : Fin capacity → Duration) (value : Duration) {slot : ℕ}
    (inside : slot < capacity) :
    (List.ofFn values).set slot value = List.ofFn (Function.update values ⟨slot, inside⟩ value) := by
  apply List.ext_getElem
  · simp
  · intro i h h'
    have bound : i < capacity := by simpa using h
    rw [List.getElem_set, List.getElem_ofFn, List.getElem_ofFn, Function.update_apply]
    by_cases same : slot = i
    · rw [if_pos same, if_pos (Fin.ext same.symm)]
    · rw [if_neg same, if_neg fun same' => same (congrArg Fin.val same').symm]

/-- A reservoir holds the values at the places that are held. -/
theorem values_sampled (some : 1 ≤ capacity) (stream : ℕ → Duration) (draws : Draws capacity later) :
    (sampled capacity stream draws).values.toList =
      List.ofFn fun slot => stream (held draws slot) := by
  induction later with
  | zero =>
    have holds := holds_filling capacity stream capacity
    show (filled capacity stream).values.toList = List.ofFn fun slot : Fin capacity => stream slot
    unfold filled
    rw [holds.whole (by rw [holds.capacity_eq]; simp)]
    apply List.ext_getElem
    · simp
    · intro i h h'
      simp
  | succ later ih =>
    have holds := holds_sampled stream draws.before
    have full : (sampled capacity stream draws.before).capacity = capacity := by
      rw [holds.capacity_eq]
      omega
    have size : (sampled capacity stream draws.before).values.size = capacity := by
      have := holds.size_eq
      rw [full, List.length_map, List.length_range] at this
      omega
    show ((sampled capacity stream draws.before).offer _ _).values.toList = _
    unfold offer held
    rw [full, size, if_neg (Nat.lt_irrefl _)]
    by_cases inside : draws.last.val < capacity
    · rw [if_pos inside, dif_pos inside]
      show ((sampled capacity stream draws.before).values.setIfInBounds _ _).toList = _
      rw [Array.toList_setIfInBounds, ih draws.before, set_ofFn _ _ inside]
      congr 1
      funext slot
      rw [Function.update_apply, Function.update_apply, apply_ite stream]
    · rw [if_neg inside, dif_neg inside]
      exact ih draws.before

end Reservoir

/-! ### Generators draw such sequences -/

namespace DrawingReservoir

open Reservoir

variable {capacity later : ℕ}

/-- Offers values one after another. -/
def updateAll (d : DrawingReservoir) (values : List Duration) : Except Fault DrawingReservoir :=
  values.foldlM update d

theorem updateAll_concat (d : DrawingReservoir) (values : List Duration) (value : Duration) :
    d.updateAll (values ++ [value]) = d.updateAll values >>= fun d => d.update value := by
  unfold updateAll
  rw [List.foldlM_append]
  congr 1
  funext d
  rw [List.foldlM_cons]
  cases d.update value <;> rfl

/-- While there is room nothing is drawn. -/
theorem updateAll_filling (capacity : ℕ) (stream : ℕ → Duration) (g : Generator) {count : ℕ}
    (room : count ≤ capacity) (few : count < wordCount) :
    updateAll ⟨empty capacity, g⟩ ((List.range count).map stream) =
      .ok ⟨(List.range count).foldl (fun r place => r.offer (stream place) 0) (empty capacity), g⟩ := by
  induction count with
  | zero => rfl
  | succ count ih =>
    have holds := holds_filling capacity stream count
    rw [List.range_succ, List.map_append, List.map_singleton, updateAll_concat,
      ih (by omega) (by omega), List.foldl_append]
    generalize (List.range count).foldl _ _ = r at holds ⊢
    have vacant : r.isFull = false := by
      have size := holds.size_eq
      have cap := holds.capacity_eq
      rw [List.length_map, List.length_range] at size
      unfold isFull
      rw [decide_eq_false_iff_not]
      omega
    have undrawn : draw ⟨r, g⟩ = .ok (0, g) := by
      unfold draw
      rw [vacant]
      rfl
    have seen : r.seen + 1 < wordCount := by
      rw [holds.seen_eq, List.length_map, List.length_range]
      exact few
    show (draw ⟨r, g⟩ >>= _) = _
    rw [undrawn]
    show (r.update (stream count) 0 >>= _) = _
    rw [update_eq, if_pos seen]
    rfl

/-- A generator draws one of the sequences. -/
theorem exists_draws (some : 1 ≤ capacity) (stream : ℕ → Duration) (g : Generator)
    (few : capacity + later < wordCount) :
    ∃ (draws : Draws capacity later) (after : Generator),
      updateAll ⟨empty capacity, g⟩ ((List.range (capacity + later)).map stream) =
        .ok ⟨sampled capacity stream draws, after⟩ := by
  induction later with
  | zero => exact ⟨fun i => i.elim0, g, updateAll_filling capacity stream g (Nat.le_refl _) few⟩
  | succ later ih =>
    obtain ⟨draws, mid, done⟩ := ih (by omega)
    have holds := holds_sampled stream draws
    have seen : (sampled capacity stream draws).seen = capacity + later := by
      rw [holds.seen_eq, List.length_map, List.length_range]
    have full : (sampled capacity stream draws).isFull = true := by
      have size := holds.size_eq
      have cap := holds.capacity_eq
      rw [List.length_map, List.length_range] at size
      unfold isFull
      rw [decide_eq_true_eq]
      omega
    obtain ⟨slot, after, drawn, below⟩ := Generator.exists_below (Nat.succ_pos (capacity + later)) mid
    let next := (Draws.split capacity later).symm (draws, ⟨slot, below⟩)
    have parts : (next.before, next.last) = (draws, ⟨slot, below⟩) :=
      (Draws.split capacity later).apply_symm_apply _
    refine ⟨next, after, ?_⟩
    rw [← Nat.add_assoc, List.range_succ, List.map_append, List.map_singleton, updateAll_concat, done]
    have chosen : draw ⟨sampled capacity stream draws, mid⟩ = .ok (slot, after) := by
      unfold draw
      rw [full, if_pos rfl]
      show mid.below ((sampled capacity stream draws).seen + 1) = _
      rw [seen, drawn]
    show (draw ⟨sampled capacity stream draws, mid⟩ >>= _) = _
    rw [chosen]
    show ((sampled capacity stream draws).update (stream (capacity + later)) slot >>= _) = _
    rw [update_eq, seen, if_pos (by omega)]
    show Except.ok _ = Except.ok _
    congr 2
    show _ = (sampled capacity stream next.before).offer (stream (capacity + later)) next.last
    rw [(Prod.mk.inj parts).1, (Prod.mk.inj parts).2]

end DrawingReservoir

namespace Reservoir

open Finset

/-- **The sample is uniform.**  Of `n` values of a stream a reservoir holds those at `capacity` distinct
    places.  The draws for the values after the first `capacity` are each below the number of values so
    far, and every generator draws a sequence of them.  Among all sequences, each set of `capacity`
    places is held after equally many, so that a place is held with probability `capacity / n`. -/
theorem sample_is_uniform {capacity n : ℕ} (some : 1 ≤ capacity) (enough : capacity ≤ n) :
    Fintype.card (Draws capacity (n - capacity)) = ∏ i ∈ Ioc capacity n, i ∧
    (∀ (stream : ℕ → Duration) (draws : Draws capacity (n - capacity)),
      (sampled capacity stream draws).values.toList = List.ofFn (fun slot => stream (held draws slot)) ∧
        Function.Injective (held draws) ∧ kept draws ⊆ range n) ∧
    (∀ chosen ⊆ range n, (#chosen) = capacity →
      #{draws : Draws capacity (n - capacity) | kept draws = chosen} = (n - capacity).factorial) ∧
    (∀ place < n, (#{draws : Draws capacity (n - capacity) | place ∈ kept draws} : ℚ) /
      Fintype.card (Draws capacity (n - capacity)) = capacity / n) ∧
    ∀ (stream : ℕ → Duration) (g : Generator), n < wordCount →
      ∃ (draws : Draws capacity (n - capacity)) (after : Generator),
        DrawingReservoir.updateAll ⟨empty capacity, g⟩ ((List.range n).map stream) =
          .ok ⟨sampled capacity stream draws, after⟩ := by
  obtain ⟨later, rfl⟩ := Nat.exists_eq_add_of_le enough
  rw [Nat.add_sub_cancel_left]
  refine ⟨Draws.card_eq capacity later, fun stream draws => ?_, fun chosen inside size => ?_,
    fun place inside => ?_, fun stream g few => ?_⟩
  · exact ⟨values_sampled some stream draws, held_injective draws, kept_subset draws⟩
  · exact card_kept_eq inside size
  · have count : #{draws : Draws capacity later | place ∈ kept draws} * (capacity + later) =
        capacity * Fintype.card (Draws capacity later) := card_mem_kept place inside
    have sequences : (Fintype.card (Draws capacity later) : ℚ) ≠ 0 := by
      rw [Draws.card_eq, Nat.cast_ne_zero, prod_ne_zero_iff]
      intro i mem
      have := mem_Ioc.mp mem
      omega
    have values : ((capacity + later : ℕ) : ℚ) ≠ 0 := by
      rw [Nat.cast_ne_zero]
      omega
    rw [div_eq_div_iff sequences values]
    exact_mod_cast count
  · exact DrawingReservoir.exists_draws some stream g few

/-- Of four values two are held: the second and the fourth after two of the twelve sequences, and the third
    after every other sequence. -/
theorem sample_is_uniform_pairs :
    Fintype.card (Draws 2 2) = 12 ∧ #{draws : Draws 2 2 | kept draws = {1, 3}} = 2 ∧
      (#{draws : Draws 2 2 | 2 ∈ kept draws} : ℚ) / Fintype.card (Draws 2 2) = 2 / 4 := by
  have some : 1 ≤ 2 := by decide
  have enough : 2 ≤ 4 := by decide
  obtain ⟨sequences, -, samples, places, -⟩ := sample_is_uniform some enough
  exact ⟨sequences, samples {1, 3} (by decide) (by decide), places 2 (by decide)⟩

end Reservoir

end LoadGen
