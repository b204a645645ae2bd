import LoadGen.Text.Integer

namespace LoadGen.Text

/-!
# Numerals are read back

* `readMagnitude_eq` — digits are read as the number that they are the digits of;
* `readUnsigned_repr`, `readSigned_repr` — so is a written number, by either grammar of signs;
* `IsNumeral`, `readUnsigned_eq_ok_iff` — the texts that are read as a number, and no others.
-/

variable {limit : Nat}

theorem digitValue?_of_isDigit {c : Char} (h : c.isDigit = true) :
    digitValue? c = some (c.toNat - '0'.toNat) := by
  have hc : '0' ≤ c ∧ c ≤ '9' := by
    unfold Char.isDigit at h
    rwa [Bool.and_eq_true, decide_eq_true_eq, decide_eq_true_eq] at h
  unfold digitValue?
  rw [if_pos hc]

/-- More digits make no smaller number. -/
theorem le_ofDigitChars (digits : List Char) (n : Nat) : n ≤ Nat.ofDigitChars 10 digits n := by
  induction digits generalizing n with
  | nil => simp
  | cons c digits ih =>
    rw [Nat.ofDigitChars_cons]
    have := ih (10 * n + (c.toNat - '0'.toNat))
    omega

theorem readMagnitude_eq {digits : List Char} {n : Nat} {beyond : IntegerError}
    (all : ∀ c ∈ digits, c.isDigit = true) (small : Nat.ofDigitChars 10 digits n < limit) :
    readMagnitude limit beyond n digits = .ok (Nat.ofDigitChars 10 digits n) := by
  induction digits generalizing n with
  | nil => simp [readMagnitude]
  | cons c digits ih =>
    have hc := digitValue?_of_isDigit (all c List.mem_cons_self)
    rw [Nat.ofDigitChars_cons] at small ⊢
    have step : 10 * n + (c.toNat - '0'.toNat) < limit :=
      Nat.lt_of_le_of_lt (le_ofDigitChars digits _) small
    unfold readMagnitude
    rw [hc]
    simp only
    rw [if_pos step]
    exact ih (fun c mem => all c (List.mem_cons_of_mem _ mem)) small

/-- The digits of a number, at least one. -/
theorem readDigits_toDigits {n : Nat} {beyond : IntegerError} (small : n < limit) :
    readDigits limit beyond (Nat.toDigits 10 n) = .ok n := by
  have all : ∀ c ∈ Nat.toDigits 10 n, c.isDigit = true := fun c mem =>
    Nat.isDigit_of_mem_toDigits (by decide) (by decide) mem
  have value : Nat.ofDigitChars 10 (Nat.toDigits 10 n) 0 = n := Nat.ofDigitChars_ten_toDigits
  cases h : Nat.toDigits 10 n with
  | nil => exact absurd h Nat.toDigits_ne_nil
  | cons c digits =>
    rw [h] at all value
    show readMagnitude limit beyond 0 (c :: digits) = .ok n
    rw [readMagnitude_eq all (by rw [value]; exact small), value]

/-- The first character of a written number is no sign. -/
theorem exists_toDigits (n : Nat) : ∃ c digits,
    Nat.toDigits 10 n = c :: digits ∧ c ≠ '+' ∧ c ≠ '-' := by
  cases h : Nat.toDigits 10 n with
  | nil => exact absurd h Nat.toDigits_ne_nil
  | cons c digits =>
    have digit : c.isDigit = true :=
      Nat.isDigit_of_mem_toDigits (by decide) (by decide) (h ▸ List.mem_cons_self)
    refine ⟨c, digits, rfl, ?_, ?_⟩
    · rintro rfl
      exact absurd digit (by decide)
    · rintro rfl
      exact absurd digit (by decide)

theorem readUnsigned_repr {n : Nat} (small : n < limit) : readUnsigned limit n.repr.toList = .ok n := by
  rw [Nat.toList_repr]
  have read : readDigits limit .tooLarge (Nat.toDigits 10 n) = .ok n := readDigits_toDigits small
  obtain ⟨c, digits, h, plus, -⟩ := exists_toDigits n
  rw [h] at read ⊢
  unfold readUnsigned
  split
  · contradiction
  · simp_all
  · exact read

theorem readSigned_repr {n : Nat} (small : n < limit) : readSigned limit n.repr.toList = .ok (n : Int) := by
  rw [Nat.toList_repr]
  have read : readDigits limit .tooLarge (Nat.toDigits 10 n) = .ok n := readDigits_toDigits small
  obtain ⟨c, digits, h, plus, minus⟩ := exists_toDigits n
  rw [h] at read ⊢
  unfold readSigned
  split
  · contradiction
  · simp_all
  · simp_all
  · rw [read]
    rfl

/-! ### Which texts are numerals -/

theorem digitValue?_eq_none {c : Char} (h : ¬ c.isDigit = true) : digitValue? c = none := by
  unfold Char.isDigit at h
  rw [Bool.and_eq_true, decide_eq_true_eq, decide_eq_true_eq] at h
  exact if_neg h

/-- Characters are read as a number if they are its digits and the number is in range. -/
theorem readMagnitude_eq_ok_iff {digits : List Char} {n m : Nat} {beyond : IntegerError} :
    readMagnitude limit beyond n digits = .ok m ↔
      (∀ c ∈ digits, c.isDigit = true) ∧ Nat.ofDigitChars 10 digits n = m ∧
        (digits ≠ [] → m < limit) := by
  constructor
  · intro read
    induction digits generalizing n with
    | nil =>
      cases read
      simp
    | cons c digits ih =>
      by_cases digit : c.isDigit = true
      · unfold readMagnitude at read
        rw [digitValue?_of_isDigit digit] at read
        simp only at read
        split at read
        · rename_i small
          obtain ⟨all, value, within⟩ := ih read
          rw [Nat.ofDigitChars_cons]
          refine ⟨List.forall_mem_cons.mpr ⟨digit, all⟩, value, fun _ => ?_⟩
          cases digits with
          | nil =>
            rw [Nat.ofDigitChars_nil] at value
            exact value ▸ small
          | cons => exact within (List.cons_ne_nil _ _)
        · cases read
      · unfold readMagnitude at read
        rw [digitValue?_eq_none digit] at read
        cases read
  · rintro ⟨all, rfl, small⟩
    cases digits with
    | nil => simp [readMagnitude]
    | cons c digits => exact readMagnitude_eq all (small (List.cons_ne_nil _ _))

theorem readDigits_eq_ok_iff {digits : List Char} {n : Nat} {beyond : IntegerError} :
    readDigits limit beyond digits = .ok n ↔
      digits ≠ [] ∧ (∀ c ∈ digits, c.isDigit = true) ∧ Nat.ofDigitChars 10 digits 0 = n ∧ n < limit := by
  cases digits with
  | nil => simp [readDigits]
  | cons c digits =>
    show readMagnitude limit beyond 0 (c :: digits) = .ok n ↔ _
    rw [readMagnitude_eq_ok_iff]
    simp only [ne_eq, reduceCtorEq, not_false_eq_true, true_and, true_implies]

/-- Digits, at least one, that make up a number, behind a plus sign or without it. -/
def IsNumeral (text : List Char) (n : Nat) : Prop :=
  ∃ digits, (text = digits ∨ text = '+' :: digits) ∧ digits ≠ [] ∧
    (∀ c ∈ digits, c.isDigit = true) ∧ Nat.ofDigitChars 10 digits 0 = n

/-- A text is read as a number if it is a numeral of it and the number is in range. -/
theorem readUnsigned_eq_ok_iff {text : List Char} {n : Nat} :
    readUnsigned limit text = .ok n ↔ IsNumeral text n ∧ n < limit := by
  unfold IsNumeral
  constructor
  · intro read
    unfold readUnsigned at read
    split at read
    · cases read
    · rename_i digits
      obtain ⟨some, all, value, small⟩ := readDigits_eq_ok_iff.mp read
      exact ⟨⟨digits, .inr rfl, some, all, value⟩, small⟩
    · obtain ⟨some, all, value, small⟩ := readDigits_eq_ok_iff.mp read
      exact ⟨⟨_, .inl rfl, some, all, value⟩, small⟩
  · rintro ⟨⟨digits, shape, some, all, value⟩, small⟩
    have read : readDigits limit .tooLarge digits = .ok n :=
      readDigits_eq_ok_iff.mpr ⟨some, all, value, small⟩
    obtain rfl | rfl := shape
    · unfold readUnsigned
      split
      · exact absurd rfl some
      · exact absurd (all '+' List.mem_cons_self) (by decide)
      · exact read
    · exact read

end LoadGen.Text
