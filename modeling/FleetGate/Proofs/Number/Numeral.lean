import FleetGate.Number.Numeral

/-! # Numerals

What is written as a decimal numeral is read as the number that was written, if it is within the
bound of the reader (`natUpTo?_natString`).
-/

namespace FleetGate.Number

variable {c : Char} {digits : List Char} {n max : Nat}

/-- The digits have the values by which numerals are reckoned. -/
theorem digitValue?_of_isDigit (h : c.isDigit = true) :
    digitValue? c = some (c.toNat - '0'.toNat) := by
  have hrange : '0' ≤ c ∧ c ≤ '9' := by
    simpa [Char.isDigit, Char.le_def] using h
  rw [digitValue?, if_pos hrange]

/-- Reading digits is reckoning with their values. -/
theorem digitsValue?_of_isDigit (value : Nat) (h : ∀ c ∈ digits, c.isDigit = true) :
    digitsValue? value digits = some (Nat.ofDigitChars 10 digits value) := by
  induction digits generalizing value with
  | nil => rfl
  | cons c rest ih =>
      rw [List.forall_mem_cons] at h
      rw [digitsValue?, digitValue?_of_isDigit h.1, Nat.ofDigitChars_cons]
      exact ih _ h.2

/-- A number that is written is read again, within the bound. -/
theorem natUpTo?_natString (h : n ≤ max) : natUpTo? max (natString n).toList = some n := by
  have hdigits : ∀ c ∈ Nat.toDigits 10 n, c.isDigit = true :=
    fun c hc => Nat.isDigit_of_mem_toDigits (by decide) (by decide) hc
  have hvalue : natOfDigits? (Nat.toDigits 10 n) = some n := by
    have hread := digitsValue?_of_isDigit 0 hdigits
    rw [Nat.ofDigitChars_ten_toDigits] at hread
    cases hn : Nat.toDigits 10 n with
    | nil => exact absurd hn Nat.toDigits_ne_nil
    | cons c rest =>
        rw [hn] at hread
        exact hread
  rw [natString, natText, String.toList_ofList, natUpTo?, hvalue, Option.filter_some,
    if_pos (decide_eq_true h)]
  intro rest hplus
  have hsign := hdigits '+' (by rw [hplus]; exact List.mem_cons_self)
  exact absurd hsign (by decide)

/-- Every number has digits. -/
theorem natString_ne (n : Nat) : natString n ≠ "" := by
  intro h
  have hdigits : Nat.toDigits 10 n = [] := by
    rw [← natText, ← String.toList_ofList (l := natText n)]
    exact String.toList_eq_nil_iff.mpr h
  exact Nat.toDigits_ne_nil hdigits

end FleetGate.Number
