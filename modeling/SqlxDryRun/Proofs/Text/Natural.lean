import SqlxDryRun.Text.Natural

/-!
# The value of digits

Reading stops at the first character that is no digit and at the first value beyond the limit; it
succeeds just if there are only digits and their value is within the limit (`readDigits_eq_ok_iff`).
-/

namespace SqlxDryRun.Text

theorem digitValue?_of_isDigit {c : Char} (h : c.isDigit = true) :
    digitValue? c = some (c.toNat - '0'.toNat) := by
  rw [digitValue?, if_pos h]

theorem digitValue?_of_not_isDigit {c : Char} (h : ¬c.isDigit = true) : digitValue? c = none := by
  rw [digitValue?, if_neg h]

/-- More digits never make a value smaller. -/
theorem le_ofDigitChars (value : Nat) (digits : List Char) :
    value ≤ Nat.ofDigitChars 10 digits value := by
  induction digits generalizing value with
  | nil => exact Nat.le_refl value
  | cons c digits ih =>
      rw [Nat.ofDigitChars_cons]
      have hrest := ih (10 * value + (c.toNat - '0'.toNat))
      omega

/-- **Reading gives the value of the digits, if it is within the limit.** -/
theorem readDigits_eq_ok_iff {limit value n : Nat} {digits : List Char} (hvalue : value ≤ limit) :
    readDigits limit value digits = .ok n ↔
      (∀ c ∈ digits, c.isDigit = true) ∧ Nat.ofDigitChars 10 digits value = n ∧ n ≤ limit := by
  induction digits generalizing value with
  | nil =>
      rw [readDigits, Nat.ofDigitChars_nil, Except.ok.injEq]
      constructor
      · rintro rfl
        exact ⟨fun c hc => absurd hc List.not_mem_nil, rfl, hvalue⟩
      · rintro ⟨-, hn, -⟩
        exact hn
  | cons c digits ih =>
      rw [readDigits, List.forall_mem_cons, Nat.ofDigitChars_cons]
      by_cases hc : c.isDigit = true
      · rw [digitValue?_of_isDigit hc, Nat.mul_comm 10 value]
        dsimp only
        by_cases hlimit : value * 10 + (c.toNat - '0'.toNat) > limit
        · rw [if_pos hlimit]
          constructor
          · intro h
            cases h
          · rintro ⟨-, hn, hle⟩
            have hgrow := le_ofDigitChars (value * 10 + (c.toNat - '0'.toNat)) digits
            omega
        · rw [if_neg hlimit, ih (Nat.le_of_not_gt hlimit), and_iff_right hc]
      · rw [digitValue?_of_not_isDigit hc]
        constructor
        · intro h
          cases h
        · intro h
          exact absurd h.1.1 hc

end SqlxDryRun.Text
