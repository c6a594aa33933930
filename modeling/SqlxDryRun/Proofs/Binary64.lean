import Mathlib.Algebra.Order.Field.Rat
import Mathlib.Data.Nat.Cast.Order.Field
import Mathlib.Tactic.FieldSimp
import Mathlib.Tactic.Linarith
import Mathlib.Tactic.NormNum
import Mathlib.Tactic.Positivity
import Mathlib.Tactic.Ring
import SqlxDryRun.Binary64

/-!
# Rounding keeps the order and is off by little

What rounding to 53 bits does, told with rationals.  `RoundsTo` says which integer a number is rounded
to and `IsNearest` which number of 53 bits; the functions find these (`roundsTo_roundDiv`,
`isNearest_nearest`).  Everything else follows from the two predicates: rounding keeps the order
(`IsNearest.mono`), it is off by at most one part in `2 ^ 53` (`IsNearest.error`), and it leaves the
integers of 53 bits as they are (`isNearest_natCast`).  A number is written with the hundredths nearest
to it (`exists_twoPlaces`), and its text tells them (`hundredthsText_inj`).
-/

namespace SqlxDryRun.Binary64

/-- The value of a fraction. -/
def Fraction.value (x : Fraction) : ℚ :=
  x.num / x.den

/-! ## Integers -/

/-- An integer is nearest to a number, and it is even if another one is as near. -/
structure RoundsTo (q : ℚ) (n : ℕ) : Prop where
  near : |q - n| ≤ 1 / 2
  even : |q - n| = 1 / 2 → n % 2 = 0

theorem roundsTo_natCast (n : ℕ) : RoundsTo n n := by
  constructor
  · rw [sub_self, abs_zero]
    norm_num
  · intro h
    rw [sub_self, abs_zero] at h
    norm_num at h

/-- Rounding to an integer keeps the order. -/
theorem RoundsTo.mono {p q : ℚ} {m n : ℕ} (hm : RoundsTo p m) (hn : RoundsTo q n) (h : p ≤ q) :
    m ≤ n := by
  by_contra hlt
  have hstep : (n : ℚ) + 1 ≤ m := by exact_mod_cast Nat.lt_of_not_le hlt
  obtain ⟨hplo, -⟩ := abs_le.1 hm.near
  obtain ⟨-, hqhi⟩ := abs_le.1 hn.near
  -- Both numbers lie halfway between the integers, and both integers are even.
  have hp : p - m = -(1 / 2) := by linarith
  have hq : q - n = 1 / 2 := by linarith
  have hmeven := hm.even (by rw [hp, abs_neg]; norm_num)
  have hneven := hn.even (by rw [hq]; norm_num)
  have hnext : m = n + 1 := by
    have : (m : ℚ) = n + 1 := by linarith
    exact_mod_cast this
  omega

/-- The fractional part decides, and the integral part in a tie. -/
theorem roundDiv_eq (num den : ℕ) :
    roundDiv num den =
      if den < 2 * (num % den) ∨ 2 * (num % den) = den ∧ num / den % 2 = 1 then num / den + 1
      else num / den := by
  rw [roundDiv]
  simp only [gt_iff_lt, Bool.or_eq_true, Bool.and_eq_true, decide_eq_true_eq, beq_iff_eq]

theorem roundsTo_roundDiv (num : ℕ) {den : ℕ} (hden : 0 < den) :
    RoundsTo (num / den) (roundDiv num den) := by
  have hpos : (0 : ℚ) < den := by exact_mod_cast hden
  obtain ⟨part, hpart⟩ : ∃ part : ℚ, part = (num % den : ℕ) / den := ⟨_, rfl⟩
  have hsplit : (num : ℚ) / den = (num / den : ℕ) + part := by
    have hnum : (num : ℚ) = den * (num / den : ℕ) + (num % den : ℕ) := by
      exact_mod_cast (Nat.div_add_mod num den).symm
    rw [hpart, div_eq_iff hpos.ne', add_mul, div_mul_cancel₀ _ hpos.ne', mul_comm]
    exact hnum
  have hscaled : part * den = (num % den : ℕ) := by
    rw [hpart, div_mul_cancel₀ _ hpos.ne']
  have hnonneg : 0 ≤ part := by
    rw [hpart]
    positivity
  have hone : part ≤ 1 := by
    rw [hpart, div_le_one hpos]
    exact_mod_cast (Nat.mod_lt num hden).le
  -- The fractional part against one half, in integers.
  have hlt : 1 / 2 < part ↔ den < 2 * (num % den) := by
    rw [← mul_lt_mul_iff_left₀ hpos, hscaled, ← Nat.cast_lt (α := ℚ), Nat.cast_mul, Nat.cast_ofNat]
    constructor <;> intro h <;> linarith
  have heq : part = 1 / 2 ↔ 2 * (num % den) = den := by
    rw [← mul_left_inj' hpos.ne', hscaled, ← Nat.cast_inj (R := ℚ), Nat.cast_mul, Nat.cast_ofNat]
    constructor <;> intro h <;> linarith
  rw [hsplit, roundDiv_eq]
  split
  · rename_i hup
    rw [← hlt, ← heq] at hup
    have hgap : |((num / den : ℕ) : ℚ) + part - (num / den + 1 : ℕ)| = 1 - part := by
      rw [Nat.cast_add_one, add_sub_add_left_eq_sub, abs_sub_comm, abs_of_nonneg (by linarith)]
    constructor
    · rw [hgap]
      rcases hup with h | ⟨h, -⟩ <;> linarith
    · intro htie
      rw [hgap] at htie
      rcases hup with h | ⟨-, hodd⟩
      · linarith
      · omega
  · rename_i hdown
    rw [← hlt, ← heq] at hdown
    have hgap : |((num / den : ℕ) : ℚ) + part - (num / den : ℕ)| = part := by
      rw [add_sub_cancel_left, abs_of_nonneg hnonneg]
    constructor
    · rw [hgap]
      exact not_lt.1 fun h => hdown (Or.inl h)
    · intro htie
      rw [hgap] at htie
      exact Nat.mod_two_ne_one.1 fun hodd => hdown (Or.inr ⟨htie, hodd⟩)

/-! ## Numbers of 53 bits -/

/-- A number has 53 significant bits and is nearest to another one, which lies between a power of
two and the next one; in a tie its significand is even. -/
def IsNearest (q r : ℚ) : Prop :=
  ∃ e s : ℕ, 2 ^ e ≤ q ∧ q < 2 ^ (e + 1) ∧ RoundsTo (q / (2 ^ e / 2 ^ 52)) s ∧
    r = s * (2 ^ e / 2 ^ 52)

/-- Rounding keeps the order. -/
theorem IsNearest.mono {p q r t : ℚ} (hr : IsNearest p r) (ht : IsNearest q t) (h : p ≤ q) :
    r ≤ t := by
  obtain ⟨e, m, hplo, hphi, hm, rfl⟩ := hr
  obtain ⟨f, n, hqlo, hqhi, hn, rfl⟩ := ht
  have hunit : (0 : ℚ) < 2 ^ e / 2 ^ 52 := by positivity
  have hef : e ≤ f := by
    by_contra hlt
    have hpow : (2 : ℚ) ^ (f + 1) ≤ 2 ^ e := pow_le_pow_right₀ (by norm_num) (by omega)
    linarith
  rcases Nat.eq_or_lt_of_le hef with rfl | hlt
  · have hmn : m ≤ n := hm.mono hn (div_le_div_of_nonneg_right h hunit.le)
    exact mul_le_mul_of_nonneg_right (by exact_mod_cast hmn) hunit.le
  · -- A power of two lies between the results.
    have hpow : (2 : ℚ) ^ (e + 1) ≤ 2 ^ f := pow_le_pow_right₀ (by norm_num) (by omega)
    have htop : m ≤ 2 ^ 53 := by
      refine hm.mono (roundsTo_natCast _) ?_
      rw [div_le_iff₀ hunit]
      push_cast
      rw [pow_succ] at hphi
      linarith
    have hbottom : 2 ^ 52 ≤ n := by
      refine (roundsTo_natCast _).mono hn ?_
      rw [le_div_iff₀ (by positivity)]
      push_cast
      linarith
    calc (m : ℚ) * (2 ^ e / 2 ^ 52)
        ≤ 2 ^ 53 * (2 ^ e / 2 ^ 52) := by
          exact mul_le_mul_of_nonneg_right (by exact_mod_cast htop) hunit.le
      _ = 2 ^ (e + 1) := by ring
      _ ≤ 2 ^ f := hpow
      _ = 2 ^ 52 * (2 ^ f / 2 ^ 52) := by ring
      _ ≤ n * (2 ^ f / 2 ^ 52) := by
          exact mul_le_mul_of_nonneg_right (by exact_mod_cast hbottom) (by positivity)

/-- Rounding changes a number by at most one part in `2 ^ 53`. -/
theorem IsNearest.error {q r : ℚ} (h : IsNearest q r) : |r - q| ≤ q / 2 ^ 53 := by
  obtain ⟨e, s, hlo, -, hs, rfl⟩ := h
  have hunit : (0 : ℚ) < 2 ^ e / 2 ^ 52 := by positivity
  have hdiff : (s : ℚ) * (2 ^ e / 2 ^ 52) - q =
      -((q / (2 ^ e / 2 ^ 52) - s) * (2 ^ e / 2 ^ 52)) := by
    rw [sub_mul, div_mul_cancel₀ _ hunit.ne']
    ring
  calc |(s : ℚ) * (2 ^ e / 2 ^ 52) - q|
      = |q / (2 ^ e / 2 ^ 52) - s| * (2 ^ e / 2 ^ 52) := by
        rw [hdiff, abs_neg, abs_mul, abs_of_pos hunit]
    _ ≤ 1 / 2 * (2 ^ e / 2 ^ 52) := mul_le_mul_of_nonneg_right hs.near hunit.le
    _ = 2 ^ e / 2 ^ 53 := by ring
    _ ≤ q / 2 ^ 53 := div_le_div_of_nonneg_right hlo (by positivity)

/-- An integer of at most 53 bits is not changed. -/
theorem isNearest_natCast {n : ℕ} (hpos : n ≠ 0) (hn : n < 2 ^ 53) : IsNearest n n := by
  have hlog : n.log2 ≤ 52 := Nat.le_of_lt_succ ((Nat.log2_lt hpos).2 hn)
  have hunit : (2 : ℚ) ^ n.log2 / 2 ^ 52 = 1 / 2 ^ (52 - n.log2) := by
    rw [div_eq_div_iff (by positivity) (by positivity), one_mul, ← pow_add,
      Nat.add_sub_cancel' hlog]
  refine ⟨n.log2, n * 2 ^ (52 - n.log2), ?_, ?_, ?_, ?_⟩
  · exact_mod_cast Nat.log2_self_le hpos
  · exact_mod_cast Nat.lt_log2_self
  · rw [hunit, div_div_eq_mul_div, div_one]
    exact_mod_cast roundsTo_natCast _
  · rw [hunit]
    push_cast
    rw [mul_one_div, mul_div_assoc, div_self (by positivity), mul_one]

theorem IsNearest.natCast_le {q r : ℚ} {n : ℕ} (h : IsNearest q r) (hpos : n ≠ 0)
    (hn : n < 2 ^ 53) (hle : n ≤ q) : n ≤ r :=
  (isNearest_natCast hpos hn).mono h hle

/-! ## The operations -/

theorem den_nearest_pos (x : Fraction) : 0 < (nearest x).den := by
  rw [nearest]
  split
  · exact Nat.pow_pos (by decide)
  · exact Nat.one_pos

/-- The two branches of the rounding are one: the unit is a power of two over a power of two, and
one of the powers is one. -/
theorem nearest_eq (x : Fraction) :
    nearest x =
      let e := (x.num / x.den).log2
      ⟨roundDiv (x.num * 2 ^ (52 - e)) (x.den * 2 ^ (e - 52)) * 2 ^ (e - 52), 2 ^ (52 - e)⟩ := by
  rw [nearest]
  split
  · rename_i he
    simp only [Nat.pow_eq, Nat.sub_eq_zero_of_le he, pow_zero, mul_one]
  · rename_i he
    simp only [Nat.pow_eq, Nat.sub_eq_zero_of_le (Nat.le_of_not_le he), pow_zero, mul_one]

/-- The last place of a number between a power of two and the next one. -/
theorem unit_eq (e : ℕ) : (2 : ℚ) ^ (e - 52) / 2 ^ (52 - e) = 2 ^ e / 2 ^ 52 := by
  have hexponent : e - 52 + 52 = e + (52 - e) := by omega
  rw [div_eq_div_iff (by positivity) (by positivity), ← pow_add, hexponent, pow_add]

theorem isNearest_nearest {x : Fraction} (hden : 0 < x.den) (h : 1 ≤ x.value) :
    IsNearest x.value (nearest x).value := by
  have hpos : (0 : ℚ) < x.den := by exact_mod_cast hden
  have hfloor : (x.num / x.den : ℕ) ≤ x.value := Nat.cast_div_le
  have hceil : x.value < (x.num / x.den : ℕ) + 1 := by
    rw [Fraction.value, div_lt_iff₀ hpos]
    exact_mod_cast Nat.lt_mul_of_div_lt (Nat.lt_succ_self _) hden
  have hint : x.num / x.den ≠ 0 := by
    intro hzero
    rw [hzero, Nat.cast_zero] at hceil
    linarith
  refine ⟨(x.num / x.den).log2,
    roundDiv (x.num * 2 ^ (52 - (x.num / x.den).log2)) (x.den * 2 ^ ((x.num / x.den).log2 - 52)),
    ?_, ?_, ?_, ?_⟩
  · have hlog : (2 ^ (x.num / x.den).log2 : ℚ) ≤ (x.num / x.den : ℕ) := by
      exact_mod_cast Nat.log2_self_le hint
    exact hlog.trans hfloor
  · have hlog : ((x.num / x.den : ℕ) : ℚ) + 1 ≤ 2 ^ ((x.num / x.den).log2 + 1) := by
      exact_mod_cast Nat.lt_log2_self
    exact hceil.trans_le hlog
  · have hround := roundsTo_roundDiv (x.num * 2 ^ (52 - (x.num / x.den).log2))
      (Nat.mul_pos hden (Nat.pow_pos (n := (x.num / x.den).log2 - 52) Nat.two_pos))
    push_cast at hround
    rwa [mul_div_mul_comm, ← one_div_div ((2 : ℚ) ^ _) (2 ^ (52 - _)), unit_eq, mul_one_div] at hround
  · rw [nearest_eq, Fraction.value]
    push_cast
    rw [mul_div_assoc, unit_eq]

theorem isNearest_divide {x : Fraction} {k : ℕ} (hden : 0 < x.den) (hk : 0 < k)
    (h : k ≤ x.value) : IsNearest (x.value / k) (divide x k).value := by
  have hpos : (0 : ℚ) < k := by exact_mod_cast hk
  have hvalue : (Fraction.mk x.num (x.den * k)).value = x.value / k := by
    rw [Fraction.value, Fraction.value, Nat.cast_mul, div_div]
  rw [divide, ← hvalue]
  refine isNearest_nearest (Nat.mul_pos hden hk) ?_
  rw [hvalue, one_le_div hpos]
  exact h

theorem den_divide_pos (x : Fraction) (k : ℕ) : 0 < (divide x k).den :=
  den_nearest_pos _

theorem isNearest_ofNat {n : ℕ} (hn : n ≠ 0) : IsNearest n (ofNat n).value := by
  have hvalue : (Fraction.mk n 1).value = n := by
    rw [Fraction.value, Nat.cast_one, div_one]
  have hzero : (n == 0) = false := beq_false_of_ne hn
  rw [ofNat, hzero, if_neg (by decide)]
  nth_rewrite 1 [← hvalue]
  refine isNearest_nearest Nat.one_pos ?_
  rw [hvalue]
  exact_mod_cast Nat.one_le_iff_ne_zero.2 hn

theorem den_ofNat_pos (n : ℕ) : 0 < (ofNat n).den := by
  rw [ofNat]
  split
  · exact Nat.one_pos
  · exact den_nearest_pos _

theorem atLeast_iff {x : Fraction} (hden : 0 < x.den) (n : ℕ) :
    atLeast x n = true ↔ n ≤ x.value := by
  have hpos : (0 : ℚ) < x.den := by exact_mod_cast hden
  rw [atLeast, decide_eq_true_iff, Fraction.value, le_div_iff₀ hpos]
  exact_mod_cast Iff.rfl

/-! ## Two decimal places -/

/-- The text of a number of hundredths. -/
def hundredthsText (n : ℕ) : String :=
  toString (n / 100) ++ "." ++ toString (n / 10 % 10) ++ toString (n % 10)

theorem toString_two_digits {n : ℕ} (hn : n < 100) :
    (if n < 10 then "0" else "") ++ toString n = toString (n / 10) ++ toString (n % 10) := by
  revert n
  decide

/-- A number is written with the hundredths nearest to it. -/
theorem exists_twoPlaces {x : Fraction} (hden : 0 < x.den) :
    ∃ n, RoundsTo (100 * x.value) n ∧ twoPlaces x = hundredthsText n := by
  refine ⟨roundDiv (100 * x.num) x.den, ?_, ?_⟩
  · have hround := roundsTo_roundDiv (100 * x.num) hden
    rwa [Nat.cast_mul, Nat.cast_ofNat, mul_div_assoc] at hround
  · generalize hn : roundDiv (100 * x.num) x.den = n
    have hlast : n % 100 % 10 = n % 10 := Nat.mod_mod_of_dvd n (by decide)
    have hfirst : n % 100 / 10 = n / 10 % 10 := by omega
    rw [twoPlaces, hn, String.append_assoc, toString_two_digits (Nat.mod_lt n (by decide)), hlast,
      hfirst, hundredthsText]
    simp only [String.append_assoc]

theorem toString_inj {m n : ℕ} (h : toString m = toString n) : m = n := by
  rw [Nat.toString_eq_ofList_toDigits, Nat.toString_eq_ofList_toDigits, String.ofList_inj] at h
  calc m = Nat.ofDigitChars 10 (Nat.toDigits 10 m) 0 := Nat.ofDigitChars_ten_toDigits.symm
    _ = Nat.ofDigitChars 10 (Nat.toDigits 10 n) 0 := by rw [h]
    _ = n := Nat.ofDigitChars_ten_toDigits

theorem length_toString_digit {n : ℕ} (hn : n < 10) : (toString n).toList.length = 1 := by
  revert n
  decide

/-- The text tells the hundredths. -/
theorem hundredthsText_inj {m n : ℕ} (h : hundredthsText m = hundredthsText n) : m = n := by
  rw [hundredthsText, hundredthsText, ← String.toList_inj] at h
  simp only [String.toList_append] at h
  have hlength (k : ℕ) : (toString (k % 10)).toList.length = 1 :=
    length_toString_digit (Nat.mod_lt k (by decide))
  obtain ⟨h, hones⟩ := List.append_inj' h (by rw [hlength, hlength])
  obtain ⟨h, htens⟩ := List.append_inj' h (by rw [hlength, hlength])
  obtain ⟨hwhole, -⟩ := List.append_inj' h rfl
  have hwhole := toString_inj (String.toList_inj.1 hwhole)
  have htens := toString_inj (String.toList_inj.1 htens)
  have hones := toString_inj (String.toList_inj.1 hones)
  omega

end SqlxDryRun.Binary64
