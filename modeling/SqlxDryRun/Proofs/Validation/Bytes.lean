import SqlxDryRun.Proofs.Binary64
import SqlxDryRun.Validation.Bytes

/-!
# How byte counts are written

A count of one thousand bytes or more is written in the largest unit that it reaches, as the nearest
number of hundredths.  `scaled` is the count behind the divisions, each of which rounds to 53 bits.
`scaled_error` says how far the rounded quotient can be off, and `thousand_le_scaled_iff` that the unit
is chosen as if nothing were rounded.  `WrittenIn` says what the text of a count has to do with the
count, and `exists_writtenIn` that this holds of every count.

The unit is chosen before the number is rounded to hundredths.  So a count that lies less than half a
hundredth below one thousand of its unit is written `1000.00`, and not `1.00` of the next unit; the
texts of all other counts are normal (`bytesText_isNormal_iff`).
-/

namespace SqlxDryRun.Validation

open Binary64

/-! ## Scaling -/

/-- A count behind divisions by one thousand, each of them rounded. -/
def scaled (count : ℕ) : ℕ → Fraction
  | 0 => Binary64.ofNat count
  | k + 1 => divide (scaled count k) 1000

theorem den_scaled_pos (count k : ℕ) : 0 < (scaled count k).den := by
  cases k with
  | zero => exact den_ofNat_pos count
  | succ k => exact den_divide_pos _ _

/-- Scaling never gets below a power of one thousand that the count allows. -/
theorem pow_le_scaled {count i k : ℕ} (hsmall : k + i ≤ 5) (h : 1000 ^ (k + i) ≤ count) :
    1000 ^ i ≤ (scaled count k).value := by
  have hbits (j : ℕ) (hj : j ≤ 5) : 1000 ^ j < 2 ^ 53 :=
    (Nat.pow_le_pow_right (by decide) hj).trans_lt (by decide)
  induction k generalizing i with
  | zero =>
      rw [Nat.zero_add] at hsmall h
      have hpos : 0 < count := (Nat.pow_pos (by decide)).trans_le h
      have hle := (isNearest_ofNat hpos.ne').natCast_le (Nat.pow_pos (by decide)).ne'
        (hbits i hsmall) (by exact_mod_cast h)
      exact_mod_cast hle
  | succ k ih =>
      have hmore : (1000 : ℚ) ^ (i + 1) ≤ (scaled count k).value :=
        ih (by omega) (by rwa [Nat.add_comm i, ← Nat.add_assoc])
      have hone : (1 : ℚ) ≤ 1000 ^ i := one_le_pow₀ (by norm_num)
      rw [pow_succ] at hmore
      have hnearest := isNearest_divide (den_scaled_pos count k) (show 0 < 1000 by decide)
        (by push_cast; linarith)
      have hle := hnearest.natCast_le (n := 1000 ^ i) (Nat.pow_pos (by decide)).ne'
        (hbits i (by omega)) (by push_cast; linarith)
      exact_mod_cast hle

/-- The rounded quotient by one thousand of a count that allows for it. -/
theorem isNearest_scaled_succ {count k : ℕ} (hsmall : k + 1 ≤ 5) (h : 1000 ^ (k + 1) ≤ count) :
    IsNearest ((scaled count k).value / 1000) (scaled count (k + 1)).value := by
  have hle := pow_le_scaled hsmall h
  rw [pow_one] at hle
  exact_mod_cast isNearest_divide (den_scaled_pos count k) (show 0 < 1000 by decide)
    (by exact_mod_cast hle)

/-- In bytes, one more division is off by at most one part in `2 ^ 53`. -/
theorem scaled_succ_error {count k : ℕ} (hsmall : k + 1 ≤ 5) (h : 1000 ^ (k + 1) ≤ count) :
    |(scaled count (k + 1)).value * 1000 ^ (k + 1) - (scaled count k).value * 1000 ^ k| ≤
      (scaled count k).value * 1000 ^ k / 2 ^ 53 := by
  have hpow : (0 : ℚ) < 1000 ^ (k + 1) := by positivity
  have hscale : (scaled count k).value / 1000 * 1000 ^ (k + 1) =
      (scaled count k).value * 1000 ^ k := by ring
  calc |(scaled count (k + 1)).value * 1000 ^ (k + 1) - (scaled count k).value * 1000 ^ k|
      = |(scaled count (k + 1)).value - (scaled count k).value / 1000| * 1000 ^ (k + 1) := by
        rw [← hscale, ← sub_mul, abs_mul, abs_of_pos hpow]
    _ ≤ (scaled count k).value / 1000 / 2 ^ 53 * 1000 ^ (k + 1) :=
        mul_le_mul_of_nonneg_right (isNearest_scaled_succ hsmall h).error hpow.le
    _ = (scaled count k).value * 1000 ^ k / 2 ^ 53 := by rw [← hscale, mul_div_right_comm]

/-- In bytes, a scaled count is off by at most `k + 1` parts in `2 ^ 52`. -/
theorem scaled_error {count k : ℕ} (hsmall : k ≤ 5) (h : 1000 ^ k ≤ count) :
    |(scaled count k).value * 1000 ^ k - count| ≤ count * (k + 1) / 2 ^ 52 := by
  have hnonneg : (0 : ℚ) ≤ count := by positivity
  induction k with
  | zero =>
      have hpos : 0 < count := (Nat.pow_pos (by decide)).trans_le h
      have herror := (isNearest_ofNat hpos.ne').error
      simp only [scaled, pow_zero, mul_one, Nat.cast_zero, zero_add]
      refine herror.trans (div_le_div_of_nonneg_left hnonneg (by positivity) ?_)
      norm_num
  | succ k ih =>
      have hprevious := ih (by omega) ((Nat.pow_le_pow_right (by decide) (by omega)).trans h)
      have hlast := scaled_succ_error hsmall h
      -- The quotient so far is at most twice the count.
      have hk : ((k : ℚ) + 1) / 2 ^ 52 ≤ 1 := by
        have hk : (k : ℚ) + 1 ≤ 5 := by exact_mod_cast hsmall
        rw [div_le_one (by positivity)]
        linarith
      have hshare : (count : ℚ) * (k + 1) / 2 ^ 52 ≤ count := by
        rw [mul_div_assoc]
        exact mul_le_of_le_one_right hnonneg hk
      have hsum : (count : ℚ) * ((k + 1 : ℕ) + 1) / 2 ^ 52 =
          count * (k + 1) / 2 ^ 52 + count / 2 ^ 52 := by
        push_cast
        ring
      rw [abs_le] at hprevious hlast ⊢
      constructor <;> linarith [hprevious.1, hprevious.2, hlast.1, hlast.2]

/-- A scaled count reaches one thousand just if the count is large enough for the next unit. -/
theorem thousand_le_scaled_iff {count k : ℕ} (hsmall : k ≤ 3) (h : 1000 ^ k ≤ count) :
    1000 ≤ (scaled count k).value ↔ 1000 ^ (k + 1) ≤ count := by
  constructor
  · intro hreach
    by_contra hless
    have hnext : (count : ℚ) + 1 ≤ 1000 ^ (k + 1) := by exact_mod_cast Nat.lt_of_not_le hless
    have herror := (abs_le.1 (scaled_error (by omega) h)).2
    have hcount : (count : ℚ) ≤ 1000 ^ 4 := by
      exact_mod_cast (Nat.lt_of_not_le hless).le.trans (Nat.pow_le_pow_right (by decide) (by omega))
    have hk : (k : ℚ) + 1 ≤ 4 := by exact_mod_cast (by omega : k + 1 ≤ 4)
    have hshare : (count : ℚ) * (k + 1) / 2 ^ 52 < 1 := by
      rw [div_lt_one (by positivity)]
      calc (count : ℚ) * (k + 1) ≤ 1000 ^ 4 * 4 :=
            mul_le_mul hcount hk (by positivity) (by positivity)
        _ < 2 ^ 52 := by norm_num
    have hpow : (1000 : ℚ) ^ (k + 1) ≤ (scaled count k).value * 1000 ^ k := by
      rw [pow_succ, mul_comm]
      exact mul_le_mul_of_nonneg_right hreach (by positivity)
    linarith
  · intro hmore
    have hle := pow_le_scaled (by omega) hmore
    rwa [pow_one] at hle

/-! ## The unit -/

/-- The names of the larger units.  The first one stands for one thousand bytes, and every other one
for a thousand of the one before. -/
def unitNames : List String :=
  ["KB", "MB", "GB", "TB"]

/-- The division stops at the first unit of which there are less than one thousand, or at the last
one. -/
theorem exists_scaleTo {count k : ℕ} {unit : String} {rest : List String}
    (hsmall : k + rest.length = 3) (h : 1000 ^ (k + 1) ≤ count) :
    ∃ i name, scaleTo (scaled count k) unit rest = (scaled count (k + 1 + i), name) ∧
      (unit :: rest)[i]? = some name ∧ 1000 ^ (k + 1 + i) ≤ count ∧
      (i < rest.length → count < 1000 ^ (k + 1 + i + 1)) := by
  induction rest generalizing k unit with
  | nil => exact ⟨0, unit, rfl, rfl, h, fun hi => absurd hi (Nat.not_lt_zero _)⟩
  | cons larger rest ih =>
      rw [List.length_cons] at hsmall
      have hreach : atLeast (divide (scaled count k) 1000) 1000 = true ↔
          1000 ^ (k + 1 + 1) ≤ count := by
        rw [← thousand_le_scaled_iff (by omega) h]
        exact_mod_cast atLeast_iff (den_scaled_pos count (k + 1)) 1000
      rw [scaleTo]
      by_cases hmore : 1000 ^ (k + 1 + 1) ≤ count
      · rw [if_pos (hreach.2 hmore)]
        obtain ⟨i, name, hscale, hname, hlow, hhigh⟩ := ih (k := k + 1) (by omega) hmore
        refine ⟨i + 1, name, ?_, ?_, ?_, ?_⟩
        · rw [← Nat.add_assoc, Nat.add_right_comm (k + 1) i 1]
          exact hscale
        · exact hname
        · rw [← Nat.add_assoc, Nat.add_right_comm (k + 1) i 1]
          exact hlow
        · intro hi
          rw [← Nat.add_assoc, Nat.add_right_comm (k + 1) i 1]
          exact hhigh (by rw [List.length_cons] at hi; omega)
      · rw [if_neg (mt hreach.1 hmore)]
        exact ⟨0, unit, rfl, rfl, h, fun _ => Nat.lt_of_not_le hmore⟩

/-! ## The text -/

/-- A text gives a count in the largest unit that the count reaches, to the nearest hundredth.  Next to
a half of a hundredth either neighbour may stand if the count has more than 42 bits. -/
structure WrittenIn (count : ℕ) (text : String) (i : ℕ) (unit : String) (n : ℕ) : Prop where
  named : unitNames[i]? = some unit
  text_eq : text = hundredthsText n ++ " " ++ unit
  reached : 1000 ^ (i + 1) ≤ count
  largest : i < 3 → count < 1000 ^ (i + 2)
  near : 2 * |(100 * count - n * 1000 ^ (i + 1) : ℤ)| ≤ 1000 ^ (i + 1) + count / 2 ^ 42

/-- The hundredths nearest to a scaled count are nearest to the count itself. -/
theorem near_of_roundsTo {count k n : ℕ} (hsmall : k ≤ 4) (h : 1000 ^ k ≤ count)
    (hn : RoundsTo (100 * (scaled count k).value) n) :
    2 * |(100 * count - n * 1000 ^ k : ℤ)| ≤ 1000 ^ k + count / 2 ^ 42 := by
  have hpow : (0 : ℚ) < 1000 ^ k := by positivity
  have hnonneg : (0 : ℚ) ≤ count := by positivity
  have herror := scaled_error (by omega) h
  have hround : |100 * (scaled count k).value * 1000 ^ k - n * 1000 ^ k| ≤ 1 / 2 * 1000 ^ k := by
    rw [← sub_mul, abs_mul, abs_of_pos hpow]
    exact mul_le_mul_of_nonneg_right hn.near hpow.le
  have hshare : 200 * ((count : ℚ) * (k + 1) / 2 ^ 52) ≤ count / 2 ^ 42 := by
    have hk : (k : ℚ) + 1 ≤ 5 := by exact_mod_cast (by omega : k + 1 ≤ 5)
    have hprod : (count : ℚ) * (k + 1) ≤ count * 5 := mul_le_mul_of_nonneg_left hk hnonneg
    rw [← mul_div_assoc, div_le_div_iff₀ (by positivity) (by positivity)]
    linarith
  have hsum : 2 * |(100 * count - n * 1000 ^ k : ℚ)| ≤ 1000 ^ k + count / 2 ^ 42 := by
    rw [← le_div_iff₀' (by norm_num), abs_le]
    rw [abs_le] at herror hround
    constructor <;> linarith [herror.1, herror.2, hround.1, hround.2]
  -- The difference is an integer, so the part of the count can be rounded down.
  have hint : (2 * |(100 * count - n * 1000 ^ k : ℤ)| - 1000 ^ k) * 2 ^ 42 ≤ (count : ℤ) := by
    have hcast : ((2 * |(100 * count - n * 1000 ^ k : ℤ)| - 1000 ^ k : ℤ) : ℚ) * 2 ^ 42 ≤ count := by
      push_cast
      rw [← le_div_iff₀ (by positivity)]
      linarith
    exact_mod_cast hcast
  have hdiv := Int.le_ediv_of_mul_le (by positivity) hint
  linarith

theorem exists_writtenIn {count : UInt64} (h : 1000 ≤ count.toNat) :
    ∃ i unit n, WrittenIn count.toNat (bytesText count) i unit n := by
  have hlarge : ¬count < 1000 := by
    rw [UInt64.lt_iff_toNat_lt]
    exact Nat.not_lt.2 h
  obtain ⟨i, unit, hscale, hname, hlow, hhigh⟩ :=
    @exists_scaleTo count.toNat 0 "KB" ["MB", "GB", "TB"] rfl (by rwa [Nat.zero_add, pow_one])
  rw [Nat.zero_add, Nat.add_comm 1 i] at hscale hlow hhigh
  obtain ⟨n, hn, htext⟩ := exists_twoPlaces (den_scaled_pos count.toNat (i + 1))
  have hi : i < 4 := (List.getElem?_eq_some_iff.1 hname).1
  refine ⟨i, unit, n, hname, ?_, hlow, hhigh, near_of_roundsTo (by omega) hlow hn⟩
  rw [scaled] at hscale
  rw [bytesText, if_neg hlarge, hscale]
  dsimp only
  rw [htext]

theorem WrittenIn.bounds {count i n : ℕ} {text unit : String} (h : WrittenIn count text i unit n) :
    2 * (100 * count) ≤ 2 * (n * 1000 ^ (i + 1)) + 1000 ^ (i + 1) + count / 2 ^ 42 ∧
      2 * (n * 1000 ^ (i + 1)) ≤ 2 * (100 * count) + 1000 ^ (i + 1) + count / 2 ^ 42 := by
  have hlo := neg_abs_le (100 * count - n * 1000 ^ (i + 1) : ℤ)
  have hhi := le_abs_self (100 * count - n * 1000 ^ (i + 1) : ℤ)
  have hnear := h.near
  constructor <;> zify <;> linarith

/-- A count that reaches a unit is at least `1.00` of it. -/
theorem WrittenIn.hundred_le {count i n : ℕ} {text unit : String}
    (h : WrittenIn count text i unit n) : 100 ≤ n := by
  obtain ⟨hlo, -⟩ := h.bounds
  have hreached := h.reached
  have hpow : 0 < 1000 ^ (i + 1) := Nat.pow_pos (by decide)
  by_contra hless
  have hn : n * 1000 ^ (i + 1) ≤ 99 * 1000 ^ (i + 1) := Nat.mul_le_mul_right _ (by omega)
  generalize 1000 ^ (i + 1) = size at *
  generalize n * size = written at *
  omega

/-- The text tells the hundredths and the unit. -/
theorem reading_unique {m n : ℕ} {unit unit' : String} (hunit : unit ∈ unitNames)
    (hunit' : unit' ∈ unitNames)
    (h : hundredthsText m ++ " " ++ unit = hundredthsText n ++ " " ++ unit') :
    m = n ∧ unit = unit' := by
  have hlength : ∀ u ∈ unitNames, u.toList.length = 2 := by decide
  rw [← String.toList_inj] at h
  simp only [String.toList_append] at h
  obtain ⟨hnumber, hname⟩ := List.append_inj' h (by rw [hlength _ hunit, hlength _ hunit'])
  obtain ⟨hnumber, -⟩ := List.append_inj' hnumber rfl
  exact ⟨hundredthsText_inj (String.toList_inj.1 hnumber), String.toList_inj.1 hname⟩

/-- Below the last unit the count is small against `2 ^ 42`. -/
theorem WrittenIn.div_eq_zero {count i n : ℕ} {text unit : String}
    (h : WrittenIn count text i unit n) (hi : i < 3) : count / 2 ^ 42 = 0 := by
  have hpow : 1000 ^ (i + 2) ≤ 1000 ^ 4 := Nat.pow_le_pow_right (by decide) (by omega)
  have hlargest := h.largest hi
  exact Nat.div_eq_of_lt (by omega)

/-- Half a hundredth below one thousand of a unit, the text of a smaller count begins. -/
theorem WrittenIn.lt_iff {count : UInt64} {i n : ℕ} {unit : String}
    (h : WrittenIn count.toNat (bytesText count) i unit n) (hi : i < 3) :
    n < 100000 ↔ count.toNat < 999995 * 1000 ^ i := by
  obtain ⟨hlo, hhi⟩ := h.bounds
  rw [h.div_eq_zero hi, pow_succ] at hlo hhi
  rcases Nat.lt_trichotomy count.toNat (999995 * 1000 ^ i) with hlt | heq | hgt
  · refine iff_of_true ?_ hlt
    by_contra hfull
    have hn : 100000 * (1000 ^ i * 1000) ≤ n * (1000 ^ i * 1000) :=
      Nat.mul_le_mul_right _ (Nat.le_of_not_lt hfull)
    omega
  · -- In the middle the rounding of the quotient decides.
    have htext : bytesText count = hundredthsText 100000 ++ " " ++ unit := by
      have hcount : count = .ofNat (999995 * 1000 ^ i) := by
        rw [← heq, UInt64.ofNat_toNat]
      have hname := h.named
      have hcases : i = 0 ∨ i = 1 ∨ i = 2 := by omega
      rcases hcases with rfl | rfl | rfl <;> obtain rfl := Option.some.inj hname <;> rw [hcount] <;>
        decide
    have hunit : unit ∈ unitNames := List.mem_of_getElem? h.named
    have hn := (reading_unique hunit hunit (h.text_eq.symm.trans htext)).1
    refine iff_of_false ?_ ?_ <;> omega
  · refine iff_of_false ?_ (by omega)
    intro hless
    have hn : n * (1000 ^ i * 1000) ≤ 99999 * (1000 ^ i * 1000) :=
      Nat.mul_le_mul_right _ (Nat.le_of_lt_succ hless)
    omega

/-- Less than one thousand of a unit are at most `1000.00` of it. -/
theorem WrittenIn.le_full {count i n : ℕ} {text unit : String} (h : WrittenIn count text i unit n)
    (hi : i < 3) : n ≤ 100000 := by
  obtain ⟨-, hhi⟩ := h.bounds
  have hpos : 0 < 1000 ^ i := Nat.pow_pos (by decide)
  have hlargest := h.largest hi
  by_contra hmore
  have hn : 100001 * (1000 ^ i * 1000) ≤ n * (1000 ^ i * 1000) :=
    Nat.mul_le_mul_right _ (by omega)
  rw [h.div_eq_zero hi, pow_succ] at hhi
  rw [pow_succ, pow_succ] at hlargest
  omega

/-! ## Normal texts -/

/-- The normal text of a count: the plain count in bytes below one thousand, and otherwise a number of
a larger unit with two decimal places, which is at least `1.00` and, unless the unit is the last one,
less than `1000.00`. -/
def IsNormal (count : ℕ) (text : String) : Prop :=
  if count < 1000 then text = toString count ++ " B"
  else
    ∃ n, ∃ unit ∈ unitNames, text = hundredthsText n ++ " " ++ unit ∧ 100 ≤ n ∧
      (unit ≠ "TB" → n < 100000)

/-- A count less than half a hundredth short of one thousand of its unit, or just half a hundredth. -/
def FillsUnit (count : ℕ) : Prop :=
  ∃ i, i < 3 ∧ 999995 * 1000 ^ i ≤ count ∧ count < 1000 ^ (i + 2)

instance (count : ℕ) : Decidable (FillsUnit count) :=
  inferInstanceAs (Decidable (∃ i, i < 3 ∧ _))

theorem bytesText_of_lt {count : UInt64} (h : count.toNat < 1000) :
    bytesText count = toString count.toNat ++ " B" := by
  have hsmall : count < 1000 := by
    rw [UInt64.lt_iff_toNat_lt]
    exact h
  rw [bytesText, if_pos hsmall]

theorem FillsUnit.thousand_le {count : ℕ} (h : FillsUnit count) : 1000 ≤ count := by
  obtain ⟨i, -, hlow, -⟩ := h
  have hpos : 0 < 1000 ^ i := Nat.pow_pos (by decide)
  omega

theorem WrittenIn.isNormal_iff {count : ℕ} {text unit : String} {i n : ℕ}
    (h : WrittenIn count text i unit n) : IsNormal count text ↔ (i < 3 → n < 100000) := by
  have hunit : unit ∈ unitNames := List.mem_of_getElem? h.named
  have hlast : unit ≠ "TB" ↔ i < 3 := by
    have hname := h.named
    have hi : i < 4 := (List.getElem?_eq_some_iff.1 hname).1
    have hcases : i = 0 ∨ i = 1 ∨ i = 2 ∨ i = 3 := by omega
    rcases hcases with rfl | rfl | rfl | rfl <;> obtain rfl := Option.some.inj hname <;> decide
  have hlarge : ¬count < 1000 := by
    have hpow : 1000 ^ 1 ≤ 1000 ^ (i + 1) := Nat.pow_le_pow_right (by decide) (by omega)
    have hreached := h.reached
    omega
  rw [IsNormal, if_neg hlarge, ← hlast]
  constructor
  · rintro ⟨m, unit', hunit', htext, -, hless⟩
    obtain ⟨rfl, rfl⟩ := reading_unique hunit hunit' (h.text_eq.symm.trans htext)
    exact hless
  · intro hless
    exact ⟨n, unit, hunit, h.text_eq, h.hundred_le, hless⟩

/-- The unit that a count nearly fills is the one it is written in. -/
theorem WrittenIn.fillsUnit_iff {count : ℕ} {text unit : String} {i n : ℕ}
    (h : WrittenIn count text i unit n) : FillsUnit count ↔ i < 3 ∧ 999995 * 1000 ^ i ≤ count := by
  constructor
  · rintro ⟨j, hj, hlow, hhigh⟩
    have hreached := h.reached
    have hle : i ≤ j := by
      by_contra hlt
      have hpow : 1000 ^ (j + 2) ≤ 1000 ^ (i + 1) := Nat.pow_le_pow_right (by decide) (by omega)
      omega
    have hlargest := h.largest (by omega)
    have hge : j ≤ i := by
      by_contra hlt
      have hpow : 1000 ^ (i + 2) ≤ 1000 ^ (j + 1) := Nat.pow_le_pow_right (by decide) (by omega)
      rw [pow_succ 1000 j] at hpow
      omega
    obtain rfl := Nat.le_antisymm hle hge
    exact ⟨hj, hlow⟩
  · rintro ⟨hi, hlow⟩
    exact ⟨i, hi, hlow, h.largest hi⟩

/-- **When a byte text is normal.**  The text of a count is normal unless the count nearly fills its
unit; then it is `1000.00` of this unit.  A count of one thousand or more always is written in the
largest unit that it reaches, to the nearest hundredth. -/
theorem bytesText_isNormal_iff (count : UInt64) :
    (IsNormal count.toNat (bytesText count) ↔ ¬FillsUnit count.toNat) ∧
    (FillsUnit count.toNat → ∃ i, i < 3 ∧ ∃ unit, unitNames[i]? = some unit ∧
      bytesText count = "1000.00 " ++ unit) ∧
    (1000 ≤ count.toNat → ∃ i unit n, WrittenIn count.toNat (bytesText count) i unit n) := by
  refine ⟨?_, ?_, exists_writtenIn⟩
  · rcases Nat.lt_or_ge count.toNat 1000 with hsmall | hlarge
    · refine iff_of_true ?_ fun h => Nat.not_lt.2 h.thousand_le hsmall
      rw [IsNormal, if_pos hsmall]
      exact bytesText_of_lt hsmall
    · obtain ⟨i, unit, n, h⟩ := exists_writtenIn hlarge
      rw [h.isNormal_iff, h.fillsUnit_iff, not_and, Nat.not_le]
      exact forall_congr' h.lt_iff
  · intro hfills
    obtain ⟨i, unit, n, h⟩ := exists_writtenIn hfills.thousand_le
    obtain ⟨hi, hlow⟩ := h.fillsUnit_iff.1 hfills
    have hfull : n = 100000 :=
      Nat.le_antisymm (h.le_full hi) (Nat.le_of_not_lt fun hless => by
        have := (h.lt_iff hi).1 hless
        omega)
    refine ⟨i, hi, unit, h.named, ?_⟩
    rw [h.text_eq, hfull]
    rfl

/-- Just below the last half of a hundredth the text is normal, and from there on it is not. -/
theorem bytesText_isNormal_iff_megabytes :
    ¬FillsUnit 999994999 ∧ IsNormal 999994999 (bytesText 999994999) ∧
      FillsUnit 999995000 ∧ 1000 ≤ (999995000 : UInt64).toNat ∧
      (∃ i, i < 3 ∧ ∃ unit, unitNames[i]? = some unit ∧
        bytesText 999995000 = "1000.00 " ++ unit) ∧
      ∃ i unit n, WrittenIn 999995000 (bytesText 999995000) i unit n := by
  have hnormal : ¬FillsUnit 999994999 := by decide
  have hfills : FillsUnit 999995000 := by decide
  have hlarge : 1000 ≤ (999995000 : UInt64).toNat := by decide
  obtain ⟨hiff, -, -⟩ := bytesText_isNormal_iff 999994999
  obtain ⟨-, hfull, hwritten⟩ := bytesText_isNormal_iff 999995000
  exact ⟨hnormal, hiff.2 hnormal, hfills, hlarge, hfull hfills, hwritten hlarge⟩

/-- **A full unit.**  This count is written as one thousand kilobytes. -/
theorem thousand_kilobytes :
    bytesText 999999 = "1000.00 KB" ∧ ¬IsNormal 999999 (bytesText 999999) := by
  have htext : bytesText 999999 = "1000.00 KB" := by decide
  refine ⟨htext, ?_⟩
  rw [htext, IsNormal, if_neg (by decide)]
  rintro ⟨n, unit, hunit, hsame, -, hless⟩
  obtain ⟨rfl, rfl⟩ := @reading_unique 100000 n "KB" unit (by decide) hunit hsame
  exact absurd (hless (by decide)) (by decide)

end SqlxDryRun.Validation
