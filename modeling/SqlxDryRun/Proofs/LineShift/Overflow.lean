import Mathlib.Algebra.Order.Ring.Int
import Mathlib.Tactic.SplitIfs
import SqlxDryRun.Proofs.LineShift

/-!
# Whether the sums of a shift fit

The settings may give any 64-bit number for the lines of the preamble.  The exact line in the source
(`exactLine`) then is an integer that may not have 64 bits, and `sumsFit_iff` says that this is the only
way in which one of the sums behind a shift can overflow: none of them does just if the exact line is
less than `2 ^ 63`.  A sum that overflows wraps around, so the line is the exact one up to a multiple of
`2 ^ 64` before it is made a line of 32 bits (`toInt_shiftedLine`).  Together this gives
`toSource_exact_iff`: a line is led to the line of 32 bits nearest to the exact one if the sums fit, and
to line zero if they do not.
-/

namespace SqlxDryRun

open SqlxDryRun.ConfigBlock

/-- The line in the source as an exact sum of integers.  A span that is not closed, or whose bounds are
in the wrong order, has no lines. -/
def exactLine (p : Position) (s : Span) (preamble : Int64) : ℤ :=
  p.line.toNat + max ((s.endLine.toNat : ℤ) - s.startLine.toNat) 0 + 1 - preamble.toInt

/-- None of the 64-bit sums of a shift leaves the range of 64 bits. -/
structure SumsFit (p : Position) (s : Span) (preamble : Int64) : Prop where
  length : BitVec.saddOverflow (Int64.ofNat s.length.toNat).toBitVec (1 : Int64).toBitVec = false
  shift : BitVec.ssubOverflow (Int64.ofNat s.length.toNat + 1).toBitVec preamble.toBitVec = false
  line :
    BitVec.saddOverflow (Int64.ofNat p.line.toNat).toBitVec (s.lineShift preamble).toBitVec = false

/-- The length of a span whatever its bounds are. -/
theorem toNat_length (s : Span) :
    (s.length.toNat : ℤ) = max ((s.endLine.toNat : ℤ) - s.startLine.toNat) 0 := by
  rw [Span.length]
  split
  · rename_i hle
    rw [UInt32.toNat_sub_of_le _ _ hle]
    rw [UInt32.le_iff_toNat_le] at hle
    omega
  · rename_i hgt
    rw [UInt32.le_iff_toNat_le] at hgt
    rw [UInt32.toNat_zero]
    omega

theorem saddOverflow_eq_false_iff (a b : Int64) :
    BitVec.saddOverflow a.toBitVec b.toBitVec = false ↔
      -2 ^ 63 ≤ a.toInt + b.toInt ∧ a.toInt + b.toInt < 2 ^ 63 := by
  rw [BitVec.saddOverflow, Bool.or_eq_false_iff, decide_eq_false_iff_not, decide_eq_false_iff_not,
    not_le, not_lt, and_comm]
  rfl

theorem ssubOverflow_eq_false_iff (a b : Int64) :
    BitVec.ssubOverflow a.toBitVec b.toBitVec = false ↔
      -2 ^ 63 ≤ a.toInt - b.toInt ∧ a.toInt - b.toInt < 2 ^ 63 := by
  rw [BitVec.ssubOverflow, Bool.or_eq_false_iff, decide_eq_false_iff_not, decide_eq_false_iff_not,
    not_le, not_lt, and_comm]
  rfl

/-- The shifted line, whether or not the sums fit: it is the exact one up to a multiple of `2 ^ 64`. -/
theorem toInt_shiftedLine (p : Position) (s : Span) (preamble : Int64) :
    (Int64.ofNat p.line.toNat + s.lineShift preamble).toInt =
      (exactLine p s preamble).bmod (2 ^ 64) := by
  have hone : (1 : Int64).toInt = 1 := rfl
  have hexact : exactLine p s preamble =
      p.line.toNat + (s.length.toNat + 1 - preamble.toInt) := by
    rw [exactLine, ← toNat_length]
    omega
  rw [Span.lineShift, Int64.toInt_add, Int64.toInt_sub, Int64.toInt_add, toInt_ofNat_toNat,
    toInt_ofNat_toNat, hone, Int.bmod_sub_bmod, Int.add_bmod_bmod, hexact]

/-- The exact line is far above the least integer of 64 bits and next to the largest one. -/
theorem exactLine_bounds (p : Position) (s : Span) (preamble : Int64) :
    -2 ^ 63 < exactLine p s preamble ∧ exactLine p s preamble < 2 ^ 63 + 2 ^ 33 := by
  have hline := p.line.toNat_lt
  have hlength := s.length.toNat_lt
  have hlow := preamble.le_toInt
  have hhigh := preamble.toInt_lt
  rw [exactLine, ← toNat_length]
  omega

/-- The sums fit just if the exact line does. -/
theorem sumsFit_iff (p : Position) (s : Span) (preamble : Int64) :
    SumsFit p s preamble ↔ exactLine p s preamble < 2 ^ 63 := by
  have hline := p.line.toNat_lt
  have hlength := s.length.toNat_lt
  have hlow := preamble.le_toInt
  have hhigh := preamble.toInt_lt
  have hone : (1 : Int64).toInt = 1 := rfl
  have hsucc : (Int64.ofNat s.length.toNat + 1).toInt = s.length.toNat + 1 := by
    rw [toInt_add_of_bounds] <;> rw [toInt_ofNat_toNat, hone] <;> omega
  rw [exactLine, ← toNat_length]
  constructor
  · intro h
    have hshift := (ssubOverflow_eq_false_iff _ _).1 h.shift
    have hsum := (saddOverflow_eq_false_iff _ _).1 h.line
    rw [hsucc] at hshift
    rw [toInt_ofNat_toNat, toInt_lineShift s preamble (by omega)] at hsum
    omega
  · intro h
    refine ⟨?_, ?_, ?_⟩
    · rw [saddOverflow_eq_false_iff, toInt_ofNat_toNat, hone]
      omega
    · rw [ssubOverflow_eq_false_iff, hsucc]
      omega
    · rw [saddOverflow_eq_false_iff, toInt_ofNat_toNat, toInt_lineShift s preamble (by omega)]
      omega

/-- **Where a line is led, for every preamble and every span.**  The sums fit just if the exact line has
64 bits.  If it has, the line in the source is the exact one, or the nearest line of 32 bits; if it has
not, the sum wraps around to a negative one, and the line is zero.  The column stays. -/
theorem toSource_exact_iff (p : Position) (s : Span) (preamble : Int64) :
    (SumsFit p s preamble ↔ exactLine p s preamble < 2 ^ 63) ∧
    (p.toSource s preamble).column = p.column ∧
    ((p.toSource s preamble).line.toNat : ℤ) =
      if exactLine p s preamble < 2 ^ 63 then max 0 (min (exactLine p s preamble) (2 ^ 32 - 1))
      else 0 := by
  refine ⟨sumsFit_iff p s preamble, rfl, ?_⟩
  obtain ⟨hlow, hhigh⟩ := exactLine_bounds p s preamble
  have hline : (p.toSource s preamble).line.toNat =
      min ((exactLine p s preamble).bmod (2 ^ 64)).toNat (2 ^ 32 - 1) := by
    rw [Position.toSource, clampLine_eq, toInt_shiftedLine]
    exact UInt32.toNat_ofNat_of_lt' (by show min _ (2 ^ 32 - 1) < 2 ^ 32; omega)
  rw [hline]
  split_ifs with hfits
  · rw [Int.bmod_eq_of_le (by omega) (by omega)]
    omega
  · -- The wrapped sum is negative.
    have hwrapped : (exactLine p s preamble).bmod (2 ^ 64) = exactLine p s preamble - 2 ^ 64 := by
      rw [Int.bmod_def]
      split <;> omega
    rw [hwrapped]
    omega

/-- **A line far behind the end is led to line zero.**  With this preamble the exact line is `2 ^ 63`, so
the nearest line of 32 bits is the last one; the sum overflows, and the line is zero. -/
theorem far_line_led_to_zero :
    exactLine ⟨1, 1⟩ ⟨1, 1⟩ (-9223372036854775806) = 2 ^ 63 ∧
      ¬SumsFit ⟨1, 1⟩ ⟨1, 1⟩ (-9223372036854775806) ∧
      Position.toSource ⟨1, 1⟩ ⟨1, 1⟩ (-9223372036854775806) = ⟨0, 1⟩ := by
  refine ⟨by decide, fun h => ?_, by decide⟩
  exact absurd h.line (by decide)

end SqlxDryRun
