import Mathlib.Algebra.Ring.Int.Defs
import Mathlib.Algebra.Ring.Nat
import SqlxDryRun.LineShift
import SqlxDryRun.Proofs.ConfigBlock

/-!
# Lines of the compiled query and lines of the source

The 64-bit sums behind a shifted line are exact as long as the exact result has 64 bits
(`toSource_of_bounds`).  Together with the span of a block this gives the main statement,
`toSource_below_block`: every line behind the block is led back to its own line of the source,
wherever the block lies and however long it is.

The shift counts one line more than the length of the span, for the line that closes a block.  A
document without a block has no such line, so each of its lines is led to the line below it
(`toSource_without_block`).
-/

namespace SqlxDryRun

open SqlxDryRun.Text SqlxDryRun.ConfigBlock

/-! ## The sums -/

/-- The nearest 32-bit line, as a minimum of natural numbers. -/
theorem clampLine_eq (line : Int64) :
    clampLine line = UInt32.ofNat (min line.toInt.toNat (UInt32.size - 1)) := by
  have hmax : (Int64.ofNat (UInt32.size - 1)).toInt = (UInt32.size - 1 : Nat) :=
    Int64.toInt_ofNat_of_lt (by decide)
  unfold clampLine
  by_cases hneg : line < 0
  · have h : line.toInt < 0 := Int64.lt_iff_toInt_lt.1 hneg
    rw [if_pos hneg, Int.toNat_of_nonpos (by omega), Nat.zero_min]
    rfl
  · rw [if_neg hneg]
    by_cases hbig : Int64.ofNat (UInt32.size - 1) < line
    · have h : ((UInt32.size - 1 : Nat) : Int) < line.toInt := by
        rw [← hmax]
        exact Int64.lt_iff_toInt_lt.1 hbig
      rw [if_pos hbig, Nat.min_eq_right (by omega)]
    · have h : line.toInt ≤ ((UInt32.size - 1 : Nat) : Int) := by
        rw [← hmax]
        exact Int.not_lt.1 fun hlt => hbig (Int64.lt_iff_toInt_lt.2 hlt)
      rw [if_neg hbig, Nat.min_eq_left (by omega), Int64.toNat_toInt]

/-- A 64-bit sum whose exact value has 64 bits. -/
theorem toInt_add_of_bounds {a b : Int64} (hlo : -2 ^ 63 ≤ a.toInt + b.toInt)
    (hhi : a.toInt + b.toInt < 2 ^ 63) : (a + b).toInt = a.toInt + b.toInt := by
  rw [Int64.toInt_add]
  exact Int.bmod_eq_of_le (by omega) (by omega)

/-- A 64-bit difference whose exact value has 64 bits. -/
theorem toInt_sub_of_bounds {a b : Int64} (hlo : -2 ^ 63 ≤ a.toInt - b.toInt)
    (hhi : a.toInt - b.toInt < 2 ^ 63) : (a - b).toInt = a.toInt - b.toInt := by
  rw [Int64.toInt_sub]
  exact Int.bmod_eq_of_le (by omega) (by omega)

theorem toInt_ofNat_toNat (n : UInt32) : (Int64.ofNat n.toNat).toInt = n.toNat :=
  Int64.toInt_ofNat_of_lt (by have := n.toNat_lt; omega)

/-- The shift is exact unless the preamble is next to the smallest 64-bit number. -/
theorem toInt_lineShift (s : Span) (preamble : Int64)
    (h : (s.length.toNat : Int) + 1 - preamble.toInt < 2 ^ 63) :
    (s.lineShift preamble).toInt = s.length.toNat + 1 - preamble.toInt := by
  have hlen := s.length.toNat_lt
  have hpre := preamble.toInt_lt
  have hone : (1 : Int64).toInt = 1 := rfl
  have hsucc : (Int64.ofNat s.length.toNat + 1).toInt = s.length.toNat + 1 := by
    rw [toInt_add_of_bounds] <;> rw [toInt_ofNat_toNat, hone] <;> omega
  rw [Span.lineShift, toInt_sub_of_bounds] <;> rw [hsucc] <;> omega

/-- **A shifted line.**  If the sums have 64 bits, then the line in the source is the exact sum, or
the nearest line that has 32 bits. -/
theorem toSource_of_bounds (p : Position) (s : Span) {preamble : Int64}
    (h : (p.line.toNat : Int) + (s.length.toNat + 1 - preamble.toInt) < 2 ^ 63) :
    p.toSource s preamble =
      ⟨UInt32.ofNat
        (min ((p.line.toNat : Int) + (s.length.toNat + 1 - preamble.toInt)).toNat
          (UInt32.size - 1)), p.column⟩ := by
  have hline := p.line.toNat_lt
  have hlen := s.length.toNat_lt
  have hpre := preamble.toInt_lt
  have hshift := toInt_lineShift s preamble (by omega)
  have hsum : (Int64.ofNat p.line.toNat + s.lineShift preamble).toInt =
      p.line.toNat + (s.length.toNat + 1 - preamble.toInt) := by
    rw [toInt_add_of_bounds] <;> rw [toInt_ofNat_toNat, hshift] <;> omega
  rw [Position.toSource, clampLine_eq, hsum]

/-! ## Lines behind the block -/

/-- The length of a span from its two lines. -/
theorem length_toNat {first last : Nat} (hle : first ≤ last) (hlt : last < 2 ^ 32) :
    (Span.mk (.ofNat first) (.ofNat last)).length.toNat = last - first := by
  have hf : (UInt32.ofNat first).toNat = first :=
    UInt32.toNat_ofNat_of_lt' (Nat.lt_of_le_of_lt hle hlt)
  have hl : (UInt32.ofNat last).toNat = last := UInt32.toNat_ofNat_of_lt' hlt
  have hord : UInt32.ofNat first ≤ UInt32.ofNat last := by
    rw [UInt32.le_iff_toNat_le, hf, hl]
    exact hle
  show (if UInt32.ofNat first ≤ UInt32.ofNat last then UInt32.ofNat last - UInt32.ofNat first
    else 0).toNat = last - first
  rw [if_pos hord, UInt32.toNat_sub_of_le _ _ hord, hf, hl]

/-- **Every line behind the block is led back to itself.**  The source has lines above the block,
the block, and lines below it; the compiled query has a preamble and then the source without the
block.  Lines are counted from `base` on both sides. -/
theorem toSource_below_block {text : String} {preamble above block below : List String}
    (hlines : HasLines text (above ++ block ++ below))
    (habove : ∀ l ∈ above, hasToken l.toList = false)
    (hfirst : block.head?.any (fun l => hasToken l.toList) = true)
    (hclose : closingLine? 0 1 (block.map String.toList) = some block.length)
    {base k : Nat} (hk : k < below.length) (column : UInt32)
    (hquery : base + ((preamble ++ above).length + k) < 2 ^ 32)
    (hsource : base + ((above ++ block).length + k) < 2 ^ 32) :
    (preamble ++ (above ++ below))[(preamble ++ above).length + k]? = some below[k] ∧
      (above ++ block ++ below)[(above ++ block).length + k]? = some below[k] ∧
      Position.toSource ⟨.ofNat (base + ((preamble ++ above).length + k)), column⟩
          (locate (lines text)) (.ofNat preamble.length) =
        ⟨.ofNat (base + ((above ++ block).length + k)), column⟩ := by
  refine ⟨?_, ?_, ?_⟩
  · rw [← List.append_assoc, List.getElem?_append_right (by omega), Nat.add_sub_cancel_left,
      List.getElem?_eq_getElem hk]
  · rw [List.getElem?_append_right (by omega), Nat.add_sub_cancel_left,
      List.getElem?_eq_getElem hk]
  · rw [List.length_append] at hquery hsource ⊢
    rw [List.length_append]
    have hpos : 0 < block.length := by
      cases block with
      | nil => exact absurd hfirst (by simp)
      | cons l ls => exact Nat.succ_pos _
    have hspan : locate (lines text) =
        ⟨.ofNat (above.length + 1), .ofNat (above.length + block.length)⟩ := by
      have h := locateFrom_block (above.map String.toList) (block.map String.toList)
        (below.map String.toList)
        (by simpa using habove) (by simpa [List.head?_map, Option.any_map] using hfirst)
        (by simpa using hclose)
      rw [locate_lines hlines, List.map_append, List.map_append, h, List.length_map,
        List.length_map]
    have hlen : (locate (lines text)).length.toNat = block.length - 1 := by
      rw [hspan, length_toNat (by omega) (by omega)]
      omega
    have hpre : (Int64.ofNat preamble.length).toInt = preamble.length :=
      Int64.toInt_ofNat_of_lt (by omega)
    have hline : (UInt32.ofNat (base + (preamble.length + above.length + k))).toNat =
        base + (preamble.length + above.length + k) := UInt32.toNat_ofNat_of_lt' hquery
    have hexact : ((base + (preamble.length + above.length + k) : Nat) : Int) +
        ((block.length - 1 : Nat) + 1 - preamble.length) =
        (base + (above.length + block.length + k) : Nat) := by omega
    rw [toSource_of_bounds] <;> simp only [hline, hlen, hpre, hexact]
    · have hmin : base + (above.length + block.length + k) ≤ UInt32.size - 1 :=
        Nat.le_sub_one_of_lt hsource
      rw [Int.toNat_natCast, Nat.min_eq_left hmin]
    · omega

/-- A block of three lines below a comment, in a document with carriage returns: behind a preamble of
one line, line five of the query is line seven of the source. -/
theorem toSource_below_block_comment :
    HasLines "-- orders\r\nconfig \x7b\r\n  tags: []\r\n\x7d\r\n\r\nselect 1\r\nfrom t"
        (["-- orders"] ++ ["config \x7b", "  tags: []", "\x7d"] ++ ["", "select 1", "from t"]) ∧
      Position.toSource ⟨5, 10⟩
          (locate (lines
            "-- orders\r\nconfig \x7b\r\n  tags: []\r\n\x7d\r\n\r\nselect 1\r\nfrom t")) 1 =
        ⟨7, 10⟩ := by
  have hlines : HasLines
      "-- orders\r\nconfig \x7b\r\n  tags: []\r\n\x7d\r\n\r\nselect 1\r\nfrom t"
      (["-- orders"] ++ ["config \x7b", "  tags: []", "\x7d"] ++ ["", "select 1", "from t"]) :=
    .joined .crlf (by decide) (by decide)
  refine ⟨hlines, ?_⟩
  have h := @toSource_below_block _ ["create view"] _ _ _ hlines (by decide) (by decide) (by decide) 1 2
    (by decide) 10 (by decide) (by decide)
  exact h.2.2

/-! ## Lines behind a preamble -/

/-- A line of the query that lies `n` lines behind the preamble is led to the line that lies behind
as many lines and the span, whose last line is not part of its length. -/
theorem toSource_add_preamble {s : Span} {preamble n : Nat} (column : UInt32)
    (hquery : preamble + n < 2 ^ 32) (hsource : n + s.length.toNat + 1 < 2 ^ 32) :
    Position.toSource ⟨.ofNat (preamble + n), column⟩ s (.ofNat preamble) =
      ⟨.ofNat (n + s.length.toNat + 1), column⟩ := by
  have hpre : (Int64.ofNat preamble).toInt = preamble := Int64.toInt_ofNat_of_lt (by omega)
  have hline : (UInt32.ofNat (preamble + n)).toNat = preamble + n :=
    UInt32.toNat_ofNat_of_lt' hquery
  have hexact : ((preamble + n : Nat) : Int) + (s.length.toNat + 1 - preamble) =
      (n + s.length.toNat + 1 : Nat) := by omega
  have hmin : n + s.length.toNat + 1 ≤ UInt32.size - 1 := Nat.le_sub_one_of_lt hsource
  rw [toSource_of_bounds] <;> simp only [hline, hpre, hexact]
  · rw [Int.toNat_natCast, Nat.min_eq_left hmin]
  · omega

/-- The length of the span of a closed block falls one short of its lines. -/
theorem length_locate_block {text : String} {above block below : List String}
    (hlines : HasLines text (above ++ block ++ below))
    (habove : ∀ l ∈ above, hasToken l.toList = false)
    (hfirst : block.head?.any (fun l => hasToken l.toList) = true)
    (hclose : closingLine? 0 1 (block.map String.toList) = some block.length)
    (hlast : above.length + block.length < 2 ^ 32) :
    (locate (lines text)).length.toNat + 1 = block.length := by
  have hpos : 0 < block.length := by
    cases block with
    | nil => exact absurd hfirst (by simp)
    | cons l ls => exact Nat.succ_pos _
  have hspan := locateFrom_block (above.map String.toList) (block.map String.toList)
    (below.map String.toList) (by simpa using habove)
    (by simpa [List.head?_map, Option.any_map] using hfirst) (by simpa using hclose)
  rw [locate_lines hlines, List.map_append, List.map_append, hspan, List.length_map,
    List.length_map, length_toNat (by omega) hlast]
  omega

/-! ## Without a block -/

theorem locate_of_no_token {text : String} {ls : List String} (hlines : HasLines text ls)
    (hnone : ∀ l ∈ ls, hasToken l.toList = false) : locate (lines text) = .notFound := by
  have h := @locateFrom_append (ls.map String.toList) (by simpa using hnone) 1 []
  rw [locate_lines hlines, ← List.append_nil (ls.map String.toList), h]
  rfl

/-- **Without a block every line is led to the line below it.**  The compiled query has a preamble
and then the whole source.  Lines are counted from `base` on both sides. -/
theorem toSource_without_block {text : String} {preamble ls : List String}
    (hlines : HasLines text ls) (hnone : ∀ l ∈ ls, hasToken l.toList = false)
    {base i : Nat} (hi : i < ls.length) (column : UInt32)
    (hquery : base + (preamble.length + i) < 2 ^ 32) (hsource : base + i + 1 < 2 ^ 32) :
    (preamble ++ ls)[preamble.length + i]? = some ls[i] ∧
      Position.toSource ⟨.ofNat (base + (preamble.length + i)), column⟩ (locate (lines text))
          (.ofNat preamble.length) = ⟨.ofNat (base + i + 1), column⟩ := by
  refine ⟨?_, ?_⟩
  · rw [List.getElem?_append_right (by omega), Nat.add_sub_cancel_left,
      List.getElem?_eq_getElem hi]
  · have hempty : Span.notFound.length.toNat = 0 := rfl
    have hshift := toSource_add_preamble (s := .notFound) column
      (show preamble.length + (base + i) < 2 ^ 32 by omega) (by rw [hempty]; omega)
    rw [hempty, Nat.add_zero] at hshift
    rw [locate_of_no_token hlines hnone, show base + (preamble.length + i) =
      preamble.length + (base + i) by omega, hshift]

/-- Behind a preamble of three lines, line six of the query is line three of this source. -/
theorem toSource_without_block_select :
    HasLines "select a,\n  b,\n  x\nfrom t" ["select a,", "  b,", "  x", "from t"] ∧
      Position.toSource ⟨6, 3⟩ (locate (lines "select a,\n  b,\n  x\nfrom t")) 3 = ⟨4, 3⟩ := by
  have hlines : HasLines "select a,\n  b,\n  x\nfrom t" ["select a,", "  b,", "  x", "from t"] :=
    .joined .lf (by decide) (by decide)
  refine ⟨hlines, ?_⟩
  have h := @toSource_without_block _ ["-- 1", "-- 2", "-- 3"] _ hlines (by decide) 1 2
    (by decide) 3 (by decide) (by decide)
  exact h.2

/-- **A line that is not led back to itself.**  No line of this source holds the token, and behind a
preamble of three lines its third line is line six of the query; line six is not led to line three.
-/
theorem third_line_not_led_back :
    lines "select a,\n  b,\n  x\nfrom t\n" = ["select a,", "  b,", "  x", "from t"] ∧
      (∀ l ∈ ["select a,", "  b,", "  x", "from t"], hasToken l.toList = false) ∧
      (["-- 1", "-- 2", "-- 3"] ++ ["select a,", "  b,", "  x", "from t"])[6 - 1]? = some "  x" ∧
      ["select a,", "  b,", "  x", "from t"][3 - 1]? = some "  x" ∧
      Position.toSource ⟨6, 3⟩ (locate (lines "select a,\n  b,\n  x\nfrom t\n")) 3 ≠ ⟨3, 3⟩ := by
  decide

end SqlxDryRun
