import SqlxDryRun.ConfigBlock
import SqlxDryRun.Proofs.Text.Lines

/-!
# Where the configuration block lies

The block is found line by line.  Lines without the token are passed over (`locateFrom_append`), and
lines behind the closing brace are not looked at (`closingLine?_append`), so the span of a block is
read off the lines above it and its own lines alone (`locateFrom_block`).  Line ends do not matter
either: `locate_lines` says that a document has the span of its lines, whichever line end joins them.
-/

namespace SqlxDryRun.ConfigBlock

open SqlxDryRun.Text

/-! ## Scanning a line -/

/-- One character of a scan. -/
theorem scanLine_cons (depth : UInt32) (c : Char) (rest : List Char) :
    scanLine depth (c :: rest) =
      if c = '{' then scanLine (depth + 1) rest
      else if c = '}' then (if depth ≤ 1 then none else scanLine (depth - 1) rest)
      else scanLine depth rest := by
  by_cases ho : c = '{'
  · rw [if_pos ho, ho, scanLine]
  · by_cases hc : c = '}'
    · rw [if_neg ho, if_pos hc, hc, scanLine]
    · rw [if_neg ho, if_neg hc, scanLine]
      · exact ho
      · exact hc

/-- The scan of a line goes on where the scan of its beginning stopped. -/
theorem scanLine_append (depth : UInt32) (a b : List Char) :
    scanLine depth (a ++ b) = (scanLine depth a).bind fun deeper => scanLine deeper b := by
  induction a generalizing depth with
  | nil => rfl
  | cons c cs ih =>
      rw [List.cons_append, scanLine_cons, scanLine_cons]
      by_cases ho : c = '{'
      · rw [if_pos ho, if_pos ho, ih]
      · rw [if_neg ho, if_neg ho]
        by_cases hc : c = '}'
        · rw [if_pos hc, if_pos hc]
          by_cases hd : depth ≤ 1
          · rw [if_pos hd, if_pos hd, Option.bind_none]
          · rw [if_neg hd, if_neg hd, ih]
        · rw [if_neg hc, if_neg hc, ih]

/-! ## The closing line -/

/-- Lines behind the closing line have no influence. -/
theorem closingLine?_append {depth : UInt32} {number n : Nat} {block : List (List Char)}
    (h : closingLine? depth number block = some n) (below : List (List Char)) :
    closingLine? depth number (block ++ below) = some n := by
  induction block generalizing depth number with
  | nil => rw [closingLine?] at h; exact absurd h (by simp)
  | cons line rest ih =>
      rw [closingLine?] at h
      rw [List.cons_append, closingLine?]
      cases hs : scanLine depth line with
      | none => rw [hs] at h; exact h
      | some deeper => rw [hs] at h; exact ih h

/-- The closing line is counted from the first line. -/
theorem closingLine?_add (depth : UInt32) (number offset : Nat) (ls : List (List Char)) :
    closingLine? depth (number + offset) ls =
      (closingLine? depth number ls).map (· + offset) := by
  induction ls generalizing depth number with
  | nil => rfl
  | cons line rest ih =>
      rw [closingLine?, closingLine?]
      cases scanLine depth line with
      | none => rfl
      | some deeper =>
          show closingLine? deeper (number + offset + 1) rest = _
          rw [show number + offset + 1 = number + 1 + offset from by omega, ih]

/-! ## The span -/

/-- Lines without the token are passed over. -/
theorem locateFrom_append {above : List (List Char)} (h : ∀ l ∈ above, hasToken l = false)
    (number : Nat) (ls : List (List Char)) :
    locateFrom number (above ++ ls) = locateFrom (number + above.length) ls := by
  induction above generalizing number with
  | nil => rfl
  | cons line rest ih =>
      have hline : hasToken line = false := h line (List.mem_cons_self ..)
      rw [List.cons_append, locateFrom, hline, if_neg Bool.false_ne_true,
        ih (fun l hl => h l (List.mem_cons_of_mem _ hl)), List.length_cons]
      congr 1
      omega

/-- **The span of a block.**  It starts behind the lines above the block, and covers as many lines
as the block has. -/
theorem locateFrom_block (above block below : List (List Char))
    (habove : ∀ l ∈ above, hasToken l = false)
    (hfirst : block.head?.any hasToken = true)
    (hclose : closingLine? 0 1 block = some block.length) :
    locateFrom 1 (above ++ block ++ below) =
      ⟨.ofNat (above.length + 1), .ofNat (above.length + block.length)⟩ := by
  cases block with
  | nil => exact absurd hfirst (by simp)
  | cons first rest =>
      have htoken : hasToken first = true := by simpa using hfirst
      have hend : closingLine? 0 (1 + above.length) (first :: (rest ++ below)) =
          some (above.length + (first :: rest).length) := by
        rw [closingLine?_add, ← List.cons_append, closingLine?_append hclose, Option.map_some,
          Nat.add_comm]
      rw [List.append_assoc, locateFrom_append habove, List.cons_append, locateFrom, if_pos htoken,
        hend, Option.getD_some, Nat.add_comm 1]

/-! ## Line ends -/

/-- A prefix without carriage returns does not reach into a carriage return at the end. -/
theorem afterPrefix?_append_return {pattern : List Char} (h : '\r' ∉ pattern) (text : List Char) :
    afterPrefix? pattern (text ++ ['\r']) = (afterPrefix? pattern text).map (· ++ ['\r']) := by
  induction pattern generalizing text with
  | nil => rfl
  | cons p ps ih =>
      rw [List.mem_cons, not_or] at h
      cases text with
      | nil =>
          rw [List.nil_append, afterPrefix?, afterPrefix?, if_neg (Ne.symm h.1), Option.map_none]
      | cons c cs =>
          rw [List.cons_append, afterPrefix?, afterPrefix?]
          by_cases hpc : p = c
          · rw [if_pos hpc, if_pos hpc, ih h.2]
          · rw [if_neg hpc, if_neg hpc, Option.map_none]

theorem startsWithToken_append_return (text : List Char) :
    startsWithToken (text ++ ['\r']) = startsWithToken text := by
  rw [startsWithToken, startsWithToken, afterPrefix?_append_return (by decide)]
  cases afterPrefix? token text with
  | none => rfl
  | some rest =>
      cases rest with
      | nil => rfl
      | cons c cs => rfl

theorem hasTokenAfter_append_return (before : Option Char) (line : List Char) :
    hasTokenAfter before (line ++ ['\r']) = hasTokenAfter before line := by
  induction line generalizing before with
  | nil =>
      rw [List.nil_append, hasTokenAfter, hasTokenAfter, hasTokenAfter,
        show startsWithToken ['\r'] = false from by decide, Bool.and_false, Bool.or_false]
  | cons c cs ih =>
      rw [List.cons_append, hasTokenAfter, hasTokenAfter, ih, ← List.cons_append,
        startsWithToken_append_return]

theorem scanLine_append_return (depth : UInt32) (line : List Char) :
    scanLine depth (line ++ ['\r']) = scanLine depth line := by
  rw [scanLine_append]
  cases scanLine depth line with
  | none => rfl
  | some deeper => rfl

theorem readBefore_cases (e : LineEnd) (line : List Char) :
    line = readBefore e line ∨ line = readBefore e line ++ ['\r'] := by
  cases e with
  | crlf => exact Or.inl rfl
  | lf =>
      rw [readBefore]
      induction line with
      | nil => exact Or.inl rfl
      | cons c cs ih =>
          rw [dropReturn]
          by_cases hlast : c = '\r' ∧ cs = []
          · rw [if_pos hlast, hlast.1, hlast.2]
            exact Or.inr rfl
          · rw [if_neg hlast, List.cons_append]
            rcases ih with h | h
            · exact Or.inl (congrArg (c :: ·) h)
            · exact Or.inr (congrArg (c :: ·) h)

theorem hasToken_readBefore (e : LineEnd) (line : List Char) :
    hasToken (readBefore e line) = hasToken line := by
  rcases readBefore_cases e line with h | h
  · rw [← h]
  · rw [hasToken, ← hasTokenAfter_append_return, ← h, hasToken]

theorem scanLine_readBefore (e : LineEnd) (depth : UInt32) (line : List Char) :
    scanLine depth (readBefore e line) = scanLine depth line := by
  rcases readBefore_cases e line with h | h
  · rw [← h]
  · rw [← scanLine_append_return, ← h]

theorem closingLine?_readBack (e : LineEnd) (depth : UInt32) (number : Nat)
    (ls : List (List Char)) :
    closingLine? depth number (readBack e ls) = closingLine? depth number ls := by
  induction ls generalizing depth number with
  | nil => rfl
  | cons line rest ih =>
      cases rest with
      | nil =>
          rw [readBack]
          by_cases h : line = []
          · rw [if_pos h, h]; rfl
          · rw [if_neg h]
      | cons next rest =>
          rw [readBack, closingLine?, closingLine?, scanLine_readBefore]
          cases scanLine depth line with
          | none => rfl
          | some deeper => exact ih deeper (number + 1)

theorem locateFrom_readBack (e : LineEnd) (number : Nat) (ls : List (List Char)) :
    locateFrom number (readBack e ls) = locateFrom number ls := by
  induction ls generalizing number with
  | nil => rfl
  | cons line rest ih =>
      cases rest with
      | nil =>
          rw [readBack]
          by_cases h : line = []
          · rw [if_pos h, h]; rfl
          · rw [if_neg h]
      | cons next rest =>
          have hclose : closingLine? 0 number (readBefore e line :: readBack e (next :: rest)) =
              closingLine? 0 number (line :: next :: rest) := by
            rw [← readBack, closingLine?_readBack]
          rw [readBack, locateFrom, locateFrom, hasToken_readBefore, hclose, ih]

/-- **Line ends do not matter.**  The block of a document lies where it lies in its lines. -/
theorem locate_lines {text : String} {ls : List String} (h : HasLines text ls) :
    locate (lines text) = locateFrom 1 (ls.map String.toList) := by
  cases h with
  | read h => rw [h, locate]
  | joined e hlf h =>
      have hnl : ∀ l ∈ ls.map String.toList, '\n' ∉ l := by
        intro l hl
        obtain ⟨s, hs, rfl⟩ := List.mem_map.1 hl
        exact hlf s hs
      have hid : ∀ css : List (List Char), (css.map String.ofList).map String.toList = css := by
        intro css
        simp [Function.comp_def]
      rw [locate, lines, hid, h, String.toList_intercalate, splitLines_intercalate e hnl,
        locateFrom_readBack]

end SqlxDryRun.ConfigBlock
