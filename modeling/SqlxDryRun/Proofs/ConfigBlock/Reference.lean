import Mathlib.Algebra.Ring.Nat
import Mathlib.Data.List.Infix
import SqlxDryRun.Proofs.ConfigBlock
import SqlxDryRun.Proofs.ConfigBlock.Token

/-!
# The span of a block, read off the text

The scan goes line by line and keeps a depth of 32 bits.  What it finds can be said without lines
and without a depth: read the characters from the beginning of the starting line on, across the line
ends, up to the first closing brace at which there are at least as many closing as opening braces.
The block ends on the line of that brace.

* `reference` is this definition of the span.
* `scanLine_closer` follows one line of the scan, and `closingLine?_eq` all of them.
* `locate_eq_reference` says that the scan finds the span of the reference, as long as lines and
  braces can be counted with 32 bits.
-/

namespace SqlxDryRun.ConfigBlock

/-! ## The reference -/

/-- A text that is entered with `depth` braces open ends in a brace that closes the block: up to
this brace at least as many close as open. -/
def ClosesBlock (depth : Nat) (text : List Char) : Prop :=
  text.getLast? = some '}' ∧ depth + text.count '{' ≤ text.count '}'

instance (depth : Nat) (text : List Char) : Decidable (ClosesBlock depth text) :=
  inferInstanceAs (Decidable (_ ∧ _))

/-- The characters of lines in order, each with the number of its line. -/
def numbered (number : Nat) (lines : List (List Char)) : List (Nat × Char) :=
  (lines.zipIdx number).flatMap fun (line, n) => line.map fun c => (n, c)

/-- The line of the brace that closes the block: the shortest beginning of the text that closes it
ends in this brace. -/
def closer? (depth : Nat) (text : List (Nat × Char)) : Option Nat :=
  ((text.inits.find? fun part => ClosesBlock depth (part.map Prod.snd)).bind List.getLast?).map
    Prod.fst

/-- The span of the block in lines.  It starts on the first line that holds the token as a word of
its own, and ends on the line of the brace that closes it. -/
def reference (lines : List String) : Span :=
  match lines.findIdx? fun line => HoldsToken line.toList with
  | none => .notFound
  | some i =>
    ⟨.ofNat (i + 1),
      .ofNat ((closer? 0 (numbered (i + 1) ((lines.drop i).map String.toList))).getD 0)⟩

/-! ## Character by character -/

/-- Nothing closes a block in front of the first character. -/
theorem not_closesBlock_nil (depth : Nat) : ¬ClosesBlock depth [] := by
  rintro ⟨hlast, -⟩
  cases hlast

theorem closer?_nil (depth : Nat) : closer? depth [] = none := by
  simp [closer?, not_closesBlock_nil]

/-- A character in front of a text changes the depth at which the text is entered, unless it closes
the block by itself. -/
theorem closesBlock_cons {depth depth' : Nat} {c : Char}
    (hshift : depth + [c].count '{' = depth' + [c].count '}') (hopen : ¬ClosesBlock depth [c])
    (text : List Char) : ClosesBlock depth (c :: text) ↔ ClosesBlock depth' text := by
  cases text with
  | nil => exact iff_of_false hopen (not_closesBlock_nil depth')
  | cons d rest =>
      have hcount (b : Char) : (c :: d :: rest).count b = [c].count b + (d :: rest).count b := by
        rw [← List.count_append, List.singleton_append]
      rw [ClosesBlock, ClosesBlock, List.getLast?_cons_cons, hcount, hcount]
      exact and_congr_right fun _ => by omega

/-- A character that closes nothing is passed over. -/
theorem closer?_pass {depth depth' : Nat} {c : Char}
    (hshift : depth + [c].count '{' = depth' + [c].count '}') (hopen : ¬ClosesBlock depth [c])
    (n : Nat) (rest : List (Nat × Char)) :
    closer? depth ((n, c) :: rest) = closer? depth' rest := by
  have hfind : rest.inits.find? (fun part => decide (ClosesBlock depth (c :: part.map Prod.snd))) =
      rest.inits.find? (fun part => decide (ClosesBlock depth' (part.map Prod.snd))) := by
    congr 1
    funext part
    exact decide_eq_decide.2 (closesBlock_cons hshift hopen _)
  have hnil : decide (ClosesBlock depth []) = false := decide_eq_false (not_closesBlock_nil depth)
  rw [closer?, closer?, List.inits_cons, List.find?_cons, List.map_nil, hnil, List.find?_map]
  simp only [Function.comp_def, List.map_cons, hfind]
  cases hpart : rest.inits.find? fun part => decide (ClosesBlock depth' (part.map Prod.snd)) with
  | none => rfl
  | some part =>
      have hcloses := List.find?_some hpart
      cases part with
      | nil => exact absurd (of_decide_eq_true hcloses) (not_closesBlock_nil depth')
      | cons d part => rfl

/-- A character that closes the block ends it on its own line. -/
theorem closer?_close {depth : Nat} {c : Char} (hclose : ClosesBlock depth [c]) (n : Nat)
    (rest : List (Nat × Char)) : closer? depth ((n, c) :: rest) = some n := by
  have hnil : decide (ClosesBlock depth []) = false := decide_eq_false (not_closesBlock_nil depth)
  have hone : decide (ClosesBlock depth [c]) = true := decide_eq_true hclose
  have hinits : ∃ more, rest.inits = [] :: more := by
    cases rest with
    | nil => exact ⟨[], rfl⟩
    | cons d rest => exact ⟨_, List.inits_cons ..⟩
  obtain ⟨more, hmore⟩ := hinits
  rw [closer?, List.inits_cons, hmore, List.map_cons, List.find?_cons, List.map_nil, hnil,
    List.find?_cons, List.map_singleton, hone]
  rfl

/-- The first character closes the block, or changes the depth at which the rest is entered. -/
theorem closer?_cons (depth n : Nat) (c : Char) (rest : List (Nat × Char)) :
    closer? depth ((n, c) :: rest) =
      if c = '{' then closer? (depth + 1) rest
      else if c = '}' then (if depth ≤ 1 then some n else closer? (depth - 1) rest)
      else closer? depth rest := by
  by_cases ho : c = '{'
  · subst ho
    rw [if_pos rfl]
    exact closer?_pass (by simp) (by simp [ClosesBlock]) n rest
  · rw [if_neg ho]
    by_cases hc : c = '}'
    · subst hc
      rw [if_pos rfl]
      by_cases hd : depth ≤ 1
      · rw [if_pos hd]
        exact closer?_close (by simp [ClosesBlock]; omega) n rest
      · rw [if_neg hd]
        exact closer?_pass (by simp; omega) (by simp [ClosesBlock]; omega) n rest
    · rw [if_neg hc]
      exact closer?_pass (by simp [ho, hc]) (by simp [ClosesBlock, hc]) n rest

/-! ## Line by line -/

theorem numbered_cons (number : Nat) (line : List Char) (rest : List (List Char)) :
    numbered number (line :: rest) =
      (line.map fun c => (number, c)) ++ numbered (number + 1) rest := by
  rw [numbered, List.zipIdx_cons, List.flatMap_cons, numbered]

/-- One line of the scan.  As long as the depth can be counted, the block closes on the line or the
rest of the text is entered at the depth behind the line. -/
theorem scanLine_closer (n : Nat) (rest : List (Nat × Char)) {depth : UInt32} {line : List Char}
    (hdepth : depth.toNat + line.count '{' < 2 ^ 32) :
    (scanLine depth line = none →
      closer? depth.toNat ((line.map fun c => (n, c)) ++ rest) = some n) ∧
    ∀ deeper, scanLine depth line = some deeper →
      deeper.toNat ≤ depth.toNat + line.count '{' ∧
        closer? depth.toNat ((line.map fun c => (n, c)) ++ rest) = closer? deeper.toNat rest := by
  induction line generalizing depth with
  | nil =>
      constructor
      · intro h
        cases h
      · intro deeper h
        obtain rfl := Option.some.inj h
        exact ⟨Nat.le_add_right .., rfl⟩
  | cons c cs ih =>
      rw [scanLine_cons, List.map_cons, List.cons_append, closer?_cons]
      by_cases ho : c = '{'
      · subst ho
        rw [List.count_cons_self] at hdepth ⊢
        have hnext : (depth + 1).toNat = depth.toNat + 1 := by
          rw [UInt32.toNat_add, UInt32.toNat_one]
          exact Nat.mod_eq_of_lt (by omega)
        have hih := @ih (depth + 1) (by rw [hnext]; omega)
        rw [if_pos rfl, if_pos rfl, ← hnext]
        refine ⟨hih.1, fun deeper h => ?_⟩
        obtain ⟨hle, heq⟩ := hih.2 deeper h
        exact ⟨by rw [hnext] at hle; omega, heq⟩
      · rw [List.count_cons_of_ne ho] at hdepth ⊢
        rw [if_neg ho, if_neg ho]
        by_cases hc : c = '}'
        · have hone : depth ≤ 1 ↔ depth.toNat ≤ 1 := UInt32.le_iff_toNat_le
          rw [if_pos hc, if_pos hc]
          by_cases hd : depth.toNat ≤ 1
          · rw [if_pos (hone.2 hd), if_pos hd]
            constructor
            · intro _
              rfl
            · intro deeper h
              cases h
          · have hle : (1 : UInt32) ≤ depth :=
              UInt32.le_iff_toNat_le.2 (by rw [UInt32.toNat_one]; omega)
            have hnext : (depth - 1).toNat = depth.toNat - 1 := UInt32.toNat_sub_of_le _ _ hle
            have hih := @ih (depth - 1) (by rw [hnext]; omega)
            rw [if_neg (fun h => hd (hone.1 h)), if_neg hd, ← hnext]
            refine ⟨hih.1, fun deeper h => ?_⟩
            obtain ⟨hle, heq⟩ := hih.2 deeper h
            exact ⟨by rw [hnext] at hle; omega, heq⟩
        · rw [if_neg hc, if_neg hc]
          exact ih hdepth

/-- **The closing line of the scan** is the line of the brace that closes the block. -/
theorem closingLine?_eq {depth : UInt32} {ls : List (List Char)}
    (hdepth : depth.toNat + ls.flatten.count '{' < 2 ^ 32) (number : Nat) :
    closingLine? depth number ls = closer? depth.toNat (numbered number ls) := by
  induction ls generalizing depth number with
  | nil => rw [closingLine?, numbered, List.zipIdx_nil, List.flatMap_nil, closer?_nil]
  | cons line rest ih =>
      rw [List.flatten_cons, List.count_append] at hdepth
      obtain ⟨hclosed, hopen⟩ := scanLine_closer number (numbered (number + 1) rest)
        (show depth.toNat + line.count '{' < 2 ^ 32 by omega)
      rw [numbered_cons, closingLine?]
      cases hscan : scanLine depth line with
      | none => exact (hclosed hscan).symm
      | some deeper =>
          obtain ⟨hle, heq⟩ := hopen deeper hscan
          rw [heq]
          exact ih (by omega) (number + 1)

/-! ## The whole scan -/

/-- The scan for the starting line. -/
theorem locateFrom_eq (number : Nat) (ls : List (List Char)) :
    locateFrom number ls =
      match ls.findIdx? hasToken with
      | none => .notFound
      | some i =>
        ⟨.ofNat (number + i), .ofNat ((closingLine? 0 (number + i) (ls.drop i)).getD 0)⟩ := by
  induction ls generalizing number with
  | nil => rfl
  | cons line rest ih =>
      rw [locateFrom, List.findIdx?_cons]
      by_cases htoken : hasToken line = true
      · rw [if_pos htoken, if_pos htoken]
        rfl
      · rw [if_neg htoken, if_neg htoken, ih]
        cases hfirst : rest.findIdx? hasToken with
        | none => rfl
        | some i =>
            have hnumber : number + 1 + i = number + (i + 1) := by omega
            simp only [Option.map_some, List.drop_succ_cons, hnumber]

/-- The closing line is one of the lines, and it is found without those behind it. -/
theorem closingLine?_bounds {depth : UInt32} {number n : Nat} {ls : List (List Char)}
    (h : closingLine? depth number ls = some n) :
    number ≤ n ∧ n < number + ls.length ∧
      closingLine? depth number (ls.take (n + 1 - number)) = some n := by
  induction ls generalizing depth number with
  | nil => cases h
  | cons line rest ih =>
      rw [closingLine?] at h
      rw [List.length_cons]
      cases hscan : scanLine depth line with
      | none =>
          rw [hscan] at h
          obtain rfl := Option.some.inj h
          refine ⟨Nat.le_refl number, by omega, ?_⟩
          rw [Nat.add_sub_cancel_left, List.take_succ_cons, closingLine?, hscan]
      | some deeper =>
          rw [hscan] at h
          obtain ⟨hlow, hhigh, htake⟩ := ih h
          refine ⟨by omega, by omega, ?_⟩
          have hcut : n + 1 - number = n + 1 - (number + 1) + 1 := by omega
          rw [hcut, List.take_succ_cons, closingLine?, hscan]
          exact htake

/-- Lines behind the closing line have no influence on the span. -/
theorem locateFrom_take_append {i n : Nat} {ls : List (List Char)}
    (hfirst : ls.findIdx? hasToken = some i) (hclose : closingLine? 0 (1 + i) (ls.drop i) = some n)
    (below : List (List Char)) : locateFrom 1 (ls.take n ++ below) = locateFrom 1 ls := by
  obtain ⟨hlow, hhigh, htake⟩ := closingLine?_bounds hclose
  rw [List.length_drop] at hhigh
  have hstart : (ls.take n ++ below).findIdx? hasToken = some i := by
    have hkept : Option.guard (fun j => decide (j < n)) i = some i :=
      Option.guard_eq_some_iff.2 ⟨rfl, decide_eq_true (show i < n by omega)⟩
    rw [List.findIdx?_append, List.findIdx?_take, hfirst, Option.bind_some, hkept, Option.some_or]
  have hblock : (ls.take n ++ below).drop i = (ls.drop i).take (n + 1 - (1 + i)) ++ below := by
    rw [List.drop_append_of_le_length (by rw [List.length_take]; omega), List.drop_take]
    congr 2
    omega
  rw [locateFrom_eq, locateFrom_eq, hstart, hfirst]
  simp only [hclose, hblock, closingLine?_append htake]

theorem findIdx?_hasToken (lines : List String) :
    (lines.map String.toList).findIdx? hasToken =
      lines.findIdx? fun line => HoldsToken line.toList := by
  rw [List.findIdx?_map]
  congr 1
  funext line
  exact hasToken_eq_decide line.toList

/-- The scan finds the span of the reference if lines and braces can be counted. -/
theorem locate_eq {lines : List String}
    (hbraces : (lines.flatMap String.toList).count '{' < 2 ^ 32) :
    locate lines = reference lines := by
  rw [locate, locateFrom_eq, findIdx?_hasToken, reference]
  cases lines.findIdx? fun line => HoldsToken line.toList with
  | none => rfl
  | some i =>
      have hbelow : (0 : UInt32).toNat +
          ((lines.map String.toList).drop i).flatten.count '{' < 2 ^ 32 := by
        rw [List.flatMap_def, ← List.take_append_drop i (lines.map String.toList),
          List.flatten_append, List.count_append] at hbraces
        rw [UInt32.toNat_zero]
        omega
      simp only [closingLine?_eq hbelow, List.map_drop, Nat.add_comm 1 i, UInt32.toNat_zero]

/-- **The scan finds the span of its definition.**  On all lines that can be counted with 32 bits,
and whose opening braces can, the scan gives the span of the reference.  So there is no block, or a
block that starts on one of the lines and is never closed, or a block whose last line is one of the
lines and does not stand above its first one; and whatever stands below the last line of a block,
the span is the same. -/
theorem locate_eq_reference (lines : List String) (hlines : lines.length < 2 ^ 32)
    (hbraces : (lines.flatMap String.toList).count '{' < 2 ^ 32) :
    locate lines = reference lines ∧
      (locate lines = .notFound ∨
        (1 ≤ (locate lines).startLine.toNat ∧ (locate lines).startLine.toNat ≤ lines.length ∧
          (locate lines).endLine = 0) ∨
        (1 ≤ (locate lines).startLine.toNat ∧
          (locate lines).startLine.toNat ≤ (locate lines).endLine.toNat ∧
          (locate lines).endLine.toNat ≤ lines.length ∧
          ∀ below, locate (lines.take (locate lines).endLine.toNat ++ below) = locate lines)) := by
  refine ⟨locate_eq hbraces, ?_⟩
  have hlocate : locate lines = _ := locateFrom_eq 1 (lines.map String.toList)
  cases hfirst : (lines.map String.toList).findIdx? hasToken with
  | none =>
      simp only [hfirst] at hlocate
      exact Or.inl hlocate
  | some i =>
      have hlt : i < lines.length := by
        simpa using (List.findIdx?_eq_some_iff_getElem.1 hfirst).1
      have hstart : (UInt32.ofNat (1 + i)).toNat = 1 + i :=
        UInt32.toNat_ofNat_of_lt' (show _ < 2 ^ 32 by omega)
      simp only [hfirst] at hlocate
      cases hclose : closingLine? 0 (1 + i) ((lines.map String.toList).drop i) with
      | none =>
          rw [hclose] at hlocate
          refine Or.inr (Or.inl ?_)
          rw [hlocate, hstart]
          exact ⟨by omega, by omega, rfl⟩
      | some e =>
          obtain ⟨hlow, hhigh, -⟩ := closingLine?_bounds hclose
          rw [List.length_drop, List.length_map] at hhigh
          have hend : (UInt32.ofNat e).toNat = e :=
            UInt32.toNat_ofNat_of_lt' (show _ < 2 ^ 32 by omega)
          have hbelow : ∀ below, locate (lines.take e ++ below) = locate lines := by
            intro below
            rw [locate, locate, List.map_append, List.map_take]
            exact locateFrom_take_append hfirst hclose _
          rw [hclose, Option.getD_some] at hlocate
          refine Or.inr (Or.inr ?_)
          rw [show (locate lines).endLine.toNat = e by rw [hlocate, hend],
            show (locate lines).startLine.toNat = 1 + i by rw [hlocate, hstart]]
          exact ⟨by omega, hlow, by omega, hbelow⟩

/-- A block of three lines between a comment and a reference. -/
def nested : List String :=
  ["-- orders", "config \x7b", "  bigquery: \x7b a: 1 \x7d,", "\x7d \x7d", "$\x7bref(1)\x7d"]

/-- Braces that open and close on one line of the block do not close it, and those of the reference
below it do not count. -/
theorem locate_eq_reference_nested :
    locate nested = reference nested ∧ reference nested = ⟨2, 4⟩ :=
  ⟨(locate_eq_reference nested (by decide) (by decide)).1, by decide⟩

end SqlxDryRun.ConfigBlock
