import SqlxDryRun.Proofs.ConfigBlock.Reference

/-!
# The text before the token

The scan counts the braces of the starting line from its beginning, so those before the token count
as well, although they are no braces of the block.  `leftOpen?` says what they leave open, and two
texts may take each other's place before the token just if they leave the same
(`locate_replace_lead_iff`).  A brace that ends another block on the line of the token is enough to
cut the block short (`locate_cut_short`).
-/

namespace SqlxDryRun.ConfigBlock

/-! ## What braces leave open -/

/-- The number of braces that are open behind a text that is entered with `depth` braces open, or
nothing if one of its own braces closes the block. -/
def leftOpen? (depth : Nat) (text : List Char) : Option Nat :=
  if ∃ part ∈ text.inits, ClosesBlock depth part then none
  else some (depth + text.count '{' - text.count '}')

theorem leftOpen?_nil (depth : Nat) : leftOpen? depth [] = some depth := by
  have hnone : ¬∃ part ∈ ([] : List Char).inits, ClosesBlock depth part := by
    rintro ⟨part, hpart, hcloses⟩
    obtain rfl : part = [] := by simpa using hpart
    exact not_closesBlock_nil depth hcloses
  rw [leftOpen?, if_neg hnone]
  rfl

/-- A character that closes nothing changes the depth. -/
theorem leftOpen?_pass {depth depth' : Nat} {c : Char}
    (hshift : depth + [c].count '{' = depth' + [c].count '}') (hopen : ¬ClosesBlock depth [c])
    (text : List Char) : leftOpen? depth (c :: text) = leftOpen? depth' text := by
  have hcount (b : Char) : (c :: text).count b = [c].count b + text.count b := by
    rw [← List.count_append, List.singleton_append]
  have hcloses : (∃ part ∈ (c :: text).inits, ClosesBlock depth part) ↔
      ∃ part ∈ text.inits, ClosesBlock depth' part := by
    rw [List.inits_cons, List.exists_mem_cons_iff, or_iff_right (not_closesBlock_nil depth)]
    simp only [List.mem_map, exists_exists_and_eq_and, closesBlock_cons hshift hopen]
  have hdepth : depth + (c :: text).count '{' - (c :: text).count '}' =
      depth' + text.count '{' - text.count '}' := by
    rw [hcount, hcount]
    omega
  simp only [leftOpen?, hcloses, hdepth]

theorem leftOpen?_close {depth : Nat} {c : Char} (hclose : ClosesBlock depth [c])
    (text : List Char) : leftOpen? depth (c :: text) = none := by
  have hpart : [c] ∈ (c :: text).inits := (List.mem_inits ..).2 ⟨text, rfl⟩
  rw [leftOpen?, if_pos ⟨[c], hpart, hclose⟩]

/-- Only a text without braces leaves nothing open and closes nothing. -/
theorem leftOpen?_eq_zero_iff {text : List Char} :
    leftOpen? 0 text = some 0 ↔ '{' ∉ text ∧ '}' ∉ text := by
  constructor
  · intro h
    rw [leftOpen?] at h
    split at h
    · cases h
    · rename_i hnone
      have hcount : text.count '{' ≤ text.count '}' := by
        have hzero := Option.some.inj h
        omega
      have hclose : '}' ∉ text := by
        intro hmem
        -- The text up to its last closing brace closes as many braces as the whole text.
        obtain ⟨after, before, htext, hlast⟩ :=
          List.eq_append_cons_of_mem (List.mem_reverse.2 hmem)
        have hsplit : text = (before.reverse ++ ['}']) ++ after.reverse := by
          rw [← List.reverse_reverse text, htext]
          simp
        have hafter : after.reverse.count '}' = 0 :=
          List.count_eq_zero.2 (mt List.mem_reverse.1 hlast)
        have hparts (b : Char) :
            text.count b = (before.reverse ++ ['}']).count b + after.reverse.count b := by
          rw [hsplit, List.count_append]
        rw [hparts, hparts '}', hafter] at hcount
        exact hnone ⟨before.reverse ++ ['}'], (List.mem_inits ..).2 ⟨after.reverse, hsplit.symm⟩,
          by simp, by omega⟩
      refine ⟨?_, hclose⟩
      rw [List.count_eq_zero.2 hclose] at hcount
      exact List.count_eq_zero.1 (Nat.le_zero.1 hcount)
  · rintro ⟨hopen, hclose⟩
    have hnone : ¬∃ part ∈ text.inits, ClosesBlock 0 part := by
      rintro ⟨part, hpart, hlast, -⟩
      exact hclose (((List.mem_inits ..).1 hpart).subset (List.mem_of_getLast? hlast))
    rw [leftOpen?, if_neg hnone, List.count_eq_zero.2 hopen, List.count_eq_zero.2 hclose]

/-- The scan of a text counts what the text leaves open. -/
theorem toNat_scanLine {depth : UInt32} {text : List Char}
    (hdepth : depth.toNat + text.count '{' < 2 ^ 32) :
    (scanLine depth text).map UInt32.toNat = leftOpen? depth.toNat text := by
  induction text generalizing depth with
  | nil => rw [scanLine, leftOpen?_nil, Option.map_some]
  | cons c cs ih =>
      rw [scanLine_cons]
      by_cases ho : c = '{'
      · subst ho
        rw [List.count_cons_self] at hdepth
        have hnext : (depth + 1).toNat = depth.toNat + 1 := by
          rw [UInt32.toNat_add, UInt32.toNat_one]
          exact Nat.mod_eq_of_lt (by omega)
        rw [if_pos rfl, ih (by omega), hnext]
        exact (leftOpen?_pass (by simp) (by simp [ClosesBlock]) cs).symm
      · rw [List.count_cons_of_ne ho] at hdepth
        rw [if_neg ho]
        by_cases hc : c = '}'
        · subst hc
          have hone : depth ≤ 1 ↔ depth.toNat ≤ 1 := UInt32.le_iff_toNat_le
          rw [if_pos rfl]
          by_cases hd : depth.toNat ≤ 1
          · have hclose : ClosesBlock depth.toNat ['}'] := by
              simpa [ClosesBlock] using hd
            rw [if_pos (hone.2 hd), leftOpen?_close hclose, Option.map_none]
          · have hle : (1 : UInt32) ≤ depth :=
              UInt32.le_iff_toNat_le.2 (by rw [UInt32.toNat_one]; omega)
            have hnext : (depth - 1).toNat = depth.toNat - 1 := UInt32.toNat_sub_of_le _ _ hle
            have hopen : ¬ClosesBlock depth.toNat ['}'] := by
              simpa [ClosesBlock] using hd
            rw [if_neg (mt hone.1 hd), ih (by omega), hnext]
            exact (leftOpen?_pass (by simp; omega) hopen cs).symm
        · rw [if_neg hc, ih hdepth]
          exact (leftOpen?_pass (by simp [ho, hc]) (by simp [ClosesBlock, hc]) cs).symm

/-! ## The span behind a lead -/

/-- A line that holds the token behind a lead. -/
def ledLine (lead after : List Char) : String :=
  String.ofList (lead ++ token ++ after)

theorem scanLine_led (depth : UInt32) (lead after : List Char) :
    scanLine depth (lead ++ token ++ after) =
      (scanLine depth lead).bind fun deeper => scanLine deeper after := by
  rw [List.append_assoc, scanLine_append]
  rfl

/-- The line on which a block closes whose token stands behind a lead. -/
def closingBehind? (lead : List Char) (number : Nat) (after : List Char)
    (below : List (List Char)) : Option Nat :=
  match scanLine 0 lead with
  | none => some number
  | some depth => closingLine? depth number (after :: below)

/-- The lead has its part in the span, by the braces that it leaves open. -/
theorem locate_led {above : List String} {lead after : List Char}
    (habove : ∀ l ∈ above, ¬HoldsToken l.toList) (hlead : isBoundary lead.getLast? = true)
    (hafter : isBoundary after.head? = true) (below : List String) :
    locate (above ++ ledLine lead after :: below) =
      ⟨.ofNat (1 + above.length), .ofNat ((closingBehind? lead (1 + above.length) after
        (below.map String.toList)).getD 0)⟩ := by
  have hnone : ∀ l ∈ above.map String.toList, hasToken l = false := by
    intro l hl
    obtain ⟨s, hs, rfl⟩ := List.mem_map.1 hl
    rw [hasToken_eq_decide, decide_eq_false (habove s hs)]
  have htoken : hasToken (lead ++ token ++ after) = true :=
    (hasToken_iff _).2 ⟨lead, after, rfl, hlead, hafter⟩
  have hclosing : closingLine? 0 (1 + above.length)
        ((lead ++ token ++ after) :: below.map String.toList) =
      closingBehind? lead (1 + above.length) after (below.map String.toList) := by
    rw [closingLine?, scanLine_led, closingBehind?]
    cases scanLine 0 lead with
    | none => rfl
    | some depth => rfl
  rw [locate, List.map_append, List.map_cons, ledLine, String.toList_ofList,
    locateFrom_append hnone, List.length_map, locateFrom, if_pos htoken, hclosing]

/-! ## Leads that can be told apart -/

/-- As many closing braces as are open, and at least one, close a block. -/
theorem scanLine_replicate_eq_none {depth : UInt32} {n : Nat} :
    scanLine depth (List.replicate n '}') = none ↔ max depth.toNat 1 ≤ n := by
  induction n generalizing depth with
  | zero =>
      constructor
      · intro h
        cases h
      · intro h
        omega
  | succ n ih =>
      have hone : depth ≤ 1 ↔ depth.toNat ≤ 1 := UInt32.le_iff_toNat_le
      rw [List.replicate_succ, scanLine_cons, if_neg (by decide), if_pos rfl]
      by_cases hd : depth.toNat ≤ 1
      · rw [if_pos (hone.2 hd)]
        exact iff_of_true rfl (by omega)
      · have hle : (1 : UInt32) ≤ depth :=
          UInt32.le_iff_toNat_le.2 (by rw [UInt32.toNat_one]; omega)
        have hnext : (depth - 1).toNat = depth.toNat - 1 := UInt32.toNat_sub_of_le _ _ hle
        rw [if_neg (mt hone.1 hd), ih, hnext]
        omega

/-- Behind different depths some document goes on so that the block closes on one of its first two
lines for the smaller depth, and is not closed for the greater one. -/
theorem exists_closing_of_lt {depth depth' : UInt32} (h : depth.toNat < depth'.toNat) :
    ∃ after below, isBoundary after.head? = true ∧
      (closingLine? depth 1 (after :: below)).getD 0 ∈ [1, 2] ∧
      closingLine? depth' 1 (after :: below) = none := by
  by_cases hsmall : depth'.toNat ≤ 1
  · -- One closing brace closes the block at either depth, so another brace must be opened first.
    obtain rfl : depth = 0 := UInt32.toNat_inj.1 (by rw [UInt32.toNat_zero]; omega)
    obtain rfl : depth' = 1 := UInt32.toNat_inj.1 (by rw [UInt32.toNat_one]; omega)
    exact ⟨['{', '}'], [], by decide⟩
  · refine ⟨[], [List.replicate (max depth.toNat 1) '}'], rfl, ?_, ?_⟩
    · have hclose : scanLine depth (List.replicate (max depth.toNat 1) '}') = none :=
        scanLine_replicate_eq_none.2 (Nat.le_refl _)
      simp [closingLine?, scanLine, hclose]
    · have hopen : scanLine depth' (List.replicate (max depth.toNat 1) '}') ≠ none := by
        rw [ne_eq, scanLine_replicate_eq_none]
        omega
      obtain ⟨deeper, hdeeper⟩ := Option.ne_none_iff_exists'.1 hopen
      simp [closingLine?, scanLine, hdeeper]

/-- Some document tells leads apart that leave different braces open. -/
theorem exists_told_apart {lead lead' : List Char} (h : scanLine 0 lead ≠ scanLine 0 lead') :
    ∃ after below, isBoundary after.head? = true ∧
      (((closingBehind? lead 1 after below).getD 0 ∈ [1, 2] ∧
          closingBehind? lead' 1 after below = none) ∨
        ((closingBehind? lead' 1 after below).getD 0 ∈ [1, 2] ∧
          closingBehind? lead 1 after below = none)) := by
  cases hscan : scanLine 0 lead with
  | none =>
      cases hscan' : scanLine 0 lead' with
      | none => exact absurd (hscan.trans hscan'.symm) h
      | some depth' =>
          refine ⟨[], [], rfl, Or.inl ?_⟩
          simp [closingBehind?, hscan, hscan', closingLine?, scanLine]
  | some depth =>
      cases hscan' : scanLine 0 lead' with
      | none =>
          refine ⟨[], [], rfl, Or.inr ?_⟩
          simp [closingBehind?, hscan, hscan', closingLine?, scanLine]
      | some depth' =>
          have hne : depth.toNat ≠ depth'.toNat := by
            intro heq
            exact h (by rw [hscan, hscan', UInt32.toNat_inj.1 heq])
          rcases Nat.lt_or_gt_of_ne hne with hlt | hgt
          · obtain ⟨after, below, hafter, hclosing⟩ := exists_closing_of_lt hlt
            refine ⟨after, below, hafter, Or.inl ?_⟩
            simpa only [closingBehind?, hscan, hscan'] using hclosing
          · obtain ⟨after, below, hafter, hclosing⟩ := exists_closing_of_lt hgt
            refine ⟨after, below, hafter, Or.inr ?_⟩
            simpa only [closingBehind?, hscan, hscan'] using hclosing

/-- **When the text before the token may be replaced.**  Two texts that leave the token a word of
its own may take each other's place before it, in every document and without any change of the span,
just if their braces leave the same open; and only a text without braces leaves nothing open.  So
text without braces may be replaced by text without braces, and by nothing else. -/
theorem locate_replace_lead_iff {lead lead' : List Char}
    (hlead : isBoundary lead.getLast? = true) (hlead' : isBoundary lead'.getLast? = true)
    (hcount : lead.count '{' < 2 ^ 32) (hcount' : lead'.count '{' < 2 ^ 32) :
    ((∀ (above : List String) (after : List Char) (below : List String),
      (∀ l ∈ above, ¬HoldsToken l.toList) → isBoundary after.head? = true →
        locate (above ++ ledLine lead after :: below) =
          locate (above ++ ledLine lead' after :: below)) ↔
      leftOpen? 0 lead = leftOpen? 0 lead') ∧
    (leftOpen? 0 lead = some 0 ↔ '{' ∉ lead ∧ '}' ∉ lead) := by
  refine ⟨?_, leftOpen?_eq_zero_iff⟩
  have hscan : (scanLine 0 lead).map UInt32.toNat = leftOpen? 0 lead :=
    toNat_scanLine (by rwa [UInt32.toNat_zero, Nat.zero_add])
  have hscan' : (scanLine 0 lead').map UInt32.toNat = leftOpen? 0 lead' :=
    toNat_scanLine (by rwa [UInt32.toNat_zero, Nat.zero_add])
  rw [← hscan, ← hscan', Option.map_inj_right fun _ _ => UInt32.toNat_inj.1]
  constructor
  · intro hall
    by_contra hne
    obtain ⟨after, below, hafter, htold⟩ := exists_told_apart hne
    have hbelow : (below.map String.ofList).map String.toList = below := by
      simp [Function.comp_def]
    have hnil : ∀ l ∈ ([] : List String), ¬HoldsToken l.toList := fun _ hl => nomatch hl
    have hspan := hall [] after (below.map String.ofList) hnil hafter
    rw [locate_led hnil hlead hafter, locate_led hnil hlead' hafter, hbelow] at hspan
    obtain ⟨-, hend⟩ := Span.mk.inj hspan
    rw [List.length_nil, Nat.add_zero] at hend
    rcases htold with ⟨hclosed, hopen⟩ | ⟨hclosed, hopen⟩
    · rw [hopen] at hend
      rcases List.mem_pair.1 hclosed with h | h <;> rw [h] at hend <;> exact absurd hend (by decide)
    · rw [hopen] at hend
      rcases List.mem_pair.1 hclosed with h | h <;> rw [h] at hend <;> exact absurd hend (by decide)
  · intro heq above after below habove hafter
    rw [locate_led habove hlead hafter, locate_led habove hlead' hafter, closingBehind?,
      closingBehind?, heq]

/-- A comment before the token may be replaced by blanks. -/
theorem locate_replace_lead_iff_sample :
    locate ([] ++ ledLine "/* orders */ ".toList " \x7b".toList :: ["  type: 1", "\x7d"]) =
      locate ([] ++ ledLine "  ".toList " \x7b".toList :: ["  type: 1", "\x7d"]) :=
  (locate_replace_lead_iff (by decide) (by decide) (by decide) (by decide)).1.2 (by decide) []
    " \x7b".toList ["  type: 1", "\x7d"] (by decide) (by decide)

/-- **A block that is cut short.**  The brace that ends a block of script code stands before the
token, on the same line.  Neither it nor the empty text holds the token, and both leave it a word of
its own; but the brace closes the block on its first line, which ends two lines below without it. -/
theorem locate_cut_short :
    ¬HoldsToken "\x7d ".toList ∧ isBoundary "\x7d ".toList.getLast? = true ∧
      ¬HoldsToken [] ∧ isBoundary [].getLast? = true ∧
      locate (["js \x7b", "  const a = 1;"] ++ ledLine "\x7d ".toList " \x7b".toList ::
        ["  type: \"table\"", "\x7d", "select 1"]) = ⟨3, 3⟩ ∧
      locate (["js \x7b", "  const a = 1;"] ++ ledLine [] " \x7b".toList ::
        ["  type: \"table\"", "\x7d", "select 1"]) = ⟨3, 5⟩ := by
  decide

end SqlxDryRun.ConfigBlock
