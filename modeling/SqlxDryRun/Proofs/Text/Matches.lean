import Mathlib.Data.List.Infix
import SqlxDryRun.Proofs.Text.Utf8

/-!
# Matches in the bytes of a text

A search from left to right that looks for a match only behind the match before it
(`matchIndices`) finds disjoint matches.  It finds all of them if no proper end of the pattern is
also a beginning of it (`mem_matchIndices_iff`).

The bytes of a text are `utf8`, and `cutAt?` cuts a text at a place counted in bytes, unless the
place lies inside a character.  Only the first byte of a character can begin one, so a match of a
text in the bytes of another one begins and ends where the text can be cut (`exists_cut_of_match`).
-/

namespace SqlxDryRun.Text

/-! ## Disjoint matches -/

section Matches

variable {α : Type} {pattern text : List α} {place covered i j : Nat}

/-- No proper end of the pattern is also a beginning of it. -/
def Unbordered (pattern : List α) : Prop :=
  ∀ n < pattern.length, 0 < n → ¬pattern.drop n <+: pattern

/-- Within a match of an unbordered pattern no other match begins. -/
theorem Unbordered.not_match_inside (hpattern : Unbordered pattern) (hmatch : pattern <+: text)
    {n : Nat} (hpos : 0 < n) (hn : n < pattern.length) : ¬pattern <+: text.drop n := by
  intro hother
  refine hpattern n hn hpos (List.prefix_of_prefix_length_le (hmatch.drop n) hother ?_)
  rw [List.length_drop]
  omega

/-- A match in a text that begins at `place` begins there, or it is a match in the rest. -/
theorem exists_match_cons_iff {a : α} {rest : List α} :
    (∃ n, i = place + n ∧ pattern <+: (a :: rest).drop n) ↔
      (i = place ∧ pattern <+: a :: rest) ∨
        ∃ n, i = place + 1 + n ∧ pattern <+: rest.drop n := by
  constructor
  · rintro ⟨n, hi, hn⟩
    cases n with
    | zero => exact Or.inl ⟨hi, hn⟩
    | succ n => exact Or.inr ⟨n, by omega, hn⟩
  · rintro (⟨hi, hhere⟩ | ⟨n, hi, hn⟩)
    · exact ⟨0, hi, hhere⟩
    · exact ⟨n + 1, by omega, hn⟩

variable [DecidableEq α]

instance (pattern : List α) : Decidable (Unbordered pattern) :=
  inferInstanceAs (Decidable (∀ n < pattern.length, 0 < n → ¬pattern.drop n <+: pattern))

/-- The places where matches of a pattern begin in a text that begins at `place`, where the match
before covers the first items of the text.  A match begins only behind the one before. -/
def matchesFrom (pattern : List α) : (place covered : Nat) → (text : List α) → List Nat
  | _, _, [] => []
  | place, covered + 1, _ :: rest => matchesFrom pattern (place + 1) covered rest
  | place, 0, a :: rest =>
    if pattern <+: a :: rest then
      place :: matchesFrom pattern (place + 1) (pattern.length - 1) rest
    else matchesFrom pattern (place + 1) 0 rest

/-- The places where the disjoint matches of a pattern begin, from left to right. -/
def matchIndices (pattern text : List α) : List Nat :=
  matchesFrom pattern 0 0 text

/-- No match begins where the match before goes on. -/
theorem le_of_mem_matchesFrom (hmem : i ∈ matchesFrom pattern place covered text) :
    place + covered ≤ i := by
  fun_induction matchesFrom pattern place covered text with
  | case1 => cases hmem
  | case2 place covered a rest ih =>
      have hle := ih hmem
      omega
  | case3 place a rest hmatch ih =>
      rcases List.mem_cons.1 hmem with rfl | hmem
      · exact Nat.le_refl _
      · have hle := ih hmem
        omega
  | case4 place a rest hmatch ih =>
      have hle := ih hmem
      omega

/-- The matches are found from left to right, and no two of them overlap. -/
theorem pairwise_matchesFrom :
    (matchesFrom pattern place covered text).Pairwise fun i j => i + pattern.length ≤ j := by
  fun_induction matchesFrom pattern place covered text with
  | case1 => exact List.Pairwise.nil
  | case2 place covered a rest ih => exact ih
  | case3 place a rest hmatch ih =>
      refine List.pairwise_cons.2 ⟨fun j hj => ?_, ih⟩
      have hle := le_of_mem_matchesFrom hj
      omega
  | case4 place a rest hmatch ih => exact ih

/-- Every match that does not begin within the match before is found. -/
theorem mem_matchesFrom_iff (hpattern : Unbordered pattern) (hne : pattern ≠ [])
    (hcovered : ∀ n < covered, ¬pattern <+: text.drop n) :
    i ∈ matchesFrom pattern place covered text ↔
      ∃ n, i = place + n ∧ pattern <+: text.drop n := by
  induction text generalizing place covered with
  | nil => simp [matchesFrom, hne]
  | cons a rest ih =>
      rw [exists_match_cons_iff]
      cases covered with
      | succ covered =>
          have hhere : ¬pattern <+: a :: rest := hcovered 0 (Nat.succ_pos covered)
          rw [matchesFrom, ih fun n hn => hcovered (n + 1) (Nat.succ_lt_succ hn)]
          simp only [hhere, and_false, false_or]
      | zero =>
          by_cases hhere : pattern <+: a :: rest
          · have hinside : ∀ n < pattern.length - 1, ¬pattern <+: rest.drop n := fun n hn =>
              hpattern.not_match_inside hhere (Nat.succ_pos n) (by omega)
            rw [matchesFrom, if_pos hhere, List.mem_cons, ih hinside]
            simp only [hhere, and_true]
          · rw [matchesFrom, if_neg hhere, ih fun n hn => absurd hn (Nat.not_lt_zero n)]
            simp only [hhere, and_false, false_or]

/-- **No match of an unbordered pattern is missed**, although matches are looked for only behind the
one before. -/
theorem mem_matchIndices_iff (hpattern : Unbordered pattern) (hne : pattern ≠ []) :
    i ∈ matchIndices pattern text ↔ pattern <+: text.drop i := by
  rw [matchIndices, mem_matchesFrom_iff hpattern hne fun n hn => absurd hn (Nat.not_lt_zero n)]
  simp only [Nat.zero_add, exists_eq_left']

end Matches

/-! ## Bytes -/

/-- The bytes of a text. -/
def utf8 (text : List Char) : List UInt8 :=
  text.flatMap String.utf8EncodeChar

/-- What stands before and behind a place that is counted in bytes; nothing if the place lies inside
a character or behind the text. -/
def cutAt? : (place : Nat) → (text : List Char) → Option (List Char × List Char)
  | 0, text => some ([], text)
  | _ + 1, [] => none
  | place + 1, c :: rest =>
    if c.utf8Size ≤ place + 1 then
      (cutAt? (place + 1 - c.utf8Size) rest).map fun (before, after) => (c :: before, after)
    else none

@[simp]
theorem utf8_cons (c : Char) (text : List Char) :
    utf8 (c :: text) = String.utf8EncodeChar c ++ utf8 text :=
  List.flatMap_cons

@[simp]
theorem utf8_append (text more : List Char) : utf8 (text ++ more) = utf8 text ++ utf8 more :=
  List.flatMap_append

theorem length_utf8_cons (c : Char) (text : List Char) :
    (utf8 (c :: text)).length = c.utf8Size + (utf8 text).length := by
  rw [utf8_cons, List.length_append, String.length_utf8EncodeChar]

/-- A text is cut between its characters. -/
theorem cutAt?_append (before after : List Char) :
    cutAt? (utf8 before).length (before ++ after) = some (before, after) := by
  induction before with
  | nil => rw [utf8, List.flatMap_nil, List.length_nil, List.nil_append, cutAt?]
  | cons c before ih =>
      obtain ⟨size, hsize⟩ : ∃ size, (utf8 (c :: before)).length = size + 1 :=
        Nat.exists_eq_succ_of_ne_zero (by
          rw [length_utf8_cons]
          have hpos := c.utf8Size_pos
          omega)
      have hlength := length_utf8_cons c before
      rw [hsize, List.cons_append, cutAt?, if_pos (by omega),
        show size + 1 - c.utf8Size = (utf8 before).length by omega, ih, Option.map_some]

/-- Bytes of a text are at the head of the bytes of another text just if the text is at its head. -/
theorem utf8_prefix_iff {pattern text : List Char} :
    utf8 pattern <+: utf8 text ↔ pattern <+: text := by
  constructor
  · rintro ⟨more, hmore⟩
    refine ⟨Utf8.lenientFrom .none more, ?_⟩
    rw [← Utf8.lenientFrom_flatMap_append, ← Utf8.lenientFrom_flatMap text]
    exact congrArg (Utf8.lenientFrom .none) hmore
  · rintro ⟨more, rfl⟩
    exact ⟨utf8 more, (utf8_append pattern more).symm⟩

/-- The bytes of a text that is not empty begin with a byte that begins a character. -/
theorem exists_head?_utf8 {text : List Char} (hne : text ≠ []) :
    ∃ b, (utf8 text).head? = some b ∧ b.IsUTF8FirstByte := by
  cases text with
  | nil => exact absurd rfl hne
  | cons c rest =>
      have hpos : 0 < (String.utf8EncodeChar c).length := by
        rw [String.length_utf8EncodeChar]
        exact c.utf8Size_pos
      refine ⟨(String.utf8EncodeChar c)[0], ?_, UInt8.isUTF8FirstByte_getElem_utf8EncodeChar.2 rfl⟩
      rw [utf8_cons, List.head?_append_of_ne_nil _ (List.ne_nil_of_length_pos hpos),
        List.head?_eq_getElem?, List.getElem?_eq_getElem hpos]

/-- **A match in the bytes of a text is a match in the text**: it begins and ends between
characters. -/
theorem exists_cut_of_match {pattern text : List Char} {i : Nat} (hne : pattern ≠ [])
    (hmatch : utf8 pattern <+: (utf8 text).drop i) :
    ∃ before after, text = before ++ pattern ++ after ∧ (utf8 before).length = i := by
  obtain ⟨b, hhead, hfirst⟩ := exists_head?_utf8 hne
  have hb : (utf8 text)[i]? = some b := by
    obtain ⟨more, hmore⟩ := hmatch
    rw [← List.head?_drop, ← hmore, List.head?_append, hhead, Option.some_or]
  induction text generalizing i with
  | nil => cases hb
  | cons c rest ih =>
      rw [utf8_cons] at hb hmatch
      rcases Nat.lt_or_ge i (String.utf8EncodeChar c).length with hinside | hbehind
      · -- Of the bytes of a character only the first one begins a character.
        rw [List.getElem?_append_left hinside, List.getElem?_eq_getElem hinside,
          Option.some.injEq] at hb
        rw [← hb] at hfirst
        obtain rfl := UInt8.isUTF8FirstByte_getElem_utf8EncodeChar.1 hfirst
        rw [List.drop_zero, ← utf8_cons] at hmatch
        obtain ⟨after, hafter⟩ := utf8_prefix_iff.1 hmatch
        exact ⟨[], after, hafter.symm, rfl⟩
      · rw [List.getElem?_append_right hbehind] at hb
        rw [List.drop_append, List.drop_of_length_le hbehind, List.nil_append] at hmatch
        obtain ⟨before, after, rfl, hlength⟩ := ih hmatch hb
        refine ⟨c :: before, after, rfl, ?_⟩
        rw [utf8_cons, List.length_append, hlength]
        omega

end SqlxDryRun.Text
