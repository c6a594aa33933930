import Mathlib.Data.List.Infix
import SqlxDryRun.Text.Search

/-!
# Where a pattern stands

What the head of a text says about the text as a whole: a text begins with a pattern just if it is
the pattern with something behind it, and its first part ends where its first mark stands.  The
search for the last place finds the pattern where it begins last, and nothing just if it does not
occur.
-/

namespace SqlxDryRun.Text

/-- What follows a pattern at the head of a text, put behind the pattern, is the text. -/
theorem afterPrefix?_eq_some_iff {pattern text rest : List Char} :
    afterPrefix? pattern text = some rest ↔ text = pattern ++ rest := by
  induction pattern generalizing text with
  | nil => rw [afterPrefix?, Option.some.injEq, List.nil_append]
  | cons p ps ih =>
      cases text with
      | nil => simp [afterPrefix?]
      | cons c cs =>
          rw [afterPrefix?, List.cons_append, List.cons.injEq]
          by_cases hpc : p = c
          · rw [if_pos hpc, ih]
            exact ⟨fun h => ⟨hpc.symm, h⟩, fun h => h.2⟩
          · rw [if_neg hpc]
            constructor
            · intro h
              cases h
            · intro h
              exact absurd h.1.symm hpc

/-! ## The first mark -/

/-- A text is cut where its first mark stands. -/
theorem splitOnce?_eq_some_iff {mark : Char} {text before after : List Char} :
    splitOnce? mark text = some (before, after) ↔ text = before ++ mark :: after ∧ mark ∉ before := by
  induction text generalizing before with
  | nil => simp [splitOnce?]
  | cons c cs ih =>
      rw [splitOnce?]
      by_cases hc : c = mark
      · rw [if_pos hc, hc, Option.some.injEq, Prod.mk.injEq]
        constructor
        · rintro ⟨rfl, rfl⟩
          exact ⟨rfl, List.not_mem_nil⟩
        · rintro ⟨htext, hbefore⟩
          cases before with
          | nil => exact ⟨rfl, (List.cons.inj htext).2⟩
          | cons b bs => exact absurd ((List.cons.inj htext).1 ▸ List.mem_cons_self) hbefore
      · rw [if_neg hc, Option.map_eq_some_iff]
        constructor
        · rintro ⟨⟨front, rest⟩, hcut, hresult⟩
          obtain ⟨rfl, rfl⟩ := Prod.mk.inj hresult
          obtain ⟨rfl, hfront⟩ := ih.1 hcut
          exact ⟨rfl, List.not_mem_cons_of_ne_of_not_mem (Ne.symm hc) hfront⟩
        · rintro ⟨htext, hbefore⟩
          cases before with
          | nil => exact absurd (List.cons.inj htext).1 hc
          | cons b bs =>
              obtain ⟨rfl, hcs⟩ := List.cons.inj htext
              exact ⟨(bs, after), ih.2 ⟨hcs, List.not_mem_of_not_mem_cons hbefore⟩, rfl⟩

/-- A text without the mark is not cut. -/
theorem splitOnce?_eq_none_iff {mark : Char} {text : List Char} :
    splitOnce? mark text = none ↔ mark ∉ text := by
  induction text with
  | nil => simp [splitOnce?]
  | cons c cs ih =>
      rw [splitOnce?, List.mem_cons, not_or]
      by_cases hc : c = mark
      · rw [if_pos hc]
        constructor
        · intro h
          cases h
        · intro h
          exact absurd hc.symm h.1
      · rw [if_neg hc, Option.map_eq_none_iff, ih]
        exact ⟨fun h => ⟨Ne.symm hc, h⟩, fun h => h.2⟩

/-! ## Parts between marks -/

/-- A text without the mark is one part. -/
theorem splitAt_of_not_mem {mark : Char} {text : List Char} (h : mark ∉ text) :
    splitAt mark text = [text] := by
  induction text with
  | nil => rfl
  | cons c cs ih =>
      rw [List.mem_cons, not_or] at h
      rw [splitAt, if_neg (Ne.symm h.1), ih h.2]

/-- The first part ends where the first mark stands. -/
theorem splitAt_append {mark : Char} {part : List Char} (h : mark ∉ part) (rest : List Char) :
    splitAt mark (part ++ mark :: rest) = part :: splitAt mark rest := by
  induction part with
  | nil => rw [List.nil_append, splitAt, if_pos rfl]
  | cons c cs ih =>
      rw [List.mem_cons, not_or] at h
      rw [List.cons_append, splitAt, if_neg (Ne.symm h.1), ih h.2]

/-- What stands before the first mark, and all of the text. -/
theorem takeWhile_ne_eq_iff {mark : Char} {text part : List Char} :
    text.takeWhile (· != mark) = part ↔
      mark ∉ part ∧ (text = part ∨ ∃ more, text = part ++ mark :: more) := by
  have hplain {part : List Char} (hpart : mark ∉ part) : ∀ c ∈ part, (c != mark) = true :=
    fun c hc => bne_iff_ne.2 fun heq => hpart (heq ▸ hc)
  have hself {part : List Char} (hpart : mark ∉ part) : part.takeWhile (· != mark) = part := by
    rw [← List.append_nil part, List.takeWhile_append_of_pos (hplain hpart), List.takeWhile_nil]
  have hmark {part : List Char} (hpart : mark ∉ part) (more : List Char) :
      (part ++ mark :: more).takeWhile (· != mark) = part := by
    rw [List.takeWhile_append_of_pos (hplain hpart), List.takeWhile_cons_of_neg (by simp),
      List.append_nil]
  constructor
  · rintro rfl
    by_cases hmem : mark ∈ text
    · obtain ⟨part, more, rfl, hpart⟩ := List.eq_append_cons_of_mem hmem
      rw [hmark hpart]
      exact ⟨hpart, Or.inr ⟨more, rfl⟩⟩
    · rw [hself hmem]
      exact ⟨hmem, Or.inl rfl⟩
  · rintro ⟨hpart, rfl | ⟨more, rfl⟩⟩
    · exact hself hpart
    · exact hmark hpart more

/-- The first two parts of a text, and all of it. -/
theorem splitAt_eq_cons_cons_iff {mark : Char} {text first second : List Char} :
    (∃ parts, splitAt mark text = first :: second :: parts) ↔
      mark ∉ first ∧ mark ∉ second ∧
        (text = first ++ mark :: second ∨
          ∃ more, text = first ++ mark :: (second ++ mark :: more)) := by
  constructor
  · rintro ⟨parts, hparts⟩
    by_cases hmark : mark ∈ text
    · obtain ⟨part, rest, rfl, hpart⟩ := List.eq_append_cons_of_mem hmark
      rw [splitAt_append hpart] at hparts
      obtain ⟨rfl, hrest⟩ := List.cons.inj hparts
      by_cases hmore : mark ∈ rest
      · obtain ⟨part', rest', rfl, hpart'⟩ := List.eq_append_cons_of_mem hmore
        rw [splitAt_append hpart'] at hrest
        obtain ⟨rfl, -⟩ := List.cons.inj hrest
        exact ⟨hpart, hpart', Or.inr ⟨rest', rfl⟩⟩
      · rw [splitAt_of_not_mem hmore] at hrest
        obtain ⟨rfl, -⟩ := List.cons.inj hrest
        exact ⟨hpart, hmore, Or.inl rfl⟩
    · rw [splitAt_of_not_mem hmark] at hparts
      cases hparts
  · rintro ⟨hfirst, hsecond, rfl | ⟨more, rfl⟩⟩
    · exact ⟨[], by rw [splitAt_append hfirst, splitAt_of_not_mem hsecond]⟩
    · exact ⟨splitAt mark more, by rw [splitAt_append hfirst, splitAt_append hsecond]⟩

/-! ## The last place -/

theorem isSome_afterPrefix?_iff {pattern text : List Char} :
    (afterPrefix? pattern text).isSome = true ↔ pattern <+: text := by
  rw [Option.isSome_iff_exists]
  simp only [afterPrefix?_eq_some_iff]
  exact exists_congr fun rest => eq_comm

/-- No last place is found just if the pattern does not occur. -/
theorem lastIndex?_eq_none_iff {pattern text : List Char} (hne : pattern ≠ []) :
    lastIndex? pattern text = none ↔ ¬pattern <:+: text := by
  induction text with
  | nil => simp [lastIndex?, hne]
  | cons c rest ih =>
      rw [lastIndex?, List.infix_cons_iff, not_or, ← ih, ← isSome_afterPrefix?_iff]
      cases lastIndex? pattern rest <;> simp

/-- The pattern starts at a place of a text, and nowhere behind it. -/
def IsLastPlace (pattern text : List Char) (i : Nat) : Prop :=
  pattern <+: text.drop i ∧ ∀ j, pattern <+: text.drop j → j ≤ i

theorem isLastPlace_succ_iff {pattern rest : List Char} {c : Char} {i : Nat} :
    IsLastPlace pattern (c :: rest) (i + 1) ↔ IsLastPlace pattern rest i := by
  constructor
  · rintro ⟨hi, hlast⟩
    exact ⟨hi, fun j hj => Nat.le_of_succ_le_succ (hlast (j + 1) hj)⟩
  · rintro ⟨hi, hlast⟩
    refine ⟨hi, fun j hj => ?_⟩
    cases j with
    | zero => exact Nat.zero_le _
    | succ j => exact Nat.succ_le_succ (hlast j hj)

/-- The head of a text is the last place just if the pattern does not occur in the rest. -/
theorem isLastPlace_zero_iff {pattern rest : List Char} {c : Char} :
    IsLastPlace pattern (c :: rest) 0 ↔ pattern <+: c :: rest ∧ ¬pattern <:+: rest := by
  refine and_congr_right fun _ => ?_
  constructor
  · rintro hlast ⟨before, after, rfl⟩
    have hle := hlast (before.length + 1) (by
      rw [List.drop_succ_cons, List.append_assoc, List.drop_left]
      exact List.prefix_append _ _)
    omega
  · intro hfree j hj
    cases j with
    | zero => exact Nat.le_refl 0
    | succ j => exact absurd (hj.isInfix.trans (List.drop_suffix j rest).isInfix) hfree

/-- What is found is the last place where the pattern starts. -/
theorem lastIndex?_eq_some_iff {pattern text : List Char} {i : Nat} (hne : pattern ≠ []) :
    lastIndex? pattern text = some i ↔ IsLastPlace pattern text i := by
  induction text generalizing i with
  | nil => simp [lastIndex?, IsLastPlace, hne]
  | cons c rest ih =>
      rw [lastIndex?]
      cases i with
      | zero =>
          rw [isLastPlace_zero_iff, ← lastIndex?_eq_none_iff hne, ← isSome_afterPrefix?_iff]
          cases lastIndex? pattern rest with
          | none => simp [Option.isSome_iff_ne_none]
          | some k => simp
      | succ i =>
          rw [isLastPlace_succ_iff, ← ih]
          cases lastIndex? pattern rest with
          | none => simp
          | some k => simp

end SqlxDryRun.Text
