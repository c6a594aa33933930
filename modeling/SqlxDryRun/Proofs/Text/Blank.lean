import SqlxDryRun.Proofs.Text.Runs
import SqlxDryRun.Text.Blank

/-!
# Trimming

`IsTrimmed` says what is left of a text without the white space at its two ends, and
`isTrimmed_iff` that trimming finds it.
-/

namespace SqlxDryRun.Text

/-- A text without the white space at its two ends. -/
structure IsTrimmed (text core : String) : Prop where
  split : ∃ front back, text.toList = front ++ core.toList ++ back ∧
    (∀ c ∈ front, isBlank c = true) ∧ ∀ c ∈ back, isBlank c = true
  first : ∀ c ∈ core.toList.head?, isBlank c = false
  last : ∀ c ∈ core.toList.getLast?, isBlank c = false

/-! ## One end -/

theorem getLast?_trimRight (cs : List Char) :
    ∀ c ∈ (trimRight cs).getLast?, isBlank c = false := by
  rw [trimRight, List.getLast?_reverse]
  exact head?_dropWhile_stops isBlank cs.reverse

/-- Only white space is lost at the end. -/
theorem trimRight_append (cs : List Char) :
    ∃ back, cs = trimRight cs ++ back ∧ ∀ c ∈ back, isBlank c = true := by
  refine ⟨(cs.reverse.takeWhile isBlank).reverse, ?_, ?_⟩
  · rw [trimRight, ← List.reverse_append, List.takeWhile_append_dropWhile, List.reverse_reverse]
  · intro c hc
    exact List.mem_takeWhile_imp (List.mem_reverse.1 hc)

/-- White space at the end is dropped, up to a character that is none. -/
theorem trimRight_of_append {cs back : List Char} (hlast : ∀ c ∈ cs.getLast?, isBlank c = false)
    (hback : ∀ c ∈ back, isBlank c = true) : trimRight (cs ++ back) = cs := by
  rw [trimRight, List.reverse_append,
    List.dropWhile_append_of_pos fun c hc => hback c (List.mem_reverse.1 hc)]
  cases hcs : cs.reverse with
  | nil => exact (List.reverse_eq_nil_iff.1 hcs).symm
  | cons c rest =>
      have hc : isBlank c = false := hlast c (by rw [← List.head?_reverse, hcs]; rfl)
      rw [List.dropWhile_cons_of_neg (by simp [hc]), ← hcs, List.reverse_reverse]

/-! ## Both ends -/

/-- **Trimming finds the text without the white space at its ends.** -/
theorem isTrimmed_iff {text core : String} : IsTrimmed text core ↔ core = trim text := by
  constructor
  · rintro ⟨⟨front, back, htext, hfront, hback⟩, hfirst, hlast⟩
    rw [trim, trimChars, htext, List.append_assoc, List.dropWhile_append_of_pos hfront]
    cases hcore : core.toList with
    | nil =>
        -- The white space in front goes on to the end of the text.
        rw [List.nil_append, List.dropWhile_eq_nil_iff.2 hback]
        exact String.toList_eq_nil_iff.1 hcore
    | cons c rest =>
        have hc : isBlank c = false := hfirst c (by rw [hcore]; rfl)
        rw [List.cons_append, List.dropWhile_cons_of_neg (by simp [hc]), ← List.cons_append,
          ← hcore, trimRight_of_append hlast hback, String.ofList_toList]
  · rintro rfl
    obtain ⟨back, hcore, hback⟩ := trimRight_append (text.toList.dropWhile isBlank)
    have htrim : (trim text).toList = trimRight (text.toList.dropWhile isBlank) := by
      rw [trim, trimChars, String.toList_ofList]
    refine ⟨⟨text.toList.takeWhile isBlank, back, ?_, ?_, hback⟩, ?_, ?_⟩
    · rw [htrim, List.append_assoc, ← hcore, List.takeWhile_append_dropWhile]
    · exact fun c hc => List.mem_takeWhile_imp hc
    · rw [htrim]
      intro c hc
      refine head?_dropWhile_stops isBlank text.toList c ?_
      rw [hcore, List.head?_append, Option.mem_def.1 hc]
      rfl
    · rw [htrim]
      exact getLast?_trimRight _

/-- Nothing is left just of white space. -/
theorem IsTrimmed.eq_empty_iff {text core : String} (h : IsTrimmed text core) :
    core = "" ↔ isBlankText text = true := by
  obtain ⟨⟨front, back, htext, hfront, hback⟩, hfirst, -⟩ := h
  rw [isBlankText, List.all_eq_true, htext, ← String.toList_eq_nil_iff]
  constructor
  · intro hcore c hc
    rw [hcore, List.append_nil] at hc
    exact (List.mem_append.1 hc).elim (hfront c) (hback c)
  · intro hblank
    cases hcore : core.toList with
    | nil => rfl
    | cons c rest =>
        have hc : isBlank c = true := hblank c (by simp [hcore])
        rw [hfirst c (by rw [hcore]; rfl)] at hc
        cases hc

end SqlxDryRun.Text
