import SqlxDryRun.Proofs.Text.Places
import SqlxDryRun.Proofs.Text.Runs
import SqlxDryRun.Proofs.Text.Search
import SqlxDryRun.Suggestion

/-!
# Which suggestion a message makes

`Suggests` says by the text alone where a suggestion stands: the words that lead to it, a word, and
a question mark right behind the word.  `first?_eq_some_iff` says that the search from left to right
finds the suggestion that begins first, however many leads without a word and a question mark stand
before it, and `ofMessage?_suggests_first` the same of a message, where only the text behind the
first semicolon is searched.
-/

namespace SqlxDryRun.Suggestion

open SqlxDryRun.Text

/-- A text suggests a word behind `front`. -/
structure Suggests (text front word back : List Char) : Prop where
  split : text = front ++ lead ++ word ++ '?' :: back
  nonempty : word ≠ []
  isWord : ∀ c ∈ word, isWordChar c = true

/-- A text suggests a word behind `front`, and none that begins earlier. -/
structure SuggestsFirst (text front word back : List Char) : Prop extends
    Suggests text front word back where
  first : ∀ front' word' back', Suggests text front' word' back' → front.length ≤ front'.length

/-! ## One place -/

/-- A suggestion is read where it begins. -/
theorem here?_eq_some_iff {text word : List Char} :
    here? text = some word ↔ ∃ back, Suggests text [] word back := by
  have hmark : isWordChar '?' = false := by decide
  constructor
  · intro h
    rw [here?] at h
    split at h
    · cases h
    · rename_i rest hrest
      have htext : text = lead ++ rest := afterPrefix?_eq_some_iff.1 hrest
      split at h
      · cases h
      · rename_i run back hdrop hnonempty
        obtain rfl := Option.some.inj h
        obtain ⟨hsplit, hword⟩ := (run_and_mark_iff hmark).1 ⟨rfl, hdrop⟩
        refine ⟨back, ?_, ?_, hword⟩
        · rw [htext, List.nil_append, List.append_assoc, ← hsplit]
        · exact hnonempty
      · cases h
  · rintro ⟨back, hsplit, hnonempty, hword⟩
    have hrest : afterPrefix? lead text = some (word ++ '?' :: back) := by
      rw [afterPrefix?_eq_some_iff, hsplit, List.nil_append, List.append_assoc]
    obtain ⟨htake, hdrop⟩ : (word ++ '?' :: back).takeWhile isWordChar = word ∧
        (word ++ '?' :: back).dropWhile isWordChar = '?' :: back :=
      (run_and_mark_iff hmark).2 ⟨rfl, hword⟩
    rw [here?, hrest]
    simp only [htake, hdrop]

theorem readsBehind_iff {text front word : List Char} :
    ReadsBehind here? text front word ↔ ∃ back, Suggests text front word back := by
  constructor
  · rintro ⟨rest, rfl, h⟩
    obtain ⟨back, hsplit, hnonempty, hword⟩ := here?_eq_some_iff.1 h
    refine ⟨back, ?_, hnonempty, hword⟩
    rw [hsplit]
    simp only [List.nil_append, List.append_assoc]
  · rintro ⟨back, hsplit, hnonempty, hword⟩
    refine ⟨lead ++ word ++ '?' :: back, ?_, here?_eq_some_iff.2 ⟨back, rfl, hnonempty, hword⟩⟩
    rw [hsplit]
    simp only [List.append_assoc]

/-! ## The first place -/

theorem seeksFirst : SeeksFirst here? first? where
  here_nil := rfl
  nil := rfl
  cons _ _ := rfl

/-- The search finds nothing just if nothing is suggested. -/
theorem first?_eq_none_iff {text : List Char} :
    first? text = none ↔ ∀ front word back, ¬Suggests text front word back := by
  rw [seeksFirst.eq_none_iff]
  simp only [readsBehind_iff, not_exists]

/-- **The search finds the suggestion that begins first.** -/
theorem first?_eq_some_iff {text word : List Char} :
    first? text = some word ↔ ∃ front back, SuggestsFirst text front word back := by
  rw [seeksFirst.eq_some_iff]
  constructor
  · rintro ⟨front, h, hfirst⟩
    obtain ⟨back, hback⟩ := readsBehind_iff.1 h
    refine ⟨front, back, hback, ?_⟩
    intro front' word' back' h'
    exact hfirst front' word' (readsBehind_iff.2 ⟨back', h'⟩)
  · rintro ⟨front, back, h, hfirst⟩
    refine ⟨front, readsBehind_iff.2 ⟨back, h⟩, ?_⟩
    intro front' word' h'
    obtain ⟨back', hback'⟩ := readsBehind_iff.1 h'
    exact hfirst front' word' back' hback'

/-! ## Messages -/

/-- The hint of a message: what stands behind its first semicolon. -/
def IsHint (message : String) (hint : List Char) : Prop :=
  ∃ before, message.toList = before ++ ';' :: hint ∧ ';' ∉ before

theorem IsHint.mem {message : String} {hint : List Char} (h : IsHint message hint) :
    ';' ∈ message.toList := by
  obtain ⟨before, hsplit, -⟩ := h
  rw [hsplit]
  exact List.mem_append_right _ List.mem_cons_self

/-- A message has one hint. -/
theorem IsHint.unique {message : String} {hint hint' : List Char} (h : IsHint message hint)
    (h' : IsHint message hint') : hint = hint' := by
  obtain ⟨before, hsplit⟩ := h
  obtain ⟨before', hsplit'⟩ := h'
  have hsame := (splitOnce?_eq_some_iff.2 hsplit).symm.trans (splitOnce?_eq_some_iff.2 hsplit')
  exact (Prod.mk.inj (Option.some.inj hsame)).2

/-- A message has a hint or no semicolon. -/
theorem isHint_or_not_mem (message : String) :
    (∃ hint, IsHint message hint) ∨ ';' ∉ message.toList := by
  cases hcut : splitOnce? ';' message.toList with
  | none => exact Or.inr (splitOnce?_eq_none_iff.1 hcut)
  | some parts => exact Or.inl ⟨parts.2, parts.1, splitOnce?_eq_some_iff.1 hcut⟩

theorem ofMessage?_of_isHint {message : String} {hint : List Char} (h : IsHint message hint) :
    ofMessage? message = (first? hint).map String.ofList := by
  obtain ⟨before, hsplit⟩ := h
  rw [ofMessage?, splitOnce?_eq_some_iff.2 hsplit]

theorem ofMessage?_of_not_mem {message : String} (h : ';' ∉ message.toList) :
    ofMessage? message = none := by
  rw [ofMessage?, splitOnce?_eq_none_iff.2 h]

theorem ofMessage?_eq_some_iff {message word : String} :
    ofMessage? message = some word ↔
      ∃ hint front back, IsHint message hint ∧ SuggestsFirst hint front word.toList back := by
  constructor
  · intro h
    rcases isHint_or_not_mem message with ⟨hint, hhint⟩ | hno
    · rw [ofMessage?_of_isHint hhint, Option.map_eq_some_iff] at h
      obtain ⟨found, hfound, rfl⟩ := h
      obtain ⟨front, back, hfirst⟩ := first?_eq_some_iff.1 hfound
      exact ⟨hint, front, back, hhint, by rwa [String.toList_ofList]⟩
    · rw [ofMessage?_of_not_mem hno] at h
      cases h
  · rintro ⟨hint, front, back, hhint, hfirst⟩
    rw [ofMessage?_of_isHint hhint, first?_eq_some_iff.2 ⟨front, back, hfirst⟩,
      Option.map_some, String.ofList_toList]

theorem ofMessage?_eq_none_iff {message : String} :
    ofMessage? message = none ↔
      ∀ hint, IsHint message hint → ∀ front word back, ¬Suggests hint front word back := by
  rcases isHint_or_not_mem message with ⟨hint, hhint⟩ | hno
  · rw [ofMessage?_of_isHint hhint, Option.map_eq_none_iff, first?_eq_none_iff]
    constructor
    · intro h hint' hhint'
      rwa [← hhint.unique hhint']
    · intro h
      exact h hint hhint
  · rw [ofMessage?_of_not_mem hno]
    exact ⟨fun _ hint hhint => absurd hhint.mem hno, fun _ => rfl⟩

/-- **A message suggests the first word that its hint suggests**, and nothing just if its hint
suggests nothing or it has none.  What it suggests is a word, and what stands before the first
semicolon has no part in it. -/
theorem ofMessage?_suggests_first (message : String) :
    (∀ word, ofMessage? message = some word ↔
      ∃ hint front back, IsHint message hint ∧ SuggestsFirst hint front word.toList back) ∧
    (ofMessage? message = none ↔
      ∀ hint, IsHint message hint → ∀ front word back, ¬Suggests hint front word back) ∧
    (∀ word, ofMessage? message = some word → word ≠ "" ∧ ∀ c ∈ word.toList, isWordChar c = true) ∧
    ∀ message' hint, IsHint message hint → IsHint message' hint →
      ofMessage? message' = ofMessage? message := by
  refine ⟨fun word => ofMessage?_eq_some_iff, ofMessage?_eq_none_iff, ?_, ?_⟩
  · intro word h
    obtain ⟨hint, front, back, -, hfirst⟩ := ofMessage?_eq_some_iff.1 h
    refine ⟨fun hempty => hfirst.nonempty ?_, hfirst.isWord⟩
    rw [hempty]
    rfl
  · intro message' hint hhint hhint'
    rw [ofMessage?_of_isHint hhint, ofMessage?_of_isHint hhint']

/-- A lead in front of the semicolon and two leads that break off do not hide the suggestion. -/
theorem ofMessage?_suggests_first_sample :
    IsHint "Did you mean it?;Did you mean Did you mean a b?Did you mean ID?"
        "Did you mean Did you mean a b?Did you mean ID?".toList ∧
      IsHint ";Did you mean Did you mean a b?Did you mean ID?"
        "Did you mean Did you mean a b?Did you mean ID?".toList ∧
      ofMessage? "Did you mean it?;Did you mean Did you mean a b?Did you mean ID?" = some "ID" ∧
      ofMessage? ";Did you mean Did you mean a b?Did you mean ID?" = some "ID" := by
  have hhint : IsHint "Did you mean it?;Did you mean Did you mean a b?Did you mean ID?"
      "Did you mean Did you mean a b?Did you mean ID?".toList :=
    ⟨"Did you mean it?".toList, by decide, by decide⟩
  have hhint' : IsHint ";Did you mean Did you mean a b?Did you mean ID?"
      "Did you mean Did you mean a b?Did you mean ID?".toList :=
    ⟨[], by decide, by decide⟩
  obtain ⟨front, back, hfirst⟩ : ∃ front back, SuggestsFirst
      "Did you mean Did you mean a b?Did you mean ID?".toList front "ID".toList back :=
    first?_eq_some_iff.1 (by decide)
  obtain ⟨hsome, -, -, hsame⟩ := ofMessage?_suggests_first
    "Did you mean it?;Did you mean Did you mean a b?Did you mean ID?"
  have hword := (hsome "ID").2 ⟨_, front, back, hhint, hfirst⟩
  exact ⟨hhint, hhint', hword, (hsame _ _ hhint hhint').trans hword⟩

end SqlxDryRun.Suggestion
