import SqlxDryRun.ConfigBlock
import SqlxDryRun.Proofs.Text.Search

/-!
# The token as a word of its own

A line holds the token as a word of its own if it can be cut into what stands before the token, the
token, and what stands behind it, so that neither neighbour extends the word.  The search from left
to right finds the token just in these lines (`hasToken_iff`).
-/

namespace SqlxDryRun.ConfigBlock

open SqlxDryRun.Text

/-- A line holds the token as a word of its own. -/
def HoldsToken (line : List Char) : Prop :=
  ∃ before after, line = before ++ token ++ after ∧ isBoundary before.getLast? = true ∧
    isBoundary after.head? = true

theorem startsWithToken_iff (text : List Char) :
    startsWithToken text = true ↔
      ∃ after, text = token ++ after ∧ isBoundary after.head? = true := by
  rw [startsWithToken]
  cases hrest : afterPrefix? token text with
  | none =>
      constructor
      · intro h
        cases h
      · rintro ⟨after, htext, -⟩
        rw [afterPrefix?_eq_some_iff.2 htext] at hrest
        cases hrest
  | some rest =>
      have htext : text = token ++ rest := afterPrefix?_eq_some_iff.1 hrest
      constructor
      · intro h
        exact ⟨rest, htext, h⟩
      · rintro ⟨after, hafter, h⟩
        rwa [List.append_cancel_left (htext.symm.trans hafter)]

/-- The token in a text that follows a character: what stands before the token begins behind that
character. -/
theorem hasTokenAfter_iff (neighbour : Option Char) (text : List Char) :
    hasTokenAfter neighbour text = true ↔
      ∃ before after, text = before ++ token ++ after ∧
        isBoundary (before.getLast?.or neighbour) = true ∧ isBoundary after.head? = true := by
  induction text generalizing neighbour with
  | nil =>
      constructor
      · intro h
        cases h
      · rintro ⟨before, after, htext, -⟩
        simp [token] at htext
  | cons c rest ih =>
      rw [hasTokenAfter, Bool.or_eq_true, Bool.and_eq_true, startsWithToken_iff, ih]
      constructor
      · rintro (⟨hbefore, after, htext, hafter⟩ | ⟨before, after, rfl, hbefore, hafter⟩)
        · exact ⟨[], after, htext, hbefore, hafter⟩
        · refine ⟨c :: before, after, rfl, ?_, hafter⟩
          rwa [List.getLast?_cons, Option.some_or, ← Option.or_some]
      · rintro ⟨before, after, htext, hbefore, hafter⟩
        cases before with
        | nil => exact Or.inl ⟨hbefore, after, htext, hafter⟩
        | cons b bs =>
            obtain ⟨rfl, rfl⟩ := List.cons.inj htext
            refine Or.inr ⟨bs, after, rfl, ?_, hafter⟩
            rwa [List.getLast?_cons, Option.some_or, ← Option.or_some] at hbefore

/-- **The search finds the token just where it is a word of its own.** -/
theorem hasToken_iff (line : List Char) : hasToken line = true ↔ HoldsToken line := by
  rw [hasToken, hasTokenAfter_iff]
  simp only [Option.or_none, HoldsToken]

instance (line : List Char) : Decidable (HoldsToken line) :=
  decidable_of_iff _ (hasToken_iff line)

theorem hasToken_eq_decide (line : List Char) : hasToken line = decide (HoldsToken line) :=
  Bool.eq_iff_iff.2 ((hasToken_iff line).trans decide_eq_true_iff.symm)

end SqlxDryRun.ConfigBlock
