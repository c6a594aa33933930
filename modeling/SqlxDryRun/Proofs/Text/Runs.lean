import Mathlib.Data.List.TakeWhile

/-!
# Runs of characters

A run is what stands at the head of a list up to the first element that does not belong to a class.
Where a run ends is known from the element behind it (`takeWhile_append_of_stop`), and a run with the
mark that ends it can be read off the list (`run_and_mark_iff`).
-/

namespace SqlxDryRun.Text

variable {α : Type} {p : α → Bool} {run rest : List α}

/-- A run ends where an element begins that does not belong to it. -/
theorem takeWhile_append_of_stop (hrun : ∀ a ∈ run, p a = true)
    (hrest : ∀ a ∈ rest.head?, p a = false) : (run ++ rest).takeWhile p = run := by
  rw [List.takeWhile_append_of_pos hrun]
  cases rest with
  | nil => exact List.append_nil run
  | cons a rest =>
      rw [List.takeWhile_cons_of_neg (by simp [hrest a rfl]), List.append_nil]

/-- What follows a run is left of the list. -/
theorem dropWhile_append_of_stop (hrun : ∀ a ∈ run, p a = true)
    (hrest : ∀ a ∈ rest.head?, p a = false) : (run ++ rest).dropWhile p = rest := by
  rw [List.dropWhile_append_of_pos hrun]
  cases rest with
  | nil => rfl
  | cons a rest => exact List.dropWhile_cons_of_neg (by simp [hrest a rfl])

/-- A run stops at an element that does not belong to it. -/
theorem head?_dropWhile_stops (p : α → Bool) (l : List α) :
    ∀ a ∈ (l.dropWhile p).head?, p a = false := by
  intro a ha
  have hstop := List.head?_dropWhile_not p l
  rw [Option.mem_def.1 ha] at hstop
  simpa using hstop

/-- Every list is a run and the rest behind it. -/
theorem exists_run (p : α → Bool) (l : List α) :
    ∃ run rest, l = run ++ rest ∧ l.takeWhile p = run ∧ (∀ a ∈ run, p a = true) ∧
      ∀ a ∈ rest.head?, p a = false := by
  refine ⟨l.takeWhile p, l.dropWhile p, List.takeWhile_append_dropWhile.symm, rfl, ?_,
    head?_dropWhile_stops p l⟩
  intro a ha
  exact List.mem_takeWhile_imp ha

/-- A run and the mark behind it, which does not belong to the run, are the head of the list. -/
theorem run_and_mark_iff {mark : α} (hmark : p mark = false) {l : List α} :
    (l.takeWhile p = run ∧ l.dropWhile p = mark :: rest) ↔
      l = run ++ mark :: rest ∧ ∀ a ∈ run, p a = true := by
  constructor
  · rintro ⟨htake, hdrop⟩
    refine ⟨?_, ?_⟩
    · rw [← htake, ← hdrop, List.takeWhile_append_dropWhile]
    · intro a ha
      rw [← htake] at ha
      exact List.mem_takeWhile_imp ha
  · rintro ⟨rfl, hrun⟩
    have hstop : ∀ a ∈ (mark :: rest).head?, p a = false := by
      intro a ha
      rwa [← Option.some.inj ha]
    exact ⟨takeWhile_append_of_stop hrun hstop, dropWhile_append_of_stop hrun hstop⟩

end SqlxDryRun.Text
