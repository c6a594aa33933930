import SqlxDryRun.Surface

/-!
# What a surface shows

Only publishing changes what a surface shows, and only for the path that is named; a notice and a
saved document change nothing of it.  An editor is the one surface that does not show diagnostics
for every path: `Surface.Serves` tells which ones it does.
-/

namespace SqlxDryRun.Surface

/-- A surface shows diagnostics for a path: an editor does for absolute paths, and the other
surfaces do for all. -/
def Serves (s : Surface) (p : Path) : Prop :=
  s.kind = .editor → p.absolute = true

/-- A recorder and a terminal show diagnostics for every path. -/
theorem serves_of_ne_editor {s : Surface} (h : s.kind ≠ .editor) (p : Path) : s.Serves p :=
  fun he => absurd he h

theorem Serves.of_kind {s s' : Surface} {p : Path} (h : s.Serves p) (hk : s'.kind = s.kind) :
    s'.Serves p := by
  rw [Serves, hk]
  exact h

/-- The same diagnostics are shown for all paths that are the same. -/
theorem shownFor_congr (s : Surface) {p q : Path} (h : q.key = p.key) :
    s.shownFor q = s.shownFor p := by
  rw [shownFor, shownFor, s.shown.get?_congr h]

theorem kind_publish (s : Surface) (p : Path) (ds : List Diagnostic) :
    (s.publish p ds).kind = s.kind := by
  unfold publish
  split <;> rfl

/-- What is published for a path is shown for it. -/
theorem shownFor_publish {s : Surface} {p : Path} (h : s.Serves p) (ds : List Diagnostic) :
    (s.publish p ds).shownFor p = ds := by
  have hshow : (s.kind == .editor && !p.absolute) = false := by
    by_cases hk : s.kind = .editor
    · rw [h hk]
      exact Bool.and_false _
    · rw [beq_eq_false_iff_ne.2 hk]
      rfl
  rw [publish, hshow]
  show ((s.shown.insert p ds).get? p).getD [] = ds
  rw [PathMap.get?_insert, if_pos rfl, Option.getD_some]

/-- Nothing else is shown for the other paths. -/
theorem shownFor_publish_of_ne (s : Surface) {p q : Path} (h : q.key ≠ p.key)
    (ds : List Diagnostic) : (s.publish p ds).shownFor q = s.shownFor q := by
  unfold publish
  split
  · rfl
  · show ((s.shown.insert p ds).get? q).getD [] = _
    rw [PathMap.get?_insert, if_neg h]
    rfl

/-- Saving leaves a surface as it is, but for the record that a recorder makes of it. -/
theorem save_fst (s : Surface) (disk : Disk) (p : Path) :
    (s.save disk p).1 = s ∨ (s.save disk p).1 = s.note (.saved p) := by
  unfold save
  cases s.kind with
  | recorder => exact Or.inr rfl
  | terminal => exact Or.inl rfl
  | editor =>
      dsimp only
      cases s.buffers.get? p with
      | none => exact Or.inl rfl
      | some text =>
          dsimp only
          cases disk.readText p with
          | error e => exact Or.inl rfl
          | ok saved => dsimp only; split <;> exact Or.inl rfl

theorem shownFor_save (s : Surface) (disk : Disk) (p q : Path) :
    (s.save disk p).1.shownFor q = s.shownFor q := by
  rcases save_fst s disk p with h | h <;> rw [h]
  rfl

theorem kind_save (s : Surface) (disk : Disk) (p : Path) :
    (s.save disk p).1.kind = s.kind := by
  rcases save_fst s disk p with h | h <;> rw [h]
  rfl

end SqlxDryRun.Surface
