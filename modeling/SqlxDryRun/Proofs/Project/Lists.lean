import Mathlib.Data.Finset.Insert
import SqlxDryRun.Project.Lookup

/-!
# Lists with each entry once

What an editor offers is gathered from two parts of a project, entry by entry, and an entry that was
seen before is left out, also across the parts.  `ListsOnce` says of the result that it holds just
the entries gathered, each once, in the order of their first occurrence, and
`listsOnce_firstOccurrences` that this is what a project offers.

The same lists come of filling one list while a set of what was seen is kept beside it
(`Filling`).  `Filling.Sound` ties the set to the list: every entry preserves it
(`Filling.Sound.push`), and so the list has grown by the entries that it lacked
(`Filling.Sound.out_pushAll`).
-/

namespace SqlxDryRun.Project

/-! ## First occurrences -/

/-- A list holds the entries of another one, each once, in the order of their first occurrence. -/
structure ListsOnce (out all : List String) : Prop where
  nodup : out.Nodup
  mem_iff : ∀ s, s ∈ out ↔ s ∈ all
  ordered : out.Pairwise fun s t => all.idxOf s < all.idxOf t

/-- What is left are the entries that were not seen before, without the repetitions among them. -/
theorem firstOccurrences_eq_eraseDups (seen l : List String) :
    firstOccurrences seen l = (l.filter fun s => !seen.contains s).eraseDups := by
  induction l generalizing seen with
  | nil => rfl
  | cons a l ih =>
      rw [firstOccurrences]
      split
      · rename_i ha
        rw [ih, List.filter_cons_of_neg (by rw [ha]; decide)]
      · rename_i ha
        rw [ih, List.filter_cons_of_pos (by rw [Bool.eq_false_of_not_eq_true ha]; rfl),
          List.eraseDups_cons, List.filter_filter]
        congr 2
        refine List.filter_congr fun s _ => ?_
        rw [List.contains_cons, Bool.not_or]

theorem mem_firstOccurrences {seen l : List String} {s : String} :
    s ∈ firstOccurrences seen l ↔ s ∈ l ∧ s ∉ seen := by
  rw [firstOccurrences_eq_eraseDups, List.mem_eraseDups, List.mem_filter, Bool.not_eq_true',
    ← Bool.not_eq_true, List.contains_iff_mem]

theorem nodup_firstOccurrences (seen l : List String) : (firstOccurrences seen l).Nodup := by
  induction l generalizing seen with
  | nil => exact List.nodup_nil
  | cons a l ih =>
      rw [firstOccurrences]
      split
      · exact ih seen
      · refine List.nodup_cons.2 ⟨fun hmem => ?_, ih (a :: seen)⟩
        exact (mem_firstOccurrences.1 hmem).2 List.mem_cons_self

/-- Entries stand in the order of their first occurrence. -/
theorem pairwise_firstOccurrences (seen l : List String) :
    (firstOccurrences seen l).Pairwise fun s t => l.idxOf s < l.idxOf t := by
  induction l generalizing seen with
  | nil => exact List.Pairwise.nil
  | cons a l ih =>
      have hshift {seen' : List String} (ha : a ∈ seen') :
          (firstOccurrences seen' l).Pairwise
            fun s t => (a :: l).idxOf s < (a :: l).idxOf t := by
        refine (ih seen').imp_of_mem fun {s t} hs ht hlt => ?_
        have hsa : a ≠ s := fun h => (mem_firstOccurrences.1 hs).2 (h ▸ ha)
        have hta : a ≠ t := fun h => (mem_firstOccurrences.1 ht).2 (h ▸ ha)
        rw [List.idxOf_cons_ne l hsa, List.idxOf_cons_ne l hta]
        exact Nat.succ_lt_succ hlt
      rw [firstOccurrences]
      split
      · rename_i ha
        exact hshift (List.contains_iff_mem.1 ha)
      · refine List.pairwise_cons.2 ⟨fun t ht => ?_, hshift List.mem_cons_self⟩
        have hta : a ≠ t := fun h => (mem_firstOccurrences.1 ht).2 (h ▸ List.mem_cons_self)
        rw [List.idxOf_cons_self, List.idxOf_cons_ne l hta]
        exact Nat.succ_pos _

theorem listsOnce_firstOccurrences (l : List String) : ListsOnce (firstOccurrences [] l) l where
  nodup := nodup_firstOccurrences [] l
  mem_iff s := by
    rw [mem_firstOccurrences]
    exact and_iff_left List.not_mem_nil
  ordered := pairwise_firstOccurrences [] l

/-- Only which entries were seen counts. -/
theorem firstOccurrences_congr {seen seen' : List String} (h : ∀ s, s ∈ seen ↔ s ∈ seen')
    (l : List String) : firstOccurrences seen l = firstOccurrences seen' l := by
  have hsame : (fun s => !seen.contains s) = fun s => !seen'.contains s := by
    funext s
    rw [Bool.eq_iff_iff, Bool.not_eq_true', Bool.not_eq_true', ← Bool.not_eq_true,
      ← Bool.not_eq_true, List.contains_iff_mem, List.contains_iff_mem, h]
  rw [firstOccurrences_eq_eraseDups, firstOccurrences_eq_eraseDups, hsame]

/-! ## Filling a list -/

/-- A list that is being filled, and the set of the entries that were seen. -/
structure Filling where
  seen : Finset String
  out : List String

namespace Filling

/-- Nothing was seen yet. -/
def empty : Filling := ⟨∅, []⟩

/-- Puts an entry at the end of the list, unless it was seen. -/
def push (f : Filling) (s : String) : Filling :=
  if s ∈ f.seen then f else ⟨insert s f.seen, f.out ++ [s]⟩

/-- Puts entries at the end of the list one by one. -/
def pushAll (f : Filling) (items : List String) : Filling :=
  items.foldl push f

/-- The set holds just what the list holds. -/
def Sound (f : Filling) : Prop :=
  ∀ s, s ∈ f.seen ↔ s ∈ f.out

theorem sound_empty : empty.Sound := by
  intro s
  simp [empty]

theorem Sound.push {f : Filling} (h : f.Sound) (s : String) : (f.push s).Sound := by
  rw [Filling.push]
  split
  · exact h
  · intro t
    rw [Finset.mem_insert, List.mem_append, List.mem_singleton, h t]
    exact or_comm

/-- **The list has grown by the entries that it lacked.** -/
theorem Sound.out_pushAll {f : Filling} (h : f.Sound) (items : List String) :
    (f.pushAll items).out = f.out ++ firstOccurrences f.out items := by
  induction items generalizing f with
  | nil => exact (List.append_nil f.out).symm
  | cons s items ih =>
      have hnext : (f.pushAll (s :: items)).out =
          (f.push s).out ++ firstOccurrences (f.push s).out items := ih (h.push s)
      rw [hnext, Filling.push, firstOccurrences]
      by_cases hs : s ∈ f.seen
      · rw [if_pos hs, if_pos (List.contains_iff_mem.2 ((h s).1 hs))]
      · have hlack : ¬f.out.contains s = true :=
          fun hmem => hs ((h s).2 (List.contains_iff_mem.1 hmem))
        have hsame : ∀ t, t ∈ f.out ++ [s] ↔ t ∈ s :: f.out := by
          intro t
          rw [List.mem_append, List.mem_singleton, List.mem_cons]
          exact or_comm
        rw [if_neg hs, if_neg hlack, List.append_assoc, List.singleton_append,
          firstOccurrences_congr hsame]

theorem out_pushAll_empty (items : List String) :
    (empty.pushAll items).out = firstOccurrences [] items := by
  rw [sound_empty.out_pushAll]
  rfl

theorem pushAll_append (f : Filling) (items more : List String) :
    f.pushAll (items ++ more) = (f.pushAll items).pushAll more :=
  List.foldl_append

/-- Entries that come in several parts may come in one. -/
theorem foldl_pushAll {α : Type} (items : α → List String) (parts : List α) (f : Filling) :
    parts.foldl (fun f part => f.pushAll (items part)) f = f.pushAll (parts.flatMap items) := by
  rw [pushAll, List.foldl_flatMap]
  rfl

end Filling

/-! ## What a project offers -/

/-- The tags, gathered table by table and then assertion by assertion. -/
def fillTags (p : Project) : Filling :=
  p.assertions.foldl (fun f a => f.pushAll a.tags)
    (p.tables.foldl (fun f t => f.pushAll t.tags) .empty)

/-- The names, gathered from the targets and then from the declarations. -/
def fillDependencies (p : Project) : Filling :=
  (Filling.empty.pushAll (p.targets.map Target.name)).pushAll
    (p.declarations.map fun d => d.target.name)

theorem out_fillTags (p : Project) : p.fillTags.out = p.tags := by
  rw [fillTags, Filling.foldl_pushAll, Filling.foldl_pushAll, ← Filling.pushAll_append,
    Filling.out_pushAll_empty, tags]

theorem out_fillDependencies (p : Project) : p.fillDependencies.out = p.dependencies := by
  rw [fillDependencies, ← Filling.pushAll_append, Filling.out_pushAll_empty, dependencies]

theorem eraseDups_eq (l : List String) : firstOccurrences [] l = l.eraseDups := by
  rw [firstOccurrences_eq_eraseDups, List.filter_eq_self.2 (by simp)]

/-- **A project offers each entry once, in the order of its first occurrence**: the tags of all
tables and then of all assertions, and the names of all targets and then of all declarations, without
the repetitions.  One list that is filled with the entries as they come, beside one set of what was
seen, comes to the same. -/
theorem offers_each_once (p : Project) :
    (p.tags = (p.tables.flatMap Table.tags ++ p.assertions.flatMap Assertion.tags).eraseDups ∧
      ListsOnce p.tags (p.tables.flatMap Table.tags ++ p.assertions.flatMap Assertion.tags) ∧
      p.tags = p.fillTags.out) ∧
    p.dependencies = (p.targets.map Target.name ++
        p.declarations.map fun d => d.target.name).eraseDups ∧
      ListsOnce p.dependencies (p.targets.map Target.name ++
        p.declarations.map fun d => d.target.name) ∧
      p.dependencies = p.fillDependencies.out :=
  ⟨⟨eraseDups_eq _, listsOnce_firstOccurrences _, p.out_fillTags.symm⟩,
    eraseDups_eq _, listsOnce_firstOccurrences _, p.out_fillDependencies.symm⟩

end SqlxDryRun.Project
