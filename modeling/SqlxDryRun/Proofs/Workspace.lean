import Mathlib.Data.List.Find
import Mathlib.Data.List.Infix
import SqlxDryRun.Proofs.Disk.Ways
import SqlxDryRun.Workspace

/-!
# Which workspace is found

The search for a workspace goes through the written ancestors of a path, and looks into the place
that each one leads to.  The written directories of a path lie at or above its place, but for the
detours: directories that the path leaves again by a `..`.

* `isRoot_iff` and `rootOf?_eq_find?`: a written directory is a root if all written directories down
  to it are there and its place holds a signature file; the innermost one is found.
* `settles_or_strays_of_open` is the induction along the path: from some name on, whatever is found
  lies at or below a given workspace above the file.
* `rootOf?_encloses`: what is found is the nearest workspace at or above the file, or a detour.
-/

namespace SqlxDryRun

namespace Workspace

/-! ## Workspaces -/

/-- Whether a place holds a signature file. -/
def Holds (d : Disk) (place : List String) : Prop :=
  ∃ name ∈ signatureFiles, (d.node? (place ++ [name])).isSome = true

instance (d : Disk) (place : List String) : Decidable (Holds d place) :=
  inferInstanceAs (Decidable (∃ name ∈ signatureFiles, _))

/-- A directory that a path leaves again. -/
structure IsDetour (p q : Path) : Prop where
  mem : q ∈ p.ancestors
  left : ¬q.place <+: p.place

/-- Whether the search can look for signature files: the detours are there, and the written path
leaves room for the name of a file. -/
structure Passable (d : Disk) (p : Path) : Prop where
  detour : ∀ q, IsDetour p q → d.IsDirectory q.place
  short : ∀ name ∈ signatureFiles, (p.child name).toString.utf8ByteSize < Disk.pathLimit

theorem passable_of_forall {d : Disk} {p : Path}
    (hdetour : ∀ q ∈ p.ancestors, ¬q.place <+: p.place → d.IsDirectory q.place)
    (hshort : ∀ name ∈ signatureFiles, (p.child name).toString.utf8ByteSize < Disk.pathLimit) :
    Passable d p :=
  ⟨fun q hq => hdetour q hq.mem hq.left, hshort⟩

/-- The nearest workspace at or above a place. -/
structure IsNearest (d : Disk) (place root : List String) : Prop where
  above : root <+: place
  holds : Holds d root
  nearest : ∀ above, above <+: place → Holds d above → above <+: root

variable {d : Disk}

theorem Holds.isDirectory (hd : d.IsTree) {place : List String} (h : Holds d place) :
    d.IsDirectory place := by
  obtain ⟨name, -, hsome⟩ := h
  exact hd.parent place name hsome

theorem isName_of_mem {name : String} (h : name ∈ signatureFiles) : Disk.IsName name := by
  simp only [signatureFiles, List.mem_cons, List.not_mem_nil, or_false] at h
  rcases h with rfl | rfl <;> exact ⟨by decide, by decide, by decide, by decide⟩

theorem ofString_of_mem {name : String} (h : name ∈ signatureFiles) :
    Path.ofString name = ⟨false, [name]⟩ := by
  simp only [signatureFiles, List.mem_cons, List.not_mem_nil, or_false] at h
  rcases h with rfl | rfl <;> decide

/-- Whether names lead from a place to a workspace. -/
def Found (d : Disk) (place names : List String) : Prop :=
  d.Leads place names ∧ Holds d (Path.resolve place names)

instance (d : Disk) (place names : List String) : Decidable (Found d place names) :=
  inferInstanceAs (Decidable (_ ∧ _))

/-- Whether a signature file is found in a written directory. -/
theorem exists?_child_iff (hd : d.IsTree) {q : Path} (hq : q.absolute = true) {name : String}
    (hname : name ∈ signatureFiles)
    (hshort : (q.child name).toString.utf8ByteSize < Disk.pathLimit) :
    d.exists? (q.child name) = true ↔
      d.Leads [] q.plainNames ∧ (d.node? (q.place ++ [name])).isSome = true := by
  have hchild : q.child name = ⟨true, q.stem ++ [name]⟩ := by
    rw [Path.child_eq q (ofString_of_mem hname), hq]
  have hleads : d.Leads [] q.stem ↔ d.Leads [] q.plainNames := by
    rw [← Disk.leads_filter [] q.stem, Path.filter_stem]
  have hplace : Path.resolve [] q.stem = q.place := by
    rw [← Path.resolve_filter [] q.stem, Path.filter_stem, ← Path.place_eq]
  have hchecked (h : d.Leads [] q.plainNames) : Disk.checkPath (q.child name) = .ok () := by
    refine (Disk.checkPath_eq_ok (by rw [hchild])).2 ⟨?_, hshort⟩
    rw [hchild]
    intro s hs
    rcases List.mem_append.1 hs with hs | hs
    · exact (hleads.2 h).nul_not_mem hd s hs
    · obtain rfl := List.mem_singleton.1 hs
      exact (isName_of_mem hname).nul
  rw [Disk.exists?_iff]
  constructor
  · rintro ⟨place, hlocate, hsome⟩
    obtain ⟨-, hfollow⟩ := (Disk.locate_eq_ok (by rw [hchild])).1 hlocate
    rw [hchild, Disk.follow_concat_eq_ok hd (isName_of_mem hname), hleads, hplace] at hfollow
    obtain ⟨hway, rfl⟩ := hfollow
    exact ⟨hway, hsome⟩
  · rintro ⟨hway, hsome⟩
    refine ⟨_, (Disk.locate_eq_ok (by rw [hchild])).2 ⟨hchecked hway, ?_⟩, hsome⟩
    rw [hchild, Disk.follow_concat_eq_ok hd (isName_of_mem hname), hleads, hplace]
    exact ⟨hway, rfl⟩

/-- **A written directory is a root** exactly if its names lead to a workspace. -/
theorem isRoot_iff (hd : d.IsTree) {q : Path} (hq : q.absolute = true)
    (hshort : ∀ name ∈ signatureFiles,
      (q.child name).toString.utf8ByteSize < Disk.pathLimit) :
    isRoot d q = true ↔ Found d [] q.plainNames := by
  rw [isRoot, List.any_eq_true, Found, Holds, ← Path.place_eq, ← exists_and_left]
  refine exists_congr fun name => ?_
  rw [and_left_comm]
  exact and_congr_right fun hname => exists?_child_iff hd hq hname (hshort name hname)

/-! ## What is found along a path -/

section Along

variable {place names root : List String}

theorem found_cons {segment : String} :
    Found d place (segment :: names) ↔
      d.IsDirectory place ∧ Found d (Path.step place segment) names :=
  and_assoc

/-- From some names on, whatever is found lies at or below a place. -/
def Settles (d : Disk) (place names root : List String) : Prop :=
  ∃ front, front <+: names ∧ Found d place front ∧
    ∀ more, front <+: more → more <+: names → Found d place more →
      root <+: Path.resolve place more

/-- Nothing is found, below a place. -/
def Strays (d : Disk) (place names root : List String) : Prop :=
  (∀ front, front <+: names → ¬Found d place front) ∧ root <+: place ∧ root ≠ place

/-- A step goes up or one place down. -/
theorem prefix_of_step {segment : String} (h : root <+: Path.step place segment)
    (hne : root ≠ Path.step place segment) : root <+: place := by
  rw [Path.step] at h hne
  split at h
  · exact h.trans (List.dropLast_prefix place)
  · rename_i hup
    rw [if_neg hup] at hne
    split at h
    · exact h
    · rename_i hidle
      rw [if_neg hidle] at hne
      exact (List.prefix_concat_iff.1 h).resolve_left hne

/-- Where nothing is found further on, the place itself decides. -/
theorem settles_or_strays (hplace : d.IsDirectory place) (hroot : Holds d root)
    (habove : root <+: place)
    (hnone : ∀ front, front <+: names → Found d place front → front = []) :
    Settles d place names root ∨ Strays d place names root := by
  by_cases hholds : Holds d place
  · refine Or.inl ⟨[], List.nil_prefix, ⟨hplace, hholds⟩, fun more _ hmore hfound => ?_⟩
    rw [hnone more hmore hfound]
    exact habove
  · refine Or.inr ⟨fun front hfront hfound => ?_, habove, ?_⟩
    · obtain rfl := hnone front hfront hfound
      exact hholds hfound.2
    · rintro rfl
      exact hholds hroot

/-- Nothing is found behind a segment that leads below the workspace. -/
theorem settles_or_strays_of_step {segment : String} (hplace : d.IsDirectory place)
    (hroot : Holds d root) (hbelow : root <+: Path.step place segment)
    (hne : root ≠ Path.step place segment)
    (hnone : ∀ front, front <+: names → ¬Found d (Path.step place segment) front) :
    Settles d place (segment :: names) root ∨ Strays d place (segment :: names) root := by
  refine settles_or_strays hplace hroot (prefix_of_step hbelow hne) fun front hfront hfound => ?_
  cases front with
  | nil => rfl
  | cons s front =>
      obtain ⟨rfl, hrest⟩ := List.cons_prefix_cons.1 hfront
      exact absurd (found_cons.1 hfound).2 (hnone front hrest)

theorem Settles.cons {segment : String} (hplace : d.IsDirectory place)
    (h : Settles d (Path.step place segment) names root) :
    Settles d place (segment :: names) root := by
  obtain ⟨front, hfront, hfound, hsettled⟩ := h
  refine ⟨segment :: front, List.cons_prefix_cons.2 ⟨rfl, hfront⟩,
    found_cons.2 ⟨hplace, hfound⟩, fun more hlonger hmore hmoreFound => ?_⟩
  cases more with
  | nil => exact absurd (List.prefix_nil.1 hlonger) (List.cons_ne_nil _ _)
  | cons s more =>
      obtain ⟨rfl, hrest⟩ := List.cons_prefix_cons.1 hmore
      exact hsettled more (List.cons_prefix_cons.1 hlonger).2 hrest (found_cons.1 hmoreFound).2

/-- **What the way to a place finds.**  By induction on the names: once the way is strictly below a
workspace that lies above its end, it has found that workspace on the way down. -/
theorem settles_or_strays_of_open (hd : d.IsTree) (hplace : d.IsDirectory place)
    (hroot : Holds d root) (habove : root <+: Path.resolve place names)
    (hopen : ∀ front, front <+: names →
      ¬Path.resolve place front <+: Path.resolve place names →
      d.IsDirectory (Path.resolve place front)) :
    Settles d place names root ∨ Strays d place names root := by
  induction names generalizing place with
  | nil =>
      exact settles_or_strays hplace hroot habove fun front hfront _ => List.prefix_nil.1 hfront
  | cons segment rest ih =>
      by_cases hstep : d.IsDirectory (Path.step place segment)
      · have hrest := ih hstep habove fun front hfront hoff =>
          hopen (segment :: front) (List.cons_prefix_cons.2 ⟨rfl, hfront⟩) hoff
        rcases hrest with hsettles | ⟨hnone, hbelow, hne⟩
        · exact Or.inl (hsettles.cons hplace)
        · exact settles_or_strays_of_step hplace hroot hbelow hne hnone
      · -- The way ends here, on the way down to the place at its end.
        have hon : Path.step place segment <+: Path.resolve place (segment :: rest) := by
          by_contra hoff
          exact hstep (hopen [segment] (List.cons_prefix_cons.2 ⟨rfl, List.nil_prefix⟩) hoff)
        have hbelow : root <+: Path.step place segment := by
          refine (List.prefix_or_prefix_of_prefix habove hon).resolve_right fun hstepAbove => ?_
          exact hstep (hd.isDirectory_of_prefix (hroot.isDirectory hd) hstepAbove)
        have hne : root ≠ Path.step place segment := by
          rintro rfl
          exact hstep (hroot.isDirectory hd)
        exact settles_or_strays_of_step hplace hroot hbelow hne
          fun front _ hfound => hstep hfound.1.start

end Along

/-! ## The search -/

section Search

variable {p root : Path} (hd : d.IsTree) (hp : p.absolute = true) (h : Passable d p)
include hd hp h

theorem isRoot_iff_of_mem {q : Path} (hq : q ∈ p.ancestors) :
    isRoot d q = true ↔ Found d [] q.plainNames := by
  refine isRoot_iff hd (Path.names_of_mem_ancestors hp hq).1 fun name hname => ?_
  exact (Path.child_size_le hp hq (ofString_of_mem hname)).trans_lt (h.short name hname)

/-- **What the search finds**: the innermost written directory whose names lead to a workspace. -/
theorem rootOf?_eq_find? :
    rootOf? d p = p.ancestors.find? fun q => decide (Found d [] q.plainNames) := by
  refine List.find?_congr fun q hq => Bool.eq_iff_iff.2 ?_
  rw [isRoot_iff_of_mem hd hp h hq, decide_eq_true_iff]

/-- Every workspace at or above the place of a path settles what is found. -/
theorem settles_of_holds {above : List String} (habove : above <+: p.place)
    (hholds : Holds d above) : Settles d [] p.plainNames above := by
  have hopen : ∀ front, front <+: p.plainNames →
      ¬Path.resolve [] front <+: Path.resolve [] p.plainNames →
      d.IsDirectory (Path.resolve [] front) := by
    intro front hfront hoff
    obtain ⟨q, hq, rfl⟩ := Path.exists_ancestor hp hfront
    rw [← Path.place_eq, ← Path.place_eq] at hoff
    rw [← Path.place_eq]
    exact h.detour q ⟨hq, hoff⟩
  rw [Path.place_eq] at habove
  refine (settles_or_strays_of_open hd d.isDirectory_nil hholds habove hopen).resolve_right ?_
  exact fun hstrays => hstrays.2.2 (List.prefix_nil.1 hstrays.2.1)

/-- What is found lies at or below every workspace at or above the place. -/
theorem prefix_of_rootOf? (hroot : rootOf? d p = some root) {above : List String}
    (habove : above <+: p.place) (hholds : Holds d above) : above <+: root.place := by
  obtain ⟨front, hfront, hfound, hsettled⟩ := settles_of_holds hd hp h habove hholds
  obtain ⟨q, hq, rfl⟩ := Path.exists_ancestor hp hfront
  obtain ⟨hisRoot, inner, outer, hancestors, hinner⟩ := List.find?_eq_some_iff_append.1 hroot
  have hmem : root ∈ p.ancestors := List.mem_of_find?_eq_some hroot
  have hlonger : q.plainNames <+: root.plainNames := by
    have hpairwise := Path.pairwise_ancestors hp
    rw [hancestors] at hq hpairwise
    rcases List.mem_append.1 hq with hq | hq
    · have hnot := hinner q hq
      rw [(isRoot_iff_of_mem hd hp h (hancestors ▸ List.mem_append_left _ hq)).2 hfound] at hnot
      cases hnot
    · rcases List.mem_cons.1 hq with rfl | hq
      · exact List.prefix_refl _
      · exact (List.pairwise_cons.1 (List.pairwise_append.1 hpairwise).2.1).1 q hq
  rw [Path.place_eq]
  exact hsettled _ hlonger (Path.names_of_mem_ancestors hp hmem).2
    ((isRoot_iff_of_mem hd hp h hmem).1 hisRoot)

theorem isNearest_or_isDetour (hroot : rootOf? d p = some root) :
    IsNearest d p.place root.place ∨
      IsDetour p root ∧ Holds d root.place ∧ ".." ∈ p.segments := by
  have hmem : root ∈ p.ancestors := List.mem_of_find?_eq_some hroot
  have hholds : Holds d root.place := by
    rw [Path.place_eq]
    exact ((isRoot_iff_of_mem hd hp h hmem).1 (List.find?_some hroot)).2
  by_cases habove : root.place <+: p.place
  · exact Or.inl ⟨habove, hholds, fun _ => prefix_of_rootOf? hd hp h hroot⟩
  · refine Or.inr ⟨⟨hmem, habove⟩, hholds, ?_⟩
    by_contra hup
    exact habove (Path.place_prefix_of_up_not_mem hp hup hmem)

theorem not_holds_of_rootOf?_eq_none (hnone : rootOf? d p = none) {above : List String}
    (habove : above <+: p.place) : ¬Holds d above := by
  intro hholds
  obtain ⟨front, hfront, hfound, -⟩ := settles_of_holds hd hp h habove hholds
  obtain ⟨q, hq, rfl⟩ := Path.exists_ancestor hp hfront
  exact List.find?_eq_none.1 hnone q hq ((isRoot_iff_of_mem hd hp h hq).2 hfound)

end Search

/-- The working directory. -/
def cwd (d : Disk) : Path :=
  ⟨true, d.cwd⟩

/-- **The workspace of a file.**  What is found for a file is the nearest workspace at or above it, or
a workspace that its path enters and leaves again by a `..`; and if nothing is found, there is no
workspace at or above the file. -/
theorem rootOf?_encloses (hd : d.IsTree) (file : Path) (h : Passable d ((cwd d).join file)) :
    match rootOf? d ((cwd d).join file) with
    | some root =>
      IsNearest d ((cwd d).join file).place root.place ∨
        IsDetour ((cwd d).join file) root ∧ Holds d root.place ∧
          ".." ∈ ((cwd d).join file).segments
    | none => ∀ above, above <+: ((cwd d).join file).place → ¬Holds d above := by
  have hp : ((cwd d).join file).absolute = true := Path.absolute_join rfl file
  cases hroot : rootOf? d ((cwd d).join file) with
  | some root => exact isNearest_or_isDetour hd hp h hroot
  | none => exact fun above habove => not_holds_of_rootOf?_eq_none hd hp h hroot habove

/-- A tree with the workspaces `/w/a` and `/w/c`, and a directory `/w/b` in none. -/
def projects : Disk where
  nodes := [(["w"], .directory), (["w", "a"], .directory),
    (["w", "a", "dataform.json"], .file .empty), (["w", "b"], .directory),
    (["w", "c"], .directory), (["w", "c", "dataform.json"], .file .empty)]
  cwd := ["w", "a"]

/-- The file `orders.sqlx` in another directory, named from `/w/a`. -/
def seen (directory : String) : Path :=
  (cwd projects).join ⟨false, ["..", directory, "orders.sqlx"]⟩

theorem isTree_projects : projects.IsTree :=
  Disk.isTree_of_forall (by decide)

theorem passable_seen : Passable projects (seen "b") ∧ Passable projects (seen "c") := by
  constructor
  · exact passable_of_forall (by decide) (by decide)
  · exact passable_of_forall (by decide) (by decide)

/-- From one workspace, a file in another one is found to be in that. -/
theorem rootOf?_encloses_sample :
    rootOf? projects (seen "c") = some ⟨true, ["w", "a", "..", "c"]⟩ ∧
      IsNearest projects (seen "c").place ["w", "c"] := by
  have hroot : rootOf? projects (seen "c") = some ⟨true, ["w", "a", "..", "c"]⟩ := by
    rw [rootOf?_eq_find? isTree_projects rfl passable_seen.2]
    decide
  have hencloses := rootOf?_encloses isTree_projects _ passable_seen.2
  rw [← seen, hroot] at hencloses
  refine ⟨hroot, hencloses.resolve_right fun hdetour => ?_⟩
  exact hdetour.1.left (by decide)

/-- From one workspace, a file in none is found to be in that one. -/
theorem rootOf?_leaves_place :
    rootOf? projects (seen "b") = some ⟨true, ["w", "a"]⟩ ∧
      (seen "b").place = ["w", "b", "orders.sqlx"] ∧
      ¬IsNearest projects (seen "b").place ["w", "a"] ∧
      ∀ above, above <+: (seen "b").place → ¬Holds projects above := by
  have hnone : ∀ above ∈ (seen "b").place.inits, ¬Holds projects above := by
    decide
  refine ⟨?_, by decide, fun h => absurd h.above (by decide), fun above habove => ?_⟩
  · rw [rootOf?_eq_find? isTree_projects rfl passable_seen.1]
    decide
  · exact hnone above ((List.mem_inits _ _).2 habove)

end Workspace

end SqlxDryRun
