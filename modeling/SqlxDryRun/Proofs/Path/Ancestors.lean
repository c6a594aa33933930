import Mathlib.Data.List.DropRight
import SqlxDryRun.Proofs.Project.Lookup

/-!
# Written ancestors and places

The ancestors of a path are read off its written form: each one lacks the last name of the one
before it, be it `..` or any other.  Where a path leads is another matter, since `..` leads to the
directory above.

* `place`: where an absolute path leads in a tree without links.
* `exists_ancestor`, `names_of_mem_ancestors` and `pairwise_ancestors`: the ancestors of an absolute
  path are the paths whose names are the first names of the path, the longest ones first.
* `child_size_le`: a file in an ancestor has a shorter written path than one in the path itself.
-/

namespace SqlxDryRun.Path

/-! ## Places -/

/-- The place that a segment leads to. -/
def step (place : List String) (segment : String) : List String :=
  if segment == ".." then place.dropLast
  else if isIdle segment then place
  else place ++ [segment]

/-- The place that segments lead to. -/
def resolve (place segments : List String) : List String :=
  segments.foldl step place

/-- The place that an absolute path leads to. -/
def place (p : Path) : List String :=
  resolve [] p.segments

theorem step_idle (place : List String) {segment : String} (h : isIdle segment = true) :
    step place segment = place := by
  have hup : (segment == "..") = false := by
    rw [beq_eq_false_iff_ne]
    rintro rfl
    exact absurd h (by decide)
  rw [step, hup, h]
  rfl

theorem step_name (place : List String) {segment : String} (hup : segment ≠ "..")
    (hidle : isIdle segment = false) : step place segment = place ++ [segment] := by
  rw [step, beq_eq_false_iff_ne.2 hup, hidle]
  rfl

@[simp] theorem resolve_nil (place : List String) : resolve place [] = place :=
  rfl

@[simp] theorem resolve_cons (place : List String) (segment : String) (rest : List String) :
    resolve place (segment :: rest) = resolve (step place segment) rest :=
  rfl

theorem resolve_filter (place segments : List String) :
    resolve place (segments.filter fun s => !isIdle s) = resolve place segments := by
  induction segments generalizing place with
  | nil => rfl
  | cons segment rest ih =>
      cases hidle : isIdle segment with
      | true => rw [List.filter_cons_of_neg (by simp [hidle]), ih, resolve_cons, step_idle _ hidle]
      | false => rw [List.filter_cons_of_pos (by simp [hidle]), resolve_cons, resolve_cons, ih]

theorem place_eq (p : Path) : p.place = resolve [] p.plainNames :=
  (resolve_filter [] p.segments).symm

/-- Segments without `..` lead to a place below. -/
theorem resolve_eq_append {place segments : List String} (h : ".." ∉ segments)
    (hidle : ∀ s ∈ segments, isIdle s = false) : resolve place segments = place ++ segments := by
  induction segments generalizing place with
  | nil => exact (List.append_nil place).symm
  | cons segment rest ih =>
      rw [List.mem_cons, not_or] at h
      rw [List.forall_mem_cons] at hidle
      rw [resolve_cons, step_name place (Ne.symm h.1) hidle.1, ih h.2 hidle.2, List.append_assoc,
        List.singleton_append]

theorem place_of_up_not_mem {p : Path} (h : ".." ∉ p.plainNames) : p.place = p.plainNames := by
  rw [place_eq, resolve_eq_append h fun _ hs => isIdle_of_mem_plainNames hs, List.nil_append]

theorem absolute_join {p : Path} (hp : p.absolute = true) (q : Path) :
    (p.join q).absolute = true := by
  rw [join]
  split
  · rename_i hq
    exact hq
  · split <;> exact hp

/-! ## Parents -/

theorem trimEnd_eq (segments : List String) : trimEnd segments = segments.rdropWhile isIdle :=
  rfl

theorem trimEnd_isPrefix (segments : List String) : trimEnd segments <+: segments :=
  List.rdropWhile_prefix _ _

theorem filter_trimEnd (segments : List String) :
    (trimEnd segments).filter (fun s => !isIdle s) = segments.filter fun s => !isIdle s := by
  rw [trimEnd_eq]
  induction segments using List.reverseRecOn with
  | nil => rfl
  | append_singleton segments segment ih =>
      cases hidle : isIdle segment with
      | true =>
          rw [List.rdropWhile_concat_pos _ _ _ hidle, ih, List.filter_append,
            List.filter_cons_of_neg (by simp [hidle]), List.filter_nil, List.append_nil]
      | false => rw [List.rdropWhile_concat_neg _ _ _ (by simp [hidle])]

/-- What is left ends in a name. -/
theorem trimEnd_eq_concat {segments kept : List String} {last : String}
    (h : trimEnd segments = kept ++ [last]) : isIdle last = false := by
  have hne : segments.rdropWhile isIdle ≠ [] := by
    rw [← trimEnd_eq, h]
    exact List.concat_ne_nil last kept
  have hlast := List.rdropWhile_last_not isIdle segments hne
  simp only [← trimEnd_eq, h, List.getLast_append_singleton, Bool.not_eq_true] at hlast
  exact hlast

theorem plainNames_ofSegments (absolute : Bool) (segments : List String) :
    (ofSegments absolute segments).plainNames = segments.filter fun s => !isIdle s := by
  cases segments <;> rfl

theorem absolute_ofSegments (absolute : Bool) (segments : List String) :
    (ofSegments absolute segments).absolute = absolute := by
  cases segments <;> rfl

theorem ofSegments_of_ne_nil (absolute : Bool) {segments : List String} (h : segments ≠ []) :
    ofSegments absolute segments = ⟨absolute, segments⟩ := by
  cases segments with
  | nil => exact absurd rfl h
  | cons segment rest => rfl

/-- The parent of an absolute path, if it has names. -/
theorem parent?_of_absolute {p : Path} (h : p.absolute = true) :
    (p.plainNames = [] ∧ p.parent? = none) ∨
      ∃ kept last, trimEnd p.segments = kept ++ [last] ∧
        p.parent? = some (ofSegments true (trimEnd kept)) := by
  obtain ⟨absolute, segments⟩ := p
  obtain rfl : absolute = true := h
  cases hkept : trimEnd segments using List.reverseRecOn with
  | nil =>
      refine Or.inl ⟨?_, ?_⟩
      · rw [plainNames, ← filter_trimEnd, hkept, List.filter_nil]
      · simp only [parent?, hkept]
  | append_singleton kept last =>
      refine Or.inr ⟨kept, last, rfl, ?_⟩
      obtain ⟨first, rest, hcons⟩ := List.exists_cons_of_ne_nil (List.concat_ne_nil last kept)
      simp only [parent?, hkept, hcons]
      rw [← hcons, List.dropLast_concat]

theorem plainNames_parent? {p q : Path} (hp : p.absolute = true) (h : p.parent? = some q) :
    q.absolute = true ∧ q.plainNames = p.plainNames.dropLast := by
  rcases parent?_of_absolute hp with ⟨-, hnone⟩ | ⟨kept, last, hkept, hsome⟩
  · rw [hnone] at h
    cases h
  · obtain rfl := Option.some.inj (hsome.symm.trans h)
    refine ⟨absolute_ofSegments _ _, ?_⟩
    rw [plainNames_ofSegments, filter_trimEnd, plainNames, ← filter_trimEnd p.segments, hkept,
      List.filter_append, List.filter_cons_of_pos (by simp [trimEnd_eq_concat hkept]),
      List.filter_nil, List.dropLast_concat]

theorem plainNames_eq_nil_of_parent? {p : Path} (hp : p.absolute = true)
    (h : p.parent? = none) : p.plainNames = [] := by
  rcases parent?_of_absolute hp with ⟨hnil, -⟩ | ⟨kept, last, -, hsome⟩
  · exact hnil
  · rw [hsome] at h
    cases h

/-! ## Ancestors -/

theorem names_of_mem_ancestorsWithin {fuel : Nat} {p q : Path} (hp : p.absolute = true)
    (h : q ∈ ancestorsWithin fuel p) :
    q.absolute = true ∧ q.plainNames <+: p.plainNames := by
  induction fuel generalizing p with
  | zero =>
      obtain rfl := List.mem_singleton.1 h
      exact ⟨hp, List.prefix_refl _⟩
  | succ fuel ih =>
      rw [ancestorsWithin] at h
      split at h
      · obtain rfl := List.mem_singleton.1 h
        exact ⟨hp, List.prefix_refl _⟩
      · rename_i parent hparent
        obtain ⟨habsolute, hnames⟩ := plainNames_parent? hp hparent
        rcases List.mem_cons.1 h with rfl | h
        · exact ⟨hp, List.prefix_refl _⟩
        · obtain ⟨hq, hbegins⟩ := ih habsolute h
          rw [hnames] at hbegins
          exact ⟨hq, hbegins.trans (List.dropLast_prefix _)⟩

theorem pairwise_ancestorsWithin (fuel : Nat) {p : Path} (hp : p.absolute = true) :
    (ancestorsWithin fuel p).Pairwise fun inner outer => outer.plainNames <+: inner.plainNames := by
  induction fuel generalizing p with
  | zero => exact List.pairwise_singleton _ p
  | succ fuel ih =>
      rw [ancestorsWithin]
      split
      · exact List.pairwise_singleton _ p
      · rename_i parent hparent
        obtain ⟨habsolute, hnames⟩ := plainNames_parent? hp hparent
        refine List.pairwise_cons.2 ⟨fun q hq => ?_, ih habsolute⟩
        have hbegins := (names_of_mem_ancestorsWithin habsolute hq).2
        rw [hnames] at hbegins
        exact hbegins.trans (List.dropLast_prefix _)

theorem exists_ancestorWithin {fuel : Nat} {p : Path} {names : List String}
    (hp : p.absolute = true) (hfuel : p.plainNames.length ≤ fuel) (h : names <+: p.plainNames) :
    ∃ q ∈ ancestorsWithin fuel p, q.plainNames = names := by
  induction fuel generalizing p with
  | zero =>
      have hnil := List.eq_nil_of_length_eq_zero (Nat.le_zero.1 hfuel)
      rw [hnil, List.prefix_nil] at h
      exact ⟨p, List.mem_singleton_self p, by rw [hnil, h]⟩
  | succ fuel ih =>
      rw [ancestorsWithin]
      split
      · rename_i hnone
        have hnil := plainNames_eq_nil_of_parent? hp hnone
        rw [hnil, List.prefix_nil] at h
        exact ⟨p, List.mem_singleton_self p, by rw [hnil, h]⟩
      · rename_i parent hparent
        obtain ⟨habsolute, hnames⟩ := plainNames_parent? hp hparent
        by_cases hall : names = p.plainNames
        · exact ⟨p, List.mem_cons_self, hall.symm⟩
        · have hbegins : names <+: parent.plainNames := by
            rw [hnames]
            refine List.prefix_of_prefix_length_le h (List.dropLast_prefix _) ?_
            have hle := h.length_le
            have hne : names.length ≠ p.plainNames.length := fun heq => hall (h.eq_of_length heq)
            rw [List.length_dropLast]
            omega
          have hlength : parent.plainNames.length ≤ fuel := by
            rw [hnames, List.length_dropLast]
            omega
          obtain ⟨q, hq, hqnames⟩ := ih habsolute hlength hbegins
          exact ⟨q, List.mem_cons_of_mem p hq, hqnames⟩

section Absolute

variable {p : Path} (hp : p.absolute = true)
include hp

theorem names_of_mem_ancestors {q : Path} (h : q ∈ p.ancestors) :
    q.absolute = true ∧ q.plainNames <+: p.plainNames :=
  names_of_mem_ancestorsWithin hp h

/-- **The outer ancestors come later.** -/
theorem pairwise_ancestors :
    p.ancestors.Pairwise fun inner outer => outer.plainNames <+: inner.plainNames :=
  pairwise_ancestorsWithin _ hp

/-- **All first names of a path are those of an ancestor.** -/
theorem exists_ancestor {names : List String} (h : names <+: p.plainNames) :
    ∃ q ∈ p.ancestors, q.plainNames = names :=
  exists_ancestorWithin hp (List.length_filter_le _ _) h

/-- **Without `..`, all ancestors lie at or above the place of the path.** -/
theorem place_prefix_of_up_not_mem (hup : ".." ∉ p.segments) {q : Path} (h : q ∈ p.ancestors) :
    q.place <+: p.place := by
  have hnames := (names_of_mem_ancestors hp h).2
  have hup : ".." ∉ p.plainNames := fun hmem => hup (List.mem_of_mem_filter hmem)
  rw [place_of_up_not_mem hup, place_of_up_not_mem fun hmem => hup (hnames.subset hmem)]
  exact hnames

end Absolute

/-! ## Files in an ancestor -/

/-- The segments behind which the name of a file is put: all of them, but for the empty one behind a
slash at the end. -/
def stem (p : Path) : List String :=
  if p.segments.getLast? = some "" then p.segments.dropLast else p.segments

theorem child_eq (p : Path) {name : String} (h : ofString name = ⟨false, [name]⟩) :
    p.child name = ⟨p.absolute, p.stem ++ [name]⟩ := by
  rw [child, h, join, if_neg Bool.false_ne_true, stem]
  split
  · rename_i hlast
    rw [if_pos hlast]
  · rename_i hlast
    rw [if_neg hlast]

theorem trimEnd_prefix_stem (p : Path) : trimEnd p.segments <+: p.stem := by
  rw [stem]
  split
  · rename_i hlast
    obtain ⟨kept, hkept⟩ := List.getLast?_eq_some_iff.1 hlast
    rw [hkept, List.dropLast_concat, trimEnd_eq, List.rdropWhile_concat_pos _ _ _ rfl]
    exact trimEnd_isPrefix kept
  · exact trimEnd_isPrefix _

theorem filter_stem (p : Path) : (p.stem.filter fun s => !isIdle s) = p.plainNames := by
  rw [stem]
  split
  · rename_i hlast
    obtain ⟨kept, hkept⟩ := List.getLast?_eq_some_iff.1 hlast
    rw [plainNames, hkept, List.dropLast_concat, List.filter_append,
      List.filter_cons_of_neg (by decide), List.filter_nil, List.append_nil]
  · rfl

theorem stem_ofSegments_trimEnd (segments : List String) :
    (ofSegments true (trimEnd segments)).stem = trimEnd segments := by
  cases hkept : trimEnd segments using List.reverseRecOn with
  | nil => rfl
  | append_singleton kept last =>
      have hlast : last ≠ "" := by
        rintro rfl
        exact absurd (trimEnd_eq_concat hkept) (by decide)
      rw [ofSegments_of_ne_nil _ (List.concat_ne_nil last kept), stem, List.getLast?_concat,
        if_neg (by simpa using hlast)]

theorem stem_prefix_of_mem_ancestors {p q : Path} (hp : p.absolute = true)
    (h : q ∈ p.ancestors) : q.stem <+: p.stem := by
  rw [ancestors] at h
  generalize p.segments.length = fuel at h
  induction fuel generalizing p with
  | zero =>
      obtain rfl := List.mem_singleton.1 h
      exact List.prefix_refl _
  | succ fuel ih =>
      rw [ancestorsWithin] at h
      split at h
      · obtain rfl := List.mem_singleton.1 h
        exact List.prefix_refl _
      · rename_i parent hparent
        rcases List.mem_cons.1 h with rfl | h
        · exact List.prefix_refl _
        · refine (ih (plainNames_parent? hp hparent).1 h).trans ?_
          rcases parent?_of_absolute hp with ⟨-, hnone⟩ | ⟨kept, last, hkept, hsome⟩
          · rw [hnone] at hparent
            cases hparent
          · obtain rfl := Option.some.inj (hsome.symm.trans hparent)
            rw [stem_ofSegments_trimEnd]
            have hshort : kept <+: trimEnd p.segments := hkept ▸ List.prefix_append kept [last]
            exact ((trimEnd_isPrefix kept).trans hshort).trans (trimEnd_prefix_stem p)

/-- The number of bytes of segments with a slash behind each. -/
def slashedSize : List String → Nat
  | [] => 0
  | segment :: rest => segment.utf8ByteSize + 1 + slashedSize rest

theorem slashedSize_le {front segments : List String} (h : front <+: segments) :
    slashedSize front ≤ slashedSize segments := by
  obtain ⟨back, rfl⟩ := h
  induction front with
  | nil => exact Nat.zero_le _
  | cons segment front ih => exact Nat.add_le_add_left ih _

theorem utf8ByteSize_intercalate_concat (segments : List String) (name : String) :
    (String.intercalate "/" (segments ++ [name])).utf8ByteSize =
      slashedSize segments + name.utf8ByteSize := by
  induction segments with
  | nil => rw [List.nil_append, String.intercalate_singleton, slashedSize, Nat.zero_add]
  | cons segment rest ih =>
      obtain ⟨first, others, hcons⟩ := List.exists_cons_of_ne_nil (List.concat_ne_nil name rest)
      have hslash : "/".utf8ByteSize = 1 := rfl
      rw [hcons] at ih
      rw [List.cons_append, hcons, String.intercalate_cons_cons, String.utf8ByteSize_append,
        String.utf8ByteSize_append, ih, hslash, slashedSize, ← Nat.add_assoc]

/-- **A file in an ancestor has no longer a written path** than one of that name in the path. -/
theorem child_size_le {p q : Path} (hp : p.absolute = true) (h : q ∈ p.ancestors) {name : String}
    (hname : ofString name = ⟨false, [name]⟩) :
    (q.child name).toString.utf8ByteSize ≤ (p.child name).toString.utf8ByteSize := by
  rw [child_eq q hname, child_eq p hname, toString, toString, hp, (names_of_mem_ancestors hp h).1,
    String.utf8ByteSize_append, String.utf8ByteSize_append, utf8ByteSize_intercalate_concat,
    utf8ByteSize_intercalate_concat]
  have hstem := slashedSize_le (stem_prefix_of_mem_ancestors hp h)
  omega

end SqlxDryRun.Path
