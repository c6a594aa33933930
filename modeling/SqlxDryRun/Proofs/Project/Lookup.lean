import Mathlib.Data.List.Basic
import SqlxDryRun.Project.Lookup
import SqlxDryRun.SourceFile

/-!
# What a look-up finds

A compiled file is named by its path relative to the workspace, a document by its own path, and a
look-up reduces both to a base name.  The two reductions agree (`baseName_of_isFrom`), so whatever
was compiled from a document is among what its logical name matches; but the first match decides,
and that may have been compiled from another file of the same base name.

Main definitions:

* `Action.IsFrom`: a table or an assertion was compiled from a file;
* `firstNamed?`: the first table or assertion of a base name.
-/

namespace SqlxDryRun

/-! ## The last name of a path -/

namespace Path

/-- The segments of a path that are more than a dot. -/
def plainNames (p : Path) : List String :=
  p.segments.filter fun s => !isIdle s

theorem isIdle_of_mem_plainNames {p : Path} {name : String} (h : name ∈ p.plainNames) :
    isIdle name = false := by
  simpa using (List.mem_filter.1 h).2

/-- The names of a path, but for the dot at the beginning of a relative one. -/
theorem names_eq (p : Path) : p.names = p.plainNames ∨ p.names = "." :: p.plainNames := by
  rw [names, plainNames]
  split
  · rename_i rest _ hsegments
    refine Or.inr ?_
    rw [hsegments, List.filter_cons_of_neg (by decide)]
  · exact Or.inl rfl

/-- The last name of a path is the last segment that says something, unless that is `..`. -/
theorem fileName?_eq (p : Path) :
    p.fileName? = p.plainNames.getLast?.filter (· != "..") := by
  have hlast : p.fileName? = p.plainNames.getLast?.bind fun name =>
      if name == ".." || name == "." then none else some name := by
    rw [fileName?]
    rcases names_eq p with h | h
    · rw [h]
      cases p.plainNames.getLast? <;> rfl
    · -- The dot counts as the last name only if there is no other, and then it is no file name.
      rw [h]
      cases hnames : p.plainNames with
      | nil => rfl
      | cons name names =>
          rw [List.getLast?_cons_cons]
          cases (name :: names).getLast? <;> rfl
  rw [hlast]
  cases hname : p.plainNames.getLast? with
  | none => rfl
  | some name =>
      have hidle : isIdle name = false :=
        isIdle_of_mem_plainNames (List.mem_of_getLast? hname)
      have hdot : (name == ".") = false := by
        rw [isIdle, Bool.or_eq_false_iff] at hidle
        exact hidle.2
      rw [Option.bind_some, hdot, Bool.or_false, Option.filter_some, bne]
      cases name == ".." <;> rfl

theorem plainNames_join {p q : Path} (hq : q.absolute = false) :
    (p.join q).plainNames = p.plainNames ++ q.plainNames := by
  rw [join, if_neg (by rw [hq]; exact Bool.false_ne_true)]
  split
  · -- A slash at the end leaves an empty segment, which the join drops.
    rename_i hlast
    have hsegments : p.segments = p.segments.dropLast ++ [""] :=
      (List.dropLast_append_getLast? "" hlast).symm
    rw [plainNames, plainNames, plainNames, List.filter_append]
    conv_rhs => rw [hsegments, List.filter_append]
    rw [show [""].filter (fun s => !isIdle s) = [] from by decide, List.append_nil]
  · rw [plainNames, List.filter_append]
    rfl

/-- A path that is followed to a file ends in the name of the file. -/
theorem fileName?_join {p q : Path} (hq : q.absolute = false) (hname : q.fileName?.isSome = true) :
    (p.join q).fileName? = q.fileName? := by
  rw [fileName?_eq] at hname
  have hsome : q.plainNames.getLast?.isSome = true := by
    cases h : q.plainNames.getLast? with
    | none => rw [h] at hname; exact hname
    | some name => rfl
  rw [fileName?_eq, fileName?_eq, plainNames_join hq, List.getLast?_append,
    Option.or_of_isSome hsome]

theorem fileName?_of_same {p q : Path} (h : p.same q = true) : p.fileName? = q.fileName? := by
  have hkey : p.key = q.key := beq_iff_eq.1 h
  have hnames : p.names = q.names := (Prod.mk.inj hkey).2
  rw [fileName?, fileName?, hnames]

end Path

/-! ## Base names -/

/-- The first part of a text is what stands before the first mark. -/
theorem Text.splitAt_head (mark : Char) (text : List Char) :
    ∃ parts, splitAt mark text = text.takeWhile (· != mark) :: parts := by
  induction text with
  | nil => exact ⟨[], rfl⟩
  | cons c rest ih =>
      obtain ⟨parts, hparts⟩ := ih
      by_cases hc : c = mark
      · exact ⟨splitAt mark rest, by rw [splitAt, if_pos hc, List.takeWhile_cons]; simp [hc]⟩
      · exact ⟨parts, by rw [splitAt, if_neg hc, hparts, List.takeWhile_cons]; simp [hc]⟩

/-- The logical name of a document is its file name up to the first dot. -/
theorem logicalName?_eq_some {file : Path} {name : String} (h : logicalName? file = some name) :
    ∃ full, file.fileName? = some full ∧
      name = String.ofList (full.toList.takeWhile (· != '.')) := by
  rw [logicalName?] at h
  cases hfull : file.fileName? with
  | none =>
      rw [hfull] at h
      exact nomatch h
  | some full =>
      obtain ⟨parts, hparts⟩ := Text.splitAt_head '.' full.toList
      rw [hfull, Option.bind_some, stemAndKind?, hparts] at h
      refine ⟨full, rfl, ?_⟩
      cases parts with
      | nil => exact nomatch h
      | cons kind more =>
          dsimp only at h
          split at h
          · exact (Option.some.inj h).symm
          · exact nomatch h

namespace Project

/-- A table or an assertion was compiled from a file: its name is the relative path that leads from
the workspace to the file. -/
def Action.IsFrom (a : Action) (workspace file : Path) : Prop :=
  (Path.ofString a.fileName).absolute = false ∧
    (Path.ofString a.fileName).fileName?.isSome = true ∧
    (workspace.child a.fileName).same file = true

instance (a : Action) (workspace file : Path) : Decidable (a.IsFrom workspace file) :=
  inferInstanceAs (Decidable (_ ∧ _))

/-- **Both reductions agree.**  What was compiled from a document has the logical name of the
document for its base name. -/
theorem baseName_of_isFrom {a : Action} {workspace file : Path} {name : String}
    (h : a.IsFrom workspace file) (hname : logicalName? file = some name) :
    baseName a.fileName = name := by
  obtain ⟨hrelative, hsome, hsame⟩ := h
  obtain ⟨full, hfull, rfl⟩ := logicalName?_eq_some hname
  have hlast : (Path.ofString a.fileName).fileName? = some full := by
    rw [← Path.fileName?_join hrelative hsome, ← hfull]
    exact Path.fileName?_of_same hsame
  rw [baseName, hlast]
  rfl

/-! ## The first match -/

/-- The first table or assertion of a base name. -/
def firstNamed? (p : Project) (name : String) : Option Action :=
  p.actions.find? fun a => baseName a.fileName == name

theorem queryFor_of_firstNamed {p : Project} {name : String} {a : Action}
    (h : p.firstNamed? name = some a) : p.queryFor name = ⟨a.tags, name, a.query, a.target⟩ := by
  rw [firstNamed?] at h
  rw [queryFor, h]

/-- If something was compiled from a document, then the look-up has a match, which stands there or
before. -/
theorem firstNamed?_of_isFrom {p : Project} {before after : List Action} {own : Action}
    {workspace file : Path} {name : String} (hactions : p.actions = before ++ own :: after)
    (hown : own.IsFrom workspace file) (hname : logicalName? file = some name) :
    p.firstNamed? name =
      some ((before.find? fun a => baseName a.fileName == name).getD own) := by
  have hmatch : (baseName own.fileName == name) = true :=
    beq_iff_eq.2 (baseName_of_isFrom hown hname)
  rw [firstNamed?, hactions, List.find?_append, List.find?_cons, hmatch]
  cases before.find? fun a => baseName a.fileName == name <;> rfl

end Project

end SqlxDryRun
