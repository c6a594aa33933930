import SqlxDryRun.Proofs.Project.Lookup
import SqlxDryRun.Proofs.Text.Search

/-!
# The first match

`HasBaseName` says by the text of a compiled file's path when it has a base name, and
`queryFor_eq_first` what a look-up finds in these terms: the first table or assertion of the base
name, whatever else the project holds.
-/

namespace SqlxDryRun

/-- What a text says up to its first dot. -/
def IsStem (stem text : String) : Prop :=
  '.' ∉ stem.toList ∧ (text = stem ∨ ∃ more, text = stem ++ "." ++ more)

theorem isStem_iff {stem text : String} :
    IsStem stem text ↔ String.ofList (text.toList.takeWhile (· != '.')) = stem := by
  have hmore (more : List Char) :
      text.toList = stem.toList ++ '.' :: more ↔ text = stem ++ "." ++ String.ofList more := by
    have hends : (stem ++ "." ++ String.ofList more).toList = stem.toList ++ '.' :: more := by simp
    rw [← hends, String.toList_inj]
  rw [← String.toList_inj, String.toList_ofList, Text.takeWhile_ne_eq_iff, IsStem]
  simp only [String.toList_inj, hmore]
  refine and_congr_right fun _ => or_congr_right ⟨?_, ?_⟩
  · rintro ⟨more, h⟩
    exact ⟨more.toList, by rwa [String.ofList_toList]⟩
  · rintro ⟨more, h⟩
    exact ⟨String.ofList more, h⟩

namespace Project

/-- A compiled file has a base name: that is its last name up to the first dot.  A path without a
last name, such as one that ends in `..`, is taken as a whole. -/
def HasBaseName (fileName base : String) : Prop :=
  IsStem base (((Path.ofString fileName).fileName?).getD fileName)

theorem hasBaseName_iff {fileName base : String} :
    HasBaseName fileName base ↔ baseName fileName = base :=
  isStem_iff

instance (fileName base : String) : Decidable (HasBaseName fileName base) :=
  decidable_of_iff _ hasBaseName_iff.symm

/-- A file whose last name is that of a document has its logical name for its base name. -/
theorem hasBaseName_of_logicalName? {fileName name : String} {file : Path}
    (hname : logicalName? file = some name)
    (hlast : (Path.ofString fileName).fileName? = file.fileName?) : HasBaseName fileName name := by
  obtain ⟨full, hfull, rfl⟩ := logicalName?_eq_some hname
  rw [hasBaseName_iff, baseName, hlast, hfull, Option.getD_some]

/-! ## Look-ups -/

theorem firstNamed?_eq_some_iff {p : Project} {name : String} {a : Action} :
    p.firstNamed? name = some a ↔ ∃ before after, p.actions = before ++ a :: after ∧
      HasBaseName a.fileName name ∧ ∀ b ∈ before, ¬HasBaseName b.fileName name := by
  rw [firstNamed?, List.find?_eq_some_iff_append]
  simp only [hasBaseName_iff, beq_iff_eq, Bool.not_eq_true', beq_eq_false_iff_ne]
  constructor
  · rintro ⟨ha, before, after, hactions, hbefore⟩
    exact ⟨before, after, hactions, ha, hbefore⟩
  · rintro ⟨before, after, hactions, ha, hbefore⟩
    exact ⟨ha, before, after, hactions, hbefore⟩

theorem firstNamed?_eq_none_iff {p : Project} {name : String} :
    p.firstNamed? name = none ↔ ∀ a ∈ p.actions, ¬HasBaseName a.fileName name := by
  rw [firstNamed?, List.find?_eq_none]
  simp only [hasBaseName_iff, beq_iff_eq]

/-- Only what has the base name counts for the first match. -/
theorem firstNamed?_eq_head? (p : Project) (name : String) :
    p.firstNamed? name = (p.actions.filter fun a => HasBaseName a.fileName name).head? := by
  have hsame : (fun a : Action => baseName a.fileName == name) =
      fun a => decide (HasBaseName a.fileName name) := by
    funext a
    rw [Bool.eq_iff_iff, beq_iff_eq, decide_eq_true_iff, hasBaseName_iff]
  rw [List.head?_filter, firstNamed?, hsame]

theorem queryFor_eq (p : Project) (name : String) :
    p.queryFor name =
      ((p.firstNamed? name).map fun a => ⟨a.tags, name, a.query, a.target⟩).getD .notFound := by
  rw [queryFor, firstNamed?]
  cases p.actions.find? fun a => baseName a.fileName == name <;> rfl

/-- A result bears the name that was looked up, so it is told from the result of a look-up that
finds nothing. -/
theorem queryFor_eq_notFound_iff {p : Project} {name : String} (hname : name ≠ "") :
    p.queryFor name = .notFound ↔ p.firstNamed? name = none := by
  rw [queryFor_eq]
  cases p.firstNamed? name with
  | none => exact ⟨fun _ => rfl, fun _ => rfl⟩
  | some a =>
      refine ⟨fun h => absurd (congrArg SourceQuery.fileName h) hname, fun h => nomatch h⟩

/-- **What a look-up finds.**  The result is that of the first table or assertion of the base name,
which are searched in this order, and nothing is found just if there is none.  So the result is the
same in every project whose tables and assertions of the base name are the same in the same order.
Whatever was compiled from a file whose last name is that of a document has its logical name for its
base name. -/
theorem queryFor_eq_first {name : String} (hname : name ≠ "") (p : Project) :
    (∀ before a after, p.actions = before ++ a :: after → HasBaseName a.fileName name →
      (∀ b ∈ before, ¬HasBaseName b.fileName name) →
        p.queryFor name = ⟨a.tags, name, a.query, a.target⟩) ∧
    (p.queryFor name = .notFound ↔ ∀ a ∈ p.actions, ¬HasBaseName a.fileName name) ∧
    (∀ p' : Project,
      (p'.actions.filter fun a => HasBaseName a.fileName name) =
        (p.actions.filter fun a => HasBaseName a.fileName name) →
      p'.queryFor name = p.queryFor name) ∧
    ∀ file, logicalName? file = some name → ∀ a ∈ p.actions,
      (Path.ofString a.fileName).fileName? = file.fileName? → HasBaseName a.fileName name := by
  refine ⟨?_, ?_, ?_, fun file hlogical a _ hlast => hasBaseName_of_logicalName? hlogical hlast⟩
  · intro before a after hactions ha hbefore
    exact queryFor_of_firstNamed (firstNamed?_eq_some_iff.2 ⟨before, after, hactions, ha, hbefore⟩)
  · rw [queryFor_eq_notFound_iff hname, firstNamed?_eq_none_iff]
  · intro p' hsame
    rw [queryFor_eq, queryFor_eq, firstNamed?_eq_head?, firstNamed?_eq_head?, hsame]

/-! ## A sample -/

namespace Sample

/-- A project whose only table was compiled from a file. -/
def compiledFrom (fileName : String) : Project :=
  { (default : Project) with
    tables := [{ (default : Table) with
      target := ⟨"db", "s", "x"⟩, fileName := fileName, query := "select 1" }] }

end Sample

/-- The table of `marts/orders.sqlx` is found for `orders`, and so for the document
`/w/marts/orders.sqlx`. -/
theorem queryFor_eq_first_sample :
    (Sample.compiledFrom "marts/orders.sqlx").queryFor "orders" =
        ⟨[], "orders", "select 1", ⟨"db", "s", "x"⟩⟩ ∧
      logicalName? ⟨true, ["w", "marts", "orders.sqlx"]⟩ = some "orders" ∧
      HasBaseName "marts/orders.sqlx" "orders" := by
  have hname : "orders" ≠ "" := by decide
  obtain ⟨hfirst, -, -, hlast⟩ :=
    queryFor_eq_first hname (Sample.compiledFrom "marts/orders.sqlx")
  have hlogical : logicalName? ⟨true, ["w", "marts", "orders.sqlx"]⟩ = some "orders" := by decide
  have hbase : HasBaseName "marts/orders.sqlx" "orders" :=
    hlast ⟨true, ["w", "marts", "orders.sqlx"]⟩ hlogical _ (List.mem_cons_self ..) (by decide)
  exact ⟨hfirst [] _ [] rfl hbase (fun b hb => nomatch hb), hlogical, hbase⟩

/-- **A path without a last name is taken as a whole.**  The last component of `orders.sqlx/..` is
`..`, which says nothing up to its first dot.  Yet the look-up of `orders` finds the table. -/
theorem whole_path_found :
    (Path.ofString "orders.sqlx/..").names.getLast? = some ".." ∧ ¬IsStem "orders" ".." ∧
      (Sample.compiledFrom "orders.sqlx/..").queryFor "orders" =
        ⟨[], "orders", "select 1", ⟨"db", "s", "x"⟩⟩ ∧
      (Sample.compiledFrom "orders.sqlx/..").queryFor "orders" ≠ .notFound := by
  refine ⟨by decide, ?_, by decide, by decide⟩
  rw [isStem_iff]
  decide

end Project

end SqlxDryRun
