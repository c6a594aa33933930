import SqlxDryRun.Project.Format
import SqlxDryRun.Proofs.Json.Edits
import SqlxDryRun.Proofs.Json.Writing

/-!
# Reading compiled projects of any version

Every compiled project is read from its written form, and from whatever the written form becomes by
edits of its objects at any level, in any spelling (`ofText_of_edits`).

The edits follow the records: `Part` lists the fields of a record that hold other records, and
`Edit` are the edits of its objects.  For each record there are three facts: it is decoded from its
written form, its text is a written form, and its layout is lawful.
-/

namespace SqlxDryRun.Project

open Json (Value Decoder Keeps ListEdit RecordEdit RecordField WritesBack)

/-! ## Edits of the records -/

/-- The edits of a target. -/
def Target.Edit : Value → Value → Prop :=
  RecordEdit (Target.toJson default) fun _ _ _ => False

/-- The edits of the values in a table. -/
inductive Table.Part : String → Value → Value → Prop
  | target {v w} (h : Target.Edit v w) : Table.Part "target" v w
  | dependencyTargets {v w} (h : ListEdit Target.Edit v w) : Table.Part "dependencyTargets" v w

/-- The edits of a table. -/
def Table.Edit : Value → Value → Prop :=
  RecordEdit (Table.toJson default) Table.Part

/-- The edits of the values in a record that has a target and no other records: an assertion, an
operation or a declaration. -/
inductive Target.Part : String → Value → Value → Prop
  | target {v w} (h : Target.Edit v w) : Target.Part "target" v w

/-- The edits of an assertion. -/
def Assertion.Edit : Value → Value → Prop :=
  RecordEdit (Assertion.toJson default) Target.Part

/-- The edits of an operation. -/
def Operation.Edit : Value → Value → Prop :=
  RecordEdit (Operation.toJson default) Target.Part

/-- The edits of a declaration. -/
def Declaration.Edit : Value → Value → Prop :=
  RecordEdit (Declaration.toJson default) Target.Part

/-- The edits of a compilation error. -/
def CompilationError.Edit : Value → Value → Prop :=
  RecordEdit (CompilationError.toJson default) fun _ _ _ => False

/-- The edits of the values in the errors of a project. -/
inductive GraphErrors.Part : String → Value → Value → Prop
  | compilationErrors {v w} (h : ListEdit CompilationError.Edit v w) :
      GraphErrors.Part "compilationErrors" v w

/-- The edits of the errors of a project. -/
def GraphErrors.Edit : Value → Value → Prop :=
  RecordEdit (GraphErrors.toJson default) GraphErrors.Part

/-- The edits of the values in a project. -/
inductive Part : String → Value → Value → Prop
  | tables {v w} (h : ListEdit Table.Edit v w) : Part "tables" v w
  | assertions {v w} (h : ListEdit Assertion.Edit v w) : Part "assertions" v w
  | operations {v w} (h : ListEdit Operation.Edit v w) : Part "operations" v w
  | declarations {v w} (h : ListEdit Declaration.Edit v w) : Part "declarations" v w
  | targets {v w} (h : ListEdit Target.Edit v w) : Part "targets" v w
  | graphErrors {v w} (h : GraphErrors.Edit v w) : Part "graphErrors" v w

/-- The edits of a project. -/
def Edit : Value → Value → Prop :=
  RecordEdit (toJson default) Part

/-! ## Records are decoded from their written forms -/

theorem strings_ofStrings (ss : List String) : Json.list Json.string (.ofStrings ss) = .ok ss :=
  @Json.list_ofItems_map _ Json.string Value.string (fun _ => rfl) ss

theorem optional_ofOption (s : Option String) :
    Json.optional Json.string (.ofOption .string s) = .ok s := by
  cases s <;> rfl

theorem Target.decode_toJson (t : Target) : Target.layout.decode t.toJson = .ok t := rfl

theorem Table.decode_toJson (t : Table) : Table.layout.decode t.toJson = .ok t := by
  have hdep : Json.list Target.layout.decode (.ofItems (t.dependencyTargets.map Target.toJson)) =
      .ok t.dependencyTargets := Json.list_ofItems_map Target.decode_toJson _
  rw [Table.toJson, Json.decode_ofFields]
  refine Json.applyFields_optional rfl (by decide) (Target.decode_toJson t.target) ?_
  refine Json.applyFields_optional rfl (by decide) rfl ?_
  refine Json.applyFields_optional rfl (by decide) rfl ?_
  refine Json.applyFields_optional rfl (by decide) (strings_ofStrings t.tags) ?_
  refine Json.applyFields_optional rfl (by decide) (optional_ofOption t.kind) ?_
  refine Json.applyFields_optional rfl (by decide) (optional_ofOption t.incrementalQuery) ?_
  refine Json.applyFields_optional rfl (by decide) (strings_ofStrings t.preOps) ?_
  refine Json.applyFields_optional rfl (by decide) (strings_ofStrings t.postOps) ?_
  refine Json.applyFields_optional rfl (by decide) hdep ?_
  rfl

theorem Assertion.decode_toJson (a : Assertion) : Assertion.layout.decode a.toJson = .ok a := by
  rw [Assertion.toJson, Json.decode_ofFields]
  refine Json.applyFields_optional rfl (by decide) (Target.decode_toJson a.target) ?_
  refine Json.applyFields_optional rfl (by decide) rfl ?_
  refine Json.applyFields_optional rfl (by decide) rfl ?_
  refine Json.applyFields_optional rfl (by decide) (strings_ofStrings a.tags) ?_
  rfl

theorem Operation.decode_toJson (o : Operation) : Operation.layout.decode o.toJson = .ok o := by
  rw [Operation.toJson, Json.decode_ofFields]
  refine Json.applyFields_optional rfl (by decide) (Target.decode_toJson o.target) ?_
  refine Json.applyFields_optional rfl (by decide) (strings_ofStrings o.queries) ?_
  refine Json.applyFields_optional rfl (by decide) rfl ?_
  refine Json.applyFields_optional rfl (by decide) (strings_ofStrings o.tags) ?_
  rfl

theorem Declaration.decode_toJson (d : Declaration) :
    Declaration.layout.decode d.toJson = .ok d := rfl

theorem CompilationError.decode_toJson (e : CompilationError) :
    CompilationError.layout.decode e.toJson = .ok e := rfl

theorem GraphErrors.decode_toJson (g : GraphErrors) :
    GraphErrors.layout.decode g.toJson = .ok g := by
  rw [GraphErrors.toJson, Json.decode_ofFields]
  refine Json.applyFields_optional rfl (by decide)
    (Json.list_ofItems_map CompilationError.decode_toJson g.compilationErrors) ?_
  rfl

theorem decode_toJson (p : Project) : layout.decode p.toJson = .ok p := by
  rw [toJson, Json.decode_ofFields]
  refine Json.applyFields_optional rfl (by decide)
    (Json.list_ofItems_map Table.decode_toJson p.tables) ?_
  refine Json.applyFields_optional rfl (by decide)
    (Json.list_ofItems_map Assertion.decode_toJson p.assertions) ?_
  refine Json.applyFields_optional rfl (by decide)
    (Json.list_ofItems_map Operation.decode_toJson p.operations) ?_
  refine Json.applyFields_optional rfl (by decide)
    (Json.list_ofItems_map Declaration.decode_toJson p.declarations) ?_
  refine Json.applyFields_optional rfl (by decide)
    (Json.list_ofItems_map Target.decode_toJson p.targets) ?_
  refine Json.applyFields_optional rfl (by decide) (GraphErrors.decode_toJson p.graphErrors) ?_
  rfl

/-! ## The texts of records are written forms -/

/-- The text of an array of records. -/
theorem writesBack_map {α : Type} {write : α → Value} (h : ∀ a, WritesBack (write a))
    (as : List α) : WritesBack (.ofItems (as.map write)) := by
  refine .ofItems fun v hv => ?_
  obtain ⟨a, -, rfl⟩ := List.mem_map.1 hv
  exact h a

theorem Target.writesBack (t : Target) : WritesBack t.toJson := by
  refine .ofFields ?_
  simp only [List.forall_mem_cons]
  exact ⟨.string _, .string _, .string _, List.forall_mem_nil _⟩

theorem Table.writesBack (t : Table) : WritesBack t.toJson := by
  refine .ofFields ?_
  simp only [List.forall_mem_cons]
  exact ⟨t.target.writesBack, .string _, .string _, .ofStrings _, .ofOption .string _,
    .ofOption .string _, .ofStrings _, .ofStrings _, writesBack_map Target.writesBack _,
    List.forall_mem_nil _⟩

theorem Assertion.writesBack (a : Assertion) : WritesBack a.toJson := by
  refine .ofFields ?_
  simp only [List.forall_mem_cons]
  exact ⟨a.target.writesBack, .string _, .string _, .ofStrings _,
    List.forall_mem_nil _⟩

theorem Operation.writesBack (o : Operation) : WritesBack o.toJson := by
  refine .ofFields ?_
  simp only [List.forall_mem_cons]
  exact ⟨o.target.writesBack, .ofStrings _, .string _, .ofStrings _,
    List.forall_mem_nil _⟩

theorem Declaration.writesBack (d : Declaration) : WritesBack d.toJson := by
  refine .ofFields ?_
  simp only [List.forall_mem_cons]
  exact ⟨d.target.writesBack, .string _, List.forall_mem_nil _⟩

theorem CompilationError.writesBack (e : CompilationError) : WritesBack e.toJson := by
  refine .ofFields ?_
  simp only [List.forall_mem_cons]
  exact ⟨.string _, .string _, List.forall_mem_nil _⟩

theorem GraphErrors.writesBack (g : GraphErrors) : WritesBack g.toJson := by
  refine .ofFields ?_
  simp only [List.forall_mem_cons]
  exact ⟨writesBack_map CompilationError.writesBack _, List.forall_mem_nil _⟩

theorem writesBack (p : Project) : WritesBack p.toJson := by
  refine .ofFields ?_
  simp only [List.forall_mem_cons]
  exact ⟨writesBack_map Table.writesBack _, writesBack_map Assertion.writesBack _,
    writesBack_map Operation.writesBack _, writesBack_map Declaration.writesBack _,
    writesBack_map Target.writesBack _, p.graphErrors.writesBack,
    List.forall_mem_nil _⟩

/-! ## Layouts are lawful -/

theorem Target.lawful :
    Target.layout.Lawful (Target.toJson default) fun _ _ _ => False where
  known := rfl
  optional := by simp [Target.layout, RecordField.optional]
  commute := by simp [Target.layout, RecordField.commutes_optional]
  default_set := by
    simp only [Target.toJson, Value.entries_ofFields, List.forall_mem_cons]
    and_intros
    all_goals first | exact ⟨_, rfl, rfl⟩ | exact List.forall_mem_nil _
  inside := fun _ _ _ h => h.elim

theorem Target.keeps : Keeps Target.layout.decode Target.Edit :=
  Keeps.record Target.lawful

theorem Table.lawful : Table.layout.Lawful (Table.toJson default) Table.Part where
  known := rfl
  optional := by simp [Table.layout, RecordField.optional]
  commute := by simp [Table.layout, RecordField.commutes_optional]
  default_set := by
    simp only [Table.toJson, Value.entries_ofFields, List.forall_mem_cons]
    and_intros
    all_goals first | exact ⟨_, rfl, rfl⟩ | exact List.forall_mem_nil _
  inside := by
    rintro _ _ _ (h | h)
    · exact ⟨_, rfl, RecordField.keeps_optional Target.keeps h⟩
    · exact ⟨_, rfl, RecordField.keeps_optional Target.keeps.list h⟩

theorem Table.keeps : Keeps Table.layout.decode Table.Edit :=
  Keeps.record Table.lawful

theorem Assertion.lawful : Assertion.layout.Lawful (Assertion.toJson default) Target.Part where
  known := rfl
  optional := by simp [Assertion.layout, RecordField.optional]
  commute := by simp [Assertion.layout, RecordField.commutes_optional]
  default_set := by
    simp only [Assertion.toJson, Value.entries_ofFields, List.forall_mem_cons]
    and_intros
    all_goals first | exact ⟨_, rfl, rfl⟩ | exact List.forall_mem_nil _
  inside := by
    rintro _ _ _ ⟨h⟩
    exact ⟨_, rfl, RecordField.keeps_optional Target.keeps h⟩

theorem Assertion.keeps : Keeps Assertion.layout.decode Assertion.Edit :=
  Keeps.record Assertion.lawful

theorem Operation.lawful : Operation.layout.Lawful (Operation.toJson default) Target.Part where
  known := rfl
  optional := by simp [Operation.layout, RecordField.optional]
  commute := by simp [Operation.layout, RecordField.commutes_optional]
  default_set := by
    simp only [Operation.toJson, Value.entries_ofFields, List.forall_mem_cons]
    and_intros
    all_goals first | exact ⟨_, rfl, rfl⟩ | exact List.forall_mem_nil _
  inside := by
    rintro _ _ _ ⟨h⟩
    exact ⟨_, rfl, RecordField.keeps_optional Target.keeps h⟩

theorem Operation.keeps : Keeps Operation.layout.decode Operation.Edit :=
  Keeps.record Operation.lawful

theorem Declaration.lawful :
    Declaration.layout.Lawful (Declaration.toJson default) Target.Part where
  known := rfl
  optional := by simp [Declaration.layout, RecordField.optional]
  commute := by simp [Declaration.layout, RecordField.commutes_optional]
  default_set := by
    simp only [Declaration.toJson, Value.entries_ofFields, List.forall_mem_cons]
    and_intros
    all_goals first | exact ⟨_, rfl, rfl⟩ | exact List.forall_mem_nil _
  inside := by
    rintro _ _ _ ⟨h⟩
    exact ⟨_, rfl, RecordField.keeps_optional Target.keeps h⟩

theorem Declaration.keeps : Keeps Declaration.layout.decode Declaration.Edit :=
  Keeps.record Declaration.lawful

theorem CompilationError.lawful :
    CompilationError.layout.Lawful (CompilationError.toJson default) fun _ _ _ => False where
  known := rfl
  optional := by simp [CompilationError.layout, RecordField.optional]
  commute := by simp [CompilationError.layout, RecordField.commutes_optional]
  default_set := by
    simp only [CompilationError.toJson, Value.entries_ofFields, List.forall_mem_cons]
    and_intros
    all_goals first | exact ⟨_, rfl, rfl⟩ | exact List.forall_mem_nil _
  inside := fun _ _ _ h => h.elim

theorem CompilationError.keeps : Keeps CompilationError.layout.decode CompilationError.Edit :=
  Keeps.record CompilationError.lawful

theorem GraphErrors.lawful :
    GraphErrors.layout.Lawful (GraphErrors.toJson default) GraphErrors.Part where
  known := rfl
  optional := by simp [GraphErrors.layout, RecordField.optional]
  commute := by simp [GraphErrors.layout]
  default_set := by
    simp only [GraphErrors.toJson, Value.entries_ofFields, List.forall_mem_cons]
    and_intros
    all_goals first | exact ⟨_, rfl, rfl⟩ | exact List.forall_mem_nil _
  inside := by
    rintro _ _ _ ⟨h⟩
    exact ⟨_, rfl, RecordField.keeps_optional CompilationError.keeps.list h⟩

theorem GraphErrors.keeps : Keeps GraphErrors.layout.decode GraphErrors.Edit :=
  Keeps.record GraphErrors.lawful

theorem lawful : layout.Lawful (toJson default) Part where
  known := rfl
  optional := by simp [layout, RecordField.optional]
  commute := by simp [layout, RecordField.commutes_optional]
  default_set := by
    simp only [toJson, Value.entries_ofFields, List.forall_mem_cons]
    and_intros
    all_goals first | exact ⟨_, rfl, rfl⟩ | exact List.forall_mem_nil _
  inside := by
    rintro _ _ _ (h | h | h | h | h | h)
    · exact ⟨_, rfl, RecordField.keeps_optional Table.keeps.list h⟩
    · exact ⟨_, rfl, RecordField.keeps_optional Assertion.keeps.list h⟩
    · exact ⟨_, rfl, RecordField.keeps_optional Operation.keeps.list h⟩
    · exact ⟨_, rfl, RecordField.keeps_optional Declaration.keeps.list h⟩
    · exact ⟨_, rfl, RecordField.keeps_optional Target.keeps.list h⟩
    · exact ⟨_, rfl, RecordField.keeps_optional GraphErrors.keeps h⟩

theorem keeps : Keeps layout.decode Edit :=
  Keeps.record lawful

/-! ## Whole texts -/

theorem ofText_of_spellsText {v : Value} {text : String} {p : Project}
    (htext : Json.SpellsText v text) (hv : layout.decode v = .ok p) : ofText text = .ok p := by
  rw [ofText, Json.decodeText, Json.read_of_spellsText htext]
  change (do let a ← layout.decode v; if true then .ok a else .error .malformed) = Except.ok p
  rw [hv]
  rfl

/-- **Reading a compiled project of any version.**  A project is what is read from its text, and
from every spelling of what becomes of its written form by edits of the objects in it: other orders
of the fields, fields that are not known, and fields left out that have their default. -/
theorem ofText_of_edits (p : Project) :
    ofText p.toJson.text = .ok p ∧
      ∀ v, Relation.ReflTransGen Edit p.toJson v →
        ∀ text, Json.SpellsText v text → ofText text = .ok p :=
  ⟨ofText_of_spellsText p.writesBack.spellsText p.decode_toJson,
    fun _ hedits _ htext => ofText_of_spellsText htext (keeps.star hedits p.decode_toJson)⟩

/-! A text of a later version: most fields are left out, one is new, and a character is escaped. -/

namespace Sample

open Json

/-- A project with one target. -/
def accented : Project := { (default : Project) with targets := [⟨"", "", "é"⟩] }

/-- What is left of its written form. -/
def later : Value :=
  .ofFields [
    ("targets", .ofItems [.ofFields [("name", .string "é")]]),
    ("later", .ofItems [.number (.ofDigits true ['1'] [] 2 false), .null])]

theorem later_edits : Relation.ReflTransGen Edit accented.toJson later := by
  refine .head (.omitted [] _ rfl) ?_
  refine .head (.omitted [] _ rfl) ?_
  refine .head (.omitted [] _ rfl) ?_
  refine .head (.omitted [] _ rfl) ?_
  refine .head (.omitted [_] _ rfl) ?_
  refine .head (.inside [] _ (.targets (.item [] _ (.omitted [] _ rfl)))) ?_
  refine .head (.inside [] _ (.targets (.item [] _ (.omitted [] _ rfl)))) ?_
  exact .single (.inserted [_] [] rfl rfl)

theorem later_spells : SpellsText later
    "\x7b\"targets\": [\x7b\"name\":\"\\u00e9\"\x7d],\n \"later\" :[-1e2,null]\x7d " := by
  have hsign : SpellsSigns [.unit 0xe9] ['\\', 'u', '0', '0', 'e', '9'] := .unit rfl .nil
  have htarget : Spells (.ofFields [("name", .string "é")]) _ :=
    .object isGap_nil (.last (spellsSigns_flatMap "name".toList) isGap_nil isGap_nil
      (.string hsign rfl) isGap_nil)
  have hexponent : SpellsExponent (some (digitsValue ['2'])) ['e', '2'] :=
    .plain (Or.inl rfl) (by decide)
  have hnumber : SpellsNumber true _ (['1'] ++ ['e', '2']) := .whole (by decide) hexponent
  have hnew : Spells (.ofItems [.number (.ofDigits true ['1'] [] 2 false), .null]) _ :=
    .array isGap_nil (.more (.negative hnumber) isGap_nil isGap_nil (.last .null isGap_nil))
  have hblank : IsGap [' '] := by decide
  have hline : IsGap ['\n', ' '] := by decide
  exact ⟨[], _, [' '], isGap_nil,
    .object isGap_nil (.more (spellsSigns_flatMap "targets".toList) isGap_nil hblank
      (.array isGap_nil (.last htarget isGap_nil)) isGap_nil hline
      (.last (spellsSigns_flatMap "later".toList) hblank isGap_nil hnew isGap_nil)),
    hblank, rfl⟩

end Sample

/-- The project is read from that text. -/
theorem ofText_of_edits_sample :
    Relation.ReflTransGen Edit Sample.accented.toJson Sample.later ∧
      Json.SpellsText Sample.later
        "\x7b\"targets\": [\x7b\"name\":\"\\u00e9\"\x7d],\n \"later\" :[-1e2,null]\x7d " ∧
      ofText "\x7b\"targets\": [\x7b\"name\":\"\\u00e9\"\x7d],\n \"later\" :[-1e2,null]\x7d " =
        .ok Sample.accented :=
  ⟨Sample.later_edits, Sample.later_spells,
    (ofText_of_edits Sample.accented).2 _ Sample.later_edits _ Sample.later_spells⟩

end SqlxDryRun.Project
