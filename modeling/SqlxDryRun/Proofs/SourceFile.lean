import SqlxDryRun.Editor.Server
import SqlxDryRun.Proofs.DryRun.LoneRun
import SqlxDryRun.Proofs.Text.Search

/-!
# Which files take part in dry runs

A source file is named by a stem without dots and the extension `.sqlx`.  The kind of a file is told
by the second part of its name, so a file takes part also if its name goes on behind that of a
source file, as the names of backups do (`logicalName?_eq_some_iff`).

* `run_eq_unsupported_iff` and `notifications_save` follow the two ways into a dry run.
* `takes_part_iff` puts them together, and says for which paths the logical names are those of
  source files alone.
-/

namespace SqlxDryRun

/-! ## Names -/

/-- A file name is a stem without dots and the extension of source files. -/
structure IsSourceName (name stem : String) : Prop where
  full : name = stem ++ ".sqlx"
  ne_empty : stem ≠ ""
  plain : '.' ∉ stem.toList

/-- A file name goes on behind the name of a source file. -/
def IsBackupName (name stem : String) : Prop :=
  ∃ source more, IsSourceName source stem ∧ name = source ++ "." ++ more

theorem stemAndKind?_eq_some_iff {name stem kind : String} :
    stemAndKind? name = some (stem, kind) ↔
      ∃ parts, Text.splitAt '.' name.toList = stem.toList :: kind.toList :: parts := by
  rw [stemAndKind?]
  constructor
  · intro h
    split at h
    · rename_i first second parts hsplit
      obtain ⟨rfl, rfl⟩ := Prod.mk.inj (Option.some.inj h)
      exact ⟨parts, by rw [hsplit, String.toList_ofList, String.toList_ofList]⟩
    · cases h
  · rintro ⟨parts, hsplit⟩
    rw [hsplit]
    simp only [String.ofList_toList]

/-- The two first parts of a name whose second part is the extension. -/
theorem stemAndKind?_eq_sqlx_iff {name stem : String} :
    stemAndKind? name = some (stem, "sqlx") ∧ stem ≠ "" ↔
      IsSourceName name stem ∨ IsBackupName name stem := by
  have hkind : '.' ∉ "sqlx".toList := by decide
  have hsource : name.toList = stem.toList ++ '.' :: "sqlx".toList ↔ name = stem ++ ".sqlx" := by
    have hend : (stem ++ ".sqlx").toList = stem.toList ++ '.' :: "sqlx".toList := by simp
    rw [← hend, String.toList_inj]
  have hbackup (more : List Char) :
      name.toList = stem.toList ++ '.' :: ("sqlx".toList ++ '.' :: more) ↔
        name = stem ++ ".sqlx" ++ "." ++ String.ofList more := by
    have hends : (stem ++ ".sqlx" ++ "." ++ String.ofList more).toList =
        stem.toList ++ '.' :: ("sqlx".toList ++ '.' :: more) := by simp
    rw [← hends, String.toList_inj]
  rw [stemAndKind?_eq_some_iff, Text.splitAt_eq_cons_cons_iff]
  simp only [hsource, hbackup]
  constructor
  · rintro ⟨⟨hplain, -, hname | ⟨more, hname⟩⟩, hne⟩
    · exact Or.inl ⟨hname, hne, hplain⟩
    · exact Or.inr ⟨stem ++ ".sqlx", String.ofList more, ⟨rfl, hne, hplain⟩, hname⟩
  · rintro (⟨hname, hne, hplain⟩ | ⟨_, more, ⟨rfl, hne, hplain⟩, hname⟩)
    · exact ⟨⟨hplain, hkind, Or.inl hname⟩, hne⟩
    · exact ⟨⟨hplain, hkind, Or.inr ⟨more.toList, by rwa [String.ofList_toList]⟩⟩, hne⟩

/-- **Which files have a logical name.** -/
theorem logicalName?_eq_some_iff {file : Path} {stem : String} :
    logicalName? file = some stem ↔
      ∃ name, file.fileName? = some name ∧ (IsSourceName name stem ∨ IsBackupName name stem) := by
  simp only [← stemAndKind?_eq_sqlx_iff]
  rw [logicalName?]
  cases file.fileName? with
  | none => simp
  | some name =>
      rw [Option.bind_some]
      simp only [Option.some.injEq, exists_eq_left']
      cases stemAndKind? name with
      | none => simp
      | some parts =>
          obtain ⟨first, kind⟩ := parts
          simp only [sourceExtensions, List.contains_cons, List.contains_nil, Bool.or_false,
            Bool.and_eq_true, bne_iff_ne, beq_iff_eq, Option.some.injEq, Prod.mk.injEq]
          constructor
          · intro h
            split at h
            · rename_i hsource
              obtain rfl := Option.some.inj h
              exact ⟨⟨rfl, hsource.2⟩, hsource.1⟩
            · cases h
          · rintro ⟨⟨rfl, rfl⟩, hne⟩
            rw [if_pos ⟨hne, rfl⟩]

/-! ## Dots -/

theorem IsSourceName.count {name stem : String} (h : IsSourceName name stem) :
    name.toList.count '.' = 1 := by
  rw [h.full, String.toList_append, List.count_append, List.count_eq_zero.2 h.plain]
  decide

theorem IsBackupName.count {name stem : String} (h : IsBackupName name stem) :
    2 ≤ name.toList.count '.' := by
  obtain ⟨source, more, hsource, rfl⟩ := h
  have hdot : ".".toList.count '.' = 1 := by decide
  rw [String.toList_append, String.toList_append, List.count_append, List.count_append,
    hsource.count, hdot]
  omega

/-- The logical name of a file is the stem of a source file, unless the name of the file goes on
behind that of a source file. -/
theorem logicalName?_eq_some_iff_isSourceName {file : Path} :
    (∀ stem, logicalName? file = some stem ↔
        ∃ name, file.fileName? = some name ∧ IsSourceName name stem) ↔
      ¬∃ name stem, file.fileName? = some name ∧ IsBackupName name stem := by
  constructor
  · rintro h ⟨name, stem, hname, hbackup⟩
    obtain ⟨name', hname', hsource⟩ :=
      (h stem).1 (logicalName?_eq_some_iff.2 ⟨name, hname, Or.inr hbackup⟩)
    obtain rfl : name = name' := Option.some.inj (hname.symm.trans hname')
    have hone := hsource.count
    have htwo := hbackup.count
    omega
  · intro h stem
    rw [logicalName?_eq_some_iff]
    constructor
    · rintro ⟨name, hname, hsource | hbackup⟩
      · exact ⟨name, hname, hsource⟩
      · exact absurd ⟨name, stem, hname, hbackup⟩ h
    · rintro ⟨name, hname, hsource⟩
      exact ⟨name, hname, Or.inl hsource⟩

/-! ## Ways into a dry run -/

/-- A file takes part in dry runs by its name. -/
def Path.TakesPart (file : Path) : Prop :=
  ∃ name stem, file.fileName? = some name ∧ (IsSourceName name stem ∨ IsBackupName name stem)

theorem isSome_logicalName?_iff {file : Path} :
    (logicalName? file).isSome = true ↔ file.TakesPart := by
  simp only [Option.isSome_iff_exists, logicalName?_eq_some_iff]
  exact exists_comm

/-- A run looks at the name of its file first. -/
theorem DryRun.run_eq_unsupported_iff (t : Tools) (d : Desk) (job : Job) :
    (run t d job).2 = some .unsupported ↔ logicalName? job.path = none := by
  constructor
  · intro h
    rcases runFrom_checking_performed t job d with
      ⟨d', o, hrun, hperformed⟩ | ⟨⟨d', hold, hrun⟩, -⟩
    · rw [run, hrun] at h
      obtain rfl : o = .unsupported := Option.some.inj h
      exact hperformed.1
    · rw [run, hrun] at h
      cases h
  · intro hname
    rw [run, runFrom_checking, check, hname, runFrom_withdrawing, runFrom_finished]
    rfl

namespace Editor.Server

theorem root_keepText (s : Server) (u : Uri) (text : String) :
    (s.keepText u text).root = s.root := by
  unfold keepText
  cases u.toBytePath? <;> rfl

/-- A file that is saved is dry run by its name, after the settings were read again. -/
theorem notifications_save (s : Server) (disk : Disk) (env : Environment) {u : Uri} {p : Path}
    (hp : u.toPath? = some p) (text : Option String) :
    (s.save disk env u text).2 = (loadSettings disk s.root).2 ++
      if (u.toNamedPath?.bind logicalName?).isSome then (s.save disk env u text).1.dryRun disk env p
      else [] := by
  unfold save
  rw [hp]
  cases text with
  | none => rfl
  | some t =>
      dsimp only
      rw [root_keepText]

end Editor.Server

/-- A URI names the path of its file, or a file whose last name is no text. -/
theorem Uri.toNamedPath?_cases {u : Uri} {file : Path} (h : u.toPath? = some file) :
    u.toNamedPath? = none ∨ u.toNamedPath? = some file := by
  rw [toNamedPath?, h]
  cases u.toBytePath? with
  | none => exact Or.inl rfl
  | some p =>
      rw [Option.bind_eq_bind, Option.bind_some]
      cases p.fileName? with
      | none => exact Or.inl rfl
      | some name =>
          rw [Option.bind_eq_bind, Option.bind_some]
          cases Text.Utf8.strict? ⟨(name.toList.map fun c => UInt8.ofNat c.toNat).toArray⟩ with
          | none => exact Or.inl rfl
          | some text => exact Or.inr rfl

/-- **Which files take part in dry runs.**  The logical name of a file is its stem if its last name
is that of a source file or goes on behind such a name, and nothing otherwise; so it is the stem of
a source file and nothing else just for those files whose names do not go on.  A run ends as
unsupported, and a save starts no dry run, just for files without a logical name, or whose last name
is no text. -/
theorem takes_part_iff (file : Path) :
    (∀ stem, logicalName? file = some stem ↔
      ∃ name, file.fileName? = some name ∧ (IsSourceName name stem ∨ IsBackupName name stem)) ∧
    ((∀ stem, logicalName? file = some stem ↔
        ∃ name, file.fileName? = some name ∧ IsSourceName name stem) ↔
      ¬∃ name stem, file.fileName? = some name ∧ IsBackupName name stem) ∧
    (∀ t d workspace, (DryRun.run t d ⟨file, workspace⟩).2 = some .unsupported ↔
      ¬file.TakesPart) ∧
    ∀ (s : Editor.Server) disk env (u : Uri) text, u.toPath? = some file →
      (u.toNamedPath? = some file ∧ file.TakesPart →
        (s.save disk env u text).2 = (Editor.Server.loadSettings disk s.root).2 ++
          (s.save disk env u text).1.dryRun disk env file) ∧
      (¬(u.toNamedPath? = some file ∧ file.TakesPart) →
        (s.save disk env u text).2 = (Editor.Server.loadSettings disk s.root).2) := by
  refine ⟨fun stem => logicalName?_eq_some_iff, logicalName?_eq_some_iff_isSourceName, ?_, ?_⟩
  · intro t d workspace
    rw [DryRun.run_eq_unsupported_iff, ← isSome_logicalName?_iff, Option.not_isSome_iff_eq_none]
  · intro s disk env u text hu
    have hsave := s.notifications_save disk env hu text
    constructor
    · rintro ⟨hnamed, hpart⟩
      rw [hnamed, Option.bind_some, if_pos (isSome_logicalName?_iff.2 hpart)] at hsave
      exact hsave
    · intro hnot
      have hnone : ¬(u.toNamedPath?.bind logicalName?).isSome = true := by
        rcases Uri.toNamedPath?_cases hu with hnamed | hnamed
        · rw [hnamed]
          exact Bool.false_ne_true
        · rw [hnamed, Option.bind_some, isSome_logicalName?_iff]
          exact fun hpart => hnot ⟨hnamed, hpart⟩
      rw [if_neg hnone, List.append_nil] at hsave
      exact hsave

/-! ## A sample -/

namespace Sample

/-- The file `/w/` and a name. -/
def file (name : String) : Path :=
  ⟨true, ["w", name]⟩

/-- The URI of the file. -/
def uri (name : String) : Uri :=
  ⟨"file", some ⟨"", .empty, none⟩, .segments ["w".toList, name.toList], none, none⟩

/-- A server that was started without a root. -/
def server : Editor.Server :=
  { Editor.Server.fresh with phase := .running }

/-- What it says when it cannot reach the validation service. -/
def unavailable : Editor.Notification :=
  .display .error ("Dry runs are unavailable: " ++ (Validation.Failure.configuration
    "No billing project: set dry_run.project_id or GOOGLE_CLOUD_PROJECT").message)

/-- What it says when it saves a file, if the name of the file counts. -/
def answer (name : String) : List Editor.Notification :=
  (server.save DryRun.Sample.desk.disk ⟨none, .empty⟩ (uri name) none).2

/-- A file in the sample workspace would be dry run. -/
theorem dryRun_file {name : String}
    (hancestors : (file name).ancestors = [file name, ⟨true, ["w"]⟩, ⟨true, [""]⟩])
    (hroot : Workspace.isRoot DryRun.Sample.desk.disk (file name) = false) :
    server.dryRun DryRun.Sample.desk.disk ⟨none, .empty⟩ (file name) = [unavailable] := by
  have hworkspace : Workspace.isRoot DryRun.Sample.desk.disk ⟨true, ["w"]⟩ = true :=
    DryRun.Sample.isRoot_desk
  have hfound : Workspace.rootOf? DryRun.Sample.desk.disk (file name) = some ⟨true, ["w"]⟩ := by
    rw [Workspace.rootOf?, hancestors, List.find?_cons, hroot, List.find?_cons, hworkspace]
  rw [Editor.Server.dryRun, Editor.Server.workspaceOf?, hfound]
  rfl

theorem not_isRoot_file :
    Workspace.isRoot DryRun.Sample.desk.disk (file "orders.sqlx") = false ∧
      Workspace.isRoot DryRun.Sample.desk.disk (file "orders.sqlx.bak") = false := by
  simp only [Workspace.isRoot, Disk.exists?, Disk.find, Disk.locate, Disk.checkPath,
    String.contains_char_eq]
  decide +kernel

end Sample

/-- The source file `/w/orders.sqlx` has a logical name, is supported, and is dry run when it is
saved. -/
theorem takes_part_iff_sample :
    logicalName? (Sample.file "orders.sqlx") = some "orders" ∧
      (DryRun.run DryRun.Sample.tools DryRun.Sample.desk
        ⟨Sample.file "orders.sqlx", ⟨true, ["w"]⟩⟩).2 ≠ some .unsupported ∧
      Sample.answer "orders.sqlx" = [Sample.unavailable] := by
  have hsource : IsSourceName "orders.sqlx" "orders" := ⟨by decide, by decide, by decide⟩
  have hname : (Sample.file "orders.sqlx").fileName? = some "orders.sqlx" := by decide
  have hpart : (Sample.file "orders.sqlx").TakesPart :=
    ⟨"orders.sqlx", "orders", hname, Or.inl hsource⟩
  obtain ⟨hlogical, -, hrun, hsave⟩ := takes_part_iff (Sample.file "orders.sqlx")
  refine ⟨(hlogical "orders").2 ⟨"orders.sqlx", hname, Or.inl hsource⟩, ?_, ?_⟩
  · rw [ne_eq, hrun, not_not]
    exact hpart
  · have hnamed : (Sample.uri "orders.sqlx").toNamedPath? = some (Sample.file "orders.sqlx") := by
      decide +kernel
    rw [Sample.answer, (hsave Sample.server DryRun.Sample.desk.disk ⟨none, .empty⟩
      (Sample.uri "orders.sqlx") none (by decide +kernel)).1 ⟨hnamed, hpart⟩]
    exact Sample.dryRun_file (by decide) Sample.not_isRoot_file.1

/-- **A backup takes part.**  The last name of `/w/orders.sqlx.bak` is not that of a source file,
whatever the stem.  Yet the file has a logical name, a run on it goes beyond its name, and it is dry
run when it is saved. -/
theorem backup_takes_part :
    (Sample.file "orders.sqlx.bak").fileName? = some "orders.sqlx.bak" ∧
      (∀ stem, ¬IsSourceName "orders.sqlx.bak" stem) ∧
      logicalName? (Sample.file "orders.sqlx.bak") = some "orders" ∧
      (DryRun.run DryRun.Sample.tools DryRun.Sample.desk
        ⟨Sample.file "orders.sqlx.bak", ⟨true, ["w"]⟩⟩).2 ≠ some .unsupported ∧
      Sample.answer "orders.sqlx.bak" = [Sample.unavailable] := by
  have hlogical : logicalName? (Sample.file "orders.sqlx.bak") = some "orders" := by decide
  refine ⟨by decide, ?_, hlogical, ?_, ?_⟩
  · intro stem hsource
    exact absurd hsource.count (by decide)
  · rw [ne_eq, DryRun.run_eq_unsupported_iff, hlogical]
    exact Option.some_ne_none "orders"
  · have hnamed : (Sample.uri "orders.sqlx.bak").toNamedPath? =
        some (Sample.file "orders.sqlx.bak") := by decide +kernel
    have hpath : (Sample.uri "orders.sqlx.bak").toPath? =
        some (Sample.file "orders.sqlx.bak") := by decide +kernel
    rw [Sample.answer, Sample.server.notifications_save DryRun.Sample.desk.disk ⟨none, .empty⟩
      hpath none, hnamed, Option.bind_some, hlogical, Option.isSome_some, if_pos rfl]
    exact Sample.dryRun_file (by decide) Sample.not_isRoot_file.2

end SqlxDryRun
