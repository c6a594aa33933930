import SqlxDryRun.Compiler
import SqlxDryRun.Proofs.Project.Format
import SqlxDryRun.Proofs.Text.Blank
import SqlxDryRun.Proofs.Text.Utf8

/-!
# What the end of a compiler means

A compiler that has ended leaves a code, or none if a signal ended it, and the bytes of two streams.
`Compiler.Tells` says what a failed compiler has to say, in terms of the texts of its streams.

* `Compiler.tells_iff`: this is the detail of its failure.
* `Compiler.Tells.ne_empty`: the detail is empty only if both streams are blank.
* `Compiler.compile_printed`: a project that is printed is the project that is compiled.
* `Compiler.compile_classifies`: code and streams decide between a project, an output that is none,
  and a failure.
-/

namespace SqlxDryRun

namespace Compiler

open Text (IsTrimmed isBlankText)

/-! ## What a failed compiler has to say -/

/-- The lines that tell the errors of a project. -/
def errorLines (p : Project) : List String :=
  p.graphErrors.compilationErrors.map fun e => e.fileName ++ ": " ++ e.message

/-- What a compiler has to say that failed with these texts on its two streams. -/
inductive Tells (stdout stderr : String) : String → Prop
  /-- What stands on standard error, -/
  | complaint {detail : String} (h : isBlankText stderr = false)
      (hdetail : IsTrimmed stderr detail) : Tells stdout stderr detail
  /-- or else the errors of the project on standard output, -/
  | errors {p : Project} (h : isBlankText stderr = true) (hp : Project.ofText stdout = .ok p)
      (herrors : p.graphErrors.compilationErrors ≠ []) :
      Tells stdout stderr (String.intercalate "\n" (errorLines p))
  /-- or, without such errors, what stands there. -/
  | output {detail : String} (h : isBlankText stderr = true)
      (hp : ∀ p, Project.ofText stdout = .ok p → p.graphErrors.compilationErrors = [])
      (hdetail : IsTrimmed stdout detail) : Tells stdout stderr detail

/-- Something is left of standard error unless it is blank. -/
theorem trim_ne_empty_iff (text : String) :
    (Text.trim text != "") = true ↔ isBlankText text = false := by
  rw [bne_iff_ne, Ne, (Text.isTrimmed_iff.2 rfl).eq_empty_iff, Bool.not_eq_true]

/-- The detail of a failure whose standard error is blank. -/
theorem failureDetail_of_blank {stdout stderr : String} (h : isBlankText stderr = true) :
    failureDetail stdout stderr =
      match Project.ofText stdout with
      | .ok p => if p.errorMessages.isEmpty then Text.trim stdout else Text.unlines p.errorMessages
      | .error _ => Text.trim stdout := by
  have hblank : ¬(Text.trim stderr != "") = true := by
    rw [trim_ne_empty_iff, h]
    exact Bool.noConfusion
  rw [failureDetail]
  exact if_neg hblank

theorem errorMessages_isEmpty (p : Project) :
    p.errorMessages.isEmpty = true ↔ p.graphErrors.compilationErrors = [] := by
  rw [Project.errorMessages, List.isEmpty_map, List.isEmpty_iff]

/-- **The detail of a failure is what the compiler has to say.** -/
theorem tells_iff {stdout stderr detail : String} :
    Tells stdout stderr detail ↔ detail = failureDetail stdout stderr := by
  constructor
  · intro h
    cases h with
    | complaint h hdetail =>
        rw [failureDetail, if_pos ((trim_ne_empty_iff stderr).2 h)]
        exact Text.isTrimmed_iff.1 hdetail
    | errors h hp herrors =>
        rw [failureDetail_of_blank h, hp]
        dsimp only
        rw [if_neg (mt (errorMessages_isEmpty _).1 herrors)]
        rfl
    | output h hp hdetail =>
        rw [failureDetail_of_blank h, Text.isTrimmed_iff.1 hdetail]
        cases hproject : Project.ofText stdout with
        | error e => rfl
        | ok p => exact (if_pos ((errorMessages_isEmpty p).2 (hp p hproject))).symm
  · rintro rfl
    cases h : isBlankText stderr with
    | false =>
        rw [failureDetail, if_pos ((trim_ne_empty_iff stderr).2 h)]
        exact .complaint h (Text.isTrimmed_iff.2 rfl)
    | true =>
        rw [failureDetail_of_blank h]
        cases hproject : Project.ofText stdout with
        | error e =>
            refine .output h (fun p hp => ?_) (Text.isTrimmed_iff.2 rfl)
            rw [hproject] at hp
            cases hp
        | ok p =>
            dsimp only
            split
            · rename_i hempty
              refine .output h (fun q hq => ?_) (Text.isTrimmed_iff.2 rfl)
              rw [hproject] at hq
              rw [← Except.ok.inj hq]
              exact (errorMessages_isEmpty p).1 hempty
            · rename_i herrors
              exact .errors h hproject (mt (errorMessages_isEmpty p).2 herrors)

theorem tells_failureDetail (stdout stderr : String) :
    Tells stdout stderr (failureDetail stdout stderr) :=
  tells_iff.2 rfl

/-- Every error has a line that is not empty. -/
theorem intercalate_errorLines_ne_empty {p : Project}
    (h : p.graphErrors.compilationErrors ≠ []) :
    String.intercalate "\n" (errorLines p) ≠ "" := by
  obtain ⟨e, es, herrors⟩ := List.exists_cons_of_ne_nil h
  rw [errorLines, herrors, List.map_cons]
  cases es with
  | nil => simp
  | cons e' es => simp [String.intercalate_cons_cons]

/-- **A failure is never without an explanation** that one of the streams has. -/
theorem Tells.ne_empty {stdout stderr detail : String} (h : Tells stdout stderr detail)
    (htext : isBlankText stdout = false ∨ isBlankText stderr = false) : detail ≠ "" := by
  cases h with
  | complaint h hdetail =>
      rw [Ne, hdetail.eq_empty_iff, h]
      exact Bool.noConfusion
  | errors h hp herrors => exact intercalate_errorLines_ne_empty herrors
  | output h hp hdetail =>
      have hstdout : isBlankText stdout = false := by
        rcases htext with htext | htext
        · exact htext
        · rw [h] at htext
          cases htext
      rw [Ne, hdetail.eq_empty_iff, hstdout]
      exact Bool.noConfusion

/-! ## Classes -/

section End

variable {c : Compiler} {start : Call → Ending} {workspace : Path} {code : Option Int}
  {stdout stderr : ByteArray}

/-- A compiler that ends in time is judged by what it leaves. -/
theorem compile_of_exited (hend : start (c.call workspace) = .exited code stdout stderr)
    (htime : ∀ limit ∈ c.timeout, limit.nanos ≠ 0) :
    c.compile start workspace = classify code stdout stderr := by
  rw [compile, hend]
  cases hlimit : c.timeout with
  | none => rfl
  | some limit =>
      have hnanos : (limit.nanos == 0) = false := beq_eq_false_iff_ne.2 (htime limit hlimit)
      dsimp only
      rw [hnanos]
      rfl

theorem classify_of_success (stderr : ByteArray) :
    classify (some 0) stdout stderr =
      (Project.ofText (Text.Utf8.lenient stdout)).mapError CompileError.malformed := by
  rw [classify, if_pos (beq_self_eq_true _)]
  cases Project.ofText (Text.Utf8.lenient stdout) <;> rfl

theorem classify_of_failure (h : code ≠ some 0) :
    classify code stdout stderr = .error (.failed code
      (failureDetail (Text.Utf8.lenient stdout) (Text.Utf8.lenient stderr))) := by
  rw [classify, if_neg (by simpa using h)]

/-- **A project that is printed is the project that is compiled.**  The compiler may leave fields
out that have their default, add fields and order them otherwise, and write its output in any way
that JSON allows. -/
theorem compile_printed (hend : start (c.call workspace) = .exited (some 0) stdout stderr)
    (htime : ∀ limit ∈ c.timeout, limit.nanos ≠ 0) {p : Project} {v : Json.Value} {text : String}
    (hedits : Relation.ReflTransGen Project.Edit p.toJson v) (htext : Json.SpellsText v text)
    (hstdout : stdout = text.toUTF8) : c.compile start workspace = .ok p := by
  have hp := Project.ofText_of_spellsText htext (Project.keeps.star hedits p.decode_toJson)
  rw [compile_of_exited hend htime, classify_of_success, hstdout, Text.Utf8.lenient_toUTF8, hp]
  rfl

/-- **Code and streams decide.**  A compiler ends in time, with any code or by a signal, and leaves
any bytes on its two streams, which are read leniently.

* There is a project just if the code is zero and standard output holds this project.
* The output is none just if the code is zero and standard output holds no project.
* There is a failure just if there is another code or none.  Then it has this code, and its detail
  is what the compiler has to say; this is not empty if one of the streams is not blank. -/
theorem compile_classifies (hend : start (c.call workspace) = .exited code stdout stderr)
    (htime : ∀ limit ∈ c.timeout, limit.nanos ≠ 0) :
    (∀ p, c.compile start workspace = .ok p ↔
      code = some 0 ∧ Project.ofText (Text.Utf8.lenient stdout) = .ok p) ∧
    (∀ e, c.compile start workspace = .error (.malformed e) ↔
      code = some 0 ∧ Project.ofText (Text.Utf8.lenient stdout) = .error e) ∧
    ((∃ code' detail, c.compile start workspace = .error (.failed code' detail)) ↔
      code ≠ some 0) ∧
    ∀ code' detail, c.compile start workspace = .error (.failed code' detail) →
      code' = code ∧ Tells (Text.Utf8.lenient stdout) (Text.Utf8.lenient stderr) detail ∧
        (isBlankText (Text.Utf8.lenient stdout) = false ∨
          isBlankText (Text.Utf8.lenient stderr) = false → detail ≠ "") := by
  rw [compile_of_exited hend htime]
  by_cases hcode : code = some 0
  · subst hcode
    rw [classify_of_success]
    cases Project.ofText (Text.Utf8.lenient stdout) with
    | ok p => simp [Except.mapError]
    | error e => simp [Except.mapError]
  · rw [classify_of_failure hcode]
    refine ⟨fun p => ?_, fun e => ?_, ?_, ?_⟩
    · exact iff_of_false nofun fun h => hcode h.1
    · exact iff_of_false nofun fun h => hcode h.1
    · exact iff_of_true ⟨_, _, rfl⟩ hcode
    · intro code' detail h
      obtain ⟨rfl, rfl⟩ := CompileError.failed.inj (Except.error.inj h)
      have htells := tells_failureDetail (Text.Utf8.lenient stdout) (Text.Utf8.lenient stderr)
      exact ⟨rfl, htells, htells.ne_empty⟩

end End

/-! ## A sample -/

namespace Sample

/-- A project with an error. -/
def broken : Project := { (default : Project) with graphErrors := ⟨[⟨"a.sqlx", "bad"⟩]⟩ }

/-- A compiler that prints the project, and an empty line on standard error, and fails. -/
def failing : Call → Ending :=
  fun _ => .exited (some 1) broken.toJson.text.toUTF8 "\n".toUTF8

theorem ofText_broken : Project.ofText broken.toJson.text = .ok broken :=
  Project.ofText_of_spellsText broken.writesBack.spellsText broken.decode_toJson

theorem tells_broken : Tells broken.toJson.text "\n" "a.sqlx: bad" :=
  .errors (by decide) ofText_broken (by decide)

end Sample

/-- The error in the project is all there is to say. -/
theorem compile_classifies_sample :
    Sample.failing (standard.call ⟨true, ["w"]⟩) =
        .exited (some 1) Sample.broken.toJson.text.toUTF8 "\n".toUTF8 ∧
      standard.timeout = none ∧
      standard.compile Sample.failing ⟨true, ["w"]⟩ =
        .error (.failed (some 1) "a.sqlx: bad") := by
  have hend : Sample.failing (standard.call ⟨true, ["w"]⟩) =
      .exited (some 1) Sample.broken.toJson.text.toUTF8 "\n".toUTF8 := rfl
  obtain ⟨-, -, hfails, hdetail⟩ := compile_classifies hend nofun
  obtain ⟨code, detail, h⟩ := hfails.2 (by decide)
  obtain ⟨rfl, htells, -⟩ := hdetail code detail h
  rw [Text.Utf8.lenient_toUTF8, Text.Utf8.lenient_toUTF8] at htells
  refine ⟨hend, rfl, ?_⟩
  rw [h, tells_iff.1 htells, tells_iff.1 Sample.tells_broken]

end Compiler

end SqlxDryRun
