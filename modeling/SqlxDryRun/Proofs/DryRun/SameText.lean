import SqlxDryRun.Proofs.Disk
import SqlxDryRun.Proofs.DryRun.Shown

/-!
# One text for the compiler and for the scan

A run reads its document twice.  The compiler reads the file; the scan for the block of an error
reads the buffer if there is one, and the file otherwise.  In an editor that saves first, both read
the same text, provided that nobody else touches the document in between.

* `Surface.save_of_closed` and its like say what saving comes to.
* `Course` follows a run while others are at work elsewhere.
* `Stage.Holds` says what is in the file at each stage; every step keeps it (`step_holds`).

Main statement: `Course.same_text`.
-/

namespace SqlxDryRun

/-! ## Saving a buffer -/

namespace Surface

theorem bufferOf?_publish (s : Surface) (p q : Path) (ds : List Diagnostic) :
    (s.publish p ds).bufferOf? q = s.bufferOf? q := by
  unfold publish
  split <;> rfl

theorem bufferOf?_save (s : Surface) (disk : Disk) (p q : Path) :
    (s.save disk p).1.bufferOf? q = s.bufferOf? q := by
  rcases save_fst s disk p with h | h <;> rw [h]
  rfl

theorem bufferOf?_of_editor {s : Surface} (h : s.kind = .editor) (p : Path) :
    s.bufferOf? p = s.buffers.get? p := by
  rw [bufferOf?, h]

section Editor

variable {s : Surface} {disk disk' : Disk} {p : Path} {text : String}

/-- Without a buffer there is nothing to save. -/
theorem save_of_closed (hkind : s.kind = .editor) (h : s.bufferOf? p = none) :
    s.save disk p = (s, .ok disk) := by
  rw [bufferOf?_of_editor hkind] at h
  simp only [save, hkind, h]

/-- A file that has the text of its buffer is not written. -/
theorem save_of_same (hkind : s.kind = .editor) (h : s.bufferOf? p = some text)
    (hfile : disk.readBytes p = .ok text.toUTF8) : s.save disk p = (s, .ok disk) := by
  rw [bufferOf?_of_editor hkind] at h
  simp only [save, hkind, h, Disk.readText_eq_ok.2 hfile, BEq.rfl, if_true]

/-- Any other file is written, and so is one that is missing or holds no text. -/
theorem save_of_different (hkind : s.kind = .editor) (h : s.bufferOf? p = some text)
    (hfile : disk.readBytes p ≠ .ok text.toUTF8) :
    s.save disk p = (s, disk.write p text.toUTF8) := by
  rw [bufferOf?_of_editor hkind] at h
  simp only [save, hkind, h]
  cases hread : disk.readText p with
  | error e => rfl
  | ok saved =>
      have hne : saved ≠ text := by
        rintro rfl
        exact hfile (Disk.readText_eq_ok.1 hread)
      simp only [beq_eq_false_iff_ne.2 hne, Bool.false_eq_true, if_false]

/-- What was saved is the buffer. -/
theorem readBytes_save (hkind : s.kind = .editor) (h : s.bufferOf? p = some text)
    (hsave : (s.save disk p).2 = .ok disk') : disk'.readBytes p = .ok text.toUTF8 := by
  by_cases hfile : disk.readBytes p = .ok text.toUTF8
  · rw [save_of_same hkind h hfile] at hsave
    obtain rfl := Except.ok.inj hsave
    exact hfile
  · rw [save_of_different hkind h hfile] at hsave
    exact Disk.readBytes_write hsave

/-- Saving changes no other place. -/
theorem node?_save (hkind : s.kind = .editor) (hsave : (s.save disk p).2 = .ok disk')
    {q : List String} (hq : disk.locate p ≠ .ok q) : disk'.node? q = disk.node? q := by
  cases hbuffer : s.bufferOf? p with
  | none =>
      rw [save_of_closed hkind hbuffer] at hsave
      rw [Except.ok.inj hsave]
  | some text =>
      by_cases hfile : disk.readBytes p = .ok text.toUTF8
      · rw [save_of_same hkind hbuffer hfile] at hsave
        rw [Except.ok.inj hsave]
      · rw [save_of_different hkind hbuffer hfile] at hsave
        exact Disk.node?_of_write hsave hq

end Editor

end Surface

namespace DryRun

/-! ## Runs that nobody disturbs -/

/-- The bytes of the file of a document, if it can be read. -/
def Desk.fileOf? (d : Desk) (p : Path) : Option ByteArray :=
  (d.disk.readBytes p).toOption

/-- Others have changed neither the buffer of a document nor its file. -/
structure Untouched (p : Path) (d d' : Desk) : Prop where
  kind : d'.surface.kind = d.surface.kind
  buffer : d'.surface.bufferOf? p = d.surface.bufferOf? p
  file : d'.fileOf? p = d.fileOf? p

/-- The next step of a run saves without failure, and does not keep the query in the file of the
document. -/
def Stage.Smooth (t : Tools) (job : Job) (d : Desk) : Stage → Prop
  | .saving _ => ∃ disk, (d.surface.save d.disk job.path).2 = .ok disk
  | .keeping _ _ =>
    ∀ place, d.disk.locate (t.settings.queryFile t.environment) = .ok place →
      d.disk.locate job.path ≠ .ok place
  | _ => True

/-- The desks and stages that a run comes to when nobody else touches its document.  Between any two
of its steps others may do whatever they like elsewhere. -/
inductive Course (t : Tools) (job : Job) (d₀ : Desk) : Desk → Stage → Prop
  | start : Course t job d₀ d₀ .checking
  | between {d d' : Desk} {s : Stage} (h : Course t job d₀ d s)
      (huntouched : Untouched job.path d d') : Course t job d₀ d' s
  | onward {d d' : Desk} {s s' : Stage} (h : Course t job d₀ d s) (hsmooth : s.Smooth t job d)
      (hstep : step t job d s = some (d', s')) : Course t job d₀ d' s'

/-- What is in the file of a document when a run on it is at a stage: `unsaved` up to the saving,
and `saved` from then on. -/
def Stage.Holds (unsaved saved content : Option ByteArray) : Stage → Prop
  | .checking => content = unsaved
  | .asking _ => content = unsaved
  | .waiting _ => content = unsaved
  | .saving _ => content = unsaved
  | .withdrawing next => next.Holds unsaved saved content
  | .hiding next => next.Holds unsaved saved content
  | .telling _ next => next.Holds unsaved saved content
  | .releasing .. => True
  | .sweeping _ => True
  | .finished _ => True
  | _ => content = saved

/-! ## Single steps -/

section Steps

variable {t : Tools} {job : Job} {d d' : Desk} {s s' : Stage} {unsaved saved : Option ByteArray}

/-- No step changes a buffer. -/
theorem step_bufferOf? (h : step t job d s = some (d', s')) (q : Path) :
    d'.surface.bufferOf? q = d.surface.bufferOf? q := by
  cases s with
  | withdrawing next =>
      simp only [step] at h
      split at h <;> obtain ⟨rfl, -⟩ := Prod.mk.inj (Option.some.inj h) <;> rfl
  | «hiding» next =>
      obtain ⟨rfl, -⟩ := Prod.mk.inj (Option.some.inj h)
      exact d.surface.bufferOf?_publish job.path q []
  | saving hold =>
      have hbuffer := d.surface.bufferOf?_save d.disk job.path q
      simp only [step] at h
      split at h <;> rename_i hsave <;> rw [hsave] at hbuffer <;>
        obtain ⟨rfl, -⟩ := Prod.mk.inj (Option.some.inj h) <;> exact hbuffer
  | displaying hold dg =>
      obtain ⟨rfl, -⟩ := Prod.mk.inj (Option.some.inj h)
      exact d.surface.bufferOf?_publish job.path q [dg]
  | _ =>
      simp only [step] at h
      try split at h
      all_goals
        simp only [Option.some.injEq, Prod.mk.injEq, reduceCtorEq] at h
        try obtain ⟨rfl, -⟩ := h
        try rfl

/-- When the saving does not fail, the compiler comes next, with the files that are left. -/
theorem step_saving_of_ok {hold : Hold} {disk : Disk}
    (hsave : (d.surface.save d.disk job.path).2 = .ok disk) :
    step t job d (.saving hold) =
      some ({ d with surface := (d.surface.save d.disk job.path).1, disk := disk },
        .compiling hold) := by
  have hpair : d.surface.save d.disk job.path =
      ((d.surface.save d.disk job.path).1, .ok disk) := Prod.ext rfl hsave
  rw [step, hpair]

/-- A query that is kept elsewhere leaves the file of the document as it is. -/
theorem step_keeping_fileOf? {hold : Hold} {query : Project.SourceQuery}
    (hsmooth : (Stage.keeping hold query).Smooth t job d)
    (h : step t job d (.keeping hold query) = some (d', s')) :
    d'.fileOf? job.path = d.fileOf? job.path := by
  simp only [step] at h
  split at h
  · rename_i disk hwrite
    obtain ⟨rfl, -⟩ := Prod.mk.inj (Option.some.inj h)
    exact Disk.readBytes_of_write hwrite hsmooth
  · obtain ⟨rfl, -⟩ := Prod.mk.inj (Option.some.inj h)
    rfl

theorem step_keeping_next {hold : Hold} {query : Project.SourceQuery}
    (h : step t job d (.keeping hold query) = some (d', s')) :
    s' = .submitting hold query ∨ ∃ notice, s' = .telling notice (.submitting hold query) := by
  simp only [step] at h
  split at h
  · exact Or.inl (Prod.mk.inj (Option.some.inj h)).2.symm
  · exact Or.inr ⟨_, (Prod.mk.inj (Option.some.inj h)).2.symm⟩

theorem holds_check (disk : Disk) : (check disk job).Holds unsaved saved unsaved := by
  rcases check_cases disk job with ⟨_, h⟩ | h | ⟨_, h⟩ <;> rw [h]
  · exact rfl
  · exact trivial
  · exact trivial

theorem holds_extract (hold : Hold) (project : Project) :
    (extract t hold project).Holds unsaved saved saved := by
  rcases extract_cases t hold project with ⟨_, _, h⟩ | ⟨_, h⟩ | ⟨_, h⟩ <;> rw [h]
  · exact trivial
  · exact rfl
  · exact rfl

theorem holds_judge (hold : Hold) (target : String)
    (answer : Except Validation.Failure Validation.Reply) :
    (judge hold target answer).Holds unsaved saved saved := by
  rcases judge_cases hold target answer with ⟨_, _, h⟩ | ⟨_, _, h⟩ | ⟨_, h⟩ <;> rw [h]
  · exact trivial
  · exact trivial
  · exact rfl

/-- **Every smooth step keeps the file as its stage says**, if saving makes `saved` of `unsaved`. -/
theorem step_holds (h : step t job d s = some (d', s')) (hsmooth : s.Smooth t job d)
    (hfirst : t.settings.saveFirst = true)
    (hsaving : ∀ disk, (d.surface.save d.disk job.path).2 = .ok disk →
      d.fileOf? job.path = unsaved → (disk.readBytes job.path).toOption = saved)
    (hs : s.Holds unsaved saved (d.fileOf? job.path)) :
    s'.Holds unsaved saved (d'.fileOf? job.path) := by
  cases s with
  | checking =>
      obtain ⟨rfl, rfl⟩ := Prod.mk.inj (Option.some.inj h)
      rw [show d.fileOf? job.path = _ from hs]
      exact holds_check d.disk
  | asking name =>
      obtain ⟨rfl, rfl⟩ := Prod.mk.inj (Option.some.inj h)
      exact hs
  | waiting hold =>
      simp only [step, hfirst, if_true] at h
      split at h
      · obtain ⟨rfl, rfl⟩ := Prod.mk.inj (Option.some.inj h)
        exact hs
      · exact absurd h (by simp)
  | withdrawing next =>
      simp only [step] at h
      split at h <;> obtain ⟨rfl, rfl⟩ := Prod.mk.inj (Option.some.inj h) <;> exact hs
  | «hiding» next =>
      obtain ⟨rfl, rfl⟩ := Prod.mk.inj (Option.some.inj h)
      exact hs
  | telling notice next =>
      obtain ⟨rfl, rfl⟩ := Prod.mk.inj (Option.some.inj h)
      exact hs
  | saving hold =>
      obtain ⟨disk, hsave⟩ := hsmooth
      rw [step_saving_of_ok hsave] at h
      obtain ⟨rfl, rfl⟩ := Prod.mk.inj (Option.some.inj h)
      exact hsaving disk hsave hs
  | compiling hold =>
      simp only [step] at h
      split at h <;> obtain ⟨rfl, rfl⟩ := Prod.mk.inj (Option.some.inj h)
      · exact hs
      · exact trivial
  | offeringTags hold project =>
      obtain ⟨rfl, rfl⟩ := Prod.mk.inj (Option.some.inj h)
      exact hs
  | offeringDependencies hold project =>
      obtain ⟨rfl, rfl⟩ := Prod.mk.inj (Option.some.inj h)
      exact hs
  | extracting hold project =>
      obtain ⟨rfl, rfl⟩ := Prod.mk.inj (Option.some.inj h)
      rw [show d.fileOf? job.path = _ from hs]
      exact holds_extract hold project
  | keeping hold query =>
      rw [step_keeping_fileOf? hsmooth h]
      rcases step_keeping_next h with rfl | ⟨notice, rfl⟩ <;> exact hs
  | submitting hold query =>
      obtain ⟨rfl, rfl⟩ := Prod.mk.inj (Option.some.inj h)
      exact hs
  | expecting hold target due answer =>
      simp only [step] at h
      split at h
      · obtain ⟨rfl, rfl⟩ := Prod.mk.inj (Option.some.inj h)
        rw [show d.fileOf? job.path = _ from hs]
        exact holds_judge hold target answer
      · exact absurd h (by simp)
  | locating hold error =>
      obtain ⟨rfl, rfl⟩ := Prod.mk.inj (Option.some.inj h)
      exact hs
  | posting hold dg =>
      obtain ⟨rfl, rfl⟩ := Prod.mk.inj (Option.some.inj h)
      exact hs
  | displaying hold dg =>
      obtain ⟨rfl, rfl⟩ := Prod.mk.inj (Option.some.inj h)
      exact trivial
  | releasing ticket o =>
      obtain ⟨rfl, rfl⟩ := Prod.mk.inj (Option.some.inj h)
      exact trivial
  | sweeping o =>
      obtain ⟨rfl, rfl⟩ := Prod.mk.inj (Option.some.inj h)
      exact trivial
  | finished o => exact absurd h (by simp [step])

end Steps

/-! ## Whole runs -/

/-- What is in the file of a document after it was saved: its buffer if it has one. -/
def Desk.savedFileOf? (d : Desk) (p : Path) : Option ByteArray :=
  match d.surface.bufferOf? p with
  | some text => some text.toUTF8
  | none => d.fileOf? p

section Runs

variable {t : Tools} {job : Job} {d₀ d : Desk} {s : Stage}

/-- The kind of surface and the buffer stay the same. -/
theorem Course.surface (h : Course t job d₀ d s) :
    d.surface.kind = d₀.surface.kind ∧
      d.surface.bufferOf? job.path = d₀.surface.bufferOf? job.path := by
  induction h with
  | start => exact ⟨rfl, rfl⟩
  | between _ huntouched ih =>
      exact ⟨huntouched.kind.trans ih.1, huntouched.buffer.trans ih.2⟩
  | onward _ _ hstep ih => exact ⟨(step_kind hstep).trans ih.1, (step_bufferOf? hstep _).trans ih.2⟩

/-- The file is the one found up to the saving, and the saved one from then on. -/
theorem Course.holds (h : Course t job d₀ d s) (hkind : d₀.surface.kind = .editor)
    (hfirst : t.settings.saveFirst = true) :
    s.Holds (d₀.fileOf? job.path) (d₀.savedFileOf? job.path) (d.fileOf? job.path) := by
  induction h with
  | start => exact rfl
  | between _ huntouched ih =>
      rw [huntouched.file]
      exact ih
  | @onward d d' s s' hcourse hsmooth hstep ih =>
      obtain ⟨hkind', hbuffer⟩ := hcourse.surface
      rw [hkind] at hkind'
      refine step_holds hstep hsmooth hfirst ?_ ih
      intro disk hsave hfile
      unfold Desk.savedFileOf?
      cases hopen : d₀.surface.bufferOf? job.path with
      | none =>
          rw [Surface.save_of_closed hkind' (hbuffer.trans hopen)] at hsave
          obtain rfl := Except.ok.inj hsave
          exact hfile
      | some text =>
          rw [Surface.readBytes_save hkind' (hbuffer.trans hopen) hsave]
          rfl

/-- If the document is open, the compiler and the scan see its buffer. -/
theorem Course.sees_buffer (h : Course t job d₀ d s) (hkind : d₀.surface.kind = .editor)
    (hfirst : t.settings.saveFirst = true) {text : String}
    (hopen : d₀.surface.bufferOf? job.path = some text) :
    (∀ hold, s = .compiling hold → d.disk.readBytes job.path = .ok text.toUTF8) ∧
      ∀ hold e, s = .locating hold e →
        step t job d s = some (d, .posting hold (t.diagnosticFor text e)) := by
  have hholds := h.holds hkind hfirst
  have hsaved : d₀.savedFileOf? job.path = some text.toUTF8 := by
    rw [Desk.savedFileOf?, hopen]
  rw [hsaved] at hholds
  constructor
  · rintro hold rfl
    exact Disk.toOption_eq_some.1 hholds
  · rintro hold e rfl
    rw [step, Desk.textOf, h.surface.2, hopen]

/-- If the document is not open, the compiler and the scan see the file as it was found. -/
theorem Course.sees_file (h : Course t job d₀ d s) (hkind : d₀.surface.kind = .editor)
    (hfirst : t.settings.saveFirst = true) (hclosed : d₀.surface.bufferOf? job.path = none) :
    (∀ hold, s = .compiling hold → d.fileOf? job.path = d₀.fileOf? job.path) ∧
      ∀ hold e, s = .locating hold e →
        step t job d s = some (d, .posting hold
          (t.diagnosticFor ((d₀.disk.readText job.path).toOption.getD "") e)) := by
  have hholds := h.holds hkind hfirst
  have hsaved : d₀.savedFileOf? job.path = d₀.fileOf? job.path := by
    rw [Desk.savedFileOf?, hclosed]
  rw [hsaved] at hholds
  constructor
  · rintro hold rfl
    exact hholds
  · rintro hold e rfl
    have hread : (d.disk.readText job.path).toOption = (d₀.disk.readText job.path).toOption := by
      rw [Disk.toOption_readText, Disk.toOption_readText]
      exact congrArg (fun content => content.bind Text.Utf8.strict?) hholds
    rw [step, Desk.textOf, h.surface.2, hclosed, ← hread]

/-- The saving changes the file of the document at most, and that only if it has to. -/
theorem Course.saves (h : Course t job d₀ d s) (hkind : d₀.surface.kind = .editor) {hold : Hold}
    {d' : Desk} {s' : Stage} (hs : s = .saving hold) (hsmooth : s.Smooth t job d)
    (hstep : step t job d s = some (d', s')) :
    (d₀.surface.bufferOf? job.path = none → d' = d) ∧
      (∀ text, d₀.surface.bufferOf? job.path = some text →
        d.disk.readBytes job.path = .ok text.toUTF8 → d' = d) ∧
      ∀ place, d.disk.locate job.path ≠ .ok place → d'.disk.node? place = d.disk.node? place := by
  subst hs
  obtain ⟨hkind', hbuffer⟩ := h.surface
  rw [hkind] at hkind'
  obtain ⟨disk, hsave⟩ := hsmooth
  rw [step_saving_of_ok hsave] at hstep
  obtain ⟨rfl, -⟩ := Prod.mk.inj (Option.some.inj hstep)
  have hnothing : d.surface.save d.disk job.path = (d.surface, .ok d.disk) →
      { d with surface := (d.surface.save d.disk job.path).1, disk := disk } = d := by
    intro h
    rw [h] at hsave
    rw [h, ← Except.ok.inj hsave]
  refine ⟨?_, ?_, ?_⟩
  · intro hclosed
    exact hnothing (Surface.save_of_closed hkind' (hbuffer.trans hclosed))
  · intro text hopen hfile
    exact hnothing (Surface.save_of_same hkind' (hbuffer.trans hopen) hfile)
  · intro place hplace
    exact Surface.node?_save hkind' hsave hplace

/-- **The compiler and the scan see the same text.**  A run in an editor that saves first, whose
saving does not fail, and whose document nobody else touches:

* If the document is open, the compiler finds its buffer in the file, and the place of an error is
  looked for in the buffer.
* If it is not open, the saving does nothing, the compiler finds the file as it was, and the place
  is looked for in the text of the file, or in no text if the file cannot be read as text.
* The saving changes no other place, and does nothing to a file that has the text of its buffer. -/
theorem Course.same_text (h : Course t job d₀ d s) (hkind : d₀.surface.kind = .editor)
    (hfirst : t.settings.saveFirst = true) :
    (∀ text, d₀.surface.bufferOf? job.path = some text →
      (∀ hold, s = .compiling hold → d.disk.readBytes job.path = .ok text.toUTF8) ∧
      ∀ hold e, s = .locating hold e →
        step t job d s = some (d, .posting hold (t.diagnosticFor text e))) ∧
    (d₀.surface.bufferOf? job.path = none →
      (∀ hold, s = .compiling hold → d.fileOf? job.path = d₀.fileOf? job.path) ∧
      ∀ hold e, s = .locating hold e →
        (∀ text : String, d₀.disk.readBytes job.path = .ok text.toUTF8 →
          step t job d s = some (d, .posting hold (t.diagnosticFor text e))) ∧
        ((∀ text : String, d₀.disk.readBytes job.path ≠ .ok text.toUTF8) →
          step t job d s = some (d, .posting hold (t.diagnosticFor "" e)))) ∧
    ∀ hold d' s', s = .saving hold → s.Smooth t job d → step t job d s = some (d', s') →
      (d₀.surface.bufferOf? job.path = none → d' = d) ∧
      (∀ text, d₀.surface.bufferOf? job.path = some text →
        d.disk.readBytes job.path = .ok text.toUTF8 → d' = d) ∧
      ∀ place, d.disk.locate job.path ≠ .ok place → d'.disk.node? place = d.disk.node? place := by
  refine ⟨?opened, ?closed, ?saving⟩
  case opened =>
    intro text hopen
    exact h.sees_buffer hkind hfirst hopen
  case closed =>
    intro hclosed
    obtain ⟨hcompiler, hscan⟩ := h.sees_file hkind hfirst hclosed
    refine ⟨hcompiler, ?_⟩
    intro hold e hs
    rw [hscan hold e hs]
    constructor
    · intro text hfile
      rw [Disk.readText_eq_ok.2 hfile]
      rfl
    · intro hnone
      have hunread : (d₀.disk.readText job.path).toOption = none := by
        rw [Option.eq_none_iff_forall_ne_some]
        intro text hsome
        exact hnone text (Disk.readText_eq_ok.1 (Disk.toOption_eq_some.1 hsome))
      rw [hunread]
      rfl
  case saving =>
    intro hold d' s' hs hsmooth hstep
    exact h.saves hkind hs hsmooth hstep

end Runs

/-! ## A sample -/

namespace Sample

/-- The sample document is open in an editor, with another text than in its file. -/
def unsaved : Desk :=
  .start
    ⟨[(["w"], .directory), (["w", "dataform.json"], .file .empty),
      (["w", "orders.sqlx"], .file "select y".toUTF8)], []⟩
    (.start .editor (PathMap.empty.insert orders.path "config \x7b\n\x7d\n\nselect x"))

theorem isRoot_unsaved : Workspace.isRoot unsaved.disk orders.workspace = true := by
  simp only [Workspace.isRoot, Disk.exists?, Disk.find, Disk.locate, Disk.checkPath,
    String.contains_char_eq]
  decide +kernel

/-- The sample document can be written. -/
theorem exists_write (content : ByteArray) :
    ∃ disk, unsaved.disk.write orders.path content = .ok disk := by
  have hcheck : Disk.checkPath orders.path = .ok () := by
    simp only [Disk.checkPath, String.contains_char_eq]
    decide +kernel
  rw [Disk.write, hcheck]
  exact ⟨_, rfl⟩

theorem exists_save : ∃ disk, (unsaved.surface.save unsaved.disk orders.path).2 = .ok disk := by
  have hopen : unsaved.surface.bufferOf? orders.path =
      some "config \x7b\n\x7d\n\nselect x" := rfl
  by_cases hfile : unsaved.disk.readBytes orders.path = .ok "config \x7b\n\x7d\n\nselect x".toUTF8
  · rw [Surface.save_of_same rfl hopen hfile]
    exact ⟨_, rfl⟩
  · rw [Surface.save_of_different rfl hopen hfile]
    exact exists_write _

/-- The sample run comes to the compiler, -/
theorem exists_compiling :
    ∃ d, Course tools orders unsaved d (.compiling ⟨0, "orders"⟩) := by
  have hcheck : check unsaved.disk orders = .asking "orders" := by
    rw [check, logicalName?_orders]
    simp only [isRoot_unsaved, if_true]
  have hasking : Course tools orders unsaved unsaved (.asking "orders") := by
    refine .onward .start trivial ?_
    rw [step, hcheck]
  have hwaiting : Course tools orders unsaved
      (unsaved.waited (unsaved.locks.ask orders.path).1 ⟨0⟩) (.waiting ⟨0, "orders"⟩) :=
    hasking.onward trivial rfl
  have hwithdrawing : Course tools orders unsaved
      (unsaved.waited ((unsaved.locks.ask orders.path).1.poll 0) ⟨0⟩)
      (.withdrawing (.saving ⟨0, "orders"⟩)) := hwaiting.onward trivial rfl
  have hsaving : Course tools orders unsaved
      (unsaved.waited ((unsaved.locks.ask orders.path).1.poll 0) ⟨0⟩)
      (.saving ⟨0, "orders"⟩) := hwithdrawing.onward trivial rfl
  obtain ⟨disk, hsave⟩ := exists_save
  exact ⟨_, hsaving.onward ⟨disk, hsave⟩ (step_saving_of_ok hsave)⟩

/-- and from there to the place of the error. -/
theorem exists_locating :
    ∃ d, Course tools orders unsaved d
      (.locating ⟨0, "orders"⟩ (Validation.Reply.refused 5 8 "no x").error) := by
  obtain ⟨d, hcompiling⟩ := exists_compiling
  have htags : Course tools orders unsaved d.compiled (.offeringTags ⟨0, "orders"⟩ project) :=
    hcompiling.onward trivial rfl
  have hextracting : Course tools orders unsaved (d.compiled.refresh project)
      (.extracting ⟨0, "orders"⟩ project) := (htags.onward trivial rfl).onward trivial rfl
  have hextract : extract tools ⟨0, "orders"⟩ project =
      .submitting ⟨0, "orders"⟩ (project.queryFor "orders") := by
    have hfound : (project.queryFor "orders").isFound = true := by decide
    simp only [extract, hfound, Bool.not_true, Bool.false_eq_true, if_false]
    rfl
  have hsubmitting := hextracting.onward trivial (congrArg (fun s => some (_, s)) hextract)
  have hexpecting : Course tools orders unsaved
      ((d.compiled.refresh project).submit (project.queryFor "orders").query)
      (.expecting ⟨0, "orders"⟩ (project.queryFor "orders").target.text d.now
        (.ok (.refused 5 8 "no x"))) := hsubmitting.onward trivial rfl
  exact ⟨_, hexpecting.onward trivial (if_pos (Nat.le_refl _))⟩

end Sample

/-- In the sample run the compiler finds the buffer in the file, and the place of the error is
looked for in the buffer. -/
theorem Course.same_text_sample :
    (∃ d, Course Sample.tools Sample.orders Sample.unsaved d (.compiling ⟨0, "orders"⟩) ∧
      d.disk.readBytes Sample.orders.path = .ok "config \x7b\n\x7d\n\nselect x".toUTF8) ∧
    ∃ d e, Course Sample.tools Sample.orders Sample.unsaved d (.locating ⟨0, "orders"⟩ e) ∧
      step Sample.tools Sample.orders d (.locating ⟨0, "orders"⟩ e) =
        some (d, .posting ⟨0, "orders"⟩ Sample.refusal) := by
  constructor
  · obtain ⟨d, hcourse⟩ := Sample.exists_compiling
    exact ⟨d, hcourse, ((hcourse.same_text rfl rfl).1 _ rfl).1 _ rfl⟩
  · obtain ⟨d, hcourse⟩ := Sample.exists_locating
    refine ⟨d, _, hcourse, ?_⟩
    rw [((hcourse.same_text rfl rfl).1 _ rfl).2 _ _ rfl]
    exact congrArg (fun dg => some (d, Stage.posting _ dg)) (by decide)

end DryRun

end SqlxDryRun
