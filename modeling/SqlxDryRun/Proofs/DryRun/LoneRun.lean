import SqlxDryRun.DryRun.Schedule
import SqlxDryRun.Proofs.Locks

/-!
# What a lone dry run does

A run that is on its own goes through its stages one after the other, so what it does can be written
down without them: it clears the document, saves it, compiles, refreshes the offers, keeps the
query, submits it, and ends by a notice or a diagnostic.  How far it gets is its outcome.

* `runFrom_telling` and its like take the stages one by one: they say to which desk and stage a lone
  run comes from there.
* `Outcome.Performed` writes the whole run down for each outcome, as the desk that is left behind.
* `runFrom_checking_performed` says that a run leaves exactly this desk, unless it waits for a lock
  that somebody else holds.
-/

namespace SqlxDryRun.DryRun

/-! ## Parts of a run -/

namespace Desk

/-- The desk after a document was saved, with a warning if that failed. -/
def saved (d : Desk) (p : Path) : Desk :=
  match d.surface.save d.disk p with
  | (surface, .ok disk) => { d with surface := surface, disk := disk }
  | (surface, .error e) =>
    { d with surface := surface }.tell
      ⟨.warning, "Could not save " ++ p.toString ++ ": " ++ e.message⟩

/-- The desk when the compiler starts: the earlier diagnostic is gone, and the document is saved if
the settings say so. -/
def ready (d : Desk) (t : Tools) (p : Path) : Desk :=
  if t.settings.saveFirst then (d.clear p).saved p else d.clear p

/-- The desk after one more compilation. -/
def compiled (d : Desk) : Desk :=
  { d with compilations := d.compilations + 1 }

/-- The desk after a query was kept if the settings say so, with a warning if that failed. -/
def kept (d : Desk) (t : Tools) (query : String) : Desk :=
  if t.settings.keepQuery then
    match d.disk.write (t.settings.queryFile t.environment) query.toUTF8 with
    | .ok disk => { d with disk := disk }
    | .error e =>
      d.tell ⟨.warning, "Could not write compiled query to " ++
        (t.settings.queryFile t.environment).toString ++ ": " ++ e.message⟩
  else d

/-- The desk after one more query was submitted. -/
def submit (d : Desk) (query : String) : Desk :=
  { d with submitted := d.submitted ++ [query] }

/-- The desk when the answer to a query of a project is waited for. -/
def asked (d : Desk) (t : Tools) (p : Path) (project : Project) (query : String) : Desk :=
  (((d.ready t p).compiled.refresh project).kept t query).submit query

/-- The desk after waiting, which changes nothing but the locks and the time. -/
def waited (d : Desk) (locks : Locks) (now : Duration) : Desk :=
  { d with locks := locks, now := now }

/-! Waiting may as well come last. -/

section Waiting

variable (d : Desk) (locks locks' : Locks) (now now' : Duration) (t : Tools) (p : Path)

theorem waited_waited : (d.waited locks now).waited locks' now' = d.waited locks' now' := rfl

theorem waited_tell (n : Notice) : (d.waited locks now).tell n = (d.tell n).waited locks now := rfl

theorem waited_clear : (d.waited locks now).clear p = (d.clear p).waited locks now := by
  show (if (d.board.get? p).isSome then _ else _) = _
  unfold clear
  split <;> rfl

theorem waited_saved : (d.waited locks now).saved p = (d.saved p).waited locks now := by
  unfold saved
  show (match d.surface.save d.disk p with
    | (surface, .ok disk) => _
    | (surface, .error e) => _) = _
  cases h : d.surface.save d.disk p with
  | mk surface result =>
      cases result with
      | ok disk => rfl
      | error e => rfl

theorem waited_ready : (d.waited locks now).ready t p = (d.ready t p).waited locks now := by
  unfold ready
  split
  · rw [waited_clear, waited_saved]
  · rw [waited_clear]

theorem waited_kept (query : String) :
    (d.waited locks now).kept t query = (d.kept t query).waited locks now := by
  unfold kept
  split
  · show (match d.disk.write _ _ with
      | .ok disk => _
      | .error e => _) = _
    cases d.disk.write (t.settings.queryFile t.environment) query.toUTF8 with
    | ok disk => rfl
    | error e => rfl
  · rfl

end Waiting

end Desk

/-! ## A lone run, stage by stage -/

section Stages

variable {t : Tools} {job : Job}

theorem runFrom_of_step {d d' : Desk} {s s' : Stage}
    (h : step t job (d.await s) s = some (d', s')) :
    runFrom t job d s = runFrom t job d' s' := by
  rw [runFrom]
  split
  · rename_i hn
    rw [h] at hn
    exact absurd hn (by simp)
  · rename_i d₁ s₁ hs
    rw [h] at hs
    obtain ⟨rfl, rfl⟩ := Prod.mk.inj (Option.some.inj hs)
    rfl

theorem runFrom_of_stuck {d : Desk} {s : Stage} (h : step t job (d.await s) s = none) :
    runFrom t job d s = (d, s) := by
  rw [runFrom]
  split
  · rfl
  · rename_i hs
    rw [h] at hs
    exact absurd hs (by simp)

theorem runFrom_checking (d : Desk) :
    runFrom t job d .checking = runFrom t job d (check d.disk job) :=
  runFrom_of_step rfl

theorem runFrom_finished (d : Desk) (o : Outcome) :
    runFrom t job d (.finished o) = (d, .finished o) :=
  runFrom_of_stuck rfl

theorem runFrom_telling (d : Desk) (n : Notice) (next : Stage) :
    runFrom t job d (.telling n next) = runFrom t job (d.tell n) next :=
  runFrom_of_step rfl

/-- Both steps of clearing a document. -/
theorem runFrom_withdrawing (d : Desk) (next : Stage) :
    runFrom t job d (.withdrawing next) = runFrom t job (d.clear job.path) next := by
  by_cases h : (d.board.get? job.path).isSome = true
  · have hstep : step t job d (.withdrawing next) =
        some (d.withdraw job.path, .hiding next) := by
      rw [step, if_pos h]
    rw [runFrom_of_step (d := d) hstep, Desk.clear, if_pos h]
    exact runFrom_of_step rfl
  · have hstep : step t job d (.withdrawing next) = some (d, next) := by
      rw [step, if_neg h]
    rw [runFrom_of_step (d := d) hstep, Desk.clear, if_neg h]

theorem runFrom_saving (d : Desk) (hold : Hold) :
    runFrom t job d (.saving hold) = runFrom t job (d.saved job.path) (.compiling hold) := by
  unfold Desk.saved
  cases h : d.surface.save d.disk job.path with
  | mk surface result =>
      cases result with
      | ok disk =>
          have hstep : step t job d (.saving hold) =
              some ({ d with surface := surface, disk := disk }, .compiling hold) := by
            simp only [step, h]
          rw [runFrom_of_step (d := d) hstep]
      | error e =>
          have hstep : step t job d (.saving hold) =
              some ({ d with surface := surface }, .telling
                ⟨.warning, "Could not save " ++ job.path.toString ++ ": " ++ e.message⟩
                (.compiling hold)) := by
            simp only [step, h]
          rw [runFrom_of_step (d := d) hstep, runFrom_telling]

/-- The way from the lock to the compiler. -/
theorem runFrom_ready (d : Desk) (hold : Hold) :
    runFrom t job d
        (.withdrawing (if t.settings.saveFirst then .saving hold else .compiling hold)) =
      runFrom t job (d.ready t job.path) (.compiling hold) := by
  rw [runFrom_withdrawing, Desk.ready]
  by_cases h : t.settings.saveFirst = true
  · rw [if_pos h, if_pos h, runFrom_saving]
  · rw [if_neg h, if_neg h]

theorem runFrom_compiling_error {d : Desk} {e : CompileError}
    (h : t.compile d.disk job.workspace = .error e) (hold : Hold) :
    runFrom t job d (.compiling hold) =
      runFrom t job (d.compiled.tell ⟨.error, "Error compiling Dataform: " ++ e.message⟩)
        (.releasing hold.ticket (.compilationFailed e.message)) := by
  have hstep : step t job d (.compiling hold) =
      some (d.compiled, .telling ⟨.error, "Error compiling Dataform: " ++ e.message⟩
        (.releasing hold.ticket (.compilationFailed e.message))) := by
    simp only [step, h, Desk.compiled]
  rw [runFrom_of_step (d := d) hstep, runFrom_telling]

/-- A compiled project replaces the offers before a query is looked up in it. -/
theorem runFrom_compiling_ok {d : Desk} {project : Project}
    (h : t.compile d.disk job.workspace = .ok project) (hold : Hold) :
    runFrom t job d (.compiling hold) =
      runFrom t job (d.compiled.refresh project) (extract t hold project) := by
  have hstep : step t job d (.compiling hold) =
      some (d.compiled, .offeringTags hold project) := by
    simp only [step, h, Desk.compiled]
  rw [runFrom_of_step (d := d) hstep]
  refine (runFrom_of_step rfl).trans ((runFrom_of_step rfl).trans ?_)
  exact runFrom_of_step rfl

theorem runFrom_keeping (d : Desk) (hold : Hold) (query : Project.SourceQuery)
    (hk : t.settings.keepQuery = true) :
    runFrom t job d (.keeping hold query) =
      runFrom t job (d.kept t query.query) (.submitting hold query) := by
  rw [Desk.kept, if_pos hk]
  cases h : d.disk.write (t.settings.queryFile t.environment) query.query.toUTF8 with
  | ok disk =>
      have hstep : step t job d (.keeping hold query) =
          some ({ d with disk := disk }, .submitting hold query) := by
        simp only [step, h]
      rw [runFrom_of_step (d := d) hstep]
  | error e =>
      have hstep : step t job d (.keeping hold query) =
          some (d, .telling ⟨.warning, "Could not write compiled query to " ++
            (t.settings.queryFile t.environment).toString ++ ": " ++ e.message⟩
            (.submitting hold query)) := by
        simp only [step, h]
      rw [runFrom_of_step (d := d) hstep, runFrom_telling]

variable (t job) in
/-- A lone run waits for the answer and for nothing else. -/
theorem runFrom_submitting (d : Desk) (hold : Hold) (query : Project.SourceQuery) :
    ∃ now, runFrom t job d (.submitting hold query) =
      runFrom t job ((d.submit query.query).waited d.locks now)
        (judge hold query.target.text (t.ask query.query).2) := by
  let due : Duration := ⟨d.now.nanos + (t.ask query.query).1.nanos⟩
  refine ⟨if d.now < due then due else d.now, ?_⟩
  have hsubmit : step t job (d.await (.submitting hold query)) (.submitting hold query) =
      some (d.submit query.query,
        .expecting hold query.target.text due (t.ask query.query).2) := rfl
  rw [runFrom_of_step hsubmit]
  have hdue : due ≤ (if d.now < due then due else d.now) := by
    by_cases h : d.now < due
    · rw [if_pos h]
      exact Nat.le_refl due.nanos
    · rw [if_neg h]
      exact Nat.le_of_not_lt h
  apply runFrom_of_step
  show (if due ≤ (if d.now < due then due else d.now) then _ else _) = _
  rw [if_pos hdue]
  rfl

theorem runFrom_posting (d : Desk) (hold : Hold) (dg : Diagnostic) :
    runFrom t job d (.posting hold dg) =
      runFrom t job (d.publish job.path dg) (.releasing hold.ticket (.errorFound dg)) :=
  (runFrom_of_step rfl).trans (runFrom_of_step rfl)

/-- Both steps of leaving. -/
theorem runFrom_releasing (d : Desk) (ticket : Nat) (o : Outcome) :
    runFrom t job d (.releasing ticket o) =
      (d.waited ((d.locks.leave ticket).sweep job.path) d.now, .finished o) :=
  (runFrom_of_step rfl).trans ((runFrom_of_step rfl).trans (runFrom_finished _ o))

end Stages

/-! ## What the outcomes stand for -/

/-- The diagnostic that a run leaves behind. -/
def Outcome.diagnostic? : Outcome → Option Diagnostic
  | .errorFound dg => some dg
  | _ => none

/-- A run gets this query out of this project. -/
structure Finds (t : Tools) (job : Job) (d : Desk) (project : Project)
    (query : Project.SourceQuery) : Prop where
  compiled : t.compile (d.ready t job.path).disk job.workspace = .ok project
  looked_up : ∃ name, logicalName? job.path = some name ∧ query = project.queryFor name
  found : query.isFound = true

/-- A run goes beyond the checks of the file and of the workspace. -/
def Admits (d : Desk) (job : Job) : Prop :=
  (logicalName? job.path).isSome = true ∧ Workspace.isRoot d.disk job.workspace = true

/-- Two desks are the same up to waiting. -/
def UpToWaiting (d d' : Desk) : Prop :=
  d' = d.waited d'.locks d'.now

/-- **What a run did that ended so.**  It found the desk `d` and left the desk `d'`. -/
def Outcome.Performed (t : Tools) (job : Job) (d d' : Desk) : Outcome → Prop
  | .unsupported => logicalName? job.path = none ∧ d' = d.clear job.path
  | .notAWorkspace =>
    (logicalName? job.path).isSome = true ∧ Workspace.isRoot d.disk job.workspace = false ∧
      d' = (d.clear job.path).tell
        ⟨.warning, job.workspace.toString ++ " is not a Dataform workspace"⟩
  | .compilationFailed detail =>
    Admits d job ∧ ∃ e, t.compile (d.ready t job.path).disk job.workspace = .error e ∧
      detail = e.message ∧
      UpToWaiting ((d.ready t job.path).compiled.tell
        ⟨.error, "Error compiling Dataform: " ++ detail⟩) d'
  | .queryNotFound name =>
    Admits d job ∧ logicalName? job.path = some name ∧
      ∃ project, t.compile (d.ready t job.path).disk job.workspace = .ok project ∧
        (project.queryFor name).isFound = false ∧
        UpToWaiting (((d.ready t job.path).compiled.refresh project).tell
          ⟨.error, "Query for " ++ name ++ " not found in compiled json"⟩) d'
  | .transportFailed detail =>
    Admits d job ∧ ∃ project query e, Finds t job d project query ∧
      (t.ask query.query).2 = .error e ∧ detail = e.message ∧
      UpToWaiting ((d.asked t job.path project query.query).tell
        ⟨.error, "Dry run failed: " ++ detail⟩) d'
  | .errorFound dg =>
    Admits d job ∧ ∃ project query reply, Finds t job d project query ∧
      (t.ask query.query).2 = .ok reply ∧ reply.error.hasError = true ∧
      dg = t.diagnosticFor ((d.asked t job.path project query.query).textOf job.path) reply.error ∧
      UpToWaiting ((d.asked t job.path project query.query).publish job.path dg) d'
  | .success target bytes =>
    Admits d job ∧ ∃ project query reply, Finds t job d project query ∧
      (t.ask query.query).2 = .ok reply ∧ reply.error.hasError = false ∧
      target = query.target.text ∧ bytes = reply.statistics.totalBytes ∧
      UpToWaiting ((d.asked t job.path project query.query).tell
        ⟨.info, target ++ ": query is valid and will process " ++ Validation.bytesText bytes⟩) d'

section Outcomes

variable {t : Tools} {job : Job}

variable (t job) in
/-- The run ends when its lock is given back. -/
theorem runFrom_releasing_upTo (d : Desk) (ticket : Nat) (o : Outcome) :
    ∃ d', runFrom t job d (.releasing ticket o) = (d', .finished o) ∧ UpToWaiting d d' :=
  ⟨_, runFrom_releasing d ticket o, rfl⟩

theorem UpToWaiting.of_waited {d d' : Desk} {locks : Locks} {now : Duration}
    (h : UpToWaiting (d.waited locks now) d') : UpToWaiting d d' :=
  h.trans (Desk.waited_waited d locks d'.locks now d'.now)

/-- From the service on: the answer decides. -/
theorem runFrom_submitting_performed {d : Desk} {project : Project} {query : Project.SourceQuery}
    (hadm : Admits d job) (hfinds : Finds t job d project query) (locks : Locks) (now : Duration)
    (hold : Hold) :
    ∃ d' o, runFrom t job
        (((((d.ready t job.path).compiled.refresh project).kept t query.query)).waited locks now)
        (.submitting hold query) = (d', .finished o) ∧ o.Performed t job d d' := by
  obtain ⟨later, hlater⟩ := runFrom_submitting t job
    (((((d.ready t job.path).compiled.refresh project).kept t query.query)).waited locks now)
    hold query
  have hasked : ∀ l n, ((((((d.ready t job.path).compiled.refresh project).kept t
      query.query)).waited locks now).submit query.query).waited l n =
      (d.asked t job.path project query.query).waited l n := fun _ _ => rfl
  rw [hlater, hasked]
  cases hanswer : (t.ask query.query).2 with
  | error e =>
      rw [judge, runFrom_telling, Desk.waited_tell]
      obtain ⟨d', hrun, hd'⟩ := runFrom_releasing_upTo t job
        (((d.asked t job.path project query.query).tell
          ⟨.error, "Dry run failed: " ++ e.message⟩).waited _ later) hold.ticket
        (.transportFailed e.message)
      exact ⟨d', _, hrun, hadm, project, query, e, hfinds, hanswer, rfl, hd'.of_waited⟩
  | ok reply =>
      cases herror : reply.error.hasError with
      | true =>
          rw [judge, if_pos herror]
          have hlocate : ∀ d₀ : Desk, runFrom t job d₀ (.locating hold reply.error) =
              runFrom t job d₀
                (.posting hold (t.diagnosticFor (d₀.textOf job.path) reply.error)) :=
            fun d₀ => runFrom_of_step rfl
          rw [hlocate, runFrom_posting]
          obtain ⟨d', hrun, hd'⟩ := runFrom_releasing_upTo t job
            (((d.asked t job.path project query.query).publish job.path
              (t.diagnosticFor ((d.asked t job.path project query.query).textOf job.path)
                reply.error)).waited _ later) hold.ticket (.errorFound _)
          exact ⟨d', _, hrun, hadm, project, query, reply, hfinds, hanswer, herror, rfl,
            hd'.of_waited⟩
      | false =>
          rw [judge, if_neg (by rw [herror]; exact Bool.false_ne_true)]
          dsimp only
          rw [runFrom_telling, Desk.waited_tell]
          obtain ⟨d', hrun, hd'⟩ := runFrom_releasing_upTo t job
            (((d.asked t job.path project query.query).tell
              ⟨.info, query.target.text ++ ": query is valid and will process " ++
                Validation.bytesText reply.statistics.totalBytes⟩).waited _ later) hold.ticket
            (.success query.target.text reply.statistics.totalBytes)
          exact ⟨d', _, hrun, hadm, project, query, reply, hfinds, hanswer, herror, rfl, rfl,
            hd'.of_waited⟩

/-- From the compiler on: the project decides. -/
theorem runFrom_compiling_performed {d : Desk} {name : String} (hadm : Admits d job)
    (hname : logicalName? job.path = some name) (locks : Locks) (ticket : Nat) :
    ∃ d' o, runFrom t job ((d.ready t job.path).waited locks d.now)
        (.compiling ⟨ticket, name⟩) = (d', .finished o) ∧ o.Performed t job d d' := by
  cases hcompile : t.compile (d.ready t job.path).disk job.workspace with
  | error e =>
      have hc : t.compile ((d.ready t job.path).waited locks d.now).disk job.workspace =
          .error e := hcompile
      rw [runFrom_compiling_error hc]
      obtain ⟨d', hrun, hd'⟩ := runFrom_releasing_upTo t job
        (((d.ready t job.path).compiled.tell
          ⟨.error, "Error compiling Dataform: " ++ e.message⟩).waited locks d.now) ticket
        (.compilationFailed e.message)
      exact ⟨d', _, hrun, hadm, e, hcompile, rfl, hd'.of_waited⟩
  | ok project =>
      have hc : t.compile ((d.ready t job.path).waited locks d.now).disk job.workspace =
          .ok project := hcompile
      have hrefresh : ((d.ready t job.path).waited locks d.now).compiled.refresh project =
          ((d.ready t job.path).compiled.refresh project).waited locks d.now := rfl
      rw [runFrom_compiling_ok hc, hrefresh, extract]
      dsimp only
      cases hfound : (project.queryFor name).isFound with
      | false =>
          rw [if_pos (by rfl), runFrom_telling, Desk.waited_tell]
          obtain ⟨d', hrun, hd'⟩ := runFrom_releasing_upTo t job
            ((((d.ready t job.path).compiled.refresh project).tell
              ⟨.error, "Query for " ++ name ++ " not found in compiled json"⟩).waited
              locks d.now) ticket (.queryNotFound name)
          exact ⟨d', _, hrun, hadm, hname, project, hcompile, hfound, hd'.of_waited⟩
      | true =>
          have hfinds : Finds t job d project (project.queryFor name) :=
            ⟨hcompile, ⟨name, hname, rfl⟩, hfound⟩
          rw [if_neg (by simp)]
          by_cases hkeep : t.settings.keepQuery = true
          · rw [if_pos hkeep, runFrom_keeping _ _ _ hkeep, Desk.waited_kept]
            exact runFrom_submitting_performed hadm hfinds locks d.now ⟨ticket, name⟩
          · have hkept : (((d.ready t job.path).compiled.refresh project).waited locks d.now) =
                ((((d.ready t job.path).compiled.refresh project).kept t
                  (project.queryFor name).query)).waited locks d.now := by
              rw [Desk.kept, if_neg hkeep]
            rw [if_neg hkeep, hkept]
            exact runFrom_submitting_performed hadm hfinds locks d.now ⟨ticket, name⟩

variable (t job) in
/-- A lone run comes to its end, unless it waits for a lock that somebody else holds. -/
theorem runFrom_checking_performed (d : Desk) :
    (∃ d' o, runFrom t job d .checking = (d', .finished o) ∧ o.Performed t job d d') ∨
      ((∃ d' hold, runFrom t job d .checking = (d', .waiting hold)) ∧
        ((d.locks.ask job.path).1.poll (d.locks.ask job.path).2).isGranted
          (d.locks.ask job.path).2 = false) := by
  rw [runFrom_checking, check]
  cases hname : logicalName? job.path with
  | none =>
      refine Or.inl ⟨d.clear job.path, .unsupported, ?_, hname, rfl⟩
      rw [runFrom_withdrawing, runFrom_finished]
  | some name =>
      have hsome : (logicalName? job.path).isSome = true := by rw [hname]; rfl
      cases hroot : Workspace.isRoot d.disk job.workspace with
      | false =>
          refine Or.inl ⟨_, .notAWorkspace, ?_, hsome, hroot, rfl⟩
          dsimp only
          rw [if_neg Bool.false_ne_true, runFrom_withdrawing, runFrom_telling, runFrom_finished]
      | true =>
          dsimp only
          rw [if_pos rfl]
          have hask : runFrom t job d (.asking name) =
              runFrom t job (d.waited (d.locks.ask job.path).1 d.now)
                (.waiting ⟨(d.locks.ask job.path).2, name⟩) := runFrom_of_step rfl
          rw [hask]
          cases hgranted : ((d.locks.ask job.path).1.poll (d.locks.ask job.path).2).isGranted
              (d.locks.ask job.path).2 with
          | false =>
              refine Or.inr ⟨⟨_, _, runFrom_of_stuck ?_⟩, rfl⟩
              show (if ((d.locks.ask job.path).1.poll (d.locks.ask job.path).2).isGranted
                (d.locks.ask job.path).2 = true then _ else none) = none
              rw [hgranted, if_neg Bool.false_ne_true]
          | true =>
              refine Or.inl ?_
              have hgrant : runFrom t job (d.waited (d.locks.ask job.path).1 d.now)
                  (.waiting ⟨(d.locks.ask job.path).2, name⟩) =
                  runFrom t job (d.waited
                    ((d.locks.ask job.path).1.poll (d.locks.ask job.path).2) d.now)
                    (.withdrawing (if t.settings.saveFirst
                      then .saving ⟨(d.locks.ask job.path).2, name⟩
                      else .compiling ⟨(d.locks.ask job.path).2, name⟩)) := by
                apply runFrom_of_step
                show (if ((d.locks.ask job.path).1.poll (d.locks.ask job.path).2).isGranted
                  (d.locks.ask job.path).2 = true then _ else none) = _
                rw [hgranted, if_pos rfl]
                rfl
              rw [hgrant, runFrom_ready, Desk.waited_ready]
              exact runFrom_compiling_performed ⟨hsome, hroot⟩ hname _ _

end Outcomes

/-! ## A sample -/

namespace Sample

/-- The document `/w/orders.sqlx` of the workspace `/w`. -/
def orders : Job :=
  ⟨⟨true, ["w", "orders.sqlx"]⟩, ⟨true, ["w"]⟩⟩

/-- A project with one table, compiled from the sample document. -/
def project : Project :=
  ⟨[{ (default : Project.Table) with
      fileName := "definitions/orders.sqlx", query := "select x" }], [], [], [], [], default⟩

/-- A service that refuses every query on line five. -/
def tools : Tools where
  settings := .default
  environment := ⟨none, ⟨true, ["tmp"]⟩⟩
  layout := .standard
  compile := fun _ _ => .ok project
  validate := fun _ => .ok (.refused 5 8 "no x")
  latency := ⟨0⟩

/-- The sample document is open, with a block of two lines. -/
def desk : Desk :=
  .start ⟨[(["w"], .directory), (["w", "dataform.json"], .file .empty)], []⟩
    (.start .recorder (PathMap.empty.insert orders.path "config \x7b\n\x7d\n\nselect x"))

/-- The diagnostic that the sample run ends with. -/
def refusal : Diagnostic :=
  .queryError ⟨4, 8⟩ 5 "no x"

theorem logicalName?_orders : logicalName? orders.path = some "orders" := by decide

theorem isRoot_desk : Workspace.isRoot desk.disk orders.workspace = true := by
  simp only [Workspace.isRoot, Disk.exists?, Disk.find, Disk.locate, Disk.checkPath,
    String.contains_char_eq]
  decide +kernel

theorem textOf_asked (query : String) :
    (desk.asked tools orders.path project query).textOf orders.path =
      "config \x7b\n\x7d\n\nselect x" := rfl

/-- The sample run ends with the refusal. -/
theorem run_orders : ∃ d', run tools desk orders = (d', some (.errorFound refusal)) := by
  rcases runFrom_checking_performed tools orders desk with
    ⟨d', o, hrun, hperformed⟩ | ⟨-, hwaits⟩
  · refine ⟨d', ?_⟩
    rw [run, hrun]
    cases o with
    | unsupported => exact absurd hperformed.1 (by rw [logicalName?_orders]; simp)
    | notAWorkspace => exact absurd hperformed.2.1 (by rw [isRoot_desk]; simp)
    | compilationFailed detail =>
        obtain ⟨-, e, he, -⟩ := hperformed
        exact absurd he (by simp [tools])
    | queryNotFound name =>
        obtain ⟨-, hname, p, hcompile, hfound, -⟩ := hperformed
        obtain rfl : project = p := Except.ok.inj hcompile
        obtain rfl : "orders" = name := Option.some.inj (logicalName?_orders.symm.trans hname)
        exact absurd hfound (by decide)
    | transportFailed detail =>
        obtain ⟨-, p, query, e, -, he, -⟩ := hperformed
        exact absurd he (fun h => nomatch h)
    | success target bytes =>
        obtain ⟨-, p, query, reply, -, hreply, herror, -⟩ := hperformed
        obtain rfl := Except.ok.inj hreply
        exact absurd herror (by decide)
    | errorFound dg =>
        obtain ⟨-, p, query, reply, hfinds, hreply, -, hdg, -⟩ := hperformed
        obtain rfl := Except.ok.inj hreply
        obtain rfl : project = p := Except.ok.inj hfinds.compiled
        rw [textOf_asked] at hdg
        rw [hdg, show tools.diagnosticFor _ _ = refusal from by decide]
        rfl
  · exact absurd hwaits (by decide)

end Sample

end SqlxDryRun.DryRun
