import SqlxDryRun.ConfigBlock
import SqlxDryRun.DryRun.Basic
import SqlxDryRun.LineShift
import SqlxDryRun.Workspace

/-!
# Dry runs step by step

Runs may overlap, and between any two steps of one run other runs may take steps of their own. A
stage says where a run is; `step` makes the next step, if the run need not wait. A run waits for the
lock of its document and for the answer of the validation service.

Main definitions:

* `Stage`, `step`: the stages and the steps between them;
* `Stage.rank`: how far a run is from its end at most; `rank_step_lt` says that every step brings it
  nearer.
-/

namespace SqlxDryRun.DryRun

/-- The document of a run, and the workspace that is compiled. -/
structure Job where
  path : Path
  workspace : Path
deriving DecidableEq, Repr, Inhabited

/-- What a run that asked for the lock of its document goes on with: its ticket, and the logical
name of the document. -/
structure Hold where
  ticket : Nat
  name : String
deriving DecidableEq, Repr, Inhabited

/-- Where a run is: what it does next, and with which data. -/
inductive Stage where
  /-- The file and the workspace are looked at. -/
  | checking
  /-- The lock of the document is asked for. -/
  | asking (name : String)
  /-- The lock of the document is waited for. -/
  | waiting (hold : Hold)
  /-- An earlier diagnostic is taken off the board. -/
  | withdrawing (next : Stage)
  /-- The surface is told that the diagnostic is gone. -/
  | hiding (next : Stage)
  /-- A notice is shown. -/
  | telling (notice : Notice) (next : Stage)
  | saving (hold : Hold)
  | compiling (hold : Hold)
  /-- The tags on offer are replaced. -/
  | offeringTags (hold : Hold) (project : Project)
  /-- The dependencies on offer are replaced. -/
  | offeringDependencies (hold : Hold) (project : Project)
  /-- The query of the document is looked up. -/
  | extracting (hold : Hold) (project : Project)
  /-- The query is written to a file. -/
  | keeping (hold : Hold) (query : Project.SourceQuery)
  | submitting (hold : Hold) (query : Project.SourceQuery)
  /-- The answer, known already, is waited for. -/
  | expecting (hold : Hold) (target : String) (due : Duration)
      (answer : Except Validation.Failure Validation.Reply)
  /-- The place of an error is found in the document. -/
  | locating (hold : Hold) (error : Validation.QueryError)
  /-- A diagnostic is put on the board. -/
  | posting (hold : Hold) (diagnostic : Diagnostic)
  /-- The surface is told to show a diagnostic. -/
  | displaying (hold : Hold) (diagnostic : Diagnostic)
  /-- The lock is given back. -/
  | releasing (ticket : Nat) (outcome : Outcome)
  /-- The table of locks is looked after. -/
  | sweeping (outcome : Outcome)
  | finished (outcome : Outcome)
deriving Inhabited

/-- The answer that a run gets for a query, and how long it waits for it. A service that takes
longer than the time limit gives no answer. -/
def Tools.ask (t : Tools) (query : String) :
    Duration × Except Validation.Failure Validation.Reply :=
  match t.settings.service.timeout with
  | some limit =>
    if limit < t.latency then (limit, .error (.timedOut limit)) else (t.latency, t.validate query)
  | none => (t.latency, t.validate query)

/-- The diagnostic for an error that was found in the compiled query of a document with this text.
-/
def Tools.diagnosticFor (t : Tools) (text : String) (e : Validation.QueryError) : Diagnostic :=
  let span := ConfigBlock.locate (Text.lines text)
  let place := (Position.mk e.line e.column).toSource span t.queryLayout.preambleLines
  .queryError place t.queryLayout.highlightWidth e.message

/-- What a run does when it knows the service's answer. -/
def judge (hold : Hold) (target : String) :
    Except Validation.Failure Validation.Reply → Stage
  | .error e =>
    .telling ⟨.error, "Dry run failed: " ++ e.message⟩
      (.releasing hold.ticket (.transportFailed e.message))
  | .ok reply =>
    if reply.error.hasError then .locating hold reply.error
    else
      let bytes := reply.statistics.totalBytes
      .telling
        ⟨.info, target ++ ": query is valid and will process " ++ Validation.bytesText bytes⟩
        (.releasing hold.ticket (.success target bytes))

/-- What a run does with a compiled project. -/
def extract (t : Tools) (hold : Hold) (project : Project) : Stage :=
  let query := project.queryFor hold.name
  if !query.isFound then
    .telling ⟨.error, "Query for " ++ hold.name ++ " not found in compiled json"⟩
      (.releasing hold.ticket (.queryNotFound hold.name))
  else if t.settings.keepQuery then .keeping hold query
  else .submitting hold query

/-- What a run does at first: a file that is no source file, or lies in no workspace, ends it. -/
def check (disk : Disk) (job : Job) : Stage :=
  match logicalName? job.path with
  | none => .withdrawing (.finished .unsupported)
  | some name =>
    if Workspace.isRoot disk job.workspace then .asking name
    else
      .withdrawing
        (.telling ⟨.warning, job.workspace.toString ++ " is not a Dataform workspace"⟩
          (.finished .notAWorkspace))

/-- One step of a run, unless it must wait or is at its end. -/
def step (t : Tools) (job : Job) (d : Desk) : Stage → Option (Desk × Stage)
  | .checking => some (d, check d.disk job)
  | .asking name =>
    let (locks, ticket) := d.locks.ask job.path
    some ({ d with locks := locks }, .waiting ⟨ticket, name⟩)
  | .waiting hold =>
    let locks := d.locks.poll hold.ticket
    if locks.isGranted hold.ticket then
      some ({ d with locks := locks },
        .withdrawing (if t.settings.saveFirst then .saving hold else .compiling hold))
    else none
  | .withdrawing next =>
    if (d.board.get? job.path).isSome then some (d.withdraw job.path, .hiding next)
    else some (d, next)
  | .hiding next => some (d.display job.path [], next)
  | .telling notice next => some (d.tell notice, next)
  | .saving hold =>
    match d.surface.save d.disk job.path with
    | (surface, .ok disk) => some ({ d with surface := surface, disk := disk }, .compiling hold)
    | (surface, .error e) =>
      some ({ d with surface := surface },
        .telling ⟨.warning, "Could not save " ++ job.path.toString ++ ": " ++ e.message⟩
          (.compiling hold))
  | .compiling hold =>
    let d' := { d with compilations := d.compilations + 1 }
    match t.compile d.disk job.workspace with
    | .ok project => some (d', .offeringTags hold project)
    | .error e =>
      some (d', .telling ⟨.error, "Error compiling Dataform: " ++ e.message⟩
        (.releasing hold.ticket (.compilationFailed e.message)))
  | .offeringTags hold project =>
    some ({ d with offers := { d.offers with tags := project.tags } },
      .offeringDependencies hold project)
  | .offeringDependencies hold project =>
    some ({ d with offers := { d.offers with dependencies := project.dependencies } },
      .extracting hold project)
  | .extracting hold project => some (d, extract t hold project)
  | .keeping hold query =>
    let place := t.settings.queryFile t.environment
    match d.disk.write place query.query.toUTF8 with
    | .ok disk => some ({ d with disk := disk }, .submitting hold query)
    | .error e =>
      some (d, .telling
        ⟨.warning, "Could not write compiled query to " ++ place.toString ++ ": " ++ e.message⟩
        (.submitting hold query))
  | .submitting hold query =>
    let (delay, answer) := t.ask query.query
    some ({ d with submitted := d.submitted ++ [query.query] },
      .expecting hold query.target.text ⟨d.now.nanos + delay.nanos⟩ answer)
  | .expecting hold target due answer =>
    if due ≤ d.now then some (d, judge hold target answer) else none
  | .locating hold error =>
    some (d, .posting hold (t.diagnosticFor (d.textOf job.path) error))
  | .posting hold diagnostic => some (d.post job.path diagnostic, .displaying hold diagnostic)
  | .displaying hold diagnostic =>
    some (d.display job.path [diagnostic], .releasing hold.ticket (.errorFound diagnostic))
  | .releasing ticket outcome =>
    some ({ d with locks := d.locks.leave ticket }, .sweeping outcome)
  | .sweeping outcome => some ({ d with locks := d.locks.sweep job.path }, .finished outcome)
  | .finished _ => none

/-- How many steps a run is from its end at most. -/
def Stage.rank : Stage → Nat
  | .finished _ => 0
  | .sweeping _ => 1
  | .releasing .. => 2
  | .displaying .. => 3
  | .posting .. => 4
  | .locating .. => 5
  | .expecting .. => 6
  | .submitting .. => 7
  | .keeping .. => 9
  | .extracting .. => 10
  | .offeringDependencies .. => 11
  | .offeringTags .. => 12
  | .compiling _ => 13
  | .saving _ => 15
  | .waiting _ => 18
  | .asking _ => 19
  | .checking => 20
  | .telling _ next => next.rank + 1
  | .hiding next => next.rank + 1
  | .withdrawing next => next.rank + 2

/-- The outcome of a run that is at its end. -/
def Stage.outcome? : Stage → Option Outcome
  | .finished outcome => some outcome
  | _ => none

/-- A run asks for the lock of its document, or clears the document and ends. -/
theorem check_cases (disk : Disk) (job : Job) :
    (∃ name, check disk job = .asking name) ∨
    check disk job = .withdrawing (.finished .unsupported) ∨
    ∃ notice, check disk job = .withdrawing (.telling notice (.finished .notAWorkspace)) := by
  unfold check
  split
  · exact Or.inr (Or.inl rfl)
  · split
    · exact Or.inl ⟨_, rfl⟩
    · exact Or.inr (Or.inr ⟨_, rfl⟩)

/-- A run goes on with a query, or ends without one. -/
theorem extract_cases (t : Tools) (hold : Hold) (project : Project) :
    (∃ notice name, extract t hold project =
      .telling notice (.releasing hold.ticket (.queryNotFound name))) ∨
    (∃ query, extract t hold project = .keeping hold query) ∨
    ∃ query, extract t hold project = .submitting hold query := by
  unfold extract
  dsimp only
  split
  · exact Or.inl ⟨_, _, rfl⟩
  · split
    · exact Or.inr (Or.inl ⟨_, rfl⟩)
    · exact Or.inr (Or.inr ⟨_, rfl⟩)

/-- A run ends with a notice, or looks for the place of an error. -/
theorem judge_cases (hold : Hold) (target : String)
    (answer : Except Validation.Failure Validation.Reply) :
    (∃ notice detail, judge hold target answer =
      .telling notice (.releasing hold.ticket (.transportFailed detail))) ∨
    (∃ notice bytes, judge hold target answer =
      .telling notice (.releasing hold.ticket (.success target bytes))) ∨
    ∃ error, judge hold target answer = .locating hold error := by
  unfold judge
  split
  · exact Or.inl ⟨_, _, rfl⟩
  · split
    · exact Or.inr (Or.inr ⟨_, rfl⟩)
    · exact Or.inr (Or.inl ⟨_, _, rfl⟩)

theorem rank_judge_lt (hold : Hold) (target : String)
    (answer : Except Validation.Failure Validation.Reply) :
    (judge hold target answer).rank < 6 := by
  rcases judge_cases hold target answer with ⟨_, _, h⟩ | ⟨_, _, h⟩ | ⟨_, h⟩ <;>
    simp [h, Stage.rank]

theorem rank_extract_lt (t : Tools) (hold : Hold) (project : Project) :
    (extract t hold project).rank < 10 := by
  rcases extract_cases t hold project with ⟨_, _, h⟩ | ⟨_, h⟩ | ⟨_, h⟩ <;>
    simp [h, Stage.rank]

theorem rank_check_lt (disk : Disk) (job : Job) : (check disk job).rank < 20 := by
  rcases check_cases disk job with ⟨_, h⟩ | h | ⟨_, h⟩ <;> simp [h, Stage.rank]

/-- Every step brings a run nearer to its end. -/
theorem rank_step_lt {t : Tools} {job : Job} {d d' : Desk} {s s' : Stage}
    (h : step t job d s = some (d', s')) : s'.rank < s.rank := by
  cases s with
  | checking =>
      obtain ⟨-, rfl⟩ := Prod.mk.inj (Option.some.inj h)
      exact rank_check_lt d.disk job
  | waiting hold =>
      simp only [step] at h
      split at h
      · obtain ⟨-, rfl⟩ := Prod.mk.inj (Option.some.inj h)
        show (if t.settings.saveFirst then Stage.saving hold else .compiling hold).rank + 2 < 18
        split
        · show 15 + 2 < 18
          omega
        · show 13 + 2 < 18
          omega
      · exact absurd h (by simp)
  | withdrawing next =>
      simp only [step] at h
      split at h
      · obtain ⟨-, rfl⟩ := Prod.mk.inj (Option.some.inj h)
        show next.rank + 1 < next.rank + 2
        omega
      · obtain ⟨-, rfl⟩ := Prod.mk.inj (Option.some.inj h)
        show next.rank < next.rank + 2
        omega
  | saving hold =>
      simp only [step] at h
      split at h <;> obtain ⟨-, rfl⟩ := Prod.mk.inj (Option.some.inj h)
      · show 13 < 15
        omega
      · show 14 < 15
        omega
  | compiling hold =>
      simp only [step] at h
      split at h <;> obtain ⟨-, rfl⟩ := Prod.mk.inj (Option.some.inj h)
      · show 12 < 13
        omega
      · show 3 < 13
        omega
  | extracting hold project =>
      obtain ⟨-, rfl⟩ := Prod.mk.inj (Option.some.inj h)
      exact rank_extract_lt t hold project
  | keeping hold query =>
      simp only [step] at h
      split at h <;> obtain ⟨-, rfl⟩ := Prod.mk.inj (Option.some.inj h)
      · show 7 < 9
        omega
      · show 8 < 9
        omega
  | expecting hold target due answer =>
      simp only [step] at h
      split at h
      · obtain ⟨-, rfl⟩ := Prod.mk.inj (Option.some.inj h)
        exact rank_judge_lt hold target answer
      · exact absurd h (by simp)
  | finished outcome => exact absurd h (by simp [step])
  | _ =>
      -- every other stage goes on to the one just below it
      obtain ⟨-, rfl⟩ := Prod.mk.inj (Option.some.inj h)
      exact Nat.lt_succ_self _

end SqlxDryRun.DryRun
