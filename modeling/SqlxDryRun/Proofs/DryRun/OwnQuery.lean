import SqlxDryRun.Proofs.DryRun.Ledger
import SqlxDryRun.Proofs.Project.Lookup

/-!
# Whose query a run submits

A run that gets a compiled project goes on with the first table or assertion of its document's base
name, whatever file that was compiled from (`run_of_firstNamed`).  So it submits the document's own
query if nothing of another file, and nothing without a query, stands in front of it
(`run_submits_own`).  Two files of one base name in two directories are enough to mislead it
(`run_submits_twin`).
-/

namespace SqlxDryRun.DryRun

open Project (Action)

/-- What a run does with the first action of its document's base name: it submits the query and
reports the target, or there is no query to submit. -/
def Outcome.Uses (a : Action) (name : String) (d d' : Desk) (o : Outcome) : Prop :=
  if a.query = "" then o = .queryNotFound name ∧ d'.submitted = d.submitted
  else o.submits = true ∧ d'.submitted = d.submitted ++ [a.query] ∧
    ∀ target bytes, o = .success target bytes → target = a.target.text

theorem Outcome.Uses.submits {a : Action} {name : String} {d d' : Desk} {o : Outcome}
    (h : o.Uses a name d d') (hquery : a.query ≠ "") :
    o.submits = true ∧ d'.submitted = d.submitted ++ [a.query] ∧
      ∀ target bytes, o = .success target bytes → target = a.target.text := by
  rwa [Outcome.Uses, if_neg hquery] at h

section FirstMatch

variable {t : Tools} {job : Job} {d : Desk} {name : String} {project : Project} {a : Action}

theorem finds_of_firstNamed (hname : logicalName? job.path = some name)
    (hcompile : t.compile (d.ready t job.path).disk job.workspace = .ok project)
    (hfirst : project.firstNamed? name = some a) {project' : Project}
    {query : Project.SourceQuery} (h : Finds t job d project' query) :
    query = ⟨a.tags, name, a.query, a.target⟩ ∧ a.query ≠ "" := by
  obtain rfl : project = project' := Except.ok.inj (hcompile.symm.trans h.compiled)
  obtain ⟨name', hname', rfl⟩ := h.looked_up
  obtain rfl : name = name' := Option.some.inj (hname.symm.trans hname')
  have hquery := Project.queryFor_of_firstNamed hfirst
  have hfound := h.found
  rw [hquery] at hfound ⊢
  exact ⟨rfl, by simpa [Project.SourceQuery.isFound] using hfound⟩

/-- Whatever a run performed, it used the first action. -/
theorem Outcome.Performed.uses {d' : Desk} {o : Outcome} (h : o.Performed t job d d')
    (hname : logicalName? job.path = some name)
    (hroot : Workspace.isRoot d.disk job.workspace = true)
    (hcompile : t.compile (d.ready t job.path).disk job.workspace = .ok project)
    (hfirst : project.firstNamed? name = some a) : o.Uses a name d d' := by
  have hledger := h.ledger.submitted
  -- The ledger knows which query was submitted, so only the outcomes without one and the target of a
  -- success need a look at what was performed.
  have hasked : o.submits = true →
      a.query ≠ "" ∧ d'.submitted = d.submitted ++ [a.query] := by
    intro hsubmits
    rw [if_pos hsubmits] at hledger
    obtain ⟨_, query, hfinds, hsubmitted⟩ := hledger
    obtain ⟨rfl, hquery⟩ := finds_of_firstNamed hname hcompile hfirst hfinds
    exact ⟨hquery, hsubmitted⟩
  cases o with
  | unsupported => exact absurd (hname.symm.trans h.1) (Option.some_ne_none name)
  | notAWorkspace => exact nomatch hroot.symm.trans h.2.1
  | compilationFailed detail =>
      obtain ⟨-, e, he, -⟩ := h
      exact nomatch hcompile.symm.trans he
  | queryNotFound name' =>
      obtain ⟨-, hname', project', hcompile', hfound, -⟩ := h
      obtain rfl : name = name' := Option.some.inj (hname.symm.trans hname')
      obtain rfl : project = project' := Except.ok.inj (hcompile.symm.trans hcompile')
      rw [Project.queryFor_of_firstNamed hfirst] at hfound
      have hquery : a.query = "" := by simpa [Project.SourceQuery.isFound] using hfound
      rw [Outcome.Uses, if_pos hquery]
      exact ⟨rfl, hledger⟩
  | transportFailed detail =>
      obtain ⟨hquery, hsubmitted⟩ := hasked rfl
      rw [Outcome.Uses, if_neg hquery]
      exact ⟨rfl, hsubmitted, fun _ _ ho => nomatch ho⟩
  | errorFound dg =>
      obtain ⟨hquery, hsubmitted⟩ := hasked rfl
      rw [Outcome.Uses, if_neg hquery]
      exact ⟨rfl, hsubmitted, fun _ _ ho => nomatch ho⟩
  | success target bytes =>
      obtain ⟨hquery, hsubmitted⟩ := hasked rfl
      obtain ⟨-, _, query, reply, hfinds, -, -, htarget, -⟩ := h
      obtain ⟨rfl, -⟩ := finds_of_firstNamed hname hcompile hfirst hfinds
      rw [Outcome.Uses, if_neg hquery]
      refine ⟨rfl, hsubmitted, fun target' bytes' ho => ?_⟩
      obtain ⟨rfl, -⟩ := Outcome.success.inj ho
      exact htarget

/-- **The first match decides.**  A run that comes to an outcome used the first table or assertion
of its document's base name, and it does come to one if nobody else has asked for its document. -/
theorem run_of_firstNamed (hname : logicalName? job.path = some name)
    (hroot : Workspace.isRoot d.disk job.workspace = true)
    (hcompile : t.compile (d.ready t job.path).disk job.workspace = .ok project)
    (hfirst : project.firstNamed? name = some a) :
    (∀ d' o, run t d job = (d', some o) → o.Uses a name d d') ∧
      (d.locks.WellFormed → (∀ r ∈ d.locks.requests, r.path.key ≠ job.path.key) →
        ∃ d' o, run t d job = (d', some o)) := by
  rcases runFrom_checking_performed t job d with
    ⟨d₁, o₁, hrun, hperformed⟩ | ⟨⟨d₁, hold, hrun⟩, hwaits⟩
  · have heq : run t d job = (d₁, some o₁) := by
      rw [run, hrun]
      rfl
    refine ⟨fun d' o h => ?_, fun _ _ => ⟨d₁, o₁, heq⟩⟩
    obtain ⟨rfl, ho⟩ := Prod.mk.inj (heq.symm.trans h)
    obtain rfl := Option.some.inj ho
    exact hperformed.uses hname hroot hcompile hfirst
  · refine ⟨fun d' o h => ?_, fun hlocks hfree => ?_⟩
    · rw [run, hrun] at h
      cases (Prod.mk.inj h).2
    · rw [hlocks.isGranted_poll_ask hfree] at hwaits
      cases hwaits

end FirstMatch

/-- **A document is validated with its own query** if the first action of its base name is its own.
The project holds an action that was compiled from the document and has a query; if actions of the
same base name stand in front of it, then the first of them was compiled from the document, too, and
has a query.  Then the query that is submitted and the target that is reported are those of an
action compiled from the document. -/
theorem run_submits_own {t : Tools} {job : Job} {d : Desk} {name : String} {project : Project}
    {before after : List Action} {own : Action}
    (hname : logicalName? job.path = some name)
    (hroot : Workspace.isRoot d.disk job.workspace = true)
    (hcompile : t.compile (d.ready t job.path).disk job.workspace = .ok project)
    (hactions : project.actions = before ++ own :: after)
    (hown : own.IsFrom job.workspace job.path) (hquery : own.query ≠ "")
    (hbefore : ∀ a, before.find? (fun a => Project.baseName a.fileName == name) = some a →
      a.IsFrom job.workspace job.path ∧ a.query ≠ "") :
    (∃ a ∈ project.actions, a.IsFrom job.workspace job.path ∧ a.query ≠ "" ∧
      ∀ d' o, run t d job = (d', some o) →
        o.submits = true ∧ d'.submitted = d.submitted ++ [a.query] ∧
          (∀ target bytes, o = .success target bytes → target = a.target.text) ∧
          ∀ n, o ≠ .queryNotFound n) ∧
      (d.locks.WellFormed → (∀ r ∈ d.locks.requests, r.path.key ≠ job.path.key) →
        ∃ d' o, run t d job = (d', some o)) := by
  have hfirst := Project.firstNamed?_of_isFrom hactions hown hname
  obtain ⟨huses, hcomes⟩ := run_of_firstNamed hname hroot hcompile hfirst
  refine ⟨⟨_, List.mem_of_find?_eq_some hfirst, ?_⟩, hcomes⟩
  have hgood : ((before.find? fun a => Project.baseName a.fileName == name).getD own).IsFrom
        job.workspace job.path ∧
      ((before.find? fun a => Project.baseName a.fileName == name).getD own).query ≠ "" := by
    cases hfind : before.find? fun a => Project.baseName a.fileName == name with
    | none => exact ⟨hown, hquery⟩
    | some a => exact hbefore a hfind
  refine ⟨hgood.1, hgood.2, fun d' o hrun => ?_⟩
  obtain ⟨hsubmits, hsubmitted, htarget⟩ := (huses d' o hrun).submits hgood.2
  refine ⟨hsubmits, hsubmitted, htarget, ?_⟩
  rintro n rfl
  exact nomatch hsubmits

/-! ## Twins -/

namespace Sample

/-- A project with two tables of one base name, from two directories. -/
def twins : Project :=
  ⟨[{ (default : Project.Table) with
      target := ⟨"db", "s", "a_orders"⟩
      fileName := "definitions/a/orders.sqlx"
      query := "select 1" },
    { (default : Project.Table) with
      target := ⟨"db", "s", "b_orders"⟩
      fileName := "definitions/b/orders.sqlx"
      query := "select 2" }], [], [], [], [], default⟩

/-- A compiler that gives the twins, and a service that accepts every query. -/
def twinTools : Tools :=
  { tools with
    compile := fun _ _ => .ok twins
    validate := fun _ => .ok (.valid 10) }

/-- The first of the twins. -/
def firstTwin : Job :=
  ⟨⟨true, ["w", "definitions", "a", "orders.sqlx"]⟩, ⟨true, ["w"]⟩⟩

/-- The second of the twins. -/
def secondTwin : Job :=
  ⟨⟨true, ["w", "definitions", "b", "orders.sqlx"]⟩, ⟨true, ["w"]⟩⟩

end Sample

/-- The run on the first twin submits the query of its own table. -/
theorem run_submits_own_sample :
    ∃ a : Action, a.IsFrom Sample.firstTwin.workspace Sample.firstTwin.path ∧ a.query ≠ "" ∧
      ∃ d' o, run Sample.twinTools Sample.desk Sample.firstTwin = (d', some o) ∧
        d'.submitted = [a.query] := by
  obtain ⟨⟨a, -, hown, hquery, huses⟩, hcomes⟩ :=
    @run_submits_own Sample.twinTools Sample.firstTwin Sample.desk "orders" Sample.twins []
      _ _ (by decide) Sample.isRoot_desk rfl rfl (by decide) (by decide) (fun _ h => nomatch h)
  obtain ⟨d', o, hrun⟩ := hcomes Locks.wellFormed_empty (fun r hr => nomatch hr)
  exact ⟨a, hown, hquery, d', o, hrun, (huses d' o hrun).2.1⟩

/-- **The first twin takes the place of the second.**  The project holds a table that was compiled
from the second twin and has a query; the run on it submits the query of the first twin, and no
table or assertion that was compiled from it has this query. -/
theorem run_submits_twin :
    (∃ own ∈ Sample.twins.actions,
      own.IsFrom Sample.secondTwin.workspace Sample.secondTwin.path ∧ own.query ≠ "") ∧
    (∀ a ∈ Sample.twins.actions,
      a.IsFrom Sample.secondTwin.workspace Sample.secondTwin.path → a.query ≠ "select 1") ∧
    ∃ d' o, run Sample.twinTools Sample.desk Sample.secondTwin = (d', some o) ∧
      d'.submitted = ["select 1"] := by
  refine ⟨by decide, by decide, ?_⟩
  have hfirst : Sample.twins.firstNamed? "orders" =
      some ⟨"definitions/a/orders.sqlx", "select 1", [], ⟨"db", "s", "a_orders"⟩⟩ := by decide
  obtain ⟨huses, hcomes⟩ := @run_of_firstNamed Sample.twinTools Sample.secondTwin Sample.desk
    "orders" Sample.twins _ (by decide) Sample.isRoot_desk rfl hfirst
  obtain ⟨d', o, hrun⟩ := hcomes Locks.wellFormed_empty (fun r hr => nomatch hr)
  exact ⟨d', o, hrun, ((huses d' o hrun).submits (by decide)).2.1⟩

end SqlxDryRun.DryRun

