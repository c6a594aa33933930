import SqlxDryRun.Proofs.DryRun.LoneRun
import SqlxDryRun.Proofs.Surface

/-!
# The books of a dry run

The books of a desk show what the surface was told, how often the compiler was started, which
queries were submitted, and what is on offer.  `Outcome.Ledger` says what each outcome adds to them.

Main statement: `run_performs`.  A run that comes to an outcome did exactly what the outcome stands
for and nothing else, and it does come to an outcome when nobody else has asked for its document.
-/

namespace SqlxDryRun.DryRun

/-! ## The ledger -/

/-- The notices that a surface was told, in order. -/
def noticesOf (s : Surface) : List Notice :=
  s.events.filterMap fun e =>
    match e with
    | .told n => some n
    | _ => none

/-- The lists of diagnostics that a surface was told, in order, with their paths. -/
def publicationsOf (s : Surface) : List (Path × List Diagnostic) :=
  s.events.filterMap fun e =>
    match e with
    | .published p ds => some (p, ds)
    | _ => none

/-- At most `n` notices, and all of them warnings. -/
def Warnings (n : Nat) (notices : List Notice) : Prop :=
  notices.length ≤ n ∧ ∀ w ∈ notices, w.level = .warning

theorem warnings_nil (n : Nat) : Warnings n [] :=
  ⟨Nat.zero_le n, by simp⟩

theorem warnings_singleton (text : String) : Warnings 1 [⟨.warning, text⟩] :=
  ⟨Nat.le_refl 1, by simp⟩

theorem Warnings.append {m n : Nat} {as bs : List Notice} (ha : Warnings m as)
    (hb : Warnings n bs) : Warnings (m + n) (as ++ bs) := by
  refine ⟨?_, ?_⟩
  · rw [List.length_append]
    exact Nat.add_le_add ha.1 hb.1
  · intro w hw
    rcases List.mem_append.1 hw with hw | hw
    · exact ha.2 w hw
    · exact hb.2 w hw

/-- What the surface, the compiler and the service have seen so far, and what is on offer. -/
structure Books where
  kind : SurfaceKind
  notices : List Notice
  publications : List (Path × List Diagnostic)
  compilations : Nat
  submitted : List String
  offers : Offers

namespace Desk

/-- The books of a desk. -/
def books (d : Desk) : Books :=
  ⟨d.surface.kind, noticesOf d.surface, publicationsOf d.surface, d.compilations, d.submitted,
    d.offers⟩

theorem books_tell (d : Desk) (n : Notice) :
    (d.tell n).books = { d.books with notices := d.books.notices ++ [n] } := by
  simp [books, tell, Surface.tell, Surface.note, noticesOf, publicationsOf]

/-- What a list of diagnostics adds to the publications.  An editor has no place for a relative
path. -/
def entered (kind : SurfaceKind) (p : Path) (ds : List Diagnostic) :
    List (Path × List Diagnostic) :=
  if kind == .editor && !p.absolute then [] else [(p, ds)]

theorem books_display (d : Desk) (p : Path) (ds : List Diagnostic) :
    (d.display p ds).books =
      { d.books with
        publications := d.books.publications ++ entered d.surface.kind p ds } := by
  unfold display Surface.publish entered
  by_cases h : (d.surface.kind == .editor && !p.absolute) = true
  · simp only [h, if_true, List.append_nil, books]
  · simp only [h, if_false, books, Surface.note, noticesOf, publicationsOf, Bool.false_eq_true]
    simp

theorem books_publish (d : Desk) (p : Path) (dg : Diagnostic) :
    (d.publish p dg).books =
      { d.books with
        publications := d.books.publications ++ entered d.surface.kind p [dg] } :=
  books_display (d.post p dg) p [dg]

/-- Clearing a document shows no notice and starts nothing. -/
theorem books_clear (d : Desk) (p : Path) :
    (d.clear p).books =
      { d.books with
        publications := d.books.publications ++
          if (d.board.get? p).isSome then entered d.surface.kind p [] else [] } := by
  unfold clear
  by_cases h : (d.board.get? p).isSome = true
  · rw [if_pos h, if_pos h]
    exact books_display (d.withdraw p) p []
  · rw [if_neg h, if_neg h, List.append_nil]

/-- Saving writes to the disk and shows nothing by itself. -/
theorem books_save (d : Desk) (p : Path) (disk : Disk) :
    { d with surface := (d.surface.save d.disk p).1, disk := disk }.books = d.books := by
  rcases d.surface.save_fst d.disk p with h | h
  · rw [h]; rfl
  · rw [h]; simp [books, Surface.note, noticesOf, publicationsOf]

/-- At most one warning is shown when a document is saved. -/
theorem books_saved (d : Desk) (p : Path) :
    ∃ warnings, Warnings 1 warnings ∧
      (d.saved p).books = { d.books with notices := d.books.notices ++ warnings } := by
  unfold saved
  cases h : d.surface.save d.disk p with
  | mk surface result =>
      have hsurface : surface = (d.surface.save d.disk p).1 := by rw [h]
      cases result with
      | ok disk =>
          refine ⟨[], warnings_nil 1, ?_⟩
          dsimp only
          rw [hsurface, books_save, List.append_nil]
      | error e =>
          refine ⟨_, warnings_singleton ("Could not save " ++ p.toString ++ ": " ++ e.message), ?_⟩
          dsimp only
          rw [books_tell, hsurface, books_save d p d.disk]

theorem books_ready (d : Desk) (t : Tools) (p : Path) :
    ∃ warnings, Warnings 1 warnings ∧
      (d.ready t p).books =
        { (d.clear p).books with notices := d.books.notices ++ warnings } := by
  have hclear : (d.clear p).books.notices = d.books.notices := by rw [books_clear]
  unfold ready
  by_cases h : t.settings.saveFirst = true
  · rw [if_pos h]
    obtain ⟨warnings, hwarnings, hbooks⟩ := books_saved (d.clear p) p
    exact ⟨warnings, hwarnings, by rw [hbooks, hclear]⟩
  · rw [if_neg h]
    exact ⟨[], warnings_nil 1, by rw [List.append_nil, ← hclear]⟩

/-- At most one warning is shown when a query is kept. -/
theorem books_kept (d : Desk) (t : Tools) (query : String) :
    ∃ warnings, Warnings 1 warnings ∧
      (d.kept t query).books = { d.books with notices := d.books.notices ++ warnings } := by
  have hnone : ∃ warnings, Warnings 1 warnings ∧
      d.books = { d.books with notices := d.books.notices ++ warnings } :=
    ⟨[], warnings_nil 1, by rw [List.append_nil]⟩
  unfold kept
  split
  · cases d.disk.write (t.settings.queryFile t.environment) query.toUTF8 with
    | ok disk => exact hnone
    | error e => exact ⟨_, warnings_singleton _, books_tell d _⟩
  · exact hnone

/-- Up to the service: one compilation, one query, and at most two warnings. -/
theorem books_asked (d : Desk) (t : Tools) (p : Path) (project : Project) (query : String) :
    ∃ warnings, Warnings 2 warnings ∧
      (d.asked t p project query).books =
        { (d.clear p).books with
          notices := d.books.notices ++ warnings
          compilations := d.compilations + 1
          submitted := d.submitted ++ [query]
          offers := ⟨project.tags, project.dependencies⟩ } := by
  obtain ⟨saving, hsaving, hready⟩ := books_ready d t p
  obtain ⟨keeping, hkeeping, hkept⟩ :=
    books_kept ((d.ready t p).compiled.refresh project) t query
  have hrefresh : ((d.ready t p).compiled.refresh project).books =
      { (d.ready t p).books with
        compilations := (d.ready t p).books.compilations + 1
        offers := ⟨project.tags, project.dependencies⟩ } := rfl
  have hasked : (d.asked t p project query).books =
      { (((d.ready t p).compiled.refresh project).kept t query).books with
        submitted :=
          (((d.ready t p).compiled.refresh project).kept t query).books.submitted ++ [query] } :=
    rfl
  refine ⟨saving ++ keeping, hsaving.append hkeeping, ?_⟩
  rw [hasked, hkept, hrefresh, hready, books_clear, List.append_assoc]
  rfl

end Desk

/-! ## What an outcome adds -/

namespace Outcome

/-- Whether the compiler was started. -/
def compiles : Outcome → Bool
  | unsupported | notAWorkspace => false
  | _ => true

/-- Whether a project replaced the offers. -/
def refreshes : Outcome → Bool
  | unsupported | notAWorkspace | compilationFailed _ => false
  | _ => true

/-- Whether a query was submitted. -/
def submits : Outcome → Bool
  | transportFailed _ | errorFound _ | success .. => true
  | _ => false

/-- The notice that a run ends with. -/
def notice? (job : Job) : Outcome → Option Notice
  | unsupported => none
  | notAWorkspace => some ⟨.warning, job.workspace.toString ++ " is not a Dataform workspace"⟩
  | compilationFailed detail => some ⟨.error, "Error compiling Dataform: " ++ detail⟩
  | queryNotFound name =>
    some ⟨.error, "Query for " ++ name ++ " not found in compiled json"⟩
  | transportFailed detail => some ⟨.error, "Dry run failed: " ++ detail⟩
  | errorFound _ => none
  | success target bytes =>
    some ⟨.info, target ++ ": query is valid and will process " ++ Validation.bytesText bytes⟩

/-- What a run that ended so adds to the books, besides the withdrawal of an earlier diagnostic. -/
structure Ledger (t : Tools) (job : Job) (d d' : Desk) (o : Outcome) : Prop where
  compilations : d'.compilations = d.compilations + if o.compiles then 1 else 0
  /-- At most one query is submitted, and it is the one that was found. -/
  submitted : if o.submits
    then ∃ project query, Finds t job d project query ∧ d'.submitted = d.submitted ++ [query.query]
    else d'.submitted = d.submitted
  offers : if o.refreshes
    then ∃ project, t.compile (d.ready t job.path).disk job.workspace = .ok project ∧
      d'.offers = ⟨project.tags, project.dependencies⟩
    else d'.offers = d.offers
  /-- Besides the notice at the end there are only warnings: one for a document that could not be
  saved and one for a query that could not be kept. -/
  notices : ∃ warnings : List Notice,
    warnings.length ≤ (if o.compiles then 1 else 0) + (if o.submits then 1 else 0) ∧
      (∀ n ∈ warnings, n.level = .warning) ∧
      noticesOf d'.surface = noticesOf d.surface ++ warnings ++ (o.notice? job).toList
  /-- Nothing is published but the diagnostic that was found. -/
  publications : publicationsOf d'.surface =
    publicationsOf (d.clear job.path).surface ++
      o.diagnostic?.toList.flatMap fun dg => Desk.entered d.surface.kind job.path [dg]

end Outcome

section Accounts

variable {t : Tools} {job : Job} {d d' : Desk}

theorem UpToWaiting.books (h : UpToWaiting d d') : d'.books = d.books := by
  have hbooks : (d.waited d'.locks d'.now).books = d.books := rfl
  rw [← hbooks, ← show d' = d.waited d'.locks d'.now from h]

/-- The ledger is read off the books. -/
theorem Outcome.Ledger.of_books {o : Outcome} (warnings : List Notice) (submitted : List String)
    (offers : Offers)
    (hbooks : d'.books =
      { (d.clear job.path).books with
        notices := d.books.notices ++ warnings ++ (o.notice? job).toList
        publications := (d.clear job.path).books.publications ++
          o.diagnostic?.toList.flatMap fun dg => Desk.entered d.surface.kind job.path [dg]
        compilations := d.compilations + if o.compiles then 1 else 0
        submitted := submitted
        offers := offers })
    (hwarnings : Warnings ((if o.compiles then 1 else 0) + (if o.submits then 1 else 0)) warnings)
    (hsubmitted : if o.submits
      then ∃ project query, Finds t job d project query ∧
        submitted = d.submitted ++ [query.query]
      else submitted = d.submitted)
    (hoffers : if o.refreshes
      then ∃ project, t.compile (d.ready t job.path).disk job.workspace = .ok project ∧
        offers = ⟨project.tags, project.dependencies⟩
      else offers = d.offers) : o.Ledger t job d d' where
  compilations := congrArg Books.compilations hbooks
  submitted := by
    rw [show d'.submitted = submitted from congrArg Books.submitted hbooks]
    exact hsubmitted
  offers := by
    rw [show d'.offers = offers from congrArg Books.offers hbooks]
    exact hoffers
  notices := ⟨warnings, hwarnings.1, hwarnings.2, congrArg Books.notices hbooks⟩
  publications := congrArg Books.publications hbooks

/-- The ledger of a run that had its query answered. -/
theorem Outcome.Ledger.of_asked {o : Outcome} {project : Project} {query : Project.SourceQuery}
    (hfinds : Finds t job d project query) (hcompiles : o.compiles = true)
    (hrefreshes : o.refreshes = true) (hsubmits : o.submits = true)
    (hbooks : d'.books =
      { (d.asked t job.path project query.query).books with
        notices := (d.asked t job.path project query.query).books.notices ++
          (o.notice? job).toList
        publications := (d.asked t job.path project query.query).books.publications ++
          o.diagnostic?.toList.flatMap fun dg => Desk.entered
            (d.asked t job.path project query.query).books.kind job.path [dg] }) :
    o.Ledger t job d d' := by
  obtain ⟨warnings, hwarnings, hasked⟩ := d.books_asked t job.path project query.query
  rw [hasked, d.books_clear job.path] at hbooks
  refine .of_books warnings (d.submitted ++ [query.query])
    ⟨project.tags, project.dependencies⟩ ?_ ?_ ?_ ?_
  · rw [hbooks, d.books_clear job.path, hcompiles]
    rfl
  · rw [hcompiles, hsubmits]
    exact hwarnings
  · rw [hsubmits]
    exact ⟨project, query, hfinds, rfl⟩
  · rw [hrefreshes]
    exact ⟨project, hfinds.compiled, rfl⟩

/-- What a run did determines what it adds to the books. -/
theorem Outcome.Performed.ledger {o : Outcome} (h : o.Performed t job d d') :
    o.Ledger t job d d' := by
  have hclear := d.books_clear job.path
  cases o with
  | unsupported =>
      obtain ⟨-, rfl⟩ := h
      refine .of_books [] _ _ ?_ (warnings_nil _) rfl rfl
      rw [hclear]
      simp [notice?, diagnostic?, compiles, Desk.books]
  | notAWorkspace =>
      obtain ⟨-, -, rfl⟩ := h
      refine .of_books [] _ _ ?_ (warnings_nil _) rfl rfl
      rw [Desk.books_tell, hclear]
      simp [notice?, diagnostic?, compiles, Desk.books]
  | compilationFailed detail =>
      obtain ⟨-, e, -, -, hd'⟩ := h
      obtain ⟨warnings, hwarnings, hready⟩ := d.books_ready t job.path
      have hcompiled : (d.ready t job.path).compiled.books =
          { (d.ready t job.path).books with
            compilations := (d.ready t job.path).books.compilations + 1 } := rfl
      refine .of_books warnings _ _ ?_ hwarnings rfl rfl
      rw [hd'.books, Desk.books_tell, hcompiled, hready, hclear]
      simp [notice?, diagnostic?, compiles, Desk.books]
  | queryNotFound name =>
      obtain ⟨-, -, project, hcompile, -, hd'⟩ := h
      obtain ⟨warnings, hwarnings, hready⟩ := d.books_ready t job.path
      have hrefresh : ((d.ready t job.path).compiled.refresh project).books =
          { (d.ready t job.path).books with
            compilations := (d.ready t job.path).books.compilations + 1
            offers := ⟨project.tags, project.dependencies⟩ } := rfl
      refine .of_books warnings _ _ ?_ hwarnings rfl ⟨project, hcompile, rfl⟩
      rw [hd'.books, Desk.books_tell, hrefresh, hready, hclear]
      simp [notice?, diagnostic?, compiles, Desk.books]
  | transportFailed detail =>
      obtain ⟨-, project, query, e, hfinds, -, -, hd'⟩ := h
      refine .of_asked hfinds rfl rfl rfl ?_
      rw [hd'.books, Desk.books_tell]
      simp [notice?, diagnostic?]
  | errorFound dg =>
      obtain ⟨-, project, query, reply, hfinds, -, -, -, hd'⟩ := h
      refine .of_asked hfinds rfl rfl rfl ?_
      rw [hd'.books, Desk.books_publish]
      simp [notice?, diagnostic?, Desk.books]
  | success target bytes =>
      obtain ⟨-, project, query, reply, hfinds, -, -, -, -, hd'⟩ := h
      refine .of_asked hfinds rfl rfl rfl ?_
      rw [hd'.books, Desk.books_tell]
      simp [notice?, diagnostic?]

end Accounts

/-- **A run does what its outcome stands for.**  If a run comes to an outcome, then it did exactly
what the outcome stands for, and its entries in the books are those of the outcome.  It does come to
an outcome if nobody else has asked for its document. -/
theorem run_performs (t : Tools) (d : Desk) (job : Job) :
    (∀ d' o, run t d job = (d', some o) → o.Performed t job d d' ∧ o.Ledger t job d d') ∧
      (d.locks.WellFormed → (∀ r ∈ d.locks.requests, r.path.key ≠ job.path.key) →
        ∃ d' o, run t d job = (d', some o)) := by
  rcases runFrom_checking_performed t job d with
    ⟨d₁, o₁, hrun, hperformed⟩ | ⟨⟨d₁, hold, hrun⟩, hwaits⟩
  · have heq : run t d job = (d₁, some o₁) := by
      rw [run, hrun]
      rfl
    refine ⟨?_, fun _ _ => ⟨d₁, o₁, heq⟩⟩
    intro d' o h
    rw [heq] at h
    obtain ⟨rfl, ho⟩ := Prod.mk.inj h
    obtain rfl := Option.some.inj ho
    exact ⟨hperformed, hperformed.ledger⟩
  · refine ⟨?_, ?_⟩
    · intro d' o h
      rw [run, hrun] at h
      exact absurd (Prod.mk.inj h).2 (by simp [Stage.outcome?])
    · intro hlocks hfree
      rw [hlocks.isGranted_poll_ask hfree] at hwaits
      exact absurd hwaits (by simp)

/-- The sample run: one compilation, the query that was found, no notice, and the refusal. -/
theorem run_performs_sample :
    ∃ d', run Sample.tools Sample.desk Sample.orders = (d', some (.errorFound Sample.refusal)) ∧
      (Outcome.errorFound Sample.refusal).Performed Sample.tools Sample.orders Sample.desk d' ∧
      (Outcome.errorFound Sample.refusal).Ledger Sample.tools Sample.orders Sample.desk d' ∧
      d'.compilations = 1 ∧
      publicationsOf d'.surface = [(Sample.orders.path, [Sample.refusal])] := by
  obtain ⟨h, hcomes⟩ := run_performs Sample.tools Sample.desk Sample.orders
  obtain ⟨d', o, hrun⟩ := hcomes Locks.wellFormed_empty (fun r hr => nomatch hr)
  obtain ⟨d₁, hsample⟩ := Sample.run_orders
  obtain ⟨rfl, ho⟩ := Prod.mk.inj (hsample.symm.trans hrun)
  obtain rfl := Option.some.inj ho
  obtain ⟨hperformed, hledger⟩ := h d₁ _ hrun
  exact ⟨d₁, hrun, hperformed, hledger, hledger.compilations, hledger.publications⟩

end SqlxDryRun.DryRun
