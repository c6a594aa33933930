import SqlxDryRun.Proofs.DryRun.LoneRun
import SqlxDryRun.Proofs.Surface

/-!
# What is shown for a document

A diagnostic appears on the board before it appears on the surface, and it disappears in the same
order, so in the middle of a run the two may differ.  `Stage.Shows` says how far they agree at each
stage; every step of a run keeps it (`step_shows`), and no step touches what is shown for other
documents (`step_sight_of_ne`).

Main statement: `History.shows_latest`.  After any calls one after the other, the board and the
surface have for each document exactly what the latest call for it has found, and a call for another
document changes neither.
-/

namespace SqlxDryRun.DryRun

/-! ## What is seen of a document -/

/-- What the board has for a path, and what the surface shows for it. -/
def Desk.sight (d : Desk) (p : Path) : Option Diagnostic × List Diagnostic :=
  (d.board.get? p, d.surface.shownFor p)

theorem Desk.sight_congr (d : Desk) {p q : Path} (h : q.key = p.key) : d.sight q = d.sight p := by
  rw [sight, sight, d.board.get?_congr h, d.surface.shownFor_congr h]

/-- Board and surface agree that this is the diagnostic of a document, if it has one. -/
def agreed (dg : Option Diagnostic) : Option Diagnostic × List Diagnostic :=
  (dg, dg.toList)

/-- What is seen of the document of a run when the run is at a stage. -/
def Stage.Shows : Stage → Option Diagnostic × List Diagnostic → Prop
  | .checking, sight => sight = agreed sight.1
  | .asking _, sight => sight = agreed sight.1
  | .waiting _, sight => sight = agreed sight.1
  | .withdrawing next, sight => sight = agreed sight.1 ∧ next.Shows (agreed none)
  | .hiding next, sight => sight.1 = none ∧ next.Shows (agreed none)
  | .telling _ next, sight => next.Shows sight
  | .displaying _ dg, sight => sight.1 = some dg
  | .releasing _ o, sight => sight = agreed o.diagnostic?
  | .sweeping o, sight => sight = agreed o.diagnostic?
  | .finished o, sight => sight = agreed o.diagnostic?
  | _, sight => sight = agreed none

/-! ## Single steps -/

section Steps

variable {t : Tools} {job : Job} {d d' : Desk} {s s' : Stage}

theorem shows_check (disk : Disk) (dg : Option Diagnostic) :
    (check disk job).Shows (agreed dg) := by
  rcases check_cases disk job with ⟨_, h⟩ | h | ⟨_, h⟩ <;> rw [h]
  · exact rfl
  · exact ⟨rfl, rfl⟩
  · exact ⟨rfl, rfl⟩

theorem shows_extract (hold : Hold) (project : Project) :
    (extract t hold project).Shows (agreed none) := by
  rcases extract_cases t hold project with ⟨_, _, h⟩ | ⟨_, h⟩ | ⟨_, h⟩ <;> rw [h] <;> exact rfl

theorem shows_judge (hold : Hold) (target : String)
    (answer : Except Validation.Failure Validation.Reply) :
    (judge hold target answer).Shows (agreed none) := by
  rcases judge_cases hold target answer with ⟨_, _, h⟩ | ⟨_, _, h⟩ | ⟨_, h⟩ <;> rw [h] <;>
    exact rfl

/-- Saving a document changes nothing of what is seen. -/
theorem step_saving_sight {hold : Hold} (h : step t job d (.saving hold) = some (d', s'))
    (q : Path) : d'.sight q = d.sight q := by
  have hshown := d.surface.shownFor_save d.disk job.path q
  simp only [step] at h
  split at h <;> rename_i hsave <;> rw [hsave] at hshown <;>
    obtain ⟨rfl, -⟩ := Prod.mk.inj (Option.some.inj h) <;> exact Prod.ext rfl hshown

theorem step_saving_next {hold : Hold} (h : step t job d (.saving hold) = some (d', s')) :
    s' = .compiling hold ∨ ∃ notice, s' = .telling notice (.compiling hold) := by
  simp only [step] at h
  split at h
  · exact Or.inl (Prod.mk.inj (Option.some.inj h)).2.symm
  · exact Or.inr ⟨_, (Prod.mk.inj (Option.some.inj h)).2.symm⟩

/-- **Every step keeps board and surface together**, as far as its stage says. -/
theorem step_shows (h : step t job d s = some (d', s')) (hp : d.surface.Serves job.path)
    (hs : s.Shows (d.sight job.path)) : s'.Shows (d'.sight job.path) := by
  cases s with
  | checking =>
      obtain ⟨rfl, rfl⟩ := Prod.mk.inj (Option.some.inj h)
      rw [show d.sight job.path = _ from hs]
      exact shows_check d.disk _
  | asking name =>
      obtain ⟨rfl, rfl⟩ := Prod.mk.inj (Option.some.inj h)
      exact hs
  | waiting hold =>
      simp only [step] at h
      split at h
      · obtain ⟨rfl, rfl⟩ := Prod.mk.inj (Option.some.inj h)
        refine ⟨hs, ?_⟩
        split <;> exact rfl
      · exact absurd h (by simp)
  | withdrawing next =>
      obtain ⟨hsight, hnext⟩ := hs
      simp only [step] at h
      split at h
      · obtain ⟨rfl, rfl⟩ := Prod.mk.inj (Option.some.inj h)
        refine ⟨?_, hnext⟩
        show (d.board.erase job.path).get? job.path = none
        rw [PathMap.get?_erase, if_pos rfl]
      · rename_i hnone
        obtain ⟨rfl, rfl⟩ := Prod.mk.inj (Option.some.inj h)
        rw [hsight, show (d.sight job.path).1 = none from Option.not_isSome_iff_eq_none.1 hnone]
        exact hnext
  | «hiding» next =>
      obtain ⟨hboard, hnext⟩ := hs
      obtain ⟨rfl, rfl⟩ := Prod.mk.inj (Option.some.inj h)
      have hsight : (d.display job.path []).sight job.path = agreed none :=
        Prod.ext hboard (Surface.shownFor_publish hp [])
      rw [hsight]
      exact hnext
  | telling notice next =>
      obtain ⟨rfl, rfl⟩ := Prod.mk.inj (Option.some.inj h)
      exact hs
  | saving hold =>
      rw [step_saving_sight h]
      rcases step_saving_next h with rfl | ⟨notice, rfl⟩ <;> exact hs
  | compiling hold =>
      simp only [step] at h
      split at h <;> obtain ⟨rfl, rfl⟩ := Prod.mk.inj (Option.some.inj h) <;> exact hs
  | offeringTags hold project =>
      obtain ⟨rfl, rfl⟩ := Prod.mk.inj (Option.some.inj h)
      exact hs
  | offeringDependencies hold project =>
      obtain ⟨rfl, rfl⟩ := Prod.mk.inj (Option.some.inj h)
      exact hs
  | extracting hold project =>
      obtain ⟨rfl, rfl⟩ := Prod.mk.inj (Option.some.inj h)
      rw [show d.sight job.path = _ from hs]
      exact shows_extract hold project
  | keeping hold query =>
      simp only [step] at h
      split at h <;> obtain ⟨rfl, rfl⟩ := Prod.mk.inj (Option.some.inj h) <;> exact hs
  | submitting hold query =>
      obtain ⟨rfl, rfl⟩ := Prod.mk.inj (Option.some.inj h)
      exact hs
  | expecting hold target due answer =>
      simp only [step] at h
      split at h
      · obtain ⟨rfl, rfl⟩ := Prod.mk.inj (Option.some.inj h)
        rw [show d.sight job.path = _ from hs]
        exact shows_judge hold target answer
      · exact absurd h (by simp)
  | locating hold error =>
      obtain ⟨rfl, rfl⟩ := Prod.mk.inj (Option.some.inj h)
      exact hs
  | posting hold dg =>
      obtain ⟨rfl, rfl⟩ := Prod.mk.inj (Option.some.inj h)
      show (d.board.insert job.path dg).get? job.path = some dg
      rw [PathMap.get?_insert, if_pos rfl]
  | displaying hold dg =>
      obtain ⟨rfl, rfl⟩ := Prod.mk.inj (Option.some.inj h)
      exact Prod.ext hs (Surface.shownFor_publish hp [dg])
  | releasing ticket o =>
      obtain ⟨rfl, rfl⟩ := Prod.mk.inj (Option.some.inj h)
      exact hs
  | sweeping o =>
      obtain ⟨rfl, rfl⟩ := Prod.mk.inj (Option.some.inj h)
      exact hs
  | finished o => exact absurd h (by simp [step])

/-- No step touches what is seen of other documents. -/
theorem step_sight_of_ne (h : step t job d s = some (d', s')) {q : Path}
    (hq : q.key ≠ job.path.key) : d'.sight q = d.sight q := by
  cases s with
  | withdrawing next =>
      simp only [step] at h
      split at h
      · obtain ⟨rfl, rfl⟩ := Prod.mk.inj (Option.some.inj h)
        refine Prod.ext ?_ rfl
        exact (PathMap.get?_erase d.board job.path q).trans (if_neg hq)
      · obtain ⟨rfl, rfl⟩ := Prod.mk.inj (Option.some.inj h)
        rfl
  | «hiding» next =>
      obtain ⟨rfl, rfl⟩ := Prod.mk.inj (Option.some.inj h)
      exact Prod.ext rfl (d.surface.shownFor_publish_of_ne hq [])
  | saving hold => exact step_saving_sight h q
  | posting hold dg =>
      obtain ⟨rfl, rfl⟩ := Prod.mk.inj (Option.some.inj h)
      refine Prod.ext ?_ rfl
      exact (PathMap.get?_insert d.board job.path q dg).trans (if_neg hq)
  | displaying hold dg =>
      obtain ⟨rfl, rfl⟩ := Prod.mk.inj (Option.some.inj h)
      exact Prod.ext rfl (d.surface.shownFor_publish_of_ne hq [dg])
  | _ =>
      -- the other stages touch neither the board nor the surface's diagnostics
      simp only [step] at h
      try split at h
      all_goals
        simp only [Option.some.injEq, Prod.mk.injEq, reduceCtorEq] at h
        try obtain ⟨rfl, -⟩ := h
        try rfl

/-- No step changes what kind of surface there is. -/
theorem step_kind (h : step t job d s = some (d', s')) : d'.surface.kind = d.surface.kind := by
  cases s with
  | withdrawing next =>
      simp only [step] at h
      split at h <;> obtain ⟨rfl, -⟩ := Prod.mk.inj (Option.some.inj h) <;> rfl
  | «hiding» next =>
      obtain ⟨rfl, -⟩ := Prod.mk.inj (Option.some.inj h)
      exact d.surface.kind_publish job.path []
  | saving hold =>
      have hkind := d.surface.kind_save d.disk job.path
      simp only [step] at h
      split at h <;> rename_i hsave <;> rw [hsave] at hkind <;>
        obtain ⟨rfl, -⟩ := Prod.mk.inj (Option.some.inj h) <;> exact hkind
  | displaying hold dg =>
      obtain ⟨rfl, -⟩ := Prod.mk.inj (Option.some.inj h)
      exact d.surface.kind_publish job.path [dg]
  | _ =>
      simp only [step] at h
      try split at h
      all_goals
        simp only [Option.some.injEq, Prod.mk.injEq, reduceCtorEq] at h
        try obtain ⟨rfl, -⟩ := h
        try rfl

end Steps

/-! ## Whole runs -/

section Runs

variable {t : Tools} {job : Job} {d d' : Desk}

theorem sight_await (d : Desk) (s : Stage) (p : Path) : (d.await s).sight p = d.sight p := by
  unfold Desk.await
  split <;> rfl

theorem surface_await (d : Desk) (s : Stage) : (d.await s).surface = d.surface := by
  unfold Desk.await
  split <;> rfl

variable (t job) in
/-- What every step keeps is kept by a lone run. -/
theorem runFrom_keeps {I : Desk → Stage → Prop}
    (hstep : ∀ d s d' s', I d s → step t job (d.await s) s = some (d', s') → I d' s')
    {s : Stage} (h : I d s) : I (runFrom t job d s).1 (runFrom t job d s).2 := by
  fun_induction runFrom t job d s with
  | case1 d s hstuck => exact h
  | case2 d s d' s' hs ih => exact ih (hstep d s d' s' h hs)

theorem run_kind (job : Job) (d : Desk) : (run t d job).1.surface.kind = d.surface.kind := by
  refine runFrom_keeps t job (I := fun d₁ _ => d₁.surface.kind = d.surface.kind) ?_ rfl
  intro d₁ s d₂ s' hkind hs
  rw [step_kind hs, surface_await, hkind]

/-- A run that came to its end has left what it found, on the board and on the surface. -/
theorem run_sight {o : Outcome} (h : run t d job = (d', some o)) {dg : Option Diagnostic}
    (hp : d.surface.Serves job.path) (hd : d.sight job.path = agreed dg) :
    d'.sight job.path = agreed o.diagnostic? := by
  have hkeeps := runFrom_keeps t job (d := d) (s := .checking)
    (I := fun d₁ s => d₁.surface.Serves job.path ∧ s.Shows (d₁.sight job.path))
    (by
      rintro d₁ s d₂ s' ⟨hp₁, hshows⟩ hs
      rw [← surface_await d₁ s] at hp₁
      rw [← sight_await d₁ s] at hshows
      exact ⟨hp₁.of_kind (step_kind hs), step_shows hs hp₁ hshows⟩)
    ⟨hp, by rw [hd]; rfl⟩
  obtain ⟨hdesk, hstage⟩ := Prod.mk.inj h
  rw [hdesk] at hkeeps
  cases hs : (runFrom t job d .checking).2 with
  | finished o' =>
      rw [hs] at hstage hkeeps
      obtain rfl := Option.some.inj hstage
      exact hkeeps.2
  | _ =>
      rw [hs] at hstage
      exact absurd hstage (by simp [Stage.outcome?])

/-- A run changes nothing of what is seen of other documents. -/
theorem run_sight_of_ne {q : Path} (hq : q.key ≠ job.path.key) (t : Tools) (d : Desk) :
    (run t d job).1.sight q = d.sight q := by
  refine runFrom_keeps t job (I := fun d₁ _ => d₁.sight q = d.sight q) ?_ rfl
  intro d₁ s d₂ s' hsight hs
  rw [step_sight_of_ne hs hq, sight_await, hsight]

end Runs

/-! ## Runs one after the other -/

/-- A run that came to its end. -/
structure Call where
  job : Job
  outcome : Outcome

/-- What the latest of some calls for a document has found in it.  The latest call comes first. -/
def found? (calls : List Call) (p : Path) : Option Diagnostic :=
  (calls.find? fun c => c.job.path.same p).bind fun c => c.outcome.diagnostic?

theorem found?_cons_of_eq {c : Call} {p : Path} (h : c.job.path.key = p.key)
    (calls : List Call) : found? (c :: calls) p = c.outcome.diagnostic? := by
  have hsame : c.job.path.same p = true := beq_iff_eq.2 h
  simp only [found?, List.find?_cons, hsame, Option.bind_some]

theorem found?_cons_of_ne {c : Call} {p : Path} (h : c.job.path.key ≠ p.key)
    (calls : List Call) : found? (c :: calls) p = found? calls p := by
  have hsame : c.job.path.same p = false := beq_eq_false_iff_ne.2 h
  simp only [found?, List.find?_cons, hsame]

/-- Calls one after the other, the latest first, and the desk that they have left.  At first nothing
is shown.  Each call brings its own tools, and between two calls anything may happen to the desk
that does not touch the board and the diagnostics on the surface. -/
inductive History : List Call → Desk → Prop
  | start {d : Desk} (hnothing : ∀ p, d.sight p = agreed none) : History [] d
  | between {calls : List Call} {d d' : Desk} (h : History calls d)
      (hsight : ∀ p, d'.sight p = d.sight p) (hkind : d'.surface.kind = d.surface.kind) :
      History calls d'
  | call {calls : List Call} {t : Tools} {job : Job} {d d' : Desk} {o : Outcome}
      (h : History calls d) (hrun : run t d job = (d', some o)) :
      History (⟨job, o⟩ :: calls) d'

theorem History.sight {calls : List Call} {d : Desk} (h : History calls d) {p : Path}
    (hp : d.surface.Serves p) : d.sight p = agreed (found? calls p) := by
  induction h with
  | start hnothing => exact hnothing p
  | between _ hsight hkind ih =>
      rw [hsight p]
      exact ih (hp.of_kind hkind.symm)
  | @call calls t job d d' o _ hrun ih =>
      have hkind := run_kind (t := t) job d
      rw [hrun] at hkind
      replace hp := hp.of_kind hkind.symm
      by_cases hk : p.key = job.path.key
      · have hjob : d.surface.Serves job.path := fun he =>
          (congrArg Prod.fst hk).symm.trans (hp he)
        rw [found?_cons_of_eq hk.symm, d'.sight_congr hk]
        exact run_sight hrun hjob ((d.sight_congr hk).symm.trans (ih hp))
      · have hother := run_sight_of_ne hk t d
        rw [hrun] at hother
        rw [found?_cons_of_ne (Ne.symm hk), hother]
        exact ih hp

/-- **The latest call decides what is shown.**  After any calls, the board and the surface have for
each document the diagnostic that the latest call for it ended with, if it ended with one, and
nothing otherwise.  No call for another document changes what is shown for this one. -/
theorem History.shows_latest {calls : List Call} {d : Desk} (h : History calls d) {p : Path}
    (hp : d.surface.Serves p) :
    d.surface.shownFor p = (found? calls p).toList ∧ d.board.get? p = found? calls p ∧
      ∀ (t : Tools) (job : Job), job.path.key ≠ p.key →
        (run t d job).1.surface.shownFor p = d.surface.shownFor p ∧
          (run t d job).1.board.get? p = d.board.get? p := by
  have hsight := h.sight hp
  refine ⟨congrArg Prod.snd hsight, congrArg Prod.fst hsight, ?_⟩
  intro t job hne
  have hother := run_sight_of_ne (Ne.symm hne) t d
  exact ⟨congrArg Prod.snd hother, congrArg Prod.fst hother⟩

/-- After the sample run its refusal is shown on the recorder, and nothing for other documents. -/
theorem History.shows_latest_sample :
    ∃ d, History [⟨Sample.orders, .errorFound Sample.refusal⟩] d ∧ (∀ p, d.surface.Serves p) ∧
      d.surface.shownFor Sample.orders.path = [Sample.refusal] ∧
      d.board.get? Sample.orders.path = some Sample.refusal ∧
      d.surface.shownFor Sample.orders.workspace = [] := by
  obtain ⟨d, hrun⟩ := Sample.run_orders
  have hhistory := History.call (.start fun p => rfl) hrun
  have hkind := run_kind (t := Sample.tools) Sample.orders Sample.desk
  rw [hrun] at hkind
  have hserves := Surface.serves_of_ne_editor (s := d.surface) (by rw [hkind]; decide)
  obtain ⟨hshown, hboard, -⟩ := History.shows_latest hhistory (hserves Sample.orders.path)
  obtain ⟨hother, -, -⟩ := History.shows_latest hhistory (hserves Sample.orders.workspace)
  exact ⟨d, hhistory, hserves, hshown, hboard, hother⟩

end SqlxDryRun.DryRun
