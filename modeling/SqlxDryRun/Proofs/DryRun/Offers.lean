import SqlxDryRun.DryRun.Stage

/-!
# Offers that many replace

A refresh replaces the offers in two halves, first the tags and then the dependencies.  Refreshes
that are under way at the same time may take turns between their halves: runs on different documents
do not wait for each other, and neither does the first compilation of a workspace.

* `Refreshes` is a desk with any number of refreshes, and `Refreshes.Step` lets one of them do its
  next half.  `Refreshes.exists_step` says that whatever a run does to the offers is such a step.
* `Refreshes.Halves` is the invariant: the lists on offer are those of the refreshes that did the
  first half last and the second half last.

Main statements: `Refreshes.Reachable.offers_of_finished` says whose lists are on offer when no
refresh is under way, and that they belong together if refreshes did not overlap; `mixed_offers`
says that otherwise they need not.
-/

namespace SqlxDryRun.DryRun

/-! ## The halves of a refresh -/

namespace Desk

/-- The first half of a refresh. -/
def offerTags (d : Desk) (project : Project) : Desk :=
  { d with offers := { d.offers with tags := project.tags } }

/-- The second half of a refresh. -/
def offerDependencies (d : Desk) (project : Project) : Desk :=
  { d with offers := { d.offers with dependencies := project.dependencies } }

/-- The two halves make a whole refresh. -/
theorem offerDependencies_offerTags (d : Desk) (project : Project) :
    (d.offerTags project).offerDependencies project = d.refresh project := rfl

end Desk

/-- The project with which a run begins to refresh the offers, and the project with which it goes on
to the second half. -/
def Stage.refresh? : Stage → Option Project × Option Project
  | .withdrawing next => next.refresh?
  | .hiding next => next.refresh?
  | .telling _ next => next.refresh?
  | .offeringTags _ project => (some project, none)
  | .offeringDependencies _ project => (none, some project)
  | _ => (none, none)

section Steps

variable {t : Tools} {job : Job} {d d' : Desk} {s s' : Stage}

theorem refresh?_check (disk : Disk) : (check disk job).refresh? = (none, none) := by
  rcases check_cases disk job with ⟨_, h⟩ | h | ⟨_, h⟩ <;> rw [h] <;> rfl

theorem refresh?_extract (hold : Hold) (project : Project) :
    (extract t hold project).refresh? = (none, none) := by
  rcases extract_cases t hold project with ⟨_, _, h⟩ | ⟨_, h⟩ | ⟨_, h⟩ <;> rw [h] <;> rfl

theorem refresh?_judge (hold : Hold) (target : String)
    (answer : Except Validation.Failure Validation.Reply) :
    (judge hold target answer).refresh? = (none, none) := by
  rcases judge_cases hold target answer with ⟨_, _, h⟩ | ⟨_, _, h⟩ | ⟨_, h⟩ <;> rw [h] <;> rfl

/-- What a step of a run does to the offers. -/
inductive Renews (d : Desk) (s : Stage) (d' : Desk) (s' : Stage) : Prop
  | nothing (hoffers : d'.offers = d.offers) (hs' : s'.refresh? = s.refresh?)
  /-- Nothing yet, but from now on the run has a project in hand. -/
  | calls (project : Project) (hoffers : d'.offers = d.offers) (hs : s.refresh? = (none, none))
      (hs' : s'.refresh? = (some project, none))
  | tags (project : Project) (hdesk : d' = d.offerTags project)
      (hs : s.refresh? = (some project, none)) (hs' : s'.refresh? = (none, some project))
  | dependencies (project : Project) (hdesk : d' = d.offerDependencies project)
      (hs : s.refresh? = (none, some project)) (hs' : s'.refresh? = (none, none))

/-- **A step does nothing to the offers, or it is one of the two halves of a refresh.** -/
theorem step_renews (h : step t job d s = some (d', s')) : Renews d s d' s' := by
  cases s with
  | checking =>
      obtain ⟨rfl, rfl⟩ := Prod.mk.inj (Option.some.inj h)
      exact .nothing rfl (refresh?_check d.disk)
  | waiting hold =>
      simp only [step] at h
      split at h
      · obtain ⟨rfl, rfl⟩ := Prod.mk.inj (Option.some.inj h)
        refine .nothing rfl ?_
        split <;> rfl
      · exact absurd h (by simp)
  | compiling hold =>
      simp only [step] at h
      split at h <;> obtain ⟨rfl, rfl⟩ := Prod.mk.inj (Option.some.inj h)
      · exact .calls _ rfl rfl rfl
      · exact .nothing rfl rfl
  | offeringTags hold project =>
      obtain ⟨rfl, rfl⟩ := Prod.mk.inj (Option.some.inj h)
      exact .tags project rfl rfl rfl
  | offeringDependencies hold project =>
      obtain ⟨rfl, rfl⟩ := Prod.mk.inj (Option.some.inj h)
      exact .dependencies project rfl rfl rfl
  | extracting hold project =>
      obtain ⟨rfl, rfl⟩ := Prod.mk.inj (Option.some.inj h)
      exact .nothing rfl (refresh?_extract hold project)
  | expecting hold target due answer =>
      simp only [step] at h
      split at h
      · obtain ⟨rfl, rfl⟩ := Prod.mk.inj (Option.some.inj h)
        exact .nothing rfl (refresh?_judge hold target answer)
      · exact absurd h (by simp)
  | finished o => exact absurd h (by simp [step])
  | _ =>
      -- the other stages touch no offers, and have the same project in hand before and after
      simp only [step] at h
      try split at h
      all_goals
        obtain ⟨rfl, rfl⟩ := Prod.mk.inj (Option.some.inj h)
        exact .nothing rfl rfl

end Steps

/-! ## Refreshes that overlap -/

/-- A desk, and the projects with which its offers are refreshed. -/
structure Refreshes where
  desk : Desk
  /-- The projects of refreshes that have not begun. -/
  called : List Project
  /-- The projects of refreshes that are between their halves. -/
  halfway : List Project
  /-- The projects of all refreshes that did their first half, the latest first. -/
  tagged : List Project
  /-- The projects of all refreshes that did their second half, the latest first. -/
  finished : List Project

namespace Refreshes

/-- What may happen next. -/
inductive Step : Refreshes → Refreshes → Prop
  /-- The offers are to be refreshed with one more project. -/
  | call {w : Refreshes} {d' : Desk} (project : Project) (hoffers : d'.offers = w.desk.offers) :
      Step w { w with desk := d', called := project :: w.called }
  /-- One of the refreshes does its first half. -/
  | tags {w : Refreshes} {project : Project} {others : List Project}
      (hcalled : w.called.Perm (project :: others)) :
      Step w ⟨w.desk.offerTags project, others, project :: w.halfway, project :: w.tagged,
        w.finished⟩
  /-- One of the refreshes does its second half. -/
  | dependencies {w : Refreshes} {project : Project} {others : List Project}
      (hhalfway : w.halfway.Perm (project :: others)) :
      Step w ⟨w.desk.offerDependencies project, w.called, others, w.tagged,
        project :: w.finished⟩
  /-- Something happens to the desk that does not touch the offers. -/
  | elsewhere {w : Refreshes} {d' : Desk} (hoffers : d'.offers = w.desk.offers) :
      Step w { w with desk := d' }

/-- What may have happened to a desk at which no refresh was under way at first, if all was calm in
the meantime. -/
inductive Reachable (calm : Refreshes → Prop) : Refreshes → Prop
  | start (d : Desk) : Reachable calm ⟨d, [], [], [], []⟩
  | step {w w' : Refreshes} (h : Reachable calm w) (hstep : Step w w') (hcalm : calm w') :
      Reachable calm w'

variable {w w' : Refreshes} {calm calm' : Refreshes → Prop}

theorem Reachable.mono (h : Reachable calm w) (hcalm : ∀ w, calm w → calm' w) :
    Reachable calm' w := by
  induction h with
  | start d => exact .start d
  | @step w w' _ hstep hw' ih => exact ih.step hstep (hcalm w' hw')

/-- **A step of a run is a step of refreshes**, whatever projects the others have in hand. -/
theorem exists_step {t : Tools} {job : Job} {d' : Desk} {s s' : Stage}
    {called halfway : List Project} (h : DryRun.step t job w.desk s = some (d', s'))
    (hcalled : w.called.Perm (s.refresh?.1.toList ++ called))
    (hhalfway : w.halfway.Perm (s.refresh?.2.toList ++ halfway)) :
    ∃ w', Step w w' ∧ w'.desk = d' ∧ w'.called.Perm (s'.refresh?.1.toList ++ called) ∧
      w'.halfway.Perm (s'.refresh?.2.toList ++ halfway) := by
  cases step_renews h with
  | nothing hoffers hs' =>
      rw [← hs'] at hcalled hhalfway
      exact ⟨_, .elsewhere hoffers, rfl, hcalled, hhalfway⟩
  | calls project hoffers hs hs' =>
      rw [hs] at hcalled hhalfway
      rw [hs']
      exact ⟨_, .call project hoffers, rfl, hcalled.cons project, hhalfway⟩
  | tags project hdesk hs hs' =>
      rw [hs] at hcalled hhalfway
      rw [hdesk, hs']
      exact ⟨_, .tags hcalled, rfl, .refl _, hhalfway.cons project⟩
  | dependencies project hdesk hs hs' =>
      rw [hs] at hcalled hhalfway
      rw [hdesk, hs']
      exact ⟨_, .dependencies hhalfway, rfl, hcalled, .refl _⟩

/-- Which lists are on offer. -/
structure Halves (w : Refreshes) : Prop where
  /-- Whoever did its first half is halfway or has finished. -/
  perm : w.tagged.Perm (w.halfway ++ w.finished)
  tags : ∀ project, w.tagged.head? = some project → w.desk.offers.tags = project.tags
  dependencies : ∀ project, w.finished.head? = some project →
    w.desk.offers.dependencies = project.dependencies

theorem Halves.step (h : w.Halves) (hstep : Step w w') : w'.Halves := by
  cases hstep with
  | call project hoffers =>
      exact ⟨h.perm, by rw [hoffers]; exact h.tags, by rw [hoffers]; exact h.dependencies⟩
  | @tags project others hcalled =>
      refine ⟨h.perm.cons project, fun latest hlatest => ?_, h.dependencies⟩
      obtain rfl := Option.some.inj hlatest
      rfl
  | @dependencies project others hhalfway =>
      refine ⟨?_, h.tags, fun latest hlatest => ?_⟩
      · exact (h.perm.trans (hhalfway.append_right w.finished)).trans List.perm_middle.symm
      · obtain rfl := Option.some.inj hlatest
        rfl
  | elsewhere hoffers =>
      exact ⟨h.perm, by rw [hoffers]; exact h.tags, by rw [hoffers]; exact h.dependencies⟩

theorem Reachable.halves (h : Reachable calm w) : w.Halves := by
  induction h with
  | start d => exact ⟨.refl _, by simp, by simp⟩
  | step _ hstep _ ih => exact ih.step hstep

/-- At most one refresh is between its halves. -/
def Serial (w : Refreshes) : Prop :=
  w.halfway.length ≤ 1

/-- Refreshes that do not overlap end in the order in which they began. -/
theorem Reachable.tagged_eq (h : Reachable Serial w) :
    w.Serial ∧ w.tagged = w.halfway ++ w.finished := by
  induction h with
  | start d => exact ⟨Nat.zero_le 1, rfl⟩
  | @step w w' _ hstep hserial ih =>
      obtain ⟨hbefore, hordered⟩ := ih
      refine ⟨hserial, ?_⟩
      cases hstep with
      | call project hoffers => exact hordered
      | @tags project others hcalled => rw [hordered]; rfl
      | @dependencies project others hhalfway =>
          -- this refresh was the only one that was halfway
          have hlength : others.length + 1 ≤ 1 := by
            rw [← List.length_cons, ← hhalfway.length_eq]
            exact hbefore
          obtain rfl : others = [] := List.length_eq_zero_iff.1 (by omega)
          rw [List.perm_singleton.1 hhalfway] at hordered
          exact hordered
      | elsewhere hoffers => exact hordered

/-! ## Samples -/

end Refreshes

namespace Sample

/-- A project with one table, which has a tag. -/
def hourly : Project :=
  ⟨[{ (default : Project.Table) with tags := ["hourly"] }], [], [], [], [⟨"db", "s", "clicks"⟩],
    default⟩

/-- Another project with one table. -/
def daily : Project :=
  ⟨[{ (default : Project.Table) with tags := ["daily"] }], [], [], [], [⟨"db", "s", "orders"⟩],
    default⟩

/-- A desk where nothing is on offer yet. -/
def bare : Desk :=
  .start ⟨[], []⟩ (.start .editor .empty)

/-- Two refreshes, one after the other. -/
def apart : Refreshes :=
  ⟨(bare.refresh hourly).refresh daily, [], [], [daily, hourly], [daily, hourly]⟩

theorem reachable_apart : Refreshes.Reachable Refreshes.Serial apart := by
  have hcalls : Refreshes.Reachable Refreshes.Serial ⟨bare, [hourly, daily], [], [], []⟩ :=
    ((Refreshes.Reachable.start bare).step (.call daily rfl) (Nat.zero_le 1)).step
      (.call hourly rfl) (Nat.zero_le 1)
  have hfirst := (hcalls.step (.tags (.refl _)) (Nat.le_refl 1)).step
    (.dependencies (.refl _)) (Nat.zero_le 1)
  exact (hfirst.step (.tags (.refl _)) (Nat.le_refl 1)).step
    (.dependencies (.refl _)) (Nat.zero_le 1)

/-- Two refreshes, of which the one that begins first ends last. -/
def crossed : Refreshes :=
  ⟨(((bare.offerTags hourly).offerTags daily).offerDependencies daily).offerDependencies hourly,
    [], [], [daily, hourly], [hourly, daily]⟩

theorem reachable_crossed : Refreshes.Reachable (fun _ => True) crossed := by
  have hcalls : Refreshes.Reachable (fun _ => True) ⟨bare, [hourly, daily], [], [], []⟩ :=
    ((Refreshes.Reachable.start bare).step (.call daily rfl) trivial).step
      (.call hourly rfl) trivial
  have htags := (hcalls.step (.tags (.refl _)) trivial).step (.tags (.refl _)) trivial
  exact (htags.step (.dependencies (.refl _)) trivial).step (.dependencies (.refl _)) trivial

end Sample

/-! ## Main statements -/

namespace Refreshes

variable {w : Refreshes} {calm : Refreshes → Prop}

/-- **The tags on offer are those of the refresh that did its first half last, and the dependencies
those of the refresh that did its second half last.**  However the refreshes take turns, this is so
whenever none of them is between its halves.  If there never was more than one that was, both lists
are those of the same refresh. -/
theorem Reachable.offers_of_finished (h : Reachable calm w) (hhalfway : w.halfway = [])
    (hfinished : w.finished ≠ []) :
    ∃ first ∈ w.finished, ∃ second ∈ w.finished,
      w.tagged.head? = some first ∧ w.finished.head? = some second ∧
      w.desk.offers = ⟨first.tags, second.dependencies⟩ ∧
      ((∀ w, calm w → w.Serial) → first = second) := by
  have hhalves := h.halves
  have hperm : w.tagged.Perm w.finished := by
    have := hhalves.perm
    rwa [hhalfway] at this
  obtain ⟨second, hsecond⟩ := Option.isSome_iff_exists.1 (List.isSome_head?.2 hfinished)
  have htagged : w.tagged ≠ [] := by
    intro hnil
    rw [hnil] at hperm
    exact hfinished hperm.nil_eq.symm
  obtain ⟨first, hfirst⟩ := Option.isSome_iff_exists.1 (List.isSome_head?.2 htagged)
  refine ⟨first, hperm.mem_iff.1 (List.mem_of_head? hfirst), second,
    List.mem_of_head? hsecond, hfirst, hsecond, ?_, fun hserial => ?_⟩
  · rw [← hhalves.tags first hfirst, ← hhalves.dependencies second hsecond]
  · have hordered := (h.mono hserial).tagged_eq.2
    rw [hordered, hhalfway, List.nil_append, hsecond] at hfirst
    exact (Option.some.inj hfirst).symm

/-- Two refreshes one after the other leave both lists of the second one.  When they cross, the tags
of the one remain, and the dependencies of the other. -/
theorem Reachable.offers_of_finished_sample :
    (Reachable Serial Sample.apart ∧
      Sample.apart.desk.offers = ⟨Sample.daily.tags, Sample.daily.dependencies⟩) ∧
    Reachable (fun _ => True) Sample.crossed ∧
      Sample.crossed.desk.offers = ⟨Sample.daily.tags, Sample.hourly.dependencies⟩ := by
  refine ⟨⟨Sample.reachable_apart, ?_⟩, Sample.reachable_crossed, ?_⟩
  · obtain ⟨first, -, second, -, hfirst, -, hoffers, hsame⟩ :=
      Reachable.offers_of_finished Sample.reachable_apart rfl (by simp [Sample.apart])
    obtain rfl := hsame fun _ hserial => hserial
    obtain rfl := Option.some.inj hfirst
    exact hoffers
  · obtain ⟨first, -, second, -, hfirst, hsecond, hoffers, -⟩ :=
      Reachable.offers_of_finished Sample.reachable_crossed rfl (by simp [Sample.crossed])
    obtain rfl := Option.some.inj hfirst
    obtain rfl := Option.some.inj hsecond
    exact hoffers

/-- **Refreshes that cross may leave lists that do not belong together.**  It is not so that, when
all refreshes have ended, the lists on offer are those of one of the projects. -/
theorem mixed_offers :
    ¬ ∀ w, Reachable (fun _ => True) w → w.called = [] → w.halfway = [] → w.finished ≠ [] →
      ∃ project ∈ w.finished, w.desk.offers.tags = project.tags ∧
        w.desk.offers.dependencies = project.dependencies := by
  intro hsingle
  obtain ⟨project, hproject, htags, hdependencies⟩ :=
    hsingle Sample.crossed Sample.reachable_crossed rfl rfl (by simp [Sample.crossed])
  have htwo : project = Sample.hourly ∨ project = Sample.daily := by
    simpa [Sample.crossed] using hproject
  rcases htwo with rfl | rfl
  · exact absurd htags (by decide)
  · exact absurd hdependencies (by decide)

end Refreshes

end SqlxDryRun.DryRun
