import SqlxDryRun.Proofs.DryRun.Interleaving

/-!
# Runs that end early

A run whose file is no source file, or lies in no workspace, clears its document and ends.  It does
not ask for the lock of the document, so it may do this while another run holds it.

* `Stage.owed?` is what a run has changed on the board and has yet to tell the surface.
* `Crowd` is a world together with runs that end early.  It is calm (`Crowd.Calm`) if nobody else
  owes something for a document while such a run does.
* `Settled` is the invariant of the crowds that were calm all the time: board and surface agree on
  all documents for which nothing is owed.

Main statements: `Crowd.Reachable.agree_of_paid`, and `Crowd.stranded`, which says that in a crowd
that is not calm a diagnostic may go on being shown that is no longer on the board.
-/

namespace SqlxDryRun.DryRun

/-! ## What a run owes the surface -/

/-- What the board has for the document of a run, and the surface is told next. -/
def Stage.owed? : Stage → Option (Option Diagnostic)
  | .hiding _ => some none
  | .displaying _ diagnostic => some (some diagnostic)
  | _ => none

/-- What comes after clearing a document or showing a notice owes nothing. -/
def Stage.Plain : Stage → Prop
  | .withdrawing next => next.owed? = none ∧ next.Plain
  | .hiding next => next.owed? = none ∧ next.Plain
  | .telling _ next => next.owed? = none ∧ next.Plain
  | _ => True

/-- A run that ends before it asks for the lock of its document. -/
def Stage.Leaving : Stage → Prop
  | .withdrawing next => next.Leaving
  | .hiding next => next.Leaving
  | .telling _ next => next.Leaving
  | .finished outcome => outcome = .unsupported ∨ outcome = .notAWorkspace
  | _ => False

/-- Whether a run owes something for a document. -/
def Run.owes (r : Run) (p : Path) : Bool :=
  r.job.path.same p && r.stage.owed?.isSome

/-- The runs that owe something for a document. -/
def owing (runs : List Run) (p : Path) : List Run :=
  runs.filter fun r => r.owes p

section Steps

variable {t : Tools} {job : Job} {d d' : Desk} {s s' : Stage}

theorem plain_check (disk : Disk) (job : Job) :
    (check disk job).owed? = none ∧ (check disk job).Plain := by
  rcases check_cases disk job with ⟨_, h⟩ | h | ⟨_, h⟩ <;> rw [h]
  · exact ⟨rfl, trivial⟩
  · exact ⟨rfl, rfl, trivial⟩
  · exact ⟨rfl, rfl, rfl, trivial⟩

theorem plain_extract (hold : Hold) (project : Project) :
    (extract t hold project).owed? = none ∧ (extract t hold project).Plain := by
  rcases extract_cases t hold project with ⟨_, _, h⟩ | ⟨_, h⟩ | ⟨_, h⟩ <;> rw [h]
  · exact ⟨rfl, rfl, trivial⟩
  · exact ⟨rfl, trivial⟩
  · exact ⟨rfl, trivial⟩

theorem plain_judge (hold : Hold) (target : String)
    (answer : Except Validation.Failure Validation.Reply) :
    (judge hold target answer).owed? = none ∧ (judge hold target answer).Plain := by
  rcases judge_cases hold target answer with ⟨_, _, h⟩ | ⟨_, _, h⟩ | ⟨_, h⟩ <;> rw [h]
  · exact ⟨rfl, rfl, trivial⟩
  · exact ⟨rfl, rfl, trivial⟩
  · exact ⟨rfl, trivial⟩

/-- What a step does to what is owed for the document `p`. -/
inductive Pays (p : Path) (d : Desk) (s : Stage) (d' : Desk) (s' : Stage) : Prop
  | neither (hs : s.owed? = none) (hs' : s'.owed? = none) (hsight : d'.sight p = d.sight p)
  | begins {owed : Option Diagnostic} (hs : s.owed? = none) (hs' : s'.owed? = some owed)
      (hboard : (d'.sight p).1 = owed)
  | ends {owed : Option Diagnostic} (hs : s.owed? = some owed) (hs' : s'.owed? = none)
      (hboard : (d'.sight p).1 = (d.sight p).1)
      (hshown : d.surface.Serves p → (d'.sight p).2 = owed.toList)

/-- **A step changes the board, pays what is owed for that, or does neither.** -/
theorem step_pays (h : step t job d s = some (d', s')) (hs : s.Plain) :
    Pays job.path d s d' s' ∧ s'.Plain := by
  cases s with
  | checking =>
      obtain ⟨rfl, rfl⟩ := Prod.mk.inj (Option.some.inj h)
      obtain ⟨howed, hplain⟩ := plain_check d.disk job
      exact ⟨.neither rfl howed rfl, hplain⟩
  | waiting hold =>
      simp only [step] at h
      split at h
      · obtain ⟨rfl, rfl⟩ := Prod.mk.inj (Option.some.inj h)
        refine ⟨.neither rfl rfl rfl, ?_⟩
        split <;> exact ⟨rfl, trivial⟩
      · exact absurd h (by simp)
  | withdrawing next =>
      simp only [step] at h
      split at h
      · obtain ⟨rfl, rfl⟩ := Prod.mk.inj (Option.some.inj h)
        refine ⟨.begins rfl rfl ?_, hs⟩
        show (d.board.erase job.path).get? job.path = none
        rw [PathMap.get?_erase, if_pos rfl]
      · obtain ⟨rfl, rfl⟩ := Prod.mk.inj (Option.some.inj h)
        exact ⟨.neither rfl hs.1 rfl, hs.2⟩
  | «hiding» next =>
      obtain ⟨rfl, rfl⟩ := Prod.mk.inj (Option.some.inj h)
      exact ⟨.ends rfl hs.1 rfl fun hp => Surface.shownFor_publish hp [], hs.2⟩
  | telling notice next =>
      obtain ⟨rfl, rfl⟩ := Prod.mk.inj (Option.some.inj h)
      exact ⟨.neither rfl hs.1 rfl, hs.2⟩
  | saving hold =>
      have hsight := step_saving_sight h job.path
      rcases step_saving_next h with rfl | ⟨notice, rfl⟩
      · exact ⟨.neither rfl rfl hsight, trivial⟩
      · exact ⟨.neither rfl rfl hsight, rfl, trivial⟩
  | compiling hold =>
      simp only [step] at h
      split at h <;> obtain ⟨rfl, rfl⟩ := Prod.mk.inj (Option.some.inj h)
      · exact ⟨.neither rfl rfl rfl, trivial⟩
      · exact ⟨.neither rfl rfl rfl, rfl, trivial⟩
  | extracting hold project =>
      obtain ⟨rfl, rfl⟩ := Prod.mk.inj (Option.some.inj h)
      obtain ⟨howed, hplain⟩ := plain_extract (t := t) hold project
      exact ⟨.neither rfl howed rfl, hplain⟩
  | keeping hold query =>
      simp only [step] at h
      split at h <;> obtain ⟨rfl, rfl⟩ := Prod.mk.inj (Option.some.inj h)
      · exact ⟨.neither rfl rfl rfl, trivial⟩
      · exact ⟨.neither rfl rfl rfl, rfl, trivial⟩
  | expecting hold target due answer =>
      simp only [step] at h
      split at h
      · obtain ⟨rfl, rfl⟩ := Prod.mk.inj (Option.some.inj h)
        obtain ⟨howed, hplain⟩ := plain_judge hold target answer
        exact ⟨.neither rfl howed rfl, hplain⟩
      · exact absurd h (by simp)
  | posting hold dg =>
      obtain ⟨rfl, rfl⟩ := Prod.mk.inj (Option.some.inj h)
      refine ⟨.begins rfl rfl ?_, trivial⟩
      show (d.board.insert job.path dg).get? job.path = some dg
      rw [PathMap.get?_insert, if_pos rfl]
  | displaying hold dg =>
      obtain ⟨rfl, rfl⟩ := Prod.mk.inj (Option.some.inj h)
      exact ⟨.ends rfl rfl rfl fun hp => Surface.shownFor_publish hp [dg], trivial⟩
  | finished o => exact absurd h (by simp [step])
  | _ =>
      -- the other stages owe nothing, and touch neither the board nor the surface's diagnostics
      obtain ⟨rfl, rfl⟩ := Prod.mk.inj (Option.some.inj h)
      exact ⟨.neither rfl rfl rfl, trivial⟩

/-- A run that does not ask for the lock of its document ends early. -/
theorem leaving_check {disk : Disk} (h : ∀ name, check disk job ≠ .asking name) :
    (check disk job).Leaving := by
  rcases check_cases disk job with ⟨name, hs⟩ | hs | ⟨_, hs⟩
  · exact absurd hs (h name)
  · rw [hs]
    exact Or.inl rfl
  · rw [hs]
    exact Or.inr rfl

/-- A run that ends early goes on to do so, and does not care for the locks. -/
theorem step_leaving (h : step t job d s = some (d', s')) (hs : s.Leaving) :
    s'.Leaving ∧ d'.locks = d.locks := by
  cases s with
  | withdrawing next =>
      simp only [step] at h
      split at h <;> obtain ⟨rfl, rfl⟩ := Prod.mk.inj (Option.some.inj h) <;> exact ⟨hs, rfl⟩
  | «hiding» next =>
      obtain ⟨rfl, rfl⟩ := Prod.mk.inj (Option.some.inj h)
      exact ⟨hs, rfl⟩
  | telling notice next =>
      obtain ⟨rfl, rfl⟩ := Prod.mk.inj (Option.some.inj h)
      exact ⟨hs, rfl⟩
  | finished o => exact absurd h (by simp [step])
  | _ => exact hs.elim

/-- A run that asked for the lock of its document holds it while it owes something. -/
theorem holds_of_owed {owed : Option Diagnostic} (howed : s.owed? = some owed)
    (hs : s.phase ≠ .without) : ∃ ticket, s.phase = .holds ticket := by
  cases s with
  | «hiding» next =>
      obtain ⟨ticket, hnext⟩ := Phase.holds_of_inside hs
      exact ⟨ticket, congrArg Phase.inside hnext⟩
  | displaying hold dg => exact ⟨hold.ticket, rfl⟩
  | _ => exact absurd howed (by simp [Stage.owed?])

end Steps

/-! ## What is owed for a document -/

section Owing

variable {l : Locks} {d d' : Desk} {runs others : List Run} {r x : Run} {p : Path} {s' : Stage}

theorem Run.owes_eq_true : r.owes p = true ↔
    r.job.path.key = p.key ∧ ∃ owed, r.stage.owed? = some owed := by
  rw [owes, Bool.and_eq_true, Path.same, beq_iff_eq, Option.isSome_iff_exists]

theorem Run.owes_of_owed_none (h : r.stage.owed? = none) (p : Path) : r.owes p = false := by
  rw [owes, h]
  exact Bool.and_false _

theorem Run.owes_of_ne (h : r.job.path.key ≠ p.key) : r.owes p = false := by
  rw [owes, Path.same, beq_eq_false_iff_ne.2 h]
  rfl

theorem owing_cons_of_not (h : r.owes p = false) (others : List Run) :
    owing (r :: others) p = owing others p := by
  rw [owing, List.filter_cons, h]
  rfl

/-- Runs that have come to their ends owe nothing. -/
theorem owing_of_ended (h : ∀ r ∈ runs, r.stage.outcome?.isSome = true)
    (p : Path) : owing runs p = [] := by
  refine List.filter_eq_nil_iff.2 fun r hr => ?_
  have hended := h r hr
  cases hs : r.stage with
  | finished o => simp [Run.owes, hs, Stage.owed?]
  | _ =>
      rw [hs] at hended
      exact nomatch hended

theorem length_owing_perm (h : runs.Perm others) (p : Path) :
    (owing runs p).length = (owing others p).length :=
  (h.filter _).length_eq

theorem length_owing_cons (h : r.owes p = true) (others : List Run) :
    (owing (r :: others) p).length = (owing others p).length + 1 := by
  rw [owing, List.filter_cons, h]
  rfl

theorem owing_append (runs others : List Run) (p : Path) :
    owing (runs ++ others) p = owing runs p ++ owing others p :=
  List.filter_append ..

theorem mem_owing : x ∈ owing runs p ↔ x ∈ runs ∧ x.owes p = true :=
  List.mem_filter

/-- Runs that work under the locks of their documents never owe anything for the same one. -/
theorem Orderly.length_owing_le (h : Orderly l runs) (p : Path) : (owing runs p).length ≤ 1 := by
  induction runs with
  | nil => exact Nat.zero_le 1
  | cons r others ih =>
      cases hr : r.owes p with
      | false =>
          rw [owing_cons_of_not hr]
          exact ih h.tail
      | true =>
          obtain ⟨hkey, _, howed⟩ := Run.owes_eq_true.1 hr
          obtain ⟨ticket, hholds⟩ := holds_of_owed howed (h.locked r List.mem_cons_self)
          have hnobody : owing others p = [] := by
            refine List.eq_nil_iff_forall_not_mem.2 fun x hx => ?_
            obtain ⟨hmem, hx⟩ := mem_owing.1 hx
            obtain ⟨hkey', _, howed'⟩ := Run.owes_eq_true.1 hx
            obtain ⟨ticket', hholds'⟩ :=
              holds_of_owed howed' (h.locked x (List.mem_cons_of_mem r hmem))
            exact h.key_ne hholds hmem hholds' (hkey'.trans hkey.symm)
          rw [length_owing_cons hr, hnobody]
          exact Nat.le_refl 1

/-- Board and surface agree wherever nothing is owed. -/
structure Settled (d : Desk) (runs : List Run) : Prop where
  plain : ∀ r ∈ runs, r.stage.Plain
  /-- What is owed is on the board. -/
  owed : ∀ r ∈ runs, ∀ owed, r.stage.owed? = some owed → (d.sight r.job.path).1 = owed
  paid : ∀ p, d.surface.Serves p → owing runs p = [] → d.sight p = agreed (d.sight p).1

theorem settled_nil (h : ∀ p, d.sight p = agreed none) : Settled d [] where
  plain := by simp
  owed := by simp
  paid := by
    intro p _ _
    rw [h p]
    rfl

theorem Settled.perm (h : Settled d runs) (hperm : runs.Perm others) : Settled d others where
  plain := fun r hr => h.plain r (hperm.mem_iff.2 hr)
  owed := fun r hr => h.owed r (hperm.mem_iff.2 hr)
  paid := by
    intro p hp hnil
    refine h.paid p hp (List.length_eq_zero_iff.1 ?_)
    rw [length_owing_perm hperm, hnil]
    rfl

/-- What happens elsewhere does not touch what is seen. -/
theorem Settled.congr (h : Settled d runs) (hsight : ∀ p, d'.sight p = d.sight p)
    (hkind : d'.surface.kind = d.surface.kind) : Settled d' runs where
  plain := h.plain
  owed := by
    intro r hr owed howed
    rw [hsight]
    exact h.owed r hr owed howed
  paid := by
    intro p hp hnil
    rw [hsight]
    exact h.paid p (hp.of_kind hkind.symm) hnil

/-- One more run, which owes nothing. -/
theorem Settled.cons (h : Settled d others) (hplain : r.stage.Plain)
    (howed : r.stage.owed? = none) : Settled d (r :: others) where
  plain := List.forall_mem_cons.2 ⟨hplain, h.plain⟩
  owed := List.forall_mem_cons.2 ⟨fun _ hr => (nomatch howed.symm.trans hr), h.owed⟩
  paid := by
    intro p hp hnil
    rw [owing_cons_of_not (Run.owes_of_owed_none howed p)] at hnil
    exact h.paid p hp hnil

/-- After a step, too, what is owed is on the board. -/
theorem Settled.step_owed (h : Settled d (r :: others))
    (hone : ∀ p, (owing ({ r with stage := s' } :: others) p).length ≤ 1)
    (hstep : step r.tools r.job d r.stage = some (d', s')) :
    ∀ x ∈ { r with stage := s' } :: others, ∀ owed, x.stage.owed? = some owed →
      (d'.sight x.job.path).1 = owed := by
  obtain ⟨hpays, -⟩ := step_pays hstep (h.plain r List.mem_cons_self)
  refine List.forall_mem_cons.2 ⟨fun owed howed => ?_, fun x hx owed howed => ?_⟩
  · cases hpays with
    | neither _ hs' => exact nomatch hs'.symm.trans howed
    | begins _ hs' hboard =>
        obtain rfl := Option.some.inj (hs'.symm.trans howed)
        exact hboard
    | ends _ hs' => exact nomatch hs'.symm.trans howed
  · have hbefore := h.owed x (List.mem_cons_of_mem r hx) owed howed
    by_cases hkey : x.job.path.key = r.job.path.key
    · rw [d'.sight_congr hkey]
      rw [d.sight_congr hkey] at hbefore
      cases hpays with
      | neither _ _ hsight => rw [hsight, hbefore]
      | begins _ hs' _ =>
          -- now there would be two runs that owe something for this document
          have howes : Run.owes { r with stage := s' } r.job.path = true :=
            Run.owes_eq_true.2 ⟨rfl, _, hs'⟩
          have hmem : x ∈ owing others r.job.path :=
            mem_owing.2 ⟨hx, Run.owes_eq_true.2 ⟨hkey, owed, howed⟩⟩
          have hlength := hone r.job.path
          rw [length_owing_cons howes] at hlength
          have hpos := List.length_pos_of_mem hmem
          omega
      | ends _ _ hboard => rw [hboard, hbefore]
    · rw [step_sight_of_ne hstep hkey]
      exact hbefore

/-- After a step, too, board and surface agree wherever nothing is owed. -/
theorem Settled.step_paid (h : Settled d (r :: others))
    (hstep : step r.tools r.job d r.stage = some (d', s')) (hp : d'.surface.Serves p)
    (hnil : owing ({ r with stage := s' } :: others) p = []) :
    d'.sight p = agreed (d'.sight p).1 := by
  obtain ⟨hpays, -⟩ := step_pays hstep (h.plain r List.mem_cons_self)
  replace hp := hp.of_kind (step_kind hstep).symm
  by_cases hkey : p.key = r.job.path.key
  · rw [d'.sight_congr hkey]
    cases hpays with
    | neither hs hs' hsight =>
        rw [owing_cons_of_not (Run.owes_of_owed_none hs' p)] at hnil
        rw [hsight, ← d.sight_congr hkey]
        refine h.paid p hp ?_
        rw [owing_cons_of_not (Run.owes_of_owed_none hs p), hnil]
    | begins _ hs' _ =>
        have howes : Run.owes { r with stage := s' } p = true :=
          Run.owes_eq_true.2 ⟨hkey.symm, _, hs'⟩
        have hlength := length_owing_cons howes others
        rw [hnil] at hlength
        exact nomatch hlength
    | ends hs _ hboard hshown =>
        have hjob : d.surface.Serves r.job.path := fun he =>
          (congrArg Prod.fst hkey).symm.trans (hp he)
        rw [hboard.trans (h.owed r List.mem_cons_self _ hs)]
        exact Prod.ext (hboard.trans (h.owed r List.mem_cons_self _ hs)) (hshown hjob)
  · have hne : r.job.path.key ≠ p.key := Ne.symm hkey
    rw [owing_cons_of_not (r := { r with stage := s' }) (Run.owes_of_ne hne)] at hnil
    rw [step_sight_of_ne hstep hkey]
    refine h.paid p hp ?_
    rw [owing_cons_of_not (Run.owes_of_ne hne), hnil]

/-- Every step keeps board and surface together, if after it no two runs owe something for the same
document. -/
theorem Settled.step (h : Settled d (r :: others))
    (hone : ∀ p, (owing ({ r with stage := s' } :: others) p).length ≤ 1)
    (hstep : step r.tools r.job d r.stage = some (d', s')) :
    Settled d' ({ r with stage := s' } :: others) where
  plain := List.forall_mem_cons.2 ⟨(step_pays hstep (h.plain r List.mem_cons_self)).2,
    fun x hx => h.plain x (List.mem_cons_of_mem r hx)⟩
  owed := h.step_owed hone hstep
  paid := fun _ hp hnil => h.step_paid hstep hp hnil

/-- The same wherever the run stands among the others. -/
theorem Settled.step_middle {before after : List Run} (h : Settled d (before ++ r :: after))
    (hone : ∀ p, (owing (before ++ { r with stage := s' } :: after) p).length ≤ 1)
    (hstep : DryRun.step r.tools r.job d r.stage = some (d', s')) :
    Settled d' (before ++ { r with stage := s' } :: after) := by
  refine Settled.perm (Settled.step (h.perm List.perm_middle) (fun p => ?_) hstep)
    List.perm_middle.symm
  rw [← length_owing_perm List.perm_middle]
  exact hone p

end Owing

/-! ## Crowds -/

/-- A world, and the runs in it that end before they ask for the locks of their documents. -/
structure Crowd extends World where
  early : List Run

namespace Crowd

/-- All the runs of a crowd. -/
def everyone (c : Crowd) : List Run :=
  c.early ++ c.runs

/-- What may happen next. -/
inductive Step : Crowd → Crowd → Prop
  /-- Something happens in the world. -/
  | world {c : Crowd} {w' : World} (hstep : World.Step c.toWorld w') : Step c ⟨w', c.early⟩
  /-- A run does not get beyond its checks. -/
  | refuse {c : Crowd} (t : Tools) (job : Job)
      (hcheck : ∀ name, check c.desk.disk job ≠ .asking name) :
      Step c { c with early := ⟨t, job, check c.desk.disk job⟩ :: c.early }
  /-- One of the runs that end early makes a step. -/
  | leave {c : Crowd} (before after : List Run) {r : Run} {d' : Desk} {s' : Stage}
      (hearly : c.early = before ++ r :: after)
      (hstep : DryRun.step r.tools r.job c.desk r.stage = some (d', s')) :
      Step c ⟨{ c.toWorld with desk := d' }, before ++ { r with stage := s' } :: after⟩

/-- What may have happened since nobody held a lock and nothing was shown, if all was calm in the
meantime. -/
inductive Reachable (calm : Crowd → Prop) : Crowd → Prop
  | start {d : Desk} (hlocks : d.locks = .empty) (hnothing : ∀ p, d.sight p = agreed none) :
      Reachable calm ⟨⟨d, [], []⟩, []⟩
  | step {c c' : Crowd} (h : Reachable calm c) (hstep : Step c c') (hcalm : calm c') :
      Reachable calm c'

/-- While a run that ends early owes something for a document, nobody else does. -/
def Calm (c : Crowd) : Prop :=
  ∀ p, ∀ r ∈ c.early, r.owes p = true → (owing c.everyone p).length ≤ 1

/-- The invariant of the crowds that were calm all the time. -/
structure Sound (c : Crowd) : Prop where
  orderly : Orderly c.desk.locks c.runs
  leaving : ∀ r ∈ c.early, r.stage.Leaving
  settled : Settled c.desk c.everyone

variable {c c' : Crowd} {calm : Crowd → Prop}

/-- A crowd is calm if the runs that end early owe nothing. -/
theorem calm_of_paid (h : ∀ r ∈ c.early, r.stage.owed? = none) : c.Calm := by
  intro p r hr howes
  rw [Run.owes_of_owed_none (h r hr) p] at howes
  exact nomatch howes

/-- A crowd is calm if just one run ends early and the others owe nothing. -/
theorem calm_of_alone {w : World} (h : ∀ r ∈ w.runs, r.stage.owed? = none) (e : Run) :
    Calm ⟨w, [e]⟩ := by
  intro p _ _ _
  have hnobody : owing w.runs p = [] :=
    List.filter_eq_nil_iff.2 fun r hr => by simp [Run.owes_of_owed_none (h r hr)]
  show (owing ([e] ++ w.runs) p).length ≤ 1
  rw [owing_append, hnobody, List.append_nil]
  exact List.length_filter_le _ [e]

/-- In calm crowds, no two runs owe something for the same document. -/
theorem Calm.length_owing_le (h : c.Calm) (horderly : Orderly c.desk.locks c.runs) (p : Path) :
    (owing c.everyone p).length ≤ 1 := by
  by_cases hearly : owing c.early p = []
  · rw [everyone, owing_append, hearly]
    exact horderly.length_owing_le p
  · obtain ⟨r, hr⟩ := List.exists_mem_of_ne_nil _ hearly
    obtain ⟨hmem, howes⟩ := mem_owing.1 hr
    exact h p r hmem howes

/-- Whatever happens, locks and runs stay in order, and runs that end early go on to do so. -/
theorem Step.orderly (hstep : Step c c') (horderly : Orderly c.desk.locks c.runs)
    (hleaving : ∀ r ∈ c.early, r.stage.Leaving) :
    Orderly c'.desk.locks c'.runs ∧ ∀ r ∈ c'.early, r.stage.Leaving := by
  cases hstep with
  | world hstep => exact ⟨hstep.orderly horderly, hleaving⟩
  | refuse t job hcheck =>
      exact ⟨horderly, List.forall_mem_cons.2 ⟨leaving_check hcheck, hleaving⟩⟩
  | @leave before after r d' s' hearly hstep =>
      rw [hearly, List.forall_mem_append, List.forall_mem_cons] at hleaving
      obtain ⟨hbefore, hr, hafter⟩ := hleaving
      obtain ⟨hs', hlocks⟩ := step_leaving hstep hr
      refine ⟨?_, List.forall_mem_append.2 ⟨hbefore, List.forall_mem_cons.2 ⟨hs', hafter⟩⟩⟩
      show Orderly d'.locks c.runs
      rw [hlocks]
      exact horderly

theorem Sound.step (h : c.Sound) (hstep : Step c c') (hcalm : c'.Calm) : c'.Sound := by
  obtain ⟨horderly, hleaving⟩ := hstep.orderly h.orderly h.leaving
  have hone := hcalm.length_owing_le horderly
  refine ⟨horderly, hleaving, ?_⟩
  have hsettled := h.settled
  cases hstep with
  | world hstep =>
      cases hstep with
      | @start t job name hcheck =>
          have hmore : Settled c.desk (⟨t, job, .asking name⟩ :: c.everyone) :=
            hsettled.cons trivial rfl
          refine hmore.perm ((List.perm_append_singleton _ c.everyone).symm.trans ?_)
          rw [everyone, List.append_assoc]
          exact .refl _
      | @run earlier later r d' s' hruns hstep =>
          rw [everyone, hruns] at hsettled
          simp only [everyone, ← List.append_assoc] at hsettled hone ⊢
          exact hsettled.step_middle hone hstep
      | elsewhere _ hsight hkind => exact hsettled.congr hsight hkind
  | refuse t job hcheck =>
      obtain ⟨howed, hplain⟩ := plain_check c.desk.disk job
      exact hsettled.cons hplain howed
  | @leave before after r d' s' hearly hstep =>
      rw [everyone, hearly] at hsettled
      simp only [everyone, List.append_assoc, List.cons_append] at hsettled hone ⊢
      exact hsettled.step_middle hone hstep

theorem Reachable.sound (h : Reachable Calm c) : c.Sound := by
  induction h with
  | start hlocks hnothing =>
      refine ⟨orderly_nil ?_, fun r hr => absurd hr List.not_mem_nil, settled_nil hnothing⟩
      rw [hlocks]
      exact Locks.wellFormed_empty
  | step _ hstep hcalm ih => exact ih.step hstep hcalm

/-- The run that comes first in the world makes a step. -/
theorem Reachable.step_first {t : Tools} {job : Job} {d d' : Desk} {s s' : Stage}
    {later early : List Run} {returned : List Call}
    (h : Reachable calm ⟨⟨d, ⟨t, job, s⟩ :: later, returned⟩, early⟩)
    (hstep : DryRun.step t job d s = some (d', s'))
    (hcalm : ∀ w : World, calm ⟨w, early⟩) :
    Reachable calm ⟨⟨d', ⟨t, job, s'⟩ :: later,
      (s.returns?.map (Call.mk job)).toList ++ returned⟩, early⟩ := by
  have hrun : World.Step ⟨d, ⟨t, job, s⟩ :: later, returned⟩ _ :=
    .run [] later (r := ⟨t, job, s⟩) rfl hstep
  exact h.step (.world hrun) (hcalm _)

/-- The run that comes first among those that end early makes a step. -/
theorem Reachable.leave_first {t : Tools} {job : Job} {w : World} {d' : Desk} {s s' : Stage}
    {others : List Run} (h : Reachable calm ⟨w, ⟨t, job, s⟩ :: others⟩)
    (hstep : DryRun.step t job w.desk s = some (d', s'))
    (hcalm : calm ⟨{ w with desk := d' }, ⟨t, job, s'⟩ :: others⟩) :
    Reachable calm ⟨{ w with desk := d' }, ⟨t, job, s'⟩ :: others⟩ :=
  h.step (.leave [] others (r := ⟨t, job, s⟩) rfl hstep) hcalm

end Crowd

/-! ## A run that ends early among others -/

namespace Sample

/-- The sample document, as if it were in a directory that is not there. -/
def astray : Job :=
  ⟨orders.path, ⟨true, ["v"]⟩⟩

/-- Where a run is that has found that its workspace is not there. -/
def refused : Stage :=
  .withdrawing (.telling ⟨.warning, "/v is not a Dataform workspace"⟩ (.finished .notAWorkspace))

theorem isRoot_astray : Workspace.isRoot desk.disk astray.workspace = false := by
  simp only [Workspace.isRoot, Disk.exists?, Disk.find, Disk.locate, Disk.checkPath,
    String.contains_char_eq]
  decide +kernel

theorem check_astray : check desk.disk astray = refused := by
  rw [check, show logicalName? astray.path = some "orders" from logicalName?_orders]
  dsimp only
  rw [if_neg (by rw [isRoot_astray]; exact Bool.false_ne_true)]
  rfl

/-- A run on the sample document is about to show its refusal, and another one, which has found no
workspace, has not cleared the document yet. -/
theorem exists_displaying (calm : Crowd → Prop)
    (hcalm : ∀ w : World, calm ⟨w, [⟨tools, astray, refused⟩]⟩) :
    ∃ d hold, Crowd.Reachable calm ⟨⟨d, [⟨tools, orders, .displaying hold refusal⟩], []⟩,
        [⟨tools, astray, refused⟩]⟩ ∧
      d.surface.kind = .recorder ∧ d.board.get? orders.path = some refusal := by
  have hstart : Crowd.Reachable calm ⟨⟨desk, [], []⟩, []⟩ := .start rfl fun p => rfl
  have hrefused : Crowd.Reachable calm ⟨⟨desk, [], []⟩, [⟨tools, astray, refused⟩]⟩ := by
    have hcheck := check_astray
    have hstep := Crowd.Step.refuse (c := ⟨⟨desk, [], []⟩, []⟩) tools astray
      (by rw [hcheck]; exact fun _ he => nomatch he)
    rw [hcheck] at hstep
    exact hstart.step hstep (hcalm _)
  have h := hrefused.step (.world (.start tools orders check_orders)) (hcalm _)
  iterate 12 replace h := h.step_first rfl hcalm
  exact ⟨_, _, h, rfl, rfl⟩

theorem calm_refused (w : World) : Crowd.Calm ⟨w, [⟨tools, astray, refused⟩]⟩ :=
  Crowd.calm_of_paid (by simp [refused, Stage.owed?])

/-- If the run that ends early clears the document after the other one has come to its end, all is
calm, and the diagnostic is gone. -/
theorem exists_cleared : ∃ c, Crowd.Reachable Crowd.Calm c ∧
    (∀ r ∈ c.everyone, r.stage.outcome?.isSome = true) ∧
    c.returned = [⟨orders, .errorFound refusal⟩] ∧ c.desk.surface.kind = .recorder ∧
    c.desk.board.get? orders.path = none := by
  obtain ⟨d, hold, h, hkind, hboard⟩ := exists_displaying Crowd.Calm calm_refused
  iterate 3 replace h := h.step_first rfl calm_refused
  have hpaid : ∀ r ∈ [Run.mk tools orders (.finished (.errorFound refusal))],
      r.stage.owed? = none := by simp [Stage.owed?]
  replace h := h.leave_first (if_pos (Option.isSome_iff_exists.2 ⟨refusal, hboard⟩))
    (Crowd.calm_of_alone hpaid _)
  iterate 2 replace h := h.leave_first rfl (Crowd.calm_of_alone hpaid _)
  refine ⟨_, h, by simp [Crowd.everyone, Stage.outcome?], rfl, ?_, ?_⟩
  · exact ((Surface.kind_publish _ _ _).trans (Surface.kind_publish _ _ _)).trans hkind
  · exact (PathMap.get?_erase d.board orders.path orders.path).trans (if_pos rfl)

/-- If it clears the document while the other one is about to show its diagnostic, the diagnostic is
shown afterwards, and is not on the board. -/
theorem exists_stranded : ∃ c, Crowd.Reachable (fun _ => True) c ∧
    (∀ r ∈ c.everyone, r.stage.outcome?.isSome = true) ∧
    c.early = [⟨tools, astray, .finished .notAWorkspace⟩] ∧ c.desk.surface.kind = .recorder ∧
    c.desk.board.get? orders.path = none ∧ c.desk.surface.shownFor orders.path = [refusal] := by
  obtain ⟨d, hold, h, hkind, hboard⟩ := exists_displaying (fun _ => True) fun _ => trivial
  replace h := h.leave_first (if_pos (Option.isSome_iff_exists.2 ⟨refusal, hboard⟩)) trivial
  iterate 2 replace h := h.leave_first rfl trivial
  iterate 3 replace h := h.step_first rfl fun _ => trivial
  have hcleared : (d.surface.publish orders.path []).kind = .recorder :=
    (Surface.kind_publish ..).trans hkind
  refine ⟨_, h, by simp [Crowd.everyone, Stage.outcome?], rfl, ?_, ?_, ?_⟩
  · exact (Surface.kind_publish ..).trans hcleared
  · exact (PathMap.get?_erase d.board orders.path orders.path).trans (if_pos rfl)
  · refine Surface.shownFor_publish (Surface.serves_of_ne_editor ?_ orders.path) [refusal]
    show (d.surface.publish orders.path []).kind ≠ .editor
    rw [hcleared]
    decide

end Sample

/-! ## Main statements -/

/-- Where board and surface agree, clearing a document takes what is shown away. -/
theorem Desk.shownFor_clear {d : Desk} {p : Path} (hp : d.surface.Serves p)
    (h : d.sight p = agreed (d.sight p).1) : (d.clear p).surface.shownFor p = [] := by
  unfold clear
  split
  · exact Surface.shownFor_publish hp []
  · rename_i hnone
    have hboard : (d.sight p).1 = none := Option.not_isSome_iff_eq_none.1 hnone
    rw [hboard] at h
    exact congrArg Prod.snd h

namespace Crowd

/-- **Where nothing is owed, the surface shows what is on the board, and clearing takes it away.**
This is so for all documents when all runs have come to their ends, among others, and however the
runs took turns, as long as nobody else owed something for a document when a run that ended early
did. -/
theorem Reachable.agree_of_paid {c : Crowd} (h : Reachable Calm c) {p : Path}
    (hp : c.desk.surface.Serves p) (hpaid : owing c.everyone p = []) :
    c.desk.surface.shownFor p = (c.desk.board.get? p).toList ∧
      (c.desk.clear p).surface.shownFor p = [] := by
  have hsight := h.sound.settled.paid p hp hpaid
  exact ⟨congrArg Prod.snd hsight, Desk.shownFor_clear hp hsight⟩

/-- The refusal that a run on the sample document has shown is gone after another run on it ended
early. -/
theorem Reachable.agree_of_paid_sample : ∃ c : Crowd, Reachable Calm c ∧
    c.returned = [⟨Sample.orders, .errorFound Sample.refusal⟩] ∧
    c.desk.surface.Serves Sample.orders.path ∧ owing c.everyone Sample.orders.path = [] ∧
    c.desk.surface.shownFor Sample.orders.path = [] := by
  obtain ⟨c, hreachable, hended, hreturned, hkind, hboard⟩ := Sample.exists_cleared
  have hserves : c.desk.surface.Serves Sample.orders.path :=
    Surface.serves_of_ne_editor (by rw [hkind]; decide) _
  have hpaid := owing_of_ended hended Sample.orders.path
  obtain ⟨hshown, -⟩ := Reachable.agree_of_paid hreachable hserves hpaid
  rw [hboard] at hshown
  exact ⟨c, hreachable, hreturned, hserves, hpaid, hshown⟩

/-- **A run that ends early may leave a diagnostic stranded.**  It is not so that, whenever all runs
have come to their ends, one of them early, the surface shows for its document what is on the board.
In the sample a diagnostic is shown and none is on the board, and clearing does not take it away.
-/
theorem stranded :
    (¬ ∀ c : Crowd, Reachable (fun _ => True) c →
      (∀ r ∈ c.everyone, r.stage.outcome?.isSome = true) →
      ∀ r ∈ c.early, c.desk.surface.Serves r.job.path →
        c.desk.surface.shownFor r.job.path = (c.desk.board.get? r.job.path).toList) ∧
    ∃ c : Crowd, Reachable (fun _ => True) c ∧
      (∀ r ∈ c.everyone, r.stage.outcome?.isSome = true) ∧
      (c.desk.clear Sample.orders.path).surface.shownFor Sample.orders.path =
        [Sample.refusal] := by
  obtain ⟨c, hreachable, hended, hearly, hkind, hboard, hshown⟩ := Sample.exists_stranded
  refine ⟨fun hagree => ?_, c, hreachable, hended, ?_⟩
  · have hmem : ⟨Sample.tools, Sample.astray, .finished .notAWorkspace⟩ ∈ c.early := by
      rw [hearly]
      exact List.mem_singleton_self _
    have hserves : c.desk.surface.Serves Sample.orders.path :=
      Surface.serves_of_ne_editor (by rw [hkind]; decide) _
    have hnothing : c.desk.surface.shownFor Sample.orders.path =
        (c.desk.board.get? Sample.orders.path).toList := hagree c hreachable hended _ hmem hserves
    rw [hshown, hboard] at hnothing
    exact absurd hnothing (by simp)
  · rw [Desk.clear, hboard, if_neg (by simp)]
    exact hshown

end Crowd

end SqlxDryRun.DryRun
