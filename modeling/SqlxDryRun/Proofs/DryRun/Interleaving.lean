import SqlxDryRun.Proofs.DryRun.Phases
import SqlxDryRun.Proofs.DryRun.Shown

/-!
# Runs that overlap

Runs that are beyond their checks take their steps in any order, and each works under the lock of
its document from the moment the lock is granted until it is given back.

* `World` is a desk with any number of runs in progress; `World.Step` lets one of them make a step,
  starts another one, or lets something happen elsewhere.
* `Orderly` and `Truthful` are the invariant of all reachable worlds: who holds a lock has been
  granted it, and a document that nobody works on shows what was found in it last.

Main statements: `World.Reachable.alone` and `World.Reachable.shown_of_free`.
-/

namespace SqlxDryRun.DryRun

/-! ## Who holds which lock -/

/-- The tickets of the runs that wait for their locks or hold them. -/
def ticketsOf (runs : List Run) : List Nat :=
  runs.filterMap fun r => r.stage.phase.ticket?

/-- The request of a run is in the list of requests, and it is granted if the run holds its lock. -/
def Run.Listed (l : Locks) (r : Run) : Prop :=
  ∀ ticket, r.stage.phase.ticket? = some ticket →
    ∃ q ∈ l.requests, q.ticket = ticket ∧ q.path = r.job.path ∧
      (r.stage.phase = .holds ticket → q.granted = true)

/-- How locks and runs belong together. -/
structure Orderly (l : Locks) (runs : List Run) : Prop where
  wellFormed : l.WellFormed
  /-- Nobody goes on without a lock. -/
  locked : ∀ r ∈ runs, r.stage.phase ≠ .without
  /-- No two runs have the same ticket. -/
  nodup : (ticketsOf runs).Nodup
  listed : ∀ r ∈ runs, r.Listed l

section Orders

variable {l l' : Locks} {runs others : List Run} {r x : Run}

theorem orderly_nil (h : l.WellFormed) : Orderly l [] where
  wellFormed := h
  locked := by simp
  nodup := List.nodup_nil
  listed := by simp

/-- The order of the runs means nothing. -/
theorem Orderly.perm (h : Orderly l runs) (hperm : runs.Perm others) : Orderly l others where
  wellFormed := h.wellFormed
  locked := fun r hr => h.locked r (hperm.mem_iff.2 hr)
  nodup := (hperm.filterMap _).nodup_iff.1 h.nodup
  listed := fun r hr => h.listed r (hperm.mem_iff.2 hr)

theorem mem_ticketsOf {ticket : Nat} :
    ticket ∈ ticketsOf runs ↔ ∃ r ∈ runs, r.stage.phase.ticket? = some ticket :=
  List.mem_filterMap

theorem ticketsOf_cons (r : Run) (runs : List Run) :
    ticketsOf (r :: runs) = r.stage.phase.ticket?.toList ++ ticketsOf runs := by
  rw [ticketsOf, List.filterMap_cons]
  cases r.stage.phase.ticket? <;> rfl

theorem Orderly.tail (h : Orderly l (r :: others)) : Orderly l others where
  wellFormed := h.wellFormed
  locked := fun x hx => h.locked x (List.mem_cons_of_mem r hx)
  nodup := by
    have := h.nodup
    rw [ticketsOf_cons] at this
    exact (List.nodup_append.1 this).2.1
  listed := fun x hx => h.listed x (List.mem_cons_of_mem r hx)

/-- One more run, with a ticket that the others do not have. -/
theorem Orderly.cons (h : Orderly l others) (hlocked : r.stage.phase ≠ .without)
    (hlisted : r.Listed l)
    (hnew : ∀ ticket, r.stage.phase.ticket? = some ticket → ticket ∉ ticketsOf others) :
    Orderly l (r :: others) where
  wellFormed := h.wellFormed
  locked := List.forall_mem_cons.2 ⟨hlocked, h.locked⟩
  nodup := by
    rw [ticketsOf_cons]
    cases ht : r.stage.phase.ticket? with
    | none => exact h.nodup
    | some ticket => exact List.nodup_cons.2 ⟨hnew ticket ht, h.nodup⟩
  listed := List.forall_mem_cons.2 ⟨hlisted, h.listed⟩

/-- The tickets of the other runs are other tickets. -/
theorem Orderly.ticket_ne (h : Orderly l (r :: others)) {ticket : Nat}
    (hr : r.stage.phase.ticket? = some ticket) : ticket ∉ ticketsOf others := by
  have := h.nodup
  rw [ticketsOf_cons, hr] at this
  exact (List.nodup_cons.1 this).1

/-- A ticket of a run was given out before. -/
theorem Orderly.ticket_lt (h : Orderly l runs) {ticket : Nat} (ht : ticket ∈ ticketsOf runs) :
    ticket < l.nextTicket := by
  obtain ⟨x, hx, hticket⟩ := mem_ticketsOf.1 ht
  obtain ⟨q, hq, rfl, -⟩ := h.listed x hx ticket hticket
  exact h.wellFormed.ticket_lt q hq

/-- **Nobody else works on the document of a run that holds its lock.** -/
theorem Orderly.key_ne (h : Orderly l (r :: others)) {ticket ticket' : Nat}
    (hr : r.stage.phase = .holds ticket) (hx : x ∈ others)
    (hx' : x.stage.phase = .holds ticket') : x.job.path.key ≠ r.job.path.key := by
  intro hkey
  have hrt : r.stage.phase.ticket? = some ticket := by rw [hr]; rfl
  have hxt : x.stage.phase.ticket? = some ticket' := by rw [hx']; rfl
  obtain ⟨q, hq, hqt, hqp, hqg⟩ := h.listed r List.mem_cons_self ticket hrt
  obtain ⟨q', hq', hqt', hqp', hqg'⟩ := h.listed x (List.mem_cons_of_mem r hx) ticket' hxt
  have heq : q' = q := h.wellFormed.eq_of_granted hq' hq (hqg' hx') (hqg hr)
    (by rw [hqp, hqp', hkey])
  have hticket : ticket' = ticket := by rw [← hqt', heq, hqt]
  exact h.ticket_ne hrt (mem_ticketsOf.2 ⟨x, hx, by rw [hxt, hticket]⟩)

/-- The other runs stay in order when the locks change, if their requests stay in the list. -/
theorem Orderly.relock (h : Orderly l runs) (hl' : l'.WellFormed)
    (hkeep : ∀ q ∈ l.requests, q.ticket ∈ ticketsOf runs →
      ∃ q' ∈ l'.requests, q'.ticket = q.ticket ∧ q'.path = q.path ∧
        (q.granted = true → q'.granted = true)) : Orderly l' runs where
  wellFormed := hl'
  locked := h.locked
  nodup := h.nodup
  listed := by
    intro x hx ticket ht
    obtain ⟨q, hq, hqt, hqp, hqg⟩ := h.listed x hx ticket ht
    obtain ⟨q', hq', hqt', hqp', hqg'⟩ :=
      hkeep q hq (hqt ▸ mem_ticketsOf.2 ⟨x, hx, ht⟩)
    exact ⟨q', hq', hqt'.trans hqt, hqp'.trans hqp, fun hholds => hqg' (hqg hholds)⟩

/-- A request is still there after polling. -/
theorem exists_poll (ticket : Nat) {q : LockRequest} (hq : q ∈ l.requests) :
    ∃ q' ∈ (l.poll ticket).requests, q'.ticket = q.ticket ∧ q'.path = q.path ∧
      (q.granted = true → q'.granted = true) :=
  ⟨l.granting ticket q, by rw [Locks.poll_requests]; exact List.mem_map_of_mem hq,
    l.granting_ticket ticket q, l.granting_path ticket q, l.granted_granting ticket⟩

end Orders

/-- Every step keeps locks and runs in order. -/
theorem Orderly.step {d d' : Desk} {r : Run} {others : List Run} {s' : Stage}
    (h : Orderly d.locks (r :: others)) (hpass : Passes r.job.path d r.stage d' s') :
    Orderly d'.locks ({ r with stage := s' } :: others) := by
  obtain ⟨t, job, s⟩ := r
  dsimp only at hpass ⊢
  cases hpass with
  | asks name =>
      have hothers : Orderly (d.locks.ask job.path).1 others :=
        h.tail.relock (Locks.wellFormed_ask h.wellFormed job.path) fun q hq _ =>
          ⟨q, by rw [Locks.ask_requests]; exact List.mem_append_left _ hq, rfl, rfl, id⟩
      refine hothers.cons (by simp [Stage.phase]) ?_ ?_
      · intro ticket ht
        obtain rfl := Option.some.inj ht
        refine ⟨⟨d.locks.nextTicket, job.path, d.locks.lockOf job.path, false⟩, ?_, ?_, rfl, ?_⟩
        · rw [Locks.ask_requests]
          exact List.mem_append_right _ (List.mem_singleton_self _)
        · exact (d.locks.ask_snd job.path).symm
        · intro hholds
          exact absurd hholds (by simp [Stage.phase])
      · intro ticket ht hmem
        obtain rfl := Option.some.inj ht
        have hlt := h.tail.ticket_lt hmem
        rw [Locks.ask_snd] at hlt
        exact Nat.lt_irrefl _ hlt
  | @enters hold _ hgranted hs' =>
      have hticket : (Run.mk t job (.waiting hold)).stage.phase.ticket? = some hold.ticket := rfl
      have hothers : Orderly (d.locks.poll hold.ticket) others :=
        h.tail.relock (Locks.wellFormed_poll h.wellFormed hold.ticket) fun q hq _ =>
          exists_poll hold.ticket hq
      refine hothers.cons (by rw [hs']; simp) ?_ ?_
      · intro ticket ht
        rw [hs'] at ht
        obtain rfl := Option.some.inj ht
        obtain ⟨q, hq, hqt, hqp, -⟩ := h.listed _ List.mem_cons_self _ hticket
        obtain ⟨q₁, hq₁, hqt₁, hqp₁, -⟩ := exists_poll hold.ticket hq
        obtain ⟨q₂, hq₂, hqt₂, hqg₂⟩ := Locks.exists_of_isGranted hgranted
        have heq : q₁ = q₂ :=
          hothers.wellFormed.eq_of_ticket hq₁ hq₂ (by rw [hqt₁, hqt, hqt₂])
        exact ⟨q₁, hq₁, hqt₁.trans hqt, hqp₁.trans hqp, fun _ => heq ▸ hqg₂⟩
      · intro ticket ht
        rw [hs'] at ht
        obtain rfl := Option.some.inj ht
        exact h.ticket_ne hticket
  | @works _ _ _ ticket hs _ hlocks hs' =>
      rw [hlocks]
      refine h.tail.cons (by rw [hs']; simp) ?_ ?_
      · intro ticket' ht
        have hlisted := h.listed _ List.mem_cons_self ticket'
        dsimp only at hlisted ht ⊢
        rw [hs] at hlisted
        rw [hs'] at ht ⊢
        exact hlisted ht
      · intro ticket' ht
        rw [hs'] at ht
        refine h.ticket_ne ?_
        rw [hs]
        exact ht
  | leaves ticket o =>
      have hothers : Orderly (d.locks.leave ticket) others :=
        h.tail.relock (Locks.wellFormed_leave h.wellFormed ticket) fun q hq hqt => by
          refine ⟨q, Locks.mem_leave.2 ⟨hq, fun heq => ?_⟩, rfl, rfl, id⟩
          exact h.ticket_ne rfl (heq ▸ hqt)
      exact hothers.cons (by simp [Stage.phase]) (fun _ ht => nomatch ht) (fun _ ht => nomatch ht)
  | sweeps o =>
      have hothers : Orderly (d.locks.sweep job.path) others :=
        h.tail.relock (Locks.wellFormed_sweep h.wellFormed job.path) fun q hq _ =>
          ⟨q, by rw [Locks.sweep_requests]; exact hq, rfl, rfl, id⟩
      exact hothers.cons (by simp [Stage.phase]) (fun _ ht => nomatch ht) (fun _ ht => nomatch ht)

/-! ## What is shown in the meantime -/

/-- No run holds the lock of a document. -/
def Free (runs : List Run) (p : Path) : Prop :=
  ∀ r ∈ runs, ∀ ticket, r.stage.phase = .holds ticket → r.job.path.key ≠ p.key

/-- What runs see of their documents, and what is seen of the documents that nobody works on, when
these calls have come to their ends. -/
structure Truthful (d : Desk) (runs : List Run) (returned : List Call) : Prop where
  inside : ∀ r ∈ runs, ∀ ticket, r.stage.phase = .holds ticket →
    d.surface.Serves r.job.path → r.stage.Shows (d.sight r.job.path)
  outside : ∀ p, d.surface.Serves p → Free runs p → d.sight p = agreed (found? returned p)

section Sights

variable {d d' : Desk} {runs others : List Run} {returned : List Call} {r : Run} {s' : Stage}

theorem Free.tail {p : Path} (h : Free (r :: others) p) : Free others p :=
  fun x hx => h x (List.mem_cons_of_mem r hx)

theorem Free.cons {p : Path} (h : Free others p)
    (hr : ∀ ticket, r.stage.phase = .holds ticket → r.job.path.key ≠ p.key) :
    Free (r :: others) p :=
  List.forall_mem_cons.2 ⟨hr, h⟩

theorem Free.perm {p : Path} (h : Free runs p) (hperm : runs.Perm others) : Free others p :=
  fun r hr => h r (hperm.mem_iff.2 hr)

theorem Truthful.perm (h : Truthful d runs returned) (hperm : runs.Perm others) :
    Truthful d others returned where
  inside := fun r hr => h.inside r (hperm.mem_iff.2 hr)
  outside := fun p hp hfree => h.outside p hp (hfree.perm hperm.symm)

/-- What happens elsewhere does not touch what is seen. -/
theorem Truthful.congr (h : Truthful d runs returned) (hsight : ∀ p, d'.sight p = d.sight p)
    (hkind : d'.surface.kind = d.surface.kind) : Truthful d' runs returned where
  inside := by
    intro r hr ticket hphase hp
    rw [hsight]
    exact h.inside r hr ticket hphase (hp.of_kind hkind.symm)
  outside := by
    intro p hp hfree
    rw [hsight]
    exact h.outside p (hp.of_kind hkind.symm) hfree

/-- A run that does not hold its lock has no say in what is seen. -/
theorem Truthful.replace {r' : Run} (h : Truthful d (r :: others) returned)
    (hr : ∀ ticket, r.stage.phase ≠ .holds ticket)
    (hr' : ∀ ticket, r'.stage.phase = .holds ticket → d.surface.Serves r'.job.path →
      r'.stage.Shows (d.sight r'.job.path)) : Truthful d (r' :: others) returned where
  inside := by
    intro x hx ticket hphase hp
    rcases List.mem_cons.1 hx with rfl | hx
    · exact hr' ticket hphase hp
    · exact h.inside x (List.mem_cons_of_mem r hx) ticket hphase hp
  outside := fun p hp hfree =>
    h.outside p hp (hfree.tail.cons fun ticket hphase => absurd hphase (hr ticket))

/-- Every step keeps what is seen true, and a run that gives its lock back is recorded. -/
theorem Truthful.step (h : Truthful d (r :: others) returned)
    (horder : Orderly d.locks (r :: others))
    (hstep : step r.tools r.job d r.stage = some (d', s')) :
    Truthful d' ({ r with stage := s' } :: others)
      ((r.stage.returns?.map (Call.mk r.job)).toList ++ returned) := by
  have hpass := step_passes hstep (horder.locked r List.mem_cons_self)
  have horder' := horder.step hpass
  have hkind := step_kind hstep
  obtain ⟨t, job, s⟩ := r
  dsimp only at hpass hstep horder' ⊢
  cases hpass with
  | asks name =>
      -- only the locks change
      exact (h.replace (by simp [Stage.phase]) (by simp [Stage.phase])).congr (fun _ => rfl) rfl
  | @enters hold _ hgranted hs' =>
      refine (h.replace (by simp [Stage.phase]) ?_).congr (fun _ => rfl) rfl
      intro ticket hphase hp
      -- nobody else holds the lock, so what is seen is what the last run has left
      have hfree : Free (⟨t, job, .waiting hold⟩ :: others) job.path :=
        Free.cons (fun x hx ticket' hx' => horder'.key_ne hs' hx hx')
          (by simp [Stage.phase])
      have hshows : (Stage.waiting hold).Shows (d.sight job.path) := by
        rw [h.outside job.path hp hfree]
        rfl
      have hnext := step_shows hstep hp hshows
      exact hnext
  | works hs hreturns _ hs' =>
      rw [hreturns]
      refine ⟨?_, ?_⟩
      · intro x hx ticket hphase hp
        rcases List.mem_cons.1 hx with rfl | hx
        · have hp₀ := hp.of_kind hkind.symm
          exact step_shows hstep hp₀ (h.inside _ List.mem_cons_self _ hs hp₀)
        · rw [step_sight_of_ne hstep (horder.key_ne hs hx hphase)]
          exact h.inside x (List.mem_cons_of_mem _ hx) ticket hphase (hp.of_kind hkind.symm)
      · intro p hp hfree
        have hne : job.path.key ≠ p.key := hfree _ List.mem_cons_self _ hs'
        rw [step_sight_of_ne hstep (Ne.symm hne)]
        exact h.outside p (hp.of_kind hkind.symm) (hfree.tail.cons fun _ _ => hne)
  | leaves ticket o =>
      refine ⟨?_, ?_⟩
      · intro x hx ticket' hphase hp
        rcases List.mem_cons.1 hx with rfl | hx
        · exact absurd hphase (by simp [Stage.phase])
        · exact h.inside x (List.mem_cons_of_mem _ hx) ticket' hphase hp
      · intro p hp hfree
        show d.sight p = agreed (found? (⟨job, o⟩ :: returned) p)
        by_cases hk : p.key = job.path.key
        · rw [found?_cons_of_eq (c := ⟨job, o⟩) hk.symm, d.sight_congr hk]
          exact h.inside _ List.mem_cons_self ticket rfl fun he =>
            (congrArg Prod.fst hk).symm.trans (hp he)
        · rw [found?_cons_of_ne (c := ⟨job, o⟩) (Ne.symm hk)]
          exact h.outside p hp (hfree.tail.cons fun _ _ => Ne.symm hk)
  | sweeps o =>
      exact (h.replace (by simp [Stage.phase]) (by simp [Stage.phase])).congr (fun _ => rfl) rfl

end Sights

/-! ## Worlds -/

/-- A desk, the runs in progress, and the runs that have given their locks back, the latest first.
-/
structure World where
  desk : Desk
  runs : List Run
  returned : List Call

/-- What may happen next. -/
inductive World.Step : World → World → Prop
  /-- A run gets beyond its checks. -/
  | start {w : World} (t : Tools) (job : Job) {name : String}
      (hcheck : check w.desk.disk job = .asking name) :
      Step w { w with runs := w.runs ++ [⟨t, job, .asking name⟩] }
  /-- One of the runs makes a step. -/
  | run {w : World} (earlier later : List Run) {r : Run} {d' : Desk} {s' : Stage}
      (hruns : w.runs = earlier ++ r :: later)
      (hstep : step r.tools r.job w.desk r.stage = some (d', s')) :
      Step w ⟨d', earlier ++ { r with stage := s' } :: later,
        (r.stage.returns?.map (Call.mk r.job)).toList ++ w.returned⟩
  /-- Something happens to the desk that touches neither the locks nor what is shown. -/
  | elsewhere {w : World} {d' : Desk} (hlocks : d'.locks = w.desk.locks)
      (hsight : ∀ p, d'.sight p = w.desk.sight p)
      (hkind : d'.surface.kind = w.desk.surface.kind) : Step w { w with desk := d' }

/-- What may have happened since nobody held a lock and nothing was shown. -/
inductive World.Reachable : World → Prop
  | start {d : Desk} (hlocks : d.locks = .empty) (hnothing : ∀ p, d.sight p = agreed none) :
      Reachable ⟨d, [], []⟩
  | step {w w' : World} (h : Reachable w) (hstep : World.Step w w') : Reachable w'

/-- The invariant of the reachable worlds. -/
structure World.Sound (w : World) : Prop where
  orderly : Orderly w.desk.locks w.runs
  truthful : Truthful w.desk w.runs w.returned

/-- Whatever happens next, locks and runs stay in order. -/
theorem World.Step.orderly {w w' : World} (hstep : World.Step w w')
    (h : Orderly w.desk.locks w.runs) : Orderly w'.desk.locks w'.runs := by
  cases hstep with
  | start t job hcheck =>
      refine Orderly.perm ?_ (List.perm_append_singleton ..).symm
      exact h.cons (by simp [Stage.phase]) (fun _ ht => nomatch ht) (fun _ ht => nomatch ht)
  | @run earlier later r d' s' hruns hstep =>
      rw [hruns] at h
      replace h := h.perm List.perm_middle
      have hpass := step_passes hstep (h.locked r List.mem_cons_self)
      exact (h.step hpass).perm List.perm_middle.symm
  | elsewhere hlocks =>
      rw [hlocks]
      exact h

theorem World.Sound.step {w w' : World} (h : w.Sound) (hstep : World.Step w w') : w'.Sound := by
  refine ⟨hstep.orderly h.orderly, ?_⟩
  cases hstep with
  | @start t job name hcheck =>
      refine Truthful.perm ?_ (List.perm_append_singleton ..).symm
      refine ⟨?_, fun p hp hfree => h.truthful.outside p hp hfree.tail⟩
      intro x hx ticket hphase hp
      rcases List.mem_cons.1 hx with rfl | hx
      · exact absurd hphase (by simp [Stage.phase])
      · exact h.truthful.inside x hx ticket hphase hp
  | @run earlier later r d' s' hruns hstep =>
      obtain ⟨horderly, htruthful⟩ := h
      rw [hruns] at horderly htruthful
      replace horderly := horderly.perm List.perm_middle
      replace htruthful := htruthful.perm List.perm_middle
      exact (htruthful.step horderly hstep).perm List.perm_middle.symm
  | elsewhere hlocks hsight hkind => exact h.truthful.congr hsight hkind

theorem World.Reachable.sound {w : World} (h : w.Reachable) : w.Sound := by
  induction h with
  | @start d hlocks hnothing =>
      refine ⟨orderly_nil ?_, ⟨by simp, fun p _ _ => hnothing p⟩⟩
      rw [hlocks]
      exact Locks.wellFormed_empty
  | step _ hstep ih => exact ih.step hstep

/-- The run that comes first makes a step. -/
theorem World.Reachable.step_first {t : Tools} {job : Job} {d d' : Desk} {s s' : Stage}
    {later : List Run} {returned : List Call}
    (h : World.Reachable ⟨d, ⟨t, job, s⟩ :: later, returned⟩)
    (hstep : DryRun.step t job d s = some (d', s')) :
    World.Reachable ⟨d', ⟨t, job, s'⟩ :: later,
      (s.returns?.map (Call.mk job)).toList ++ returned⟩ := by
  have hrun : World.Step ⟨d, ⟨t, job, s⟩ :: later, returned⟩ _ :=
    .run [] later (r := ⟨t, job, s⟩) rfl hstep
  exact h.step hrun

/-! ## Two runs on one document -/

namespace Sample

theorem check_orders : check desk.disk orders = .asking "orders" := by
  rw [check, logicalName?_orders]
  dsimp only
  rw [if_pos isRoot_desk]

/-- Two runs on the sample document: the first has come to its end, and the second waits. -/
theorem reachable_orders : ∃ d hold, World.Reachable
    ⟨d, [⟨tools, orders, .finished (.errorFound refusal)⟩, ⟨tools, orders, .waiting hold⟩],
      [⟨orders, .errorFound refusal⟩]⟩ := by
  have hstart : World.Reachable ⟨desk, [], []⟩ := .start rfl fun p => rfl
  have hfirst : World.Reachable ⟨desk, [⟨tools, orders, .asking "orders"⟩], []⟩ :=
    hstart.step (.start tools orders check_orders)
  have hboth : World.Reachable
      ⟨desk, [⟨tools, orders, .asking "orders"⟩, ⟨tools, orders, .asking "orders"⟩], []⟩ :=
    hfirst.step (.start tools orders check_orders)
  have hask := hboth.step_first rfl
  have h : World.Reachable ⟨_, [⟨tools, orders, .waiting ⟨0, "orders"⟩⟩,
      ⟨tools, orders, .waiting ⟨1, "orders"⟩⟩], []⟩ :=
    hask.step (.run [⟨tools, orders, .waiting ⟨0, "orders"⟩⟩] []
      (r := ⟨tools, orders, .asking "orders"⟩) rfl rfl)
  -- the first run goes on until it has come to its end
  iterate 14 replace h := h.step_first rfl
  exact ⟨_, _, h⟩

end Sample

/-! ## Main statements -/

/-- **At most one run works on a document at a time.** -/
theorem World.Reachable.alone {w : World} (h : w.Reachable) {earlier later : List Run} {r x : Run}
    (hruns : w.runs = earlier ++ r :: later) (hx : x ∈ earlier ++ later) {ticket ticket' : Nat}
    (hr : r.stage.phase = .holds ticket) (hx' : x.stage.phase = .holds ticket') :
    x.job.path.key ≠ r.job.path.key := by
  have horderly := h.sound.orderly
  rw [hruns] at horderly
  exact (horderly.perm List.perm_middle).key_ne hr hx hx'

/-- **A document that nobody works on shows what was found in it last.**  However the runs take
turns, whenever no run holds the lock of a document, the board and the surface have for it the
diagnostic of the run that held the lock last, if that run ended with one, and nothing otherwise. -/
theorem World.Reachable.shown_of_free {w : World} (h : w.Reachable) {p : Path}
    (hp : w.desk.surface.Serves p) (hfree : Free w.runs p) :
    w.desk.surface.shownFor p = (found? w.returned p).toList ∧
      w.desk.board.get? p = found? w.returned p := by
  have hsight := h.sound.truthful.outside p hp hfree
  exact ⟨congrArg Prod.snd hsight, congrArg Prod.fst hsight⟩

/-- The second run on the sample document still waits, and the refusal of the first one is shown. -/
theorem World.Reachable.shown_of_free_sample :
    ∃ w : World, w.Reachable ∧ w.runs.length = 2 ∧
      w.desk.surface.Serves Sample.orders.path ∧ Free w.runs Sample.orders.path ∧
      w.desk.surface.shownFor Sample.orders.path = [Sample.refusal] ∧
      w.desk.board.get? Sample.orders.path = some Sample.refusal := by
  obtain ⟨d, hold, hreachable⟩ := Sample.reachable_orders
  have hserves : d.surface.Serves Sample.orders.path := fun _ => rfl
  have hfree : Free [⟨Sample.tools, Sample.orders, .finished (.errorFound Sample.refusal)⟩,
      ⟨Sample.tools, Sample.orders, .waiting hold⟩] Sample.orders.path := by
    simp [Free, Stage.phase]
  obtain ⟨hshown, hboard⟩ := World.Reachable.shown_of_free hreachable hserves hfree
  exact ⟨_, hreachable, rfl, hserves, hfree, hshown, hboard⟩

end SqlxDryRun.DryRun
