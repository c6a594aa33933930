import SqlxDryRun.DryRun.Stage

/-!
# Runs and the locks of their documents

A run that is beyond its checks asks for the lock of its document, waits for it, works under it and
gives it back.  `Stage.phase` tells how far a run is with that.

Main statement: `step_passes`.  A step takes a run to the lock, keeps it under the lock, or takes it
away from the lock, and does to the table of locks just what belongs to this.
-/

namespace SqlxDryRun.DryRun

/-! ## Phases of a run -/

/-- How a run stands to the lock of its document. -/
inductive Phase where
  | before
  | waits (ticket : Nat)
  | holds (ticket : Nat)
  | after
  /-- The run does not care for the lock. -/
  | without
deriving DecidableEq

/-- The ticket of a run that waits for its lock or holds it. -/
def Phase.ticket? : Phase → Option Nat
  | .waits ticket => some ticket
  | .holds ticket => some ticket
  | _ => none

/-- The phase of a stage that clears a document or shows a notice, from the phase of the next one.
This is done under the lock or without it. -/
def Phase.inside : Phase → Phase
  | .holds ticket => .holds ticket
  | _ => .without

/-- The phase of a run that is at a stage. -/
def Stage.phase : Stage → Phase
  | .checking => .without
  | .asking _ => .before
  | .waiting hold => .waits hold.ticket
  | .withdrawing next => next.phase.inside
  | .hiding next => next.phase.inside
  | .telling _ next => next.phase.inside
  | .saving hold => .holds hold.ticket
  | .compiling hold => .holds hold.ticket
  | .offeringTags hold _ => .holds hold.ticket
  | .offeringDependencies hold _ => .holds hold.ticket
  | .extracting hold _ => .holds hold.ticket
  | .keeping hold _ => .holds hold.ticket
  | .submitting hold _ => .holds hold.ticket
  | .expecting hold _ _ _ => .holds hold.ticket
  | .locating hold _ => .holds hold.ticket
  | .posting hold _ => .holds hold.ticket
  | .displaying hold _ => .holds hold.ticket
  | .releasing ticket _ => .holds ticket
  | .sweeping _ => .after
  | .finished _ => .after

/-- The outcome of a run that gives its lock back next. -/
def Stage.returns? : Stage → Option Outcome
  | .releasing _ o => some o
  | _ => none

theorem Phase.holds_of_inside {phase : Phase} (h : phase.inside ≠ .without) :
    ∃ ticket, phase = .holds ticket := by
  cases phase with
  | holds ticket => exact ⟨ticket, rfl⟩
  | before => exact absurd rfl h
  | waits ticket => exact absurd rfl h
  | after => exact absurd rfl h
  | without => exact absurd rfl h

/-- What a step of a run on the document `p` does to the locks. -/
inductive Passes (p : Path) (d : Desk) : Stage → Desk → Stage → Prop
  | asks (name : String) :
      Passes p d (.asking name) { d with locks := (d.locks.ask p).1 }
        (.waiting ⟨(d.locks.ask p).2, name⟩)
  | enters {hold : Hold} {s' : Stage}
      (hgranted : (d.locks.poll hold.ticket).isGranted hold.ticket = true)
      (hs' : s'.phase = .holds hold.ticket) :
      Passes p d (.waiting hold) { d with locks := d.locks.poll hold.ticket } s'
  | works {d' : Desk} {s s' : Stage} {ticket : Nat} (hs : s.phase = .holds ticket)
      (hreturns : s.returns? = none) (hlocks : d'.locks = d.locks)
      (hs' : s'.phase = .holds ticket) : Passes p d s d' s'
  | leaves (ticket : Nat) (o : Outcome) :
      Passes p d (.releasing ticket o) { d with locks := d.locks.leave ticket } (.sweeping o)
  | sweeps (o : Outcome) :
      Passes p d (.sweeping o) { d with locks := d.locks.sweep p } (.finished o)

section Steps

variable {t : Tools} {job : Job} {d d' : Desk} {s s' : Stage}

theorem phase_judge (hold : Hold) (target : String)
    (answer : Except Validation.Failure Validation.Reply) :
    (judge hold target answer).phase = .holds hold.ticket := by
  rcases judge_cases hold target answer with ⟨_, _, h⟩ | ⟨_, _, h⟩ | ⟨_, h⟩ <;> rw [h] <;> rfl

theorem phase_extract (hold : Hold) (project : Project) :
    (extract t hold project).phase = .holds hold.ticket := by
  rcases extract_cases t hold project with ⟨_, _, h⟩ | ⟨_, h⟩ | ⟨_, h⟩ <;> rw [h] <;> rfl

/-- **A step passes a run on**: to the lock, under it, or away from it. -/
theorem step_passes (h : step t job d s = some (d', s')) (hs : s.phase ≠ .without) :
    Passes job.path d s d' s' := by
  cases s with
  | checking => exact absurd rfl hs
  | asking name =>
      obtain ⟨rfl, rfl⟩ := Prod.mk.inj (Option.some.inj h)
      exact .asks name
  | waiting hold =>
      simp only [step] at h
      split at h
      · rename_i hgranted
        obtain ⟨rfl, rfl⟩ := Prod.mk.inj (Option.some.inj h)
        refine .enters hgranted ?_
        split <;> rfl
      · exact absurd h (by simp)
  | withdrawing next =>
      obtain ⟨ticket, hnext⟩ := Phase.holds_of_inside hs
      have hphase : next.phase.inside = .holds ticket := by rw [hnext]; rfl
      simp only [step] at h
      split at h
      · obtain ⟨rfl, rfl⟩ := Prod.mk.inj (Option.some.inj h)
        exact .works hphase rfl rfl hphase
      · obtain ⟨rfl, rfl⟩ := Prod.mk.inj (Option.some.inj h)
        exact .works hphase rfl rfl hnext
  | «hiding» next =>
      obtain ⟨ticket, hnext⟩ := Phase.holds_of_inside hs
      obtain ⟨rfl, rfl⟩ := Prod.mk.inj (Option.some.inj h)
      exact .works (by show next.phase.inside = _; rw [hnext]; rfl) rfl rfl hnext
  | telling notice next =>
      obtain ⟨ticket, hnext⟩ := Phase.holds_of_inside hs
      obtain ⟨rfl, rfl⟩ := Prod.mk.inj (Option.some.inj h)
      exact .works (by show next.phase.inside = _; rw [hnext]; rfl) rfl rfl hnext
  | saving hold =>
      simp only [step] at h
      split at h <;> obtain ⟨rfl, rfl⟩ := Prod.mk.inj (Option.some.inj h) <;>
        exact .works rfl rfl rfl rfl
  | compiling hold =>
      simp only [step] at h
      split at h <;> obtain ⟨rfl, rfl⟩ := Prod.mk.inj (Option.some.inj h) <;>
        exact .works rfl rfl rfl rfl
  | extracting hold project =>
      obtain ⟨rfl, rfl⟩ := Prod.mk.inj (Option.some.inj h)
      exact .works rfl rfl rfl (phase_extract hold project)
  | keeping hold query =>
      simp only [step] at h
      split at h <;> obtain ⟨rfl, rfl⟩ := Prod.mk.inj (Option.some.inj h) <;>
        exact .works rfl rfl rfl rfl
  | expecting hold target due answer =>
      simp only [step] at h
      split at h
      · obtain ⟨rfl, rfl⟩ := Prod.mk.inj (Option.some.inj h)
        exact .works rfl rfl rfl (phase_judge hold target answer)
      · exact absurd h (by simp)
  | releasing ticket o =>
      obtain ⟨rfl, rfl⟩ := Prod.mk.inj (Option.some.inj h)
      exact .leaves ticket o
  | sweeping o =>
      obtain ⟨rfl, rfl⟩ := Prod.mk.inj (Option.some.inj h)
      exact .sweeps o
  | finished o => exact absurd h (by simp [step])
  | _ =>
      obtain ⟨rfl, rfl⟩ := Prod.mk.inj (Option.some.inj h)
      exact .works rfl rfl rfl rfl

end Steps

end SqlxDryRun.DryRun
