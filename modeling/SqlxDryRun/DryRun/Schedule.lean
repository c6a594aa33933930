import SqlxDryRun.DryRun.Stage

/-!
# Dry runs from beginning to end

A run that is alone waits for nothing but the service, so the clock may jump to the time of the
answer. Runs that overlap take turns: each goes on until it must wait, and when all of them must,
the clock jumps to the earliest time at which one can go on.

Main definitions:

* `run`: one run on its own;
* `runAll`: runs that are started together, in their order.
-/

namespace SqlxDryRun.DryRun

/-- The time for which a run waits: that of the answer, or none at all. -/
def Stage.due? : Stage → Option Duration
  | .expecting _ _ due _ => some due
  | _ => none

/-- The desk when the time has come for which a run waits. -/
def Desk.await (d : Desk) (s : Stage) : Desk :=
  match s.due? with
  | some due => { d with now := if d.now < due then due else d.now }
  | none => d

/-- The desk and the stage after all steps that a lone run can make. -/
def runFrom (t : Tools) (job : Job) (d : Desk) (s : Stage) : Desk × Stage :=
  match _h : step t job (d.await s) s with
  | none => (d, s)
  | some (d', s') => runFrom t job d' s'
termination_by s.rank
decreasing_by exact rank_step_lt _h

/-- One run on its own. It has an outcome unless it waits for a lock that nobody gives back. -/
def run (t : Tools) (d : Desk) (job : Job) : Desk × Option Outcome :=
  let (d', s) := runFrom t job d .checking
  (d', s.outcome?)

/-- A run in progress. -/
structure Run where
  tools : Tools
  job : Job
  stage : Stage

/-- The desk and the stage of a run after it went on until it must wait. -/
def advance (t : Tools) (job : Job) (d : Desk) (s : Stage) : Desk × Stage :=
  match _h : step t job d s with
  | none => (d, s)
  | some (d', s') => advance t job d' s'
termination_by s.rank
decreasing_by exact rank_step_lt _h

/-- Lets each run in turn go on until it must wait. -/
def pass (d : Desk) : List Run → Desk × List Run
  | [] => (d, [])
  | r :: rest =>
    let (d, s) := advance r.tools r.job d r.stage
    let (d, rest) := pass d rest
    (d, { r with stage := s } :: rest)

/-- How many steps the runs are from their ends at most. -/
def remaining : List Run → Nat
  | [] => 0
  | r :: rest => r.stage.rank + remaining rest

/-- The earliest time for which a run waits. -/
def nextDue? (runs : List Run) : Option Duration :=
  (runs.filterMap fun r => r.stage.due?).foldl
    (fun earliest due =>
      match earliest with
      | some e => some (if due < e then due else e)
      | none => some due) none

/-- The desk and the runs after at most `fuel` passes. Between passes that change nothing the clock
jumps. -/
def settleWithin : (fuel : Nat) → Desk → List Run → Desk × List Run
  | 0, d, runs => (d, runs)
  | fuel + 1, d, runs =>
    let (d', runs') := pass d runs
    if remaining runs' < remaining runs then settleWithin fuel d' runs'
    else
      match nextDue? runs' with
      | some due => settleWithin fuel { d' with now := if d'.now < due then due else d'.now } runs'
      | none => (d', runs')

/-- The desk and the runs when no run can go on. Every second pass at least brings some run nearer
to its end. -/
def settle (d : Desk) (runs : List Run) : Desk × List Run :=
  settleWithin (2 * remaining runs + 1) d runs

/-- Runs that are started together, with their outcomes. -/
def runAll (t : Tools) (d : Desk) (jobs : List Job) : Desk × List (Option Outcome) :=
  let (d', runs) := settle d (jobs.map fun job => ⟨t, job, .checking⟩)
  (d', runs.map fun r => r.stage.outcome?)

end SqlxDryRun.DryRun
