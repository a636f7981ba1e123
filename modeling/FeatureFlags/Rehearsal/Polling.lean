import FeatureFlags.Rehearsal.Simulation
import FeatureFlags.Service.Poller

/-!
# Rehearsing a poller

A poller is started, stopped and left alone, with refreshes that go by a plan: each takes the next
item of the plan, and the last one repeats.
-/

namespace FeatureFlags.PollingRehearsal

/-- How a refresh goes. -/
inductive PlannedRefresh where
  /-- It ends at once, well or not. -/
  | ends
  /-- It breaks off without an end. -/
  | breaksOff
  /-- It takes a time. -/
  | takes (millis : Nat)
  deriving DecidableEq, Repr

/-- A step of a rehearsal. -/
inductive Step where
  | start (plan : List PlannedRefresh)
  /-- Starting where no task can run. -/
  | startNowhere
  | sleep (millis : Nat)
  | stop
  deriving DecidableEq, Repr

/-- The refreshes of a task that are still to come, and when the present one ends. -/
structure TaskPlan where
  task : Nat
  plan : List PlannedRefresh
  ends : Option Nat
  deriving DecidableEq, Repr

/-- The state of a rehearsal. -/
structure State where
  poller : Poller
  nextTask : Nat
  plans : List TaskPlan
  started : Nat
  finished : Nat
  deriving DecidableEq, Repr

/-- A rehearsal in which nothing has happened. -/
def State.new (interval : Nat) : State := ⟨.new interval, 0, [], 0, 0⟩

/-- The plan after its next item; the last item stays. -/
def nextPlan : List PlannedRefresh → List PlannedRefresh
  | [] => []
  | [last] => [last]
  | _ :: rest => rest

/-- Change the plan of a task. -/
def State.setPlan (s : State) (task : Nat) (f : TaskPlan → TaskPlan) : State :=
  { s with plans := s.plans.map fun p => if p.task = task then f p else p }

/-- Begin the next refresh of a task. -/
def State.beginRefresh (s : State) (task time : Nat) : State :=
  let item := ((s.plans.find? fun p => p.task = task).bind fun p => p.plan.head?).getD .ends
  let s := { s with poller := s.poller.tick task time, started := s.started + 1 }
  let s := s.setPlan task fun p => { p with plan := nextPlan p.plan }
  match item with
  | .ends => { s with poller := s.poller.rest task, finished := s.finished + 1 }
  | .breaksOff => { s with poller := s.poller.rest task }
  | .takes millis => s.setPlan task fun p => { p with ends := some (time + millis) }

/-- End the refresh of a task. -/
def State.endRefresh (s : State) (task : Nat) : State :=
  let s := s.setPlan task fun p => { p with ends := none }
  { s with poller := s.poller.rest task, finished := s.finished + 1 }

/-- Let a task do one thing, if it can. -/
def State.moveTask (time : Nat) (s : State) (t : PollerTask) : State × Bool :=
  match t.phase with
  | .refreshing _ =>
    match (s.plans.find? fun p => p.task = t.id).bind TaskPlan.ends with
    | some ends => if ends ≤ time then (s.endRefresh t.id, true) else (s, false)
    | none => (s, false)
  | .resting _ | .ended =>
    match t.move time with
    | .tick => (s.beginRefresh t.id time, true)
    | .leave => ({ s with poller := s.poller.finish t.id }, true)
    | .wait => (s, false)

/-- Let every task do one thing, if it can. -/
def State.moveTasks (time : Nat) (s : State) : State × Bool :=
  s.poller.tasks.foldl (fun (s, moved) t =>
    let (s, m) := s.moveTask time t
    (s, moved || m)) (s, false)

/-- What the foreground waits for. -/
inductive Foreground where
  | ended
  | asleep (due : Nat)
  | stopping (task deadline : Nat)
  deriving DecidableEq, Repr

/-- The foreground ends its wait, if it can. A task that a stop has waited for long enough is
aborted. -/
def poll (time : Nat) (f : Foreground) (s : State) : State × Foreground :=
  match f with
  | .ended => (s, .ended)
  | .asleep due => (s, if due ≤ time then .ended else f)
  | .stopping task deadline =>
    if s.poller.phase? task = some .ended then (s, .ended)
    else if deadline ≤ time then ({ s with poller := s.poller.finish task }, .ended)
    else (s, f)

/-- When something is due. -/
def dueTimes (s : State) (f : Foreground) : List Nat :=
  s.plans.filterMap TaskPlan.ends ++ s.poller.tasks.filterMap PollerTask.due?
    ++ match f with
      | .ended => []
      | .asleep due => [due]
      | .stopping _ deadline => [deadline]

/-- The poller in time. -/
def simulation : Simulation State Foreground where
  poll := poll
  hasEnded f := f = .ended
  background time s := s.moveTasks time
  dueTimes := dueTimes

/-- What a step shows: whether a start was accepted, and the state after it. -/
structure Report where
  accepted : Option Bool
  isRunning : Bool
  interval : Nat
  started : Nat
  finished : Nat
  time : Nat
  deriving DecidableEq, Repr

/-- Begin a step. -/
def begin (time : Nat) (s : State) : Step → Option Bool × State × Foreground
  | .start plan =>
    let (accepted, poller) := s.poller.start s.nextTask time
    let s := if accepted then
        { s with
          poller := poller
          nextTask := s.nextTask + 1
          plans := s.plans ++ [⟨s.nextTask, plan, none⟩] }
      else s
    (some accepted, s, .asleep (time + 1))
  | .startNowhere => (some false, s, .ended)
  | .sleep millis => (none, s, .asleep (time + millis))
  | .stop =>
    match s.poller.cancel with
    | (some task, poller) =>
      (none, { s with poller := poller }, .stopping task (time + Poller.patience))
    | (none, _) => (none, s, .ended)

/-- Do steps one after the other, from a time on. -/
def runSteps : Nat → State → List Step → List Report × Nat × State
  | time, s, [] => ([], time, s)
  | time, s, step :: rest =>
    let (accepted, s, f) := begin time s step
    let (time, s, _) := simulation.run time s f
    let report : Report := {
      accepted := accepted
      isRunning := s.poller.running.isSome
      interval := s.poller.interval
      started := s.started
      finished := s.finished
      time := time }
    let (reports, time, s) := runSteps time s rest
    (report :: reports, time, s)

/-- Do steps, then give the poller up and let three intervals pass. The last two numbers are the
refreshes that were started and finished by then. -/
def run (interval : Nat) (steps : List Step) : List Report × Nat × Nat :=
  let (reports, time, s) := runSteps 0 (.new interval) steps
  let s := { s with poller := s.poller.cancel.2 }
  let (_, s, _) := simulation.run time s (.asleep (time + 3 * s.poller.interval))
  (reports, s.started, s.finished)

end FeatureFlags.PollingRehearsal
