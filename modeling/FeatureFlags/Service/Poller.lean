/-!
# Polling

A poller refreshes at once and then once in every interval, on a task of its own. A refresh that
has started is allowed to finish; a stopped poller ends between two refreshes. A tick that was
missed happens as soon as the refresh before it ends, and the next one is an interval after it.

A stopped task may still be busy when a new one is started, so there can be several.
-/

namespace FeatureFlags

/-- What a task of a poller is doing. -/
inductive PollerPhase where
  /-- It waits for its next tick. -/
  | resting (due : Nat)
  /-- It refreshes; the tick after this one is set already. -/
  | refreshing (next : Nat)
  | ended
  deriving DecidableEq, Repr

/-- A task of a poller. -/
structure PollerTask where
  id : Nat
  isCancelled : Bool
  phase : PollerPhase
  deriving DecidableEq, Repr

/-- A poller with its tasks. Times are in milliseconds. -/
structure Poller where
  interval : Nat
  /-- The task that was started and not stopped. -/
  running : Option Nat
  tasks : List PollerTask
  deriving DecidableEq, Repr

namespace Poller

/-- A poller that has not been started. An interval of nothing is taken as a second. -/
def new (interval : Nat) : Poller := ⟨if interval = 0 then 1000 else interval, none, []⟩

/-- How long stopping waits for a refresh. -/
def patience : Nat := 5000

/-- How late a tick may come without putting off the next one. -/
def tolerance : Nat := 5

/-- The tick after one that was due and happens now. -/
def nextDue (interval due now : Nat) : Nat :=
  if due + tolerance < now then now + interval else due + interval

/-- The phase of a task. -/
def phase? (p : Poller) (id : Nat) : Option PollerPhase :=
  (p.tasks.find? fun t => t.id = id).map PollerTask.phase

/-- Change a task. -/
def modify (p : Poller) (id : Nat) (f : PollerTask → PollerTask) : Poller :=
  { p with tasks := p.tasks.map fun t => if t.id = id then f t else t }

/-- Start polling with a new task, unless one is running. The first tick is due at once. -/
def start (p : Poller) (id now : Nat) : Bool × Poller :=
  match p.running with
  | some _ => (false, p)
  | none => (true, { p with running := some id, tasks := p.tasks ++ [⟨id, false, .resting now⟩] })

/-- A tick: the task starts to refresh. -/
def tick (p : Poller) (id now : Nat) : Poller :=
  p.modify id fun t =>
    match t.phase with
    | .resting due => { t with phase := .refreshing (nextDue p.interval due now) }
    | _ => t

/-- A refresh has ended. -/
def rest (p : Poller) (id : Nat) : Poller :=
  p.modify id fun t =>
    match t.phase with
    | .refreshing next => { t with phase := .resting next }
    | _ => t

/-- A task has ended. -/
def finish (p : Poller) (id : Nat) : Poller := p.modify id fun t => { t with phase := .ended }

/-- Cancel the task that is running, if there is one, and tell which. -/
def cancel (p : Poller) : Option Nat × Poller :=
  match p.running with
  | none => (none, p)
  | some id => (some id, { p.modify id (fun t => { t with isCancelled := true }) with
      running := none })

end Poller

namespace PollerTask

/-- What a task is to do at a time, when it is not refreshing. -/
inductive Move where
  | tick
  | leave
  | wait
  deriving DecidableEq, Repr

/-- What a resting task is to do: a cancelled one leaves, whether or not a tick is due. -/
def move (t : PollerTask) (now : Nat) : Move :=
  match t.phase with
  | .resting due => if t.isCancelled then .leave else if due ≤ now then .tick else .wait
  | .refreshing _ | .ended => .wait

/-- When the next tick of a task is due, if it waits for one. -/
def due? (t : PollerTask) : Option Nat :=
  match t.phase with
  | .resting due => if t.isCancelled then none else some due
  | .refreshing _ | .ended => none

end PollerTask

end FeatureFlags
