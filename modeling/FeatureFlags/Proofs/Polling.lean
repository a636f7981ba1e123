import FeatureFlags.Proofs.JobSteps

/-!
# What an event does to the poller

A task of the poller rests, refreshes and ends. `System.step_phase` lists the events that bring it
from one phase to another, and `System.step_running` those that put a task in charge or stop it.
-/

namespace FeatureFlags

/-! ### Phases of tasks -/

namespace PollerPhase

/-- A task refreshes. -/
def isRefreshing : PollerPhase → Bool
  | .refreshing _ => true
  | .resting _ | .ended => false

/-- The phase after a tick. -/
def afterTick (interval now : Nat) : PollerPhase → PollerPhase
  | .resting due => .refreshing (Poller.nextDue interval due now)
  | .refreshing next => .refreshing next
  | .ended => .ended

/-- The phase after the end of a refresh. -/
def afterRest : PollerPhase → PollerPhase
  | .refreshing next => .resting next
  | .resting due => .resting due
  | .ended => .ended

end PollerPhase

namespace Poller

variable {p : Poller} {id other now : Nat}

/-- A change of one task changes the phase of that task alone. -/
lemma phase?_modify {f : PollerTask → PollerTask} {g : PollerPhase → PollerPhase}
    (hid : ∀ t, (f t).id = t.id) (hphase : ∀ t, (f t).phase = g t.phase) :
    (p.modify id f).phase? other =
      if other = id then (p.phase? id).map g else p.phase? other := by
  have hsame : (fun t : PollerTask => decide ((if t.id = id then f t else t).id = other)) =
      fun t => decide (t.id = other) := by
    funext t
    split
    · rw [hid]
    · rfl
  have hfind : (p.modify id f).tasks.find? (fun t => t.id = other) =
      (p.tasks.find? fun t => t.id = other).map fun t => if t.id = id then f t else t := by
    rw [modify, List.find?_map]
    exact congrArg (fun q => Option.map _ (List.find? q p.tasks)) hsame
  rw [phase?, hfind, Option.map_map]
  split
  · rename_i h
    subst h
    rw [phase?, Option.map_map]
    refine Option.map_congr fun t ht => ?_
    have htask : t.id = other := by simpa using List.find?_some ht
    simp [htask, hphase]
  · rename_i h
    rw [phase?]
    refine Option.map_congr fun t ht => ?_
    have htask : t.id = other := by simpa using List.find?_some ht
    simp [htask, h]

lemma phase?_tick : (p.tick id now).phase? other =
    if other = id then (p.phase? id).map (.afterTick p.interval now) else p.phase? other := by
  refine phase?_modify (fun t => ?_) fun t => ?_
  · split <;> rfl
  · cases h : t.phase <;> simp [PollerPhase.afterTick, h]

lemma phase?_rest : (p.rest id).phase? other =
    if other = id then (p.phase? id).map .afterRest else p.phase? other := by
  refine phase?_modify (fun t => ?_) fun t => ?_
  · split <;> rfl
  · cases h : t.phase <;> simp [PollerPhase.afterRest, h]

lemma phase?_finish : (p.finish id).phase? other =
    if other = id then (p.phase? id).map fun _ => .ended else p.phase? other :=
  phase?_modify (fun _ => rfl) fun _ => rfl

@[simp] lemma phase?_cancel (p : Poller) : p.cancel.2.phase? other = p.phase? other := by
  rw [cancel]
  split
  · rfl
  · rename_i task htask
    have hkept : (p.modify task fun t => { t with isCancelled := true }).phase? other =
        if other = task then (p.phase? task).map id else p.phase? other :=
      phase?_modify (fun _ => rfl) fun _ => rfl
    refine hkept.trans ?_
    split
    · rename_i h
      rw [h, Option.map_id]
      rfl
    · rfl

@[simp] lemma running_cancel (p : Poller) : p.cancel.2.running = none := by
  rw [cancel]
  split
  · assumption
  · rfl

lemma start_of_running (h : p.running.isSome = true) : p.start id now = (false, p) := by
  obtain ⟨task, htask⟩ := Option.isSome_iff_exists.1 h
  simp [start, htask]

lemma start_of_free (h : p.running = none) : p.start id now =
    (true, { p with running := some id, tasks := p.tasks ++ [⟨id, false, .resting now⟩] }) := by
  simp [start, h]

/-- A poller that is started has a new task, unless there is one of that number. -/
lemma phase?_start (h : p.running = none) : (p.start id now).2.phase? other =
    (p.phase? other).or (if id = other then some (.resting now) else none) := by
  rw [start_of_free h, phase?, List.find?_append, Option.map_or]
  by_cases hid : id = other <;> simp [phase?, hid]

end Poller

namespace System

variable {s : System} {event : Event} {id : Nat}

/-! ### Events -/

/-- A poller is started at an event: one that was not running, and that may run at all. -/
def accepts (s : System) : Event → Bool
  | .startPolling _ _ => s.service.evaluatesLocally && s.poller.running.isNone
  | _ => false

/-- What an event can make of the phase of a task. -/
inductive PhaseChange (s : System) (id : Nat) : Event → Option PollerPhase → Prop where
  | same (event : Event) : PhaseChange s id event (s.poller.phase? id)
  | started {now : Nat} (hfree : s.poller.phase? id = none)
      (haccepts : s.accepts (.startPolling id now) = true) :
      PhaseChange s id (.startPolling id now) (some (.resting now))
  | ticked {due : Nat} (now : Nat) (hphase : s.poller.phase? id = some (.resting due)) :
      PhaseChange s id (.tick id now)
        (some (.refreshing (Poller.nextDue s.poller.interval due now)))
  | rested {next : Nat} {outcome : Except Failure Unit}
      (hphase : s.poller.phase? id = some (.refreshing next))
      (hstage : s.stage? id = some (.loaded outcome)) :
      PhaseChange s id (.rest id) (some (.resting next))
  | left {due : Nat} (hphase : s.poller.phase? id = some (.resting due)) :
      PhaseChange s id (.leave id) (some .ended)
  | aborted {phase : PollerPhase} (hphase : s.poller.phase? id = some phase)
      (hgoing : phase ≠ .ended) : PhaseChange s id (.abort id) (some .ended)

/-- Where one task is changed, its phase is what the change makes of it, and others keep theirs. -/
lemma PhaseChange.of_modified {p : Poller} {g : PollerPhase → PollerPhase} {phase : PollerPhase}
    {task : Nat} (hp : p.phase? id =
      if id = task then (s.poller.phase? task).map g else s.poller.phase? id)
    (hphase : s.poller.phase? task = some phase)
    (hself : id = task → s.PhaseChange id event (some (g phase))) :
    s.PhaseChange id event (p.phase? id) := by
  by_cases h : id = task
  · rw [hp, if_pos h, hphase]
    exact hself h
  · rw [hp, if_neg h]
    exact .same event

theorem step_phase (s : System) (id : Nat) (event : Event) :
    s.PhaseChange id event ((s.step event).poller.phase? id) := by
  -- only an event that names the task changes its phase, and only from the phase it asks for
  cases event with
  | ask | load | lookUp | clear | setClock => exact .same _
  | goOn job =>
    simp only [step]
    split
    · split <;> exact .same _
    · exact .same _
  | fetched | answered | collect =>
    simp only [step]
    split <;> exact .same _
  | startPolling task now =>
    simp only [step]
    split
    · rename_i hlocal
      cases hrunning : s.poller.running with
      | some other =>
        rw [Poller.start_of_running (hrunning ▸ rfl)]
        exact .same _
      | none =>
        have haccepts : s.accepts (.startPolling task now) = true := by simp [accepts, *]
        have hphase : (s.poller.start task now).2.phase? id =
            (s.poller.phase? id).or (if task = id then some (.resting now) else none) :=
          Poller.phase?_start hrunning
        -- a number that is taken keeps its task, and its phase
        by_cases h : task = id ∧ s.poller.phase? id = none
        · obtain ⟨rfl, hfree⟩ := h
          rw [hfree, Option.none_or, if_pos rfl] at hphase
          exact hphase ▸ .started hfree haccepts
        · have hkept : (s.poller.start task now).2.phase? id = s.poller.phase? id := by
            rw [hphase]
            cases hbefore : s.poller.phase? id with
            | some phase => rfl
            | none =>
              have hne : task ≠ id := fun heq => h ⟨heq, hbefore⟩
              rw [Option.none_or, if_neg hne]
          exact hkept ▸ .same _
    · exact .same _
  | tick task now =>
    simp only [step]
    split
    · rename_i due hphase
      refine .of_modified Poller.phase?_tick hphase ?_
      rintro rfl
      exact .ticked now hphase
    · exact .same _
  | rest task =>
    simp only [step]
    split
    · rename_i next outcome hphase hstage
      -- what the refresh came to is read from the stage of its job
      refine .of_modified Poller.phase?_rest hphase ?_
      rintro rfl
      exact .rested hphase hstage
    · exact .same _
  | leave task =>
    simp only [step]
    split
    · rename_i due hphase
      refine .of_modified Poller.phase?_finish hphase ?_
      rintro rfl
      exact .left hphase
    · exact .same _
  | cancelPolling =>
    rw [step, Poller.phase?_cancel]
    exact .same _
  | abort task =>
    simp only [step]
    split
    · exact .same _
    · exact .same _
    · rename_i phase hgoing hphase
      refine .of_modified Poller.phase?_finish hphase ?_
      rintro rfl
      exact .aborted hphase hgoing

lemma phase?_step_tick {now due : Nat} (hphase : s.poller.phase? id = some (.resting due)) :
    (s.step (.tick id now)).poller.phase? id =
      some (.refreshing (Poller.nextDue s.poller.interval due now)) := by
  simp only [step, hphase]
  refine (Poller.phase?_tick.trans (if_pos rfl)).trans ?_
  rw [hphase]
  rfl

/-- A job that has not begun does not begin but by being brought on. -/
lemma stage?_step_of_none (hnone : s.stage? id = none) (hstays : ∀ next, ¬s.Move event id next) :
    (s.step event).stage? id = none := by
  refine Option.eq_none_iff_forall_ne_some.2 fun stage hstage => ?_
  cases s.step_turn event with
  | moved hmove _ hjobs =>
    rcases stage?_of_moved hjobs id with ⟨rfl, -⟩ | ⟨-, hsame⟩
    · exact hstays _ hmove
    · cases hnone.symm.trans (hsame.symm.trans hstage)
  | aborted _ hjobs => cases hnone.symm.trans (stage?_of_dropped hjobs hstage).2
  | aside _ _ hjobs => cases hnone.symm.trans (stage?_of_aside hjobs hstage)

/-- A task that goes on after an event went on before, or was started. -/
lemma exists_phase {phase : PollerPhase} (hphase : (s.step event).poller.phase? id = some phase)
    (hgoing : phase ≠ .ended) :
    (∃ before, s.poller.phase? id = some before ∧ before ≠ .ended) ∨
      ∃ now, event = .startPolling id now ∧ s.accepts event = true := by
  generalize hnext : (s.step event).poller.phase? id = found at hphase
  have hchange := s.step_phase id event
  rw [hnext] at hchange
  cases hchange with
  | same => exact .inl ⟨phase, hphase, hgoing⟩
  | started _ haccepts => exact .inr ⟨_, rfl, haccepts⟩
  | ticked _ hbefore | rested hbefore _ => exact .inl ⟨_, hbefore, nofun⟩
  | left | aborted => exact absurd (Option.some.inj hphase).symm hgoing

/-- A task that has ended has ended for good. -/
lemma ended_step (hended : s.poller.phase? id = some .ended) (event : Event) :
    (s.step event).poller.phase? id = some .ended := by
  generalize hnext : (s.step event).poller.phase? id = phase
  have hchange := s.step_phase id event
  rw [hnext] at hchange
  cases hchange with
  | same => exact hended
  | started hbefore | ticked _ hbefore | rested hbefore _ =>
    rw [hended] at hbefore
    cases hbefore
  | left | aborted => rfl

lemma ended_run (hended : s.poller.phase? id = some .ended) (events : List Event) :
    (s.run events).poller.phase? id = some .ended := by
  induction events generalizing s with
  | nil => exact hended
  | cons event rest ih => exact ih (ended_step hended event)

/-- What an event can make of the task that is running. -/
inductive RunningChange (s : System) : Event → Option Nat → Prop where
  | same {event : Event} (hrefuses : s.accepts event = false) :
      RunningChange s event s.poller.running
  | started {task now : Nat} (haccepts : s.accepts (.startPolling task now) = true) :
      RunningChange s (.startPolling task now) (some task)
  | cancelled : RunningChange s .cancelPolling none

theorem step_running (s : System) (event : Event) :
    s.RunningChange event (s.step event).poller.running := by
  cases event with
  | ask | load | lookUp | clear | setClock => exact .same rfl
  | goOn job =>
    simp only [step]
    split
    · split <;> exact .same rfl
    · exact .same rfl
  | fetched | answered | collect | tick | rest | leave | abort =>
    simp only [step]
    split <;> exact .same rfl
  | startPolling task now =>
    simp only [step]
    split
    · rename_i hlocal
      cases hrunning : s.poller.running with
      | some other =>
        rw [Poller.start_of_running (hrunning ▸ rfl)]
        exact .same (by simp [accepts, hrunning])
      | none =>
        rw [Poller.start_of_free hrunning]
        exact .started (by simp [accepts, *])
    · rename_i hremote
      exact .same (by simp [accepts, hremote])
  | cancelPolling =>
    rw [step, Poller.running_cancel]
    exact .cancelled

end System

end FeatureFlags
