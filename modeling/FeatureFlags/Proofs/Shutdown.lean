import FeatureFlags.Proofs.OneAndAll
import FeatureFlags.Proofs.Polling

/-!
# Quiet after a shutdown

A shutdown takes the task that is running, and waits for that one alone. When all tasks that were
taken have ended, none is at work, and none will be until a poller is started again. A shutdown that
finds no task running waits for nothing, even while a task that another shutdown has taken still
refreshes.
-/

namespace FeatureFlags

/-! ### Numbers of jobs and tasks -/

/-- The number that an event gives to a job or a task that begins. -/
def Event.begun? : Event → Option Nat
  | .ask job _ | .load job => some job
  | .startPolling task _ => some task
  | .goOn _ | .fetched _ _ | .answered _ _ | .collect _ | .lookUp _ | .clear | .setClock _
  | .tick _ _ | .rest _ | .leave _ | .cancelPolling | .abort _ => none

namespace System

variable {s : System} {event : Event} {events : List Event} {task : Nat} {next : Service × Stage}
  {known : List Nat}

/-- No job and no task goes by a number. -/
def isFree (s : System) (number : Nat) : Bool :=
  (s.stage? number).isNone && (s.poller.phase? number).isNone

/-- What begins at an event gets a number that is free. -/
def numbers (s : System) (event : Event) : Bool := event.begun?.all s.isFree

/-- Whatever begins at events gets a number that is free. -/
def isNumbered (s : System) (events : List Event) : Bool :=
  (s.moments events).all fun m => m.state.numbers m.event

lemma isNumbered_cons : s.isNumbered (event :: events) =
    (s.numbers event && (s.step event).isNumbered events) := rfl

lemma isNumbered_append (rest : List Event) : s.isNumbered (events ++ rest) =
    (s.isNumbered events && (s.run events).isNumbered rest) := by
  rw [isNumbered, moments_append, List.all_append]
  rfl

lemma isNumbered_of_part {part : List Event} (h : s.isNumbered events = true)
    (hpart : part <+: events) : s.isNumbered part = true := by
  obtain ⟨rest, rfl⟩ := hpart
  rw [isNumbered_append, Bool.and_eq_true] at h
  exact h.1

lemma isFree_of_numbers (h : s.numbers event = true) (hbegun : event.begun? = some task) :
    s.stage? task = none ∧ s.poller.phase? task = none := by
  simpa [numbers, hbegun, isFree] using h

/-! ### Tasks that shutdowns have taken -/

/-- The task that a shutdown takes when it begins. -/
def taken? (s : System) : Event → Option Nat
  | .cancelPolling => s.poller.running
  | _ => none

/-- The tasks that shutdowns take at events. -/
def taken (s : System) (events : List Event) : List Nat :=
  (s.moments events).filterMap fun m => m.state.taken? m.event

/-- A poller is started at one of some events. -/
def starts (s : System) (events : List Event) : Bool :=
  (s.moments events).any fun m => m.state.accepts m.event

lemma taken_append (rest : List Event) :
    s.taken (events ++ rest) = s.taken events ++ (s.run events).taken rest := by
  rw [taken, moments_append, List.filterMap_append]
  rfl

lemma taken_singleton : s.taken [event] = (s.taken? event).toList := by
  cases h : s.taken? event <;> simp [taken, moments, h]

lemma starts_cons : s.starts (event :: events) =
    (s.accepts event || (s.step event).starts events) := rfl

/-- A task that has not ended is running, or a shutdown has taken it. -/
def Minds (s : System) (known : List Nat) : Prop :=
  ∀ task phase, s.poller.phase? task = some phase → phase ≠ .ended →
    s.poller.running = some task ∨ task ∈ known

lemma Minds.step (h : s.Minds known) (event : Event) :
    (s.step event).Minds (known ++ (s.taken? event).toList) := by
  intro task phase hphase hgoing
  generalize hnext : (s.step event).poller.running = running
  have hrunning := s.step_running event
  rw [hnext] at hrunning
  rcases exists_phase hphase hgoing with ⟨before, hbefore, hwent⟩ | ⟨now, rfl, haccepts⟩
  · rcases h task before hbefore hwent with hrun | hmem
    · cases hrunning with
      | same => exact .inl hrun
      | started haccepts => simp [accepts, hrun] at haccepts
      | cancelled => exact .inr (by simp [taken?, hrun])
    · exact .inr (List.mem_append_left _ hmem)
  · cases hrunning with
    | same hrefuses =>
      rw [haccepts] at hrefuses
      cases hrefuses
    | started => exact .inl rfl

lemma Minds.run (h : s.Minds known) (events : List Event) :
    (s.run events).Minds (known ++ s.taken events) := by
  induction events using List.reverseRecOn with
  | nil =>
    rw [taken, moments, List.filterMap_nil, List.append_nil]
    exact h
  | append_singleton events event ih =>
    rw [run_append, taken_append, taken_singleton, ← List.append_assoc]
    exact ih.step event

/-- While no poller is running and none is started, shutdowns have nothing to take. -/
lemma taken_eq_nil (hrunning : s.poller.running = none) (hstarts : s.starts events = false) :
    s.taken events = [] ∧ (s.run events).poller.running = none := by
  induction events generalizing s with
  | nil => exact ⟨rfl, hrunning⟩
  | cons event rest ih =>
    rw [starts_cons, Bool.or_eq_false_iff] at hstarts
    obtain ⟨hrefuses, hstarts⟩ := hstarts
    have htaken : s.taken? event = none := by
      cases event with
      | cancelPolling => exact hrunning
      | _ => rfl
    have hstill : (s.step event).poller.running = none := by
      generalize hnext : (s.step event).poller.running = running
      have hchange := s.step_running event
      rw [hnext] at hchange
      -- only a start that is accepted sets a poller running, and there is none
      cases hchange with
      | same => exact hrunning
      | started haccepts =>
        rw [hrefuses] at haccepts
        cases haccepts
      | cancelled => rfl
    obtain ⟨hnone, hend⟩ := ih hstill hstarts
    refine ⟨?_, hend⟩
    rw [← List.singleton_append, taken_append, taken_singleton, htaken]
    exact hnone

/-- Since a shutdown has begun, if no poller was started, no task goes on but the one that it has
taken, and those that were taken before. -/
lemma Minds.of_cancelled (h : s.Minds known)
    (hstarts : (s.step .cancelPolling).starts events = false) {phase : PollerPhase}
    (hphase : ((s.step .cancelPolling).run events).poller.phase? task = some phase)
    (hgoing : phase ≠ .ended) : s.poller.running = some task ∨ task ∈ known := by
  obtain ⟨hnothing, hstopped⟩ := taken_eq_nil (Poller.running_cancel s.poller) hstarts
  have hminds := (h.step .cancelPolling).run events
  rw [hnothing, List.append_nil] at hminds
  rcases hminds task phase hphase hgoing with hrunning | hmem
  · cases hstopped.symm.trans hrunning
  · exact (List.mem_append.1 hmem).symm.imp_left Option.mem_toList.1

/-! ### Jobs of tasks -/

/-- A task has a job only while it refreshes. -/
def Idles (s : System) : Prop :=
  ∀ task phase, s.poller.phase? task = some phase → phase.isRefreshing = false →
    s.stage? task = none

/-- A task without a job gets one only by a tick, for which it rests before. -/
lemma Move.resting_of_none {phase : PollerPhase} (hmove : s.Move event task next)
    (hnumbers : s.numbers event = true) (hphase : s.poller.phase? task = some phase)
    (hnone : s.stage? task = none) :
    ∃ now due, event = .tick task now ∧ phase = .resting due := by
  cases hmove with
  | ask | load => cases (isFree_of_numbers hnumbers rfl).2.symm.trans hphase
  | tick now hresting => exact ⟨now, _, rfl, Option.some.inj (hphase.symm.trans hresting)⟩
  | goOn hstage _ | fetched _ hstage | answered _ hstage => cases hnone.symm.trans hstage

lemma Idles.step (h : s.Idles) (hnumbers : s.numbers event = true) : (s.step event).Idles := by
  intro task phase hphase hrests
  generalize hnext : (s.step event).poller.phase? task = found at hphase
  have hchange := s.step_phase task event
  rw [hnext] at hchange
  -- a task takes a job on by a tick and puts it down when it rests, ends or is aborted
  cases hchange with
  | same =>
    have hnone := h task phase hphase hrests
    refine stage?_step_of_none hnone fun next hmove => ?_
    obtain ⟨now, due, rfl, rfl⟩ := hmove.resting_of_none hnumbers hphase hnone
    rw [phase?_step_tick hphase, hphase] at hnext
    cases hnext
  | started _ haccepts =>
    refine stage?_step_of_none (isFree_of_numbers hnumbers rfl).1 fun next hmove => ?_
    cases hmove
  | ticked =>
    rw [← Option.some.inj hphase] at hrests
    cases hrests
  | rested hbefore hstage =>
    simp only [step, hbefore, hstage]
    exact stage?_drop s task
  | left hbefore =>
    refine stage?_step_of_none (h task _ hbefore rfl) fun next hmove => ?_
    cases hmove
  | @aborted before hbefore hgoing =>
    cases before with
    | ended => exact absurd rfl hgoing
    | resting | refreshing =>
      simp only [step, hbefore]
      exact stage?_drop s task

lemma Idles.run (h : s.Idles) (hnumbered : s.isNumbered events = true) : (s.run events).Idles := by
  induction events generalizing s with
  | nil => exact h
  | cons event rest ih =>
    rw [isNumbered_cons, Bool.and_eq_true] at hnumbered
    exact ih (h.step hnumbered.1) hnumbered.2

/-! ### Quiet -/

/-- A task is done: it has ended, and it has no job. -/
structure IsDone (s : System) (task : Nat) : Prop where
  ended : s.poller.phase? task = some .ended
  idle : s.stage? task = none

lemma Idles.isDone (h : s.Idles) (hended : s.poller.phase? task = some .ended) : s.IsDone task :=
  ⟨hended, h task .ended hended rfl⟩

/-- Every task of the poller is done. -/
def IsQuiet (s : System) : Prop :=
  ∀ task phase, s.poller.phase? task = some phase → s.IsDone task

lemma IsQuiet.idles (h : s.IsQuiet) : s.Idles :=
  fun task phase hphase _ => (h task phase hphase).idle

lemma IsQuiet.step (h : s.IsQuiet) (hnumbers : s.numbers event = true)
    (hrefuses : s.accepts event = false) : (s.step event).IsQuiet := by
  intro task phase hphase
  have hended : phase = .ended := by
    by_contra hgoing
    rcases exists_phase hphase hgoing with ⟨before, hbefore, hwent⟩ | ⟨now, -, haccepts⟩
    · exact hwent (Option.some.inj (hbefore.symm.trans (h task before hbefore).ended))
    · cases hrefuses.symm.trans haccepts
  exact (h.idles.step hnumbers).isDone (hended ▸ hphase)

lemma IsQuiet.run (h : s.IsQuiet) (hnumbered : s.isNumbered events = true)
    (hstarts : s.starts events = false) : (s.run events).IsQuiet := by
  induction events generalizing s with
  | nil => exact h
  | cons event rest ih =>
    rw [isNumbered_cons, Bool.and_eq_true] at hnumbered
    rw [starts_cons, Bool.or_eq_false_iff] at hstarts
    exact ih (h.step hnumbered.1 hstarts.1) hnumbered.2 hstarts.2

/-- Where it is quiet, no job of a task is brought on. -/
lemma IsQuiet.phase?_of_move (h : s.IsQuiet) (hnumbers : s.numbers event = true)
    (hmove : s.Move event task next) : s.poller.phase? task = none := by
  refine Option.eq_none_iff_forall_ne_some.2 fun phase hphase => ?_
  obtain ⟨hended, hidle⟩ := h task phase hphase
  obtain ⟨now, due, -, rfl⟩ := hmove.resting_of_none hnumbers hphase hidle
  cases hended.symm.trans hphase

/-- A shutdown waits for the task that was running when it began. When that one has ended and no
poller was started meanwhile, no task is at work but those that shutdowns had taken before, and no
task that has ended has a job again. If those have ended, too, it is quiet, and stays so until a
poller is started: no event brings the job of a task on. -/
theorem quiet_after_shutdown (config : Config) (present : Calendar.Instant) (clock interval : Nat)
    {before during later : List Event} :
    let first := System.new (.new config present clock) interval
    let began := (first.run before).step .cancelPolling
    let returned := began.run during
    first.isNumbered (before ++ .cancelPolling :: (during ++ later)) = true →
    began.starts during = false →
    (∀ task, (first.run before).poller.running = some task →
      returned.poller.phase? task = some .ended) →
    (∀ task phase, returned.poller.phase? task = some phase → phase ≠ .ended →
      task ∈ first.taken before) ∧
    (∀ task, returned.poller.phase? task = some .ended →
      ∀ part, part <+: later → (returned.run part).IsDone task) ∧
    ((∀ task ∈ first.taken before, returned.poller.phase? task = some .ended) →
      ∀ part, part <+: later → returned.starts part = false →
        (returned.run part).IsQuiet ∧
          ∀ event, part ++ [event] <+: later → ∀ task next,
            (returned.run part).Move event task next →
            (returned.run part).poller.phase? task = none) := by
  intro first began returned hnumbered hstarts hreturns
  have hrun : first.run (before ++ .cancelPolling :: during) = returned := run_append _ _ _
  have hsplit : before ++ .cancelPolling :: (during ++ later) =
      before ++ .cancelPolling :: during ++ later := by simp
  rw [hsplit, isNumbered_append, Bool.and_eq_true, hrun] at hnumbered
  obtain ⟨hearlier, hlater⟩ := hnumbered
  have hidles : returned.Idles := by
    rw [← hrun]
    exact Idles.run (fun _ _ h => by cases h) hearlier
  -- who is at work runs or was taken; nobody runs any more, and the one taken last has ended
  have hgoing : ∀ task phase, returned.poller.phase? task = some phase → phase ≠ .ended →
      task ∈ first.taken before := by
    intro task phase hphase hgoing
    have hnew : first.Minds [] := fun _ _ h => by cases h
    refine ((hnew.run before).of_cancelled hstarts hphase hgoing).resolve_left fun hown => ?_
    exact hgoing (Option.some.inj (hphase.symm.trans (hreturns task hown)))
  refine ⟨hgoing, fun task hended part hpart => ?_, fun hall part hpart hnone => ?_⟩
  · exact (hidles.run (isNumbered_of_part hlater hpart)).isDone (ended_run hended part)
  · have hquiet : returned.IsQuiet := fun task phase hphase => by
      by_cases hended : phase = .ended
      · exact hidles.isDone (hended ▸ hphase)
      · exact hidles.isDone (hall task (hgoing task phase hphase hended))
    have hstill := hquiet.run (isNumbered_of_part hlater hpart) hnone
    refine ⟨hstill, fun event hevent task next hmove => hstill.phase?_of_move ?_ hmove⟩
    have hlast := isNumbered_of_part hlater hevent
    rw [isNumbered_append, Bool.and_eq_true] at hlast
    simpa [isNumbered, moments] using hlast.2

end System

/-- Two tasks are started, one after the other. Both refresh, and a shutdown has taken the first. -/
def twoTasks : List Event := [
  .startPolling 1 0, .tick 1 0, .cancelPolling, .startPolling 2 1, .tick 2 1]

/-- Another shutdown takes the second task, and a third one finds none. When both tasks have ended
it is quiet, whatever is loaded then, and it stays so until a poller is started. -/
theorem quiet_after_shutdown_twoTasks :
    let during : List Event := [
      .cancelPolling, .fetched 1 (.ok twoFlags), .rest 1, .leave 1, .goOn 2, .rest 2, .leave 2]
    let later : List Event := [.tick 1 30000, .load 3, .fetched 3 (.ok twoFlags), .startPolling 4 9]
    let first := System.new (.new .trial ⟨0, 0⟩ 0) 30000
    let began := (first.run twoTasks).step .cancelPolling
    let returned := began.run during
    first.isNumbered (twoTasks ++ .cancelPolling :: (during ++ later)) = true ∧
      began.starts during = false ∧ (first.run twoTasks).poller.running = some 2 ∧
      first.taken twoTasks = [1] ∧
      (returned.run [.tick 1 30000, .load 3, .fetched 3 (.ok twoFlags)]).IsQuiet ∧
      (returned.run later).IsDone 2 := by
  intro during later first began returned
  have hnumbered : first.isNumbered (twoTasks ++ .cancelPolling :: (during ++ later)) = true := by
    decide
  have hstarts : began.starts during = false := by decide
  have hreturns : ∀ task, (first.run twoTasks).poller.running = some task →
      returned.poller.phase? task = some .ended := by
    intro task htask
    have hrunning : (first.run twoTasks).poller.running = some 2 := rfl
    rw [← Option.some.inj (hrunning.symm.trans htask)]
    decide
  obtain ⟨-, hdone, hquiet⟩ := System.quiet_after_shutdown .trial ⟨0, 0⟩ 0 30000 hnumbered hstarts
    hreturns
  have hall : ∀ task ∈ first.taken twoTasks, returned.poller.phase? task = some .ended := by decide
  have hpart : [.tick 1 30000, .load 3, .fetched 3 (.ok twoFlags)] <+: later :=
    ⟨[.startPolling 4 9], rfl⟩
  have hnone : returned.starts [.tick 1 30000, .load 3, .fetched 3 (.ok twoFlags)] = false := by
    decide
  have hended : returned.poller.phase? 2 = some .ended := by decide
  exact ⟨hnumbered, hstarts, rfl, rfl, (hquiet hall _ hpart hnone).1,
    hdone 2 hended later List.prefix_rfl⟩

/-- A shutdown that finds no task running returns at once, also beside a refresh that goes on and
replaces the definitions afterwards. -/
theorem shutdown_returns_beside_refresh :
    ¬∀ (config : Config) (present : Calendar.Instant) (clock interval : Nat)
      (before during : List Event),
      let first := System.new (.new config present clock) interval
      let began := (first.run before).step .cancelPolling
      let returned := began.run during
      first.isNumbered (before ++ .cancelPolling :: during) = true →
      began.starts during = false →
      (∀ task, (first.run before).poller.running = some task →
        returned.poller.phase? task = some .ended) →
      ∀ task document, returned.poller.phase? task ≠ none →
        (returned.step (.fetched task (.ok document))).service.definitions =
          returned.service.definitions := by
  intro h
  have hsame := h .trial ⟨0, 0⟩ 0 30000 [.startPolling 1 0, .tick 1 0, .cancelPolling] []
    (by decide) (by decide) (fun _ hrunning => by cases hrunning) 1 twoFlags (by decide)
  cases hsame

end FeatureFlags
