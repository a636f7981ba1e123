import FeatureFlags.Proofs.Answers

/-!
# What an event does to the jobs

An event brings a job on, or aborts one, or leaves all loads as they are. `System.step_turn` lists
what can happen, and the lemmas about each way of bringing a job on say how loading stands then.
-/

namespace FeatureFlags

/-! ### Stages of loads -/

namespace Stage

/-- A load is not over. -/
def isLoading : Stage → Bool
  | .inLine _ _ | .fetching _ => true
  | .asking _ _ | .loaded _ | .answered _ => false

/-- Definitions are being fetched. -/
def isFetching : Stage → Bool
  | .fetching _ => true
  | .inLine _ _ | .asking _ _ | .loaded _ | .answered _ => false

end Stage

namespace System

variable {s t : System} {job other : Nat}

/-- A load of a job is not over. -/
def isLoading (s : System) (job : Nat) : Bool := (s.stage? job).any Stage.isLoading

/-- A job waits for definitions that it fetches. -/
def isFetching (s : System) (job : Nat) : Bool := (s.stage? job).any Stage.isFetching

lemma stage?_eq_of_jobs (h : t.jobs = s.jobs) (job : Nat) : t.stage? job = s.stage? job := by
  rw [stage?, stage?, h]

lemma stage?_drop_of_ne (h : other ≠ job) : (s.drop job).stage? other = s.stage? other := by
  have hfind : (s.jobsWithout job).find? (fun j => j.1 = other) =
      s.jobs.find? fun j => j.1 = other := by
    rw [jobsWithout, List.find?_filter]
    congr 1
    funext j
    by_cases hj : j.1 = other <;> simp [hj, h]
  exact congrArg _ hfind

@[simp] lemma stage?_drop (s : System) (job : Nat) : (s.drop job).stage? job = none := by
  simp [drop, stage?, jobsWithout]

lemma stage?_eq_of_dropped (hjobs : t.jobs = s.jobsWithout job) (hne : other ≠ job) :
    t.stage? other = s.stage? other :=
  (stage?_eq_of_jobs (s := s.drop job) hjobs other).trans (stage?_drop_of_ne hne)

lemma stage?_update_of_ne (h : other ≠ job) (next : Service × Stage) :
    (s.update job next).stage? other = s.stage? other := by
  rw [← stage?_drop_of_ne (s := s) h, stage?, stage?, update, drop, List.find?_append]
  simp [h.symm]

end System

/-! ### How loading stands -/

/-- How loading stands in a service. -/
structure Loading where
  completed : Nat
  firstUseTried : Bool
  loader : Option Nat
  line : List Nat

namespace Service

variable {s : Service} {job seen : Nat} {purpose : Purpose}

/-- How loading stands, apart from everything else. -/
def loading (s : Service) : Loading := ⟨s.completedLoads, s.firstUseTried, s.loader, s.line⟩

/-- The next in line may load. -/
lemma loading_release (s : Service) :
    s.release.loading = { s.loading with loader := s.line.head?, line := s.line.tail } := by
  simp only [release]
  split <;> rename_i h <;> simp [loading, h]

/-- Nobody loads: the job fetches. -/
lemma load_of_free (h : s.loader = none) :
    s.load job purpose = ({ s with loader := some job }, .fetching purpose) := by
  simp [load, h, granted]

/-- Somebody loads: the job waits in line. -/
lemma load_of_taken (h : s.loader.isSome = true) :
    s.load job purpose =
      ({ s with line := s.line ++ [job] }, .inLine s.completedLoads purpose) := by
  obtain ⟨other, hother⟩ := Option.isSome_iff_exists.1 h
  simp [load, hother]

lemma granted_of_eq (h : s.completedLoads = seen) :
    s.granted seen purpose = (s, .fetching purpose) := if_pos h

lemma granted_of_ne (h : s.completedLoads ≠ seen) :
    s.granted seen purpose = (s.release, s.release.afterLoad (.ok ()) purpose) := if_neg h

@[simp] lemma isLoading_proceed (s : Service) (q : Query) : (s.proceed q).isLoading = false := by
  rw [proceed]
  rcases (if s.evaluatesLocally then s.evaluateLocally q else (∅, true)) with ⟨decided, isOpen⟩
  cases isOpen with
  | false => rfl
  | true => rfl

@[simp] lemma isLoading_afterLoad (s : Service) (outcome : Except Failure Unit)
    (purpose : Purpose) : (s.afterLoad outcome purpose).isLoading = false := by
  cases purpose with
  | report => rfl
  | answer q => exact isLoading_proceed s q

lemma isLoading_load (s : Service) (job : Nat) (purpose : Purpose) :
    (s.load job purpose).2.isLoading = true := by
  cases h : s.loader with
  | none => rw [load_of_free h]; rfl
  | some other => rw [load_of_taken (h ▸ rfl)]; rfl

/-- A query leaves loading as it is, or it is the first to find no definitions, and loads. -/
lemma ask_cases (s : Service) (job : Nat) (q : Query) :
    (s.ask job q).1.loading = s.loading ∧ (s.ask job q).2.isLoading = false ∨
      ∃ t : Service, s.firstUseTried = false ∧
        t.loading = { s.loading with firstUseTried := true } ∧
        s.ask job q = t.load job (.answer q) := by
  simp only [ask]
  split
  · exact .inl ⟨rfl, rfl⟩
  · split
    · exact .inl ⟨rfl, isLoading_proceed _ _⟩
    · rename_i h
      have htried : s.firstUseTried = false := by simp_all
      exact .inr ⟨_, htried, rfl, rfl⟩

end Service

/-! ### Events -/

/-- The job that an event is about. -/
def Event.job? : Event → Option Nat
  | .ask job _ | .load job | .goOn job | .fetched job _ | .answered job _ | .collect job => some job
  | .startPolling task _ | .tick task _ | .rest task | .leave task | .abort task => some task
  | .lookUp _ | .clear | .setClock _ | .cancelPolling => none

namespace System

variable {s t : System} {event : Event} {job other : Nat} {next : Service × Stage}

/-- An event brings a job on: the service changes, and the job comes to a stage. -/
inductive Move (s : System) : Event → Nat → Service × Stage → Prop where
  | ask (job : Nat) (q : Query) : Move s (.ask job q) job (s.service.ask job q)
  | load (job : Nat) : Move s (.load job) job (s.service.load job .report)
  | tick {task due : Nat} (now : Nat) (hphase : s.poller.phase? task = some (.resting due)) :
      Move s (.tick task now) task (s.service.load task .report)
  | goOn {job seen : Nat} {purpose : Purpose}
      (hstage : s.stage? job = some (.inLine seen purpose)) (hturn : s.service.loader = some job) :
      Move s (.goOn job) job (s.service.granted seen purpose)
  | fetched {job : Nat} {purpose : Purpose} (outcome : Except Failure DefinitionsDocument)
      (hstage : s.stage? job = some (.fetching purpose)) :
      Move s (.fetched job outcome) job (s.service.fetched purpose outcome)
  | answered {job : Nat} {q : Query} {decided : ResolvedFlags}
      (outcome : Except Failure FlagsResponse) (hstage : s.stage? job = some (.asking q decided)) :
      Move s (.answered job outcome) job (s.service.answered q decided outcome)

/-- What an event can do to jobs and to loading: bring a job on, abort one, or leave all loads as
they are, in which case a job that has ended may be taken away. -/
inductive Turn (s : System) : Event → System → Prop where
  | moved {event : Event} {job : Nat} {next : Service × Stage} {t : System}
      (hmove : s.Move event job next) (hservice : t.service = next.1)
      (hjobs : t.jobs = (s.update job next).jobs) : Turn s event t
  | aborted {task : Nat} {t : System} (hservice : t.service = s.service.abandon task)
      (hjobs : t.jobs = s.jobsWithout task) : Turn s (.abort task) t
  | aside {event : Event} {t : System} (hidle : ∀ job next, ¬s.Move event job next)
      (hloading : t.service.loading = s.service.loading)
      (hjobs : t.jobs = s.jobs ∨ ∃ job, s.isLoading job = false ∧ t.jobs = s.jobsWithout job) :
      Turn s event t

lemma isLoading_of_stage {stage : Stage} (h : s.stage? job = some stage) :
    s.isLoading job = stage.isLoading := by
  rw [isLoading, h, Option.any_some]

theorem step_turn (s : System) (event : Event) : s.Turn event (s.step event) := by
  -- an event moves the job that it names, or the job is not at the stage that the event asks for
  cases event with
  | ask job q => exact .moved (.ask job q) rfl rfl
  | load job => exact .moved (.load job) rfl rfl
  | goOn job =>
    simp only [step]
    split
    · rename_i hstage
      split
      · rename_i hturn
        exact .moved (.goOn hstage hturn) rfl rfl
      · rename_i hturn
        exact .aside (fun _ _ h => by cases h; contradiction) rfl (.inl rfl)
    · rename_i hstage
      exact .aside (fun _ _ h => by cases h with | goOn h => exact hstage _ _ h) rfl (.inl rfl)
  | fetched job outcome =>
    simp only [step]
    split
    · rename_i hstage
      exact .moved (.fetched outcome hstage) rfl rfl
    · rename_i hstage
      exact .aside (fun _ _ h => by cases h with | fetched _ h => exact hstage _ h) rfl (.inl rfl)
  | answered job outcome =>
    simp only [step]
    split
    · rename_i hstage
      exact .moved (.answered outcome hstage) rfl rfl
    · rename_i hstage
      exact .aside (fun _ _ h => by cases h with | answered _ h => exact hstage _ _ h) rfl
        (.inl rfl)
  | collect job =>
    simp only [step]
    split
    · rename_i hstage
      -- only a job that has come to its end is dropped
      exact .aside (fun _ _ h => by cases h) rfl (.inr ⟨job, isLoading_of_stage hstage, rfl⟩)
    · rename_i hstage
      exact .aside (fun _ _ h => by cases h) rfl (.inr ⟨job, isLoading_of_stage hstage, rfl⟩)
    · exact .aside (fun _ _ h => by cases h) rfl (.inl rfl)
  | lookUp | clear | setClock | cancelPolling =>
    exact .aside (fun _ _ h => by cases h) rfl (.inl rfl)
  | startPolling task now =>
    simp only [step]
    split
    · exact .aside (fun _ _ h => by cases h) rfl (.inl rfl)
    · exact .aside (fun _ _ h => by cases h) rfl (.inl rfl)
  | tick task now =>
    simp only [step]
    split
    · rename_i hphase
      exact .moved (.tick now hphase) rfl rfl
    · rename_i hphase
      exact .aside (fun _ _ h => by cases h with | tick _ h => exact hphase _ h) rfl (.inl rfl)
  | rest task =>
    simp only [step]
    split
    · rename_i hstage
      exact .aside (fun _ _ h => by cases h) rfl (.inr ⟨task, isLoading_of_stage hstage, rfl⟩)
    · exact .aside (fun _ _ h => by cases h) rfl (.inl rfl)
  | leave task =>
    simp only [step]
    split
    · exact .aside (fun _ _ h => by cases h) rfl (.inl rfl)
    · exact .aside (fun _ _ h => by cases h) rfl (.inl rfl)
  | abort task =>
    simp only [step]
    split
    · exact .aside (fun _ _ h => by cases h) rfl (.inl rfl)
    · exact .aside (fun _ _ h => by cases h) rfl (.inl rfl)
    · -- a task at work is torn from its fetch or its place in line
      exact .aborted rfl rfl

/-! ### Stages after an event -/

/-- A stage is that which a job has come to, or the job has been at it before. -/
lemma stage?_of_moved (hjobs : t.jobs = (s.update job next).jobs) (other : Nat) :
    other = job ∧ t.stage? other = some next.2 ∨ other ≠ job ∧ t.stage? other = s.stage? other := by
  rw [stage?_eq_of_jobs hjobs]
  by_cases h : other = job
  · subst h
    exact .inl ⟨rfl, stage?_update _ _ _⟩
  · exact .inr ⟨h, stage?_update_of_ne h _⟩

/-- A job that is not taken away was at its stage before. -/
lemma stage?_of_dropped {stage : Stage} (hjobs : t.jobs = s.jobsWithout job)
    (h : t.stage? other = some stage) : other ≠ job ∧ s.stage? other = some stage := by
  have hne : other ≠ job := by
    rintro rfl
    rw [stage?_eq_of_jobs (s := s.drop other) hjobs, stage?_drop] at h
    cases h
  exact ⟨hne, (stage?_eq_of_dropped hjobs hne).symm.trans h⟩

lemma stage?_of_aside {stage : Stage}
    (hjobs : t.jobs = s.jobs ∨ ∃ job, s.isLoading job = false ∧ t.jobs = s.jobsWithout job)
    (h : t.stage? other = some stage) : s.stage? other = some stage := by
  rcases hjobs with hsame | ⟨job, -, hwithout⟩
  · rw [← h, stage?_eq_of_jobs hsame]
  · exact (stage?_of_dropped hwithout h).2

/-- An event about another job leaves a job at its stage. -/
lemma stage?_step_of_ne (hevent : event.job? ≠ some job) :
    (s.step event).stage? job = s.stage? job := by
  have hne {other : Nat} (hother : event.job? = some other) : job ≠ other := by
    rintro rfl
    exact hevent hother
  -- whatever touches the table of jobs does so under the number that the event names
  cases event with
  | ask | load => exact stage?_update_of_ne (hne rfl) _
  | goOn other =>
    simp only [step]
    split
    · split
      · exact stage?_update_of_ne (hne rfl) _
      · rfl
    · rfl
  | fetched other outcome =>
    simp only [step]
    split
    · exact stage?_update_of_ne (hne rfl) _
    · rfl
  | answered other outcome =>
    simp only [step]
    split
    · exact stage?_update_of_ne (hne rfl) _
    · rfl
  | collect other =>
    simp only [step]
    split
    · exact stage?_drop_of_ne (hne rfl)
    · exact stage?_drop_of_ne (hne rfl)
    · rfl
  | lookUp | clear | setClock | cancelPolling => rfl
  | startPolling task now =>
    simp only [step]
    split <;> rfl
  | tick task now =>
    simp only [step]
    split
    · exact stage?_update_of_ne (s := { s with poller := _ }) (hne rfl) _
    · rfl
  | rest task =>
    simp only [step]
    split
    · exact stage?_drop_of_ne (hne rfl)
    · rfl
  | leave task =>
    simp only [step]
    split <;> rfl
  | abort task =>
    simp only [step]
    split
    · rfl
    · rfl
    · exact stage?_drop_of_ne (hne rfl)

lemma stage?_run_of_ne {events : List Event} (hevents : ∀ event ∈ events, event.job? ≠ some job) :
    (s.run events).stage? job = s.stage? job := by
  induction events generalizing s with
  | nil => rfl
  | cons event rest ih =>
    obtain ⟨hevent, hrest⟩ := List.forall_mem_cons.1 hevents
    exact (ih hrest).trans (stage?_step_of_ne hevent)

/-! ### What happens, one event after the other -/

/-- An event, and the state that it meets. -/
structure Moment where
  state : System
  event : Event

/-- What happens when there are these events, one after the other. -/
def moments (s : System) : List Event → List Moment
  | [] => []
  | event :: rest => ⟨s, event⟩ :: (s.step event).moments rest

lemma run_append (s : System) (events rest : List Event) :
    s.run (events ++ rest) = (s.run events).run rest := List.foldl_append

lemma moments_append (s : System) (events rest : List Event) :
    s.moments (events ++ rest) = s.moments events ++ (s.run events).moments rest := by
  induction events generalizing s with
  | nil => rfl
  | cons event events ih => rw [List.cons_append, moments, moments, ih]; rfl

end System

end FeatureFlags
