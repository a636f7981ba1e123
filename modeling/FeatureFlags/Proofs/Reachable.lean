import FeatureFlags.Proofs.Recency
import FeatureFlags.Service.System

/-!
# What becomes of a service

Whatever the jobs do, an event changes the cache, the definitions or the clock of a service in one
of a few ways. `System.step_change` lists them, and leaves aside only how loading stands. What holds
of every state that a service can come to is derived from the list.
-/

namespace FeatureFlags

/-! ### Leaving loading aside -/

namespace Service

variable {s t : Service}

/-- A service, apart from how loading stands. -/
def apartFromLoading (s : Service) : Service :=
  { s with completedLoads := 0, firstUseTried := false, loader := none, line := [] }

lemma cache_eq_of_apart (h : s.apartFromLoading = t.apartFromLoading) : s.cache = t.cache := by
  change s.apartFromLoading.cache = t.apartFromLoading.cache
  rw [h]

lemma definitions_eq_of_apart (h : s.apartFromLoading = t.apartFromLoading) :
    s.definitions = t.definitions := by
  change s.apartFromLoading.definitions = t.apartFromLoading.definitions
  rw [h]

/-- What a service is told when it is made: whether it evaluates locally, and the instant that it
looks back from. -/
def setting (s : Service) : Bool × Calendar.Instant := (s.evaluatesLocally, s.present)

lemma setting_eq_of_apart (h : s.apartFromLoading = t.apartFromLoading) :
    s.setting = t.setting := by
  change s.apartFromLoading.setting = t.apartFromLoading.setting
  rw [h]

@[simp] lemma apart_release (s : Service) : s.release.apartFromLoading = s.apartFromLoading := by
  simp only [release]
  split
  · rfl
  · rfl

@[simp] lemma apart_granted (s : Service) (seen : Nat) (purpose : Purpose) :
    (s.granted seen purpose).1.apartFromLoading = s.apartFromLoading := by
  simp only [granted]
  split
  · rfl
  · exact apart_release s

@[simp] lemma apart_load (s : Service) (job : Nat) (purpose : Purpose) :
    (s.load job purpose).1.apartFromLoading = s.apartFromLoading := by
  simp only [load]
  split
  · exact apart_granted _ _ _
  · rfl

@[simp] lemma apart_abandon (s : Service) (job : Nat) :
    (s.abandon job).apartFromLoading = s.apartFromLoading := by
  simp only [abandon]
  split
  · exact apart_release s
  · rfl

@[simp] lemma apart_fetched_ok (s : Service) (purpose : Purpose) (document : DefinitionsDocument) :
    (s.fetched purpose (.ok document)).1.apartFromLoading =
      { s with definitions := some (.ofDocument document) }.apartFromLoading := by
  simp only [fetched, apart_release]
  rfl

@[simp] lemma apart_fetched_error (s : Service) (purpose : Purpose) (e : Failure) :
    (s.fetched purpose (.error e)).1.apartFromLoading = s.apartFromLoading := by
  simp only [fetched, apart_release]

@[simp] lemma apart_ask (s : Service) (job : Nat) (q : Query) :
    (s.ask job q).1.apartFromLoading =
      { s with cache := (s.cache.lookup s.clock q.cacheKey).2 }.apartFromLoading := by
  simp only [ask]
  split
  · rfl
  · split
    · rfl
    · rw [apart_load]
      rfl

end Service

/-! ### Events -/

namespace System

/-- What an event can make of a service, apart from how loading stands. -/
inductive Change (s : System) : Event → Service → Prop where
  | loading (event : Event) : Change s event s.service
  | lookedUp (event : Event) (key : CacheKey) :
      Change s event { s.service with cache := (s.service.cache.lookup s.service.clock key).2 }
  | answered {job : Nat} {q : Query} {decided : ResolvedFlags}
      (outcome : Except Failure FlagsResponse) (hstage : s.stage? job = some (.asking q decided)) :
      Change s (.answered job outcome) (s.service.answered q decided outcome).1
  | defined {job : Nat} {purpose : Purpose} (document : DefinitionsDocument)
      (hstage : s.stage? job = some (.fetching purpose)) :
      Change s (.fetched job (.ok document))
        { s.service with definitions := some (.ofDocument document) }
  | cleared : Change s .clear s.service.clear
  | clockSet (millis : Nat) : Change s (.setClock millis) { s.service with clock := millis }

theorem step_change (s : System) (event : Event) :
    ∃ t, s.Change event t ∧ (s.step event).service.apartFromLoading = t.apartFromLoading := by
  -- most events concern jobs and tasks alone, and change no more than who loads
  cases event with
  | ask job q => exact ⟨_, .lookedUp _ q.cacheKey, Service.apart_ask _ _ _⟩
  | load job => exact ⟨_, .loading _, Service.apart_load _ _ _⟩
  | goOn job =>
    refine ⟨_, .loading _, ?_⟩
    simp only [step]
    split
    · split
      · exact Service.apart_granted _ _ _
      · rfl
    · rfl
  | fetched job outcome =>
    simp only [step]
    split
    · rename_i purpose hstage
      cases outcome with
      | ok document => exact ⟨_, .defined document hstage, Service.apart_fetched_ok _ purpose _⟩
      | error e => exact ⟨_, .loading _, Service.apart_fetched_error _ purpose e⟩
    · exact ⟨_, .loading _, rfl⟩
  | answered job outcome =>
    simp only [step]
    split
    · rename_i q decided hstage
      exact ⟨_, .answered outcome hstage, rfl⟩
    · exact ⟨_, .loading _, rfl⟩
  | collect job =>
    refine ⟨_, .loading _, ?_⟩
    simp only [step]
    split <;> rfl
  | lookUp key => exact ⟨_, .lookedUp _ key, rfl⟩
  | clear => exact ⟨_, .cleared, rfl⟩
  | setClock millis => exact ⟨_, .clockSet millis, rfl⟩
  | startPolling task now =>
    refine ⟨_, .loading _, ?_⟩
    simp only [step]
    split <;> rfl
  | tick task now =>
    refine ⟨_, .loading _, ?_⟩
    simp only [step]
    split
    · exact Service.apart_load _ _ _
    · rfl
  | rest task =>
    refine ⟨_, .loading _, ?_⟩
    simp only [step]
    split <;> rfl
  | leave task =>
    refine ⟨_, .loading _, ?_⟩
    simp only [step]
    split <;> rfl
  | cancelPolling => exact ⟨_, .loading _, rfl⟩
  | abort task =>
    refine ⟨_, .loading _, ?_⟩
    simp only [step]
    split
    · rfl
    · rfl
    · exact Service.apart_abandon _ _

/-- No event changes what a service was told. -/
lemma setting_step (s : System) (event : Event) :
    (s.step event).service.setting = s.service.setting := by
  obtain ⟨t, hchange, happart⟩ := s.step_change event
  rw [Service.setting_eq_of_apart happart]
  cases hchange with
  | loading | lookedUp | defined | cleared | clockSet => rfl
  | answered outcome _ =>
    cases outcome with
    | ok response => rfl
    | error e => rfl

lemma setting_run (s : System) (events : List Event) :
    (s.run events).service.setting = s.service.setting := by
  induction events generalizing s with
  | nil => rfl
  | cons event rest ih => exact (ih (s.step event)).trans (s.setting_step event)

/-! ### States that a service can come to -/

/-- A state that a service can come to, whatever happens in whatever order. -/
inductive Reachable : System → Prop where
  | new (config : Config) (present : Calendar.Instant) (clock : Nat) :
      Reachable (.new (.new config present clock) (config.pollSeconds * 1000))
  | step {s : System} (event : Event) : Reachable s → Reachable (s.step event)

namespace Reachable

variable {s : System}

lemma run (h : s.Reachable) (events : List Event) : (s.run events).Reachable := by
  induction events generalizing s with
  | nil => exact h
  | cons event rest ih => exact ih (h.step event)

/-- No key has two entries in the cache, and there are not too many. -/
theorem proper (h : s.Reachable) : s.service.cache.recent.Proper := by
  induction h with
  | new config present clock => exact Recent.proper_empty config.cacheSize
  | @step s event _ ih =>
    obtain ⟨t, hchange, happart⟩ := s.step_change event
    rw [Service.cache_eq_of_apart happart]
    cases hchange with
    | loading | defined | clockSet => exact ih
    | lookedUp _ key => exact (ih.keep _).use key
    | @answered _ q decided outcome _ =>
      cases outcome with
      | ok response => exact ih.insert _ _
      | error e => exact ih.insert _ _
    | cleared => exact Recent.proper_clear _

/-- Definitions were made of a document. -/
theorem definitions (h : s.Reachable) {d : Definitions} (hd : s.service.definitions = some d) :
    ∃ document, d = .ofDocument document := by
  induction h with
  | new config present clock => cases hd
  | @step s event _ ih =>
    obtain ⟨t, hchange, happart⟩ := s.step_change event
    rw [Service.definitions_eq_of_apart happart] at hd
    cases hchange with
    | loading | lookedUp | cleared | clockSet => exact ih hd
    | @answered _ q decided outcome _ =>
      cases outcome with
      | ok response => exact ih hd
      | error e => exact ih hd
    | defined document _ => exact ⟨document, (Option.some.inj hd).symm⟩

end Reachable

end System

end FeatureFlags
