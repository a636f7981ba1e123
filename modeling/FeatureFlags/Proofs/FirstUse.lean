import FeatureFlags.Proofs.Completion
import FeatureFlags.Proofs.Polling
import FeatureFlags.Proofs.SharedFetch

/-!
# Queries on first use

The first query of a service fetches the definitions and is answered by them, and so are the queries
that begin when they have come. A query that begins while they are fetched does not wait for them:
only the first query tries to load, and others turn to the endpoint at once.
-/

namespace FeatureFlags

/-! ### Queries before definitions have come -/

namespace Service

variable {s : Service} {q : Query} {job : Nat}

/-- The first query of all loads. -/
lemma ask_new (config : Config) (present : Calendar.Instant) (clock : Nat)
    (hlocal : config.evaluatesLocally = true) (job : Nat) (q : Query) :
    ((new config present clock).ask job q).2 = .fetching (.answer q) ∧
      ((new config present clock).ask job q).1.firstUseTried = true := by
  have hnothing : (Cache.empty config.cacheSize config.cacheMaxAge).lookupFlags clock q.cacheKey =
      (none, .empty config.cacheSize config.cacheMaxAge) := rfl
  simp [ask, new, hlocal, hnothing, load, granted]

/-- Once a query has tried to load, a query that is not answered from the cache is evaluated. -/
lemma ask_of_tried (htried : s.firstUseTried = true) (hcached : s.cached? q = none) :
    (s.ask job q).2 = s.proceed q := by
  rw [cached?] at hcached
  simp only [ask, hcached, htried, Bool.or_true, if_true]
  rfl

/-- A query for a flag that is decided does not need the endpoint. -/
lemma proceed_of_decided {d : Definitions} {key : String} {r : ResolvedFlag}
    (hlocal : s.evaluatesLocally = true) (hd : s.definitions = some d) (hkeyed : d.Keyed)
    (hone : q.only = some key)
    (hr : d.decided? s.present q.distinctId q.context key = some r) :
    s.proceed q = .answered ((∅ : ResolvedFlags).insert key r) := by
  rw [proceed_one hlocal hd hkeyed hone, hr]

/-- Without definitions the endpoint is asked. -/
lemma proceed_of_none (hd : s.definitions = none) : s.proceed q = .asking q ∅ := by
  cases hlocal : s.evaluatesLocally with
  | false => simp [proceed, hlocal]
  | true => simp [proceed, hlocal, evaluateLocally, hd]

end Service

/-! ### Queries alone -/

/-- Events of queries alone: no load is asked for, and no poller is started. -/
def Event.isOfQueries : Event → Bool
  | .load _ | .startPolling _ _ => false
  | .ask _ _ | .goOn _ | .fetched _ _ | .answered _ _ | .collect _ | .lookUp _ | .clear
  | .setClock _ | .tick _ _ | .rest _ | .leave _ | .cancelPolling | .abort _ => true

namespace System

variable {s : System} {event : Event} {job loader : Nat} {q : Query} {loaders : Set Nat}
  {events meanwhile : List Event} {answer : Except Failure FlagsResponse}

/-- A query has tried to load, no poller was started, and no jobs load but these. -/
structure QueriesAlone (s : System) (loaders : Set Nat) : Prop where
  tried : s.service.firstUseTried = true
  tasks : ∀ id, s.poller.phase? id = none
  loads : ∀ job, s.isLoading job = true → job ∈ loaders

/-- As long as queries are alone, no other job loads. -/
lemma QueriesAlone.step (h : s.QueriesAlone loaders) (hevent : event.isOfQueries = true) :
    (s.step event).QueriesAlone loaders where
  tried := (s.advances_step event).tried h.tried
  tasks id := by
    have hphase := h.tasks id
    generalize hnext : (s.step event).poller.phase? id = phase
    have hchange := s.step_phase id event
    rw [hnext] at hchange
    -- a task would have to be started, and queries start none
    cases hchange with
    | same => exact hphase
    | started => cases hevent
    | ticked _ hbefore | rested hbefore _ | left hbefore | aborted hbefore _ =>
      rw [hphase] at hbefore
      cases hbefore
  loads other hloading := by
    cases s.step_turn event with
    | @moved _ job next _ hmove hservice hjobs =>
      rcases stage?_of_moved hjobs other with ⟨rfl, hmoved⟩ | ⟨-, hsame⟩
      · rw [isLoading_of_stage hmoved] at hloading
        cases hmove with
        | ask job q =>
          -- a query loads only if none has tried before
          rcases s.service.progress_ask other q with ⟨-, hended⟩ | ⟨hnot, -⟩
          · rw [hended] at hloading
            cases hloading
          · rw [h.tried] at hnot
            cases hnot
        | load => cases hevent
        | tick _ hphase =>
          rw [h.tasks] at hphase
          cases hphase
        | goOn hstage _ | fetched _ hstage => exact h.loads other (isLoading_of_stage hstage)
        | answered outcome hstage =>
          cases outcome with
          | ok response => cases hloading
          | error e => cases hloading
      · rw [isLoading, hsame] at hloading
        exact h.loads other hloading
    | aborted _ hjobs =>
      obtain ⟨stage, hstage, hstill⟩ := (Option.any_eq_true _ _).1 hloading
      have hbefore := (stage?_of_dropped hjobs hstage).2
      exact h.loads other ((isLoading_of_stage hbefore).trans hstill)
    | aside _ _ hjobs =>
      obtain ⟨stage, hstage, hstill⟩ := (Option.any_eq_true _ _).1 hloading
      have hbefore := stage?_of_aside hjobs hstage
      exact h.loads other ((isLoading_of_stage hbefore).trans hstill)

lemma QueriesAlone.run (h : s.QueriesAlone loaders)
    (hevents : ∀ event ∈ events, event.isOfQueries = true) :
    (s.run events).QueriesAlone loaders := by
  induction events generalizing s with
  | nil => exact h
  | cons event rest ih =>
    obtain ⟨hevent, hrest⟩ := List.forall_mem_cons.1 hevents
    exact ih (h.step hevent) hrest

/-- When no job loads any more, queries bring no other definitions. -/
lemma QueriesAlone.documents_eq_nil (h : s.QueriesAlone ∅)
    (hevents : ∀ event ∈ events, event.isOfQueries = true) : s.documents events = [] := by
  induction events generalizing s with
  | nil => rfl
  | cons event rest ih =>
    obtain ⟨hevent, hrest⟩ := List.forall_mem_cons.1 hevents
    have hnone : s.document? event = none := by
      refine document?_eq_none ?_
      rintro fetcher document purpose rfl hstage
      exact h.loads fetcher (isLoading_of_stage hstage)
    rw [← List.singleton_append, documents_append, documents_singleton, hnone]
    exact ih (h.step hevent) hrest

/-! ### The first query, and those after it -/

lemma queriesAlone_ask (config : Config) (present : Calendar.Instant) (clock interval : Nat)
    (hlocal : config.evaluatesLocally = true) (loader : Nat) (q : Query) :
    let began := (new (.new config present clock) interval).step (.ask loader q)
    began.stage? loader = some (.fetching (.answer q)) ∧ began.service.definitions = none ∧
      began.QueriesAlone {loader} := by
  intro began
  obtain ⟨hstage, htried⟩ := Service.ask_new config present clock hlocal loader q
  refine ⟨(stage?_update _ _ _).trans (congrArg some hstage), definitions_step _ (.ask loader q),
    htried, fun _ => rfl, fun other hloading => ?_⟩
  by_contra hne
  have hnothing : began.stage? other = none := stage?_update_of_ne hne _
  rw [isLoading, hnothing] at hloading
  cases hloading

/-- What is fetched for a query has come: nobody loads any more. -/
lemma QueriesAlone.step_fetched (h : s.QueriesAlone {loader})
    (hfetching : s.stage? loader = some (.fetching (.answer q))) (document : DefinitionsDocument) :
    let loaded := s.step (.fetched loader (.ok document))
    loaded.stage? loader = some (loaded.service.proceed q) ∧
      loaded.service.definitions = some (.ofDocument document) ∧ loaded.QueriesAlone ∅ := by
  intro loaded
  have hstage : loaded.stage? loader = some (loaded.service.proceed q) :=
    (stage?_step_fetched hfetching (.ok document)).2.1 q rfl
  have hdefinitions := s.definitions_step (.fetched loader (.ok document))
  rw [document?_eq_some_iff.2 ⟨_, _, rfl, hfetching⟩] at hdefinitions
  have hnext : loaded.QueriesAlone {loader} := h.step rfl
  refine ⟨hstage, hdefinitions, hnext.tried, hnext.tasks, fun other hloading => ?_⟩
  rw [hnext.loads other hloading, isLoading_of_stage hstage, Service.isLoading_proceed] at hloading
  cases hloading

/-- While a job fetches, what others do leaves the definitions as they are. -/
lemma InTurn.definitions_run_eq (hs : s.InTurn) {purpose : Purpose}
    (hfetching : s.stage? loader = some (.fetching purpose))
    (hevents : ∀ event ∈ events, event.job? ≠ some loader) :
    (s.run events).service.definitions = s.service.definitions := by
  rw [definitions_run, hs.documents_eq_nil hfetching hevents]
  rfl

/-! ### Courses of queries -/

/-- A query that fetches definitions and is answered when they have come calls nobody. -/
lemma callCount_of_fetching {purpose : Purpose} {flags : ResolvedFlags} {come : Event}
    (hfetching : (s.step (.ask loader q)).stage? loader = some (.fetching purpose))
    (hmeanwhile : ∀ event ∈ meanwhile, event.job? ≠ some loader)
    (hanswered : (((s.step (.ask loader q)).run meanwhile).step come).stage? loader =
      some (.answered flags)) :
    s.callCount loader (.ask loader q :: (meanwhile ++ [come])) = 0 := by
  rw [callCount_cons, callCount_append, callCount_singleton, calls_of_stage hfetching rfl,
    callCount_of_ne hmeanwhile, calls_of_stage hanswered rfl]
  rfl

/-- With definitions at hand, a query for a flag that they decide calls nobody. It is answered from
the cache, or as they decide it. -/
lemma course_of_decided {d : Definitions} {key : String} {r : ResolvedFlag}
    (hlocal : s.service.evaluatesLocally = true) (hd : s.service.definitions = some d)
    (hkeyed : d.Keyed) (hone : q.only = some key)
    (hr : d.decided? s.service.present q.distinctId q.context key = some r)
    (hnew : s.stage? job = none) (hmeanwhile : ∀ event ∈ meanwhile, event.job? ≠ some job) :
    ∃ flags, (s.run (q.course job meanwhile answer)).stage? job = some (.answered flags) ∧
      s.callCount job (q.course job meanwhile answer) = 0 ∧
      (s.service.cached? q = some flags ∨
        s.service.cached? q = none ∧ flags.get? key = some r) := by
  cases hcached : s.service.cached? q with
  | some flags =>
    obtain ⟨hended, hcount⟩ := course_of_answered (Service.ask_of_cached hcached) hnew hmeanwhile
    exact ⟨flags, hended, hcount, .inl rfl⟩
  | none =>
    have hstage : (s.service.ask job q).2 = .answered ((∅ : ResolvedFlags).insert key r) :=
      (Service.ask_of_not_covered (hd ▸ rfl) hcached).trans
        (Service.proceed_of_decided hlocal hd hkeyed hone hr)
    obtain ⟨hended, hcount⟩ := course_of_answered hstage hnew hmeanwhile
    exact ⟨_, hended, hcount, .inr ⟨rfl, Dict.get?_insert_self _ _ _⟩⟩

/-- Where a query has tried to load and no definitions have come, another query calls the endpoint
once, if the cache does not answer it. -/
lemma course_of_none (htried : s.service.firstUseTried = true)
    (hd : s.service.definitions = none) (hnew : s.stage? job = none)
    (hmeanwhile : ∀ event ∈ meanwhile, event.job? ≠ some job) :
    ∃ flags, (s.run (q.course job meanwhile answer)).stage? job = some (.answered flags) ∧
      (s.service.cached? q = some flags ∧ s.callCount job (q.course job meanwhile answer) = 0 ∨
        s.service.cached? q = none ∧ s.callCount job (q.course job meanwhile answer) = 1 ∧
          ∀ key, flags.get? key = (givenBy answer).get? key) := by
  cases hcached : s.service.cached? q with
  | some flags =>
    obtain ⟨hended, hcount⟩ := course_of_answered (Service.ask_of_cached hcached) hnew hmeanwhile
    exact ⟨flags, hended, .inl ⟨rfl, hcount⟩⟩
  | none =>
    have hstage : (s.service.ask job q).2 = .asking q ∅ :=
      (Service.ask_of_tried htried hcached).trans (Service.proceed_of_none hd)
    have hflags : (s.service.ask job q).2.flags? answer =
        some ((∅ : ResolvedFlags).completedBy answer) := by
      rw [hstage]
      rfl
    obtain ⟨hended, hcount⟩ := course_of_flags? hflags hmeanwhile
    refine ⟨_, hended, .inr ⟨rfl, (hcount hnew).trans (by rw [hstage]; rfl), fun key => ?_⟩⟩
    rw [ResolvedFlags.get?_completedBy]
    rfl

/-- The first query fetches the definitions, and is answered by them without a call of the
endpoint. So is every query that begins when they have come, unless flags in the cache answer it. A
query that begins before does not wait for them: it calls the endpoint once and is answered with
what comes back, unless flags in the cache answer it. -/
theorem queries_on_first_use (config : Config) (present : Calendar.Instant) (clock interval : Nat)
    (hlocal : config.evaluatesLocally = true) (loader : Nat) (q₀ : Query)
    (document : DefinitionsDocument) {during later : List Event}
    (hduring : ∀ event ∈ during, event.isOfQueries = true ∧ event.job? ≠ some loader)
    (hlater : ∀ event ∈ later, event.isOfQueries = true) :
    let first := System.new (.new config present clock) interval
    let began := first.step (.ask loader q₀)
    let come : Event := .fetched loader (.ok document)
    let loaded := (began.run during).step come
    let decided? := fun q : Query =>
      (Definitions.ofDocument document).decided? present q.distinctId q.context
    (∀ key r, q₀.only = some key → decided? q₀ key = some r →
      ∃ flags, loaded.stage? loader = some (.answered flags) ∧ flags.get? key = some r ∧
        first.callCount loader (.ask loader q₀ :: (during ++ [come])) = 0) ∧
    ∀ (job : Nat) (q : Query) (meanwhile : List Event) (answer : Except Failure FlagsResponse),
      (∀ event ∈ meanwhile, event.job? ≠ some job) →
      let course := q.course job meanwhile answer
      (∀ key r, q.only = some key → decided? q key = some r →
        let s := loaded.run later
        s.stage? job = none →
        ∃ flags, (s.run course).stage? job = some (.answered flags) ∧ s.callCount job course = 0 ∧
          (s.service.cached? q = some flags ∨
            s.service.cached? q = none ∧ flags.get? key = some r)) ∧
      ∀ part, part <+: during →
        let s := began.run part
        s.stage? job = none →
        ∃ flags, (s.run course).stage? job = some (.answered flags) ∧
          (s.service.cached? q = some flags ∧ s.callCount job course = 0 ∨
            s.service.cached? q = none ∧ s.callCount job course = 1 ∧
              ∀ key, flags.get? key = (givenBy answer).get? key) := by
  intro first began come loaded decided?
  obtain ⟨hfetching, hnone, halone⟩ :=
    queriesAlone_ask config present clock interval hlocal loader q₀
  have hinTurn : began.InTurn := (inTurn_new _ interval).step _
  have hsetting (events : List Event) : (began.run events).service.setting = (true, present) := by
    rw [setting_run, setting_step]
    exact congrArg (·, present) hlocal
  have hbefore : ∀ event ∈ during, event.job? ≠ some loader := fun event h => (hduring event h).2
  have hstill : (began.run during).stage? loader = some (.fetching (.answer q₀)) :=
    (stage?_run_of_ne hbefore).trans hfetching
  obtain ⟨hproceeds, hdefinitions, hnobody⟩ :=
    (halone.run fun event h => (hduring event h).1).step_fetched hstill document
  have hloaded (events : List Event) : (loaded.run events).service.setting = (true, present) := by
    rw [setting_run, setting_step]
    exact hsetting during
  have hkeyed := Definitions.keyed_ofDocument document
  -- nobody else loads: there are no definitions before the document comes, and no others after it
  refine ⟨fun key r hone hr => ?_, fun job q meanwhile answer hmeanwhile => ⟨?_, ?_⟩⟩
  · obtain ⟨hevaluates, hpresent⟩ :
        loaded.service.evaluatesLocally = true ∧ loaded.service.present = present :=
      Prod.mk.inj (hloaded [])
    have hdecided : loaded.service.proceed q₀ = .answered ((∅ : ResolvedFlags).insert key r) :=
      Service.proceed_of_decided hevaluates hdefinitions hkeyed hone (hpresent ▸ hr)
    have hanswered := hproceeds.trans (congrArg some hdecided)
    exact ⟨_, hanswered, Dict.get?_insert_self _ _ _,
      callCount_of_fetching hfetching hbefore hanswered⟩
  · intro key r hone hr s hnew
    have hd : s.service.definitions = some (.ofDocument document) := by
      rw [definitions_run, hnobody.documents_eq_nil hlater]
      exact hdefinitions
    obtain ⟨hevaluates, hpresent⟩ := Prod.mk.inj (hloaded later)
    exact course_of_decided hevaluates hd hkeyed hone (hpresent ▸ hr) hnew hmeanwhile
  · intro part hpart s hnew
    have hpart : ∀ event ∈ part, event.isOfQueries = true ∧ event.job? ≠ some loader :=
      fun event h => hduring event (hpart.subset h)
    have hd : s.service.definitions = none :=
      (hinTurn.definitions_run_eq hfetching fun event h => (hpart event h).2).trans hnone
    have htried := (halone.run fun event h => (hpart event h).1).tried
    exact course_of_none htried hd hnew hmeanwhile

end System

/-- A flag for everyone is asked for on first use. The query that loads has it on, and so has one
that begins afterwards. One that begins meanwhile calls the endpoint, which does not know it. -/
theorem queries_on_first_use_beta :
    let q : String → Query := fun id => ⟨id, .nothing, some "beta"⟩
    let during : List Event := [.ask 2 (q "other")]
    let later : List Event := [.answered 2 (.ok proIsOff)]
    let come : Event := .fetched 1 (.ok twoFlags)
    let first := System.new (.new .trial ⟨0, 0⟩ 0) 30000
    let began := first.step (.ask 1 (q "someone"))
    let loaded := (began.run during).step come
    Config.trial.evaluatesLocally = true ∧
      (∀ event ∈ during, event.isOfQueries = true ∧ event.job? ≠ some 1) ∧
      (∀ event ∈ later, event.isOfQueries = true) ∧
      (∃ flags : ResolvedFlags, loaded.stage? 1 = some (.answered flags) ∧
        (flags.get? "beta").map ResolvedFlag.enabled = some true ∧
        first.callCount 1 (.ask 1 (q "someone") :: (during ++ [come])) = 0) ∧
      (∃ flags : ResolvedFlags,
        (began.run ((q "other").course 2 [come] (.ok proIsOff))).stage? 2 =
          some (.answered flags) ∧
        flags.get? "beta" = none ∧
        began.callCount 2 ((q "other").course 2 [come] (.ok proIsOff)) = 1) ∧
      ∃ flags : ResolvedFlags,
        ((loaded.run later).run ((q "other").course 3 [.clear] (.ok proIsOff))).stage? 3 =
          some (.answered flags) ∧
        (flags.get? "beta").map ResolvedFlag.enabled = some true ∧
        (loaded.run later).callCount 3 ((q "other").course 3 [.clear] (.ok proIsOff)) = 0 := by
  intro q during later come first began loaded
  have hduring : ∀ event ∈ during, event.isOfQueries = true ∧ event.job? ≠ some 1 := by decide
  have hlater : ∀ event ∈ later, event.isOfQueries = true := by decide
  obtain ⟨hfirst, hothers⟩ := System.queries_on_first_use .trial ⟨0, 0⟩ 0 30000 rfl 1 (q "someone")
    twoFlags hduring hlater
  have hbeta (id : String)
      (h : ((Definitions.ofDocument twoFlags).decided? ⟨0, 0⟩ id .nothing "beta").map
        ResolvedFlag.enabled = some true) := Option.map_eq_some_iff.1 h
  refine ⟨rfl, hduring, hlater, ?_, ?_, ?_⟩
  · obtain ⟨r, hr, hon⟩ := hbeta "someone" (by decide)
    obtain ⟨flags, hstage, hget, hcount⟩ := hfirst "beta" r rfl hr
    exact ⟨flags, hstage, by rw [hget, Option.map_some, hon], hcount⟩
  · obtain ⟨-, hbeside⟩ := hothers 2 (q "other") [come] (.ok proIsOff) (by decide)
    obtain ⟨flags, hstage, ⟨hcached, -⟩ | ⟨-, hcount, hget⟩⟩ := hbeside [] List.nil_prefix rfl
    · have hnone : began.service.cached? (q "other") = none := by decide
      cases hnone.symm.trans hcached
    · exact ⟨flags, hstage, (hget "beta").trans (by decide), hcount⟩
  · obtain ⟨hafter, -⟩ := hothers 3 (q "other") [.clear] (.ok proIsOff) (by decide)
    obtain ⟨r, hr, hon⟩ := hbeta "other" (by decide)
    obtain ⟨flags, hstage, hcount, hcached | ⟨-, hget⟩⟩ := hafter "beta" r rfl hr rfl
    · have hnone : (loaded.run later).service.cached? (q "other") = none := by decide
      cases hnone.symm.trans hcached
    · exact ⟨flags, hstage, by rw [hget, Option.map_some, hon], hcount⟩

/-- A query that begins while the first one fetches definitions calls the endpoint, also for a flag
that they decide. -/
theorem query_beside_first_use_calls :
    ¬∀ (config : Config) (present : Calendar.Instant) (clock interval : Nat) (loader job : Nat)
      (q₀ q : Query) (document : DefinitionsDocument) (key : String) (r : ResolvedFlag)
      (answer : Except Failure FlagsResponse),
      config.evaluatesLocally = true → job ≠ loader → q.only = some key →
      (Definitions.ofDocument document).decided? present q.distinctId q.context key = some r →
      let first := System.new (.new config present clock) interval
      let events : List Event :=
        [.ask loader q₀, .ask job q, .fetched loader (.ok document), .answered job answer]
      (∃ flags, (first.run events).stage? job = some (.answered flags) ∧
        flags.get? key = some r) ∧ first.callCount job events = 0 := by
  intro h
  let q : String → Query := fun id => ⟨id, .nothing, some "beta"⟩
  have hbeta : ((Definitions.ofDocument twoFlags).decided? ⟨0, 0⟩ "other" .nothing "beta").isSome =
      true := by decide
  obtain ⟨r, hr⟩ := Option.isSome_iff_exists.1 hbeta
  obtain ⟨-, hcount⟩ := h .trial ⟨0, 0⟩ 0 30000 1 2 (q "someone") (q "other") twoFlags "beta" r
    (.ok proIsOff) rfl (by decide) rfl hr
  revert hcount
  decide

end FeatureFlags
