import FeatureFlags.Proofs.QueryCalls

/-!
# One load at a time

Definitions are fetched by one job at a time, and those that are there came with the latest fetch
that was completed. A load that ends well without a fetch of its own was in line when a fetch was
completed. At most one query ever loads.
-/

namespace FeatureFlags

namespace Service

/-! ### What only grows -/

/-- How many loads are complete, and whether a query has tried to load. -/
def progress (s : Service) : Nat × Bool := (s.completedLoads, s.firstUseTried)

lemma progress_of_loading {s t : Service} (h : t.loading = s.loading) : t.progress = s.progress :=
  congrArg (fun l => (l.completed, l.firstUseTried)) h

@[simp] lemma progress_release (s : Service) : s.release.progress = s.progress :=
  congrArg (fun l => (l.completed, l.firstUseTried)) (loading_release s)

@[simp] lemma progress_granted (s : Service) (seen : Nat) (purpose : Purpose) :
    (s.granted seen purpose).1.progress = s.progress := by
  by_cases h : s.completedLoads = seen
  · rw [granted_of_eq h]
  · rw [granted_of_ne h, progress_release]

@[simp] lemma progress_load (s : Service) (job : Nat) (purpose : Purpose) :
    (s.load job purpose).1.progress = s.progress := by
  cases h : s.loader with
  | none => rw [load_of_free h]; rfl
  | some other => rw [load_of_taken (h ▸ rfl)]; rfl

@[simp] lemma progress_abandon (s : Service) (job : Nat) :
    (s.abandon job).progress = s.progress := by
  rw [abandon]
  split
  · exact progress_release s
  · rfl

/-- A query that loads is the first to try, and has tried then. -/
lemma progress_ask (s : Service) (job : Nat) (q : Query) :
    (s.ask job q).1.progress = s.progress ∧ (s.ask job q).2.isLoading = false ∨
      s.firstUseTried = false ∧ (s.ask job q).1.progress = (s.completedLoads, true) := by
  rcases s.ask_cases job q with ⟨h, hstage⟩ | ⟨t, htried, h, heq⟩
  · exact .inl ⟨progress_of_loading h, hstage⟩
  · rw [heq, progress_load]
    exact .inr ⟨htried, congrArg (fun l => (l.completed, l.firstUseTried)) h⟩

lemma proceed_ne_loaded (s : Service) (q : Query) (outcome : Except Failure Unit) :
    s.proceed q ≠ .loaded outcome := by
  rw [proceed]
  rcases (if s.evaluatesLocally then s.evaluateLocally q else (∅, true)) with ⟨decided, isOpen⟩
  intro h
  cases isOpen with
  | false => cases h
  | true => cases h

lemma ask_ne_loaded (s : Service) (job : Nat) (q : Query) (outcome : Except Failure Unit) :
    (s.ask job q).2 ≠ .loaded outcome := by
  intro h
  simp only [ask] at h
  split at h
  · cases h
  · split at h
    · exact proceed_ne_loaded _ q outcome h
    · have hloading := isLoading_load { s with
        cache := (s.cache.lookupFlags s.clock q.cacheKey).2
        firstUseTried := true } job (.answer q)
      rw [h] at hloading
      cases hloading

/-- The first query that finds neither flags in the cache nor definitions loads. -/
lemma ask_of_first_use {s : Service} (job : Nat) {q : Query} (huncached : s.cached? q = none)
    (hlocal : s.evaluatesLocally = true) (hnone : s.definitions = none)
    (htried : s.firstUseTried = false) :
    ∃ t : Service, t.loading = { s.loading with firstUseTried := true } ∧
      s.ask job q = t.load job (.answer q) := by
  rw [cached?] at huncached
  refine ⟨{ s with
    cache := (s.cache.lookupFlags s.clock q.cacheKey).2
    firstUseTried := true }, rfl, ?_⟩
  simp [ask, huncached, hlocal, hnone, htried]

lemma loader_abandon_of_ne {s : Service} {job : Nat} (h : s.loader ≠ some job) :
    (s.abandon job).loader = s.loader := by
  rw [abandon, if_neg h]

end Service

namespace System

variable {s : System} {event : Event} {job other : Nat} {next : Service × Stage}

/-! ### What is told of loads -/

/-- The definitions that an event brings: a job that waits for them has fetched them. -/
def document? (s : System) : Event → Option DefinitionsDocument
  | .fetched job (.ok document) => if s.isFetching job then some document else none
  | _ => none

/-- The definitions that events bring, one after the other. -/
def documents (s : System) (events : List Event) : List DefinitionsDocument :=
  (s.moments events).filterMap fun m => m.state.document? m.event

/-- Does a query load at an event? -/
def loadsOnFirstUse (s : System) : Event → Bool
  | .ask job q => (s.step (.ask job q)).isLoading job
  | _ => false

/-- The jobs that wait for definitions which they fetch. -/
def inFlight (s : System) : List Nat := (s.jobs.filter fun j => j.2.isFetching).map Prod.fst

/-- A load of a job begins at an event: somebody asks for it, a task of the poller refreshes, or a
query finds no definitions for the first time. -/
inductive LoadBegins (s : System) : Event → Nat → Prop where
  | load (job : Nat) : LoadBegins s (.load job) job
  | tick {task due : Nat} (now : Nat) (hphase : s.poller.phase? task = some (.resting due)) :
      LoadBegins s (.tick task now) task
  | ask {job : Nat} {q : Query} (huncached : s.service.cached? q = none)
      (hlocal : s.service.evaluatesLocally = true) (hnone : s.service.definitions = none)
      (htried : s.service.firstUseTried = false) : LoadBegins s (.ask job q) job

/-- A job that loads is brought on: its turn has come, or what it fetches has come, or has not. -/
inductive BringsOn (job : Nat) : Event → Prop where
  | goOn : BringsOn job (.goOn job)
  | fetched (outcome : Except Failure DefinitionsDocument) : BringsOn job (.fetched job outcome)

lemma isFetching_iff :
    s.isFetching job = true ↔ ∃ purpose, s.stage? job = some (.fetching purpose) := by
  rw [isFetching, Option.any_eq_true]
  constructor
  · rintro ⟨stage, hstage, hfetching⟩
    cases stage with
    | fetching purpose => exact ⟨purpose, hstage⟩
    | inLine | asking | loaded | answered => cases hfetching
  · rintro ⟨purpose, hstage⟩
    exact ⟨_, hstage, rfl⟩

lemma document?_eq_some_iff {document : DefinitionsDocument} :
    s.document? event = some document ↔
      ∃ job purpose, event = .fetched job (.ok document) ∧
        s.stage? job = some (.fetching purpose) := by
  constructor
  · intro h
    simp only [document?] at h
    split at h
    · split at h
      · rename_i hfetching
        obtain ⟨purpose, hstage⟩ := isFetching_iff.1 hfetching
        exact ⟨_, purpose, by rw [Option.some.inj h], hstage⟩
      · cases h
    · cases h
  · rintro ⟨job, purpose, rfl, hstage⟩
    exact if_pos (isFetching_iff.2 ⟨purpose, hstage⟩)

/-- An event brings no definitions if it is none of those that bring some. -/
lemma document?_eq_none (h : ∀ fetcher document purpose, event = .fetched fetcher (.ok document) →
    s.stage? fetcher ≠ some (.fetching purpose)) : s.document? event = none := by
  refine Option.eq_none_iff_forall_ne_some.2 fun document hdocument => ?_
  obtain ⟨fetcher, purpose, hevent, hstage⟩ := document?_eq_some_iff.1 hdocument
  exact h fetcher document purpose hevent hstage

/-! ### What one event does -/

/-- Complete loads are counted by the definitions that they bring, and what was tried stays
tried. -/
structure Advances (s : System) (event : Event) (service : Service) : Prop where
  completed :
    service.completedLoads = s.service.completedLoads + (s.document? event).toList.length
  tried : s.service.firstUseTried = true → service.firstUseTried = true

lemma Advances.of_progress {service : Service} (hnone : s.document? event = none)
    (h : service.progress = s.service.progress) : s.Advances event service where
  completed := by
    rw [hnone]
    exact congrArg Prod.fst h
  tried htried := (congrArg Prod.snd h).trans htried

lemma Move.advances (h : s.Move event job next) : s.Advances event next.1 := by
  cases h with
  | ask job q =>
    rcases s.service.progress_ask job q with ⟨h, -⟩ | ⟨-, h⟩
    · exact .of_progress rfl h
    · exact ⟨congrArg Prod.fst h, fun _ => congrArg Prod.snd h⟩
  | load | tick => exact .of_progress rfl (Service.progress_load _ _ _)
  | goOn => exact .of_progress rfl (Service.progress_granted _ _ _)
  | @fetched job purpose outcome hstage =>
    cases outcome with
    | ok document =>
      have h := Service.progress_release { s.service with
        definitions := some (.ofDocument document)
        completedLoads := s.service.completedLoads + 1 }
      refine ⟨?_, fun htried => (congrArg Prod.snd h).trans htried⟩
      rw [document?_eq_some_iff.2 ⟨_, _, rfl, hstage⟩]
      exact congrArg Prod.fst h
    | error e => exact .of_progress rfl (Service.progress_release _)
  | answered outcome =>
    cases outcome with
    | ok response => exact .of_progress rfl rfl
    | error e => exact .of_progress rfl rfl

lemma advances_step (s : System) (event : Event) : s.Advances event (s.step event).service := by
  cases s.step_turn event with
  | moved hmove hservice _ =>
    rw [hservice]
    exact hmove.advances
  | aborted hservice _ =>
    rw [hservice]
    exact .of_progress rfl (Service.progress_abandon _ _)
  | aside hidle hloading _ =>
    refine .of_progress (document?_eq_none ?_) (Service.progress_of_loading hloading)
    rintro fetcher document purpose rfl hstage
    exact hidle _ _ (.fetched _ hstage)

/-- What is there are the latest definitions: an event that brings none leaves them. -/
lemma definitions_step (s : System) (event : Event) :
    (s.step event).service.definitions =
      ((s.document? event).map .ofDocument).or s.service.definitions := by
  cases hdocument : s.document? event with
  | some document =>
    obtain ⟨job, purpose, rfl, hstage⟩ := document?_eq_some_iff.1 hdocument
    have hservice : (s.step (.fetched job (.ok document))).service =
        (s.service.fetched purpose (.ok document)).1 := by
      simp only [step, hstage]
      rfl
    rw [hservice, Service.definitions_eq_of_apart (Service.apart_fetched_ok _ _ _)]
    rfl
  | none =>
    obtain ⟨t, hchange, happart⟩ := s.step_change event
    rw [Service.definitions_eq_of_apart happart]
    cases hchange with
    | loading | lookedUp | cleared | clockSet => rfl
    | answered outcome _ =>
      cases outcome with
      | ok response => rfl
      | error e => rfl
    | defined document hstage =>
      rw [document?_eq_some_iff.2 ⟨_, _, rfl, hstage⟩] at hdocument
      cases hdocument

/-! ### Loads take turns -/

/-- Loads take turns: who fetches is the loader, and nobody has seen loads that are not complete. -/
structure InTurn (s : System) : Prop where
  nodup : (s.jobs.map Prod.fst).Nodup
  loader : ∀ job, s.isFetching job = true → s.service.loader = some job
  seen : ∀ job seen purpose, s.stage? job = some (.inLine seen purpose) →
    seen ≤ s.service.completedLoads

/-- How loading stands for a job that was brought on to a stage: the load is over, or it fetches and
is the loader, or it is in line behind the loader and has seen all complete loads. -/
inductive Stands (s : System) (job : Nat) (next : Service × Stage) : Prop where
  | ended (hstage : next.2.isLoading = false)
      (hloader : next.1.loader = s.service.loader ∨ s.service.loader = some job ∨
        s.isFetching job = true)
  | fetches (purpose : Purpose) (hstage : next.2 = .fetching purpose)
      (hloader : next.1.loader = some job)
      (hturn : s.service.loader = none ∨ s.service.loader = some job)
  | waits (purpose : Purpose) (hstage : next.2 = .inLine s.service.completedLoads purpose)
      (hloader : next.1.loader = s.service.loader) (hline : job ∈ next.1.line)

lemma stands_load {service : Service} {purpose : Purpose}
    (hloader : service.loader = s.service.loader)
    (hcompleted : service.completedLoads = s.service.completedLoads) :
    s.Stands job (service.load job purpose) := by
  cases h : service.loader with
  | none =>
    rw [Service.load_of_free h]
    exact .fetches purpose rfl rfl (.inl (hloader ▸ h))
  | some other =>
    rw [Service.load_of_taken (h ▸ rfl)]
    exact .waits purpose (hcompleted ▸ rfl) hloader (by simp)

lemma Move.stands (h : s.Move event job next) : s.Stands job next := by
  cases h with
  | ask job q =>
    rcases s.service.ask_cases job q with ⟨h, hstage⟩ | ⟨t, -, h, heq⟩
    · exact .ended hstage (.inl (congrArg Loading.loader h))
    · rw [heq]
      exact stands_load (congrArg Loading.loader h) (congrArg Loading.completed h)
  | load | tick => exact stands_load rfl rfl
  | @goOn job seen purpose hstage hturn =>
    by_cases h : s.service.completedLoads = seen
    · rw [Service.granted_of_eq h]
      exact .fetches purpose rfl hturn (.inr hturn)
    · rw [Service.granted_of_ne h]
      exact .ended (Service.isLoading_afterLoad _ _ _) (.inr (.inl hturn))
  | @fetched job purpose outcome hstage =>
    refine .ended ?_ (.inr (.inr (isFetching_iff.2 ⟨purpose, hstage⟩)))
    cases outcome with
    | ok document => exact Service.isLoading_afterLoad _ _ _
    | error e => exact Service.isLoading_afterLoad _ _ _
  | answered outcome =>
    cases outcome with
    | ok response => exact .ended rfl (.inl rfl)
    | error e => exact .ended rfl (.inl rfl)

lemma Move.loader_of_fetching (h : s.Move event job next) {purpose : Purpose}
    (hstage : next.2 = .fetching purpose) : next.1.loader = some job := by
  cases h.stands with
  | ended hended _ =>
    rw [hstage] at hended
    cases hended
  | fetches _ _ hloader _ => exact hloader
  | waits _ hwaits _ _ =>
    rw [hstage] at hwaits
    cases hwaits

lemma Move.seen_of_inLine (h : s.Move event job next) {seen : Nat} {purpose : Purpose}
    (hstage : next.2 = .inLine seen purpose) : seen = s.service.completedLoads := by
  cases h.stands with
  | ended hended _ =>
    rw [hstage] at hended
    cases hended
  | fetches _ hfetches _ _ =>
    rw [hstage] at hfetches
    cases hfetches
  | waits _ hwaits _ _ =>
    rw [hstage] at hwaits
    exact (Stage.inLine.inj hwaits).1

/-- Bringing a job on does not take the turn from another. -/
lemma Move.loader_of_ne (h : s.Move event job next) (hs : s.InTurn) (hne : other ≠ job)
    (hother : s.service.loader = some other) : next.1.loader = some other := by
  have hnot : s.service.loader ≠ some job := by
    rw [hother]
    exact fun heq => hne (Option.some.inj heq)
  cases h.stands with
  | ended _ hloader =>
    rcases hloader with hsame | hturn | hfetching
    · rw [hsame, hother]
    · exact absurd hturn hnot
    · exact absurd (hs.loader job hfetching) hnot
  | fetches purpose _ _ hturn =>
    rcases hturn with hnone | hturn
    · rw [hother] at hnone
      cases hnone
    · exact absurd hturn hnot
  | waits purpose _ hloader _ => rw [hloader, hother]

lemma inTurn_new (service : Service) (interval : Nat) : (new service interval).InTurn where
  nodup := List.nodup_nil
  loader _ h := nomatch h
  seen _ _ _ h := nomatch h

lemma nodup_jobsWithout (h : (s.jobs.map Prod.fst).Nodup) (job : Nat) :
    ((s.jobsWithout job).map Prod.fst).Nodup :=
  h.sublist (List.filter_sublist.map _)

lemma completedLoads_le_step (s : System) (event : Event) :
    s.service.completedLoads ≤ (s.step event).service.completedLoads := by
  rw [(s.advances_step event).completed]
  exact Nat.le_add_right _ _

lemma InTurn.nodup_step (h : s.InTurn) (event : Event) :
    ((s.step event).jobs.map Prod.fst).Nodup := by
  cases s.step_turn event with
  | @moved _ job next _ hmove hservice hjobs =>
    rw [hjobs, update, List.map_append, List.map_singleton, List.nodup_append]
    refine ⟨nodup_jobsWithout h.nodup job, List.nodup_singleton _, fun a ha b hb => ?_⟩
    obtain ⟨j, hj, rfl⟩ := List.mem_map.1 ha
    rw [List.mem_singleton.1 hb]
    simpa using (List.mem_filter.1 hj).2
  | aborted hservice hjobs =>
    rw [hjobs]
    exact nodup_jobsWithout h.nodup _
  | aside hidle hloading hjobs =>
    rcases hjobs with hsame | ⟨job, -, hwithout⟩
    · rw [hsame]
      exact h.nodup
    · rw [hwithout]
      exact nodup_jobsWithout h.nodup job

lemma InTurn.loader_step (h : s.InTurn) (event : Event) {purpose : Purpose}
    (hstage : (s.step event).stage? other = some (.fetching purpose)) :
    (s.step event).service.loader = some other := by
  have hbefore {purpose} (hstage : s.stage? other = some (.fetching purpose)) :
      s.service.loader = some other := h.loader other (isFetching_iff.2 ⟨_, hstage⟩)
  cases s.step_turn event with
  | @moved _ job next _ hmove hservice hjobs =>
    rw [hservice]
    rcases stage?_of_moved hjobs other with ⟨rfl, hmoved⟩ | ⟨hne, hsame⟩
    · exact hmove.loader_of_fetching (Option.some.inj (hmoved.symm.trans hstage))
    · rw [hsame] at hstage
      exact hmove.loader_of_ne h hne (hbefore hstage)
  | @aborted task _ hservice hjobs =>
    obtain ⟨hne, hstage⟩ := stage?_of_dropped hjobs hstage
    rw [hservice, Service.loader_abandon_of_ne, hbefore hstage]
    rw [hbefore hstage]
    exact fun heq => hne (Option.some.inj heq)
  | aside hidle hloading hjobs =>
    rw [← hbefore (stage?_of_aside hjobs hstage)]
    exact congrArg Loading.loader hloading

/-- A job in line was there before, or it has just seen all complete loads. -/
lemma inLine_step (event : Event) {seen : Nat} {purpose : Purpose}
    (hstage : (s.step event).stage? other = some (.inLine seen purpose)) :
    s.stage? other = some (.inLine seen purpose) ∨ seen = s.service.completedLoads := by
  cases s.step_turn event with
  | @moved _ job next _ hmove hservice hjobs =>
    rcases stage?_of_moved hjobs other with ⟨rfl, hmoved⟩ | ⟨hne, hsame⟩
    · exact .inr (hmove.seen_of_inLine (Option.some.inj (hmoved.symm.trans hstage)))
    · exact .inl (hsame ▸ hstage)
  | aborted hservice hjobs => exact .inl (stage?_of_dropped hjobs hstage).2
  | aside hidle hloading hjobs => exact .inl (stage?_of_aside hjobs hstage)

lemma InTurn.step (h : s.InTurn) (event : Event) : (s.step event).InTurn where
  nodup := h.nodup_step event
  loader other hfetching := by
    obtain ⟨purpose, hstage⟩ := isFetching_iff.1 hfetching
    exact h.loader_step event hstage
  seen other seen purpose hstage := by
    refine le_trans ?_ (s.completedLoads_le_step event)
    rcases inLine_step event hstage with hbefore | rfl
    · exact h.seen other seen purpose hbefore
    · exact le_rfl

/-! ### What a run does -/

lemma documents_append (s : System) (events rest : List Event) :
    s.documents (events ++ rest) = s.documents events ++ (s.run events).documents rest := by
  rw [documents, moments_append, List.filterMap_append]
  rfl

lemma documents_singleton (s : System) (event : Event) :
    s.documents [event] = (s.document? event).toList := by
  cases h : s.document? event <;> simp [documents, moments, h]

lemma InTurn.run (h : s.InTurn) (events : List Event) : (s.run events).InTurn := by
  induction events generalizing s with
  | nil => exact h
  | cons event rest ih => exact ih (h.step event)

lemma InTurn.stage?_of_mem (h : s.InTurn) {stage : Stage} (hmem : (job, stage) ∈ s.jobs) :
    s.stage? job = some stage := by
  obtain ⟨before, after, hjobs⟩ := List.append_of_mem hmem
  have hnodup := h.nodup
  rw [hjobs, List.map_append, List.map_cons] at hnodup
  have hbefore : before.find? (fun j => j.1 = job) = none := by
    refine List.find?_eq_none.2 fun j hj heq => ?_
    refine List.disjoint_of_nodup_append hnodup (List.mem_map_of_mem hj) ?_
    rw [of_decide_eq_true heq]
    exact List.mem_cons_self
  simp [stage?, hjobs, List.find?_append, hbefore]

/-- Only one job fetches. -/
lemma InTurn.length_inFlight_le (h : s.InTurn) : s.inFlight.length ≤ 1 := by
  have hnodup : s.inFlight.Nodup := h.nodup.sublist (List.filter_sublist.map _)
  have hloader : ∀ job ∈ s.inFlight, s.service.loader = some job := by
    intro job hjob
    obtain ⟨⟨_, stage⟩, hmem, rfl⟩ := List.mem_map.1 hjob
    obtain ⟨hmem, hfetching⟩ := List.mem_filter.1 hmem
    refine h.loader _ ?_
    rw [isFetching, h.stage?_of_mem hmem]
    exact hfetching
  match hin : s.inFlight with
  | [] => exact Nat.zero_le _
  | [_] => exact le_rfl
  | a :: b :: _ =>
    rw [hin] at hnodup hloader
    have ha := hloader a List.mem_cons_self
    have hb := hloader b (List.mem_cons_of_mem _ List.mem_cons_self)
    exact absurd (Option.some.inj (ha.symm.trans hb)) (by simp_all)

lemma completedLoads_run (s : System) (events : List Event) :
    (s.run events).service.completedLoads =
      s.service.completedLoads + (s.documents events).length := by
  induction events using List.reverseRecOn with
  | nil => rfl
  | append_singleton events event ih =>
    rw [run_append, documents_append, documents_singleton, List.length_append, ← Nat.add_assoc,
      ← ih]
    exact ((s.run events).advances_step event).completed

lemma definitions_run (s : System) (events : List Event) :
    (s.run events).service.definitions =
      ((s.documents events).getLast?.map .ofDocument).or s.service.definitions := by
  induction events using List.reverseRecOn with
  | nil => rfl
  | append_singleton events event ih =>
    rw [run_append, documents_append, documents_singleton, List.getLast?_append]
    refine ((s.run events).definitions_step event).trans ?_
    rw [ih]
    cases (s.run events).document? event with
    | none => rfl
    | some document => rfl

/-- A job that is in line after a while has seen what was complete at its beginning. -/
lemma seen_run {least : Nat} (hleast : least ≤ s.service.completedLoads)
    (hbefore : ∀ seen purpose, s.stage? job = some (.inLine seen purpose) → least ≤ seen)
    (events : List Event) {seen : Nat} {purpose : Purpose}
    (hstage : (s.run events).stage? job = some (.inLine seen purpose)) : least ≤ seen := by
  induction events using List.reverseRecOn generalizing seen purpose with
  | nil => exact hbefore seen purpose hstage
  | append_singleton events event ih =>
    rw [run_append] at hstage
    rcases inLine_step event hstage with hstage | rfl
    · exact ih hstage
    · rw [completedLoads_run]
      exact hleast.trans (Nat.le_add_right _ _)

/-- A query that loads has not been preceded by another, and none follows it. -/
lemma firstUseTried_step (s : System) (event : Event) :
    (s.loadsOnFirstUse event).toNat + s.service.firstUseTried.toNat ≤
      (s.step event).service.firstUseTried.toNat := by
  cases hfirst : s.loadsOnFirstUse event with
  | false =>
    have htried := (s.advances_step event).tried
    cases h : s.service.firstUseTried with
    | false => exact Nat.zero_le _
    | true => rw [htried h]; rfl
  | true =>
    cases event with
    | ask job q =>
      rw [loadsOnFirstUse, isLoading, step, stage?_update, Option.any_some] at hfirst
      rcases s.service.progress_ask job q with ⟨-, hstage⟩ | ⟨hnot, htried⟩
      · rw [hstage] at hfirst
        cases hfirst
      · have htried : (s.step (.ask job q)).service.firstUseTried = true :=
          congrArg Prod.snd htried
        rw [hnot, htried]
        exact le_rfl
    | _ => cases hfirst

lemma firstUses_run (s : System) (events : List Event) :
    ((s.moments events).countP fun m => m.state.loadsOnFirstUse m.event) +
      s.service.firstUseTried.toNat ≤ (s.run events).service.firstUseTried.toNat := by
  induction events generalizing s with
  | nil => simp [moments, run]
  | cons event rest ih =>
    have hstep := s.firstUseTried_step event
    have hrest := ih (s.step event)
    rw [moments, List.countP_cons]
    change _ ≤ ((s.step event).run rest).service.firstUseTried.toNat
    cases h : s.loadsOnFirstUse event with
    | false =>
      rw [h, Bool.toNat_false] at hstep
      simp only [Bool.false_eq_true, if_false]
      omega
    | true =>
      rw [h, Bool.toNat_true] at hstep
      simp only [if_true]
      omega

/-! ### Loads that return -/

/-- A load is not over when it begins, and has seen all complete loads if it has to wait. -/
lemma LoadBegins.waits (h : s.LoadBegins event job) : (s.step event).isLoading job = true ∧
    ∀ seen purpose, (s.step event).stage? job = some (.inLine seen purpose) →
      (s.step event).service.completedLoads ≤ seen := by
  -- however it begins, it is a load of a service that has completed as many loads
  obtain ⟨service, purpose, hcompleted, hservice, hstage⟩ : ∃ (service : Service)
      (purpose : Purpose), service.completedLoads = s.service.completedLoads ∧
      (s.step event).service = (service.load job purpose).1 ∧
      (s.step event).stage? job = some (service.load job purpose).2 := by
    cases h with
    | load => exact ⟨s.service, .report, rfl, rfl, stage?_update _ _ _⟩
    | tick now hphase =>
      simp only [step, hphase]
      exact ⟨s.service, .report, rfl, rfl, stage?_update _ _ _⟩
    | @ask _ q huncached hlocal hnone htried =>
      obtain ⟨t, ht, hload⟩ := Service.ask_of_first_use job huncached hlocal hnone htried
      exact ⟨t, .answer q, congrArg Loading.completed ht, congrArg Prod.fst hload,
        (stage?_update _ _ _).trans (congrArg (fun next => some next.2) hload)⟩
  have hprogress : (service.load job purpose).1.completedLoads = service.completedLoads :=
    congrArg Prod.fst (Service.progress_load service job purpose)
  refine ⟨?_, fun seen purpose' hwaits => ?_⟩
  · rw [isLoading_of_stage hstage]
    exact service.isLoading_load job purpose
  · rw [hservice, hprogress]
    cases hloader : service.loader with
    | none =>
      rw [hstage, Service.load_of_free hloader] at hwaits
      cases hwaits
    | some other =>
      rw [hstage, Service.load_of_taken (hloader ▸ rfl)] at hwaits
      cases hwaits
      exact le_rfl

/-- A load that is over and well was so before, or the event brings definitions, or more loads are
complete than the job has seen. -/
lemma loaded_ok_step (h : (s.step event).stage? job = some (.loaded (.ok ()))) :
    s.stage? job = some (.loaded (.ok ())) ∨ (s.document? event).isSome = true ∨
      ∃ seen purpose, s.stage? job = some (.inLine seen purpose) ∧
        s.service.completedLoads ≠ seen := by
  cases s.step_turn event with
  | @moved _ other next _ hmove hservice hjobs =>
    rcases stage?_of_moved hjobs job with ⟨rfl, hmoved⟩ | ⟨hne, hsame⟩
    · refine .inr ?_
      have hnext : next.2 = .loaded (.ok ()) := Option.some.inj (hmoved.symm.trans h)
      cases hmove with
      | ask _ q => exact absurd hnext (s.service.ask_ne_loaded job q _)
      | load | tick =>
        have hloading := s.service.isLoading_load job .report
        rw [hnext] at hloading
        cases hloading
      | @goOn _ seen purpose hstage hturn =>
        refine .inr ⟨seen, purpose, hstage, fun heq => ?_⟩
        rw [Service.granted_of_eq heq] at hnext
        cases hnext
      | @fetched _ purpose outcome hstage =>
        cases outcome with
        | ok document =>
          exact .inl (by rw [document?_eq_some_iff.2 ⟨_, _, rfl, hstage⟩, Option.isSome_some])
        | error e =>
          -- the failure is reported as it is, so this is no load that is over and well
          cases purpose with
          | report => cases hnext
          | answer q => exact absurd hnext (Service.proceed_ne_loaded _ q _)
      | answered outcome =>
        cases outcome with
        | ok response => cases hnext
        | error e => cases hnext
    · exact .inl (hsame ▸ h)
  | aborted hservice hjobs => exact .inl (stage?_of_dropped hjobs h).2
  | aside hidle hloading hjobs => exact .inl (stage?_of_aside hjobs h)

/-- A load that is brought on to its end has failed to fetch, or the event brings definitions, or
more loads are complete than the job has seen. -/
lemma BringsOn.ended (h : BringsOn job event) (hbefore : s.isLoading job = true)
    (hafter : (s.step event).isLoading job = false) :
    (∃ e, event = .fetched job (.error e)) ∨ (s.document? event).isSome = true ∨
      ∃ seen purpose, s.stage? job = some (.inLine seen purpose) ∧
        s.service.completedLoads ≠ seen := by
  -- the load ends by this event, so the event has moved it
  have hunmoved (h : s.step event = s) : False := by
    rw [h, hbefore] at hafter
    cases hafter
  cases h with
  | goOn =>
    simp only [step] at hunmoved hafter
    split at hunmoved
    · rename_i seen purpose hstage
      split at hunmoved
      · refine .inr (.inr ⟨seen, purpose, hstage, fun heq => ?_⟩)
        rename_i hturn
        simp only [hstage, if_pos hturn, Service.granted_of_eq heq] at hafter
        rw [isLoading, stage?_update] at hafter
        cases hafter
      · exact (hunmoved rfl).elim
    · exact (hunmoved rfl).elim
  | fetched outcome =>
    simp only [step] at hunmoved
    split at hunmoved
    · rename_i purpose hstage
      cases outcome with
      | ok document =>
        exact .inr (.inl (by rw [document?_eq_some_iff.2 ⟨_, _, rfl, hstage⟩, Option.isSome_some]))
      | error e => exact .inl ⟨e, rfl⟩
    · exact (hunmoved rfl).elim

/-- A job that has seen all complete loads when it began finds more only after definitions have
come. -/
lemma InTurn.documents_ne_nil (hs : s.InTurn)
    (hseen : ∀ seen purpose, s.stage? job = some (.inLine seen purpose) →
      s.service.completedLoads ≤ seen)
    (events : List Event) {seen : Nat} {purpose : Purpose}
    (hstage : (s.run events).stage? job = some (.inLine seen purpose))
    (hmore : (s.run events).service.completedLoads ≠ seen) : s.documents events ≠ [] := by
  -- a load is counted when its definitions come
  intro hnil
  have hcompleted := s.completedLoads_run events
  rw [hnil, List.length_nil, Nat.add_zero] at hcompleted
  have hleast := seen_run le_rfl hseen events hstage
  have hmost := (hs.run events).seen job seen purpose hstage
  omega

lemma documents_append_singleton_ne_nil {events : List Event}
    (h : s.documents events ≠ [] ∨ ((s.run events).document? event).isSome = true) :
    s.documents (events ++ [event]) ≠ [] := by
  rw [documents_append, documents_singleton, Ne, List.append_eq_nil_iff, not_and_or]
  refine h.imp_right fun hsome hnil => ?_
  obtain ⟨document, hdocument⟩ := Option.isSome_iff_exists.1 hsome
  rw [hdocument] at hnil
  cases hnil

/-- A load that is over and well was not so when it began, so definitions have come since. -/
lemma InTurn.documents_ne_nil_of_loaded (hs : s.InTurn)
    (hseen : ∀ seen purpose, s.stage? job = some (.inLine seen purpose) →
      s.service.completedLoads ≤ seen)
    (hloading : s.isLoading job = true) (events : List Event)
    (h : (s.run events).stage? job = some (.loaded (.ok ()))) : s.documents events ≠ [] := by
  induction events using List.reverseRecOn with
  | nil =>
    have hover : s.isLoading job = false := isLoading_of_stage h
    rw [hover] at hloading
    cases hloading
  | append_singleton events event ih =>
    rw [run_append] at h
    refine documents_append_singleton_ne_nil ?_
    -- it is over and well since this event, or since one before
    rcases loaded_ok_step h with hbefore | hsome | ⟨seen, purpose, hstage, hmore⟩
    · exact .inl (ih hbefore)
    · exact .inr hsome
    · exact .inl (hs.documents_ne_nil hseen events hstage hmore)

/-- However jobs take turns: at most one fetch is in flight; the definitions that are there are the
latest that a fetch has brought, and stay until a fetch brings others; a load is not over when it
begins, and if it is over and well, then a fetch was completed since it began; a load that comes to
its end otherwise than by a fetch that failed has seen a fetch completed, whatever it is for; at
most one query loads. -/
theorem loads_in_turn (config : Config) (present : Calendar.Instant) (clock interval : Nat)
    (events : List Event) :
    let first := System.new (.new config present clock) interval
    let s := first.run events
    s.inFlight.length ≤ 1 ∧
      s.service.definitions = (first.documents events).getLast?.map .ofDocument ∧
      (∀ event, (s.step event).service.definitions =
        ((s.document? event).map .ofDocument).or s.service.definitions) ∧
      (∀ began job, s.LoadBegins began job →
        let t := s.step began
        t.isLoading job = true ∧
        ∀ between,
          ((t.run between).stage? job = some (.loaded (.ok ())) → t.documents between ≠ []) ∧
          ∀ event, BringsOn job event → (t.run between).isLoading job = true →
            ((t.run between).step event).isLoading job = false →
            (∃ e, event = .fetched job (.error e)) ∨ t.documents (between ++ [event]) ≠ []) ∧
      ((first.moments events).countP fun m => m.state.loadsOnFirstUse m.event) ≤ 1 := by
  intro first s
  have hs : s.InTurn := (inTurn_new _ interval).run events
  refine ⟨hs.length_inFlight_le, ?_, s.definitions_step, fun began job hbegins => ?_, ?_⟩
  · rw [definitions_run]
    exact Option.or_none
  · obtain ⟨hloading, hseen⟩ := hbegins.waits
    have ht := hs.step began
    refine ⟨hloading, fun between => ⟨ht.documents_ne_nil_of_loaded hseen hloading between,
      fun event hevent hbefore hafter => ?_⟩⟩
    rcases hevent.ended hbefore hafter with hfailed | hsome | ⟨seen, purpose, hstage, hmore⟩
    · exact .inl hfailed
    · exact .inr (documents_append_singleton_ne_nil (.inr hsome))
    · exact .inr (documents_append_singleton_ne_nil
        (.inl (ht.documents_ne_nil hseen between hstage hmore)))
  · have huses := first.firstUses_run events
    exact (Nat.le_add_right _ _).trans (huses.trans (Bool.toNat_le _))

end System

/-- A query loads, and a load waits for it. -/
def waitingBehind : System :=
  (System.new (.new .trial ⟨0, 0⟩ 0) 30000).run [.ask 1 ⟨"someone", .nothing, none⟩, .load 2]

/-- Another load begins. The fetch of the query fails and the second one is completed, so the load
that began last is over and well without a fetch. If the second one fails as well, the load that
fetched says so, and the last one is not over. -/
theorem loads_in_turn_three :
    let rest := fun outcome : Except Failure DefinitionsDocument =>
      [Event.fetched 1 (.error (.status 500)), .goOn 2, .fetched 2 outcome, .goOn 3]
    let t := waitingBehind.step (.load 3)
    waitingBehind.LoadBegins (.load 3) 3 ∧
      (t.run (rest (.ok ⟨[], ∅, ∅⟩))).stage? 3 = some (.loaded (.ok ())) ∧
      t.documents (rest (.ok ⟨[], ∅, ∅⟩)) ≠ [] ∧
      (t.run (rest (.error (.status 503)))).stage? 2 = some (.loaded (.error (.status 503))) ∧
      (t.run (rest (.error (.status 503)))).stage? 3 = some (.fetching .report) ∧
      t.documents (rest (.error (.status 503))) = [] := by
  intro rest t
  have hbegins : waitingBehind.LoadBegins (.load 3) 3 := .load 3
  have hended : (t.run (rest (.ok ⟨[], ∅, ∅⟩))).stage? 3 = some (.loaded (.ok ())) := rfl
  obtain ⟨-, -, -, hloads, -⟩ := System.loads_in_turn .trial ⟨0, 0⟩ 0 30000
    [.ask 1 ⟨"someone", .nothing, none⟩, .load 2]
  obtain ⟨-, hreturns⟩ := hloads (.load 3) 3 hbegins
  exact ⟨hbegins, hended, (hreturns _).1 hended, rfl, rfl, rfl⟩

end FeatureFlags
