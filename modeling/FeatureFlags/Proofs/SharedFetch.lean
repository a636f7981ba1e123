import FeatureFlags.Proofs.Loading

/-!
# Loads beside a fetch

A load that begins while another job fetches waits in line, and is not forgotten. When its turn
comes and a fetch has been completed since, it returns well without a fetch. A fetch that fails is
not shared: the next in line fetches again.
-/

namespace FeatureFlags

/-! ### Places in line -/

/-- It is the turn of a job, or the job is in line. -/
def Loading.HasPlace (l : Loading) (job : Nat) : Prop := l.loader = some job ∨ job ∈ l.line

namespace Service

variable {s : Service} {job other seen : Nat} {purpose : Purpose}

/-- Who is in line stays in line, or it is his turn. -/
lemma hasPlace_release (h : s.loading.HasPlace other) (hne : s.loader ≠ some other) :
    s.release.loading.HasPlace other := by
  have hmem : other ∈ s.line := h.resolve_left hne
  rw [loading_release]
  cases hline : s.line with
  | nil =>
    rw [hline] at hmem
    cases hmem
  | cons next rest =>
    rw [hline] at hmem
    exact (List.mem_cons.1 hmem).imp_left fun heq => congrArg some heq.symm

/-- Who has a place keeps it when another job loads, and who loads gets one. -/
lemma hasPlace_load (h : s.loading.HasPlace other ∨ other = job) :
    (s.load job purpose).1.loading.HasPlace other := by
  cases hloader : s.loader with
  | none =>
    rw [load_of_free hloader]
    rcases h with (hturn | hline) | rfl
    · cases hloader.symm.trans hturn
    · exact .inr hline
    · exact .inl rfl
  | some holder =>
    rw [load_of_taken (hloader ▸ rfl)]
    rcases h with (hturn | hline) | rfl
    · exact .inl hturn
    · exact .inr (List.mem_append_left _ hline)
    · exact .inr (List.mem_append_right _ List.mem_cons_self)

lemma hasPlace_abandon (h : s.loading.HasPlace other) (hne : other ≠ job) :
    (s.abandon job).loading.HasPlace other := by
  rw [abandon]
  split
  · rename_i hturn
    refine hasPlace_release h fun hother => hne ?_
    exact Option.some.inj (hother.symm.trans hturn)
  · exact h.imp_right fun hline => List.mem_filter.2 ⟨hline, by simpa using hne⟩

end Service

namespace System

variable {s : System} {event : Event} {job other fetcher : Nat} {next : Service × Stage}
  {purpose : Purpose}

/-- Bringing a job on does not take the place from another. -/
lemma Move.hasPlace_of_ne (h : s.Move event job next) (hs : s.InTurn) (hne : other ≠ job)
    (hplace : s.service.loading.HasPlace other) : next.1.loading.HasPlace other := by
  have hother (hturn : s.service.loader = some job) : s.service.loader ≠ some other :=
    fun heq => hne (Option.some.inj (heq.symm.trans hturn))
  cases h with
  | ask job q =>
    rcases s.service.ask_cases job q with ⟨h, -⟩ | ⟨t, -, h, heq⟩
    · rwa [h]
    · rw [heq]
      exact Service.hasPlace_load (.inl (h ▸ hplace))
  | load | tick => exact Service.hasPlace_load (.inl hplace)
  | @goOn job seen purpose hstage hturn =>
    by_cases h : s.service.completedLoads = seen
    · rwa [Service.granted_of_eq h]
    · rw [Service.granted_of_ne h]
      exact Service.hasPlace_release hplace (hother hturn)
  | @fetched job purpose outcome hstage =>
    have hturn := hs.loader job (isFetching_iff.2 ⟨purpose, hstage⟩)
    cases outcome with
    | ok document => exact Service.hasPlace_release hplace (hother hturn)
    | error e => exact Service.hasPlace_release hplace (hother hturn)
  | answered outcome =>
    cases outcome with
    | ok response => exact hplace
    | error e => exact hplace

/-- A job whose load is not over after it was brought on has a place. -/
lemma Move.hasPlace_self (h : s.Move event job next) (hloading : next.2.isLoading = true) :
    next.1.loading.HasPlace job := by
  cases h.stands with
  | ended hended _ =>
    rw [hloading] at hended
    cases hended
  | fetches _ _ hloader _ => exact .inl hloader
  | waits _ _ _ hline => exact .inr hline

/-- No job that waits is forgotten. -/
def Remembers (s : System) : Prop :=
  ∀ job seen purpose, s.stage? job = some (.inLine seen purpose) → s.service.loading.HasPlace job

lemma Remembers.step (h : s.Remembers) (hs : s.InTurn) (event : Event) :
    (s.step event).Remembers := by
  intro other seen purpose hstage
  cases s.step_turn event with
  | @moved _ job next _ hmove hservice hjobs =>
    rw [hservice]
    rcases stage?_of_moved hjobs other with ⟨rfl, hmoved⟩ | ⟨hne, hsame⟩
    · refine hmove.hasPlace_self ?_
      rw [Option.some.inj (hmoved.symm.trans hstage)]
      rfl
    · exact hmove.hasPlace_of_ne hs hne (h other seen purpose (hsame ▸ hstage))
  | aborted hservice hjobs =>
    obtain ⟨hne, hbefore⟩ := stage?_of_dropped hjobs hstage
    rw [hservice]
    exact Service.hasPlace_abandon (h other seen purpose hbefore) hne
  | aside hidle hloading hjobs =>
    rw [hloading]
    exact h other seen purpose (stage?_of_aside hjobs hstage)

/-- Nobody fetches beside a job that fetches. -/
lemma InTurn.document?_eq_none (hs : s.InTurn) (hfetching : s.isFetching fetcher = true)
    (hevent : event.job? ≠ some fetcher) : s.document? event = none := by
  refine System.document?_eq_none ?_
  rintro other document purpose rfl hstage
  have hother := hs.loader other (isFetching_iff.2 ⟨purpose, hstage⟩)
  exact hevent (hother.symm.trans (hs.loader fetcher hfetching))

lemma InTurn.documents_eq_nil (hs : s.InTurn)
    (hfetching : s.stage? fetcher = some (.fetching purpose))
    {events : List Event} (hevents : ∀ event ∈ events, event.job? ≠ some fetcher) :
    s.documents events = [] := by
  induction events generalizing s with
  | nil => rfl
  | cons event rest ih =>
    obtain ⟨hevent, hrest⟩ := List.forall_mem_cons.1 hevents
    rw [← List.singleton_append, documents_append, documents_singleton,
      hs.document?_eq_none (isFetching_iff.2 ⟨_, hfetching⟩) hevent]
    exact ih (hs.step event) ((stage?_step_of_ne hevent).trans hfetching) hrest

/-! ### States that a service can come to -/

namespace Reachable

lemma inTurn (h : s.Reachable) : s.InTurn := by
  induction h with
  | new config present clock => exact inTurn_new _ _
  | step event _ ih => exact ih.step event

lemma remembers (h : s.Reachable) : s.Remembers := by
  induction h with
  | new config present clock => exact fun _ _ _ hstage => nomatch hstage
  | step event hs ih => exact ih.step hs.inTurn event

end Reachable

/-! ### A load beside a fetch -/

/-- Somebody fetches: a load waits in line. -/
lemma stage?_step_load (hturn : s.service.loader.isSome = true) :
    (s.step (.load job)).stage? job = some (.inLine s.service.completedLoads .report) := by
  rw [step, Service.load_of_taken hturn, stage?_update]

/-- The turn of a load has come: it fetches if no load was completed since it began. -/
lemma stage?_step_goOn {seen : Nat} (hstage : s.stage? job = some (.inLine seen .report))
    (hturn : s.service.loader = some job) :
    (s.step (.goOn job)).stage? job =
      if s.service.completedLoads = seen then some (.fetching .report)
      else some (.loaded (.ok ())) := by
  simp only [step, hstage, if_pos hturn, stage?_update]
  split
  · rename_i h
    rw [Service.granted_of_eq h]
  · rename_i h
    rw [Service.granted_of_ne h]
    rfl

lemma InTurn.inFlight_eq (hs : s.InTurn) (hfetching : s.stage? fetcher = some (.fetching purpose)) :
    s.inFlight = [fetcher] := by
  obtain ⟨j, hj, hstage⟩ := Option.map_eq_some_iff.1 hfetching
  have hid : j.1 = fetcher := by simpa using List.find?_some hj
  have hmem : fetcher ∈ s.inFlight := by
    refine List.mem_map.2 ⟨j, List.mem_filter.2 ⟨List.mem_of_find?_eq_some hj, ?_⟩, hid⟩
    rw [hstage]
    rfl
  obtain ⟨other, hother⟩ := List.length_eq_one_iff.1
    (le_antisymm hs.length_inFlight_le (List.length_pos_of_mem hmem))
  rw [hother, List.mem_singleton] at hmem
  rw [hother, hmem]

/-- What is fetched has come, or has not: the load of the job returns with that, or the query goes
on. -/
lemma stage?_step_fetched (hfetching : s.stage? fetcher = some (.fetching purpose))
    (outcome : Except Failure DefinitionsDocument) :
    let t := s.step (.fetched fetcher outcome)
    (purpose = .report → t.stage? fetcher = some (.loaded (outcome.map fun _ => ()))) ∧
      (∀ q, purpose = .answer q → t.stage? fetcher = some (t.service.proceed q)) ∧
      t.service.completedLoads = s.service.completedLoads + if outcome.isOk then 1 else 0 := by
  intro t
  have ht : t = s.update fetcher (s.service.fetched purpose outcome) := by
    simp only [t, step, hfetching]
  have hcompleted := (s.advances_step (.fetched fetcher outcome)).completed
  have hstage : t.stage? fetcher = some (s.service.fetched purpose outcome).2 := by
    rw [ht, stage?_update]
  cases outcome with
  | ok document =>
    rw [document?_eq_some_iff.2 ⟨_, _, rfl, hfetching⟩] at hcompleted
    refine ⟨?_, ?_, hcompleted⟩
    · rintro rfl
      exact hstage
    · rintro q rfl
      exact hstage.trans (by rw [ht]; rfl)
  | error e =>
    refine ⟨?_, ?_, hcompleted⟩
    · rintro rfl
      exact hstage
    · rintro q rfl
      exact hstage.trans (by rw [ht]; rfl)

/-- A load that begins while another job fetches waits, and has its place in line. The other job
reports what has become of its fetch, or goes on with its query. When the turn of the load has come
it returns well without a fetch, if that fetch was completed or one after it was. If none was, it
fetches again. -/
theorem load_beside_fetch (hs : s.Reachable)
    (hfetching : s.stage? fetcher = some (.fetching purpose)) (hne : job ≠ fetcher)
    {during later : List Event}
    (hduring : ∀ event ∈ during, event.job? ≠ some job ∧ event.job? ≠ some fetcher)
    (hlater : ∀ event ∈ later, event.job? ≠ some job)
    (outcome : Except Failure DefinitionsDocument) :
    let t := (s.step (.load job)).run during
    let u := t.step (.fetched fetcher outcome)
    let v := u.run later
    t.inFlight = [fetcher] ∧
      (purpose = .report → u.stage? fetcher = some (.loaded (outcome.map fun _ => ()))) ∧
      (∀ q, purpose = .answer q → u.stage? fetcher = some (u.service.proceed q)) ∧
      v.isFetching job = false ∧ v.service.loading.HasPlace job ∧
      (v.service.loader = some job → (v.step (.goOn job)).stage? job =
        if outcome.isOk = true ∨ u.documents later ≠ [] then some (.loaded (.ok ()))
        else some (.fetching .report)) := by
  intro t u v
  have hnotFetcher : (Event.load job).job? ≠ some fetcher := fun heq => hne (Option.some.inj heq)
  have hnotJob : (Event.fetched fetcher outcome).job? ≠ some job :=
    fun heq => hne (Option.some.inj heq).symm
  have hturn : s.service.loader = some fetcher :=
    hs.inTurn.loader fetcher (isFetching_iff.2 ⟨purpose, hfetching⟩)
  -- the job stands in line from its beginning to the end
  have hbegun : (s.step (.load job)).stage? job =
      some (.inLine s.service.completedLoads .report) := stage?_step_load (hturn ▸ rfl)
  have hwaits : t.stage? job = some (.inLine s.service.completedLoads .report) :=
    (stage?_run_of_ne fun event hevent => (hduring event hevent).1).trans hbegun
  have hwaits : v.stage? job = some (.inLine s.service.completedLoads .report) :=
    (stage?_run_of_ne hlater).trans ((stage?_step_of_ne hnotJob).trans hwaits)
  -- the other job fetches until its fetch comes back, so nothing is completed until then
  have hbeside := (stage?_step_of_ne hnotFetcher).trans hfetching
  have hfetches : t.stage? fetcher = some (.fetching purpose) :=
    (stage?_run_of_ne fun event hevent => (hduring event hevent).2).trans hbeside
  have hnone : (s.step (.load job)).documents during = [] :=
    (hs.step _).inTurn.documents_eq_nil hbeside fun event hevent => (hduring event hevent).2
  obtain ⟨hreported, hanswered, hcompleted⟩ := stage?_step_fetched hfetches outcome
  have hseen : v.service.completedLoads = s.service.completedLoads +
      (if outcome.isOk then 1 else 0) + (u.documents later).length := by
    rw [completedLoads_run, hcompleted, completedLoads_run, hnone,
      (s.advances_step (.load job)).completed]
    rfl
  have hv : v.Reachable := (((hs.step _).run during).step _).run later
  refine ⟨((hs.step _).run during).inTurn.inFlight_eq hfetches, hreported, hanswered, ?_,
    hv.remembers job _ _ hwaits, fun hgo => ?_⟩
  · rw [isFetching, hwaits]
    rfl
  · rw [stage?_step_goOn hwaits hgo]
    by_cases hserved : outcome.isOk = true ∨ u.documents later ≠ []
    · have hmore : v.service.completedLoads ≠ s.service.completedLoads := by
        rcases hserved with hok | hlast
        · rw [hseen, if_pos hok]
          omega
        · have hpositive := List.length_pos_of_ne_nil hlast
          omega
      rw [if_pos hserved, if_neg hmore]
    · obtain ⟨hfailed, hlast⟩ := not_or.1 hserved
      have hsame : v.service.completedLoads = s.service.completedLoads := by
        rw [hseen, if_neg hfailed, not_not.1 hlast]
        rfl
      rw [if_neg hserved, if_pos hsame]

end System

/-- A service without definitions, for which somebody fetches. -/
def fetchingFirst : System :=
  (System.new (.new .trial ⟨0, 0⟩ 0) 30000).step (.load 1)

lemma fetchingFirst_reachable : fetchingFirst.Reachable :=
  (System.Reachable.new .trial ⟨0, 0⟩ 0).step _

/-- Two loads begin while somebody fetches. If that is completed, the first in line returns well. If
it fails, the first in line fetches again. -/
theorem load_beside_fetch_first :
    let during : List Event := [.load 3]
    let beside := fun outcome =>
      ((fetchingFirst.step (.load 2)).run during).step (.fetched 1 outcome)
    fetchingFirst.Reachable ∧ fetchingFirst.stage? 1 = some (.fetching .report) ∧
      ((beside (.ok ⟨[], ∅, ∅⟩)).step (.goOn 2)).stage? 2 = some (.loaded (.ok ())) ∧
      ((beside (.error (.status 500))).step (.goOn 2)).stage? 2 = some (.fetching .report) := by
  intro during beside
  have hfetching : fetchingFirst.stage? 1 = some (.fetching .report) := rfl
  have hduring : ∀ event ∈ during, event.job? ≠ some 2 ∧ event.job? ≠ some 1 := by decide
  have hbeside := System.load_beside_fetch fetchingFirst_reachable hfetching (by decide) hduring
    (fun event hevent => absurd hevent List.not_mem_nil)
  refine ⟨fetchingFirst_reachable, hfetching, ?_, ?_⟩
  · exact (hbeside (.ok ⟨[], ∅, ∅⟩)).2.2.2.2.2 rfl
  · exact (hbeside (.error (.status 500))).2.2.2.2.2 rfl

/-- A fetch that fails is not shared: a load that began beside it need not return with its
outcome. -/
theorem failed_fetch_not_shared :
    ¬∀ (s : System) (fetcher job : Nat) (outcome : Except Failure DefinitionsDocument),
      s.Reachable → s.isFetching fetcher = true → job ≠ fetcher →
      let t := (s.step (.load job)).step (.fetched fetcher outcome)
      t.service.loader = some job →
      (t.step (.goOn job)).isFetching job = false ∧
        (t.step (.goOn job)).stage? job = some (.loaded (outcome.map fun _ => ())) := by
  intro h
  have hshared := h fetchingFirst 1 2 (.error (.status 500)) fetchingFirst_reachable rfl (by decide)
    rfl
  exact absurd hshared.1 (by decide)

end FeatureFlags
