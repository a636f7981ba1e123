import FeatureFlags.Proofs.CacheHistory
import FeatureFlags.Proofs.Loading
import FeatureFlags.Proofs.OneAndAll

/-!
# Where cached results come from

Every entry of the cache was written when a call of the endpoint came back. The call was made for
the identity and context that the key stands for. If it failed, the entry has its code and no flags.
If it went well, the entry has the flags of the response, but for those that were decided locally,
all by the definitions that were there when the call was made.
-/

namespace FeatureFlags

namespace Service

variable {s : Service} {q p : Query} {decided : ResolvedFlags} {key : String} {r : ResolvedFlag}

/-! ### What is decided before a call -/

/-- What is decided for a query, by the definitions that are there: the outcome of a flag, if it is
one that the query evaluates. -/
def decided? (s : Service) (q : Query) (key : String) : Option ResolvedFlag :=
  if s.evaluatesLocally = true ∧ (q.only = none ∨ q.only = some key) then do
    let d ← s.definitions
    let f ← d.flags.get? key
    outcome? d s.present q f
  else none

/-- Flags are those that are decided for a query. -/
def Decides (s : Service) (q : Query) (decided : ResolvedFlags) : Prop :=
  ∀ key, decided.get? key = s.decided? q key

lemma key_of_get?_decide {d : Definitions} {now : Calendar.Instant} {flags : List Flag}
    (h : (decide d now q flags).1.get? key = some r) : ∃ f ∈ flags, f.key = key := by
  rw [decide_eq] at h
  obtain ⟨f, hf, hr⟩ := List.mem_filterMap.1 (Dict.mem_of_get?_ofList h)
  obtain ⟨_, -, heq⟩ := Option.map_eq_some_iff.1 hr
  exact ⟨f, hf, congrArg Prod.fst heq⟩

/-- A query decides no flag but those that it evaluates. -/
lemma evaluates_of_get? {d : Definitions} (hd : s.definitions = some d) (hkeyed : d.Keyed)
    (h : (s.evaluateLocally q).1.get? key = some r) :
    q.Evaluates key ∧ ∃ f, d.flags.get? key = some f := by
  cases honly : q.only with
  | none =>
    simp only [evaluateLocally, hd, honly] at h
    obtain ⟨f, hf, hkey⟩ := key_of_get?_decide h
    exact ⟨.inl honly, f, hkeyed.mem_values_iff.1 ⟨hf, hkey⟩⟩
  | some only =>
    cases hf : d.flags.get? only with
    | none =>
      simp only [evaluateLocally, hd, honly, hf] at h
      cases h
    | some f =>
      simp only [evaluateLocally, hd, honly, hf] at h
      obtain ⟨g, hg, rfl⟩ := key_of_get?_decide h
      rw [List.mem_singleton.1 hg, hkeyed only f hf]
      exact ⟨.inr honly, f, hf⟩

lemma decides_evaluateLocally (hkeyed : ∀ d ∈ s.definitions, d.Keyed)
    (hlocal : s.evaluatesLocally = true) : s.Decides q (s.evaluateLocally q).1 := by
  intro key
  cases hd : s.definitions with
  | none => simp [evaluateLocally, decided?, hd]
  | some d =>
    have hkeyed := hkeyed d hd
    by_cases hevaluates : q.Evaluates key ∧ ∃ f, d.flags.get? key = some f
    · obtain ⟨hq, f, hf⟩ := hevaluates
      rw [(get?_evaluateLocally hd hkeyed hf hq).1, decided?, if_pos ⟨hlocal, hq⟩, hd]
      simp [hf]
    · have hnone : (s.evaluateLocally q).1.get? key = none :=
        Option.eq_none_iff_forall_ne_some.2 fun r hr => hevaluates (evaluates_of_get? hd hkeyed hr)
      rw [hnone, decided?]
      split
      · rename_i hq
        cases hf : d.flags.get? key with
        | none => simp [hd, hf]
        | some f => exact absurd ⟨hq.2, f, hf⟩ hevaluates
      · rfl

/-- A query that turns to the endpoint has decided what it can. -/
lemma decides_of_proceed (hkeyed : ∀ d ∈ s.definitions, d.Keyed)
    (h : s.proceed p = .asking q decided) : p = q ∧ s.Decides q decided := by
  cases hlocal : s.evaluatesLocally with
  | false =>
    simp only [proceed, hlocal, Bool.false_eq_true, if_false, if_true] at h
    obtain ⟨rfl, rfl⟩ := Stage.asking.inj h
    exact ⟨rfl, fun key => by simp [decided?, hlocal]⟩
  | true =>
    simp only [proceed, hlocal, if_true] at h
    split at h
    · obtain ⟨rfl, rfl⟩ := Stage.asking.inj h
      exact ⟨rfl, decides_evaluateLocally hkeyed hlocal⟩
    · cases h

lemma proceed_of_ask {job : Nat} (h : (s.ask job p).2 = .asking q decided) :
    (s.ask job p).1.proceed p = .asking q decided := by
  revert h
  simp only [ask]
  split
  · intro h
    cases h
  · split
    · exact id
    · intro h
      have hloading := isLoading_load { s with
        cache := (s.cache.lookupFlags s.clock p.cacheKey).2, firstUseTried := true } job (.answer p)
      rw [h] at hloading
      cases hloading

end Service

namespace System

variable {s first : System} {event : Event} {job : Nat} {next : Service × Stage} {q : Query}
  {decided : ResolvedFlags}

/-! ### When a call is made -/

/-- A job that has been brought on to a call has decided what it can by then. -/
lemma Move.decides (h : s.Move event job next) (hkeyed : ∀ d ∈ next.1.definitions, d.Keyed)
    (hstage : next.2 = .asking q decided) : next.1.Decides q decided := by
  -- a job asks the endpoint only where it goes on with a query
  have hafter {service : Service} {outcome : Except Failure Unit} {purpose : Purpose}
      (hkeyed : ∀ d ∈ service.definitions, d.Keyed)
      (hstage : service.afterLoad outcome purpose = .asking q decided) :
      service.Decides q decided := by
    cases purpose with
    | report => cases hstage
    | answer p => exact (Service.decides_of_proceed hkeyed hstage).2
  cases h with
  | ask job p => exact (Service.decides_of_proceed hkeyed (Service.proceed_of_ask hstage)).2
  | load | tick =>
    have hloading := Service.isLoading_load s.service job .report
    rw [hstage] at hloading
    cases hloading
  | @goOn job seen purpose _ _ =>
    by_cases h : s.service.completedLoads = seen
    · rw [Service.granted_of_eq h] at hstage
      cases hstage
    · rw [Service.granted_of_ne h] at hstage hkeyed ⊢
      exact hafter hkeyed hstage
  | fetched outcome =>
    cases outcome with
    | ok document => exact hafter hkeyed hstage
    | error e => exact hafter hkeyed hstage
  | answered outcome =>
    cases outcome with
    | ok response => cases hstage
    | error e => cases hstage

/-- Definitions that a run comes to were made of a document. -/
lemma keyed_run (config : Config) (present : Calendar.Instant) (clock interval : Nat)
    (events : List Event) :
    ∀ d ∈ ((new (.new config present clock) interval).run events).service.definitions,
      d.Keyed := by
  intro d hd
  rw [definitions_run] at hd
  change (Option.map _ _).or none = some d at hd
  rw [Option.or_none] at hd
  obtain ⟨document, -, rfl⟩ := Option.map_eq_some_iff.1 hd
  exact Definitions.keyed_ofDocument document

/-- A call of the endpoint in a run: what happened before the query turned to the endpoint, the
event at which it did, what happened until the endpoint answered, and the answer. -/
structure Call where
  before : List Event
  start : Event
  meanwhile : List Event
  job : Nat
  query : Query
  decided : ResolvedFlags
  outcome : Except Failure FlagsResponse

namespace Call

/-- The state in which a call is made. -/
def state (first : System) (c : Call) : System := (first.run c.before).step c.start

/-- The request of a call. -/
def request (first : System) (c : Call) : FlagsRequest :=
  (c.state first).service.request c.query

/-- All that happens until a call comes back. -/
def events (c : Call) : List Event :=
  c.before ++ c.start :: c.meanwhile ++ [.answered c.job c.outcome]

/-- The state in which the answer to a call comes. -/
def last (first : System) (c : Call) : System := (c.state first).run c.meanwhile

/-- The job waits for the endpoint from the start of a call to its end, and the flags that it has
decided are decided by the definitions of the start. -/
structure IsMade (first : System) (c : Call) : Prop where
  asks : ∀ part, part <+: c.meanwhile →
    ((c.state first).run part).stage? c.job = some (.asking c.query c.decided)
  decides : (c.state first).service.Decides c.query c.decided

lemma run_eq (first : System) (c : Call) :
    first.run (c.before ++ c.start :: c.meanwhile) = c.last first := run_append _ _ _

/-- A call goes on while its job waits for the endpoint. -/
lemma IsMade.goOn {c : Call} (h : c.IsMade first)
    (hstage : ((c.last first).step event).stage? c.job = some (.asking c.query c.decided)) :
    Call.IsMade first { c with meanwhile := c.meanwhile ++ [event] } where
  asks part hpart := by
    rcases List.prefix_concat_iff.1 hpart with rfl | hpart
    · rw [run_append]
      exact hstage
    · exact h.asks part hpart
  decides := h.decides

end Call

/-- Who waits for the endpoint has made a call. -/
lemma exists_call {config : Config} {present : Calendar.Instant} {clock interval : Nat}
    {events : List Event} :
    let first := new (.new config present clock) interval
    (first.run events).stage? job = some (.asking q decided) →
    ∀ outcome, ∃ before start meanwhile, events = before ++ start :: meanwhile ∧
      Call.IsMade first ⟨before, start, meanwhile, job, q, decided, outcome⟩ := by
  intro first hstage outcome
  induction events using List.reverseRecOn with
  | nil => cases hstage
  | append_singleton events event ih =>
    have hkeyed := keyed_run config present clock interval (events ++ [event])
    rw [run_append] at hstage hkeyed
    -- a job that was at this stage already goes on with its call
    have hgoOn (hbefore : (first.run events).stage? job = some (.asking q decided)) :
        ∃ before start meanwhile, events ++ [event] = before ++ start :: meanwhile ∧
          Call.IsMade first ⟨before, start, meanwhile, job, q, decided, outcome⟩ := by
      obtain ⟨before, start, meanwhile, rfl, hmade⟩ := ih hbefore
      refine ⟨before, start, meanwhile ++ [event], by simp, hmade.goOn ?_⟩
      rw [← Call.run_eq]
      exact hstage
    cases (first.run events).step_turn event with
    | @moved _ other next _ hmove hservice hjobs =>
      rcases stage?_of_moved hjobs job with ⟨rfl, hmoved⟩ | ⟨-, hsame⟩
      · refine ⟨events, event, [], rfl, fun part hpart => ?_, ?_⟩
        · rw [List.prefix_nil.1 hpart]
          exact hstage
        · have hnext := Option.some.inj (hmoved.symm.trans hstage)
          have hdecides := hmove.decides (hservice ▸ hkeyed) hnext
          rw [← hservice] at hdecides
          exact hdecides
      · exact hgoOn (hsame.symm.trans hstage)
    | aborted _ hjobs => exact hgoOn (stage?_of_dropped hjobs hstage).2
    | aside _ _ hjobs => exact hgoOn (stage?_of_aside hjobs hstage)

/-! ### What a call leaves -/

/-- The result that an answer leaves in the cache. -/
def recorded (s : Service) (decided : ResolvedFlags) :
    Except Failure FlagsResponse → CachedResult
  | .ok response => {
      flags := some (response.flags.union decided)
      requestId := response.requestId
      evaluatedAt := some s.clock
      error := if response.hasErrors then some errorsWhileComputing else none }
  | .error e => { flags := none, error := some e.code }

/-- An entry was there before, or the answer to a call has left it. -/
lemma entries_step {key : CacheKey} {e : CacheEntry}
    (h : (key, e) ∈ (s.step event).service.cache.recent.entries) :
    (key, e) ∈ s.service.cache.recent.entries ∨
      ∃ job q decided outcome, event = .answered job outcome ∧
        s.stage? job = some (.asking q decided) ∧ key = q.cacheKey ∧
        e.result = recorded s.service decided outcome := by
  obtain ⟨t, hchange, happart⟩ := s.step_change event
  rw [Service.cache_eq_of_apart happart] at h
  -- looking up and expiry only take entries away
  cases hchange with
  | loading | defined | clockSet => exact .inl h
  | lookedUp _ k => exact .inl (Recent.mem_keep.1 (Recent.mem_use h)).1
  | cleared => cases h
  | @answered job q decided outcome hstage =>
    have hcache : (s.service.answered q decided outcome).1.cache =
        s.service.cache.write s.service.clock q.cacheKey (recorded s.service decided outcome) := by
      cases outcome with
      | ok response => rfl
      | error e => rfl
    rw [hcache] at h
    rcases Recent.mem_insert h with heq | ⟨hmem, -⟩
    · obtain ⟨rfl, rfl⟩ := Prod.mk.inj heq
      exact .inr ⟨job, q, decided, outcome, rfl, hstage, rfl, rfl⟩
    · exact .inl hmem

/-- An entry is what a call leaves under the key of its request: its code if it failed, and
otherwise the flags of the response, but for those that were decided before. -/
structure Call.Leaves (first : System) (c : Call) (key : CacheKey) (e : CacheEntry) : Prop where
  key : key = .of (c.request first).distinctId (c.request first).context
  failed : ∀ failure, c.outcome = .error failure →
    e.result = { flags := none, error := some failure.code }
  succeeded : ∀ response, c.outcome = .ok response → ∃ flags, e.result = {
      flags := some flags
      requestId := response.requestId
      evaluatedAt := some (c.last first).service.clock
      error := if response.hasErrors then some errorsWhileComputing else none } ∧
    ∀ name, flags.get? name =
      ((c.state first).service.decided? c.query name).or (response.flags.get? name)

lemma Call.IsMade.leaves {c : Call} (h : c.IsMade first) {e : CacheEntry}
    (hresult : e.result = recorded (c.last first).service c.decided c.outcome) :
    c.Leaves first c.query.cacheKey e where
  key := rfl
  failed failure hfailed := by
    rw [hresult, hfailed]
    rfl
  succeeded response hok := by
    refine ⟨response.flags.union c.decided, ?_, fun name => ?_⟩
    · rw [hresult, hok]
      rfl
    · rw [Dict.get?_union, h.decides name]

/-- An entry that was not there after some events was left by a call whose answer has come since. -/
lemma exists_call_since {config : Config} {present : Calendar.Instant} {clock interval : Nat}
    (early later : List Event) {key : CacheKey} {e : CacheEntry} :
    let first := new (.new config present clock) interval
    (key, e) ∉ (first.run early).service.cache.recent.entries →
    (key, e) ∈ (first.run (early ++ later)).service.cache.recent.entries →
    ∃ (c : Call) (after : List Event), early ++ later = c.events ++ after ∧
      early.length < c.events.length ∧ c.IsMade first ∧ c.Leaves first key e := by
  intro first hnot h
  -- from the last event back: it has written the entry, or the entry was there before it
  induction later using List.reverseRecOn with
  | nil =>
    rw [List.append_nil] at h
    exact absurd h hnot
  | append_singleton later event ih =>
    rw [← List.append_assoc, run_append] at h
    rcases entries_step h with hbefore | ⟨job, q, decided, outcome, rfl, hstage, rfl, hresult⟩
    · obtain ⟨c, after, hevents, hsince, hcall⟩ := ih hbefore
      refine ⟨c, after ++ [event], ?_, hsince, hcall⟩
      rw [← List.append_assoc, hevents, List.append_assoc]
    · obtain ⟨before, start, meanwhile, hevents, hmade⟩ := exists_call hstage outcome
      rw [hevents, Call.run_eq first ⟨before, start, meanwhile, job, q, decided, outcome⟩]
        at hresult
      refine ⟨_, [], ?_, ?_, hmade, hmade.leaves hresult⟩
      · rw [← List.append_assoc, hevents, List.append_nil]
        rfl
      · rw [Call.events, ← hevents, List.length_append, List.length_append]
        exact Nat.lt_succ_of_le (Nat.le_add_right _ _)

lemma exists_call_of_mem {config : Config} {present : Calendar.Instant} {clock interval : Nat}
    {events : List Event} {key : CacheKey} {e : CacheEntry} :
    let first := new (.new config present clock) interval
    (key, e) ∈ (first.run events).service.cache.recent.entries →
    ∃ (c : Call) (after : List Event), events = c.events ++ after ∧ c.IsMade first ∧
      c.Leaves first key e := by
  intro first h
  obtain ⟨c, after, hevents, -, hcall⟩ :=
    exists_call_since [] events List.not_mem_nil h
  exact ⟨c, after, hevents, hcall⟩

/-- Every entry of the cache was left by one call of the endpoint, under the key of the identity and
context that the call was made for. Only the answer to a call writes an entry. -/
theorem entries_stem_from_calls (config : Config) (present : Calendar.Instant)
    (clock interval : Nat) (events : List Event) :
    let first := System.new (.new config present clock) interval
    let s := first.run events
    (∀ key e, (key, e) ∈ s.service.cache.recent.entries →
      ∃ (c : Call) (after : List Event), events = c.events ++ after ∧ c.IsMade first ∧
        c.Leaves first key e) ∧
      ∀ event, (∀ job q decided, s.stage? job = some (.asking q decided) →
          ∀ outcome, event ≠ .answered job outcome) →
        ∀ entry ∈ (s.step event).service.cache.recent.entries,
          entry ∈ s.service.cache.recent.entries := by
  intro first s
  refine ⟨fun key e => exists_call_of_mem, fun event hother entry hentry => ?_⟩
  rcases entries_step hentry with hbefore | ⟨job, q, decided, outcome, hevent, hstage, -⟩
  · exact hbefore
  · exact absurd hevent (hother job q decided hstage outcome)

end System

/-- One of two flags is decided, and the other is asked for. Other definitions come before the
answer. -/
def reloading : List Event := [
  .load 0, .fetched 0 (.ok twoFlags), .ask 1 ⟨"someone", .nothing, none⟩,
  .load 2, .fetched 2 (.ok ⟨[], ∅, ∅⟩), .answered 1 (.ok proIsOff)]

/-- What comes of it. -/
def reloaded : System := (System.new (.new .trial ⟨0, 0⟩ 0) 30000).run reloading

/-- Both flags are cached, one as it was decided before the other definitions came. They answer the
next query, which writes nothing. -/
theorem entries_stem_from_calls_reloading :
    let key := CacheKey.of "someone" .nothing
    let first := System.new (.new .trial ⟨0, 0⟩ 0) 30000
    let next := reloaded.step (.ask 3 ⟨"someone", .nothing, some "pro"⟩)
    ∃ e, (key, e) ∈ reloaded.service.cache.recent.entries ∧
      e.result.flags.map Dict.keys = some ["beta", "pro"] ∧
      (∃ (c : System.Call) (after : List Event), reloading = c.events ++ after ∧
        c.IsMade first ∧ c.Leaves first key e) ∧
      ∀ entry ∈ next.service.cache.recent.entries,
        entry ∈ reloaded.service.cache.recent.entries := by
  intro key first next
  have hfound : ((reloaded.service.cache.recent.find? (.of "someone" .nothing)).bind fun e =>
      e.result.flags.map Dict.keys) = some ["beta", "pro"] := by decide
  obtain ⟨e, he, hkeys⟩ := Option.bind_eq_some_iff.1 hfound
  have hmem : (key, e) ∈ reloaded.service.cache.recent.entries := Recent.mem_of_find? he
  obtain ⟨hcalls, hothers⟩ := System.entries_stem_from_calls .trial ⟨0, 0⟩ 0 30000 reloading
  refine ⟨e, hmem, hkeys, hcalls key e hmem, hothers _ fun job q decided _ outcome heq => ?_⟩
  cases heq

end FeatureFlags
