import FeatureFlags.Proofs.QueryCalls
import FeatureFlags.Proofs.EntryOrigin
import FeatureFlags.Proofs.FailedCall

/-!
# Answers from the cache after it was cleared

What answers a query from the cache has come since the cache was cleared last. It need not have been
asked for since: a call that is in flight when the cache is cleared leaves its result there when it
comes back.
-/

namespace FeatureFlags

/-! ### What answers from the cache -/

/-- Flags that answer a query from the cache are those of an entry under its key. -/
lemma Service.exists_entry_of_cached {s : Service} {q : Query} {flags : ResolvedFlags}
    (h : s.cached? q = some flags) :
    ∃ e, (q.cacheKey, e) ∈ s.cache.recent.entries ∧ e.result.flags = some flags := by
  obtain ⟨hfound, -⟩ := Option.filter_eq_some_iff.1 h
  obtain ⟨e, he, hflags⟩ := Cache.lookupFlags_eq_some_iff.1 hfound
  rw [Cache.lookup_fst] at he
  exact ⟨e, (Cache.mem_fresh.1 (Recent.mem_of_find? he)).1, hflags⟩

namespace System

/-! ### Calls that were made before some point -/

/-- What has happened before a call comes back is part of what leads to its answer. -/
lemma Call.prefix_of_lt {c : Call} {early later after : List Event}
    (hevents : early ++ later = c.events ++ after) (hsince : early.length < c.events.length) :
    early <+: c.before ++ c.start :: c.meanwhile := by
  refine List.prefix_of_prefix_length_le ⟨later, rfl⟩ ⟨.answered c.job c.outcome :: after, ?_⟩
    (Nat.le_of_lt_succ (hsince.trans_eq List.length_append))
  rw [hevents, Call.events, List.append_assoc _ [_] after]
  rfl

/-- Whatever happens of a call up to some point, its job waits for the endpoint at that point. -/
lemma Call.IsMade.stage?_run {first : System} {c : Call} {events : List Event} (h : c.IsMade first)
    (hpart : events <+: c.before ++ c.start :: c.meanwhile)
    (hmade : c.before.length < events.length) :
    (first.run events).stage? c.job = some (.asking c.query c.decided) := by
  have hstart : c.before ++ [c.start] <+: c.before ++ c.start :: c.meanwhile :=
    ⟨c.meanwhile, List.append_assoc _ _ _⟩
  have hlength : (c.before ++ [c.start]).length ≤ events.length := by
    rw [List.length_append, List.length_singleton]
    exact hmade
  obtain ⟨part, rfl⟩ := List.prefix_of_prefix_length_le hstart hpart hlength
  have hmeanwhile : part <+: c.meanwhile := by
    simpa [List.prefix_append_right_inj] using hpart
  have hrun : first.run (c.before ++ [c.start] ++ part) = (c.state first).run part := by
    rw [run_append, run_append]
    rfl
  rw [hrun]
  exact h.asks part hmeanwhile

/-- A call that comes back after some point was made after it, or it is in flight there. -/
lemma Call.IsMade.since_or_inFlight {first : System} {c : Call} {events : List Event}
    (h : c.IsMade first) (hpart : events <+: c.before ++ c.start :: c.meanwhile) :
    events <+: c.before ∨ (first.run events).stage? c.job = some (.asking c.query c.decided) := by
  rcases Nat.lt_or_ge c.before.length events.length with hmade | hlength
  · exact .inr (h.stage?_run hpart hmade)
  · exact .inl (List.prefix_of_prefix_length_le hpart (List.prefix_append _ _) hlength)

/-! ### A clear, and a query after it -/

/-- A query that is answered from the cache is answered with what a call has left there since the
cache was cleared. The call was made since then, or it was in flight when the cache was cleared. -/
theorem answered_since_clear (config : Config) (present : Calendar.Instant)
    (clock interval : Nat) (early later : List Event) (job : Nat) {q : Query}
    {flags : ResolvedFlags} :
    let first := System.new (.new config present clock) interval
    let s := first.run (early ++ .clear :: later)
    s.service.cached? q = some flags →
    (s.step (.ask job q)).stage? job = some (.answered flags) ∧
      ∃ (c : Call) (after : List Event) (e : CacheEntry),
        early ++ .clear :: later = c.events ++ after ∧ c.IsMade first ∧
        c.Leaves first q.cacheKey e ∧ e.result.flags = some flags ∧
        early ++ [.clear] <+: c.before ++ c.start :: c.meanwhile ∧
        (early ++ [.clear] <+: c.before ∨
          (first.run early).stage? c.job = some (.asking c.query c.decided)) := by
  intro first s hcached
  have hanswered : (s.step (.ask job q)).stage? job = some (.answered flags) := by
    rw [step, stage?_update, Service.ask_of_cached hcached]
  refine ⟨hanswered, ?_⟩
  have hsplit : early ++ .clear :: later = early ++ [.clear] ++ later :=
    (List.append_assoc early [.clear] later).symm
  have hcleared : first.run (early ++ [.clear]) = (first.run early).step .clear :=
    run_append first early [.clear]
  have hempty : (first.run (early ++ [.clear])).service.cache.recent.entries = [] := by
    rw [hcleared]
    rfl
  obtain ⟨e, hentry, hflags⟩ := Service.exists_entry_of_cached hcached
  have hnot : (q.cacheKey, e) ∉ (first.run (early ++ [.clear])).service.cache.recent.entries :=
    hempty ▸ List.not_mem_nil
  have hmem : (q.cacheKey, e) ∈
      (first.run (early ++ [.clear] ++ later)).service.cache.recent.entries := hsplit ▸ hentry
  obtain ⟨c, after, hevents, hsince, hmade, hleaves⟩ := exists_call_since _ _ hnot hmem
  -- the answer to the call is no part of what has happened until the cache was cleared
  have hpart : early ++ [.clear] <+: c.before ++ c.start :: c.meanwhile :=
    Call.prefix_of_lt hevents hsince
  refine ⟨c, after, e, hsplit.trans hevents, hmade, hleaves, hflags, hpart, ?_⟩
  refine (hmade.since_or_inFlight hpart).imp_right fun hinFlight => ?_
  have hstays : (first.run (early ++ [.clear])).stage? c.job = (first.run early).stage? c.job := by
    rw [hcleared]
    rfl
  exact hstays.symm.trans hinFlight

end System

/-- A service that asks the endpoint for everything. One identity has an answer, another has asked,
and the cache is cleared. Then the other has its answer. -/
def clearedBetween : System :=
  (System.new (.new { Config.trial with localEvaluation := false } ⟨0, 0⟩ 0) 30000).run [
    .ask 1 ⟨"other", .nothing, some "pro"⟩, .answered 1 (.ok proIsOff),
    .ask 2 ⟨"someone", .nothing, some "pro"⟩, .clear, .answered 2 (.ok proIsOff)]

/-- What was in flight answers from the cache, and what had come is gone. -/
theorem answered_since_clear_between :
    let q : Query := ⟨"someone", .nothing, some "pro"⟩
    let first := System.new (.new { Config.trial with localEvaluation := false } ⟨0, 0⟩ 0) 30000
    let early := [.ask 1 ⟨"other", .nothing, some "pro"⟩, .answered 1 (.ok proIsOff), .ask 2 q]
    clearedBetween.service.cached? ⟨"other", .nothing, some "pro"⟩ = none ∧
      clearedBetween.service.cached? q = some proIsOff.flags ∧
      (clearedBetween.step (.ask 3 q)).stage? 3 = some (.answered proIsOff.flags) ∧
      ∃ (c : System.Call) (after : List Event) (e : CacheEntry),
        early ++ [.clear, .answered 2 (.ok proIsOff)] = c.events ++ after ∧ c.IsMade first ∧
        c.Leaves first q.cacheKey e ∧ e.result.flags = some proIsOff.flags ∧
        early ++ [.clear] <+: c.before ++ c.start :: c.meanwhile ∧
        (early ++ [.clear] <+: c.before ∨
          (first.run early).stage? c.job = some (.asking c.query c.decided)) := by
  intro q first early
  have hcached : clearedBetween.service.cached? q = some proIsOff.flags := by decide
  have hsince := System.answered_since_clear { Config.trial with localEvaluation := false } ⟨0, 0⟩ 0
    30000 early [.answered 2 (.ok proIsOff)] 3 hcached
  exact ⟨by decide, hcached, hsince⟩

/-- A query can be answered from the cache with the result of a call that was made before the cache
was cleared. -/
theorem answered_by_earlier_call :
    ¬∀ (config : Config) (present : Calendar.Instant) (clock interval : Nat)
      (early later : List Event) (q : Query) (flags : ResolvedFlags),
      let first := System.new (.new config present clock) interval
      (first.run (early ++ .clear :: later)).service.cached? q = some flags →
      ∃ (c : System.Call) (after : List Event) (e : CacheEntry),
        early ++ .clear :: later = c.events ++ after ∧ c.IsMade first ∧
        c.Leaves first q.cacheKey e ∧ e.result.flags = some flags ∧
        early ++ [.clear] <+: c.before := by
  intro h
  let q : Query := ⟨"someone", .nothing, some "pro"⟩
  obtain ⟨c, after, -, hevents, -, -, -, hsince⟩ :=
    h { Config.trial with localEvaluation := false } ⟨0, 0⟩ 0 30000 [.ask 1 q]
      [.answered 1 (.ok proIsOff)] q proIsOff.flags (by decide)
  -- there is no room for a call after the two events
  have hlength := congrArg List.length hevents
  have hbefore := hsince.length_le
  simp only [System.Call.events, List.length_append, List.length_cons, List.length_nil]
    at hlength hbefore
  omega

end FeatureFlags
