import FeatureFlags.Proofs.Answers
import FeatureFlags.Proofs.CacheHistory

/-!
# What a failed call leaves

A call that fails is recorded under the key of its context, also where flags are cached that have
not expired. The record takes the place of the flags, so the next query for that context has to ask
again. Nothing else is lost then: other contexts keep what is cached for them.
-/

namespace FeatureFlags

/-! ### Writing over an entry -/

namespace Cache

variable {c : Cache} {now : Nat} {k key : CacheKey} {result : CachedResult} {e : CacheEntry}

lemma lookupFlags_eq_some_iff {flags : ResolvedFlags} :
    (c.lookupFlags now k).1 = some flags ↔
      ∃ e, (c.lookup now k).1 = some e ∧ e.result.flags = some flags :=
  Option.bind_eq_some_iff

/-- What is found under a key after a write is what was written. -/
lemma result_of_lookup_write (hc : c.recent.Proper)
    (h : ((c.write now k result).lookup now k).1 = some e) : e.result = result := by
  have hmem := ((lookup_eq_some_iff (hc.insert _ _)).1 h).1
  rcases Recent.mem_insert hmem with heq | ⟨-, hne⟩
  · rw [(Prod.mk.inj heq).2]
  · exact absurd rfl hne

/-- Writing over an entry changes nothing under other keys. -/
lemma lookup_write_of_ne (hc : c.recent.Proper) (hold : (c.lookup now k).1 = some e)
    (hne : key ≠ k) : ((c.write now k result).lookup now key).1 = (c.lookup now key).1 := by
  -- the key has an entry already, so nothing is dropped to make room
  have hmem := ((lookup_eq_some_iff hc).1 hold).1
  have hwritten : (c.write now k result).recent.Proper := hc.insert _ _
  have hfind : (c.write now k result).recent.find? key = c.recent.find? key :=
    hc.find?_insert_of_ne hmem hne.symm
  ext found
  rw [lookup_eq_some_iff hwritten, lookup_eq_some_iff hc, ← hwritten.find?_eq_some_iff, hfind,
    hc.find?_eq_some_iff]

end Cache

/-! ### A call that fails -/

namespace System

variable {s : System} {job : Nat} {q : Query} {decided : ResolvedFlags}

lemma service_step_answered {answer : Except Failure FlagsResponse}
    (hstage : s.stage? job = some (.asking q decided)) :
    (s.step (.answered job answer)).service = (s.service.answered q decided answer).1 := by
  simp only [step, hstage]
  rfl

/-- After a failed call the query is answered with what was decided locally, and no flags are cached
for its context, but the failure alone. If anything was cached for the context, other contexts keep
what is cached for them. -/
theorem failed_call_forgets (hs : s.Reachable) (hstage : s.stage? job = some (.asking q decided))
    (e : Failure) :
    let t := s.step (.answered job (.error e))
    t.stage? job = some (.answered decided) ∧
      (t.service.cache.lookupFlags t.service.clock q.cacheKey).1 = none ∧
      (∀ entry, (t.service.cache.lookup t.service.clock q.cacheKey).1 = some entry →
        entry.result = { flags := none, error := some e.code }) ∧
      ∀ old, (s.service.cache.lookup s.service.clock q.cacheKey).1 = some old →
        ∀ key, key ≠ q.cacheKey → (t.service.cache.lookup t.service.clock key).1 =
          (s.service.cache.lookup s.service.clock key).1 := by
  intro t
  have hservice : t.service = (s.service.answered q decided (.error e)).1 :=
    service_step_answered hstage
  have hrecord : ∀ entry, (t.service.cache.lookup t.service.clock q.cacheKey).1 = some entry →
      entry.result = { flags := none, error := some e.code } := by
    rw [hservice]
    exact fun entry => Cache.result_of_lookup_write hs.proper
  refine ⟨stage?_step_answered hstage rfl, ?_, hrecord, ?_⟩
  · refine Option.eq_none_iff_forall_ne_some.2 fun flags hflags => ?_
    obtain ⟨entry, hentry, hsome⟩ := Cache.lookupFlags_eq_some_iff.1 hflags
    rw [hrecord entry hentry] at hsome
    cases hsome
  · intro old hold key hne
    rw [hservice]
    exact Cache.lookup_write_of_ne hs.proper hold hne

end System

/-- A service that asks the endpoint for everything. A flag is cached for two identities. For one
of them, a flag that is not cached is asked for. -/
def askingAgain : System :=
  (System.new (.new { Config.trial with localEvaluation := false } ⟨0, 0⟩ 0) 30000).run [
    .ask 1 ⟨"someone", .nothing, some "pro"⟩, .answered 1 (.ok proIsOff),
    .ask 2 ⟨"other", .nothing, some "pro"⟩, .answered 2 (.ok proIsOff),
    .ask 3 ⟨"someone", .nothing, some "beta"⟩]

lemma askingAgain_reachable : askingAgain.Reachable :=
  (System.Reachable.new { Config.trial with localEvaluation := false } ⟨0, 0⟩ 0).run _

/-- The call fails. One identity loses its flags, the other keeps them. -/
theorem failed_call_forgets_askingAgain :
    let flagsOf := fun (s : System) id =>
      (s.service.cache.lookupFlags s.service.clock (.of id .nothing)).1
    let t := askingAgain.step (.answered 3 (.error (.status 503)))
    askingAgain.Reachable ∧
      askingAgain.stage? 3 = some (.asking ⟨"someone", .nothing, some "beta"⟩ ∅) ∧
      flagsOf askingAgain "someone" = some proIsOff.flags ∧ flagsOf t "someone" = none ∧
      flagsOf askingAgain "other" = some proIsOff.flags ∧
      flagsOf t "other" = some proIsOff.flags := by
  intro flagsOf t
  have hstage : askingAgain.stage? 3 = some (.asking ⟨"someone", .nothing, some "beta"⟩ ∅) := rfl
  have hold : (askingAgain.service.cache.lookupFlags 0 (.of "someone" .nothing)).1 =
      some proIsOff.flags := by decide
  obtain ⟨old, hentry, -⟩ := Cache.lookupFlags_eq_some_iff.1 hold
  obtain ⟨-, hnone, -, hothers⟩ := System.failed_call_forgets askingAgain_reachable hstage
    (.status 503)
  have hother : flagsOf askingAgain "other" = some proIsOff.flags := by decide
  refine ⟨askingAgain_reachable, hstage, hold, hnone, hother, ?_⟩
  have hsame := hothers old hentry (.of "other" .nothing) (by decide)
  exact (congrArg (fun found => found.bind fun e => e.result.flags) hsame).trans hother

/-- A failed call can destroy flags that are cached and have not expired. -/
theorem failed_call_destroys :
    ¬∀ (s : System) (job : Nat) (q : Query) (decided flags : ResolvedFlags) (e : Failure),
      s.Reachable → s.stage? job = some (.asking q decided) →
      (s.service.cache.lookupFlags s.service.clock q.cacheKey).1 = some flags →
      let t := s.step (.answered job (.error e))
      (t.service.cache.lookupFlags t.service.clock q.cacheKey).1 = some flags := by
  intro h
  have hkept := h askingAgain 3 ⟨"someone", .nothing, some "beta"⟩ ∅ proIsOff.flags (.status 503)
    askingAgain_reachable rfl (by decide)
  revert hkept
  decide

end FeatureFlags
