import FeatureFlags.Proofs.Answers
import FeatureFlags.Proofs.Termination

/-!
# One flag and all flags

A query for one flag and a query for all flags of an identity agree on the flag, unless the cache
holds flags of the identity and the flag is not among them. Those answer the query for all flags as
they stand. They do not answer the query for the flag, which goes on as if nothing were cached.
-/

namespace FeatureFlags

namespace System

variable {s : System} {d : Definitions} {key : String} {f : Flag}

/-- Where no cohort leads back to itself, all evaluations end, and so do both queries. A query for
one flag agrees with a query for all, if the flags in the cache for the identity, where there are
any, include the flag. If they do not, the query for all gives the flags in the cache, and the query
for one agrees with what a query for all would give if nothing were cached. -/
theorem one_agrees_with_all (hs : s.Reachable) (hlocal : s.service.evaluatesLocally = true)
    (hd : s.service.definitions = some d) (hcohorts : d.rules.CohortsAcyclic)
    (hf : d.flags.get? key = some f) (job : Nat) (distinctId : String) (context : Context)
    (answer : Except Failure FlagsResponse) :
    let found := (s.service.cache.lookupFlags s.service.clock (.of distinctId context)).1
    (∀ g, d.Ends s.service.present distinctId context g) ∧
    ∃ one all uncached : ResolvedFlags,
      s.resolve? job ⟨distinctId, context, some key⟩ answer = some one ∧
      s.resolve? job ⟨distinctId, context, none⟩ answer = some all ∧
      (s.step .clear).resolve? job ⟨distinctId, context, none⟩ answer = some uncached ∧
      ((∀ cached, found = some cached → cached.contains key = true) →
        one.get? key = all.get? key) ∧
      ∀ cached, found = some cached → cached.contains key = false →
        all = cached ∧ one.get? key = uncached.get? key := by
  intro found
  refine ⟨hcohorts.definitions_ends _ _ _, ?_⟩
  obtain ⟨document, rfl⟩ := hs.definitions hd
  have hkeyed := Definitions.keyed_ofDocument document
  have hsome : s.service.definitions.isSome = true := by rw [hd, Option.isSome_some]
  -- what the two queries come to if the cache does not answer them
  obtain ⟨one, hone, hgetOne⟩ := Service.exists_flags?_proceed
    (q := ⟨distinctId, context, some key⟩) hlocal hd hkeyed hf (.inr rfl) answer
  obtain ⟨all, hall, hgetAll⟩ := Service.exists_flags?_proceed
    (q := ⟨distinctId, context, none⟩) hlocal hd hkeyed hf (.inl rfl) answer
  have hagree : one.get? key = all.get? key := hgetOne.trans hgetAll.symm
  have hcleared : (s.step .clear).resolve? job ⟨distinctId, context, none⟩ answer = some all :=
    resolve?_of_not_covered hsome rfl hall
  cases hfound : found with
  | none =>
    have hopen : ∀ only,
        found.filter (Query.isCoveredBy ⟨distinctId, context, only⟩) = none := by simp [hfound]
    exact ⟨one, all, all, resolve?_of_not_covered hsome (hopen _) hone,
      resolve?_of_not_covered hsome (hopen _) hall, hcleared, fun _ => hagree, fun _ h => nomatch h⟩
  | some cached =>
    have hallCached : s.resolve? job ⟨distinctId, context, none⟩ answer = some cached :=
      resolve?_of_covered hfound rfl
    cases hkey : cached.contains key with
    | true =>
      have honeCached : s.resolve? job ⟨distinctId, context, some key⟩ answer = some cached :=
        resolve?_of_covered hfound hkey
      refine ⟨cached, cached, all, honeCached, hallCached, hcleared, fun _ => rfl,
        fun c hc hnot => ?_⟩
      rw [← Option.some.inj hc, hkey] at hnot
      cases hnot
    | false =>
      have hopen : found.filter (Query.isCoveredBy ⟨distinctId, context, some key⟩) = none := by
        simp [hfound, Query.isCoveredBy, hkey]
      refine ⟨one, cached, all, resolve?_of_not_covered hsome hopen hone, hallCached, hcleared,
        fun hcovers => ?_, fun c hc _ => ⟨Option.some.inj hc, hagree⟩⟩
      rw [hcovers cached rfl] at hkey
      cases hkey

end System

/-! ### A flag that the cached flags lack -/

/-- A flag for everyone. -/
def betaFlag : Flag := .ofGroups "beta" [.ofConditions []]

/-- A flag that takes a property, and one for everyone. -/
def twoFlags : DefinitionsDocument where
  flags := [.ofGroups "pro" [.ofConditions [.onProperty "plan"]], betaFlag]
  groupTypes := ∅
  cohorts := ∅

lemma twoFlags_cohortsAcyclic : (Definitions.ofDocument twoFlags).rules.CohortsAcyclic :=
  Rules.cohortsAcyclic_empty _

/-- A service with two flags, one of which was asked for and is cached. -/
def halfCached : System :=
  (System.new (.new .trial ⟨0, 0⟩ 0) 30000).run [
    .load 0, .fetched 0 (.ok twoFlags),
    .ask 1 ⟨"someone", .nothing, some "pro"⟩, .answered 1 (.ok proIsOff)]

lemma halfCached_reachable : halfCached.Reachable :=
  (System.Reachable.new .trial ⟨0, 0⟩ 0).run _

/-- For one identity nothing is cached, and both queries evaluate the flag. For another a flag is
cached, and the query for all flags gives that one alone. -/
theorem one_agrees_with_all_halfCached :
    let one : String → Query := fun id => ⟨id, .nothing, some "beta"⟩
    let all : String → Query := fun id => ⟨id, .nothing, none⟩
    halfCached.Reachable ∧ halfCached.service.evaluatesLocally = true ∧
      halfCached.service.definitions = some (.ofDocument twoFlags) ∧
      (Definitions.ofDocument twoFlags).rules.CohortsAcyclic ∧
      (Definitions.ofDocument twoFlags).flags.get? "beta" = some betaFlag ∧
      (∃ a b, halfCached.resolve? 2 (one "other") (.ok proIsOff) = some a ∧
        halfCached.resolve? 2 (all "other") (.ok proIsOff) = some b ∧
        a.get? "beta" = b.get? "beta" ∧ b.keys = ["beta", "pro"]) ∧
      ∃ a b, halfCached.resolve? 2 (one "someone") (.ok proIsOff) = some a ∧
        halfCached.resolve? 2 (all "someone") (.ok proIsOff) = some proIsOff.flags ∧
        (halfCached.step .clear).resolve? 2 (all "someone") (.ok proIsOff) = some b ∧
        a.get? "beta" = b.get? "beta" ∧ b.keys = ["beta", "pro"] := by
  intro one all
  have hf : (Definitions.ofDocument twoFlags).flags.get? "beta" = some betaFlag := by decide
  refine ⟨halfCached_reachable, rfl, rfl, twoFlags_cohortsAcyclic, hf, ?_, ?_⟩
  · obtain ⟨-, a, b, -, ha, hb, -, hagree, -⟩ := System.one_agrees_with_all halfCached_reachable rfl
      rfl twoFlags_cohortsAcyclic hf 2 "other" .nothing (.ok proIsOff)
    have hnothing : (halfCached.service.cache.lookupFlags 0 (.of "other" .nothing)).1 = none := by
      decide
    have hkeys : (halfCached.resolve? 2 (all "other") (.ok proIsOff)).map Dict.keys =
        some ["beta", "pro"] := by decide
    refine ⟨a, b, ha, hb, hagree fun c hc => ?_, ?_⟩
    · cases hnothing.symm.trans hc
    · rw [hb] at hkeys
      exact Option.some.inj hkeys
  · obtain ⟨-, a, b, c, ha, hb, hc, -, hlacks⟩ := System.one_agrees_with_all halfCached_reachable
      rfl rfl twoFlags_cohortsAcyclic hf 2 "someone" .nothing (.ok proIsOff)
    obtain ⟨rfl, hagree⟩ := hlacks proIsOff.flags (by decide) (by decide)
    have hkeys : ((halfCached.step .clear).resolve? 2 (all "someone") (.ok proIsOff)).map
        Dict.keys = some ["beta", "pro"] := by decide
    rw [hc] at hkeys
    exact ⟨a, c, ha, hb, hc, hagree, Option.some.inj hkeys⟩

/-- A query for one flag need not agree with a query for all if the cached flags lack the flag. -/
theorem one_disagrees_with_all :
    ¬∀ (s : System) (d : Definitions) (key : String) (f : Flag) (job : Nat) (distinctId : String)
      (context : Context) (answer : Except Failure FlagsResponse),
      s.Reachable → s.service.evaluatesLocally = true → s.service.definitions = some d →
      d.rules.CohortsAcyclic → d.flags.get? key = some f →
      (s.resolve? job ⟨distinctId, context, some key⟩ answer).map (fun flags => flags.get? key) =
        (s.resolve? job ⟨distinctId, context, none⟩ answer).map (fun flags => flags.get? key) := by
  intro h
  have heq := h halfCached (.ofDocument twoFlags) "beta" betaFlag 2 "someone" .nothing
    (.ok proIsOff) halfCached_reachable rfl rfl twoFlags_cohortsAcyclic (by decide)
  revert heq
  decide

end FeatureFlags
