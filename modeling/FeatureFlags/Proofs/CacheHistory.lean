import FeatureFlags.Cache.Basic
import FeatureFlags.Proofs.Recency

/-!
# The history of a cache

What a cache answers is told by what was done with it. It answers with an entry only if the latest
write under the key has made that entry, nothing was cleared since, and the entry has not expired.
It does so whenever no look-up since has come after the entry expired, and fewer other keys were
used since the key was used than there is room for.

The clock may be set back, so an entry that was dropped because it had expired can be one that
would not have expired by now. That is why the look-ups in between count, and not only the last one.
-/

namespace FeatureFlags.Cache

/-! ### What is done with a cache -/

/-- What can be done with a cache and its clock. -/
inductive Event where
  | put (key : CacheKey) (flags : ResolvedFlags)
  | write (key : CacheKey) (result : CachedResult)
  | lookUpFlags (key : CacheKey)
  | lookUp (key : CacheKey)
  | clear
  /-- The clock shows another time, which may be an earlier one. -/
  | setClock (millis : Nat)

/-- What was done with a cache, and at which time. -/
inductive Deed where
  | wrote (time : Nat) (key : CacheKey) (result : CachedResult)
  /-- An entry was looked up, for itself or for its flags. One without flags is found as well. -/
  | lookedUp (time : Nat) (key : CacheKey) (found : Option CacheEntry)
  | cleared

/-- The key that was used: an entry was written under it, or found. -/
def Deed.used? : Deed → Option CacheKey
  | .wrote _ key _ => some key
  | .lookedUp _ key found => found.map fun _ => key
  | .cleared => none

/-- A cache with its clock, and what was done with it so far, the latest first. -/
structure Session where
  clock : Nat
  cache : Cache
  past : List Deed

namespace Session

/-- A cache that nothing was done with. -/
def new (room maxAge clock : Nat) : Session := ⟨clock, .empty room maxAge, []⟩

/-- Something is done with the cache. -/
def step (s : Session) : Event → Session
  | .put key flags =>
    { s with
      cache := s.cache.put s.clock key flags
      past := .wrote s.clock key { flags := some flags } :: s.past }
  | .write key result =>
    { s with
      cache := s.cache.write s.clock key result
      past := .wrote s.clock key result :: s.past }
  | .lookUpFlags key =>
    { s with
      cache := (s.cache.lookupFlags s.clock key).2
      past := .lookedUp s.clock key (s.cache.lookup s.clock key).1 :: s.past }
  | .lookUp key =>
    { s with
      cache := (s.cache.lookup s.clock key).2
      past := .lookedUp s.clock key (s.cache.lookup s.clock key).1 :: s.past }
  | .clear => { s with cache := s.cache.clear, past := .cleared :: s.past }
  | .setClock millis => { s with clock := millis }

/-- One thing after the other is done with the cache. -/
def run (s : Session) (events : List Event) : Session := events.foldl step s

end Session

/-! ### What the past says about a key -/

section Past

variable (key : CacheKey)

/-- The entry that the latest write under a key has made, if nothing was cleared since. -/
def latest? (maxAge : Nat) : List Deed → Option CacheEntry
  | [] => none
  | .wrote time k result :: before =>
    if k = key then some ⟨result, time, min (time + maxAge) lastMillis⟩ else latest? maxAge before
  | .lookedUp _ _ _ :: before => latest? maxAge before
  | .cleared :: _ => none

/-- The times of all look-ups since the latest write under a key. -/
def lookUpTimes : List Deed → List Nat
  | [] => []
  | .wrote _ k _ :: before => if k = key then [] else lookUpTimes before
  | .lookedUp time _ _ :: before => time :: lookUpTimes before
  | .cleared :: before => lookUpTimes before

/-- The other keys that were used since a key was. -/
def usedSince : List Deed → Finset CacheKey
  | [] => ∅
  | deed :: before =>
    match deed.used? with
    | some k => if k = key then ∅ else insert k (usedSince before)
    | none => usedSince before

end Past

/-! ### Look-ups -/

variable {c : Cache} {now room maxAge : Nat} {key k : CacheKey} {e : CacheEntry}

/-- The entries that have not expired by a time. -/
def fresh (c : Cache) (now : Nat) : Recent CacheKey CacheEntry :=
  c.recent.keep fun e => !e.isExpired now

lemma mem_fresh :
    (key, e) ∈ (c.fresh now).entries ↔ (key, e) ∈ c.recent.entries ∧ now < e.expiresAt := by
  simp [fresh, Recent.mem_keep, CacheEntry.isExpired]

lemma lookup_fst (c : Cache) (now : Nat) (key : CacheKey) :
    (c.lookup now key).1 = (c.fresh now).find? key := Recent.use_fst _ _

lemma lookup_snd (c : Cache) (now : Nat) (key : CacheKey) :
    (c.lookup now key).2 = { c with recent := ((c.fresh now).use key).2 } := rfl

lemma lookup_eq_some_iff (hc : c.recent.Proper) :
    (c.lookup now key).1 = some e ↔ (key, e) ∈ c.recent.entries ∧ now < e.expiresAt := by
  have hfresh : (c.fresh now).Proper := hc.keep _
  rw [lookup_fst, hfresh.find?_eq_some_iff, mem_fresh]

/-! ### What a cache holds, and its past -/

/-- A cache holds what its past says. -/
structure Session.Faithful (room maxAge : Nat) (s : Session) : Prop where
  maxAge_eq : s.cache.maxAge = maxAge
  capacity_eq : s.cache.recent.capacity = max room 1
  proper : s.cache.recent.Proper
  latest : ∀ key e, (key, e) ∈ s.cache.recent.entries → latest? key maxAge s.past = some e
  holds : ∀ key e, latest? key maxAge s.past = some e →
    (∀ time ∈ lookUpTimes key s.past, time < e.expiresAt) →
    (usedSince key s.past).card < max room 1 →
    s.cache.recent.HoldsBehind (usedSince key s.past) key e

namespace Session

variable {s : Session}

lemma faithful_new (room maxAge clock : Nat) : (new room maxAge clock).Faithful room maxAge where
  maxAge_eq := rfl
  capacity_eq := rfl
  proper := Recent.proper_empty room
  latest _ _ h := absurd h List.not_mem_nil
  holds _ _ h := nomatch h

lemma Faithful.write (h : s.Faithful room maxAge) (key : CacheKey) (result : CachedResult) :
    (s.step (.write key result)).Faithful room maxAge where
  maxAge_eq := h.maxAge_eq
  capacity_eq := h.capacity_eq
  proper := h.proper.insert _ _
  latest k e he := by
    simp only [step, latest?]
    rcases Recent.mem_insert he with heq | ⟨hmem, hne⟩
    · obtain ⟨rfl, rfl⟩ := Prod.mk.inj heq
      rw [if_pos rfl, h.maxAge_eq]
    · rw [if_neg (Ne.symm hne)]
      exact h.latest k e hmem
  holds k e hlatest htimes hroom := by
    have hcapacity := h.capacity_eq
    simp only [step, latest?, lookUpTimes, usedSince, Deed.used?] at hlatest htimes hroom ⊢
    -- the entry that is written is the latest; any other stays unless too many keys were used since
    by_cases hk : key = k
    · subst hk
      simp only [if_true, Option.some.injEq] at hlatest ⊢
      subst hlatest
      rw [← h.maxAge_eq]
      exact Recent.holdsBehind_insert (by omega)
    · simp only [if_neg hk] at hlatest htimes hroom ⊢
      have hbefore := (Finset.card_le_card (Finset.subset_insert _ _)).trans_lt hroom
      exact (h.holds k e hlatest htimes hbefore).insert h.proper hk (hcapacity ▸ hroom) _

lemma Faithful.lookUp (h : s.Faithful room maxAge) (key : CacheKey) :
    (s.step (.lookUp key)).Faithful room maxAge where
  maxAge_eq := h.maxAge_eq
  capacity_eq := by
    simp only [step, lookup_snd, Recent.capacity_use]
    exact h.capacity_eq
  proper := (h.proper.keep _).use _
  latest k e he := h.latest k e (mem_fresh.1 (Recent.mem_use he)).1
  holds k e hlatest htimes hroom := by
    simp only [step, latest?, lookUpTimes, usedSince, Deed.used?, lookup_fst, lookup_snd]
      at hlatest htimes hroom ⊢
    obtain ⟨hnow, htimes⟩ := List.forall_mem_cons.1 htimes
    have hfresh : ∀ {S}, s.cache.recent.HoldsBehind S k e →
        (s.cache.fresh s.clock).HoldsBehind S k e :=
      fun hold => hold.keep (by simp [CacheEntry.isExpired, hnow])
    cases hfind : (s.cache.fresh s.clock).find? key with
    | none =>
      simp only [hfind, Option.map_none] at hroom ⊢
      rw [Recent.use_none hfind]
      exact hfresh (h.holds k e hlatest htimes hroom)
    | some found =>
      simp only [hfind, Option.map_some] at hroom ⊢
      by_cases hk : key = k
      · -- what was found under the key is its latest entry
        subst hk
        have hmem := (mem_fresh.1 (Recent.mem_of_find? hfind)).1
        obtain rfl := Option.some.inj ((h.latest key found hmem).symm.trans hlatest)
        simpa only [if_true] using Recent.holdsBehind_use hfind
      · simp only [if_neg hk] at hroom ⊢
        have hbefore := (Finset.card_le_card (Finset.subset_insert _ _)).trans_lt hroom
        exact (hfresh (h.holds k e hlatest htimes hbefore)).use hk hfind

/-- Whatever is done with a cache, it goes on to hold what its past says. -/
lemma Faithful.step (h : s.Faithful room maxAge) (event : Event) :
    (s.step event).Faithful room maxAge := by
  cases event with
  | put key flags => exact h.write key _
  | write key result => exact h.write key result
  | lookUpFlags key => exact h.lookUp key
  | lookUp key => exact h.lookUp key
  | clear =>
    exact ⟨h.maxAge_eq, h.capacity_eq, Recent.proper_clear _,
      fun _ _ he => absurd he List.not_mem_nil, fun _ _ hlatest => nomatch hlatest⟩
  | setClock millis => exact ⟨h.maxAge_eq, h.capacity_eq, h.proper, h.latest, h.holds⟩

lemma Faithful.run (h : s.Faithful room maxAge) (events : List Event) :
    (s.run events).Faithful room maxAge := by
  induction events generalizing s with
  | nil => exact h
  | cons event rest ih => exact ih (h.step event)

end Session

/-- A cache is told by its past. There are never more entries than it has room for. A look-up gives
an entry only if it is the latest one under the key and has not expired; it gives that entry if no
look-up since it was written came after it expired, and if fewer other keys were used since the key
was than there is room for. Flags that are looked up are those of the entry. -/
theorem lookup_faithful (room maxAge clock : Nat) (events : List Event) :
    let s := (Session.new room maxAge clock).run events
    s.cache.size ≤ max room 1 ∧
    ∀ key,
      (∀ e, (s.cache.lookup s.clock key).1 = some e →
        latest? key maxAge s.past = some e ∧ s.clock < e.expiresAt) ∧
      (∀ e, latest? key maxAge s.past = some e → s.clock < e.expiresAt →
        (∀ time ∈ lookUpTimes key s.past, time < e.expiresAt) →
        (usedSince key s.past).card < max room 1 →
        (s.cache.lookup s.clock key).1 = some e) ∧
      (s.cache.lookupFlags s.clock key).1 =
        (s.cache.lookup s.clock key).1.bind fun e => e.result.flags := by
  intro s
  have h : s.Faithful room maxAge := (Session.faithful_new room maxAge clock).run events
  refine ⟨h.capacity_eq ▸ h.proper.fits, fun key => ⟨fun e he => ?_, ?_, rfl⟩⟩
  · obtain ⟨hmem, hnow⟩ := (lookup_eq_some_iff h.proper).1 he
    exact ⟨h.latest key e hmem, hnow⟩
  · intro e hlatest hnow htimes hroom
    exact (lookup_eq_some_iff h.proper).2 ⟨(h.holds key e hlatest htimes hroom).mem, hnow⟩

/-- There is room for two. What was looked up last before a third key is written stays, although it
was written first, and the other entry goes. -/
theorem lookup_faithful_three_keys :
    let key := fun id => CacheKey.of id .nothing
    let events : List Event := [
      .put (key "a") ∅, .put (key "b") ∅, .setClock 14, .lookUpFlags (key "a"),
      .setClock 12, .put (key "c") ∅, .lookUp (key "b"), .setClock 19]
    let s := (Session.new 2 10 10).run events
    let e : CacheEntry := ⟨{ flags := some ∅ }, 10, 20⟩
    latest? (key "a") 10 s.past = some e ∧ s.clock < e.expiresAt ∧
      (∀ time ∈ lookUpTimes (key "a") s.past, time < e.expiresAt) ∧
      (usedSince (key "a") s.past).card < 2 ∧
      (s.cache.lookup s.clock (key "a")).1 = some e ∧
      latest? (key "b") 10 s.past = some e ∧ (s.cache.lookup s.clock (key "b")).1 = none := by
  intro key events s e
  have hlatest : latest? (key "a") 10 s.past = some e := by decide
  have hnow : s.clock < e.expiresAt := by decide
  have htimes : ∀ time ∈ lookUpTimes (key "a") s.past, time < e.expiresAt := by decide
  have hroom : (usedSince (key "a") s.past).card < max 2 1 := by decide
  obtain ⟨-, hall⟩ := lookup_faithful 2 10 10 events
  exact ⟨hlatest, hnow, htimes, hroom, (hall (key "a")).2.1 e hlatest hnow htimes hroom,
    by decide, by decide⟩

end FeatureFlags.Cache
