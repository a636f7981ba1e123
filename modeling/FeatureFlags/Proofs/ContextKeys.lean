import FeatureFlags.Cache.Key
import FeatureFlags.Proofs.JsonText

/-!
# What a key of cached results tells

Two values have one canonical text when they are the same up to the order of members, at any
depth. So a key tells the distinct id, which parts of a context there are, and the value under
every name: one key stands for one identity in one context.
-/

namespace FeatureFlags

/-! ### Dictionaries -/

/-- Two dictionaries have the same keys, and related values under each. -/
def Dict.Same {α : Type} (R : α → α → Prop) (d e : Dict α) : Prop :=
  ∀ k, Option.Rel R (d.get? k) (e.get? k)

namespace Dict

variable {α β : Type} {d e : Dict α}

/-- Changed values are equal under one name when the values are related there. -/
lemma map_eq_map_iff {R : α → α → Prop} {f g : α → β} {o p : Option α}
    (h : ∀ a ∈ o, ∀ b ∈ p, (f a = g b ↔ R a b)) : o.map f = p.map g ↔ Option.Rel R o p := by
  cases o <;> cases p
  · simp
  · simp
  · simp
  · simpa using h _ rfl _ rfl

/-- Dictionaries with the same value under every key are equal. -/
theorem ext_get? (h : ∀ k, d.get? k = e.get? k) : d = e := by
  have hmem (x : String × α) : x ∈ d.entries ↔ x ∈ e.entries := by
    rw [← get?_eq_some_iff, ← get?_eq_some_iff, h]
  have hnodup {d : Dict α} : d.entries.Nodup :=
    d.distinct_entries.imp fun hne heq => hne (congrArg Prod.fst heq)
  refine ext_entries (List.Perm.eq_of_pairwise (fun a b _ _ hlt hgt => ?_) d.ascending e.ascending
    ((List.perm_ext_iff_of_nodup hnodup hnodup).2 hmem))
  exact absurd (String.lt_trans hlt hgt) (String.lt_irrefl _)

@[simp] lemma get?_map (f : α → β) (d : Dict α) (k : String) :
    (d.map f).get? k = (d.get? k).map f := by
  simp [get?, map, mapWithKey, List.find?_map, Function.comp_def]

end Dict

/-! ### Values up to the order of members -/

namespace Json

/-- The values are the same: integers as such, binary64 numbers by their bits, arrays item by item,
and objects name by name in any order. -/
inductive Same : Json → Json → Prop
  | null : Same .null .null
  | bool {b : Bool} : Same (.bool b) (.bool b)
  | int {n : Int} : Same (.number (.int n)) (.number (.int n))
  | float {x y : Float} (h : x.toBits = y.toBits) :
    Same (.number (.float x)) (.number (.float y))
  | string {s : String} : Same (.string s) (.string s)
  | array {items items' : List Json} (h : List.Forall₂ Same items items') :
    Same (.array items) (.array items')
  | object {members members' : List (String × Json)}
    (h : ∀ name, Option.Rel Same (member? name (.object members))
      (member? name (.object members'))) : Same (.object members) (.object members')

variable {name : String} {a b j : Json}

lemma member?_cons (m : String × Json) (members : List (String × Json)) :
    member? name (.object (m :: members)) =
      (member? name (.object members)).or (if m.1 = name then some m.2 else none) := by
  by_cases h : m.1 = name <;> simp [member?, List.find?_append, h]

lemma mem_of_member? {members : List (String × Json)}
    (h : member? name (.object members) = some j) : (name, j) ∈ members := by
  obtain ⟨m, hm, rfl⟩ := Option.map_eq_some_iff.1 h
  have hname : m.1 = name := by simpa using List.find?_some hm
  exact hname ▸ List.mem_reverse.1 (List.mem_of_find?_eq_some hm)

/-- The names of a dictionary are different, so it does not matter which member counts. -/
lemma member?_ofDict (d : Dict Json) : member? name (ofDict d) = d.get? name := by
  have hdistinct : Dict.Distinct d.entries.reverse :=
    List.pairwise_reverse.2 (d.distinct_entries.imp Ne.symm)
  refine Option.ext fun j => ?_
  rw [ofDict, member?, hdistinct.find?_eq_some_iff, List.mem_reverse, Dict.get?_eq_some_iff]

lemma canonicalList_eq (items : List Json) : canonicalList items = items.map canonical := by
  induction items with
  | nil => rfl
  | cons j items ih => rw [canonicalList, ih, List.map_cons]

lemma get?_canonicalMembers (d : Dict Json) (members : List (String × Json)) :
    (canonicalMembers d members).get? name =
      ((member? name (.object members)).map canonical).or (d.get? name) := by
  induction members generalizing d with
  | nil => rfl
  | cons m members ih =>
    rw [canonicalMembers, ih, Dict.get?_insert, member?_cons]
    cases member? name (.object members) <;> by_cases h : m.1 = name <;> simp [h]

lemma canonical_object_eq_iff {members members' : List (String × Json)} :
    (object members).canonical = (object members').canonical ↔
      ∀ name, (member? name (.object members)).map canonical =
        (member? name (.object members')).map canonical := by
  have hget (name : String) (members : List (String × Json)) :
      (canonicalMembers ∅ members).get? name = (member? name (.object members)).map canonical := by
    rw [get?_canonicalMembers, Dict.get?_empty, Option.or_none]
  simp only [← hget]
  constructor
  · intro h name
    have hentries := Json.object.inj h
    rw [Dict.ext_entries hentries]
  · intro h
    exact congrArg ofDict (Dict.ext_get? h)

lemma forall₂_iff {R : Json → Json → Prop} {f : Json → Json} {items items' : List Json}
    (h : ∀ j ∈ items, ∀ j', R j j' ↔ f j = f j') :
    List.Forall₂ R items items' ↔ items.map f = items'.map f := by
  induction items generalizing items' with
  | nil => cases items' <;> simp
  | cons j items ih =>
    cases items' with
    | nil => simp
    | cons j' items' =>
      rw [List.forall₂_cons, h j List.mem_cons_self,
        ih fun i hi => h i (List.mem_cons_of_mem _ hi), List.map_cons, List.map_cons,
        List.cons.injEq]

lemma same_array_iff {items items' : List Json} :
    Same (.array items) (.array items') ↔ List.Forall₂ Same items items' :=
  ⟨fun h => by cases h; assumption, .array⟩

lemma same_object_iff {members members' : List (String × Json)} :
    Same (.object members) (.object members') ↔ ∀ name, Option.Rel Same
      (member? name (.object members)) (member? name (.object members')) :=
  ⟨fun h => by cases h; assumption, .object⟩

lemma same_number_iff {n n' : Number} : Same (.number n) (.number n') ↔ n = n' := by
  constructor
  · rintro (_ | _ | _ | h)
    · rfl
    · exact congrArg _ (Decimal.Binary.eq_of_toBits h)
  · rintro rfl
    cases n with
    | int n => exact .int
    | float x => exact .float rfl

lemma same_string_iff {s t : String} : Same (.string s) (.string t) ↔ s = t := by
  constructor
  · rintro (_ | _)
    rfl
  · rintro rfl
    exact .string

lemma ctorIdx_canonical (j : Json) : j.canonical.ctorIdx = j.ctorIdx := by
  cases j <;> rfl

lemma Same.ctorIdx_eq (h : a.Same b) : a.ctorIdx = b.ctorIdx := by
  cases h <;> rfl

/-- Values of different forms are not the same, and neither are their canonical forms. -/
lemma same_iff_of_ne (hform : a.ctorIdx ≠ b.ctorIdx) :
    a.Same b ↔ a.canonical = b.canonical := by
  refine iff_of_false (fun h => hform h.ctorIdx_eq) fun h => hform ?_
  rw [← ctorIdx_canonical a, h, ctorIdx_canonical]

/-- Values are the same when their canonical forms are equal. -/
theorem same_iff : a.Same b ↔ a.canonical = b.canonical := by
  -- values of different forms are neither the same nor equal in canonical form
  induction a using Json.induction generalizing b with
  | null =>
    cases b with
    | null => exact iff_of_true .null rfl
    | bool | number | string | array | object => exact same_iff_of_ne nofun
  | bool x =>
    cases b with
    | bool y => exact ⟨fun h => by cases h; rfl, fun h => Json.bool.inj h ▸ .bool⟩
    | null | number | string | array | object => exact same_iff_of_ne nofun
  | number n =>
    cases b with
    | number n' =>
      rw [same_number_iff, canonical, canonical, Json.number.injEq]
    | null | bool | string | array | object => exact same_iff_of_ne nofun
  | string s =>
    cases b with
    | string t => rw [same_string_iff, canonical, canonical, Json.string.injEq]
    | null | bool | number | array | object => exact same_iff_of_ne nofun
  | array items ih =>
    cases b with
    | array items' =>
      rw [same_array_iff, canonical, canonical, canonicalList_eq, canonicalList_eq,
        Json.array.injEq]
      exact forall₂_iff fun j hj j' => ih j hj
    | null | bool | number | string | object => exact same_iff_of_ne nofun
  | object members ih =>
    cases b with
    | object members' =>
      rw [same_object_iff, canonical_object_eq_iff]
      exact forall_congr' fun name => (Dict.map_eq_map_iff fun j hj j' _ =>
        (ih (name, j) (mem_of_member? hj)).symm).symm
    | null | bool | number | string | array => exact same_iff_of_ne nofun

instance : Decidable (a.Same b) := decidable_of_iff _ same_iff.symm

lemma isFinite_canonical (h : j.isFinite = true) : j.canonical.isFinite = true := by
  induction j using Json.induction with
  | null | bool | number | string => exact h
  | array items ih =>
    rw [isFinite_array] at h
    rw [canonical, canonicalList_eq, isFinite_array]
    exact List.forall_mem_map.2 fun j hj => ih j hj (h j hj)
  | object members ih =>
    rw [isFinite_object] at h
    rw [canonical, ofDict, isFinite_object]
    rintro ⟨name, j⟩ hmem
    have hget := Dict.get?_eq_some_iff.2 hmem
    rw [get?_canonicalMembers, Dict.get?_empty, Option.or_none] at hget
    obtain ⟨i, hi, rfl⟩ := Option.map_eq_some_iff.1 hget
    exact ih _ (mem_of_member? hi) (h _ (mem_of_member? hi))

/-- The canonical text tells a value, up to the order of members. -/
theorem canonicalText_eq_iff (ha : a.isFinite = true) (hb : b.isFinite = true) :
    a.canonicalText = b.canonicalText ↔ a.Same b := by
  rw [same_iff]
  exact ⟨compact_inj (isFinite_canonical ha) (isFinite_canonical hb), congrArg compact⟩

/-- Objects made of dictionaries are the same when the dictionaries are. -/
lemma same_ofDict_iff {d e : Dict Json} : Same (ofDict d) (ofDict e) ↔ d.Same Same e := by
  rw [ofDict, ofDict, same_object_iff]
  exact forall_congr' fun name => by rw [← ofDict, ← ofDict, member?_ofDict, member?_ofDict]

end Json

namespace Dict

variable {α : Type} {d e : Dict α} {R : α → α → Prop} {f : α → Json}

/-- Objects made of dictionaries of anything are the same when the dictionaries are. -/
lemma same_ofDict_map_iff (h : ∀ a b, (f a).Same (f b) ↔ R a b) :
    (Json.ofDict (d.map f)).Same (Json.ofDict (e.map f)) ↔ d.Same R e := by
  rw [Json.same_ofDict_iff]
  refine forall_congr' fun k => ?_
  rw [get?_map, get?_map]
  cases d.get? k <;> cases e.get? k <;> simp [h]

end Dict

/-! ### Contexts -/

namespace Context

variable {id id' : String} {c c' : Context}

/-- Every number of the properties is finite, as numbers of JSON are. -/
def isFinite (c : Context) : Bool := (Json.object c.members).isFinite

/-- Each part is absent in both contexts, or present in both with the same values under the same
names. -/
structure Same (c c' : Context) : Prop where
  groups : Option.Rel (Dict.Same Eq) c.groups c'.groups
  personProperties : Option.Rel (Dict.Same Json.Same) c.personProperties c'.personProperties
  groupProperties :
    Option.Rel (Dict.Same (Dict.Same Json.Same)) c.groupProperties c'.groupProperties

lemma isFinite_groups (g : Dict String) : (Json.ofDict (g.map .string)).isFinite = true := by
  rw [Json.ofDict, Json.isFinite_object]
  exact List.forall_mem_map.2 fun _ _ => rfl

lemma isFinite_of_mem (h : c.isFinite = true) {m : String × Json} (hm : m ∈ c.members) :
    m.2.isFinite = true :=
  Json.isFinite_object.1 h m hm

lemma isFinite_person (h : c.isFinite = true) {p : Dict Json} (hp : c.personProperties = some p) :
    (Json.ofDict p).isFinite = true := by
  have hmem : ("person_properties", Json.ofDict p) ∈ c.members := by simp [members, hp]
  exact isFinite_of_mem h hmem

lemma isFinite_groupProperties (h : c.isFinite = true) {g : Dict (Dict Json)}
    (hg : c.groupProperties = some g) : (encodeGroupProperties g).isFinite = true := by
  have hmem : ("group_properties", encodeGroupProperties g) ∈ c.members := by simp [members, hg]
  exact isFinite_of_mem h hmem

/-- Equal keys stand for one distinct id in one context, and one distinct id in one context has
one key. -/
theorem key_eq_iff (h : c.isFinite = true) (h' : c'.isFinite = true) :
    CacheKey.of id c = CacheKey.of id' c' ↔ id = id' ∧ c.Same c' := by
  have hgroups : (CacheKey.of id c).groups = (CacheKey.of id' c').groups ↔
      Option.Rel (Dict.Same Eq) c.groups c'.groups :=
    Dict.map_eq_map_iff fun g _ g' _ => by
      rw [Json.canonicalText_eq_iff (isFinite_groups g) (isFinite_groups g'),
        Dict.same_ofDict_map_iff fun _ _ => Json.same_string_iff]
  have hperson : (CacheKey.of id c).personProperties = (CacheKey.of id' c').personProperties ↔
      Option.Rel (Dict.Same Json.Same) c.personProperties c'.personProperties :=
    Dict.map_eq_map_iff fun p hp p' hp' => by
      rw [Json.canonicalText_eq_iff (isFinite_person h hp) (isFinite_person h' hp'),
        Json.same_ofDict_iff]
  have hgroup : (CacheKey.of id c).groupProperties = (CacheKey.of id' c').groupProperties ↔
      Option.Rel (Dict.Same (Dict.Same Json.Same)) c.groupProperties c'.groupProperties :=
    Dict.map_eq_map_iff fun g hg g' hg' => by
      rw [Json.canonicalText_eq_iff (isFinite_groupProperties h hg)
        (isFinite_groupProperties h' hg')]
      exact Dict.same_ofDict_map_iff fun _ _ => Json.same_ofDict_iff
  -- each part of a key is the text of a part of the context
  constructor
  · intro hkey
    rw [hkey] at hgroups hperson hgroup
    exact ⟨congrArg CacheKey.distinctId hkey, hgroups.1 rfl, hperson.1 rfl, hgroup.1 rfl⟩
  · rintro ⟨rfl, hsame⟩
    rw [CacheKey.of, CacheKey.mk.injEq]
    exact ⟨rfl, hgroups.2 hsame.groups, hperson.2 hsame.personProperties,
      hgroup.2 hsame.groupProperties⟩

/-- Two contexts that tell one seat, its members in different orders, and one that tells another. -/
theorem key_eq_iff_seat :
    let seat (members : List (String × Json)) : Context :=
      nothing.withPersonProperty "seat" (.object members)
    let ann := seat [("row", .int 1), ("near", .array [.object [("a", .null), ("b", .int 2)]])]
    let ann' := seat [("near", .array [.object [("b", .int 2), ("a", .null)]]), ("row", .int 1)]
    let bob := seat [("row", .string "1"), ("near", .array [])]
    (CacheKey.of "ann" ann = CacheKey.of "ann" ann' ∧ ann ≠ ann') ∧
      CacheKey.of "ann" ann ≠ CacheKey.of "ann" bob := by
  intro seat ann ann' bob
  have hsame : Context.Same ann ann' := ⟨.none, .some (Json.same_ofDict_iff.1 (by decide)), .none⟩
  have hother : ¬Context.Same ann bob := fun h => by
    cases h.personProperties with
    | some hdict => exact absurd (Json.same_ofDict_iff.2 hdict) (by decide)
  exact ⟨⟨(key_eq_iff rfl rfl).2 ⟨rfl, hsame⟩, by decide⟩,
    fun h => hother ((key_eq_iff rfl rfl).1 h).2⟩

end Context

end FeatureFlags
