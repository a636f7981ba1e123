import FeatureFlags.Json.Decoding
import FeatureFlags.Proofs.ContextKeys

/-!
# Reading back

A decoder may accept many values for one thing: a record as an object or as a list of its fields,
a number in two notations, a default by its absence. The encoding is one value among them. It is
read back if decoding it gives what was decoded before. An object says the same in every order of
its members, so the canonical form of an encoding has to be read back as well: that is the form in
which the parts of some records are taken.

What is read back is closed under lists, dictionaries and the fields of records.
-/

namespace FeatureFlags

variable {α β : Type}

lemma mapM_eq_some_iff {f : α → Option β} {l : List α} {bs : List β} :
    l.mapM f = some bs ↔ List.Forall₂ (fun a b => f a = some b) l bs := by
  induction l generalizing bs with
  | nil => cases bs <;> simp
  | cons a l ih =>
    cases bs with
    | nil => simp [List.mapM_cons, Option.bind_eq_some_iff]
    | cons b bs => simp [List.mapM_cons, Option.bind_eq_some_iff, ih]

lemma mapM_congr {f g : α → Option β} {l : List α} (h : ∀ a ∈ l, f a = g a) :
    l.mapM f = l.mapM g := by
  induction l with
  | nil => rfl
  | cons a l ih =>
    rw [List.mapM_cons, List.mapM_cons, h a List.mem_cons_self,
      ih fun b hb => h b (List.mem_cons_of_mem a hb)]

lemma exists_of_mem_mapM {f : α → Option β} {l : List α} {bs : List β} (h : l.mapM f = some bs)
    {b : β} (hb : b ∈ bs) : ∃ a ∈ l, f a = some b := by
  have hall := mapM_eq_some_iff.1 h
  clear h
  induction hall with
  | nil => cases hb
  | @cons a b' l bs hab _ ih =>
    rcases List.mem_cons.1 hb with rfl | hb
    · exact ⟨a, List.mem_cons_self, hab⟩
    · obtain ⟨a', ha', hb'⟩ := ih hb
      exact ⟨a', List.mem_cons_of_mem a ha', hb'⟩

lemma mapM_map_eq_some {f : β → Option α} {g : α → β} {l : List α}
    (h : ∀ a ∈ l, f (g a) = some a) : (l.map g).mapM f = some l := by
  rw [mapM_eq_some_iff, List.forall₂_map_left_iff, List.forall₂_same]
  exact h

namespace Dict

@[simp] lemma ofList_entries (d : Dict α) : ofList d.entries = d := by
  refine ext_get? fun k => Option.ext fun v => ?_
  rw [d.distinct_entries.get?_ofList_eq_some_iff, get?_eq_some_iff]

lemma map_id (d : Dict α) : d.map (fun a => a) = d :=
  ext_get? fun k => (get?_map _ d k).trans (congrFun Option.map_id _)

lemma map_map {γ : Type} (g : β → γ) (f : α → β) (d : Dict α) :
    (d.map f).map g = d.map (g ∘ f) := by
  refine ext_get? fun k => ?_
  rw [get?_map, get?_map, get?_map, Option.map_map]

end Dict

namespace Json

variable {name : String} {j : Json} {items : List Json} {members members' : List (String × Json)}
  {n : Nat}

/-! ### Canonical forms -/

/-- The members of a canonical form are the canonical forms of the members. -/
lemma member?_canonical : member? name (object members).canonical =
    (member? name (object members)).map canonical := by
  rw [canonical, member?_ofDict, get?_canonicalMembers, Dict.get?_empty, Option.or_none]

@[simp] lemma canonical_canonical (j : Json) : j.canonical.canonical = j.canonical := by
  induction j using Json.induction with
  | null | bool | number | string => rfl
  | array items ih =>
    simp only [canonical, canonicalList_eq, List.map_map, array.injEq]
    exact List.map_congr_left ih
  | object members ih =>
    refine canonical_object_eq_iff.2 fun name => ?_
    rw [← ofDict, ← canonical, member?_canonical, Option.map_map]
    refine Option.map_congr fun j hj => ?_
    exact ih (name, j) (mem_of_member? hj)

lemma canonical_eq_null : j.canonical = .null ↔ j = .null := by
  cases j <;> simp [canonical, ofDict]

/-- With different names, it does not matter which member of a name counts. -/
lemma member?_eq_some_iff (h : Dict.Distinct members) :
    member? name (object members) = some j ↔ (name, j) ∈ members := by
  have hreverse : Dict.Distinct members.reverse :=
    List.pairwise_reverse.2 (h.imp Ne.symm)
  rw [member?, hreverse.find?_eq_some_iff, List.mem_reverse]

lemma canonical_ofDict (d : Dict Json) : (ofDict d).canonical = ofDict (d.map canonical) := by
  refine congrArg ofDict (Dict.ext_get? fun k => ?_)
  rw [get?_canonicalMembers, Dict.get?_empty, Option.or_none, ← ofDict, member?_ofDict,
    Dict.get?_map]

lemma nodup_of_distinct (h : Dict.Distinct members) : members.Nodup :=
  h.imp fun hne heq => hne (congrArg Prod.fst heq)

/-- With different names, the canonical form has the same members in order, each canonical. -/
lemma perm_canonical (h : Dict.Distinct members) :
    (canonicalMembers ∅ members).entries.Perm (members.map fun m => (m.1, m.2.canonical)) := by
  have hmap : Dict.Distinct (members.map fun m => (m.1, m.2.canonical)) := List.pairwise_map.2 h
  -- neither lists a member twice, so it is enough that they list the same ones
  refine (List.perm_ext_iff_of_nodup (nodup_of_distinct (Dict.distinct_entries _))
    (nodup_of_distinct hmap)).2 fun ⟨name, j⟩ => ?_
  rw [← Dict.get?_eq_some_iff, get?_canonicalMembers, Dict.get?_empty, Option.or_none,
    Option.map_eq_some_iff]
  simp only [member?_eq_some_iff h, List.mem_map, Prod.exists, Prod.mk.injEq]
  constructor
  · rintro ⟨i, hi, rfl⟩
    exact ⟨name, i, hi, rfl, rfl⟩
  · rintro ⟨_, i, hi, rfl, rfl⟩
    exact ⟨i, hi, rfl⟩

/-! ### Fields of records -/

lemma field?_perm (h : members.Perm members') (names : List String) :
    field? members names = field? members' names := by
  have hnamed : (membersNamed names members).Perm (membersNamed names members') :=
    (h.filter _).map _
  simp only [field?]
  rcases hm : membersNamed names members with _ | ⟨j, _ | ⟨i, rest⟩⟩
  · rw [hm] at hnamed
    rw [hnamed.nil_eq]
  · rw [hm] at hnamed
    rw [List.singleton_perm.1 hnamed]
  · have hlength := hnamed.length_eq
    rw [hm] at hlength
    rcases hm' : membersNamed names members' with _ | ⟨j', _ | ⟨i', rest'⟩⟩
    · simp [hm'] at hlength
    · simp [hm'] at hlength
    · rfl

lemma field?_map_canonical (names : List String) :
    field? (members.map fun m => (m.1, m.2.canonical)) names =
      (field? members names).map (Option.map canonical) := by
  have hnamed : membersNamed names (members.map fun m => (m.1, m.2.canonical)) =
      (membersNamed names members).map canonical := by
    simp only [membersNamed, List.filter_map, List.map_map]
    rfl
  simp only [field?, hnamed]
  rcases membersNamed names members with _ | ⟨j, _ | ⟨i, rest⟩⟩ <;> rfl

/-- With different names, the fields of the canonical form are the canonical forms of the
fields. -/
lemma fields?_canonical (h : Dict.Distinct members) (declared : List (List String)) :
    (object members).canonical.fields? declared =
      ((object members).fields? declared).map (List.map (Option.map canonical)) := by
  have hfield (names : List String) : field? (canonicalMembers ∅ members).entries names =
      (field? members names).map (Option.map canonical) :=
    (field?_perm (perm_canonical h) names).trans (field?_map_canonical names)
  simp only [canonical, ofDict, fields?]
  induction declared with
  | nil => rfl
  | cons names declared ih =>
    simp only [List.mapM_cons, hfield, ih]
    cases field? members names with
    | none => rfl
    | some field => cases declared.mapM (field? members) <;> rfl

/-- A field that is there once is the member of its name. -/
lemma member?_eq_of_field? {field : Option Json}
    (h : field? members [name] = some field) : member? name (object members) = field := by
  have hnamed : member? name (object members) =
      ((members.filter fun m => [name].contains m.1).map Prod.snd).getLast? := by
    have hname : (fun m : String × Json => [name].contains m.1) = fun m => decide (m.1 = name) :=
      funext fun m => by simp
    rw [member?, ← List.head?_filter, List.filter_reverse, List.head?_reverse, hname,
      List.getLast?_map]
  rw [hnamed]
  simp only [field?, membersNamed] at h
  split at h
  · rename_i hnone
    rw [hnone]
    exact Option.some.inj h
  · rename_i value hone
    rw [hone]
    exact Option.some.inj h
  · cases h

lemma exists_members_of_member? (h : (j.member? name).isSome = true) :
    ∃ members, j = object members := by
  cases j with
  | object members => exact ⟨members, rfl⟩
  | null | bool | number | string | array => cases h

/-! ### What stands in a value -/

lemma depthOfList_le_iff : depthOfList items ≤ n ↔ ∀ j ∈ items, j.depth ≤ n := by
  induction items with
  | nil => simp [depthOfList]
  | cons j items ih => simp [depthOfList, ih]

lemma depthOfMembers_le_iff : depthOfMembers members ≤ n ↔ ∀ m ∈ members, m.2.depth ≤ n := by
  induction members with
  | nil => simp [depthOfMembers]
  | cons m members ih => simp [depthOfMembers, ih]

/-- A value stands in another, as an item or under a name. -/
inductive Inside : Json → Json → Prop where
  | item {j : Json} {items : List Json} (h : j ∈ items) : Inside j (array items)
  | member {m : String × Json} {members : List (String × Json)} (h : m ∈ members) :
      Inside m.2 (object members)

lemma Inside.depth_lt {i : Json} (h : Inside i j) : i.depth < j.depth := by
  cases h with
  | item h => exact Nat.lt_succ_of_le (depthOfList_le_iff.1 le_rfl _ h)
  | member h => exact Nat.lt_succ_of_le (depthOfMembers_le_iff.1 le_rfl _ h)

lemma depth_canonical_le (j : Json) : j.canonical.depth ≤ j.depth := by
  induction j using Json.induction with
  | null | bool | number | string => exact le_rfl
  | array items ih =>
    rw [canonical, canonicalList_eq, depth, depth, Nat.succ_le_succ_iff, depthOfList_le_iff]
    refine List.forall_mem_map.2 fun j hj => ?_
    exact (ih j hj).trans (depthOfList_le_iff.1 le_rfl j hj)
  | object members ih =>
    rw [canonical, ofDict, depth, depth, Nat.succ_le_succ_iff, depthOfMembers_le_iff]
    rintro ⟨name, j⟩ hmem
    have hget := Dict.get?_eq_some_iff.2 hmem
    rw [get?_canonicalMembers, Dict.get?_empty, Option.or_none] at hget
    obtain ⟨i, hi, rfl⟩ := Option.map_eq_some_iff.1 hget
    have hi := mem_of_member? hi
    exact (ih _ hi).trans (depthOfMembers_le_iff.1 le_rfl _ hi)

/-- The fields of a record stand in the record. -/
lemma inside_of_field {declared : List (List String)} {fields : List (Option Json)}
    (h : j.fields? declared = some fields) {value : Json} (hvalue : some value ∈ fields) :
    Inside value j := by
  cases j with
  | null | bool | number | string => cases h
  | array items =>
    simp only [fields?] at h
    split at h
    · obtain rfl := Option.some.inj h
      simp only [List.mem_append, List.mem_map, Option.some.injEq, exists_eq_right,
        List.mem_replicate, reduceCtorEq, and_false, or_false] at hvalue
      exact .item hvalue
    · cases h
  | object members =>
    obtain ⟨names, -, hnames⟩ := exists_of_mem_mapM h hvalue
    simp only [field?] at hnames
    split at hnames
    · cases hnames
    · rename_i inner hinner
      obtain rfl := Option.some.inj (Option.some.inj hnames)
      have hmem : inner ∈ membersNamed names members := hinner ▸ List.mem_singleton_self inner
      obtain ⟨m, hm, rfl⟩ := List.mem_map.1 hmem
      exact .member (List.mem_filter.1 hm).1
    · cases hnames

lemma asList?_canonical (items : List Json) :
    asList? (fun j => some j.canonical) (array items) = some (items.map canonical) := by
  rw [asList?, mapM_eq_some_iff, List.forall₂_map_right_iff, List.forall₂_same]
  exact fun _ _ => rfl

/-! ### Values that are read back -/

/-- A value is read as `a` in every order of its members: as it stands, and in canonical form. -/
structure ReadsAs (decode : Json → Option α) (j : Json) (a : α) : Prop where
  plain : decode j = some a
  canonical : decode j.canonical = some a

/-- Whatever is decoded is read back from its encoding. -/
def ReadsBack (decode : Json → Option α) (encode : α → Json) : Prop :=
  ∀ j a, decode j = some a → ReadsAs decode (encode a) a

/-- Whatever a field gives, which may be absent, is read back from a field that holds its
encoding. -/
def FieldReadsBack (decode : Option Json → Option α) (encode : α → Json) : Prop :=
  ∀ field a, decode field = some a → ReadsAs (fun j => decode (some j)) (encode a) a

variable {decode : Json → Option α} {encode : α → Json}

/-- A record is read from its fields, and an object has the same fields in every order of its
members. -/
lemma ReadsAs.of_fields {declared : List (List String)} {fields : List (Option Json)}
    {read : List (Option Json) → Option α} {a : α} (hdistinct : Dict.Distinct members)
    (hfields : (object members).fields? declared = some fields) (hplain : read fields = some a)
    (hcanonical : read (fields.map (Option.map Json.canonical)) = some a) :
    ReadsAs (fun j => (j.fields? declared).bind read) (object members) a := by
  constructor
  · rw [hfields, Option.bind_some, hplain]
  · rw [fields?_canonical hdistinct, hfields, Option.map_some, Option.bind_some, hcanonical]

lemma readsBack_bool : ReadsBack asBool? .bool := fun _ _ _ => ⟨rfl, rfl⟩

lemma readsBack_string : ReadsBack asString? .string := fun _ _ _ => ⟨rfl, rfl⟩

lemma readsBack_float : ReadsBack asFloat? .float := fun _ _ _ => ⟨rfl, rfl⟩

lemma readsBack_int (low high : Int) : ReadsBack (asIntWithin? low high) .int := by
  intro j n h
  have hn : low ≤ n ∧ n ≤ high := by
    unfold asIntWithin? at h
    split at h
    · split at h
      · rename_i hbounds
        exact Option.some.inj h ▸ hbounds
      · cases h
    · cases h
  exact ⟨if_pos hn, if_pos hn⟩

lemma readsBack_int32 : ReadsBack asInt32? .int := readsBack_int _ _

/-- A value that is taken in canonical form. -/
lemma readsBack_canonical : ReadsBack (fun j => some j.canonical) fun j => j := by
  rintro j _ ⟨⟩
  exact ⟨congrArg some (canonical_canonical j), by rw [canonical_canonical, canonical_canonical]⟩

lemma ReadsBack.list (h : ReadsBack decode encode) :
    ReadsBack (asList? decode) fun as => .array (as.map encode) := by
  intro j as hj
  obtain ⟨items, hitems⟩ : ∃ items : List Json, items.mapM decode = some as := by
    unfold asList? at hj
    split at hj
    · exact ⟨_, hj⟩
    · cases hj
  have hread (a : α) (ha : a ∈ as) : ReadsAs decode (encode a) a := by
    obtain ⟨i, -, hi⟩ := exists_of_mem_mapM hitems ha
    exact h i a hi
  constructor
  · exact mapM_map_eq_some fun a ha => (hread a ha).plain
  · rw [canonical, canonicalList_eq, List.map_map]
    exact mapM_map_eq_some fun a ha => (hread a ha).canonical

lemma asDict?_ofDict {d : Dict α} (h : ∀ e ∈ d.entries, decode (encode e.2) = some e.2) :
    asDict? decode (ofDict (d.map encode)) = some d := by
  have hentries : (d.entries.map fun e => (e.1, encode e.2)).mapM
      (fun m => (decode m.2).map fun a => (m.1, a)) = some d.entries :=
    mapM_map_eq_some fun e he => by rw [h e he, Option.map_some]
  exact (congrArg (Option.map Dict.ofList) hentries).trans (congrArg some d.ofList_entries)

lemma ReadsBack.dict (h : ReadsBack decode encode) :
    ReadsBack (asDict? decode) fun d => ofDict (d.map encode) := by
  intro j d hj
  have hread (e : String × α) (he : e ∈ d.entries) : ReadsAs decode (encode e.2) e.2 := by
    unfold asDict? at hj
    split at hj
    · obtain ⟨l, hl, rfl⟩ := Option.map_eq_some_iff.1 hj
      have hmem := Dict.mem_of_get?_ofList (Dict.get?_eq_some_iff.2 he)
      obtain ⟨m, -, hm⟩ := exists_of_mem_mapM hl hmem
      obtain ⟨a, ha, heq⟩ := Option.map_eq_some_iff.1 hm
      exact h m.2 e.2 ((Prod.mk.inj heq).2 ▸ ha)
    · cases hj
  constructor
  · exact asDict?_ofDict fun e he => (hread e he).plain
  · rw [canonical_ofDict, Dict.map_map]
    exact asDict?_ofDict fun e he => (hread e he).canonical

lemma ReadsBack.required (h : ReadsBack decode encode) :
    FieldReadsBack (required? decode) encode := by
  rintro (_ | j) a hfield
  · cases hfield
  · exact h j a hfield

lemma ReadsBack.withDefault (h : ReadsBack decode encode) {default : α}
    (hdefault : ReadsAs decode (encode default) default) :
    FieldReadsBack (withDefault? default decode) encode := by
  rintro (_ | j) a hfield
  · obtain rfl := Option.some.inj hfield
    exact hdefault
  · exact h j a hfield

lemma asOption?_of_ne_null (h : j ≠ .null) : asOption? decode j = (decode j).map some := by
  cases j with
  | null => exact absurd rfl h
  | bool | number | string | array | object => rfl

/-- What is missing is told from everything that is not encoded as `null`. -/
lemma ReadsBack.asOption (h : ReadsBack decode encode) (hnull : ∀ a, encode a ≠ .null) :
    ReadsBack (asOption? decode) (ofOption encode) := by
  intro j o hj
  cases o with
  | none => exact ⟨rfl, rfl⟩
  | some a =>
    have hne : j ≠ .null := by
      rintro rfl
      cases hj
    rw [asOption?_of_ne_null hne, Option.map_eq_some_iff] at hj
    obtain ⟨_, hj, ⟨⟩⟩ := hj
    have hcanonical : (encode a).canonical ≠ .null := canonical_eq_null.not.2 (hnull a)
    constructor
    · rw [ofOption, asOption?_of_ne_null (hnull a), (h j a hj).plain, Option.map_some]
    · rw [ofOption, asOption?_of_ne_null hcanonical, (h j a hj).canonical, Option.map_some]

/-- A field that may be absent or `null`. -/
lemma ReadsBack.optional (h : ReadsBack decode encode) (hnull : ∀ a, encode a ≠ .null) :
    FieldReadsBack (optional? decode) (ofOption encode) :=
  (h.asOption hnull).withDefault ⟨rfl, rfl⟩

end Json

end FeatureFlags
