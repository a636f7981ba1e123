import FeatureFlags.Proofs.FormatRoundTrip
import FeatureFlags.Proofs.JsonReading

/-!
# Definitions are read back from texts

Definitions come as a text, and their encoding is a text as well. What a decoder gives has no
integers but those of the value that was decoded, and these fit because they were read. Nor does the
encoding nest deeper than the value, but for the few levels of a record whose fields were left out.
So the text of an encoding is read back, unless it holds a binary64 number that its own text
misses.

That happens. A percentage of seventeen digits need not be the number that the sixteen digits of its
shortest text give.

Main statement: a document is read back from its encoding, and from the text of its encoding if
every binary64 number in it is.
-/

namespace FeatureFlags

/-! ### What an encoding has from the value that was decoded -/

namespace Json

variable {α : Type} {decode : Json → Option α} {encode : α → Json} {i j : Json} {n : Number}
  {floor bound : Nat}

lemma mem_numbers_canonical (h : n ∈ j.canonical.numbers) : n ∈ j.numbers := by
  induction j using Json.induction with
  | null | bool | number | string => exact h
  | array items ih =>
    rw [canonical, canonicalList_eq, mem_numbers_array] at h
    obtain ⟨_, hmem, hn⟩ := h
    obtain ⟨i, hi, rfl⟩ := List.mem_map.1 hmem
    exact (Inside.item hi).mem_numbers (ih i hi hn)
  | object members ih =>
    rw [canonical, ofDict, mem_numbers_object] at h
    obtain ⟨⟨name, _⟩, hmem, hn⟩ := h
    have hget := Dict.get?_eq_some_iff.2 hmem
    rw [get?_canonicalMembers, Dict.get?_empty, Option.or_none] at hget
    obtain ⟨i, hi, rfl⟩ := Option.map_eq_some_iff.1 hget
    have hi := mem_of_member? hi
    exact (Inside.member hi).mem_numbers (ih _ hi hn)

/-- A value has its integers from another, and nests no deeper, or at most as deep as `floor`. -/
structure Within (floor : Nat) (i j : Json) : Prop where
  integers : ∀ k, .int k ∈ i.numbers → .int k ∈ j.numbers
  depth_le : i.depth ≤ max floor j.depth

/-- A value has its integers from another, and is less deep, or less deep than `bound`. -/
structure Below (bound : Nat) (i j : Json) : Prop where
  integers : ∀ k, .int k ∈ i.numbers → .int k ∈ j.numbers
  depth_lt : i.depth < max bound j.depth

lemma Within.inside {inner : Json} (h : Within floor i inner) (hinner : Inside inner j)
    (hfloor : floor < bound) : Below bound i j where
  integers k hk := hinner.mem_numbers (h.integers k hk)
  depth_lt := by
    have hdepth := h.depth_le
    have hlt := hinner.depth_lt
    omega

/-- A value without integers that is not deep is below every other. -/
lemma Within.below_of_null (h : Within floor i .null) (hfloor : floor < bound) (j : Json) :
    Below bound i j where
  integers k hk := nomatch h.integers k hk
  depth_lt := by
    have hdepth : i.depth ≤ max floor 0 := h.depth_le
    omega

lemma within_array {items : List Json} (hpos : 0 < max floor j.depth)
    (h : ∀ i ∈ items, Below floor i j) : Within floor (array items) j where
  integers k hk := by
    obtain ⟨i, hi, hk⟩ := mem_numbers_array.1 hk
    exact (h i hi).integers k hk
  depth_le := by
    have hle : depthOfList items ≤ max floor j.depth - 1 :=
      depthOfList_le_iff.2 fun i hi => Nat.le_sub_one_of_lt (h i hi).depth_lt
    rw [depth]
    omega

lemma within_object {members : List (String × Json)} (hpos : 0 < max floor j.depth)
    (h : ∀ m ∈ members, Below floor m.2 j) : Within floor (object members) j where
  integers k hk := by
    obtain ⟨m, hm, hk⟩ := mem_numbers_object.1 hk
    exact (h m hm).integers k hk
  depth_le := by
    have hle : depthOfMembers members ≤ max floor j.depth - 1 :=
      depthOfMembers_le_iff.2 fun m hm => Nat.le_sub_one_of_lt (h m hm).depth_lt
    rw [depth]
    omega

/-- Where the other is an array or an object, one array or object more does not count. -/
lemma Within.sharpen (h : Within 1 i j) (hpos : 0 < j.depth) : Within 0 i j where
  integers := h.integers
  depth_le := by
    have hdepth := h.depth_le
    omega

lemma within_null : Within floor null j :=
  ⟨fun _ hk => absurd hk List.not_mem_nil, Nat.zero_le _⟩

lemma within_bool (b : Bool) : Within floor (bool b) j :=
  ⟨fun _ hk => absurd hk List.not_mem_nil, Nat.zero_le _⟩

lemma within_string (s : String) : Within floor (string s) j :=
  ⟨fun _ hk => absurd hk List.not_mem_nil, Nat.zero_le _⟩

/-! ### Decoders that stay within -/

/-- The encoding of what is decoded stays within the value. -/
def StaysWithin (floor : Nat) (decode : Json → Option α) (encode : α → Json) : Prop :=
  ∀ j a, decode j = some a → Within floor (encode a) j

/-- The encoding of what a field gives, which may be absent, stays within the field. -/
def FieldStaysWithin (floor : Nat) (decode : Option Json → Option α) (encode : α → Json) : Prop :=
  ∀ field a, decode field = some a → Within floor (encode a) (field.getD .null)

lemma staysWithin_bool : StaysWithin 0 asBool? .bool := fun _ _ _ => within_bool _

lemma staysWithin_string : StaysWithin 0 asString? .string := fun _ _ _ => within_string _

lemma staysWithin_float : StaysWithin 0 asFloat? .float :=
  fun _ _ _ => ⟨fun _ hk => (nomatch List.mem_singleton.1 hk), Nat.zero_le _⟩

lemma staysWithin_int32 : StaysWithin 0 asInt32? .int := by
  intro j k h
  unfold asInt32? asIntWithin? at h
  split at h
  · split at h
    · obtain rfl := Option.some.inj h
      exact ⟨fun _ hk => hk, Nat.zero_le _⟩
    · cases h
  · cases h

lemma staysWithin_canonical : StaysWithin 0 (fun j => some j.canonical) fun j => j := by
  rintro j _ ⟨⟩
  exact ⟨fun k hk => mem_numbers_canonical hk, j.depth_canonical_le.trans (le_max_right _ _)⟩

lemma StaysWithin.list (h : StaysWithin floor decode encode) :
    StaysWithin (floor + 1) (asList? decode) fun as => .array (as.map encode) := by
  intro j as hj
  unfold asList? at hj
  split at hj
  · refine within_array (lt_max_of_lt_left (Nat.succ_pos _)) fun i hi => ?_
    obtain ⟨a, ha, rfl⟩ := List.mem_map.1 hi
    obtain ⟨item, hitem, hdecode⟩ := exists_of_mem_mapM hj ha
    exact (h item a hdecode).inside (.item hitem) (Nat.lt_succ_self _)
  · cases hj

lemma StaysWithin.dict (h : StaysWithin floor decode encode) :
    StaysWithin (floor + 1) (asDict? decode) fun d => ofDict (d.map encode) := by
  intro j d hj
  unfold asDict? at hj
  split at hj
  · obtain ⟨l, hl, rfl⟩ := Option.map_eq_some_iff.1 hj
    refine within_object (lt_max_of_lt_left (Nat.succ_pos _)) fun e he => ?_
    have hget := Dict.get?_eq_some_iff.2 he
    rw [Dict.get?_map, Option.map_eq_some_iff] at hget
    obtain ⟨a, ha, heq⟩ := hget
    obtain ⟨m, hm, hdecode⟩ := exists_of_mem_mapM hl (Dict.mem_of_get?_ofList ha)
    obtain ⟨a', ha', hpair⟩ := Option.map_eq_some_iff.1 hdecode
    rw [← heq, ← (Prod.mk.inj hpair).2]
    exact (h m.2 a' ha').inside (.member hm) (Nat.lt_succ_self _)
  · cases hj

lemma StaysWithin.required (h : StaysWithin floor decode encode) :
    FieldStaysWithin floor (required? decode) encode := by
  rintro (_ | j) a hfield
  · cases hfield
  · exact h j a hfield

lemma StaysWithin.withDefault (h : StaysWithin floor decode encode) {default : α}
    (hdefault : Within floor (encode default) .null) :
    FieldStaysWithin floor (withDefault? default decode) encode := by
  rintro (_ | j) a hfield
  · obtain rfl := Option.some.inj hfield
    exact hdefault
  · exact h j a hfield

lemma StaysWithin.asOption (h : StaysWithin floor decode encode) :
    StaysWithin floor (asOption? decode) (ofOption encode) := by
  intro j o hj
  cases o with
  | none => exact within_null
  | some a =>
    have hne : j ≠ .null := by
      rintro rfl
      cases hj
    rw [asOption?_of_ne_null hne, Option.map_eq_some_iff] at hj
    obtain ⟨_, hj, ⟨⟩⟩ := hj
    exact h j a hj

/-- A field that may be absent or `null`. -/
lemma StaysWithin.optional (h : StaysWithin floor decode encode) :
    FieldStaysWithin floor (optional? decode) (ofOption encode) :=
  h.asOption.withDefault within_null

/-- A list that is empty where it is left out. -/
lemma StaysWithin.listOrEmpty (h : StaysWithin floor decode encode) :
    FieldStaysWithin (floor + 1) (withDefault? [] (asList? decode))
      fun as => .array (as.map encode) :=
  h.list.withDefault ⟨fun _ hk => hk, le_max_of_le_left (Nat.succ_le_succ (Nat.zero_le _))⟩

/-- A dictionary that is empty where it is left out. -/
lemma StaysWithin.dictOrEmpty (h : StaysWithin floor decode encode) :
    FieldStaysWithin (floor + 1) (withDefault? ∅ (asDict? decode))
      fun d => ofDict (d.map encode) :=
  h.dict.withDefault ⟨fun _ hk => hk, le_max_of_le_left (Nat.succ_le_succ (Nat.zero_le _))⟩

/-- What a field of a record gives is below the record. -/
lemma FieldStaysWithin.of_fields {decode : Option Json → Option α}
    (h : FieldStaysWithin floor decode encode) {declared : List (List String)}
    {fields : List (Option Json)} (hfields : j.fields? declared = some fields)
    {field : Option Json} (hmem : field ∈ fields) {a : α} (ha : decode field = some a)
    (hfloor : floor < bound) : Below bound (encode a) j := by
  have hfield := h field a ha
  cases field with
  | none => exact hfield.below_of_null hfloor j
  | some value => exact hfield.inside (inside_of_field hfields hmem) hfloor

end Json

/-! ### Conditions and cohorts -/

open Json

lemma Literal.staysWithin : StaysWithin 0 (fun j => some (ofJson j.canonical)) toJson := by
  rintro j _ ⟨⟩
  have hcanonical : Within 0 j.canonical j := staysWithin_canonical j _ rfl
  cases hj : j.canonical with
  | null | string | object => exact within_string _
  | bool b => exact within_bool b
  | number n =>
    rw [hj] at hcanonical
    exact hcanonical
  | array items =>
    -- the items have become strings
    rw [hj] at hcanonical
    have hpos : 0 < j.depth := by
      have hdepth := hcanonical.depth_le
      rw [depth] at hdepth
      omega
    refine within_array (lt_max_of_lt_right hpos) fun i hi => ?_
    obtain ⟨s, -, rfl⟩ := List.mem_map.1 hi
    exact ⟨fun _ hk => absurd hk List.not_mem_nil, lt_max_of_lt_right hpos⟩

namespace Condition

lemma staysWithin_operator : StaysWithin 0 decodeOperator fun o => .string o.name :=
  fun _ _ _ => within_string _

lemma staysWithin_subject : StaysWithin 0 decodeSubject fun s => .string s.name :=
  fun _ _ _ => within_string _

lemma staysWithin_chain :
    StaysWithin 0 (asList? asString?) fun keys => .array (keys.map .string) := by
  intro j keys h
  refine (staysWithin_string.list j keys h).sharpen ?_
  cases j with
  | array items => exact Nat.succ_pos _
  | null | bool | number | string | object => cases h

theorem staysWithin : StaysWithin 0 decode? encode := by
  intro j c h
  obtain ⟨_, _, _, _, _, _, _, hfields, hkey, hliteral, hoperator, hsubject, hnegation, hchain,
    hindex⟩ := exists_fields_of_decode? h
  have hpos : 0 < j.depth := by
    cases j with
    | null | bool | number | string => cases hfields
    | array | object => exact Nat.succ_pos _
  refine Within.sharpen ?_ hpos
  have hkey : Below 1 _ j := staysWithin_string.required.of_fields hfields (by simp) hkey one_pos
  have hliteral : Below 1 _ j :=
    Literal.staysWithin.optional.of_fields hfields (by simp) hliteral one_pos
  have hoperator : Below 1 _ j :=
    staysWithin_operator.optional.of_fields hfields (by simp) hoperator one_pos
  have hsubject : Below 1 _ j := (staysWithin_subject.withDefault (within_string _)).of_fields
    hfields (by simp) hsubject one_pos
  have hnegation : Below 1 _ j :=
    staysWithin_bool.optional.of_fields hfields (by simp) hnegation one_pos
  have hchain : Below 1 _ j :=
    staysWithin_chain.optional.of_fields hfields (by simp) hchain one_pos
  have hindex : Below 1 _ j :=
    staysWithin_int32.optional.of_fields hfields (by simp) hindex one_pos
  refine within_object (lt_max_of_lt_left one_pos) ?_
  cases hi : c.groupTypeIndex with
  | none => simp [*]
  | some i =>
    rw [hi, ofOption] at hindex
    simp [*]

end Condition

namespace Cohort

variable {junction : Junction} {items encoded : List Json} {j : Json} {floor : Nat}

/-- A node stays within the value that it is read from, if that is deep enough for its items. -/
lemma within_node (hnode : decodeNode? j = some (junction, items))
    (h : ∀ i ∈ encoded, ∃ item ∈ items, Within floor i item) (hfloor : floor + 2 ≤ max 2 j.depth) :
    Within 2 (.object [("type", .string (junctionName junction)), ("values", .array encoded)])
      j := by
  have hvalues : Below 2 (.array encoded) j := by
    constructor
    · intro k hk
      obtain ⟨i, hi, hk⟩ := mem_numbers_array.1 hk
      obtain ⟨item, hitem, hfrom⟩ := h i hi
      obtain ⟨values, raw, hvalues, hraw, rfl⟩ := exists_inside_of_decodeNode? hnode hitem
      exact hvalues.mem_numbers (hraw.mem_numbers (mem_numbers_canonical (hfrom.integers k hk)))
    · have hle : depthOfList encoded ≤ max 2 j.depth - 2 := by
        refine depthOfList_le_iff.2 fun i hi => ?_
        obtain ⟨item, hitem, hfrom⟩ := h i hi
        have hdepth := hfrom.depth_le
        have hitem := depth_add_two_le_of_decodeNode? hnode hitem
        omega
      rw [depth]
      omega
  have hjunction : Below 2 (.string (junctionName junction)) j :=
    (within_string _).below_of_null two_pos j
  exact within_object (lt_max_of_lt_left two_pos) (by simp [hjunction, hvalues])

/-- An empty value is read as a node and written two deep. That adds nothing below another node,
where the first item is two deep as well. -/
theorem staysWithin : StaysWithin 2 decode? encode := by
  intro j tree h
  induction tree using Cohort.induction generalizing j with
  | nodes junction children ih =>
    obtain ⟨items, hnode, hshape, hchildren⟩ := decode?_eq_nodes_iff.1 h
    -- the first item is two deep, so the node is four deep
    have hdeep : 2 + 2 ≤ max 2 j.depth := by
      cases hchildren with
      | nil => cases hshape
      | @cons item child items children hitem hrest =>
        obtain ⟨junction', items', hnode', -⟩ := exists_items_of_decode? hitem
        have hitem := two_le_depth_of_isNodeShaped hnode' hshape
        have houter := depth_add_two_le_of_decodeNode? hnode List.mem_cons_self
        omega
    rw [encode, encodeList_eq]
    refine within_node hnode (fun i hi => ?_) hdeep
    obtain ⟨child, hchild, rfl⟩ := List.mem_map.1 hi
    obtain ⟨item, hitem, hdecode⟩ := exists_of_mem_mapM (mapM_eq_some_iff.2 hchildren) hchild
    exact ⟨item, hitem, ih child hchild item hdecode⟩
  | leaves junction conditions =>
    obtain ⟨items, hnode, -, hconditions⟩ := decode?_eq_leaves_iff.1 h
    rw [encode]
    refine within_node hnode (fun i hi => ?_) (le_max_left _ _)
    obtain ⟨c, hc, rfl⟩ := List.mem_map.1 hi
    obtain ⟨item, hitem, hdecode⟩ := exists_of_mem_mapM (mapM_eq_some_iff.2 hconditions) hc
    exact ⟨item, hitem, Condition.staysWithin item c hdecode⟩

end Cohort

/-! ### Flags -/

theorem ConditionGroup.staysWithin : StaysWithin 2 decode? encode := by
  intro j g h
  simp only [decode?, Option.bind_eq_bind, Option.bind_eq_some_iff] at h
  obtain ⟨fields, hfields, h⟩ := h
  split at h
  · simp only [Option.bind_eq_some_iff] at h
    obtain ⟨_, hconditions, _, hrollout, _, hvariant, ⟨⟩⟩ := h
    have hconditions : Below 2 _ j :=
      Condition.staysWithin.list.optional.of_fields hfields (by simp) hconditions one_lt_two
    have hrollout : Below 2 _ j :=
      staysWithin_float.optional.of_fields hfields (by simp) hrollout two_pos
    have hvariant : Below 2 _ j :=
      staysWithin_string.optional.of_fields hfields (by simp) hvariant two_pos
    exact within_object (lt_max_of_lt_left two_pos) (by simp [hconditions, hrollout, hvariant])
  · cases h

theorem Variant.staysWithin : StaysWithin 1 decode? encode := by
  intro j v h
  simp only [decode?, Option.bind_eq_bind, Option.bind_eq_some_iff] at h
  obtain ⟨fields, hfields, h⟩ := h
  split at h
  · simp only [Option.bind_eq_some_iff] at h
    obtain ⟨_, hkey, _, hname, _, hrollout, ⟨⟩⟩ := h
    have hkey : Below 1 _ j := staysWithin_string.required.of_fields hfields (by simp) hkey one_pos
    have hname : Below 1 _ j :=
      staysWithin_string.optional.of_fields hfields (by simp) hname one_pos
    have hrollout : Below 1 _ j :=
      staysWithin_float.required.of_fields hfields (by simp) hrollout one_pos
    exact within_object (lt_max_of_lt_left one_pos) (by simp [hkey, hname, hrollout])
  · cases h

namespace Targeting

lemma staysWithin_variants : StaysWithin 3 decodeVariants? encodeVariants := by
  intro j vs h
  simp only [decodeVariants?, Option.bind_eq_bind, Option.bind_eq_some_iff] at h
  obtain ⟨fields, hfields, h⟩ := h
  split at h
  · have hvariants : Below 3 _ j :=
      Variant.staysWithin.listOrEmpty.of_fields hfields (by simp) h (by decide)
    exact within_object (lt_max_of_lt_left three_pos) (by simp [hvariants])
  · cases h

lemma staysWithin_payloads : StaysWithin 1 decodePayloads? ofDict := by
  intro j d h
  have hfrom : Within 1 (ofDict (d.map fun j => j)) j := staysWithin_canonical.dict j d h
  rwa [Dict.map_id] at hfrom

theorem staysWithin : StaysWithin 4 decode? encode := by
  intro j t h
  simp only [decode?, Option.bind_eq_bind, Option.bind_eq_some_iff] at h
  obtain ⟨fields, hfields, h⟩ := h
  split at h
  · simp only [Option.bind_eq_some_iff] at h
    obtain ⟨_, hgroups, _, hvariants, _, hindex, _, hpayloads, ⟨⟩⟩ := h
    have hgroups : Below 4 _ j :=
      ConditionGroup.staysWithin.listOrEmpty.of_fields hfields (by simp) hgroups (by decide)
    have hvariants : Below 4 _ j :=
      staysWithin_variants.optional.of_fields hfields (by simp) hvariants (by decide)
    have hindex : Below 4 _ j :=
      staysWithin_int32.optional.of_fields hfields (by simp) hindex (by decide)
    have hpayloads : Below 4 _ j :=
      staysWithin_payloads.optional.of_fields hfields (by simp) hpayloads (by decide)
    exact within_object (lt_max_of_lt_left four_pos)
      (by simp [hgroups, hvariants, hindex, hpayloads])
  · cases h

end Targeting

theorem Flag.staysWithin : StaysWithin 5 decode? encode := by
  intro j f h
  simp only [decode?, Option.bind_eq_bind, Option.bind_eq_some_iff] at h
  obtain ⟨fields, hfields, h⟩ := h
  split at h
  · simp only [Option.bind_eq_some_iff] at h
    obtain ⟨_, hid, _, hname, _, hkey, _, htargeting, _, hdeleted, _, hactive, _, hkeeps, _,
      hversion, ⟨⟩⟩ := h
    have hnobody : Within 4 Targeting.nobody.encode .null := ⟨fun _ hk => hk, by decide⟩
    have hid : Below 5 _ j :=
      staysWithin_int32.required.of_fields hfields (by simp) hid (by decide)
    have hname : Below 5 _ j :=
      staysWithin_string.optional.of_fields hfields (by simp) hname (by decide)
    have hkey : Below 5 _ j :=
      staysWithin_string.required.of_fields hfields (by simp) hkey (by decide)
    have htargeting : Below 5 _ j :=
      (Targeting.staysWithin.withDefault hnobody).of_fields hfields (by simp) htargeting (by decide)
    have hdeleted : Below 5 _ j :=
      (staysWithin_bool.withDefault (within_bool _)).of_fields hfields (by simp) hdeleted
        (by decide)
    have hactive : Below 5 _ j :=
      (staysWithin_bool.withDefault (within_bool _)).of_fields hfields (by simp) hactive (by decide)
    have hkeeps : Below 5 _ j :=
      (staysWithin_bool.withDefault (within_bool _)).of_fields hfields (by simp) hkeeps (by decide)
    have hversion : Below 5 _ j :=
      staysWithin_int32.optional.of_fields hfields (by simp) hversion (by decide)
    exact within_object (lt_max_of_lt_left (by decide)) (by simp [hid, hname, hkey, htargeting,
      hdeleted, hactive, hkeeps, hversion])
  · cases h

/-! ### Documents -/

namespace DefinitionsDocument

variable {j : Json} {d : DefinitionsDocument}

theorem staysWithin : StaysWithin 7 decode? encode := by
  intro j d h
  simp only [decode?, Option.bind_eq_bind, Option.bind_eq_some_iff] at h
  obtain ⟨fields, hfields, h⟩ := h
  split at h
  · simp only [Option.bind_eq_some_iff] at h
    obtain ⟨_, hflags, _, htypes, _, hcohorts, ⟨⟩⟩ := h
    have hflags : Below 7 _ j :=
      Flag.staysWithin.listOrEmpty.of_fields hfields (by simp) hflags (by decide)
    have htypes : Below 7 _ j :=
      staysWithin_string.dictOrEmpty.of_fields hfields (by simp) htypes (by decide)
    have hcohorts : Below 7 _ j :=
      Cohort.staysWithin.dictOrEmpty.of_fields hfields (by simp) hcohorts (by decide)
    exact within_object (lt_max_of_lt_left (by decide)) (by simp [hflags, htypes, hcohorts])
  · cases h

/-- The text of an encoding is read, if its binary64 numbers are. -/
lemma parse?_compact_encode {text : String} (htext : parse? text = some j)
    (h : decode? j = some d)
    (hfloats : ∀ x, .float x ∈ d.encode.numbers → (Number.float x).IsLegible) :
    parse? d.encode.compact = some d.encode := by
  have hfits := fitsWithin_of_parse? htext
  have hwithin := staysWithin j d h
  have hdepth : d.encode.depth ≤ maxDepth :=
    hwithin.depth_le.trans (max_le (by decide) hfits.depth_le)
  refine parse?_compact (fun n hn => ?_) hdepth
  cases n with
  | int k => exact Number.isLegible_int (hfits.isHeld _ (hwithin.integers k hn))
  | float x => exact hfloats x hn

end DefinitionsDocument

/-! ### A document that leaves out what it can -/

/-- A condition whose literal and whose names are not kept as they are given. -/
def terseCondition : Json :=
  .object [("key", .string "plan"), ("type", .string "event"), ("operator", .string "resembles"),
    ("value", .array [.string "pro", .int 3, .null])]

/-- A document with a flag that is given as a list, a cohort with a node that is given as a list,
and without group types. -/
def terseDocument : Json := .object [
  ("cohorts", .object [("1", .object [("values", .array [
    .object [("values", .array []), ("type", .object [("AND", .null)])],
    .array [.string "OR", .array [terseCondition]]])])]),
  ("flags", .array [.array [.int 7, .null, .string "beta", .object [
    ("groups", .array [.object [("rollout_percentage", .int 50)]]),
    ("payloads", .object [("true", .object [("b", .int 1), ("a", .null)])])]]])]

/-- What is read from it. -/
def terseDefinitions : DefinitionsDocument where
  flags := [⟨7, none, "beta", ⟨[⟨none, some (.ofInt 50), none⟩], none, none,
    some (.ofList [("true", .object [("a", .null), ("b", .int 1)])])⟩, false, false, false, none⟩]
  groupTypes := ∅
  cohorts := .ofList [("1", .nodes .any [.leaves .all [], .leaves .any [
    ⟨"plan", some (.list ["pro", "3"]), some .unknown, .person, none, none, none⟩]])]

/-- A text of definitions with one flag, whose rollout is given to seventeen digits. -/
def closeText : String := "[[[1,null,\"a\",[[[null,94.527069555392231]]]]]]"

/-- Definitions with one flag and its rollout. -/
def closeDefinitions (rollout : Float) : DefinitionsDocument where
  flags := [⟨1, none, "a", ⟨[⟨none, some rollout, none⟩], none, none, none⟩, false, false, false,
    none⟩]
  groupTypes := ∅
  cohorts := ∅

end FeatureFlags
