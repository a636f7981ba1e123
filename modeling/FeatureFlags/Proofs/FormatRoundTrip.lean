import FeatureFlags.Definitions
import FeatureFlags.Proofs.CohortReading

/-!
# Definitions are read back

Definitions are sent in many forms: fields are left out, records are given as lists, literals and
operators are written in ways that are not kept. What was read from any of these forms is read
again from its encoding.
-/

namespace FeatureFlags

open Json

/-! ### Conditions -/

lemma Literal.canonical_toJson (l : Literal) : l.toJson.canonical = l.toJson := by
  cases l with
  | bool | number | text => rfl
  | list items =>
    rw [toJson, canonical, canonicalList_eq, List.map_map]
    rfl

lemma Literal.readsBack : ReadsBack (fun j => some (ofJson j.canonical)) toJson := by
  intro j l _
  constructor
  · rw [canonical_toJson, ofJson_toJson]
  · rw [canonical_toJson, canonical_toJson, ofJson_toJson]

lemma Literal.toJson_ne_null (l : Literal) : l.toJson ≠ .null := by
  cases l <;> nofun

namespace Condition

lemma readsBack_operator : ReadsBack decodeOperator fun o => .string o.name := by
  intro j o _
  constructor
  · simp [decodeOperator, asString?]
  · simp [decodeOperator, asString?, Json.canonical]

lemma readsBack_subject : ReadsBack decodeSubject fun s => .string s.name := by
  intro j s _
  constructor
  · simp [decodeSubject, asOption?, asString?]
  · simp [decodeSubject, asOption?, asString?, Json.canonical]

theorem readsBack : ReadsBack decode? encode := by
  intro j c h
  obtain ⟨_, _, _, _, _, _, index, -, hkey, hliteral, hoperator, hsubject, hnegation, hchain,
    hindex⟩ := exists_fields_of_decode? h
  have hkey := readsBack_string.required _ _ hkey
  have hliteral := Literal.readsBack.optional Literal.toJson_ne_null _ _ hliteral
  have hoperator := readsBack_operator.optional (fun _ => nofun) _ _ hoperator
  have hsubject := readsBack_subject.withDefault ⟨rfl, rfl⟩ _ _ hsubject
  have hnegation := readsBack_bool.optional (fun _ => nofun) _ _ hnegation
  have hchain := readsBack_string.list.optional (fun _ => nofun) _ _ hchain
  have hindex : Json.optional? Json.asInt32? (c.groupTypeIndex.map .int) = some c.groupTypeIndex ∧
      Json.optional? Json.asInt32? ((c.groupTypeIndex.map .int).map Json.canonical) =
        some c.groupTypeIndex := by
    have hread := readsBack_int32.optional (fun _ => nofun) index _ hindex
    cases hi : c.groupTypeIndex with
    | none => exact ⟨rfl, rfl⟩
    | some i =>
      rw [hi] at hread
      exact ⟨hread.plain, hread.canonical⟩
  have hfields : c.encode.fields? fieldNames = some [
      some (.string c.key), some (.ofOption Literal.toJson c.literal),
      some (.ofOption (fun o => .string o.name) c.givenOperator), some (.string c.subject.name),
      some (.ofOption .bool c.negation),
      some (.ofOption (fun keys => .array (keys.map .string)) c.dependencyChain),
      c.groupTypeIndex.map .int] := by
    simp only [encode]
    cases c.groupTypeIndex <;> rfl
  refine .of_fields ?_ hfields ?_ ?_
  · cases c.groupTypeIndex <;> simp [Dict.Distinct]
  · simp [hkey.plain, hliteral.plain, hoperator.plain, hsubject.plain, hnegation.plain,
      hchain.plain, hindex.1]
  · simp [-Option.map_map, hkey.canonical, hliteral.canonical, hoperator.canonical,
      hsubject.canonical, hnegation.canonical, hchain.canonical, hindex.2]

end Condition

/-! ### Cohorts -/

namespace Cohort

variable {junction : Junction} {raw : List Json}

lemma encodeList_eq (trees : List Cohort) : encodeList trees = trees.map encode := by
  induction trees with
  | nil => rfl
  | cons tree trees ih => rw [encodeList, ih, List.map_cons]

lemma decodeJunction?_junctionName (junction : Junction) :
    decodeJunction? (.string (junctionName junction)) = some junction := by
  cases junction <;> decide

/-- The items of a node are taken in canonical form, in whatever form the node is. -/
lemma readsAs_node : ReadsAs decodeNode?
    (.object [("type", .string (junctionName junction)), ("values", .array raw)])
    (junction, raw.map Json.canonical) := by
  have hdistinct : Dict.Distinct
      [("type", .string (junctionName junction)), ("values", Json.array raw)] := by
    simp [Dict.Distinct]
  have hjunction := decodeJunction?_junctionName junction
  constructor
  · exact decodeNode?_eq_some_iff.2 ⟨_, _, rfl, hjunction, asList?_canonical raw⟩
  · refine decodeNode?_eq_some_iff.2 ⟨_, _, fields?_canonical hdistinct _, hjunction, ?_⟩
    have hitems : (raw.map Json.canonical).map Json.canonical = raw.map Json.canonical := by simp
    simp only [Option.map_some, withDefault?, Json.canonical, canonicalList_eq]
    rw [asList?_canonical, hitems]

lemma isNodeShaped_canonical (j : Json) : isNodeShaped j.canonical = isNodeShaped j := by
  cases j with
  | null | bool | number | string | array => rfl
  | object members =>
    simp only [isNodeShaped, member?_canonical, Option.isNone_map, Option.isSome_map]

lemma isNodeShaped_encode (tree : Cohort) : isNodeShaped tree.encode = true := by
  cases tree <;> rfl

lemma isNodeShaped_encode_condition (c : Condition) : isNodeShaped c.encode = false := by
  rw [isNodeShaped, Condition.encode]
  cases c.groupTypeIndex <;> rfl

theorem readsBack : ReadsBack decode? encode := by
  intro j tree h
  induction tree using Cohort.induction generalizing j with
  | nodes junction children ih =>
    obtain ⟨items, -, hshape, hchildren⟩ := decode?_eq_nodes_iff.1 h
    have hnode : ReadsAs decodeNode? (nodes junction children).encode
        (junction, (children.map encode).map Json.canonical) := by
      rw [encode, encodeList_eq]
      exact readsAs_node
    -- the first child is written with a list, so it has the shape of a node
    have hhead : ((children.map encode).map Json.canonical).head?.any isNodeShaped = true := by
      cases hchildren with
      | nil => cases hshape
      | cons => simp [isNodeShaped_canonical, isNodeShaped_encode]
    have hread : List.Forall₂ (fun item child => decode? item = some child)
        ((children.map encode).map Json.canonical) children := by
      rw [List.map_map, List.forall₂_map_left_iff, List.forall₂_same]
      intro child hchild
      obtain ⟨item, -, hitem⟩ := exists_of_mem_mapM (mapM_eq_some_iff.2 hchildren) hchild
      exact (ih child hchild item hitem).canonical
    exact ⟨decode?_eq_nodes_iff.2 ⟨_, hnode.plain, hhead, hread⟩,
      decode?_eq_nodes_iff.2 ⟨_, hnode.canonical, hhead, hread⟩⟩
  | leaves junction conditions =>
    obtain ⟨items, -, -, hconditions⟩ := decode?_eq_leaves_iff.1 h
    have hnode : ReadsAs decodeNode? (leaves junction conditions).encode
        (junction, (conditions.map Condition.encode).map Json.canonical) := by
      rw [encode]
      exact readsAs_node
    have hhead : ((conditions.map Condition.encode).map Json.canonical).head?.any isNodeShaped =
        false := by
      cases conditions <;> simp [isNodeShaped_canonical, isNodeShaped_encode_condition]
    have hread : List.Forall₂ (fun item c => Condition.decode? item = some c)
        ((conditions.map Condition.encode).map Json.canonical) conditions := by
      rw [List.map_map, List.forall₂_map_left_iff, List.forall₂_same]
      intro c hc
      obtain ⟨item, -, hitem⟩ := exists_of_mem_mapM (mapM_eq_some_iff.2 hconditions) hc
      exact (Condition.readsBack item c hitem).canonical
    exact ⟨decode?_eq_leaves_iff.2 ⟨_, hnode.plain, hhead, hread⟩,
      decode?_eq_leaves_iff.2 ⟨_, hnode.canonical, hhead, hread⟩⟩

end Cohort

/-! ### Flags -/

theorem ConditionGroup.readsBack : ReadsBack decode? encode := by
  intro j g h
  simp only [decode?, Option.bind_eq_bind, Option.bind_eq_some_iff] at h
  obtain ⟨fields, -, h⟩ := h
  split at h
  · simp only [Option.bind_eq_some_iff] at h
    obtain ⟨_, hconditions, _, hrollout, _, hvariant, ⟨⟩⟩ := h
    have hconditions := Condition.readsBack.list.optional (fun _ => nofun) _ _ hconditions
    have hrollout := readsBack_float.optional (fun _ => nofun) _ _ hrollout
    have hvariant := readsBack_string.optional (fun _ => nofun) _ _ hvariant
    refine .of_fields (by simp [Dict.Distinct]) rfl ?_ ?_
    · simp [hconditions.plain, hrollout.plain, hvariant.plain]
    · simp [hconditions.canonical, hrollout.canonical, hvariant.canonical]
  · cases h

theorem Variant.readsBack : ReadsBack decode? encode := by
  intro j v h
  simp only [decode?, Option.bind_eq_bind, Option.bind_eq_some_iff] at h
  obtain ⟨fields, -, h⟩ := h
  split at h
  · simp only [Option.bind_eq_some_iff] at h
    obtain ⟨_, hkey, _, hname, _, hrollout, ⟨⟩⟩ := h
    have hkey := readsBack_string.required _ _ hkey
    have hname := readsBack_string.optional (fun _ => nofun) _ _ hname
    have hrollout := readsBack_float.required _ _ hrollout
    refine .of_fields (by simp [Dict.Distinct]) rfl ?_ ?_
    · simp [hkey.plain, hname.plain, hrollout.plain]
    · simp [hkey.canonical, hname.canonical, hrollout.canonical]
  · cases h

namespace Targeting

theorem readsBack_variants : ReadsBack decodeVariants? encodeVariants := by
  intro j vs h
  simp only [decodeVariants?, Option.bind_eq_bind, Option.bind_eq_some_iff] at h
  obtain ⟨fields, -, h⟩ := h
  split at h
  · have hvariants := Variant.readsBack.list.withDefault ⟨rfl, rfl⟩ _ _ h
    refine .of_fields (by simp [Dict.Distinct]) rfl ?_ ?_
    · simp [hvariants.plain]
    · simp [hvariants.canonical]
  · cases h

theorem readsBack_payloads : ReadsBack decodePayloads? ofDict := by
  intro j d h
  have hread : ReadsAs decodePayloads? (ofDict (d.map fun j => j)) d :=
    readsBack_canonical.dict j d h
  rwa [Dict.map_id] at hread

theorem readsBack : ReadsBack decode? encode := by
  intro j t h
  simp only [decode?, Option.bind_eq_bind, Option.bind_eq_some_iff] at h
  obtain ⟨fields, -, h⟩ := h
  split at h
  · simp only [Option.bind_eq_some_iff] at h
    obtain ⟨_, hgroups, _, hvariants, _, hindex, _, hpayloads, ⟨⟩⟩ := h
    have hgroups := ConditionGroup.readsBack.list.withDefault ⟨rfl, rfl⟩ _ _ hgroups
    have hvariants := readsBack_variants.optional (fun _ => nofun) _ _ hvariants
    have hindex := readsBack_int32.optional (fun _ => nofun) _ _ hindex
    have hpayloads := readsBack_payloads.optional (fun _ => nofun) _ _ hpayloads
    refine .of_fields (by simp [Dict.Distinct]) rfl ?_ ?_
    · simp [hgroups.plain, hvariants.plain, hindex.plain, hpayloads.plain]
    · simp [hgroups.canonical, hvariants.canonical, hindex.canonical, hpayloads.canonical]
  · cases h

lemma readsAs_nobody : ReadsAs decode? (encode nobody) nobody := ⟨rfl, rfl⟩

end Targeting

theorem Flag.readsBack : ReadsBack decode? encode := by
  intro j f h
  simp only [decode?, Option.bind_eq_bind, Option.bind_eq_some_iff] at h
  obtain ⟨fields, -, h⟩ := h
  split at h
  · simp only [Option.bind_eq_some_iff] at h
    obtain ⟨_, hid, _, hname, _, hkey, _, htargeting, _, hdeleted, _, hactive, _, hkeeps, _,
      hversion, ⟨⟩⟩ := h
    have hid := readsBack_int32.required _ _ hid
    have hname := readsBack_string.optional (fun _ => nofun) _ _ hname
    have hkey := readsBack_string.required _ _ hkey
    have htargeting := Targeting.readsBack.withDefault Targeting.readsAs_nobody _ _ htargeting
    have hdeleted := readsBack_bool.withDefault ⟨rfl, rfl⟩ _ _ hdeleted
    have hactive := readsBack_bool.withDefault ⟨rfl, rfl⟩ _ _ hactive
    have hkeeps := readsBack_bool.withDefault ⟨rfl, rfl⟩ _ _ hkeeps
    have hversion := readsBack_int32.optional (fun _ => nofun) _ _ hversion
    refine .of_fields (by simp [Dict.Distinct]) rfl ?_ ?_
    · simp [hid.plain, hname.plain, hkey.plain, htargeting.plain, hdeleted.plain, hactive.plain,
        hkeeps.plain, hversion.plain]
    · simp [hid.canonical, hname.canonical, hkey.canonical, htargeting.canonical,
        hdeleted.canonical, hactive.canonical, hkeeps.canonical, hversion.canonical]
  · cases h

/-! ### Documents -/

namespace DefinitionsDocument

variable {j : Json} {d : DefinitionsDocument}

lemma readsBack : ReadsBack decode? encode := by
  intro j d h
  simp only [decode?, Option.bind_eq_bind, Option.bind_eq_some_iff] at h
  obtain ⟨fields, -, h⟩ := h
  split at h
  · simp only [Option.bind_eq_some_iff] at h
    obtain ⟨_, hflags, _, htypes, _, hcohorts, ⟨⟩⟩ := h
    have hflags := Flag.readsBack.list.withDefault ⟨rfl, rfl⟩ _ _ hflags
    have htypes := readsBack_string.dict.withDefault ⟨rfl, rfl⟩ _ _ htypes
    have hcohorts := Cohort.readsBack.dict.withDefault ⟨rfl, rfl⟩ _ _ hcohorts
    refine .of_fields (by simp [Dict.Distinct]) rfl ?_ ?_
    · simp [hflags.plain, htypes.plain, hcohorts.plain]
    · simp [hflags.canonical, htypes.canonical, hcohorts.canonical]
  · cases h

end DefinitionsDocument

end FeatureFlags
