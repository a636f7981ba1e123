import FeatureFlags.Proofs.Lockstep
import FeatureFlags.Proofs.ReadBack

/-!
# How cohorts are read

The bound on how deep the nodes of a cohort may nest is the depth of the value that is read. Items
lie less deep than their node, also in canonical form, so the bound is never reached, and what is
read is told by an equation without it: the first item of a list decides how all of them are read.
-/

namespace FeatureFlags

/-! ### Conditions -/

namespace Condition

variable {j : Json} {c : Condition}

/-- A condition has each of its parts from a field of its own. -/
lemma exists_fields_of_decode? (h : decode? j = some c) :
    ∃ key literal operator subject negation chain index,
      j.fields? fieldNames = some [key, literal, operator, subject, negation, chain, index] ∧
      Json.required? Json.asString? key = some c.key ∧
      Json.optional? (fun j => some (.ofJson j.canonical)) literal = some c.literal ∧
      Json.optional? decodeOperator operator = some c.givenOperator ∧
      Json.withDefault? .person decodeSubject subject = some c.subject ∧
      Json.optional? Json.asBool? negation = some c.negation ∧
      Json.optional? (Json.asList? Json.asString?) chain = some c.dependencyChain ∧
      Json.optional? Json.asInt32? index = some c.groupTypeIndex := by
  simp only [decode?, Option.bind_eq_bind, Option.bind_eq_some_iff] at h
  obtain ⟨fields, hfields, h⟩ := h
  split at h
  · simp only [Option.bind_eq_some_iff] at h
    obtain ⟨_, hkey, _, hliteral, _, hoperator, _, hsubject, _, hnegation, _, hchain, _, hindex,
      ⟨⟩⟩ := h
    exact ⟨_, _, _, _, _, _, _, hfields, hkey, hliteral, hoperator, hsubject, hnegation, hchain,
      hindex⟩
  · cases h

end Condition

namespace Cohort

variable {j : Json} {junction : Junction} {items : List Json}

/-! ### Nodes -/

lemma decodeNode?_eq_some_iff : decodeNode? j = some (junction, items) ↔
    ∃ type values, j.fields? fieldNames = some [type, values] ∧
      Json.withDefault? .any decodeJunction? type = some junction ∧
      Json.withDefault? [] (Json.asList? fun j => some j.canonical) values = some items := by
  constructor
  · intro h
    simp only [decodeNode?, Option.bind_eq_bind, Option.bind_eq_some_iff] at h
    obtain ⟨fields, hfields, h⟩ := h
    split at h
    · rename_i type values
      obtain ⟨junction', hjunction, items', hitems, heq⟩ := by
        simpa only [Option.bind_eq_some_iff] using h
      cases heq
      exact ⟨type, values, hfields, hjunction, hitems⟩
    · cases h
  · rintro ⟨type, values, hfields, hjunction, hitems⟩
    simp [decodeNode?, hfields, hjunction, hitems]

/-- The items of a node are the canonical forms of what stands in its list. -/
lemma exists_inside_of_decodeNode? (h : decodeNode? j = some (junction, items)) {item : Json}
    (hitem : item ∈ items) :
    ∃ values raw, Json.Inside values j ∧ Json.Inside raw values ∧ item = raw.canonical := by
  obtain ⟨type, values, hfields, -, hitems⟩ := decodeNode?_eq_some_iff.1 h
  cases values with
  | none =>
    obtain rfl := Option.some.inj hitems
    cases hitem
  | some values =>
    have hvalues : Json.Inside values j :=
      Json.inside_of_field hfields (List.mem_cons_of_mem _ List.mem_cons_self)
    cases values with
    | null | bool | number | string | object => cases hitems
    | array raw =>
      have heq := (Json.asList?_canonical raw).symm.trans hitems
      obtain rfl := Option.some.inj heq
      obtain ⟨i, hi, rfl⟩ := List.mem_map.1 hitem
      exact ⟨_, i, hvalues, .item hi, rfl⟩

/-- Items lie two deep in a node, in the list of its values. -/
lemma depth_add_two_le_of_decodeNode? (h : decodeNode? j = some (junction, items)) {item : Json}
    (hitem : item ∈ items) : item.depth + 2 ≤ j.depth := by
  obtain ⟨values, raw, hvalues, hraw, rfl⟩ := exists_inside_of_decodeNode? h hitem
  have hcanonical := raw.depth_canonical_le
  have hinner := hraw.depth_lt
  have houter := hvalues.depth_lt
  omega

lemma depth_lt_of_decodeNode? (h : decodeNode? j = some (junction, items)) {item : Json}
    (hitem : item ∈ items) : item.depth < j.depth :=
  (Nat.lt_add_of_pos_right two_pos).trans_le (depth_add_two_le_of_decodeNode? h hitem)

/-- A node that has its list as the shape of a node asks is at least two deep. -/
lemma two_le_depth_of_isNodeShaped (h : decodeNode? j = some (junction, items))
    (hshape : isNodeShaped j = true) : 2 ≤ j.depth := by
  have hmember : (j.member? "values").isSome = true := (Bool.and_eq_true_iff.1 hshape).2
  obtain ⟨members, rfl⟩ := Json.exists_members_of_member? hmember
  obtain ⟨type, values, hfields, -, hitems⟩ := decodeNode?_eq_some_iff.1 h
  -- its list is one of its members, and a list is itself one deep
  obtain _ | ⟨-, _ | ⟨hvalues, -⟩⟩ := mapM_eq_some_iff.1 hfields
  rw [Json.member?_eq_of_field? hvalues] at hmember
  obtain ⟨value, rfl⟩ := Option.isSome_iff_exists.1 hmember
  have hdepth : value.depth < (Json.object members).depth :=
    (Json.inside_of_field hfields (List.mem_cons_of_mem _ List.mem_cons_self)).depth_lt
  cases value with
  | null | bool | number | string | object => cases hitems
  | array raw =>
    rw [Json.depth] at hdepth
    omega

lemma decodeWithin?_succ (depth : Nat) (j : Json) : decodeWithin? (depth + 1) j =
    (decodeNode? j).bind fun node =>
      if node.2.head?.any isNodeShaped then
        (node.2.mapM (decodeWithin? depth)).map (.nodes node.1)
      else (node.2.mapM Condition.decode?).map (.leaves node.1) := by
  rw [decodeWithin?, Option.bind_eq_bind]
  refine congrArg _ (funext fun node => ?_)
  cases hshape : node.2.head?.any isNodeShaped with
  | true => simp [hshape, Option.map_eq_bind]
  | false => simp [hshape, Option.map_eq_bind]

/-- Two bounds that exceed the depth of a value read it alike. -/
lemma decodeWithin?_eq {bound bound' : Nat} (h : j.depth < bound) (h' : j.depth < bound') :
    decodeWithin? bound j = decodeWithin? bound' j := by
  induction bound generalizing bound' j with
  | zero => exact absurd h (Nat.not_lt_zero _)
  | succ bound ih =>
    obtain ⟨bound', rfl⟩ := Nat.exists_eq_succ_of_ne_zero (Nat.ne_zero_of_lt h')
    rw [decodeWithin?_succ, decodeWithin?_succ]
    refine Option.bind_congr fun node hnode => ?_
    have hitems : node.2.mapM (decodeWithin? bound) = node.2.mapM (decodeWithin? bound') := by
      refine mapM_congr fun item hitem => ih ?_ ?_
      · have := depth_lt_of_decodeNode? hnode hitem
        omega
      · have := depth_lt_of_decodeNode? hnode hitem
        omega
    rw [hitems]

/-- The equation of the recursion, in which no bound occurs. -/
theorem decode?_eq (j : Json) : decode? j = (decodeNode? j).bind fun node =>
    if node.2.head?.any isNodeShaped then (node.2.mapM decode?).map (.nodes node.1)
    else (node.2.mapM Condition.decode?).map (.leaves node.1) := by
  rw [decode?, decodeWithin?_succ]
  refine Option.bind_congr fun node hnode => ?_
  have hitems : node.2.mapM (decodeWithin? j.depth) = node.2.mapM decode? :=
    mapM_congr fun item hitem =>
      decodeWithin?_eq (depth_lt_of_decodeNode? hnode hitem) (Nat.lt_succ_self _)
  rw [hitems]

/-- A node that joins nodes is read from a list whose first item has the shape of a node, and each
item is read as a node. -/
lemma decode?_eq_nodes_iff {children : List Cohort} : decode? j = some (.nodes junction children) ↔
    ∃ items, decodeNode? j = some (junction, items) ∧ items.head?.any isNodeShaped = true ∧
      List.Forall₂ (fun item child => decode? item = some child) items children := by
  rw [decode?_eq, Option.bind_eq_some_iff]
  constructor
  · rintro ⟨⟨junction', items⟩, hnode, h⟩
    split at h
    · rename_i hshape
      obtain ⟨children', hchildren, ⟨⟩⟩ := Option.map_eq_some_iff.1 h
      exact ⟨items, hnode, hshape, mapM_eq_some_iff.1 hchildren⟩
    · obtain ⟨conditions, -, ⟨⟩⟩ := Option.map_eq_some_iff.1 h
  · rintro ⟨items, hnode, hshape, hchildren⟩
    refine ⟨(junction, items), hnode, ?_⟩
    rw [if_pos hshape, mapM_eq_some_iff.2 hchildren, Option.map_some]

/-- A node that joins conditions is read from any other list, and each item is read as a
condition. -/
lemma decode?_eq_leaves_iff {conditions : List Condition} :
    decode? j = some (.leaves junction conditions) ↔
    ∃ items, decodeNode? j = some (junction, items) ∧ items.head?.any isNodeShaped = false ∧
      List.Forall₂ (fun item c => Condition.decode? item = some c) items conditions := by
  rw [decode?_eq, Option.bind_eq_some_iff]
  constructor
  · rintro ⟨⟨junction', items⟩, hnode, h⟩
    split at h
    · obtain ⟨children, -, ⟨⟩⟩ := Option.map_eq_some_iff.1 h
    · rename_i hshape
      obtain ⟨conditions', hconditions, ⟨⟩⟩ := Option.map_eq_some_iff.1 h
      exact ⟨items, hnode, by simpa using hshape, mapM_eq_some_iff.1 hconditions⟩
  · rintro ⟨items, hnode, hshape, hconditions⟩
    refine ⟨(junction, items), hnode, ?_⟩
    rw [if_neg (by simp [hshape]), mapM_eq_some_iff.2 hconditions, Option.map_some]

/-- A cohort is read from a node, and has children if the node has items. -/
lemma exists_items_of_decode? {tree : Cohort} (h : decode? j = some tree) :
    ∃ junction items, decodeNode? j = some (junction, items) ∧ tree.isEmpty = items.isEmpty := by
  cases tree with
  | nodes junction children =>
    obtain ⟨items, hnode, -, hchildren⟩ := decode?_eq_nodes_iff.1 h
    refine ⟨junction, items, hnode, ?_⟩
    cases hchildren <;> rfl
  | leaves junction conditions =>
    obtain ⟨items, hnode, -, hconditions⟩ := decode?_eq_leaves_iff.1 h
    refine ⟨junction, items, hnode, ?_⟩
    cases hconditions <;> rfl

end Cohort

end FeatureFlags
