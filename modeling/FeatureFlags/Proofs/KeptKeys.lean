import FeatureFlags.Proofs.CohortReading

/-!
# Which conditions a cohort keeps

A list of a cohort is read as conditions unless its first item has the shape of a node. Then all of
its items are read as nodes. Nodes have a default for every field and no key, so a condition among
them is read as a node as well: its key is dropped, and as a rule it has no items either, which
makes it true for everyone.

Main statement: every node of a cohort keeps the keys of its items as the keys of its conditions,
unless it is read from such a mixed list.
-/

namespace FeatureFlags

/-- A condition that is read from an object has the key of the object. -/
lemma Condition.key_of_member? {j key : Json} {c : Condition} (h : Condition.decode? j = some c)
    (hkey : j.member? "key" = some key) : key = .string c.key := by
  obtain ⟨members, rfl⟩ := Json.exists_members_of_member? (Option.isSome_of_eq_some hkey)
  obtain ⟨field, _, _, _, _, _, _, hfields, hread, -⟩ := Condition.exists_fields_of_decode? h
  obtain _ | ⟨hfield, -⟩ := mapM_eq_some_iff.1 hfields
  have hmember := Json.member?_eq_of_field? hfield
  rw [hkey] at hmember
  subst hmember
  cases key with
  | string s => exact congrArg Json.string (Option.some.inj hread)
  | null | bool | number | array | object => cases hread

namespace Cohort

variable {j : Json} {tree node : Cohort} {junction : Junction} {items : List Json}

/-! ### The nodes of a cohort and the lists they are read from -/

/-- A node of the cohort of a value is read from a list of items: the root from the items of the
value, and a node below it from those of an item. -/
inductive NodeOf : Json → Cohort → List Json → Cohort → Prop
  | root {j : Json} {tree : Cohort} {junction : Junction} {items : List Json} :
    decodeNode? j = some (junction, items) → NodeOf j tree items tree
  | inner {j : Json} {junction : Junction} {items : List Json} {children : List Cohort}
    {item : Json} {child : Cohort} {items' : List Json} {node : Cohort} :
    decodeNode? j = some (junction, items) → (item, child) ∈ items.zip children →
    NodeOf item child items' node → NodeOf j (.nodes junction children) items' node

/-- The key of every item is the key of a condition of the node, at the same place. -/
def KeepsKeys (items : List Json) (node : Cohort) : Prop :=
  ∀ (i : Nat) (item key : Json), items[i]? = some item → item.member? "key" = some key →
    ∃ junction conditions condition, node = .leaves junction conditions ∧
      conditions[i]? = some condition ∧ key = .string condition.key

/-- A list begins like a list of nodes and has an item with a key. -/
def IsMixed (items : List Json) : Prop :=
  items.head?.any isNodeShaped = true ∧ ∃ item ∈ items, (item.member? "key").isSome = true

lemma NodeOf.decode? (h : NodeOf j tree items node) (htree : decode? j = some tree) :
    ∃ j' junction, decodeNode? j' = some (junction, items) ∧ Cohort.decode? j' = some node := by
  induction h with
  | root hnode => exact ⟨_, _, hnode, htree⟩
  | inner hnode hmem _ ih =>
    obtain ⟨items, hnode', -, hchildren⟩ := decode?_eq_nodes_iff.1 htree
    obtain ⟨⟩ := hnode.symm.trans hnode'
    exact ih ((List.forall₂_iff_zip.1 hchildren).2 hmem)

/-- A node that is read from an object has a child exactly if the object lists values. -/
lemma isEmpty_iff_of_decode? (h : Cohort.decode? j = some tree)
    (hobject : ∃ members, j = .object members) :
    tree.isEmpty = true ↔ j.member? "values" = none ∨ j.member? "values" = some (.array []) := by
  obtain ⟨members, rfl⟩ := hobject
  obtain ⟨junction, items, hnode, hempty⟩ := exists_items_of_decode? h
  obtain ⟨type, values, hfields, -, hitems⟩ := decodeNode?_eq_some_iff.1 hnode
  obtain _ | ⟨-, _ | ⟨hvalues, -⟩⟩ := mapM_eq_some_iff.1 hfields
  rw [hempty, Json.member?_eq_of_field? hvalues, List.isEmpty_iff]
  cases values with
  | none => simpa using (Option.some.inj hitems).symm
  | some values =>
    cases values with
    | null | bool | number | string | object => cases hitems
    | array raw =>
      obtain rfl := Option.some.inj ((Json.asList?_canonical raw).symm.trans hitems)
      simp

/-- An empty node is true for everyone. -/
lemma judge_of_isEmpty {σ : Type} (h : tree.isEmpty = true) (leaf : LeafJudge σ) (s : σ) :
    tree.judge leaf s = (.ok true, s) := by
  cases tree with
  | nodes junction children =>
    rw [judge]
    exact if_pos h
  | leaves junction conditions =>
    rw [judge]
    exact if_pos h

/-- What a node joins is read from its items. -/
lemma NodeOf.exists_child (h : NodeOf j tree items node) (htree : Cohort.decode? j = some tree)
    {children : List Cohort} (hnode : node = .nodes junction children) {child : Cohort}
    (hchild : child ∈ children) : ∃ items', NodeOf j tree items' child := by
  induction h with
  | root hitems =>
    subst hnode
    obtain ⟨items, hitems', -, hchildren⟩ := decode?_eq_nodes_iff.1 htree
    obtain ⟨⟩ := hitems.symm.trans hitems'
    rw [← List.map_snd_zip hchildren.length_eq.ge] at hchild
    obtain ⟨⟨item, child⟩, hmem, rfl⟩ := List.mem_map.1 hchild
    obtain ⟨_, items', hitem, -⟩ :=
      exists_items_of_decode? ((List.forall₂_iff_zip.1 hchildren).2 hmem)
    exact ⟨items', .inner hitems hmem (.root hitem)⟩
  | inner hitems hmem _ ih =>
    obtain ⟨items, hitems', -, hchildren⟩ := decode?_eq_nodes_iff.1 htree
    obtain ⟨⟩ := hitems.symm.trans hitems'
    obtain ⟨items', hbelow⟩ := ih ((List.forall₂_iff_zip.1 hchildren).2 hmem) hnode
    exact ⟨items', .inner hitems hmem hbelow⟩

/-- Items that are read as conditions keep their keys. -/
lemma keepsKeys_leaves {conditions : List Condition}
    (h : List.Forall₂ (fun item c => Condition.decode? item = some c) items conditions) :
    KeepsKeys items (.leaves junction conditions) := by
  intro i item key hi hkey
  obtain ⟨hlength, hget⟩ := List.forall₂_iff_get.1 h
  obtain ⟨hlt, rfl⟩ := List.getElem?_eq_some_iff.1 hi
  refine ⟨junction, conditions, conditions[i], rfl, List.getElem?_eq_getElem _, ?_⟩
  exact Condition.key_of_member? (hget i hlt (hlength ▸ hlt)) hkey

/-- Items that are read as nodes keep no keys. -/
lemma keepsKeys_nodes_iff {children : List Cohort} :
    KeepsKeys items (.nodes junction children) ↔ ∀ item ∈ items, item.member? "key" = none := by
  constructor
  · intro h item hitem
    obtain ⟨i, hi⟩ := List.mem_iff_getElem?.1 hitem
    by_contra hne
    obtain ⟨key, hkey⟩ := Option.ne_none_iff_exists'.1 hne
    obtain ⟨_, _, _, ⟨⟩, -⟩ := h i item key hi hkey
  · intro h i item key hi hkey
    cases (h item (List.mem_of_getElem? hi)).symm.trans hkey

/-- Every node of a cohort is read from a list of items. It keeps the keys of its items as the keys
of conditions, item by item, unless its list is mixed. In a mixed list every item is read as a
node, whether it has a key or not. An item with a key that lists no values becomes an empty node,
which is true for everyone. -/
theorem keepsKeys_iff (htree : Cohort.decode? j = some tree) :
    (∃ items, NodeOf j tree items tree) ∧
    ∀ (items : List Json) (node : Cohort), NodeOf j tree items node →
      (∀ junction children, node = .nodes junction children →
        ∀ child ∈ children, ∃ items', NodeOf j tree items' child) ∧
      (KeepsKeys items node ↔ ¬IsMixed items) ∧
      (IsMixed items → ∃ junction children, node = .nodes junction children ∧
        List.Forall₂ (fun item child => Cohort.decode? item = some child ∧
          ((item.member? "key").isSome = true → (child.isEmpty = true ↔
            item.member? "values" = none ∨ item.member? "values" = some (.array []))) ∧
          (child.isEmpty = true →
            ∀ (σ : Type) (leaf : LeafJudge σ) (s : σ), child.judge leaf s = (.ok true, s)))
          items children) := by
  obtain ⟨_, items, hroot, -⟩ := exists_items_of_decode? htree
  refine ⟨⟨items, .root hroot⟩, fun items node hnode =>
    ⟨fun junction children hchildren child => hnode.exists_child htree hchildren, ?_⟩⟩
  obtain ⟨j', junction, hitems, hread⟩ := hnode.decode? htree
  -- how the list of a node is read is told by the node that it became
  cases node with
  | nodes junction' children =>
    obtain ⟨items', hitems', hshape, hchildren⟩ := decode?_eq_nodes_iff.1 hread
    obtain ⟨⟩ := hitems.symm.trans hitems'
    refine ⟨keepsKeys_nodes_iff.trans ?_, fun _ => ⟨junction, children, rfl, ?_⟩⟩
    · simp [IsMixed, hshape, Option.isSome_iff_ne_none]
    · refine hchildren.imp fun item child hchild => ⟨hchild, fun hkey => ?_, fun hempty σ => ?_⟩
      · exact isEmpty_iff_of_decode? hchild (Json.exists_members_of_member? hkey)
      · exact judge_of_isEmpty hempty
  | leaves junction' conditions =>
    obtain ⟨items', hitems', hshape, hconditions⟩ := decode?_eq_leaves_iff.1 hread
    obtain ⟨⟩ := hitems.symm.trans hitems'
    have hnot : ¬IsMixed items := fun h => by simp [h.1] at hshape
    exact ⟨iff_of_true (keepsKeys_leaves hconditions) hnot, fun h => absurd h hnot⟩

/-! ### A condition behind a node -/

/-- A condition, as it is given. -/
def planItem : Json := .object [("key", .string "plan"), ("value", .string "pro")]

/-- A node that joins the condition alone, as it is given. -/
def planNode : Json := .object [("type", .string "OR"), ("values", .array [planItem])]

/-- A cohort whose list has the node first and then the condition. -/
def planTwice : Json :=
  .object [("type", .string "AND"), ("values", .array [planNode, planItem])]

/-- The condition that is read. -/
def planCondition : Condition := ⟨"plan", some (.text "pro"), none, .person, none, none, none⟩

/-- The tree that is read. -/
def planTree : Cohort := .nodes .all [.leaves .any [planCondition], .leaves .any []]

lemma decodeNode?_planTwice : decodeNode? planTwice = some (.all, [planNode, planItem]) := by
  decide

/-- Inside the node the condition keeps its key. Behind the node it is read as an empty node, which
is true for everyone. -/
theorem keepsKeys_iff_planTwice :
    let inner : Cohort := .leaves .any [planCondition]
    Cohort.decode? planTwice = some planTree ∧
    (NodeOf planTwice planTree [planItem] inner ∧ KeepsKeys [planItem] inner) ∧
    (NodeOf planTwice planTree [planNode, planItem] planTree ∧
      ¬KeepsKeys [planNode, planItem] planTree ∧ Cohort.decode? planItem = some (.leaves .any []) ∧
      ∀ (leaf : LeafJudge Memo) (memo : Memo),
        (Cohort.leaves .any []).judge leaf memo = (.ok true, memo)) := by
  intro inner
  have htree : Cohort.decode? planTwice = some planTree := by decide
  have hroot : NodeOf planTwice planTree [planNode, planItem] planTree :=
    .root decodeNode?_planTwice
  have hnode : decodeNode? planNode = some (.any, [planItem]) := by decide
  have hinner : NodeOf planTwice planTree [planItem] inner :=
    .inner decodeNode?_planTwice List.mem_cons_self (.root hnode)
  have hpure : ¬IsMixed [planItem] := fun h => absurd h.1 (by decide)
  have hmixed : IsMixed [planNode, planItem] :=
    ⟨by decide, planItem, List.mem_cons_of_mem _ List.mem_cons_self, by decide⟩
  obtain ⟨-, hnodes⟩ := keepsKeys_iff htree
  obtain ⟨-, hkeepsInner, -⟩ := hnodes _ _ hinner
  obtain ⟨-, hkeeps, hread⟩ := hnodes _ _ hroot
  obtain ⟨junction, children, heq, hchildren⟩ := hread hmixed
  obtain ⟨rfl, rfl⟩ := Cohort.nodes.inj heq
  obtain _ | ⟨-, _ | ⟨⟨hitem, -, htrue⟩, -⟩⟩ := hchildren
  exact ⟨htree, ⟨hinner, hkeepsInner.2 hpure⟩, hroot,
    fun h => hkeeps.1 h hmixed, hitem, htrue rfl Memo⟩

/-- The key of a condition behind a node is lost. -/
theorem condition_read_as_node : ¬∀ (j : Json) (tree node : Cohort) (items : List Json),
    Cohort.decode? j = some tree → NodeOf j tree items node → KeepsKeys items node := by
  intro h
  have hkeeps := h planTwice planTree planTree [planNode, planItem] (by decide)
    (.root decodeNode?_planTwice)
  obtain ⟨_, _, _, ⟨⟩, -⟩ := hkeeps 1 planItem (.string "plan") rfl (by decide)

end Cohort

end FeatureFlags
