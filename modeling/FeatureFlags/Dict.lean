/-!
# Finite maps keyed by text

A `Dict` lists its entries in strictly increasing order of the keys, so two dictionaries that
hold the same values under the same keys are equal, and listing one needs no sorting. Keys are
ordered by code point.
-/

namespace FeatureFlags

/-- The keys of a list of entries increase strictly. -/
def Ascending {α : Type} (entries : List (String × α)) : Prop :=
  entries.Pairwise fun a b => a.1 < b.1

/-- A finite map from text, listed by increasing key. -/
structure Dict (α : Type) where
  entries : List (String × α)
  ascending : Ascending entries

namespace Dict

variable {α β : Type}

/-! ### Insertion into a list of entries -/

/-- Put a value under a key, in place of what was there. -/
def insertEntry (k : String) (v : α) : List (String × α) → List (String × α)
  | [] => [(k, v)]
  | e :: rest =>
    if k < e.1 then (k, v) :: e :: rest
    else if k = e.1 then (k, v) :: rest
    else e :: insertEntry k v rest

private theorem lt_of_not_lt_of_ne {a b : String} (h : ¬a < b) (hne : ¬a = b) : b < a := by
  rcases Classical.em (b < a) with h' | h'
  · exact h'
  · exact absurd (String.le_antisymm (String.not_lt.1 h') (String.not_lt.1 h)) hne

theorem mem_insertEntry {k : String} {v : α} {l : List (String × α)} {e : String × α}
    (h : e ∈ insertEntry k v l) : e = (k, v) ∨ e ∈ l := by
  induction l with
  | nil => simpa [insertEntry] using h
  | cons a rest ih =>
    simp only [insertEntry] at h
    split at h
    · simpa using h
    · split at h
      · rcases List.mem_cons.1 h with h | h
        · exact .inl h
        · exact .inr (List.mem_cons_of_mem _ h)
      · rcases List.mem_cons.1 h with h | h
        · exact .inr (h ▸ List.mem_cons_self)
        · exact (ih h).imp_right (List.mem_cons_of_mem _)

theorem ascending_insertEntry (k : String) (v : α) {l : List (String × α)} (h : Ascending l) :
    Ascending (insertEntry k v l) := by
  induction l with
  | nil => simp [insertEntry, Ascending]
  | cons a rest ih =>
    obtain ⟨ha, hr⟩ := List.pairwise_cons.1 h
    simp only [insertEntry]
    split
    · rename_i hk
      refine List.pairwise_cons.2 ⟨fun e he => ?_, h⟩
      rcases List.mem_cons.1 he with rfl | he
      · exact hk
      · exact String.lt_trans hk (ha e he)
    · split
      · rename_i hk
        exact List.pairwise_cons.2 ⟨fun e he => hk ▸ ha e he, hr⟩
      · rename_i hlt hne
        refine List.pairwise_cons.2 ⟨fun e he => ?_, ih hr⟩
        rcases mem_insertEntry he with rfl | he
        · exact lt_of_not_lt_of_ne hlt hne
        · exact ha e he

/-! ### Dictionaries -/

/-- The dictionary without entries. -/
def empty : Dict α := ⟨[], List.Pairwise.nil⟩

instance : EmptyCollection (Dict α) := ⟨empty⟩
instance : Inhabited (Dict α) := ⟨empty⟩

/-- Put a value under a key, in place of what was there. -/
def insert (d : Dict α) (k : String) (v : α) : Dict α :=
  ⟨insertEntry k v d.entries, ascending_insertEntry k v d.ascending⟩

/-- The dictionary of these entries; of several under one key the last counts. -/
def ofList (l : List (String × α)) : Dict α := l.foldl (fun d e => d.insert e.1 e.2) empty

/-- The value under a key. -/
def get? (d : Dict α) (k : String) : Option α := (d.entries.find? fun e => e.1 = k).map Prod.snd

/-- Is there a value under this key? -/
def contains (d : Dict α) (k : String) : Bool := (d.get? k).isSome

/-- The keys, in increasing order. -/
def keys (d : Dict α) : List String := d.entries.map Prod.fst

/-- The values, in the order of their keys. -/
def values (d : Dict α) : List α := d.entries.map Prod.snd

/-- How many keys there are. -/
def size (d : Dict α) : Nat := d.entries.length

/-- Is there no key at all? -/
def isEmpty (d : Dict α) : Bool := d.entries.isEmpty

/-- All entries of both; where both have a key, the second counts. -/
def union (d e : Dict α) : Dict α := e.entries.foldl (fun d x => d.insert x.1 x.2) d

/-- The dictionary without one key. -/
def erase (d : Dict α) (k : String) : Dict α :=
  ⟨d.entries.filter (·.1 ≠ k), d.ascending.filter _⟩

private theorem ascending_map (f : String → α → β) {l : List (String × α)} (h : Ascending l) :
    Ascending (l.map fun e => (e.1, f e.1 e.2)) :=
  List.pairwise_map.2 h

/-- Change every value, looking at its key. -/
def mapWithKey (f : String → α → β) (d : Dict α) : Dict β :=
  ⟨d.entries.map fun e => (e.1, f e.1 e.2), ascending_map f d.ascending⟩

/-- Change every value. -/
def map (f : α → β) (d : Dict α) : Dict β := d.mapWithKey fun _ => f

@[ext] theorem ext_entries {d e : Dict α} (h : d.entries = e.entries) : d = e := by
  cases d; cases e; cases h; rfl

instance [DecidableEq α] : DecidableEq (Dict α) := fun d e =>
  if h : d.entries = e.entries then isTrue (ext_entries h) else isFalse fun he => h (he ▸ rfl)

instance [Repr α] : Repr (Dict α) := ⟨fun d n => reprPrec d.entries n⟩

/-! ### Lookup -/

@[simp] theorem get?_empty (k : String) : (∅ : Dict α).get? k = none := rfl

theorem find?_insertEntry (k k' : String) (v : α) (l : List (String × α)) :
    ((insertEntry k v l).find? fun e => e.1 = k').map Prod.snd
      = if k = k' then some v else (l.find? fun e => e.1 = k').map Prod.snd := by
  induction l with
  | nil =>
    by_cases h : k = k' <;> simp [insertEntry, h]
  | cons a rest ih =>
    simp only [insertEntry]
    split
    · by_cases h : k = k' <;> simp [h]
    · split
      · rename_i hk
        by_cases h : k = k'
        · simp [h]
        · have : ¬a.1 = k' := fun ha => h (hk.trans ha)
          simp [h, this]
      · rename_i hne
        by_cases ha : a.1 = k'
        · have : ¬k = k' := fun h => hne (h.trans ha.symm)
          simp [ha, this]
        · simpa [ha] using ih

@[simp] theorem get?_insert (d : Dict α) (k k' : String) (v : α) :
    (d.insert k v).get? k' = if k = k' then some v else d.get? k' :=
  find?_insertEntry k k' v d.entries

theorem mem_entries_of_get? {d : Dict α} {k : String} {v : α} (h : d.get? k = some v) :
    (k, v) ∈ d.entries := by
  obtain ⟨e, he, rfl⟩ := Option.map_eq_some_iff.1 h
  have hk : e.1 = k := by simpa using List.find?_some he
  exact hk ▸ List.mem_of_find?_eq_some he

theorem mem_keys_of_get? {d : Dict α} {k : String} {v : α} (h : d.get? k = some v) :
    k ∈ d.keys :=
  List.mem_map_of_mem (mem_entries_of_get? h)

theorem get?_insert_self (d : Dict α) (k : String) (v : α) : (d.insert k v).get? k = some v := by
  simp

/-! ### Entries under different keys -/

/-- No key has two entries in a list. -/
def Distinct (l : List (String × α)) : Prop := l.Pairwise fun a b => a.1 ≠ b.1

theorem distinct_entries (d : Dict α) : Distinct d.entries := by
  refine List.Pairwise.imp (fun {a b} hlt heq => ?_) d.ascending
  rw [heq] at hlt
  exact String.lt_irrefl _ hlt

theorem Distinct.find?_eq_some_iff {l : List (String × α)} (h : Distinct l) {k : String} {v : α} :
    (l.find? fun e => e.1 = k).map Prod.snd = some v ↔ (k, v) ∈ l := by
  induction l with
  | nil => simp
  | cons a rest ih =>
    obtain ⟨ha, hrest⟩ := List.pairwise_cons.1 h
    by_cases hk : a.1 = k
    · subst hk
      have hnot : (a.1, v) ∉ rest := fun hmem => ha _ hmem rfl
      simp [hnot, Prod.ext_iff, eq_comm]
    · have hne : ¬(k, v) = a := fun heq => hk (heq ▸ rfl)
      simpa [hk, hne] using ih hrest

theorem get?_eq_some_iff {d : Dict α} {k : String} {v : α} :
    d.get? k = some v ↔ (k, v) ∈ d.entries :=
  d.distinct_entries.find?_eq_some_iff

theorem Distinct.get?_foldl_insert {l : List (String × α)} (h : Distinct l) (d : Dict α)
    (k : String) : (l.foldl (fun d e => d.insert e.1 e.2) d).get? k =
      ((l.find? fun e => e.1 = k).map Prod.snd).or (d.get? k) := by
  induction l generalizing d with
  | nil => simp
  | cons a rest ih =>
    obtain ⟨ha, hrest⟩ := List.pairwise_cons.1 h
    rw [List.foldl_cons, ih hrest, get?_insert]
    by_cases hk : a.1 = k
    · have hnone : rest.find? (fun e => e.1 = k) = none :=
        List.find?_eq_none.2 fun e he => by simpa [← hk] using (ha e he).symm
      simp [hk, hnone]
    · simp [hk]

@[simp] theorem get?_union (d e : Dict α) (k : String) :
    (d.union e).get? k = (e.get? k).or (d.get? k) :=
  e.distinct_entries.get?_foldl_insert d k

theorem Distinct.get?_ofList_eq_some_iff {l : List (String × α)} (h : Distinct l) {k : String}
    {v : α} : (ofList l).get? k = some v ↔ (k, v) ∈ l := by
  have hget : (ofList l).get? k = _ := h.get?_foldl_insert empty k
  rw [hget, show (empty : Dict α).get? k = none from rfl, Option.or_none, h.find?_eq_some_iff]

theorem mem_of_get?_foldl_insert {l : List (String × α)} {d : Dict α} {k : String} {v : α}
    (h : (l.foldl (fun d e => d.insert e.1 e.2) d).get? k = some v) :
    (k, v) ∈ l ∨ d.get? k = some v := by
  induction l generalizing d with
  | nil => exact .inr h
  | cons a rest ih =>
    rcases ih h with hmem | hget
    · exact .inl (List.mem_cons_of_mem a hmem)
    · rw [get?_insert] at hget
      split at hget
      · rename_i hk
        obtain rfl := Option.some.inj hget
        exact .inl (hk ▸ List.mem_cons_self)
      · exact .inr hget

theorem mem_of_get?_ofList {l : List (String × α)} {k : String} {v : α}
    (h : (ofList l).get? k = some v) : (k, v) ∈ l :=
  (mem_of_get?_foldl_insert h).resolve_right nofun

end Dict

end FeatureFlags
