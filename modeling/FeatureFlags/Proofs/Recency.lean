import FeatureFlags.Cache.Recent
import Mathlib.Data.Finset.Card
import Mathlib.Tactic.Common

/-!
# Recency

No key has two entries, and there are never more entries than fit. An entry is dropped for lack of
room only if as many other keys were used since it was used as there is room for.

This cannot be read off how many entries there are, since entries may be taken out anywhere. What
counts is what lies ahead of an entry: only keys that were used since.
-/

namespace FeatureFlags.Recent

variable {κ α : Type} {r : Recent κ α} {k key : κ} {a b : α} {S : Finset κ}

/-- No key has two entries, and there are no more entries than fit. -/
structure Proper (r : Recent κ α) : Prop where
  nodup : (r.entries.map Prod.fst).Nodup
  fits : r.entries.length ≤ r.capacity

/-- There is an entry under a key, and ahead of it are only entries under keys of a set. -/
def HoldsBehind (r : Recent κ α) (S : Finset κ) (k : κ) (a : α) : Prop :=
  ∃ ahead rest, r.entries = ahead ++ (k, a) :: rest ∧ ∀ e ∈ ahead, e.1 ∈ S

lemma HoldsBehind.mem (h : r.HoldsBehind S k a) : (k, a) ∈ r.entries := by
  obtain ⟨ahead, rest, hsplit, -⟩ := h
  simp [hsplit]

/-! ### Taking entries out -/

lemma proper_empty (room : Nat) : (empty room : Recent κ α).Proper where
  nodup := .nil
  fits := Nat.zero_le _

lemma proper_clear (r : Recent κ α) : r.clear.Proper where
  nodup := .nil
  fits := Nat.zero_le _

lemma mem_keep {p : α → Bool} {e : κ × α} :
    e ∈ (r.keep p).entries ↔ e ∈ r.entries ∧ p e.2 = true := List.mem_filter

lemma Proper.keep (h : r.Proper) (p : α → Bool) : (r.keep p).Proper where
  nodup := h.nodup.sublist (List.filter_sublist.map Prod.fst)
  fits := (List.length_filter_le _ _).trans h.fits

lemma HoldsBehind.keep (h : r.HoldsBehind S k a) {p : α → Bool} (ha : p a = true) :
    (r.keep p).HoldsBehind S k a := by
  obtain ⟨ahead, rest, hsplit, hahead⟩ := h
  refine ⟨ahead.filter fun e => p e.2, rest.filter fun e => p e.2, ?_, fun e he => ?_⟩
  · simp [Recent.keep, hsplit, ha]
  · exact hahead e (List.mem_of_mem_filter he)

/-! ### Finding entries -/

variable [DecidableEq κ]

lemma mem_of_find? (h : r.find? k = some a) : (k, a) ∈ r.entries := by
  obtain ⟨e, he, rfl⟩ := Option.map_eq_some_iff.1 h
  have hk : e.1 = k := by simpa using List.find?_some he
  exact hk ▸ List.mem_of_find?_eq_some he

lemma exists_find? (h : (k, a) ∈ r.entries) : ∃ b, r.find? k = some b := by
  have hsome : (r.entries.find? fun e => e.1 = k).isSome = true :=
    List.find?_isSome.2 ⟨(k, a), h, by simp⟩
  obtain ⟨e, he⟩ := Option.isSome_iff_exists.1 hsome
  exact ⟨e.2, Option.map_eq_some_iff.2 ⟨e, he, rfl⟩⟩

lemma Proper.find?_eq_some_iff (h : r.Proper) : r.find? k = some a ↔ (k, a) ∈ r.entries := by
  refine ⟨mem_of_find?, fun hmem => ?_⟩
  obtain ⟨b, hb⟩ := exists_find? hmem
  have heq := List.inj_on_of_nodup_map h.nodup hmem (mem_of_find? hb) rfl
  rw [hb, (Prod.mk.inj heq).2]

/-! ### The entries under other keys -/

lemma mem_others {e : κ × α} : e ∈ r.others k ↔ e ∈ r.entries ∧ e.1 ≠ k := by
  simp [others]

lemma Proper.nodup_cons_others (h : r.Proper) (k : κ) (a : α) :
    (((k, a) :: r.others k).map Prod.fst).Nodup := by
  refine List.nodup_cons.2 ⟨fun hk => ?_, h.nodup.sublist (List.filter_sublist.map Prod.fst)⟩
  obtain ⟨e, he, hek⟩ := List.mem_map.1 hk
  exact (mem_others.1 he).2 hek

lemma Proper.length_others_lt (h : r.Proper) (hk : (k, a) ∈ r.entries) :
    (r.others k).length < r.capacity :=
  (List.length_filter_lt_length_iff_exists.2 ⟨(k, a), hk, by simp⟩).trans_le h.fits

/-- An entry that is put in front comes to lie ahead of the others. -/
lemma HoldsBehind.cons_others (h : r.HoldsBehind S k a) (hne : key ≠ k) (b : α) :
    ∃ ahead rest, (key, b) :: r.others key = ahead ++ (k, a) :: rest ∧
      ∀ e ∈ ahead, e.1 ∈ Insert.insert key S := by
  obtain ⟨ahead, rest, hsplit, hahead⟩ := h
  refine ⟨(key, b) :: ahead.filter fun e => e.1 ≠ key, rest.filter fun e => e.1 ≠ key, ?_, ?_⟩
  · simp [others, hsplit, hne.symm]
  · refine List.forall_mem_cons.2 ⟨Finset.mem_insert_self _ _, fun e he => ?_⟩
    exact Finset.mem_insert_of_mem (hahead e (List.mem_of_mem_filter he))

/-! ### Writing -/

lemma mem_insert {e : κ × α} (h : e ∈ (r.insert k a).entries) :
    e = (k, a) ∨ e ∈ r.entries ∧ e.1 ≠ k := by
  rcases List.mem_cons.1 (List.mem_of_mem_take h) with rfl | h
  · exact .inl rfl
  · exact .inr (mem_others.1 h)

lemma Proper.insert (h : r.Proper) (k : κ) (a : α) : (r.insert k a).Proper where
  nodup := (h.nodup_cons_others k a).sublist ((List.take_sublist _ _).map Prod.fst)
  fits := List.length_take_le _ _

/-- Writing under a key that has an entry drops no other entry. -/
lemma Proper.find?_insert_of_ne (h : r.Proper) (hkey : (key, b) ∈ r.entries) (hne : key ≠ k) :
    (r.insert key a).find? k = r.find? k := by
  have hentries : (r.insert key a).entries = (key, a) :: r.others key :=
    List.take_of_length_le (h.length_others_lt hkey)
  ext c
  rw [(h.insert key a).find?_eq_some_iff, h.find?_eq_some_iff, hentries]
  simp [mem_others, hne.symm]

lemma holdsBehind_insert (h : 0 < r.capacity) : (r.insert k a).HoldsBehind ∅ k a := by
  obtain ⟨n, hn⟩ := Nat.exists_eq_succ_of_ne_zero h.ne'
  refine ⟨[], (r.others k).take n, ?_, List.forall_mem_nil _⟩
  simp only [insert, hn, Nat.succ_eq_add_one, List.take_succ_cons, List.nil_append]

/-- An entry is not dropped as long as fewer keys were used since than there is room for. -/
lemma HoldsBehind.insert (h : r.HoldsBehind S k a) (hr : r.Proper) (hne : key ≠ k)
    (hroom : (Insert.insert key S).card < r.capacity) (b : α) :
    (r.insert key b).HoldsBehind (Insert.insert key S) k a := by
  obtain ⟨ahead, rest, hsplit, hahead⟩ := h.cons_others hne b
  have hnodup : (ahead.map Prod.fst).Nodup := by
    have hall := hr.nodup_cons_others key b
    rw [hsplit, List.map_append] at hall
    exact hall.of_append_left
  -- what lies ahead has different keys, all used since, so there is room left for the entry
  have hlength : ahead.length < r.capacity := by
    calc ahead.length = (ahead.map Prod.fst).toFinset.card := by
          rw [List.toFinset_card_of_nodup hnodup, List.length_map]
      _ ≤ (Insert.insert key S).card := Finset.card_le_card fun x hx => by
          obtain ⟨e, he, rfl⟩ := List.mem_map.1 (List.mem_toFinset.1 hx)
          exact hahead e he
      _ < r.capacity := hroom
  obtain ⟨n, hn⟩ := Nat.exists_eq_add_of_lt hlength
  refine ⟨ahead, rest.take n, ?_, hahead⟩
  have hcapacity : r.capacity = ahead.length + (n + 1) := hn
  simp only [Recent.insert, hsplit, hcapacity, List.take_length_add_append, List.take_succ_cons]

/-! ### Reading -/

lemma use_fst (r : Recent κ α) (k : κ) : (r.use k).1 = r.find? k := by
  simp only [use]
  split
  · rename_i h
    exact h.symm
  · rename_i h
    exact h.symm

lemma use_none (h : r.find? k = none) : (r.use k).2 = r := by
  simp only [use, h]

lemma use_some (h : r.find? k = some a) :
    (r.use k).2 = { r with entries := (k, a) :: r.others k } := by
  simp only [use, h]

@[simp] lemma capacity_use (r : Recent κ α) (k : κ) : (r.use k).2.capacity = r.capacity := by
  cases h : r.find? k with
  | none => rw [use_none h]
  | some a => rw [use_some h]

lemma mem_use {e : κ × α} (h : e ∈ (r.use k).2.entries) : e ∈ r.entries := by
  cases hk : r.find? k with
  | none => rwa [use_none hk] at h
  | some a =>
    rw [use_some hk] at h
    rcases List.mem_cons.1 h with rfl | h
    · exact mem_of_find? hk
    · exact (mem_others.1 h).1

lemma Proper.use (h : r.Proper) (k : κ) : (r.use k).2.Proper := by
  cases hk : r.find? k with
  | none => rwa [use_none hk]
  | some a =>
    rw [use_some hk]
    exact ⟨h.nodup_cons_others k a, h.length_others_lt (mem_of_find? hk)⟩

lemma holdsBehind_use (h : r.find? k = some a) : (r.use k).2.HoldsBehind ∅ k a := by
  rw [use_some h]
  exact ⟨[], r.others k, rfl, List.forall_mem_nil _⟩

lemma HoldsBehind.use (h : r.HoldsBehind S k a) (hne : key ≠ k) (hkey : r.find? key = some b) :
    (r.use key).2.HoldsBehind (Insert.insert key S) k a := by
  rw [use_some hkey]
  exact h.cons_others hne b

end FeatureFlags.Recent
