import FeatureFlags.Json.Reader
import FeatureFlags.Proofs.NumberText

/-!
# A value is known by its text

Values without infinities that are written alike are equal. What is escaped inside quotes reads as
it was, a numeral goes as far as its characters go, and the first character of a value tells its
form, so the texts of two values that begin a text alike are the same text.
-/

namespace FeatureFlags.Json

/-! ### Induction -/

/-- What holds of a value if it holds of its parts, holds of every value. -/
theorem induction {P : Json → Prop} (null : P .null) (bool : ∀ b, P (.bool b))
    (number : ∀ n, P (.number n)) (string : ∀ s, P (.string s))
    (array : ∀ items, (∀ j ∈ items, P j) → P (.array items))
    (object : ∀ members : List (String × Json), (∀ m ∈ members, P m.2) → P (.object members))
    (j : Json) : P j := by
  refine @Json.rec P (fun items => ∀ j ∈ items, P j) (fun members => ∀ m ∈ members, P m.2)
    (fun m => P m.2) null bool number string array object nofun ?_ nofun ?_ (fun _ _ h => h) j
  · exact fun j items hj hitems => List.forall_mem_cons.2 ⟨hj, hitems⟩
  · exact fun m members hm hmembers => List.forall_mem_cons.2 ⟨hm, hmembers⟩

/-! ### Strings -/

variable {c : Char} {rest rest' : List Char} {s t : String}

lemma hexValue?_hexDigit (n : Nat) : hexValue? (hexDigit n) = some (n % 16) := by
  have hsmall : ∀ k < 16, hexValue? (Nat.digitChar k) = some k := by decide
  exact hsmall _ (Nat.mod_lt _ (by decide))

/-- What is escaped reads as the character. -/
lemma readString?_escape (c : Char) (read rest : List Char) :
    readString? .plain read (escape c ++ rest) = readString? .plain (c :: read) rest := by
  rw [escape]
  split_ifs with hquote hslash hb hf hn hr ht hcontrol
  · rw [hquote]; rfl
  · rw [hslash]; rfl
  · rw [hb]; rfl
  · rw [hf]; rfl
  · rw [hn]; rfl
  · rw [hr]; rfl
  · rw [ht]; rfl
  · have hzero : hexValue? '0' = some 0 := by decide
    have hvalue : 16 * (c.toNat / 16 % 16) + c.toNat % 16 = c.toNat := by omega
    have hplain : takeUnit? c.toNat none = some (.plain, some c) := by
      have hsurrogate : ¬(0xD800 ≤ c.toNat ∧ c.toNat < 0xDC00) := by omega
      have hsurrogate' : ¬(0xDC00 ≤ c.toNat ∧ c.toNat < 0xE000) := by omega
      rw [takeUnit?, if_neg hsurrogate, if_neg hsurrogate', Char.ofNat_toNat]
    simp [readString?, Quoted.step?, hzero, hexValue?_hexDigit, hvalue, hplain]
  · simp [readString?, Quoted.step?, hquote, hslash, hcontrol]

lemma readString?_escaped (cs read rest : List Char) :
    readString? .plain read (cs.flatMap escape ++ '"' :: rest) =
      some (String.ofList (read.reverse ++ cs), rest) := by
  induction cs generalizing read with
  | nil => simp [readString?]
  | cons c cs ih =>
    rw [List.flatMap_cons, List.append_assoc, readString?_escape, ih]
    simp

lemma quote_append_inj (h : quote s ++ rest = quote t ++ rest') : s = t ∧ rest = rest' := by
  simp only [quote, List.cons_append, List.append_assoc, List.nil_append, List.cons.injEq,
    true_and] at h
  have hread := readString?_escaped s.toList [] rest
  rw [h, readString?_escaped] at hread
  simp at hread
  tauto

/-! ### Numbers -/

/-- The text does not go on with a character of numerals. -/
def EndsNumeral (rest : List Char) : Prop := ∀ c ∈ rest.head?, Number.isNumeral c = false

lemma number_append_inj {n n' : Number} (hn : n.isFinite = true) (hn' : n'.isFinite = true)
    (hrest : EndsNumeral rest) (hrest' : EndsNumeral rest')
    (h : n.write ++ rest = n'.write ++ rest') : n = n' ∧ rest = rest' := by
  obtain ⟨htake, hdrop⟩ := span_append (fun _ => Number.isNumeral_write hn) hrest
  obtain ⟨htake', hdrop'⟩ := span_append (fun _ => Number.isNumeral_write hn') hrest'
  rw [h] at htake hdrop
  exact ⟨Number.write_inj hn hn' (htake.symm.trans htake'), hdrop.symm.trans hdrop'⟩

/-! ### Lists -/

/-- What comes after the first of several texts with commas between them. -/
def following (tail : List Char) : List (List Char) → List Char
  | [] => tail
  | t :: texts => ',' :: (separate [','] (t :: texts) ++ tail)

lemma separate_cons (t : List Char) (texts : List (List Char)) (tail : List Char) :
    separate [','] (t :: texts) ++ tail = t ++ following tail texts := by
  cases texts with
  | nil => rfl
  | cons u texts => simp [separate, following]

lemma endsNumeral_nil : EndsNumeral [] := by
  intro c hc
  cases hc

lemma endsNumeral_cons (h : Number.isNumeral c = false) : EndsNumeral (c :: rest) := by
  intro d hd
  rwa [← Option.some.inj hd]

lemma endsNumeral_following (h : EndsNumeral rest) (texts : List (List Char)) :
    EndsNumeral (following rest texts) := by
  cases texts with
  | nil => exact h
  | cons t texts => exact endsNumeral_cons rfl

section Separate

variable {α : Type} {write : α → List Char} {closing : Char} {as bs : List α}

/-- A list of things is known by their texts with commas between them and a closing character. -/
lemma separate_append_inj (hcomma : closing ≠ ',') (hclosing : Number.isNumeral closing = false)
    (hopen : ∀ b, b ∈ as ∨ b ∈ bs → ∃ c cs, write b = c :: cs ∧ c ≠ closing)
    (hinj : ∀ a ∈ as, ∀ b ∈ bs, ∀ {r r'}, EndsNumeral r → EndsNumeral r' →
      write a ++ r = write b ++ r' → a = b ∧ r = r')
    (h : separate [','] (as.map write) ++ closing :: rest =
      separate [','] (bs.map write) ++ closing :: rest') : as = bs ∧ rest = rest' := by
  have hfirst {b : α} (hb : b ∈ as ∨ b ∈ bs) (texts : List (List Char)) (tail tail' : List Char) :
      closing :: tail ≠ separate [','] (write b :: texts) ++ tail' := by
    obtain ⟨c, cs, hwrite, hne⟩ := hopen b hb
    rw [separate_cons, hwrite]
    exact fun heq => hne (List.cons.inj heq).1.symm
  -- a list that is at its end shows the closing character, and one that goes on never does
  induction as generalizing bs with
  | nil =>
    cases bs with
    | nil => exact ⟨rfl, (List.cons.inj h).2⟩
    | cons b bs => exact absurd h (hfirst (.inr List.mem_cons_self) _ _ _)
  | cons a as ih =>
    cases bs with
    | nil => exact absurd h.symm (hfirst (.inl List.mem_cons_self) _ _ _)
    | cons b bs =>
      rw [List.map_cons, List.map_cons, separate_cons, separate_cons] at h
      obtain ⟨rfl, hfollowing⟩ := hinj a List.mem_cons_self b List.mem_cons_self
        (endsNumeral_following (endsNumeral_cons hclosing) _)
        (endsNumeral_following (endsNumeral_cons hclosing) _) h
      have hrest : as = bs ∧ rest = rest' := by
        cases as with
        | nil =>
          cases bs with
          | nil => exact ⟨rfl, (List.cons.inj hfollowing).2⟩
          | cons b bs => exact absurd (List.cons.inj hfollowing).1 hcomma
        | cons a' as =>
          cases bs with
          | nil => exact absurd (List.cons.inj hfollowing).1.symm hcomma
          | cons b' bs =>
            exact ih
              (fun d hd => hopen d (hd.imp (List.mem_cons_of_mem _) (List.mem_cons_of_mem _)))
              (fun d hd e he => hinj d (List.mem_cons_of_mem _ hd) e (List.mem_cons_of_mem _ he))
              (List.cons.inj hfollowing).2
              fun hd => hfirst (hd.imp (List.mem_cons_of_mem _) (List.mem_cons_of_mem _))
      exact ⟨congrArg (a :: ·) hrest.1, hrest.2⟩

end Separate

/-! ### Values -/

mutual

/-- JSON has no infinities: every number in a value is finite. -/
def isFinite : Json → Bool
  | .number n => n.isFinite
  | .array items => areFinite items
  | .object members => membersAreFinite members
  | .null | .bool _ | .string _ => true

/-- Every number in a list of values is finite. -/
def areFinite : List Json → Bool
  | [] => true
  | j :: rest => j.isFinite && areFinite rest

/-- Every number in the values of members is finite. -/
def membersAreFinite : List (String × Json) → Bool
  | [] => true
  | (_, j) :: rest => j.isFinite && membersAreFinite rest

end

lemma isFinite_array {items : List Json} :
    (array items).isFinite = true ↔ ∀ j ∈ items, j.isFinite = true := by
  rw [isFinite]
  induction items with
  | nil => simp [areFinite]
  | cons j items ih => simp [areFinite, ih]

lemma isFinite_object {members : List (String × Json)} :
    (object members).isFinite = true ↔ ∀ m ∈ members, m.2.isFinite = true := by
  rw [isFinite]
  induction members with
  | nil => simp [membersAreFinite]
  | cons m members ih => simp [membersAreFinite, ih]

lemma writeList_eq (items : List Json) : writeList items = items.map write := by
  induction items with
  | nil => rfl
  | cons j items ih => rw [writeList, ih, List.map_cons]

/-- The text of a member. -/
def writeMember (m : String × Json) : List Char := quote m.1 ++ ':' :: m.2.write

lemma writeMembers_eq (members : List (String × Json)) :
    writeMembers members = members.map writeMember := by
  induction members with
  | nil => rfl
  | cons m members ih => rw [writeMembers, ih, List.map_cons, writeMember]

/-- The form of the values that begin with a character, by its number. -/
def formOf (c : Char) : Nat :=
  if Number.isNumeral c then 2
  else if c = 'n' then 0
  else if c = 't' ∨ c = 'f' then 1
  else if c = '"' then 3
  else if c = '[' then 4
  else 5

/-- The first character of a value tells its form. -/
lemma exists_write_eq_cons {j : Json} (hj : j.isFinite = true) :
    ∃ c cs, j.write = c :: cs ∧ formOf c = j.ctorIdx ∧ c ≠ ']' := by
  cases j with
  | null => exact ⟨_, _, rfl, rfl, by decide⟩
  | bool b =>
    cases b with
    | true => exact ⟨_, _, rfl, rfl, by decide⟩
    | false => exact ⟨_, _, rfl, rfl, by decide⟩
  | number n =>
    obtain ⟨c, cs, hwrite⟩ := List.exists_cons_of_ne_nil (Number.write_ne_nil hj)
    have hc : Number.isNumeral c = true :=
      Number.isNumeral_write hj (hwrite ▸ List.mem_cons_self)
    refine ⟨c, cs, hwrite, if_pos hc, fun hbracket => ?_⟩
    rw [hbracket] at hc
    exact absurd hc (by decide)
  | string s => exact ⟨_, _, rfl, rfl, by decide⟩
  | array items => exact ⟨_, _, rfl, rfl, by decide⟩
  | object members => exact ⟨_, _, rfl, rfl, by decide⟩

/-- Values that begin a text alike have one form. -/
lemma ctorIdx_eq {a b : Json} (ha : a.isFinite = true) (hb : b.isFinite = true)
    (h : a.write ++ rest = b.write ++ rest') : a.ctorIdx = b.ctorIdx := by
  obtain ⟨c, cs, hwrite, hc, -⟩ := exists_write_eq_cons ha
  obtain ⟨c', cs', hwrite', hc', -⟩ := exists_write_eq_cons hb
  rw [hwrite, hwrite'] at h
  rw [← hc, ← hc', (List.cons.inj h).1]

/-- Values that begin a text alike are equal, if the text does not go on with a numeral. -/
theorem write_append_inj {a b : Json} (ha : a.isFinite = true) (hb : b.isFinite = true)
    (hrest : EndsNumeral rest) (hrest' : EndsNumeral rest')
    (h : a.write ++ rest = b.write ++ rest') : a = b ∧ rest = rest' := by
  -- the first character tells the form of a value, so only equal forms are left to compare
  have hform := ctorIdx_eq ha hb h
  induction a using Json.induction generalizing b rest rest' with
  | null =>
    cases b with
    | null => exact ⟨rfl, List.append_cancel_left h⟩
    | bool | number | string | array | object => cases hform
  | bool x =>
    cases b with
    | bool y =>
      cases x <;> cases y
      · exact ⟨rfl, List.append_cancel_left h⟩
      · cases (List.cons.inj h).1
      · cases (List.cons.inj h).1
      · exact ⟨rfl, List.append_cancel_left h⟩
    | null | number | string | array | object => cases hform
  | number n =>
    cases b with
    | number n' =>
      obtain ⟨rfl, heq⟩ := number_append_inj ha hb hrest hrest' h
      exact ⟨rfl, heq⟩
    | null | bool | string | array | object => cases hform
  | string s =>
    cases b with
    | string t =>
      obtain ⟨rfl, heq⟩ := quote_append_inj h
      exact ⟨rfl, heq⟩
    | null | bool | number | array | object => cases hform
  | array items ih =>
    cases b with
    | array items' =>
      rw [isFinite_array] at ha hb
      simp only [write, writeList_eq, List.cons_append, List.append_assoc, List.nil_append] at h
      -- no item begins like the end of the list, so both lists end together
      have hopen (j) (hj : j ∈ items ∨ j ∈ items') : ∃ c cs, write j = c :: cs ∧ c ≠ ']' := by
        obtain ⟨c, cs, hwrite, -, hne⟩ := exists_write_eq_cons (hj.elim (ha j) (hb j))
        exact ⟨c, cs, hwrite, hne⟩
      obtain ⟨rfl, heq⟩ := separate_append_inj (by decide) (by decide) hopen
        (fun j hj j' hj' _ _ hr hr' h => ih j hj (ha j hj) (hb j' hj') hr hr' h
          (ctorIdx_eq (ha j hj) (hb j' hj') h)) (List.cons.inj h).2
      exact ⟨rfl, heq⟩
    | null | bool | number | string | object => cases hform
  | object members ih =>
    cases b with
    | object members' =>
      rw [isFinite_object] at ha hb
      simp only [write, writeMembers_eq, List.cons_append, List.append_assoc, List.nil_append] at h
      -- a name ends at its quote, which leaves the values
      have hmember : ∀ m ∈ members, ∀ m' ∈ members', ∀ {r r'}, EndsNumeral r → EndsNumeral r' →
          writeMember m ++ r = writeMember m' ++ r' → m = m' ∧ r = r' := by
        rintro ⟨name, j⟩ hm ⟨name', j'⟩ hm' r r' hr hr' h
        simp only [writeMember, List.append_assoc, List.cons_append] at h
        obtain ⟨rfl, hvalue⟩ := quote_append_inj h
        have hvalue := (List.cons.inj hvalue).2
        obtain ⟨rfl, heq⟩ := ih _ hm (ha _ hm) (hb _ hm') hr hr' hvalue
          (ctorIdx_eq (ha _ hm) (hb _ hm') hvalue)
        exact ⟨rfl, heq⟩
      obtain ⟨rfl, heq⟩ := separate_append_inj (by decide) (by decide)
        (fun m _ => ⟨'"', _, rfl, by decide⟩) hmember (List.cons.inj h).2
      exact ⟨rfl, heq⟩
    | null | bool | number | string | array => cases hform

/-- A value is known by its text. -/
theorem compact_inj {a b : Json} (ha : a.isFinite = true) (hb : b.isFinite = true)
    (h : a.compact = b.compact) : a = b := by
  have hwrite : a.write ++ [] = b.write ++ [] := by
    rw [List.append_nil, List.append_nil, ← String.ofList_inj]
    exact h
  exact (write_append_inj ha hb endsNumeral_nil endsNumeral_nil hwrite).1

end FeatureFlags.Json
