import FeatureFlags.Dict

/-!
# JSON values

A number is an integer or a binary64 number, and the two are never equal: `1` and `1.0` are
different values. The members of an object keep the order and the repetitions of the text they
were read from; `Json.canonical` sorts them and keeps the last of each name.
-/

namespace FeatureFlags

/-- A JSON number: an integer, or a binary64 number when it has a fraction or an exponent. -/
inductive Number where
  | int (n : Int)
  | float (x : Float)
  deriving Repr, DecidableEq

/-- A JSON value. -/
inductive Json where
  | null
  | bool (b : Bool)
  | number (n : Number)
  | string (s : String)
  | array (items : List Json)
  | object (members : List (String × Json))
  deriving Repr, Inhabited

namespace Json

/-! ### Decidable equality -/

mutual

/-- Decide whether two values are equal. -/
def decEq : (a b : Json) → Decidable (a = b)
  | .null, .null => isTrue rfl
  | .bool a, .bool b =>
    if h : a = b then isTrue (h ▸ rfl) else isFalse fun e => h (Json.bool.inj e)
  | .number a, .number b =>
    if h : a = b then isTrue (h ▸ rfl) else isFalse fun e => h (Json.number.inj e)
  | .string a, .string b =>
    if h : a = b then isTrue (h ▸ rfl) else isFalse fun e => h (Json.string.inj e)
  | .array a, .array b =>
    match decEqList a b with
    | isTrue h => isTrue (h ▸ rfl)
    | isFalse h => isFalse fun e => h (Json.array.inj e)
  | .object a, .object b =>
    match decEqMembers a b with
    | isTrue h => isTrue (h ▸ rfl)
    | isFalse h => isFalse fun e => h (Json.object.inj e)
  | .null, .bool _ | .null, .number _ | .null, .string _ | .null, .array _ | .null, .object _
  | .bool _, .null | .bool _, .number _ | .bool _, .string _ | .bool _, .array _
  | .bool _, .object _ | .number _, .null | .number _, .bool _ | .number _, .string _
  | .number _, .array _ | .number _, .object _ | .string _, .null | .string _, .bool _
  | .string _, .number _ | .string _, .array _ | .string _, .object _ | .array _, .null
  | .array _, .bool _ | .array _, .number _ | .array _, .string _ | .array _, .object _
  | .object _, .null | .object _, .bool _ | .object _, .number _ | .object _, .string _
  | .object _, .array _ => isFalse (by intro h; cases h)

/-- Decide whether two lists of values are equal. -/
def decEqList : (a b : List Json) → Decidable (a = b)
  | [], [] => isTrue rfl
  | [], _ :: _ | _ :: _, [] => isFalse (by intro h; cases h)
  | x :: xs, y :: ys =>
    match decEq x y, decEqList xs ys with
    | isTrue hx, isTrue hs => isTrue (by rw [hx, hs])
    | isFalse hx, _ => isFalse fun e => hx (List.cons.inj e).1
    | _, isFalse hs => isFalse fun e => hs (List.cons.inj e).2

/-- Decide whether two lists of members are equal. -/
def decEqMembers : (a b : List (String × Json)) → Decidable (a = b)
  | [], [] => isTrue rfl
  | [], _ :: _ | _ :: _, [] => isFalse (by intro h; cases h)
  | (k, x) :: xs, (l, y) :: ys =>
    if hk : k = l then
      match decEq x y, decEqMembers xs ys with
      | isTrue hx, isTrue hs => isTrue (by rw [hk, hx, hs])
      | isFalse hx, _ => isFalse fun e => hx (Prod.mk.inj (List.cons.inj e).1).2
      | _, isFalse hs => isFalse fun e => hs (List.cons.inj e).2
    else isFalse fun e => hk (Prod.mk.inj (List.cons.inj e).1).1

end

instance : DecidableEq Json := decEq

/-! ### Parts of a value -/

/-- Is this the value `null`? -/
def isNull : Json → Bool
  | .null => true
  | _ => false

/-- The last member of this name, if the value is an object that has one. -/
def member? (name : String) : Json → Option Json
  | .object members => (members.reverse.find? fun m => m.1 = name).map Prod.snd
  | _ => none

/-- The object whose members are the entries of a dictionary. -/
def ofDict (d : Dict Json) : Json := .object d.entries

/-- An integer. -/
def int (n : Int) : Json := .number (.int n)

/-- A natural number. -/
def nat (n : Nat) : Json := .number (.int n)

/-- A binary64 number. -/
def float (x : Float) : Json := .number (.float x)

/-- A value that may be missing; `null` stands for the missing one. -/
def ofOption {α : Type} (f : α → Json) : Option α → Json
  | some a => f a
  | none => .null

/-! ### Depth -/

mutual

/-- How deep arrays and objects are nested in a value. -/
def depth : Json → Nat
  | .array items => depthOfList items + 1
  | .object members => depthOfMembers members + 1
  | .null | .bool _ | .number _ | .string _ => 0

/-- How deep the values of a list are nested at most. -/
def depthOfList : List Json → Nat
  | [] => 0
  | j :: rest => max (depth j) (depthOfList rest)

/-- How deep the values of members are nested at most. -/
def depthOfMembers : List (String × Json) → Nat
  | [] => 0
  | (_, j) :: rest => max (depth j) (depthOfMembers rest)

end

/-! ### The canonical form -/

mutual

/-- Sort the members of every object by name, keeping the last member of each name. -/
def canonical : Json → Json
  | .array items => .array (canonicalList items)
  | .object members => ofDict (canonicalMembers ∅ members)
  | .null => .null
  | .bool b => .bool b
  | .number n => .number n
  | .string s => .string s

/-- The canonical forms of a list of values. -/
def canonicalList : List Json → List Json
  | [] => []
  | j :: rest => canonical j :: canonicalList rest

/-- Put the canonical forms of these members into a dictionary, one after the other. -/
def canonicalMembers (d : Dict Json) : List (String × Json) → Dict Json
  | [] => d
  | (name, j) :: rest => canonicalMembers (d.insert name (canonical j)) rest

end

end Json

end FeatureFlags
