import FeatureFlags.Pattern.Property.Binary
import FeatureFlags.Pattern.Property.Category
import FeatureFlags.Pattern.Property.Script
import FeatureFlags.Pattern.Property.ScriptExtension

/-!
# Characters by property

A class such as `Greek`, `Lu` or `White_Space` is found by its name, in which letter case, blanks,
hyphens, underscores and a leading `is` do not count. A property can also be given with its value,
as in `script=Greek`.
-/

namespace FeatureFlags.Pattern.Property

/-- The name without what does not count in it. Characters beyond ASCII are left out too. -/
def normalize (name : String) : String :=
  let bare (cs : List Char) := ((cs.filter fun c =>
    c.toNat ≤ 0x7F && c ≠ ' ' && c ≠ '_' && c ≠ '-').map Char.toLower)
  match name.toList with
  | i :: s :: rest =>
    if i.toLower = 'i' ∧ s.toLower = 's' then
      let short := bare rest
      String.ofList (if short = ['c'] then ['i', 's', 'c'] else short)
    else String.ofList (bare (i :: s :: rest))
  | short => String.ofList (bare short)

/-! ### Categories -/

/-- Groups of general categories, and the categories they gather. -/
def categoryGroups : List (List String × List String) := [
  (["c", "other"], ["cc", "cf", "cn", "co"]),
  (["l", "letter"], ["lu", "ll", "lt", "lm", "lo"]),
  (["lc", "casedletter"], ["lu", "ll", "lt"]),
  (["m", "mark", "combiningmark"], ["mn", "mc", "me"]),
  (["n", "number"], ["nd", "nl", "no"]),
  (["p", "punctuation", "punct"], ["pc", "pd", "ps", "pe", "pi", "pf", "po"]),
  (["s", "symbol"], ["sm", "sc", "sk", "so"]),
  (["z", "separator"], ["zs", "zl", "zp"])]

/-- The characters of several tables entries together. -/
def gather (table : List Coded) (names : List String) : CharSet :=
  CharSet.ofSpans ((names.filterMap (find? table)).flatMap CharSet.spans)

/-- The characters of a general category or of a group of them. -/
def category? (name : String) : Option CharSet :=
  if name = "any" then some .all
  else if name = "ascii" then some .ascii
  else if name = "assigned" then (find? categories "cn").map CharSet.complement
  else
    match categoryGroups.find? fun g => g.1.contains name with
    | some g => some (gather categories g.2)
    | none => find? categories name

/-! ### Lookup -/

/-- The characters of a class given by one name. -/
def named? (name : String) : Option CharSet :=
  let name := normalize name
  (find? binaries name) <|> (category? name) <|> (find? scripts name)

/-- The characters for which a property has a value. -/
def valued? (property value : String) : Option CharSet :=
  let property := normalize property
  let value := normalize value
  if property = "gc" || property = "generalcategory" then category? value
  else if property = "sc" || property = "script" then find? scripts value
  else if property = "scx" || property = "scriptextensions" then
    (find? scriptExtensions value) <|> (find? scripts value)
  else none

/-- Decimal digits of all scripts. -/
def digits : CharSet := gather categories ["nd"]

/-- White space. -/
def blanks : CharSet := gather binaries ["whitespace"]

/-- Characters of words: letters, marks, digits, connecting punctuation and joiners. -/
def wordCharacters : CharSet :=
  (gather binaries ["alphabetic", "joincontrol"]).union
    (gather categories ["mn", "mc", "me", "nd", "pc"])

/-- Is this a letter of any script, or a sign that works as one? -/
def isAlphabetic (c : Char) : Bool :=
  if c.toNat ≤ 0x7F then c.isAlpha else (gather binaries ["alphabetic"]).contains c.toNat

/-- Is this a number of any script? -/
def isNumeric (c : Char) : Bool :=
  if c.toNat ≤ 0x7F then c.isDigit else (gather categories ["nd", "nl", "no"]).contains c.toNat

end FeatureFlags.Pattern.Property
