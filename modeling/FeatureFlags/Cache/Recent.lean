/-!
# Keeping the most recent entries

A `Recent` holds a limited number of entries, the most recently used first. Writing a new entry
when there is no room drops the one that was not used for the longest time. Reading an entry counts
as using it.
-/

namespace FeatureFlags

/-- A limited number of entries, the most recently used first. -/
structure Recent (κ α : Type) where
  capacity : Nat
  entries : List (κ × α)
  deriving DecidableEq, Repr

namespace Recent

variable {κ α : Type} [DecidableEq κ]

/-- Nothing, with room for so many entries, but for one at least. -/
def empty (room : Nat) : Recent κ α := ⟨max room 1, []⟩

/-- How many entries there are. -/
def size (r : Recent κ α) : Nat := r.entries.length

/-- The entry under a key. -/
def find? (r : Recent κ α) (k : κ) : Option α :=
  (r.entries.find? fun e => e.1 = k).map Prod.snd

/-- The entries under other keys. -/
def others (r : Recent κ α) (k : κ) : List (κ × α) := r.entries.filter fun e => e.1 ≠ k

/-- Write an entry, in place of one under the same key. -/
def insert (r : Recent κ α) (k : κ) (a : α) : Recent κ α :=
  { r with entries := ((k, a) :: r.others k).take r.capacity }

/-- Read an entry, which makes it the most recently used. -/
def use (r : Recent κ α) (k : κ) : Option α × Recent κ α :=
  match r.find? k with
  | some a => (some a, { r with entries := (k, a) :: r.others k })
  | none => (none, r)

/-- Keep only some entries. -/
def keep (r : Recent κ α) (p : α → Bool) : Recent κ α :=
  { r with entries := r.entries.filter fun e => p e.2 }

/-- Drop all entries. -/
def clear (r : Recent κ α) : Recent κ α := { r with entries := [] }

end Recent

end FeatureFlags
