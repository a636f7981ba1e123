import FeatureFlags.Digest.Sha1
import FeatureFlags.Flag.Basic

/-!
# Draws

Each identity has a fixed draw from 0 to 1 for each flag: the first 60 bits of a digest, as a share
of the greatest number of 60 bits. A group lets an identity in when its draw lies below the share
of the group. A second draw picks the variant: each variant has an interval as long as its share,
one after the other from 0.
-/

namespace FeatureFlags

/-! ### Draws -/

/-- The greatest number of 60 bits. -/
def drawScale : UInt64 := 0xFFFFFFFFFFFFFFF

/-- The first 60 bits of a digest. -/
def Sha1.State.lead (s : Sha1.State) : UInt64 :=
  ((s.a.toUInt64 <<< 32) ||| s.b.toUInt64) >>> 4

/-- The draw that a digest gives. -/
def Sha1.State.draw (s : Sha1.State) : Float := s.lead.toFloat / drawScale.toFloat

/-- The draw of an identity for a flag. The salt tells the draws for one flag apart. -/
def draw (flagKey identity salt : String) : Float :=
  (Sha1.digestText (flagKey ++ "." ++ identity ++ salt)).draw

/-- The salt of the draw that decides whether a group lets an identity in. -/
def rolloutSalt : String := ""

/-- The salt of the draw that picks the variant. -/
def variantSalt : String := "variant"

/-- The share of a percentage. -/
def shareOf (percentage : Float) : Float := percentage / 100.0

/-- Does a rollout percentage let an identity in? -/
def isInRollout (flagKey identity : String) : Option Float → Bool
  | none => true
  | some percentage => draw flagKey identity rolloutSalt < shareOf percentage

/-! ### Intervals -/

/-- The draws that pick a key: from the start on, up to the end. -/
structure DrawInterval (α : Type) where
  start : α
  finish : α
  key : String
  deriving DecidableEq, Repr

/-- Intervals of the given lengths, one after the other from a start on. -/
def intervalsFrom {α : Type} [Add α] (start : α) : List (String × α) → List (DrawInterval α)
  | [] => []
  | (key, length) :: rest => ⟨start, start + length, key⟩ :: intervalsFrom (start + length) rest

/-- Does the interval hold a draw? -/
def DrawInterval.holds {α : Type} [LE α] [LT α] [DecidableLE α] [DecidableLT α]
    (i : DrawInterval α) (d : α) : Bool :=
  i.start ≤ d && d < i.finish

/-- The key of the first interval that holds a draw. -/
def pickKey {α : Type} [LE α] [LT α] [DecidableLE α] [DecidableLT α]
    (table : List (DrawInterval α)) (d : α) : Option String :=
  (table.find? fun i => i.holds d).map DrawInterval.key

/-- The intervals of the variants of a flag. -/
def Flag.variantTable (f : Flag) : List (DrawInterval Float) :=
  intervalsFrom 0.0 (f.variants.map fun v => (v.key, shareOf v.rollout))

/-- The variant that an identity draws. -/
def Flag.drawVariant (f : Flag) (identity : String) : Option String :=
  pickKey f.variantTable (draw f.key identity variantSalt)

end FeatureFlags
