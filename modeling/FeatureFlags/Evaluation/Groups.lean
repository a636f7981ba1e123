import FeatureFlags.Evaluation.Match
import FeatureFlags.Evaluation.Memo
import FeatureFlags.Flag.Draw
import FeatureFlags.Junction

/-!
# Evaluating the groups of a flag

Groups that ask for a variant are tried first, then the others, each in declared order. The first
group that lets the identity in decides. If there is none and some group could not be decided, the
flag cannot either; otherwise the flag is off, for the best reason that a group gave.
-/

namespace FeatureFlags

variable {σ : Type}

/-- Judge a group: all of its conditions first, then its rollout. -/
def ConditionGroup.judge (leaf : LeafJudge σ) (flagKey identity : String) (g : ConditionGroup)
    (s : σ) : Except Undecided MatchReason × σ :=
  let rollout : MatchReason :=
    if isInRollout flagKey identity g.rollout then .conditionMatch else .outOfRollout
  match g.conditions.getD [] with
  | [] => (.ok rollout, s)
  | conditions =>
    match Junction.all.run leaf none conditions s with
    | (.error e, s) => (.error e, s)
    | (.ok false, s) => (.ok .noConditionMatch, s)
    | (.ok true, s) => (.ok rollout, s)

namespace Flag

/-- The groups with their positions, in the order in which they are tried. -/
def orderedGroups (f : Flag) : List (Nat × ConditionGroup) :=
  let numbered := f.groups.zipIdx.map fun g => (g.2, g.1)
  numbered.filter (fun g => g.2.variant.isSome) ++ numbered.filter fun g => g.2.variant.isNone

/-- The variant that an identity sees by a group: the one the group asks for, if there is one of
that key, and else the one drawn. -/
def variantBy (f : Flag) (identity : String) (g : ConditionGroup) : Option String :=
  match g.variant with
  | some key => if f.hasVariant key then some key else f.drawVariant identity
  | none => f.drawVariant identity

/-- What the groups tried so far have shown: the first reason for being undecided, and the best
reason for being off, with its group. -/
structure Findings where
  undecided : Option Undecided := none
  reason : MatchReason := .noConditionMatch
  groupIndex : Option Nat := none
  deriving DecidableEq, Repr

/-- Note that a group was not matched. -/
def Findings.noteReason (found : Findings) (reason : MatchReason) (index : Nat) : Findings :=
  if found.reason.rank < reason.rank then
    { found with reason := reason, groupIndex := some index }
  else found

/-- Note that a group was not decided. -/
def Findings.noteUndecided (found : Findings) (e : Undecided) : Findings :=
  { found with undecided := found.undecided <|> some e }

/-- The outcome when no group has matched. -/
def Findings.outcome (found : Findings) : Except Undecided FlagMatch :=
  match found.undecided with
  | some e => .error e
  | none => .ok (.off found.reason found.groupIndex)

/-- Try groups in turn. -/
def tryGroups (leaf : LeafJudge σ) (f : Flag) (identity : String) :
    Findings → List (Nat × ConditionGroup) → σ → Except Undecided FlagMatch × σ
  | found, [], s => (found.outcome, s)
  | found, (i, g) :: rest, s =>
    match g.judge leaf f.key identity s with
    | (.ok .conditionMatch, s) => (.ok (.on f (f.variantBy identity g) i), s)
    | (.ok reason, s) => tryGroups leaf f identity (found.noteReason reason i) rest s
    | (.error e, s) => tryGroups leaf f identity (found.noteUndecided e) rest s

/-- Evaluate a flag by how leaves are judged. -/
def evaluate (leaf : LeafJudge σ) (f : Flag) (identity : String) (s : σ) :
    Except Undecided FlagMatch × σ :=
  if !f.isActive || f.isDeleted then (.ok (.off .disabled none), s)
  else if f.keepsExperience then (.error (.experienceContinuity f.key), s)
  else tryGroups leaf f identity {} f.orderedGroups s

end Flag

end FeatureFlags
