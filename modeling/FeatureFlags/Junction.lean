import FeatureFlags.Undecided

/-!
# All of, and any of

A junction joins the verdicts of its branches. A branch may read and change a state, such as what
is known about other flags, so branches are visited one after the other and only as far as needed.

Any-of is true at the first true branch. All-of is false at the first false branch, unless a branch
before it was undecided. Otherwise all branches are visited, and the first undecided one decides.
-/

namespace FeatureFlags

/-- How branches are joined. -/
inductive Junction where
  | all
  | any
  deriving DecidableEq, Repr

namespace Junction

/-- After a branch: the junction is decided, or goes on with the first reason for being
undecided. -/
inductive Progress where
  | decided (b : Bool)
  | goesOn (undecided : Option Undecided)
  deriving DecidableEq, Repr

/-- Take the verdict of one more branch into account. -/
def next (j : Junction) (undecided : Option Undecided) : Verdict → Progress
  | .ok b =>
    match j, b, undecided with
    | .any, true, _ => .decided true
    | .all, false, none => .decided false
    | _, _, _ => .goesOn undecided
  | .error e => .goesOn (undecided <|> some e)

/-- The verdict when no branch is left. -/
def close (j : Junction) : Option Undecided → Verdict
  | some e => .error e
  | none => .ok (j == .all)

/-- Visit branches until the junction is decided. -/
def run {σ α : Type} (j : Junction) (visit : α → σ → Verdict × σ) (undecided : Option Undecided) :
    List α → σ → Verdict × σ
  | [], s => (j.close undecided, s)
  | a :: rest, s =>
    match visit a s with
    | (v, s) =>
      match j.next undecided v with
      | .decided b => (.ok b, s)
      | .goesOn undecided => run j visit undecided rest s

/-- Join verdicts, counting those that are read. -/
def fold (j : Junction) (verdicts : List Verdict) : Verdict × Nat :=
  j.run (fun v read => (v, read + 1)) none verdicts 0

end Junction

end FeatureFlags
