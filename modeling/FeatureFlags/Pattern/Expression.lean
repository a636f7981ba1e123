import FeatureFlags.Pattern.CharSet

/-!
# Pattern expressions

What a pattern means, free of its spelling: flags are resolved, classes are sets of characters and
names of groups are gone. Whether a repetition is greedy is not kept, since only the question
whether a text has a match is asked.
-/

namespace FeatureFlags.Pattern

/-- A place at the edge of a word, or away from one. -/
inductive WordEdge where
  | boundary
  | inside
  | start
  | finish
  | startHalf
  | finishHalf
  deriving Repr, DecidableEq

/-- A condition on a place in a text. -/
inductive Assertion where
  | textStart
  | textEnd
  /-- The start of a line; lines end in a line feed, or with `crlf` in any of its two signs. -/
  | lineStart (crlf : Bool)
  | lineEnd (crlf : Bool)
  /-- An edge of a word, of ASCII words or of words of all scripts. -/
  | word (edge : WordEdge) (unicode : Bool)
  deriving Repr, DecidableEq

/-- A pattern without its spelling. -/
inductive Expression where
  | empty
  | set (characters : CharSet)
  | assertion (condition : Assertion)
  | sequence (parts : List Expression)
  | choice (branches : List Expression)
  | repeated (least : Nat) (most : Option Nat) (body : Expression)
  | group (body : Expression)
  deriving Repr, Inhabited

namespace Expression

/-! ### What an expression consumes -/

mutual

/-- Does every match of the expression consume a character? -/
def alwaysConsumes : Expression → Bool
  | .empty | .assertion _ => false
  | .set s => !s.isEmpty
  | .sequence parts => anyAlwaysConsumes parts
  | .choice branches => allAlwaysConsume branches
  | .repeated least _ body => 0 < least && alwaysConsumes body
  | .group body => alwaysConsumes body

/-- Does one of the expressions always consume a character? -/
def anyAlwaysConsumes : List Expression → Bool
  | [] => false
  | e :: rest => alwaysConsumes e || anyAlwaysConsumes rest

/-- Do all of the expressions always consume a character? -/
def allAlwaysConsume : List Expression → Bool
  | [] => true
  | e :: rest => alwaysConsumes e && allAlwaysConsume rest

end

mutual

/-- Is every match of the expression empty? -/
def neverConsumes : Expression → Bool
  | .empty | .assertion _ => true
  | .set _ => false
  | .sequence parts | .choice parts => allNeverConsume parts
  | .repeated _ _ body | .group body => neverConsumes body

/-- Is every match of each of the expressions empty? -/
def allNeverConsume : List Expression → Bool
  | [] => true
  | e :: rest => neverConsumes e && allNeverConsume rest

end

/-! ### Building expressions -/

/-- The parts of a sequence. -/
def parts : Expression → List Expression
  | .empty => []
  | .sequence es => es
  | e => [e]

/-- Expressions one after the other. -/
def ofParts (es : List Expression) : Expression :=
  match es.flatMap parts with
  | [] => .empty
  | [e] => e
  | es => .sequence es

/-- The branches of a choice. -/
def branches : Expression → List Expression
  | .choice es => es
  | e => [e]

/-- The characters of an expression that is just a set of them. -/
def set? : Expression → Option CharSet
  | .set s => some s
  | _ => none

/-- Any of several expressions; a choice between sets of characters is a set of characters. -/
def ofBranches (es : List Expression) : Expression :=
  match es.flatMap branches with
  | [e] => e
  | es =>
    match es.mapM set? with
    | some sets => .set (.ofSpans (sets.flatMap CharSet.spans))
    | none => .choice es

/-- An expression repeated. Of one that never consumes, one round is as good as many. -/
def repeating (least : Nat) (most : Option Nat) (e : Expression) : Expression :=
  let once := e.neverConsumes
  let least := if once then min least 1 else least
  let most := if once then some (min (most.getD 1) 1) else most
  if least = 0 ∧ most = some 0 then .empty
  else if least = 1 ∧ most = some 1 then e
  else .repeated least most e

end Expression

end FeatureFlags.Pattern
