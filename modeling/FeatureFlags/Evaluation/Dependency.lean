import FeatureFlags.Evaluation.Groups

/-!
# Conditions on other flags

A condition on a flag lists a chain of flags. They are settled in order, each once for the whole
evaluation, and all have to be on. Then the value of the flag itself is compared with the expected
one, if the condition gives one.
-/

namespace FeatureFlags

variable {σ : Type}

/-- Is the value of a flag the expected one? A variant meets `true` and its own name. -/
def Literal.expects (expected : Literal) (actual : FlagValue) : Bool :=
  match actual, expected with
  | .variant name, .bool b => !name.isEmpty && b
  | .variant name, .text s => !name.isEmpty && name == s
  | .boolean a, .bool b => a == b
  | _, _ => false

/-- Settle a flag that nothing is known about. -/
def settle (leaf : LeafJudge Memo) (flags : Dict Flag) (identity key : String) (memo : Memo) :
    Except Undecided Unit × Memo :=
  match flags.get? key with
  | none => (.error (.missingDependency key), memo.insert key .inconclusive)
  | some f =>
    if !f.isActive then (.ok (), memo.insert key (.settled (.boolean false)))
    else
      match f.evaluate leaf identity (memo.insert key .inconclusive) with
      | (.ok m, memo) => (.ok (), memo.insert key (.settled m.value))
      | (.error _, memo) => (.error (.dependencyInconclusive key), memo)

/-- Ask for the value of a flag by what is known about flags; a flag that nothing is known about is
settled first. -/
def askKnown (settle : String → σ → Except Undecided Unit × σ) (known : σ → Memo) (key : String)
    (s : σ) : Except Undecided FlagValue × σ :=
  let (settled, s) := if (known s).contains key then (.ok (), s) else settle key s
  match settled, (known s).value? key with
  | .error e, _ => (.error e, s)
  | .ok (), some value => (.ok value, s)
  | .ok (), none => (.error (.dependencyInconclusive key), s)

/-- Ask for the flags of a chain up to the first that is off or undecided: are all of them on? -/
def askChain (ask : String → σ → Except Undecided FlagValue × σ) :
    List String → σ → Verdict × σ
  | [], s => (.ok true, s)
  | key :: rest, s =>
    match ask key s with
    | (.error e, s) => (.error e, s)
    | (.ok value, s) => if value.isTruthy then askChain ask rest s else (.ok false, s)

/-- Compare the value of the flag itself, if there is one, with the expected value. -/
def Condition.checkDependency (c : Condition) (actual : Option FlagValue) : Verdict :=
  match c.literal, actual with
  | none, _ => .ok true
  | some expected, some actual =>
    if c.operator = .flagEvaluatesTo then .ok (expected.expects actual)
    else .error (.operator c.operator.name)
  | some _, none => .error (.dependencyInconclusive c.key)

/-- Judge a condition on a flag by how flags are asked for, and by the values that are known
then. -/
def Condition.judgeDependency (ask : String → σ → Except Undecided FlagValue × σ)
    (value? : σ → String → Option FlagValue) (c : Condition) (s : σ) : Verdict × σ :=
  match c.dependencyChain with
  | none => (.error (.missingDependency c.key), s)
  | some [] => (.error (.dependencyCycle c.key), s)
  | some chain =>
    match askChain ask chain s with
    | (.ok true, s) => (c.checkDependency (value? s c.key), s)
    | undecidedOrOff => undecidedOrOff

end FeatureFlags
