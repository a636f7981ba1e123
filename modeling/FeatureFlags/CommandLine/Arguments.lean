import FeatureFlags.Context
import FeatureFlags.Json.Reader

/-!
# Arguments

The arguments of the program name one identity and say what is known about it. They are read from
left to right: the first that cannot be used ends the reading, and so does a call for help or for
the version.
-/

namespace FeatureFlags.CommandLine

/-! ### What arguments ask for -/

/-- What the arguments have said so far. -/
structure Arguments where
  distinctId : Option String := none
  /-- The only flag to evaluate. -/
  flag : Option String := none
  personProperties : List (String × String) := []
  groups : List (String × String) := []
  deriving DecidableEq, Repr

/-- What the program is asked for. -/
inductive Command where
  | evaluate (distinctId : String) (flag : Option String) (context : Context)
  | showHelp
  | showVersion
  deriving DecidableEq, Repr

/-- The value of a property as it is written: JSON if it reads as such, and else a text. -/
def readPropertyValue (text : String) : Json :=
  match Json.parse? text with
  | some j => j.canonical
  | none => .string text

namespace Arguments

/-- What the arguments say about the identity. -/
def context (a : Arguments) : Context :=
  let person := a.personProperties.foldl
    (fun c p => c.withPersonProperty p.1 (readPropertyValue p.2)) Context.nothing
  a.groups.foldl (fun c g => c.withGroup g.1 g.2) person

/-- What arguments ask for once all of them are read. They have to name an identity. -/
def command? (a : Arguments) : Option Command :=
  a.distinctId.map fun distinctId => .evaluate distinctId a.flag a.context

end Arguments

/-! ### Single arguments -/

/-- What an argument is by its first characters. -/
inductive Shape where
  /-- Two dashes alone: no options follow. -/
  | endOfOptions
  /-- An option by its name, with a value after an equals sign if there is one. -/
  | long (name : String) (value : Option String)
  /-- An option by its letter. -/
  | short (letter : Char)
  | plain
  deriving DecidableEq, Repr

/-- The shape of an argument; a single dash is plain. -/
def shapeOf (argument : String) : Shape :=
  match argument.toList with
  | ['-', '-'] => .endOfOptions
  | '-' :: '-' :: rest =>
    let value := match rest.dropWhile (· ≠ '=') with
      | _ :: value => some (String.ofList value)
      | [] => none
    .long (String.ofList (rest.takeWhile (· ≠ '='))) value
  | '-' :: letter :: _ => .short letter
  | _ => .plain

/-- An option that takes a value. -/
inductive Setting where
  | flag
  | personProperty
  | group
  deriving DecidableEq, Repr

/-- The option of a name. -/
def Setting.named? (name : String) : Option Setting :=
  if name = "flag" then some .flag
  else if name = "person-property" then some .personProperty
  else if name = "group" then some .group
  else none

/-- A name and a value with an equals sign between them; the name may not be empty. -/
def readPair? (text : String) : Option (String × String) :=
  let name := text.toList.takeWhile (· ≠ '=')
  match name, text.toList.drop name.length with
  | _ :: _, _ :: value => some (String.ofList name, String.ofList value)
  | _, _ => none

/-- Take the value of an option into account. Only one flag may be named. -/
def Arguments.set? (a : Arguments) (s : Setting) (value : String) : Option Arguments :=
  match s with
  | .flag => if a.flag.isSome then none else some { a with flag := some value }
  | .personProperty =>
    (readPair? value).map fun p => { a with personProperties := a.personProperties ++ [p] }
  | .group => (readPair? value).map fun p => { a with groups := a.groups ++ [p] }

/-- Take an argument that belongs to no option: it is the distinct id, and there is only one. -/
def Arguments.setDistinctId? (a : Arguments) (value : String) : Option Arguments :=
  if a.distinctId.isSome then none else some { a with distinctId := some value }

/-! ### Reading -/

/-- Where the reading of arguments stands. -/
inductive Progress where
  | open (a : Arguments)
  /-- An option still waits for its value. -/
  | awaiting (a : Arguments) (s : Setting)
  /-- No options are left. -/
  | plainOnly (a : Arguments)
  | ended (c : Command)
  deriving DecidableEq, Repr

namespace Progress

/-- Read an argument where an option may stand. -/
def readOpen? (a : Arguments) (argument : String) : Option Progress :=
  match shapeOf argument with
  | .plain => (a.setDistinctId? argument).map .open
  | .endOfOptions => some (.plainOnly a)
  | .short 'h' | .long "help" none => some (.ended .showHelp)
  | .short 'V' | .long "version" none => some (.ended .showVersion)
  | .short _ => none
  | .long name value => do
    let s ← Setting.named? name
    match value with
    | some value => (a.set? s value).map .open
    | none => some (.awaiting a s)

/-- Read one more argument. -/
def read? (argument : String) : Progress → Option Progress
  | .open a => readOpen? a argument
  | .awaiting a s =>
    if shapeOf argument = .plain then (a.set? s argument).map .open else none
  | .plainOnly a => (a.setDistinctId? argument).map .plainOnly
  | .ended c => some (.ended c)

/-- What is asked for when no argument is left. -/
def command? : Progress → Option Command
  | .open a | .plainOnly a => a.command?
  | .awaiting _ _ => none
  | .ended c => some c

end Progress

/-- What a list of arguments asks for, if it can be used. -/
def readCommand? (arguments : List String) : Option Command := do
  (← arguments.foldlM (fun p argument => p.read? argument) (Progress.open {})).command?

end FeatureFlags.CommandLine
