import FeatureFlags.Decimal.Reading

/-!
# Addresses

The address of a call: a host, the number of a service there, and the target that is sent to it.
Only plain connections are made. Characters that may not stand in a target are written as the bytes
of their UTF-8 form, each after a percent sign.
-/

namespace FeatureFlags

/-- The address of a call. -/
structure Url where
  host : String
  /-- The number of the service at the host. -/
  service : Nat
  /-- The path and the query. -/
  target : String
  deriving DecidableEq, Repr

namespace Url

/-! ### Escapes -/

/-- A byte after a percent sign. -/
def escapeByte (b : UInt8) : List Char :=
  let digit (n : Nat) : Char := (Nat.digitChar n).toUpper
  ['%', digit (b.toNat / 16), digit (b.toNat % 16)]

/-- Escape the bytes of a character. -/
def escapeChar (c : Char) : List Char := (String.singleton c).toUTF8.toList.flatMap escapeByte

/-- Must a character of a path be escaped? -/
def isEscapedInPath (c : Char) : Bool :=
  c.toNat ≤ 0x20 || c.toNat ≥ 0x7F || "\"#<>?`\x7b\x7d^".toList.contains c

/-- Must a character of a query be escaped? -/
def isEscapedInQuery (c : Char) : Bool :=
  c.toNat ≤ 0x20 || c.toNat ≥ 0x7F || "\"#<>'".toList.contains c

/-- Escape the characters of a text that must be. -/
def escape (mustEscape : Char → Bool) (cs : List Char) : List Char :=
  cs.flatMap fun c => if mustEscape c then escapeChar c else [c]

/-- A value in a query as forms write it: a blank is a plus sign. -/
def formValue (s : String) : String :=
  String.ofList <| s.toList.flatMap fun c =>
    if c = ' ' then ['+']
    else if c.isAlphanum || "*-._".toList.contains c then [c]
    else escapeChar c

/-! ### Reading addresses -/

/-- The service that plain connections are made to. -/
def plainService : Nat := 80

/-- A host and, after a colon, the number of a service. -/
def readHost? (authority : List Char) : Option (String × Nat) :=
  let host := authority.takeWhile (· ≠ ':')
  let isPlain := host.all fun c => c.isAlphanum || c = '.' || c = '-' || c = '_'
  if host.isEmpty ∨ !isPlain then none
  else
    let name := String.ofList (host.map Char.toLower)
    match authority.drop host.length with
    | [] | [':'] => some (name, plainService)
    | _ :: digits =>
      if digits.all Char.isDigit ∧ Decimal.ofDigits digits < Nat.pow 2 16 then
        some (name, Decimal.ofDigits digits)
      else none

/-- The path and the query of an address, escaped. -/
def readTarget (rest : List Char) : List Char :=
  let rest := rest.takeWhile (· ≠ '#')
  let path := rest.takeWhile (· ≠ '?')
  let path := if path.isEmpty then ['/'] else path
  escape isEscapedInPath path ++ escape isEscapedInQuery (rest.dropWhile (· ≠ '?'))

/-- Read an address. -/
def read? (text : String) : Option Url :=
  let cs := text.toList
  let scheme := "http://".toList
  if (cs.take scheme.length).map Char.toLower = scheme then do
    let isEnd (c : Char) : Bool := c = '/' || c = '?' || c = '#'
    let rest := cs.drop scheme.length
    let (host, service) ← readHost? (rest.takeWhile fun c => !isEnd c)
    pure ⟨host, service, String.ofList (readTarget (rest.dropWhile fun c => !isEnd c))⟩
  else none

/-- The host, and the service unless it is the one of plain connections. -/
def authority (u : Url) : String :=
  if u.service = plainService then u.host else u.host ++ ":" ++ toString u.service

/-- Add a value to the query, under a name that needs no escape. -/
def withQuery (u : Url) (name value : String) : Url :=
  let mark := if u.target.toList.contains '?' then "&" else "?"
  { u with target := u.target ++ mark ++ name ++ "=" ++ formValue value }

end Url

end FeatureFlags
