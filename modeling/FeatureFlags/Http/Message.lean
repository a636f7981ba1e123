import FeatureFlags.Http.Url
import FeatureFlags.Json.Printer
import FeatureFlags.Json.Reader
import FeatureFlags.Text.Blank

/-!
# Messages

Requests as they are sent over a connection, and replies as they come back: the lines of a head,
an empty line, and a body. A connection carries one request and its reply, so a body that does not
say how long it is ends with the connection.
-/

namespace FeatureFlags

/-- A request. -/
structure HttpRequest where
  method : String
  url : Url
  authorization : Option String
  body : Option Json
  /-- How long to wait for the reply, in milliseconds. -/
  timeout : Nat

/-- What became of a request. -/
inductive Delivery where
  /-- No connection could be made, or it broke off. -/
  | refused
  /-- No reply came in time. -/
  | timedOut
  | replied (status : Nat) (body : String)
  deriving DecidableEq, Repr

/-! ### Requests -/

namespace HttpRequest

/-- The type of all bodies. -/
def contentType : String := "application/json"

/-- How the client calls itself. -/
def userAgent : String := "posthog-local-evaluation/0.1.0"

/-- May a text be the value of a header? Control characters other than tabs may not. -/
def isHeaderText (s : String) : Bool :=
  s.toList.all fun c => c = '\t' || (0x20 ≤ c.toNat && c.toNat ≠ 0x7F)

/-- The text of the body; a request without a body has an empty one. -/
def bodyText (r : HttpRequest) : String := (r.body.map Json.compact).getD ""

/-- The headers of a request. -/
def headers (r : HttpRequest) : List (String × String) :=
  [("content-type", contentType), ("user-agent", userAgent), ("accept", "*/*"),
    ("host", r.url.authority), ("connection", "close")]
    ++ (r.authorization.map fun a => ("authorization", a)).toList
    ++ (r.body.map fun _ => ("content-length", toString r.bodyText.utf8ByteSize)).toList

/-- The request as it is sent. -/
def text (r : HttpRequest) : String :=
  let head := s!"{r.method} {r.url.target} HTTP/1.1\r\n"
  let lines := r.headers.map fun h => h.1 ++ ": " ++ h.2 ++ "\r\n"
  head ++ String.join lines ++ "\r\n" ++ r.bodyText

end HttpRequest

/-! ### Replies -/

/-- A reply with the body that came over the connection. -/
structure HttpReply where
  status : Nat
  /-- The headers, with names in lower case. -/
  headers : List (String × String)
  body : List UInt8
  deriving DecidableEq, Repr

namespace HttpReply

/-- The byte at the end of a line. -/
def lineFeed : UInt8 := 10

/-- The byte that may come before the end of a line. -/
def carriageReturn : UInt8 := 13

/-- The first line of some bytes without its end, and the bytes after it. -/
def takeLine (bytes : List UInt8) : String × List UInt8 :=
  let line := (bytes.takeWhile (· ≠ lineFeed)).filter (· ≠ carriageReturn)
  (String.ofList (line.map fun b => Char.ofNat b.toNat), (bytes.dropWhile (· ≠ lineFeed)).drop 1)

/-- The lines of a head up to the empty one, at most so many, and the bytes after it. -/
def takeHead? : Nat → List UInt8 → Option (List String × List UInt8)
  | 0, _ | _, [] => none
  | lines + 1, bytes =>
    let (line, rest) := takeLine bytes
    if line.isEmpty then some ([], rest)
    else (takeHead? lines rest).map fun (more, rest) => (line :: more, rest)

/-- The status that the first line of a head tells after the name of the protocol. -/
def readStatus? (line : String) : Option Nat :=
  match line.splitOn " " with
  | _ :: status :: _ => status.toNat?
  | _ => none

/-- A header: a name and a value with a colon between them. -/
def readHeader (line : String) : String × String :=
  let name := line.toList.takeWhile (· ≠ ':')
  (String.ofList (name.map Char.toLower),
    String.ofList (Text.trimList (line.toList.drop (name.length + 1))))

/-- Read a reply. -/
def read? (bytes : List UInt8) : Option HttpReply := do
  let (head, body) ← takeHead? bytes.length bytes
  let status ← readStatus? (← head.head?)
  pure ⟨status, (head.drop 1).map readHeader, body⟩

/-- The value of a header. -/
def header? (r : HttpReply) (name : String) : Option String :=
  (r.headers.find? fun h => h.1 = name).map Prod.snd

/-- The length of a chunk in hexadecimal digits; anything may follow a semicolon. -/
def readChunkSize? (line : String) : Option Nat := do
  let digits ← (Text.trimList (line.toList.takeWhile (· ≠ ';'))).mapM Json.hexValue?
  if digits.isEmpty then none else pure (digits.foldl (fun n d => 16 * n + d) 0)

/-- The bytes of at most so many chunks; a chunk of no bytes is the last. -/
def joinChunks? : Nat → List UInt8 → Option (List UInt8)
  | 0, _ => none
  | chunks + 1, bytes => do
    let (line, rest) := takeLine bytes
    let size ← readChunkSize? line
    if size = 0 then pure []
    else if rest.length < size then none
    else
      let more ← joinChunks? chunks (takeLine (rest.drop size)).2
      pure (rest.take size ++ more)

/-- The bytes of the body, if all of them have come. -/
def content? (r : HttpReply) : Option (List UInt8) :=
  if r.header? "transfer-encoding" = some "chunked" then joinChunks? (r.body.length + 1) r.body
  else
    match r.header? "content-length" with
    | none => some r.body
    | some length => do
      let length ← length.toNat?
      if r.body.length < length then none else pure (r.body.take length)

end HttpReply

/-- What a connection has brought by its end. Bytes that are no text are no JSON either, and read
like a body that is empty. -/
def Delivery.ofBytes (bytes : List UInt8) : Delivery :=
  match HttpReply.read? bytes with
  | none => .refused
  | some reply =>
    match reply.content? with
    | none => .refused
    | some content => .replied reply.status ((String.fromUTF8? ⟨content.toArray⟩).getD "")

end FeatureFlags
