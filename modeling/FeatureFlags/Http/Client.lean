import FeatureFlags.Config
import FeatureFlags.Definitions
import FeatureFlags.Http.Message
import FeatureFlags.Remote.Exchange
import FeatureFlags.Remote.Failure

/-!
# Calls over HTTP

Two calls are made: one for definitions, with the personal key, and one for the flags of an
identity. A call is a request that is built here, a delivery that is made elsewhere, and a result
that is read here from what was delivered.
-/

namespace FeatureFlags

/-- Where calls go, and the keys they carry. -/
structure HttpClient where
  host : String
  projectKey : String
  personalKey : String
  /-- How long to wait for a reply, in milliseconds. -/
  timeout : Nat

namespace HttpClient

/-- The client of a configuration; slashes at the end of the host do not count. -/
def ofConfig (c : Config) : HttpClient where
  host := String.ofList (c.host.toList.reverse.dropWhile (· = '/')).reverse
  projectKey := c.projectKey
  personalKey := c.personalKey
  timeout := c.requestTimeout

/-- The address of a path at the host. -/
def url (c : HttpClient) (path : String) : Except Failure Url :=
  match Url.read? (c.host ++ path) with
  | some u => .ok u
  | none => .error (.connection s!"builder error for url ({c.host}{path})")

/-- The request for definitions. -/
def definitionsRequest (c : HttpClient) : Except Failure HttpRequest := do
  if c.personalKey.isEmpty then throw .missingPersonalKey
  let url ← c.url "/api/feature_flag/local_evaluation?send_cohorts"
  let authorization := "Bearer " ++ c.personalKey
  if HttpRequest.isHeaderText authorization then
    pure ⟨"GET", url.withQuery "token" c.projectKey, some authorization, none, c.timeout⟩
  else throw (.connection "builder error: failed to parse header value")

/-- The request for the flags of an identity. -/
def flagsRequest (c : HttpClient) (r : FlagsRequest) : Except Failure HttpRequest := do
  let url ← c.url "/flags/?v=2"
  pure ⟨"POST", url, none, some r.encode, c.timeout⟩

/-- Read what was delivered. -/
def readDelivery {α : Type} (r : HttpRequest) (decode? : Json → Option α) :
    Delivery → Except Failure α
  | .refused => .error (.connection s!"error sending request for url ({r.url.target})")
  | .timedOut => .error (.timeout r.url.target)
  | .replied status body =>
    if 200 ≤ status ∧ status < 300 then
      match Json.parse? body >>= decode? with
      | some a => .ok a
      | none => .error (.unreadable "unexpected response")
    else .error (.status status)

/-- Read definitions. -/
def readDefinitions (r : HttpRequest) : Delivery → Except Failure DefinitionsDocument :=
  readDelivery r DefinitionsDocument.decode?

/-- Read flags. Flags that are over their limit are none. -/
def readFlags (r : HttpRequest) (d : Delivery) : Except Failure FlagsResponse := do
  let response ← readDelivery r FlagsResponse.decode? d
  if response.isQuotaLimited then throw .quotaLimited else pure response

/-! ### Whole calls -/

variable {m : Type → Type} [Monad m]

/-- Fetch definitions. -/
def fetchDefinitions (c : HttpClient) (deliver : HttpRequest → m Delivery) :
    m (Except Failure DefinitionsDocument) :=
  match c.definitionsRequest with
  | .error e => pure (.error e)
  | .ok r => do return readDefinitions r (← deliver r)

/-- Fetch the flags of an identity. -/
def fetchFlags (c : HttpClient) (deliver : HttpRequest → m Delivery) (request : FlagsRequest) :
    m (Except Failure FlagsResponse) :=
  match c.flagsRequest request with
  | .error e => pure (.error e)
  | .ok r => do return readFlags r (← deliver r)

end HttpClient

end FeatureFlags
