import LiveFlags.Http.Fetcher
import LiveFlags.Text.Blank
import LiveFlags.Text.Quoted
import LiveFlags.Url.Reading

/-!
# Building a fetcher

A fetcher needs the address of a server and a key that is not blank. The path of the flags is joined
onto the address; the address is checked before the key.
-/
namespace LiveFlags.Http

/-- The settings of a fetcher to be built. -/
structure FetcherBuilder where
  /-- The address of the server. -/
  baseUrl : Option String
  /-- The key to identify with. -/
  apiKey : Option String
  /-- The path of the flags. -/
  path : Option String
  /-- How long an exchange may take. -/
  requestTimeout : Option Duration
  deriving DecidableEq, Repr

namespace FetcherBuilder

/-- The path of the flags unless another is set. -/
def defaultPath : String := "/api/flags"

/-- How long an exchange may take unless something else is set. -/
def defaultRequestTimeout : Duration := .ofMillis 10000

/-- Where the flags are. -/
def endpoint (builder : FetcherBuilder) : Except HttpError Url :=
  match builder.baseUrl with
  | none => .error (.invalidUrl "base URL is required")
  | some base =>
    match (Url.parse base).bind fun base => base.join (builder.path.getD defaultPath) with
    | .error fault => .error (.invalidUrl fault.message)
    | .ok url => .ok url

/-- Builds a fetcher that has not fetched anything. -/
def build (builder : FetcherBuilder) : Except HttpError Fetcher := do
  let endpoint ← builder.endpoint
  match builder.apiKey.filter fun key => !(Text.trim key).isEmpty with
  | none => .error .missingApiKey
  | some key =>
    .ok ⟨endpoint, key, builder.requestTimeout.getD defaultRequestTimeout, none⟩

end FetcherBuilder

/-- The fetcher in words, its key left out. -/
def Fetcher.describe (fetcher : Fetcher) : String :=
  "HttpFlagFetcher \x7b endpoint: " ++ Text.quote fetcher.endpoint.print
    ++ ", api_key: \"[REDACTED]\" \x7d"

end LiveFlags.Http
