import LiveFlags.Event
import LiveFlags.Http.EntityTag
import LiveFlags.Http.Message

/-!
# Fetching flags over HTTP

A fetcher keeps the flags of the last successful answer together with its entity tag. A fetch begins by
capturing what is kept and sending a request (`Fetcher.capture`); if something is kept, the request
asks the server to answer only if the flags have changed. The fetch ends with the outcome of the
exchange (`Fetcher.conclude`): a document of flags replaces what is kept, "not modified" gives the
flags that were captured, and anything else is an error that changes nothing. Fetches may overlap.
-/
namespace LiveFlags.Http

/-- What a fetcher keeps of a successful answer. -/
structure Cached where
  /-- The entity tag as it came, if it was text. -/
  entityTag : Option String
  /-- The flags. -/
  set : FlagSet

/-- What to compare the flags of the server with: the tag that came with the last flags, or else the
version that is in use. -/
def Cached.validator (cached : Cached) (currentVersion : Option String) : Option String :=
  cached.entityTag.or (currentVersion.map EntityTag.quote)

/-- A source of flags behind HTTP. -/
structure Fetcher where
  /-- Where the flags are. -/
  endpoint : Url
  /-- The key to identify with. -/
  apiKey : String
  /-- How long an exchange may take if its request does not say. -/
  requestTimeout : Duration
  /-- What the last successful answer has brought. -/
  cached : Option Cached

/-- A fetch that waits for its answer. -/
structure Pending where
  /-- What the fetcher kept when the fetch began. -/
  captured : Option Cached
  /-- The request that has been sent. -/
  request : Request

/-- What a fetch comes to. -/
structure Fetched where
  /-- The flags, or why there are none. -/
  result : Except HttpError FlagSet
  /-- What the fetcher is to keep from now on, if that changes. -/
  replacement : Option Cached
  /-- The events that the fetch leaves. -/
  events : List Event

namespace Fetcher

/-- The name and the version that every request is sent under. -/
def userAgent : String := "runtime-flags/0.1.0"

/-- The request of a fetch. -/
def request (fetcher : Fetcher) (context : FetchContext) : Request where
  url := fetcher.endpoint
  authorization := Text.Utf8.encode ("Bearer " ++ fetcher.apiKey)
  ifNoneMatch :=
    (fetcher.cached.bind (·.validator context.currentVersion)).map Text.Utf8.encode
  userAgent := Text.Utf8.encode userAgent
  timeout := some context.timeout

/-- A fetch begins: what is kept is captured and the request is sent. -/
def capture (fetcher : Fetcher) (context : FetchContext) : Pending :=
  ⟨fetcher.cached, fetcher.request context⟩

/-- How long an exchange may take. -/
def deadline (fetcher : Fetcher) (request : Request) : Duration :=
  request.timeout.getD fetcher.requestTimeout

end Fetcher

/-- Reads a document of flags. -/
def readDocument (bytes : List UInt8) : Except Json.Problem FlagSet :=
  Json.Reader.run (FlagSet.reader "struct FlagsDocument") (Json.Input.ofBytes bytes)

/-- The flags of a document; without a version of their own they take that of the entity tag. -/
def versioned (set : FlagSet) (entityTag : Option String) : FlagSet :=
  { set with version := set.version.or (entityTag.map EntityTag.unquote) }

namespace Pending

/-- A fetch that ends with an error. -/
def refused (error : HttpError) : Fetched := ⟨.error error, none, []⟩

/-- The document of a successful answer. -/
def accept (answer : Answer) : Fetched :=
  match answer.body with
  | .cut fault => refused (.request fault)
  | .whole bytes =>
    match readDocument bytes with
    | .error problem => refused (.decode problem.message)
    | .ok document =>
      let set := versioned document answer.entityTag?
      ⟨.ok set, some ⟨answer.entityTag?, set⟩, [.fetched set.flags.size set.version]⟩

/-- The captured flags, which the server has not changed. -/
def reuse (pending : Pending) : Fetched :=
  ⟨match pending.captured with
    | some cached => .ok cached.set
    | none => .error .notModifiedWithoutCache, none, [.notModified]⟩

/-- What a fetch comes to when the exchange has ended. -/
def handle (pending : Pending) (outcome : Outcome) : Fetched :=
  match outcome with
  | .error fault => refused (.request fault)
  | .ok answer =>
    if answer.status = 304 then pending.reuse
    else if answer.status = 401 ∨ answer.status = 403 then refused (.unauthorized answer.status)
    else if answer.isSuccess then accept answer
    else refused (.status answer.status answer.lossyText)

end Pending

namespace Fetcher

/-- The fetcher after a fetch has come to something. -/
def keep (fetcher : Fetcher) (fetched : Fetched) : Fetcher :=
  { fetcher with cached := fetched.replacement.or fetcher.cached }

/-- A fetch ends with the outcome of its exchange. -/
def conclude (fetcher : Fetcher) (pending : Pending) (outcome : Outcome) : Fetched × Fetcher :=
  let fetched := pending.handle outcome
  (fetched, fetcher.keep fetched)

/-- A fetch that nothing overlaps, with what the server receives of it. -/
def fetch (fetcher : Fetcher) (context : FetchContext) (route : Route) (words : TransportWords)
    (reaction : Reaction) : Fetched × Option Request × Fetcher :=
  let pending := fetcher.capture context
  let (fetched, next) := fetcher.conclude pending (route.exchange words pending.request reaction)
  (fetched, route.delivers pending.request, next)

end Fetcher

/-- The result of a fetch as a source of flags gives it. -/
def Fetched.sourceResult (fetched : Fetched) : Except FetchError FlagSet :=
  match fetched.result with
  | .ok set => .ok set
  | .error error => .error error.toFetchError

end LiveFlags.Http
