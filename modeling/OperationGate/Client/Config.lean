import OperationGate.Client.Cache
import OperationGate.Failure
import OperationGate.Http.Message
import OperationGate.Project.Config
import OperationGate.Text.Duration
import OperationGate.Text.Shown

/-!
# Client configuration

The settings of a client: where the endpoints are, what is sent with every request, and what is
cached where.
-/

namespace OperationGate

/-- Where a client runs; what is cached depends on it. -/
inductive ExecutionContext where
  | client
  | server
  deriving DecidableEq, Repr, Inhabited

/-- The word for a context in summaries. -/
def ExecutionContext.word : ExecutionContext → String
  | .client => "Client"
  | .server => "Server"

/-- What is cached. -/
structure CacheSettings where
  /-- Queries of clients are cached. -/
  client : Bool
  /-- Queries of servers are cached. -/
  server : Bool
  /-- The number of answers that are kept. -/
  maxSize : Nat
  deriving DecidableEq, Repr, Inhabited

namespace CacheSettings

/-- Nothing is cached; there would be room for thirty answers. -/
def usual : CacheSettings := ⟨false, false, 30⟩

/-- Tells whether queries are cached in a context. -/
def enabledFor (s : CacheSettings) : ExecutionContext → Bool
  | .client => s.client
  | .server => s.server

/-- The settings as summaries show them. -/
def summary (s : CacheSettings) : String :=
  "CacheConfig \x7b client: " ++ Text.Shown.flag s.client ++ ", server: " ++
    Text.Shown.flag s.server ++ ", max_size: " ++ toString s.maxSize ++ " \x7d"

end CacheSettings

/-- The settings of a client. -/
structure ClientConfig where
  /-- Where the endpoints are, as it was given. -/
  givenBase : String
  /-- Where the endpoints are, unless what was given is no address. -/
  base : Option Url
  /-- The route of the endpoints. -/
  route : String
  /-- How long to wait for an answer, in milliseconds. -/
  timeout : Nat
  userAgent : String
  /-- Headers sent with every request. -/
  headers : Headers
  /-- Requests go over a connection made elsewhere, with settings of its own. -/
  sharesConnection : Bool
  cache : CacheSettings
  context : ExecutionContext
  /-- A change made to every request before it is sent. -/
  interceptor : Option (OutgoingRequest → OutgoingRequest)
  /-- Successful answers are shown to someone before they are decoded. -/
  isObserved : Bool
  deriving Inhabited

namespace ClientConfig

/-- The address that a text without slashes at its end stands for; without a scheme, it is a secure
one. -/
def readBase (s : String) : Option Url :=
  let s := Text.dropEndChar '/' s
  match Url.read s with
  | .ok u => some u
  | .error _ => (Url.read ("https://" ++ s)).toOption

/-- The usual settings for endpoints at an address. -/
def new (base : String) : ClientConfig where
  givenBase := base
  base := readBase base
  route := defaultRoute
  timeout := 30000
  userAgent := "graphql-middleware/0.1.0 (Rust)"
  headers := .empty
  sharesConnection := false
  cache := .usual
  context := .client
  interceptor := none
  isObserved := false

/-- The first fault of the settings, if there is one. -/
def fault? (c : ClientConfig) : Option ConfigIssue :=
  match c.base with
  | none => some (.invalidBaseUrl c.givenBase)
  | some u =>
    if u.scheme ≠ "http" && u.scheme ≠ "https" then some (.invalidBaseScheme u.scheme)
    else if c.route.toList.head? ≠ some '/' then some (.apiRouteWithoutSlash c.route)
    else if c.cache.maxSize = 0 then some .cacheWithoutRoom
    else none

/-- The text of the address that endpoints are below, without slashes at its end. -/
def baseText (c : ClientConfig) : String :=
  Text.dropEndChar '/' (c.base.elim "" (·.text))

/-- What the keys of all calls start with: where the endpoints are. -/
def cacheSpace (c : ClientConfig) : String :=
  c.baseText ++ Text.dropEndChar '/' c.route

/-- The address of the endpoint of an operation. -/
def endpoint (c : ClientConfig) (kind : OperationKind) (name : String) : Except UrlFault Url :=
  Url.read (c.baseText ++ endpointPath c.route kind name)

/-- The settings as summaries show them, from the route on. -/
def summary (c : ClientConfig) : String :=
  "server_api_prefix: " ++ Text.Shown.quote c.route
    ++ ", timeout: " ++ Text.duration c.timeout
    ++ ", user_agent: " ++ Text.Shown.quote c.userAgent
    ++ ", extra_headers: " ++ toString c.headers.size
    ++ ", http_client: " ++ Text.Shown.flag c.sharesConnection
    ++ ", cache: " ++ c.cache.summary
    ++ ", context: " ++ c.context.word
    ++ ", interceptor: " ++ Text.Shown.flag c.interceptor.isSome
    ++ ", observer: " ++ Text.Shown.flag c.isObserved ++ " \x7d"

end ClientConfig

end OperationGate
