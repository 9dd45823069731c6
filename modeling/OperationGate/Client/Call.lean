import OperationGate.Client.Config

/-!
# Calls

A call of an operation, and the request that it makes: variables of a query and the client's context
travel in the query of the address, variables of a mutation in the body.
-/

namespace OperationGate

/-- What starts the parameters that carry the client's context. -/
def contextMark : String :=
  "__gqlc_"

/-- Whether one call may be cached; a call can refuse caching but not ask for it. -/
structure CallCaching where
  client : Option Bool
  server : Option Bool
  deriving DecidableEq, Repr, Inhabited

namespace CallCaching

/-- The call takes the settings of the client. -/
def unchanged : CallCaching := ⟨none, none⟩

/-- The call is not cached anywhere. -/
def disabled : CallCaching := ⟨some false, some false⟩

/-- Tells whether the call may be cached in a context. -/
def allows (c : CallCaching) (context : ExecutionContext) : Bool :=
  match context with
  | .client => c.client ≠ some false
  | .server => c.server ≠ some false

end CallCaching

/-- A call of an operation. -/
structure Call where
  kind : OperationKind
  name : String
  variableValues : Json
  transport : TransportOptions
  /-- What the server is told about the client. -/
  context : Table String
  caching : CallCaching
  deriving Inhabited

namespace Call

/-- Tells whether there are variables to be sent. -/
def hasVariables : Json → Bool
  | .null => false
  | .record members => !members.isEmpty
  | _ => true

/-- The parameters of the address of a call. -/
def parameters (c : Call) : List (String × String) :=
  (if c.kind = .query && hasVariables c.variableValues then
    [("variables", c.variableValues.compact)] else [])
    ++ c.context.entries.map fun e => (contextMark ++ e.1, e.2)

/-- The request that a call makes, before anyone changes it. -/
def request (config : ClientConfig) (c : Call) : Except UrlFault OutgoingRequest := do
  let url ← config.endpoint c.kind c.name
  let url := (url.appendPairs c.parameters).dropEmptyQuery
  let request : OutgoingRequest :=
    if c.kind = .query then .new "GET" url
    else { OutgoingRequest.new "POST" url with body := some c.variableValues }
  return c.transport.apply request

/-- Tells whether the answer to a call may be cached. -/
def isCacheable (config : ClientConfig) (c : Call) : Bool :=
  c.kind = .query && config.cache.enabledFor config.context && c.caching.allows config.context

/-- The key of a call whose answer may be cached. -/
def key? (config : ClientConfig) (c : Call) : Option String :=
  if c.isCacheable config then some (cacheKey config.cacheSpace c.kind c.name c.variableValues)
    else none

end Call

end OperationGate
