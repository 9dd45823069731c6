import OperationGate.Gateway.Documents
import OperationGate.Gateway.Options
import OperationGate.Json.Reader

/-!
# Gateways

A gateway serves the endpoints of stored operations: it finds the operation that a request names,
sends its document with the request's variables to a service, and gives back what the service
answers. `route` decides which requests are for an operation; every other request is answered
without the service.
-/

namespace OperationGate

/-- A gateway: the documents it serves and its settings. -/
structure Gateway (m : Type → Type) where
  documents : StoredDocuments
  options : GatewayOptions m

/-- What a request for an operation comes to: the call, the document, and the variables. -/
structure Routed where
  call : GatewayCall
  document : String
  variableValues : Json
  deriving Inhabited

namespace Gateway

/-- The answer to a request for nothing that is served. -/
def notFound : GatewayAnswer :=
  .error 404 "Not Found"

/-- The kind and the name of the operation that a path names: two segments below the route. -/
def target? (route path : String) : Option (OperationKind × String) := do
  let rest ← Text.afterFront? (Text.dropEndChar '/' route) path
  let rest ← Text.afterFront? "/" rest
  match Text.splitAt '/' rest with
  | [kind, name] =>
    let kind ← OperationKind.ofWord? kind
    if kind = .subscription then none else some (kind, name)
  | _ => none

/-- The method of requests for operations of a kind. -/
def methodOf (kind : OperationKind) : String :=
  if kind = .query then "GET" else "POST"

/-- The operation that a request is for, with its document and variables, or the answer that says
why there is none. -/
def route (documents : StoredDocuments) (base : String) (r : IncomingRequest) :
    Except GatewayAnswer Routed :=
  match target? base r.path with
  | none => .error notFound
  | some (kind, name) =>
    if r.method ≠ methodOf kind then
      .error
        (.error 405 ("Method " ++ r.method ++ " not allowed for " ++ kind.word ++ " operations"))
    else match documents.get? kind name with
      | none => .error (.error 404 ("Operation \"" ++ name ++ "\" not found"))
      | some document =>
        match r.variableValues kind with
        | .error message => .error (.error 400 message)
        | .ok variableValues => .ok ⟨⟨kind, name, r.clientContext, r⟩, document, variableValues⟩

/-- The body that is sent for an operation. -/
def bodyOf (r : Routed) : Json :=
  .object
    [("query", .text r.document), ("variables", r.variableValues),
      ("operationName", .text r.call.name)]

variable {m : Type → Type} [Monad m]

/-- The answer of an optional hook, or what counts without it. -/
def ask {α : Type} (hook : Option (m α)) (default : α) : m α :=
  hook.getD (pure default)

/-- The request that is sent for an operation. -/
def outgoing (o : GatewayOptions m) (r : Routed) : m (Except Failure OutgoingRequest) := do
  let endpoint ← ask (o.hooks.resolver.map (· r.call)) o.endpoint
  match Url.read endpoint with
  | .error fault => return .error (.url fault)
  | .ok url =>
    let request : OutgoingRequest := { OutgoingRequest.new "POST" url with headers := o.headers }
    let settings ← ask (o.hooks.transport.map (· r.call)) .none
    let request := settings.apply request
    let headers ← ask (o.hooks.headers.map (· r.call)) .empty
    return .ok { request with
      headers := request.headers.setEach headers.pairs, body := some (bodyOf r) }

/-- Answers a call that failed. -/
def fail (o : GatewayOptions m) (call : GatewayCall) (e : Failure) : m GatewayAnswer := do
  return (← ask (o.hooks.error.map fun hook => hook call e) none).getD
    (.error 500 Failure.serverMessage)

/-- The body of what the service answered. -/
def bodyFrom (answer : Except Failure RawAnswer) : Except Failure (RawAnswer × Json) := do
  let raw ← answer
  if !raw.isSuccess then throw (.server (some raw.status))
  match Json.read? raw.body with
  | none => throw .json
  | some body => return (raw, body)

/-- Sends an operation to the service and answers with what comes back. -/
def forward (o : GatewayOptions m) (transport : OutgoingRequest → m (Except Failure RawAnswer))
    (r : Routed) : m GatewayAnswer := do
  match ← outgoing o r with
  | .error e => fail o r.call e
  | .ok request =>
    match bodyFrom (← transport request) with
    | .error e => fail o r.call e
    | .ok (raw, body) =>
      return .ok (← ask (o.hooks.response.map fun hook => hook r.call raw body) body)

/-- Handles a request. Nothing fails: every fault is an answer. -/
def handle (g : Gateway m) (transport : OutgoingRequest → m (Except Failure RawAnswer))
    (r : IncomingRequest) : m GatewayAnswer :=
  match route g.documents g.options.route r with
  | .error answer => pure answer
  | .ok routed => forward g.options transport routed

end Gateway

end OperationGate
