import OperationGate.Client.Call
import OperationGate.Json.Reader
import OperationGate.Response

/-!
# Clients

A client calls operations and keeps the answers to queries. A call has two parts: `start` looks the
answer up or makes a request, and `finish` decodes what came back and may keep it. Between the two,
other calls of the client may start and finish.
-/

namespace OperationGate

/-- A client: its settings and the answers that it keeps. -/
structure Client where
  config : ClientConfig
  cache : ResponseCache
  deriving Inhabited

/-- A call on its way. -/
structure Pending where
  /-- The key under which its answer is kept, if it is. -/
  key : Option String
  request : OutgoingRequest
  deriving Inhabited

/-- How a call starts: it fails, its answer is known, or a request is made for it. -/
inductive Started where
  | failed (failure : Failure)
  | known (body : Json)
  | pending (p : Pending)
  deriving Inhabited

/-- An operation with the types of its variables and its result. Some variables may have no value
that stands for them. -/
structure TypedOperation (V R : Type) where
  kind : OperationKind
  name : String
  encode : V → Option Json
  decode : Json → Option R

namespace Client

variable {R : Type}

/-- A client with settings that have no fault, and nothing kept. -/
def new (config : ClientConfig) : Except Failure Client :=
  match config.fault? with
  | some issue => .error (.config issue)
  | none => .ok ⟨config, .new config.cache.maxSize⟩

/-- A client that makes connections of its own, for which its user agent must be a header. -/
def connecting (config : ClientConfig) : Except Failure Client := do
  let client ← new config
  if !config.sharesConnection && !Headers.isValue config.userAgent then throw .http
  return client

/-- Starts a call. -/
def start (c : Client) (call : Call) : Started :=
  if call.kind = .subscription then .failed (.config (.subscriptionCalled call.name))
  else
    let key := call.key? c.config
    match key.bind c.cache.get? with
    | some body => .known body
    | none =>
      match call.request c.config with
      | .error fault => .failed (.url fault)
      | .ok request => .pending ⟨key, (c.config.interceptor.getD id) request⟩

/-- Decodes a body. -/
def decodeBody (decode : Json → Option R) (body : Json) : Except Failure (Response R) :=
  match Response.ofJson? decode body with
  | some r => .ok r
  | none => .error .json

/-- The successful answer that came back, if one did: what an observer sees. -/
def received (answer : Except Failure RawAnswer) : Except Failure RawAnswer :=
  match answer with
  | .error _ => .error (.server none)
  | .ok a => if a.isSuccess then .ok a else .error (.server (some a.status))

/-- The body and the decoded answer of what came back. -/
def decoded (decode : Json → Option R) (answer : Except Failure RawAnswer) :
    Except Failure (Json × Response R) := do
  let a ← received answer
  match Json.read? a.body with
  | none => .error (.server (some a.status))
  | some body => return (body, ← decodeBody decode body)

/-- Finishes a call with what came back for it. The body is kept if it could be decoded. -/
def finish (c : Client) (decode : Json → Option R) (key : Option String)
    (answer : Except Failure RawAnswer) : Except Failure (Response R) × Client :=
  match decoded decode answer with
  | .error e => (.error e, c)
  | .ok (body, response) =>
    (.ok response, { c with cache := key.elim c.cache fun k => c.cache.insert k body })

/-- Makes a call over a transport. -/
def request {m : Type → Type} [Monad m] (transport : OutgoingRequest → m (Except Failure RawAnswer))
    (decode : Json → Option R) (call : Call) (c : Client) :
    m (Except Failure (Response R) × Client) :=
  match c.start call with
  | .failed e => pure (.error e, c)
  | .known body => pure (decodeBody decode body, c)
  | .pending p => do return c.finish decode p.key (← transport p.request)

/-- Makes a call of an operation whose types are known. Variables that no value stands for are a
failure, before anything is looked up or sent. -/
def execute {m : Type → Type} [Monad m] {V : Type}
    (transport : OutgoingRequest → m (Except Failure RawAnswer)) (op : TypedOperation V R)
    (variableValues : V) (options : TransportOptions) (context : Table String)
    (caching : CallCaching) (c : Client) : m (Except Failure (Response R) × Client) :=
  match op.encode variableValues with
  | none => pure (.error .json, c)
  | some value =>
    c.request transport op.decode ⟨op.kind, op.name, value, options, context, caching⟩

/-- Makes a call of a query by its name; without variables it takes an empty record. -/
def query {m : Type → Type} [Monad m] (transport : OutgoingRequest → m (Except Failure RawAnswer))
    (decode : Json → Option R) (name : String) (variableValues : Option Json)
    (options : TransportOptions) (context : Table String) (caching : CallCaching) (c : Client) :
    m (Except Failure (Response R) × Client) :=
  c.request transport decode ⟨.query, name, variableValues.getD .emptyObject, options,
    context, caching⟩

/-- Makes a call of a mutation by its name; without variables it takes an empty record. -/
def mutate {m : Type → Type} [Monad m] (transport : OutgoingRequest → m (Except Failure RawAnswer))
    (decode : Json → Option R) (name : String) (variableValues : Option Json)
    (options : TransportOptions) (context : Table String) (caching : CallCaching) (c : Client) :
    m (Except Failure (Response R) × Client) :=
  c.request transport decode ⟨.mutation, name, variableValues.getD .emptyObject, options,
    context, caching⟩

/-- Forgets every answer. -/
def clearCache (c : Client) : Client :=
  { c with cache := c.cache.clear }

end Client

end OperationGate
