import OperationGate.Client.Call
import OperationGate.Json.Reader
import OperationGate.Text.Blank

/-!
# Requests to a gateway

A request as it comes in, and what it says: the context of the client, and the variables of the
operation.
-/

namespace OperationGate

/-- A request as it comes in. -/
structure IncomingRequest where
  method : String
  /-- The path of its address. -/
  path : String
  /-- The parameters of its address, decoded, in their order. -/
  query : List (String × String)
  headers : Headers
  body : Option String
  deriving Inhabited

namespace IncomingRequest

/-- The address that those of requests are relative to. -/
def home : Url :=
  ⟨"http", some ⟨"", "", .domain "localhost", none⟩, "/", none, none⟩

/-- The request of a method and an address such as `/api/query/x?variables=1`. -/
def read (method address : String) : Except UrlFault IncomingRequest := do
  let url ← Url.resolve (some home) address
  return ⟨method, url.path, url.queryPairs, .empty, none⟩

/-- What a request tells about the client: the parameters with the mark, without it. -/
def clientContext (r : IncomingRequest) : Table String :=
  .ofList <| r.query.filterMap fun p => (Text.afterFront? contextMark p.1).map fun key => (key, p.2)

/-- The plain parameters of a query, each of them a variable. -/
def plainVariables (r : IncomingRequest) : Json :=
  .object <| (r.query.filter fun p => (Text.afterFront? contextMark p.1).isNone).map fun p =>
    (p.1, .text p.2)

/-- The text of the variables. A query without it has its plain parameters for variables. -/
def variablesText (kind : OperationKind) (r : IncomingRequest) : Except Json String :=
  match kind with
  | .query =>
    match r.query.find? fun p => p.1 = "variables" with
    | some p => .ok p.2
    | none => .error r.plainVariables
  | _ => .ok (r.body.getD "")

/-- The variables that a text stands for, or why it stands for none. A text that is no value at all
is refused without the detail of what is wrong with it. -/
def readVariables (s : String) : Except String Json :=
  let s := Text.trimmed s
  if s = "" then .ok .emptyObject
  else match Json.read? s with
    | some (.record members) => .ok (.record members)
    | some .null => .ok .emptyObject
    | some _ => .error "Variables must be a JSON object"
    | none => .error "Invalid variables"

/-- The variables of a request for an operation of a kind. -/
def variableValues (kind : OperationKind) (r : IncomingRequest) : Except String Json :=
  match r.variablesText kind with
  | .error plain => .ok plain
  | .ok s => readVariables s

end IncomingRequest

end OperationGate
