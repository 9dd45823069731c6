import OperationGate.Http.Headers
import OperationGate.Json.Basic
import OperationGate.Url.Parser

/-!
# Requests and answers

What is sent to another machine, the settings of the transport that a caller may give, and what
comes back.
-/

namespace OperationGate

/-- A request ready to be sent. -/
structure OutgoingRequest where
  method : String
  url : Url
  headers : Headers
  body : Option Json
  /-- How long to wait for this request, in milliseconds. -/
  timeout : Option Nat
  deriving Inhabited

/-- A request without headers, body and timeout. -/
def OutgoingRequest.new (method : String) (url : Url) : OutgoingRequest :=
  ⟨method, url, .empty, none, none⟩

/-- Settings of the transport for one request. -/
structure TransportOptions where
  headers : Headers
  /-- Parameters added to the query. -/
  query : List (String × String)
  timeout : Option Nat
  deriving Inhabited

namespace TransportOptions

/-- No settings. -/
def none : TransportOptions := ⟨.empty, [], .none⟩

/-- A request with the settings applied: headers are set, parameters added, and a timeout
replaced. -/
def apply (o : TransportOptions) (r : OutgoingRequest) : OutgoingRequest :=
  { r with
    headers := r.headers.setEach o.headers.pairs
    url := if o.query.isEmpty then r.url else r.url.appendPairs o.query
    timeout := o.timeout.or r.timeout }

end TransportOptions

/-- An answer as it comes back. -/
structure RawAnswer where
  status : Nat
  headers : Headers
  body : String
  deriving Inhabited

/-- Tells whether the status of an answer is one of success. -/
def RawAnswer.isSuccess (a : RawAnswer) : Bool :=
  200 ≤ a.status && a.status < 300

end OperationGate
