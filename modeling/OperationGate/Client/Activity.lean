import OperationGate.Client.Basic

/-!
# What a client runs for a call

A request goes through the interceptor before it is sent, and a successful answer is shown to the
observer before it is decoded. `Client.perform` makes a call step by step, with a record of what is
run for it.
-/

namespace OperationGate

/-- Something that a client runs for a call. -/
inductive Activity where
  /-- The interceptor is given a request. -/
  | intercepted (request : OutgoingRequest)
  /-- The transport is given a request. -/
  | sent (request : OutgoingRequest)
  /-- The observer is shown an answer. -/
  | observed (answer : RawAnswer)

/-- Steps with a record of what is run. -/
abbrev Recorded := StateM (List Activity)

namespace Recorded

/-- Records that something is run. -/
def record (a : Activity) : Recorded Unit :=
  modify (· ++ [a])

/-- The request as the interceptor leaves it, if there is one. -/
def intercept (config : ClientConfig) (request : OutgoingRequest) : Recorded OutgoingRequest :=
  match config.interceptor with
  | none => return request
  | some f => do
    record (.intercepted request)
    return f request

/-- Shows an answer to the observer, if there is one. -/
def observe (config : ClientConfig) (answer : RawAnswer) : Recorded Unit :=
  if config.isObserved then record (.observed answer) else return ()

/-- Sends a request, and gives the answer if it is one of success. -/
def dispatch (transport : OutgoingRequest → Except Failure RawAnswer) (request : OutgoingRequest) :
    Recorded (Except Failure RawAnswer) := do
  record (.sent request)
  return Client.received (transport request)

end Recorded

namespace Client

open Recorded

variable {R : Type}

/-- Makes a call with a record of what is run for it. -/
def perform (transport : OutgoingRequest → Except Failure RawAnswer) (decode : Json → Option R)
    (call : Call) (c : Client) : Recorded (Except Failure (Response R) × Client) :=
  if call.kind = .subscription then return (.error (.config (.subscriptionCalled call.name)), c)
  else
    let key := call.key? c.config
    match key.bind c.cache.get? with
    | some body => return (decodeBody decode body, c)
    | none =>
      match call.request c.config with
      | .error fault => return (.error (.url fault), c)
      | .ok request => do
        let request ← intercept c.config request
        match ← dispatch transport request with
        | .error e => return (.error e, c)
        | .ok answer => do
          observe c.config answer
          return c.finish decode key (.ok answer)

end Client

end OperationGate
