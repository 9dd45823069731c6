import OperationGate.Failure
import OperationGate.Gateway.Request
import OperationGate.Text.Shown

/-!
# Gateway settings

Where a gateway sends operations, and the hooks through which its host takes part in a call.
-/

namespace OperationGate

/-- The answer of a gateway. -/
structure GatewayAnswer where
  status : Nat
  body : Json
  deriving Inhabited

namespace GatewayAnswer

/-- An answer of success. -/
def ok (body : Json) : GatewayAnswer :=
  ⟨200, body⟩

/-- An answer with a message. -/
def error (status : Nat) (message : String) : GatewayAnswer :=
  ⟨status, .record [("message", .text message)]⟩

end GatewayAnswer

/-- The call that a gateway is handling. -/
structure GatewayCall where
  kind : OperationKind
  name : String
  /-- What the request tells about the client. -/
  clientContext : Table String
  request : IncomingRequest
  deriving Inhabited

/-- What the host of a gateway does during a call. A part that is missing is left to the gateway. -/
structure Hooks (m : Type → Type) where
  /-- Picks the service that the operation is sent to. -/
  resolver : Option (GatewayCall → m String)
  /-- Gives settings of the transport. -/
  transport : Option (GatewayCall → m TransportOptions)
  /-- Gives headers, which count more than all others. -/
  headers : Option (GatewayCall → m Headers)
  /-- Reshapes the body of a successful answer. -/
  response : Option (GatewayCall → RawAnswer → Json → m Json)
  /-- Answers a call that failed, or leaves it to the gateway. -/
  error : Option (GatewayCall → Failure → m (Option GatewayAnswer))

/-- No part is taken. -/
def Hooks.none {m : Type → Type} : Hooks m :=
  ⟨.none, .none, .none, .none, .none⟩

/-- The settings of a gateway. -/
structure GatewayOptions (m : Type → Type) where
  /-- The service that operations are sent to. -/
  endpoint : String
  /-- The route of the gateway's endpoints. -/
  route : String
  /-- Headers sent with every operation. -/
  headers : Headers
  hooks : Hooks m

namespace GatewayOptions

variable {m : Type → Type}

/-- The usual settings for a service. -/
def new (endpoint : String) : GatewayOptions m :=
  ⟨endpoint, defaultRoute, .empty, .none⟩

/-- The settings that fit a project. -/
def ofConfig (c : ProjectConfig) : GatewayOptions m :=
  { new c.endpoint with route := c.route }

/-- The settings as summaries show them. -/
def summary (o : GatewayOptions m) : String :=
  "ServerOptions \x7b graphql_endpoint: " ++ Text.Shown.quote o.endpoint
    ++ ", server_api_prefix: " ++ Text.Shown.quote o.route
    ++ ", headers: " ++ toString o.headers.size
    ++ ", endpoint_resolver: " ++ Text.Shown.flag o.hooks.resolver.isSome
    ++ ", fetch_options: " ++ Text.Shown.flag o.hooks.transport.isSome
    ++ ", header_builder: " ++ Text.Shown.flag o.hooks.headers.isSome
    ++ ", response_hook: " ++ Text.Shown.flag o.hooks.response.isSome
    ++ ", error_hook: " ++ Text.Shown.flag o.hooks.error.isSome ++ " \x7d"

end GatewayOptions

end OperationGate
