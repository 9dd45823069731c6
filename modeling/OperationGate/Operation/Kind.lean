import OperationGate.Text.Casing
import OperationGate.Text.Cut

/-!
# Kinds of operations

Queries, mutations and subscriptions: their words, the names of the types that describe an operation
of a kind, and the route of its endpoint.
-/

namespace OperationGate

/-- The kind of an operation. -/
inductive OperationKind where
  | query
  | mutation
  | subscription
  deriving DecidableEq, Repr, Inhabited

namespace OperationKind

/-- Every kind, in the order in which operations are listed. -/
def all : List OperationKind :=
  [.query, .mutation, .subscription]

/-- The place of a kind in the list of all kinds. -/
def rank : OperationKind → Nat
  | .query => 0
  | .mutation => 1
  | .subscription => 2

/-- The keyword of a kind, which is also its segment of a route. -/
def word : OperationKind → String
  | .query => "query"
  | .mutation => "mutation"
  | .subscription => "subscription"

/-- The word that ends the type name of an operation of a kind. -/
def typeSuffix : OperationKind → String
  | .query => "Query"
  | .mutation => "Mutation"
  | .subscription => "Subscription"

/-- The kind that a segment of a route names. -/
def ofWord? (s : String) : Option OperationKind :=
  all.find? fun k => k.word = s

/-- Every kind is the one that its word names. -/
@[simp]
theorem ofWord?_word (k : OperationKind) : ofWord? k.word = some k := by
  cases k <;> decide

end OperationKind

/-- The name of the type of an operation's result. -/
def resultTypeName (name : String) (kind : OperationKind) : String :=
  Text.pascalCase name ++ kind.typeSuffix

/-- The name of the type of an operation's variables. -/
def variablesTypeName (name : String) (kind : OperationKind) : String :=
  resultTypeName name kind ++ "Variables"

/-- The name of the type of a fragment. -/
def fragmentTypeName (name : String) : String :=
  Text.pascalCase name ++ "Fragment"

/-- The route of the endpoint of an operation: the route of all endpoints, less slashes at its end,
the kind and the name. -/
def endpointPath (base : String) (kind : OperationKind) (name : String) : String :=
  Text.dropEndChar '/' base ++ "/" ++ kind.word ++ "/" ++ name

end OperationGate
