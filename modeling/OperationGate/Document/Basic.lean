import OperationGate.Number.Binary64
import OperationGate.Schema.TypeRef
import OperationGate.Selection
import OperationGate.Table

/-!
# Operation documents

A document as written: operations and fragments with their arguments and directives. `outline`
leaves of a selection what decides about types: which fields, fragments and conditions it names.
-/

namespace OperationGate.Document

/-- A value in a document. The members of a record ascend by name. -/
inductive Value where
  | var (name : String)
  | int (n : Int)
  | float (d : Binary64)
  | text (s : String)
  | bool (b : Bool)
  | null
  | enum (name : String)
  | list (items : List Value)
  | record (members : List (String × Value))
  deriving Repr, Inhabited

/-- Arguments in the order written. -/
abbrev Arguments := List (String × Value)

/-- A directive with its arguments. -/
structure Directive where
  name : String
  arguments : Arguments
  deriving Repr, Inhabited

/-- A selection as written. -/
inductive Node where
  | field (aliasName : Option String) (name : String) (arguments : Arguments)
      (directives : List Directive) (selections : List Node)
  | spread (fragment : String) (directives : List Directive)
  | inline (condition : Option String) (directives : List Directive) (selections : List Node)
  deriving Repr, Inhabited

/-- A variable that an operation declares. -/
structure Variable where
  name : String
  type : TypeRef
  default : Option Value
  deriving Repr, Inhabited

/-- An operation; one without a name is anonymous. -/
structure Operation where
  kind : OperationKind
  name : Option String
  parameters : List Variable
  directives : List Directive
  selections : List Node
  deriving Repr, Inhabited

/-- A named fragment on a type. -/
structure Fragment where
  name : String
  condition : String
  directives : List Directive
  selections : List Node
  deriving Repr, Inhabited

/-- A definition of a document. -/
inductive Definition where
  /-- A selection alone, which is an anonymous query. -/
  | bare (selections : List Node)
  | operation (op : Operation)
  | fragment (f : Fragment)
  deriving Repr, Inhabited

mutual

/-- What a selection names. -/
def Node.outline : Node → Selection
  | .field aliasName name _ _ selections => .field aliasName name (outlines selections)
  | .spread fragment _ => .spread fragment
  | .inline condition _ selections => .inline condition (outlines selections)

/-- What each of several selections names. -/
def outlines : List Node → List Selection
  | [] => []
  | n :: rest => n.outline :: outlines rest

end

end OperationGate.Document
