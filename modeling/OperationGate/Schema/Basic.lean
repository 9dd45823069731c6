import OperationGate.Operation.Kind
import OperationGate.Schema.TypeRef
import OperationGate.Table

/-!
# Schemas

The types that operations are checked against. A type carries members of every sort, since an
extension may add fields, values or members to whatever type it names; which of them count is
decided by the kind.
-/

namespace OperationGate

/-- The kind of a named type. -/
inductive TypeKind where
  | scalar
  | object
  | interface
  | union
  | enum
  | inputObject
  deriving DecidableEq, Repr, Inhabited

/-- The word for a kind. -/
def TypeKind.word : TypeKind → String
  | .scalar => "SCALAR"
  | .object => "OBJECT"
  | .interface => "INTERFACE"
  | .union => "UNION"
  | .enum => "ENUM"
  | .inputObject => "INPUT_OBJECT"

/-- An argument of a field, or a field of an input object. -/
structure InputField where
  name : String
  type : TypeRef
  hasDefault : Bool
  description : Option String
  deriving DecidableEq, Repr, Inhabited

/-- A field of an object or an interface. -/
structure Field where
  name : String
  type : TypeRef
  arguments : List InputField
  description : Option String
  deriving DecidableEq, Repr, Inhabited

/-- A named type. -/
structure SchemaType where
  name : String
  kind : TypeKind
  description : Option String
  fields : List Field
  inputFields : List InputField
  /-- The interfaces that an object or interface implements. -/
  interfaces : List String
  /-- The members of a union. -/
  members : List String
  /-- The values of an enum in the order declared. -/
  enumValues : List String
  deriving DecidableEq, Repr, Inhabited

namespace SchemaType

/-- A type without members. -/
def bare (name : String) (kind : TypeKind) (description : Option String) : SchemaType :=
  ⟨name, kind, description, [], [], [], [], []⟩

/-- The field of a name; the first one counts. -/
def field? (t : SchemaType) (name : String) : Option Field :=
  t.fields.find? fun f => f.name = name

/-- Tells whether values of the type have no fields: scalars and enums. -/
def isLeaf (t : SchemaType) : Bool :=
  t.kind = .scalar || t.kind = .enum

/-- Tells whether values of the type are of one of several object types. -/
def isAbstract (t : SchemaType) : Bool :=
  t.kind = .interface || t.kind = .union

/-- Tells whether a variable may have the type. -/
def isInput (t : SchemaType) : Bool :=
  t.kind = .scalar || t.kind = .enum || t.kind = .inputObject

/-- Tells whether fragments may be on the type: objects, interfaces and unions. -/
def isComposite (t : SchemaType) : Bool :=
  !t.isLeaf && t.kind ≠ .inputObject

end SchemaType

/-- A schema: its types by name, and the names of its root types. -/
structure Schema where
  types : Table SchemaType
  queryRoot : Option String
  mutationRoot : Option String
  subscriptionRoot : Option String
  deriving Inhabited

namespace Schema

/-- The type of a name. -/
def get? (s : Schema) (name : String) : Option SchemaType :=
  s.types.get? name

/-- The kind of the type of a name. -/
def kind? (s : Schema) (name : String) : Option TypeKind :=
  (s.get? name).map (·.kind)

/-- The name of the root type of a kind of operation, whether there is such a type or not. -/
def rootName? (s : Schema) : OperationKind → Option String
  | .query => s.queryRoot
  | .mutation => s.mutationRoot
  | .subscription => s.subscriptionRoot

/-- The root type of a kind of operation. -/
def root? (s : Schema) (kind : OperationKind) : Option SchemaType :=
  (s.rootName? kind).bind s.get?

/-- A field of a type. -/
def field? (s : Schema) (typeName fieldName : String) : Option Field :=
  (s.get? typeName).bind (·.field? fieldName)

/-- The object types that a value of a type can have, in ascending order. The members of a union are
taken as they are named. -/
def possibleTypes (s : Schema) (name : String) : List String :=
  match s.get? name with
  | none => []
  | some t =>
    match t.kind with
    | .object => [t.name]
    | .union => sortedNames t.members
    | .interface =>
      (s.types.values.filter fun c => c.kind = .object && c.interfaces.contains name).map (·.name)
    | _ => []

/-- Tells whether a selection on the condition applies to values of an object type. -/
def applies (s : Schema) (condition concrete : String) : Bool :=
  condition = concrete || (s.possibleTypes condition).contains concrete

/-- Tells whether some object type is possible for both of two types. -/
def overlap (s : Schema) (a b : String) : Bool :=
  a = b || (s.possibleTypes a).any fun t => (s.possibleTypes b).contains t

end Schema

end OperationGate
