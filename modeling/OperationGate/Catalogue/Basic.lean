import OperationGate.Operation.Kind
import OperationGate.Schema.TypeRef
import OperationGate.Selection
import OperationGate.Table

/-!
# Catalogues

What a set of documents offers, once it is known to fit the schema: its operations, each with the
executable document that is sent for it, and its fragments. Operations and fragments are first found
as they are written (`WrittenOperation`, `WrittenFragment`); a catalogue adds what they depend on.
-/

namespace OperationGate

/-- A variable of an operation. -/
structure OperationVariable where
  name : String
  type : TypeRef
  hasDefault : Bool
  deriving DecidableEq, Repr, Inhabited

/-- Tells whether a caller must give the variable. -/
def OperationVariable.isRequired (v : OperationVariable) : Bool :=
  v.type.isNonNull && !v.hasDefault

/-- A named operation as its document has it. -/
structure WrittenOperation where
  kind : OperationKind
  name : String
  parameters : List OperationVariable
  selections : List Selection
  /-- The path that is reported for its document. -/
  file : String
  /-- The operation in its printed form. -/
  source : String
  deriving Repr, Inhabited

/-- The name of the type of an operation's result. -/
def WrittenOperation.typeName (op : WrittenOperation) : String :=
  resultTypeName op.name op.kind

/-- A fragment as its document has it. -/
structure WrittenFragment where
  name : String
  condition : String
  /-- The path that is reported for its document. -/
  file : String
  selections : List Selection
  /-- The fragment in its printed form. -/
  source : String
  deriving Repr, Inhabited

/-- The name of the type of a fragment's values. -/
def WrittenFragment.typeName (f : WrittenFragment) : String :=
  fragmentTypeName f.name

/-- What a text names, directly or through what it names: fragments, enums and input objects, each
list in ascending order. -/
structure Dependencies where
  fragments : List String
  enums : List String
  inputs : List String
  deriving DecidableEq, Repr, Inhabited

/-- A fragment with what it depends on. -/
structure Fragment extends WrittenFragment where
  dependencies : Dependencies
  deriving Repr, Inhabited

/-- An operation with what it depends on. -/
structure Operation extends WrittenOperation where
  dependencies : Dependencies
  /-- The object type that its selections are made on. -/
  rootType : String
  /-- The operation followed by the fragments it needs: a document that stands alone. -/
  document : String
  deriving Repr, Inhabited

namespace Operation

/-- The name of the type of an operation's variables. -/
def variablesTypeName (op : Operation) : String :=
  OperationGate.variablesTypeName op.name op.kind

/-- Tells whether an operation takes variables. -/
def hasVariables (op : Operation) : Bool :=
  !op.parameters.isEmpty

/-- Tells whether an operation cannot be called without variables. -/
def needsVariables (op : Operation) : Bool :=
  op.parameters.any (·.isRequired)

/-- The order of operations: by kind, then by name. -/
def before (a b : Operation) : Bool :=
  a.kind.rank < b.kind.rank || (a.kind = b.kind && a.name ≤ b.name)

end Operation

/-- The operations and fragments of a set of documents. -/
structure Catalogue where
  /-- The operations, by kind and then by name. -/
  operations : List Operation
  fragments : Table Fragment
  deriving Inhabited

namespace Catalogue

/-- The catalogue of no documents. -/
def empty : Catalogue := ⟨[], .empty⟩

/-- The enums that operations and fragments depend on. -/
def enums (c : Catalogue) : List String :=
  sortedNames <|
    c.operations.flatMap (·.dependencies.enums) ++ c.fragments.values.flatMap (·.dependencies.enums)

/-- The input objects that operations depend on. -/
def inputs (c : Catalogue) : List String :=
  sortedNames (c.operations.flatMap (·.dependencies.inputs))

end Catalogue

end OperationGate
