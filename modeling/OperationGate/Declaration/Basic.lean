import OperationGate.Catalogue.Build
import OperationGate.Declaration.Shape

/-!
# Declarations

The declarations that describe a catalogue: its enums and input objects, its fragments, and the
result and variables of each operation.
-/

namespace OperationGate

/-- What a declaration describes. -/
inductive DeclarationKind where
  | enum
  | input
  | fragment
  | operation
  | parameters
  deriving DecidableEq, Repr, Inhabited

/-- A member of a declared type; an optional one may be left out. -/
structure Member where
  name : String
  optional : Bool
  type : TypeExpr
  deriving Repr, Inhabited

/-- What a name is declared to be: a type, or a record of members. -/
inductive DeclarationBody where
  | type (t : TypeExpr)
  | members (ms : List Member)
  deriving Repr, Inhabited

/-- A declared type. -/
structure Declaration where
  kind : DeclarationKind
  name : String
  body : DeclarationBody
  deriving Repr, Inhabited

/-- The line of a member. -/
def Member.line (m : Member) : String :=
  "  " ++ m.name ++ (if m.optional then "?" else "") ++ ": " ++ m.type.write 0 ++ ";\n"

namespace Declaration

/-- The text of a declaration. -/
def source (d : Declaration) : String :=
  match d.body with
  | .type t => "export type " ++ d.name ++ " = " ++ t.write 0 ++ ";"
  | .members ms =>
    "export type " ++ d.name ++ " = \x7b\n" ++ String.join (ms.map (·.line)) ++ "\x7d;"

/-- The declaration of an enum: any of its values. -/
def ofEnum (t : SchemaType) : Declaration :=
  ⟨.enum, t.name, .type (.oneOf (t.enumValues.map .literal))⟩

/-- The declaration of an input object. A field may be left out if it may be null or has a
default. -/
def ofInput (s : Schema) (scalars : Shape.Scalars) (t : SchemaType) : Declaration :=
  ⟨.input, t.name, .members <| t.inputFields.map fun f =>
    ⟨f.name, !f.type.isNonNull || f.hasDefault, Shape.input s scalars f.type⟩⟩

/-- The declaration of what a fragment yields. -/
def ofFragment (s : Schema) (scalars : Shape.Scalars) (c : Catalogue) (f : Fragment) :
    Declaration :=
  ⟨.fragment, f.typeName,
    .type (Shape.selection s scalars f.condition (Branch.ofSelections c.fragments f.selections))⟩

/-- The declaration of what an operation yields. -/
def ofOperation (s : Schema) (scalars : Shape.Scalars) (c : Catalogue) (op : Operation) :
    Declaration :=
  ⟨.operation, op.typeName,
    .type (Shape.object s scalars op.rootType (Branch.ofSelections c.fragments op.selections))⟩

/-- The declaration of the variables of an operation. -/
def ofVariables (s : Schema) (scalars : Shape.Scalars) (op : Operation) : Declaration :=
  ⟨.parameters, op.variablesTypeName,
    if op.hasVariables then
      .members <| op.parameters.map fun v => ⟨v.name, !v.isRequired, Shape.input s scalars v.type⟩
    else .type (.basic "Record<string, never>")⟩

end Declaration

/-- An enum whose values are also emitted as an object. -/
structure EnumValues where
  name : String
  values : List String
  deriving DecidableEq, Repr, Inhabited

namespace EnumValues

/-- The declaration of an enum's object. -/
def declaration (e : EnumValues) : String :=
  "export declare const " ++ e.name ++ ": \x7b\n"
    ++ String.join (e.values.map fun v =>
      "  readonly " ++ v ++ ": " ++ Text.Literal.quote v ++ ";\n")
    ++ "\x7d;"

/-- The definition of an enum's object. -/
def definition (e : EnumValues) : String :=
  "export const " ++ e.name ++ " = Object.freeze(\x7b\n"
    ++ String.join (e.values.map fun v => "  " ++ v ++ ": " ++ Text.Literal.quote v ++ ",\n")
    ++ "\x7d);"

end EnumValues

/-- Everything that is emitted about a set of operations. -/
structure TypeLibrary where
  operations : List Operation
  /-- Enums, input objects, fragments, then each operation with its variables. -/
  declarations : List Declaration
  enums : List EnumValues
  deriving Inhabited

namespace TypeLibrary

/-- The library of no operations. -/
def empty : TypeLibrary := ⟨[], [], []⟩

/-- The library of a catalogue. -/
def ofCatalogue (s : Schema) (scalars : Shape.Scalars) (c : Catalogue) : TypeLibrary :=
  let enums := c.enums.filterMap s.get?
  let inputs := c.inputs.filterMap s.get?
  { operations := c.operations
    declarations :=
      enums.map .ofEnum ++ inputs.map (.ofInput s scalars)
        ++ c.fragments.values.map (.ofFragment s scalars c)
        ++ c.operations.flatMap fun op => [.ofOperation s scalars c op, .ofVariables s scalars op]
    enums := enums.map fun t => ⟨t.name, t.enumValues⟩ }

/-- The library of a list of documents, with paths reported relative to the root of the project. -/
def ofDocuments (s : Schema) (scalars : Shape.Scalars) (root : Option Path)
    (docs : List SourceDocument) : Except Failure TypeLibrary :=
  return ofCatalogue s scalars (← Catalogue.ofDocuments s root docs)

/-- The operations of one kind, by name. -/
def operationsOf (lib : TypeLibrary) (kind : OperationKind) : List Operation :=
  lib.operations.filter fun op => op.kind = kind

/-- Texts with a blank line between any two and the end of a line after the last. -/
def blocks (parts : List String) : String :=
  if parts.isEmpty then "" else Text.joinWith "\n\n" parts ++ "\n"

/-- The declarations of some kinds. -/
def writeDeclarations (lib : TypeLibrary) (kinds : List DeclarationKind) : String :=
  blocks ((lib.declarations.filter fun d => kinds.contains d.kind).map (·.source))

/-- The declarations of the objects of enums. -/
def writeEnumDeclarations (lib : TypeLibrary) : String :=
  blocks (lib.enums.map (·.declaration))

/-- The objects of enums. -/
def writeEnumDefinitions (lib : TypeLibrary) : String :=
  blocks (lib.enums.map (·.definition))

end TypeLibrary

end OperationGate
