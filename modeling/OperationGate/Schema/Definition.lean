import OperationGate.Schema.Basic

/-!
# Schema definitions

A schema as written: root types, types, and extensions, in any order. `Schema.ofDefinitions` puts
them together: of two types with one name the later counts, extensions add to the types wherever
they stand, and the standard scalars are always there.
-/

namespace OperationGate

/-- What a definition of a type or an extension of one lists, by the kind it names. -/
inductive TypeBody where
  | scalar
  | object (interfaces : List String) (fields : List Field)
  | interface (interfaces : List String) (fields : List Field)
  | union (members : List String)
  | enum (values : List String)
  | input (fields : List InputField)
  deriving DecidableEq, Repr, Inhabited

/-- A definition of a schema text. -/
inductive SchemaDefinition where
  /-- The root types. -/
  | roots (query mutation subscription : Option String)
  | type (name : String) (description : Option String) (body : TypeBody)
  | extension (name : String) (body : TypeBody)
  /-- A directive, which says nothing about types. -/
  | directive (name : String)
  deriving DecidableEq, Repr, Inhabited

namespace Schema

/-- The type that a definition describes. -/
def typeOf (name : String) (description : Option String) : TypeBody → SchemaType
  | .scalar => .bare name .scalar description
  | .object interfaces fields =>
    { SchemaType.bare name .object description with fields := fields, interfaces := interfaces }
  | .interface interfaces fields =>
    { SchemaType.bare name .interface description with fields := fields, interfaces := interfaces }
  | .union members => { SchemaType.bare name .union description with members := members }
  | .enum values => { SchemaType.bare name .enum description with enumValues := values }
  | .input fields => { SchemaType.bare name .inputObject description with inputFields := fields }

/-- A type with what an extension adds, whatever kind the type has. An extended interface takes
fields only. -/
def extended (t : SchemaType) : TypeBody → SchemaType
  | .scalar => t
  | .object interfaces fields =>
    { t with fields := t.fields ++ fields, interfaces := t.interfaces ++ interfaces }
  | .interface _ fields => { t with fields := t.fields ++ fields }
  | .union members => { t with members := t.members ++ members }
  | .enum values => { t with enumValues := t.enumValues ++ values }
  | .input fields => { t with inputFields := t.inputFields ++ fields }

/-- The scalars that every schema has. -/
def standardScalars : List String :=
  ["ID", "String", "Int", "Float", "Boolean"]

/-- The types that definitions describe, before extensions. -/
def declaredTypes (ds : List SchemaDefinition) : Table SchemaType :=
  ds.foldl (fun t d => match d with
    | .type name description body => t.insert name (typeOf name description body)
    | _ => t) .empty

/-- The types with what the extensions among the definitions add to them. -/
def extendedTypes (ds : List SchemaDefinition) (types : Table SchemaType) : Table SchemaType :=
  ds.foldl (fun t d => match d with
    | .extension name body => t.modify name fun ty => extended ty body
    | _ => t) types

/-- The types with the standard scalars that they lack. -/
def withScalars (types : Table SchemaType) : Table SchemaType :=
  standardScalars.foldl (fun t n => t.insertNew n (.bare n .scalar none)) types

/-- The root types that the last definition of them names, if there is one. -/
def declaredRoots? (ds : List SchemaDefinition) :
    Option (Option String × Option String × Option String) :=
  ds.foldl (fun r d => match d with
    | .roots q m s => some (q, m, s)
    | _ => r) none

/-- The schema of a list of definitions. Without a definition of root types they are the types named
after the kinds. -/
def ofDefinitions (ds : List SchemaDefinition) : Schema :=
  let types := withScalars (extendedTypes ds (declaredTypes ds))
  let conventional (n : String) : Option String := if types.contains n then some n else none
  match declaredRoots? ds with
  | some (q, m, s) => ⟨types, q, m, s⟩
  | none =>
    ⟨types, conventional OperationKind.query.typeSuffix,
      conventional OperationKind.mutation.typeSuffix,
      conventional OperationKind.subscription.typeSuffix⟩

end Schema

end OperationGate
