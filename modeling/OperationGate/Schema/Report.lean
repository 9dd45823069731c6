import OperationGate.Json.Writer
import OperationGate.Schema.Basic

/-!
# Reports on types

What a schema says about a name, as data for tools. An unknown name is reported as such and is no
failure.
-/

namespace OperationGate.Schema

/-- The answer about a name: what was found, or why nothing was. -/
inductive Report where
  | found (info : Json)
  | missing (message : String)

/-- The value of a report. -/
def Report.toJson : Report → Json
  | .found info => info
  | .missing message => .record [("error", .text message)]

/-- Tells whether something was found. -/
def Report.isFound : Report → Bool
  | .found _ => true
  | .missing _ => false

/-- Members for a part that may be missing. -/
def optionalMember (name : String) : Option String → List (String × Json)
  | none => []
  | some s => [(name, .text s)]

/-- Members for a list that is left out when empty. -/
def listMember (name : String) (items : List Json) : List (String × Json) :=
  if items.isEmpty then [] else [(name, .list items)]

/-- The report on an input field. -/
def inputFieldInfo (f : InputField) : Json :=
  .record <|
    [("name", .text f.name), ("type", .text f.type.text), ("hasDefault", .bool f.hasDefault)]
      ++ optionalMember "description" f.description

/-- The report on a field. -/
def fieldInfo (f : Field) : Json :=
  .record <|
    [("name", .text f.name), ("type", .text f.type.text)]
      ++ listMember "arguments" (f.arguments.map inputFieldInfo)
      ++ optionalMember "description" f.description

/-- The wording for an unknown name. -/
def unknownMessage (name : String) : String :=
  "Type \"" ++ name ++ "\" not found in schema"

/-- The report on a type. Possible types are listed for interfaces and unions. -/
def typeReport (s : Schema) (name : String) : Report :=
  match s.get? name with
  | none => .missing (unknownMessage name)
  | some t =>
    let possible := if t.isAbstract then s.possibleTypes t.name else []
    .found <| .record <|
      [("name", .text t.name), ("kind", .text t.kind.word)]
        ++ optionalMember "description" t.description
        ++ listMember "fields" (t.fields.map fieldInfo)
        ++ listMember "inputFields" (t.inputFields.map inputFieldInfo)
        ++ listMember "interfaces" (t.interfaces.map .text)
        ++ listMember "possibleTypes" (possible.map .text)
        ++ listMember "enumValues" (t.enumValues.map .text)

/-- The report on a union. -/
def unionReport (s : Schema) (name : String) : Report :=
  match s.get? name with
  | none => .missing (unknownMessage name)
  | some t =>
    if t.kind = .union then
      .found <| .record
        [("name", .text t.name), ("possibleTypes", .list ((s.possibleTypes name).map .text))]
    else .missing ("Type \"" ++ name ++ "\" is not a union")

/-- The names of the types, or of those of one kind, in ascending order. -/
def typeNames (s : Schema) (kind : Option TypeKind) : List String :=
  (s.types.values.filter fun t => kind.all (t.kind = ·)).map (·.name)

end OperationGate.Schema
