import OperationGate.Document.Parser
import OperationGate.Failure
import OperationGate.Schema.Definition

/-!
# Reading schemas

The grammar of schema texts. A body of a type may be missing but not empty, descriptions stand in
front of what they describe, and an extension has to add something.
-/

namespace OperationGate.Schema.Parser

open OperationGate.Document.Parser

/-- A description, if one comes next. -/
def description : Grammar (Option String) :=
  fun
  | .text s :: rest => some ⟨(some s, rest), List.suffix_cons _ _⟩
  | ts => some ⟨(none, ts), List.suffix_rfl⟩

/-- An argument or a field of an input object. -/
def inputField : Grammar InputField := do
  let description ← description
  let n ← Grammar.name
  Grammar.punct ':'
  let t ← type
  let default ← defaultValue
  let _ ← directives
  return ⟨n, t, default.isSome, description⟩

/-- The arguments that a field or a directive takes. -/
def argumentDefinitions : Grammar (List InputField) :=
  Grammar.optionalBlock '(' ')' inputField

/-- A field of an object or an interface. -/
def field : Grammar Field := do
  let description ← description
  let n ← Grammar.name
  let arguments ← argumentDefinitions
  Grammar.punct ':'
  let t ← type
  let _ ← directives
  return ⟨n, t, arguments, description⟩

/-- Fields in braces, if a brace comes next. -/
def fields : Grammar (List Field) :=
  Grammar.optionalBlock '\x7b' '\x7d' field

/-- The interfaces that a type implements, if the word for it comes next. -/
def interfaces : Grammar (List String) := do
  match ← Grammar.ifNext (.name "implements") Grammar.name with
  | none => return []
  | some _ =>
    let _ ← Grammar.skip (.punct '&')
    Grammar.separated '&' Grammar.name

/-- The members of a union after an equals sign, if one comes next. -/
def members : Grammar (List String) := do
  if ← Grammar.skip (.punct '=') then
    let _ ← Grammar.skip (.punct '|')
    Grammar.separated '|' Grammar.name
  else return []

/-- A value of an enum. -/
def enumValue : Grammar String := do
  let _ ← description
  let n ← Grammar.name
  let _ ← directives
  return n

/-- A definition or extension of a type after its keyword: the name, whether directives stand on it,
and what it lists. -/
def typeBody : String → Grammar (String × Bool × TypeBody)
  | "scalar" => do
    let n ← Grammar.name
    let ds ← directives
    return (n, !ds.isEmpty, .scalar)
  | "type" => do
    let n ← Grammar.name
    let is ← interfaces
    let ds ← directives
    return (n, !ds.isEmpty, .object is (← fields))
  | "interface" => do
    let n ← Grammar.name
    let is ← interfaces
    let ds ← directives
    return (n, !ds.isEmpty, .interface is (← fields))
  | "union" => do
    let n ← Grammar.name
    let ds ← directives
    return (n, !ds.isEmpty, .union (← members))
  | "enum" => do
    let n ← Grammar.name
    let ds ← directives
    return (n, !ds.isEmpty, .enum (← Grammar.optionalBlock '\x7b' '\x7d' enumValue))
  | "input" => do
    let n ← Grammar.name
    let ds ← directives
    return (n, !ds.isEmpty, .input (← Grammar.optionalBlock '\x7b' '\x7d' inputField))
  | _ => Grammar.fail

/-- Tells whether an extension adds what the grammar asks for: a directive or a member. Interfaces
alone do not extend an interface. -/
def addsSomething : TypeBody → Bool
  | .scalar => false
  | .object interfaces fields => !interfaces.isEmpty || !fields.isEmpty
  | .interface _ fields => !fields.isEmpty
  | .union members => !members.isEmpty
  | .enum values => !values.isEmpty
  | .input fields => !fields.isEmpty

/-- An extension after its keyword. -/
def extension : Grammar SchemaDefinition := do
  let (n, directed, body) ← typeBody (← Grammar.name)
  if directed || addsSomething body then return .extension n body else Grammar.fail

/-- A root type: the word of a kind, a colon and the type. -/
def rootType : Grammar (OperationKind × String) := do
  let word ← Grammar.name
  Grammar.punct ':'
  let t ← Grammar.name
  match OperationKind.ofWord? word with
  | some kind => return (kind, t)
  | none => Grammar.fail

/-- The root types after their keyword; each kind may be given once. -/
def roots : Grammar SchemaDefinition := do
  let _ ← directives
  let entries ← Grammar.enclosed '\x7b' '\x7d' rootType
  let of (kind : OperationKind) : List String :=
    (entries.filter fun e => e.1 = kind).map (·.2)
  if OperationKind.all.any fun kind => 1 < (of kind).length then Grammar.fail
  else return .roots (of .query).head? (of .mutation).head? (of .subscription).head?

/-- The places where a directive may stand. -/
def directiveLocations : List String :=
  ["QUERY", "MUTATION", "SUBSCRIPTION", "FIELD", "FRAGMENT_DEFINITION", "FRAGMENT_SPREAD",
    "INLINE_FRAGMENT", "VARIABLE_DEFINITION", "SCHEMA", "SCALAR", "OBJECT", "FIELD_DEFINITION",
    "ARGUMENT_DEFINITION", "INTERFACE", "UNION", "ENUM", "ENUM_VALUE", "INPUT_OBJECT",
    "INPUT_FIELD_DEFINITION"]

/-- A place where a directive may stand. -/
def directiveLocation : Grammar Unit := do
  if directiveLocations.contains (← Grammar.name) then return () else Grammar.fail

/-- The definition of a directive after its keyword. The list of places may be missing. -/
def directive : Grammar SchemaDefinition := do
  Grammar.punct '@'
  let n ← Grammar.name
  let _ ← argumentDefinitions
  let _ ← Grammar.skip (.name "repeatable")
  Grammar.keyword "on"
  let bar ← Grammar.skip (.punct '|')
  match ← Grammar.peek with
  | some (.name _) =>
    let _ ← Grammar.separated '|' directiveLocation
    return .directive n
  | _ => if bar then Grammar.fail else return .directive n

/-- A definition. Only types and directives may have a description. -/
def definition : Grammar SchemaDefinition := do
  let description ← description
  let word ← Grammar.name
  if word = "directive" then directive
  else if word = "schema" then if description.isSome then Grammar.fail else roots
  else if word = "extend" then if description.isSome then Grammar.fail else extension
  else
    let (n, _, body) ← typeBody word
    return .type n description body

/-- Reads the definitions of a schema text, at least one. -/
def read? (s : String) : Option (List SchemaDefinition) := do
  Grammar.toEnd definition (← Token.ofText? s)

end OperationGate.Schema.Parser

namespace OperationGate.Schema

/-- How failures name the schema text. -/
def reportedName : String := "<schema>"

/-- Reads a schema text. -/
def parse (s : String) : Except Failure Schema :=
  match Parser.read? s with
  | some ds => .ok (ofDefinitions ds)
  | none => .error (.parse reportedName)

end OperationGate.Schema
