import OperationGate.Json.Shape

/-!
# Responses

The answer to an operation: its data, its errors, and whatever else a server put beside them.
Reading a response drops what errors hold beyond their known fields, and writing one leaves out
empty parts.
-/

namespace OperationGate

/-- A place in an operation's text. -/
structure Location where
  line : Int
  column : Int
  deriving DecidableEq, Repr, Inhabited

/-- An error that an operation reports. -/
structure ResponseError where
  message : String
  locations : List Location
  path : List Json
  extensions : Option Json
  deriving Repr, Inhabited

/-- The answer to an operation, with data of some type. -/
structure Response (α : Type) where
  data : Option α
  errors : List ResponseError
  /-- The members beside data and errors. -/
  extra : Table Json

namespace Location

/-- Takes a whole number of 64 bits from a value. -/
def word? (v : Json) : Option Int :=
  v.integer?.bind fun n => if Json.NumberSource.isWord n then some n else none

/-- Takes a location from a value. -/
def ofJson? (v : Json) : Option Location := do
  match ← v.fields? [("line", .required), ("column", .required)] with
  | [some line, some column] => return ⟨← word? line, ← word? column⟩
  | _ => none

/-- The value of a location. -/
def toJson (l : Location) : Json :=
  .record [("line", .number (.integer l.line)), ("column", .number (.integer l.column))]

end Location

namespace ResponseError

/-- Takes the items of a list through `f`; a missing list has none. -/
def listOf? {α : Type} (f : Json → Option α) : Option Json → Option (List α)
  | none => some []
  | some v => v.items?.bind fun items => items.mapM f

/-- A value that may be left out, where null means that it was. -/
def optional : Option Json → Option Json
  | some .null => none
  | v => v

/-- Takes an error from a value. -/
def ofJson? (v : Json) : Option ResponseError := do
  match ← v.fields? [("message", .required), ("locations", .defaulted), ("path", .defaulted),
      ("extensions", .defaulted)] with
  | [some message, locations, path, extensions] =>
    return ⟨← message.text?, ← listOf? Location.ofJson? locations, ← listOf? some path,
      optional extensions⟩
  | _ => none

/-- The value of an error, without its empty parts. -/
def toJson (e : ResponseError) : Json :=
  .record <|
    [("message", .text e.message)]
      ++ (if e.locations.isEmpty then []
        else [("locations", .list (e.locations.map Location.toJson))])
      ++ (if e.path.isEmpty then [] else [("path", .list e.path)])
      ++ (match e.extensions with
        | none => []
        | some v => [("extensions", v)])

end ResponseError

namespace Response

variable {α : Type}

/-- Takes data from the member of a response; none or null is no data. -/
def dataOf? (decode : Json → Option α) : Option Json → Option (Option α)
  | none | some .null => some none
  | some v => (decode v).map some

/-- Takes a response from a value, and its data through `decode`. -/
def ofJson? (decode : Json → Option α) (v : Json) : Option (Response α) :=
  match v with
  | .record members => do
    let data ← dataOf? decode (Table.find? "data" members)
    let errors ← ResponseError.listOf? ResponseError.ofJson? (Table.find? "errors" members)
    let extra := members.filter fun m => m.1 != "data" && m.1 != "errors"
    return ⟨data, errors, Table.ofList extra⟩
  | _ => none

/-- The value of a response: data first, null if there is none, then errors if there are any, then
the other members. -/
def toJson (encode : α → Json) (r : Response α) : Json :=
  .record <|
    [("data", (r.data.map encode).getD .null)]
      ++ (if r.errors.isEmpty then [] else [("errors", .list (r.errors.map ResponseError.toJson))])
      ++ r.extra.entries

/-- Tells whether a response reports errors. -/
def hasErrors (r : Response α) : Bool :=
  !r.errors.isEmpty

/-- The shape of a response whose data may be any value. -/
def shape : Json.Shape :=
  let location : Json.Shape := .closed [("line", .any), ("column", .any)]
  let error : Json.Shape := .closed
    [("message", .any), ("locations", .list location), ("path", .list .any), ("extensions", .any)]
  .kept [("data", .any), ("errors", .list error)]

/-- Reads a response with data of any kind from a text. -/
def read? (s : String) : Option (Response Json) :=
  (Json.readAs? shape s).bind (ofJson? some)

end Response

end OperationGate
