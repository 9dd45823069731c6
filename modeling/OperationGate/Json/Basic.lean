import OperationGate.Number.Binary64
import OperationGate.Table

/-!
# Data values

The values that variables, bodies and responses carry. A record built by `Json.object` lists its
members in ascending order of their names, each name once.
-/

namespace OperationGate

/-- A number of a data value: whole numbers of 64 bits, signed or not, are exact, all others
doubles. -/
inductive JsonNumber where
  | integer (n : Int)
  | double (d : Binary64)
  deriving DecidableEq, Repr, Inhabited

/-- A data value. -/
inductive Json where
  | null
  | bool (b : Bool)
  | number (n : JsonNumber)
  | text (s : String)
  | list (items : List Json)
  | record (members : List (String × Json))
  deriving Repr, Inhabited

namespace Json

/-- The record of a list of members; of two members with one name the later stays. -/
def object (members : List (String × Json)) : Json :=
  .record (Table.ofList members).entries

/-- The record without members. -/
def emptyObject : Json :=
  .record []

/-- The member of a record under a name. -/
def member? (name : String) : Json → Option Json
  | .record members => Table.find? name members
  | _ => none

/-- A record with a member put under a name; any other value stays as it is. -/
def withMember (v : Json) (name : String) (value : Json) : Json :=
  match v with
  | .record members => .record (Table.insertEntry name value members)
  | other => other

/-- The whole number that a value is, if it is one. -/
def integer? : Json → Option Int
  | .number (.integer n) => some n
  | _ => none

/-- The text that a value is, if it is one. -/
def text? : Json → Option String
  | .text s => some s
  | _ => none

/-- The items of a value, if it is a list. -/
def items? : Json → Option (List Json)
  | .list items => some items
  | _ => none

end Json

end OperationGate
