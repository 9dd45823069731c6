import OperationGate.Schema.TypeRef
import OperationGate.Text.Cut
import OperationGate.Text.Literal

/-!
# Type expressions

The types of the emitted declarations: names, literals, arrays, records and alternatives. `ofRef`
places `null` and arrays as a type reference has them, whatever stands for its named type.
-/

namespace OperationGate

/-- A type of the emitted declarations. -/
inductive TypeExpr where
  /-- A type declared under a name. -/
  | named (name : String)
  /-- A type that needs no declaration, as written. -/
  | basic (text : String)
  /-- The type of one text. -/
  | literal (s : String)
  /-- A type, or null. -/
  | nullable (t : TypeExpr)
  | array (item : TypeExpr)
  /-- A record of named members. -/
  | record (members : List (String × TypeExpr))
  /-- Any of several types. -/
  | oneOf (options : List TypeExpr)
  deriving Repr, Inhabited

namespace TypeExpr

/-- The two blanks of one step of indentation, `depth` times. -/
def indent (depth : Nat) : String :=
  Text.repeated depth "  "

mutual

/-- The text of a type at a depth of indentation. -/
def write (depth : Nat) : TypeExpr → String
  | .named name => name
  | .basic text => text
  | .literal s => Text.Literal.quote s
  | .nullable t => write depth t ++ " | null"
  | .array item => "Array<" ++ write depth item ++ ">"
  | .record [] => "\x7b\x7d"
  | .record (m :: rest) => "\x7b\n" ++ writeMembers depth (m :: rest) ++ indent depth ++ "\x7d"
  | .oneOf options => Text.joinWith " | " (writeAll depth options)

/-- The lines of the members of a record. -/
def writeMembers (depth : Nat) : List (String × TypeExpr) → String
  | [] => ""
  | (name, t) :: rest =>
    indent (depth + 1) ++ name ++ ": " ++ write (depth + 1) t ++ ";\n" ++ writeMembers depth rest

/-- The texts of several types. -/
def writeAll (depth : Nat) : List TypeExpr → List String
  | [] => []
  | t :: rest => write depth t :: writeAll depth rest

end

mutual

/-- The type of a reference whose named type is `leaf`: null is one of its values unless the
reference is marked. -/
def ofRef (leaf : TypeExpr) : TypeRef → TypeExpr
  | .nonNull t => ofMarked leaf t
  | .named _ => .nullable leaf
  | .list t => .nullable (.array (ofRef leaf t))

/-- The type of a reference without null. -/
def ofMarked (leaf : TypeExpr) : TypeRef → TypeExpr
  | .nonNull t => ofMarked leaf t
  | .named _ => leaf
  | .list t => .array (ofRef leaf t)

end

end TypeExpr

end OperationGate
