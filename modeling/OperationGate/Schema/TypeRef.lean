/-!
# Type references

Types as fields, arguments and variables name them: a named type, or a list of such, either of them
possibly marked as never null.
-/

namespace OperationGate

/-- A reference to a type. -/
inductive TypeRef where
  | named (name : String)
  | list (item : TypeRef)
  | nonNull (type : TypeRef)
  deriving DecidableEq, Repr, Inhabited

namespace TypeRef

/-- The type named inside every list and mark. -/
def base : TypeRef → String
  | named n => n
  | list t => t.base
  | nonNull t => t.base

/-- Tells whether a value of the type is never null. -/
def isNonNull : TypeRef → Bool
  | nonNull _ => true
  | _ => false

/-- The text of a reference, such as `[A!]!`. -/
def text : TypeRef → String
  | named n => n
  | list t => "[" ++ t.text ++ "]"
  | nonNull t => t.text ++ "!"

end TypeRef

end OperationGate
