import OperationGate.Declaration.Branch
import OperationGate.Declaration.TypeExpr
import OperationGate.Schema.Basic

/-!
# Shapes

The types of the values that variables take and that selections yield. A selection on an abstract
type whose fields depend on the object type has one member for each possible type; any other
selection is one record.
-/

namespace OperationGate.Shape

/-- The types that stand for scalars whose name has none of its own. -/
abbrev Scalars := Table String

/-- The type of a scalar: the one configured for its name, or else that of a built-in scalar, or
else any. -/
def scalar (scalars : Scalars) (name : String) : TypeExpr :=
  match scalars.get? name with
  | some text => .basic text
  | none =>
    if name = "ID" || name = "String" then .basic "string"
    else if name = "Int" || name = "Float" then .basic "number"
    else if name = "Boolean" then .basic "boolean"
    else .basic "any"

/-- The type of values of a named type that a caller gives: scalars and unknown types by what stands
for them, others by their name. -/
def inputLeaf (s : Schema) (scalars : Scalars) (name : String) : TypeExpr :=
  match s.kind? name with
  | none | some .scalar => scalar scalars name
  | some _ => .named name

/-- The type of values that a caller gives. -/
def input (s : Schema) (scalars : Scalars) (t : TypeRef) : TypeExpr :=
  .ofRef (inputLeaf s scalars t.base) t

/-- The type of the name of a value's type: one of the possible ones. -/
def typename (s : Schema) (type : String) : TypeExpr :=
  match s.possibleTypes type with
  | [] => .basic "string"
  | names => .oneOf (names.map .literal)

/-- Tells whether what branches yield depends on the object type of a value of the parent type:
whether some part is under a condition other than the parent. -/
def narrows (parent : String) : Branch → Bool
  | .field .. => false
  | .within condition inside =>
    condition.any (· ≠ parent) || inside.attach.any fun ⟨b, _⟩ => narrows parent b

mutual

/-- The record that branches yield for values of one type. -/
def object (s : Schema) (scalars : Scalars) (concrete : String) (bs : List Branch) : TypeExpr :=
  .record <| (Branch.entries (fun c => s.applies c concrete) bs).attach.map fun ⟨e, _⟩ =>
    (e.key,
      if e.name = "__typename" then typename s concrete
      else match s.field? concrete e.name with
        | none => .basic "unknown"
        | some f => .ofRef (leaf s scalars f.type.base e.inside) f.type)
termination_by (Branch.totalWeight bs, 0)
decreasing_by exact Prod.Lex.left _ _ (Branch.totalWeight_inside_lt ‹_›)

/-- What branches yield for values of a type with fields. -/
def selection (s : Schema) (scalars : Scalars) (parent : String) (bs : List Branch) : TypeExpr :=
  if (s.get? parent).any (·.isAbstract) && bs.any (narrows parent) then
    .oneOf ((s.possibleTypes parent).map fun c => object s scalars c bs)
  else object s scalars parent bs
termination_by (Branch.totalWeight bs, 1)
decreasing_by all_goals exact Prod.Lex.right _ Nat.zero_lt_one

/-- What a field of a named type yields, with branches inside it. -/
def leaf (s : Schema) (scalars : Scalars) (name : String) (bs : List Branch) : TypeExpr :=
  match s.kind? name with
  | some .enum => .named name
  | some .object | some .interface | some .union => selection s scalars name bs
  | none | some .scalar | some .inputObject => scalar scalars name
termination_by (Branch.totalWeight bs, 2)
decreasing_by all_goals exact Prod.Lex.right _ (by omega)

end

end OperationGate.Shape
