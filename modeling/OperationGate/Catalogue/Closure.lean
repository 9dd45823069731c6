import OperationGate.Catalogue.Basic
import OperationGate.Reach
import OperationGate.Schema.Basic

/-!
# What operations and fragments depend on

An operation depends on the fragments that it spreads, at any depth and through other fragments; on
the enums of the fields that it and those fragments select; and on the input objects and enums that
the types of its variables lead to.
-/

namespace OperationGate.Dependencies

/-- What selections name: the enum of a field, or a fragment that is spread. -/
inductive Named where
  | enum (name : String)
  | fragment (name : String)
  deriving DecidableEq, Repr, Inhabited

mutual

/-- What a selection on a parent type names. Fields that the schema does not know are passed over,
with all that is inside them. -/
def named (s : Schema) (parent : String) : Selection → List Named
  | .field _ name selections =>
    match s.field? parent name with
    | none => []
    | some f =>
      match s.kind? f.type.base with
      | none => []
      | some .enum => [.enum f.type.base]
      | some _ => allNamed s f.type.base selections
  | .spread fragment => [.fragment fragment]
  | .inline condition selections => allNamed s (condition.getD parent) selections

/-- What several selections name. -/
def allNamed (s : Schema) (parent : String) : List Selection → List Named
  | [] => []
  | x :: rest => named s parent x ++ allNamed s parent rest

end

/-- What the selections of a fragment name. -/
def namedBy (s : Schema) (fragments : Table WrittenFragment) (name : String) : List Named :=
  match fragments.get? name with
  | some f => allNamed s f.condition f.selections
  | none => []

/-- The enums among what is named. -/
def enumsAmong (ns : List Named) : List String :=
  ns.filterMap fun n => match n with
    | .enum name => some name
    | .fragment _ => none

/-- The fragments among what is named. -/
def fragmentsAmong (ns : List Named) : List String :=
  ns.filterMap fun n => match n with
    | .enum _ => none
    | .fragment name => some name

/-- The types that the fields of an input object name. -/
def inputTypes (s : Schema) (name : String) : List String :=
  match s.get? name with
  | some t => if t.kind = .inputObject then t.inputFields.map (·.type.base) else []
  | none => []

/-- The fragments that selections on a parent type lead to. -/
def fragmentsOf (s : Schema) (fragments : Table WrittenFragment) (parent : String)
    (selections : List Selection) : List String :=
  Reach.gather (fun n => fragmentsAmong (namedBy s fragments n)) fragments.keys
    (fragmentsAmong (allNamed s parent selections))

/-- The types that the types of variables lead to, themselves included. -/
def variableTypes (s : Schema) (types : List String) : List String :=
  Reach.gather (inputTypes s) s.types.keys types

/-- What selections on a parent type and variables of some types depend on. -/
def of (s : Schema) (fragments : Table WrittenFragment) (parent : String)
    (selections : List Selection) (types : List String) : Dependencies :=
  let spread := fragmentsOf s fragments parent selections
  let given := variableTypes s types
  { fragments := sortedNames spread
    enums := sortedNames <|
      enumsAmong (allNamed s parent selections) ++
      spread.flatMap (fun n => enumsAmong (namedBy s fragments n))
        ++ given.filter fun n => s.kind? n = some .enum
    inputs := sortedNames (given.filter fun n => s.kind? n = some .inputObject) }

end OperationGate.Dependencies
