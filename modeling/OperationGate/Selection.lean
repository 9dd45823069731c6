import OperationGate.Operation.Kind
import OperationGate.Table

/-!
# Selections

What an operation asks for: fields, possibly under another key and with selections of their own,
spreads of named fragments, and inline fragments with or without a type condition.
-/

namespace OperationGate

/-- A selection. -/
inductive Selection where
  | field (aliasName : Option String) (name : String) (selections : List Selection)
  | spread (fragment : String)
  | inline (condition : Option String) (selections : List Selection)
  deriving Repr, Inhabited

namespace Selection

mutual

/-- The fragments that a selection spreads, at any depth, in the order written. -/
def spreads : Selection → List String
  | .field _ _ selections => allSpreads selections
  | .spread fragment => [fragment]
  | .inline _ selections => allSpreads selections

/-- The fragments that several selections spread. -/
def allSpreads : List Selection → List String
  | [] => []
  | s :: rest => s.spreads ++ allSpreads rest

end

end Selection

end OperationGate
