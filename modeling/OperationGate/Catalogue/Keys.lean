import OperationGate.Catalogue.Basic
import OperationGate.Failure
import OperationGate.Schema.Basic

/-!
# Response keys

A field is answered under its alias, or else under its name. Within one selection set, fields taken
in through inline fragments and spreads included, a key may name two fields only when they belong to
two object types, since no value is of both.

`keysOf` lists the keys of a selection set; `conflict?` finds the first that does not go with an
earlier one.
-/

namespace OperationGate

/-- A field of a selection set, with the type it is selected on. -/
structure KeyUse where
  key : String
  field : String
  parent : String
  deriving DecidableEq, Repr, Inhabited

namespace KeyUse

/-- A field of a selection set, or a fragment spread there. -/
inductive Item where
  | use (u : KeyUse)
  | spread (fragment : String)
  deriving DecidableEq, Repr, Inhabited

mutual

/-- The fields and spreads of a selection on a parent type, through inline fragments. -/
def items (parent : String) : Selection → List Item
  | .field aliasName name _ => [.use ⟨aliasName.getD name, name, parent⟩]
  | .spread fragment => [.spread fragment]
  | .inline condition selections => allItems (condition.getD parent) selections

/-- The fields and spreads of several selections. -/
def allItems (parent : String) : List Selection → List Item
  | [] => []
  | s :: rest => items parent s ++ allItems parent rest

end

/-- The fields of a list of items. A fragment is taken in where it is first spread, as long as it
remains. -/
def unfold (fragments : Table WrittenFragment) (remaining : List String) : List Item → List KeyUse
  | [] => []
  | .use u :: rest => u :: unfold fragments remaining rest
  | .spread n :: rest =>
    if n ∈ remaining then
      match fragments.get? n with
      | some f =>
        unfold fragments (remaining.erase n) (allItems f.condition f.selections ++ rest)
      | none => unfold fragments (remaining.erase n) rest
    else unfold fragments remaining rest
termination_by items => (remaining.length, items.length)
decreasing_by
  · exact Prod.Lex.right _ (by simp)
  · next h =>
    have := List.length_pos_of_mem h
    rw [List.length_erase_of_mem h]
    exact Prod.Lex.left _ _ (by omega)
  · next h =>
    have := List.length_pos_of_mem h
    rw [List.length_erase_of_mem h]
    exact Prod.Lex.left _ _ (by omega)
  · exact Prod.Lex.right _ (by simp)

/-- The fields of a selection set, in the order in which they are met. -/
def keysOf (fragments : Table WrittenFragment) (parent : String) (selections : List Selection) :
    List KeyUse :=
  unfold fragments fragments.keys (allItems parent selections)

/-- Tells whether two fields belong to two object types, so that no value has both. -/
def exclusive (s : Schema) (u v : KeyUse) : Bool :=
  u.parent ≠ v.parent && s.kind? u.parent = some .object && s.kind? v.parent = some .object

/-- Tells whether two fields have one key and cannot share it. -/
def clashes (s : Schema) (u v : KeyUse) : Bool :=
  u.key = v.key && u.field ≠ v.field && !exclusive s u v

/-- The first field that clashes with an earlier one, and the first such: the fault. -/
def conflict? (s : Schema) (earlier : List KeyUse) : List KeyUse → Option DocumentIssue
  | [] => none
  | u :: rest =>
    match earlier.find? fun e => clashes s e u with
    | some e => some (.responseKeyShared u.key e.field u.field)
    | none => conflict? s (earlier ++ [u]) rest

end KeyUse

end OperationGate
