import OperationGate.Catalogue.Basic

/-!
# Cycles of fragments

A fragment that spreads itself, directly or through others, has no finite text. The search goes down
from every fragment in ascending order and keeps the trail of fragments that it is inside of; a
fragment met again on the trail is the one reported.
-/

namespace OperationGate.Cycles

/-- Goes down from each of several names. `free` are the names that are not on the trail, `done`
those below which no cycle was found. The answer is a name met again on the trail, or all that is
done. -/
def descend (next : String → List String) (free trail done : List String) :
    List String → Except String (List String)
  | [] => .ok done
  | n :: rest =>
    if n ∈ done then descend next free trail done rest
    else if n ∈ free then
      match descend next (free.erase n) (n :: trail) done (next n) with
      | .error e => .error e
      | .ok done => descend next free trail (n :: done) rest
    else if n ∈ trail then .error n
    else descend next free trail done rest
termination_by names => (free.length, names.length)
decreasing_by
  · exact Prod.Lex.right _ (by simp)
  · next h =>
    have := List.length_pos_of_mem h
    rw [List.length_erase_of_mem h]
    exact Prod.Lex.left _ _ (by omega)
  · exact Prod.Lex.right _ (by simp)
  · exact Prod.Lex.right _ (by simp)

/-- The fragments that a fragment of a table spreads. -/
def spreadsOf (fragments : Table WrittenFragment) (name : String) : List String :=
  match fragments.get? name with
  | some f => Selection.allSpreads f.selections
  | none => []

/-- A fragment that spreads itself, if there is one. -/
def repeated? (fragments : Table WrittenFragment) : Option String :=
  match descend (spreadsOf fragments) fragments.keys [] [] fragments.keys with
  | .error n => some n
  | .ok _ => none

end OperationGate.Cycles
