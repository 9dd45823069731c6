import OperationGate.Catalogue.Keys

/-!
# Validity of selections

Whether selections fit a schema. Selections are checked in the order written, each with all that is
inside it before the next one, and the keys of a selection set after its members. The first fault is
reported.
-/

namespace OperationGate.Validity

/-- Reports the fault that a check found. -/
def refuse (i : Option DocumentIssue) : Except DocumentIssue Unit :=
  match i with
  | some issue => .error issue
  | none => .ok ()

/-- Checks the keys of a selection set. -/
def checkKeys (s : Schema) (fragments : Table WrittenFragment) (parent : String)
    (selections : List Selection) : Except DocumentIssue Unit :=
  refuse (KeyUse.conflict? s [] (KeyUse.keysOf fragments parent selections))

/-- The type of a field's values, if the schema has the field and the type, and a selection set
stands just where the type has fields. -/
def fieldType (s : Schema) (parent name : String) (selections : List Selection) :
    Except DocumentIssue String :=
  match s.field? parent name with
  | none => .error (.fieldUnknown name parent)
  | some f =>
    match s.get? f.type.base with
    | none => .error (.fieldTypeUnknown parent name f.type.base)
    | some t =>
      if t.isLeaf && !selections.isEmpty then .error (.leafWithSelections name f.type.base)
      else if !t.isLeaf && selections.isEmpty then
        .error (.compositeWithoutSelections name f.type.base)
      else .ok f.type.base

/-- Checks that a spread names a fragment that can apply. -/
def checkSpread (s : Schema) (fragments : Table WrittenFragment) (parent name : String) :
    Except DocumentIssue Unit :=
  match fragments.get? name with
  | none => .error (.fragmentUnknown name)
  | some f =>
    if s.overlap parent f.condition then .ok ()
    else .error (.fragmentNeverApplies name f.condition parent)

/-- Checks that an inline fragment is on a type with fields and can apply. -/
def checkTarget (s : Schema) (parent target : String) : Except DocumentIssue Unit :=
  if !(s.get? target).any (·.isComposite) then .error (.inlineTypeUnknown target)
  else if s.overlap parent target then .ok ()
  else .error (.inlineNeverApplies target parent)

mutual

/-- Checks a selection on a parent type, with all that is inside it. -/
def checkSelection (s : Schema) (fragments : Table WrittenFragment) (parent : String) :
    Selection → Except DocumentIssue Unit
  | .field _ name selections =>
    if name = "__typename" then
      if selections.isEmpty then .ok () else .error .typenameWithSelections
    else do
      let base ← fieldType s parent name selections
      checkMembers s fragments base selections
      checkKeys s fragments base selections
  | .spread name => checkSpread s fragments parent name
  | .inline condition selections => do
    let target := condition.getD parent
    checkTarget s parent target
    checkMembers s fragments target selections
    checkKeys s fragments target selections

/-- Checks selections one after the other. -/
def checkMembers (s : Schema) (fragments : Table WrittenFragment) (parent : String) :
    List Selection → Except DocumentIssue Unit
  | [] => .ok ()
  | x :: rest => do
    checkSelection s fragments parent x
    checkMembers s fragments parent rest

end

/-- Checks a selection set on a parent type. -/
def checkSelections (s : Schema) (fragments : Table WrittenFragment) (parent : String)
    (selections : List Selection) : Except DocumentIssue Unit := do
  checkMembers s fragments parent selections
  checkKeys s fragments parent selections

/-- Checks a fragment: its type has fields, and its selections fit it. -/
def checkFragment (s : Schema) (fragments : Table WrittenFragment) (f : WrittenFragment) :
    Except DocumentIssue Unit :=
  match s.get? f.condition with
  | none => .error (.fragmentTypeUnknown f.name f.condition)
  | some t =>
    if t.isComposite then checkSelections s fragments f.condition f.selections
    else .error (.fragmentNotComposite f.name f.condition)

/-- Checks the variables of an operation: their names are distinct, and a value can be given for
their types. -/
def checkVariables (s : Schema) (operation : String) (seen : List String) :
    List OperationVariable → Except DocumentIssue Unit
  | [] => .ok ()
  | v :: rest =>
    if v.name ∈ seen then .error (.variableRepeated v.name operation)
    else match s.get? v.type.base with
      | none => .error (.variableTypeUnknown v.name v.type.base)
      | some t =>
        if t.isInput then checkVariables s operation (v.name :: seen) rest
        else .error (.variableNotInput v.name v.type.base)

/-- Checks an operation, and gives the type that its selections are made on. -/
def checkOperation (s : Schema) (fragments : Table WrittenFragment) (op : WrittenOperation) :
    Except DocumentIssue String :=
  match s.root? op.kind with
  | none => .error (.rootMissing op.kind op.name)
  | some root => do
    checkVariables s op.name [] op.parameters
    checkSelections s fragments root.name op.selections
    return root.name

end OperationGate.Validity
