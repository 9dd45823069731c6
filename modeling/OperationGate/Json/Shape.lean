import OperationGate.Json.Reader

/-!
# Shapes

What a reader that knows which record it expects makes of a written value. A member that the record
does not know is skipped as written, whatever stands in it, unless the record is open and keeps it;
a member that it knows may be written only once.

The members of a record may also be taken from a value: `Json.fields?` takes a record written by
name or as a list of its fields in order.
-/

namespace OperationGate.Json

/-- What a reader expects. -/
inductive Shape where
  /-- Any value. -/
  | any
  /-- A text. -/
  | text
  /-- A list whose items have one shape. -/
  | list (item : Shape)
  /-- A record with members of any names and one shape; a later member replaces an earlier one. -/
  | map (item : Shape)
  /-- A record with known members, which may be written as a list of them in order. -/
  | closed (fields : List (String × Shape))
  /-- A record with known members, which keeps others too. -/
  | kept (fields : List (String × Shape))
  deriving Repr, Inhabited

namespace Source

/-- Tells whether a list of members names one of the given names twice. -/
def repeats (names : List String) : List (String × Source) → Bool
  | [] => false
  | m :: rest => (names.contains m.1 && rest.any fun m' => m'.1 = m.1) || repeats names rest

/-- The members with their names as texts. -/
def namedMembers? : List (List TextUnit × Source) → Option (List (String × Source))
  | [] => some []
  | (k, v) :: rest => do
    let k ← textOf? k
    let rest ← namedMembers? rest
    return (k, v) :: rest

mutual

/-- Reads a written value as a shape. A value of another kind is no reading of the shape. -/
def readAs? (depth : Nat) (shape : Shape) (v : Source) : Option Json :=
  match shape with
  | .any => v.toJson? depth
  | .text =>
    match v with
    | .text _ => v.toJson? depth
    | _ => none
  | .list item =>
    match depth, v with
    | depth + 1, .list items => (items.mapM fun v => readAs? depth item v).map .list
    | _, _ => none
  | .map item =>
    match depth, v with
    | depth + 1, .record members => do
      let members ← namedMembers? members
      let members ← members.mapM fun m => (readAs? depth item m.2).map fun v => (m.1, v)
      return .object members
    | _, _ => none
  | .closed fields =>
    match depth, v with
    | depth + 1, .record members => do
      let members ← namedMembers? members
      if repeats (fields.map (·.1)) members then none
      else return .object (← readFields? depth fields members)
    | depth + 1, .list items =>
      if fields.length < items.length then none
      else (readInOrder? depth fields items).map .list
    | _, _ => none
  | .kept fields =>
    match depth, v with
    | depth + 1, .record members => do
      let members ← namedMembers? members
      if repeats (fields.map (·.1)) members then none
      else
        let known ← readFields? depth fields members
        let others := members.filter fun m => !(fields.map (·.1)).contains m.1
        let others ← others.mapM fun m => (m.2.toJson? depth).map fun v => (m.1, v)
        return .object (known ++ others)
    | _, _ => none

/-- Reads the known fields that occur among the members. -/
def readFields? (depth : Nat) (fields : List (String × Shape)) (members : List (String × Source)) :
    Option (List (String × Json)) :=
  match fields with
  | [] => some []
  | (name, shape) :: rest => do
    let others ← readFields? depth rest members
    match Table.find? name members with
    | none => return others
    | some v => return (name, ← readAs? depth shape v) :: others

/-- Reads items as the fields of the same places. -/
def readInOrder? (depth : Nat) (fields : List (String × Shape)) (items : List Source) :
    Option (List Json) :=
  match fields, items with
  | (_, shape) :: fields, v :: items => do
    let v ← readAs? depth shape v
    let rest ← readInOrder? depth fields items
    return v :: rest
  | _, _ => some []

end

end Source

/-- Reads a whole data text as a shape. -/
def readAs? (shape : Shape) (s : String) : Option Json := do
  let v ← Source.read? s.toList
  v.readAs? maxDepth shape

/-- Whether a field of a record may be left out. -/
inductive Presence where
  /-- It must be there. -/
  | required
  /-- It may be missing among named members, but not at its place in a list. -/
  | nullable
  /-- It may be missing, also at the end of a list. -/
  | defaulted
  deriving DecidableEq, Repr

/-- The fields of a record written by name or as a list of its fields in order; a missing one has no
value. A list may not be longer than the fields. -/
def fields? (fields : List (String × Presence)) : Json → Option (List (Option Json))
  | .record members =>
    fields.mapM fun f =>
      match Table.find? f.1 members, f.2 with
      | none, .required => none
      | v, _ => some v
  | .list items =>
    if fields.length < items.length then none
    else fields.zipIdx.mapM fun f =>
      match items[f.2]?, f.1.2 with
      | some v, _ => some (some v)
      | none, .defaulted => some none
      | none, _ => none
  | _ => none

end OperationGate.Json
