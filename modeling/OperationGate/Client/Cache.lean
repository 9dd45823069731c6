import OperationGate.Json.Writer
import OperationGate.Operation.Kind

/-!
# Response cache

Bodies of responses by key, in the order in which their keys came in. A new key at full capacity
pushes out the oldest; a key that is present keeps its place and takes the new body. Nothing
expires.
-/

namespace OperationGate

namespace Json

mutual

/-- The value with the members of every record in ascending order of their names. -/
def canonical : Json → Json
  | .list items => .list (canonicalItems items)
  | .record members => .object (canonicalMembers members)
  | v => v

/-- The items of a list, each made canonical. -/
def canonicalItems : List Json → List Json
  | [] => []
  | v :: rest => canonical v :: canonicalItems rest

/-- The members of a record, each made canonical. -/
def canonicalMembers : List (String × Json) → List (String × Json)
  | [] => []
  | (k, v) :: rest => (k, canonical v) :: canonicalMembers rest

end

end Json

/-- The key of a call: where the client's endpoints are, what is called, and the variables. Values
that differ in the order of members only have one key. -/
def cacheKey (space : String) (kind : OperationKind) (name : String) (variableValues : Json) :
    String :=
  space ++ ":" ++ kind.word ++ ":" ++ name ++ ":" ++ variableValues.canonical.compact

/-- Bodies by key, oldest key first. -/
structure ResponseCache where
  capacity : Nat
  entries : List (String × Json)
  deriving Inhabited

namespace ResponseCache

/-- The empty cache with room for the given number of bodies, and for one at least. -/
def new (capacity : Nat) : ResponseCache :=
  ⟨max capacity 1, []⟩

/-- The number of bodies. -/
def size (c : ResponseCache) : Nat :=
  c.entries.length

/-- The body under a key. -/
def get? (c : ResponseCache) (key : String) : Option Json :=
  Table.find? key c.entries

/-- Tells whether a key has a body. -/
def contains (c : ResponseCache) (key : String) : Bool :=
  (c.get? key).isSome

/-- Stores a body. A present key keeps its place; otherwise the oldest keys leave until there is
room. -/
def insert (c : ResponseCache) (key : String) (body : Json) : ResponseCache :=
  if c.contains key then
    { c with entries := c.entries.map fun e => if e.1 = key then (key, body) else e }
  else
    { c with entries := c.entries.drop (c.size + 1 - c.capacity) ++ [(key, body)] }

/-- Removes every body. -/
def clear (c : ResponseCache) : ResponseCache :=
  { c with entries := [] }

end ResponseCache

end OperationGate
