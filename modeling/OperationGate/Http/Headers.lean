import OperationGate.Table

/-!
# Headers

The headers of a request or an answer. Names are in lower case, and a name may have several values.
Main statements: `values_set` and `values_add` say which values a name has after a change.
-/

namespace OperationGate

/-- Headers: the values of each name, in the order in which they were given. -/
structure Headers where
  entries : Table (List String)
  deriving Inhabited

namespace Headers

/-- No headers. -/
def empty : Headers := ⟨.empty⟩

instance : EmptyCollection Headers := ⟨empty⟩

/-- The values of a name. -/
def values (h : Headers) (name : String) : List String :=
  (h.entries.get? name).getD []

/-- The first value of a name. -/
def get? (h : Headers) (name : String) : Option String :=
  (h.values name).head?

/-- Gives a name one value in place of those it has. -/
def set (h : Headers) (name value : String) : Headers :=
  ⟨h.entries.insert name [value]⟩

/-- Gives a name one more value. -/
def add (h : Headers) (name value : String) : Headers :=
  ⟨h.entries.insert name (h.values name ++ [value])⟩

@[simp]
theorem values_empty (name : String) : empty.values name = [] := rfl

@[simp]
theorem values_set (h : Headers) (name value other : String) :
    (h.set name value).values other = if name = other then [value] else h.values other := by
  unfold values set
  rw [Table.get?_insert]
  split <;> rfl

@[simp]
theorem values_add (h : Headers) (name value other : String) :
    (h.add name value).values other =
      if name = other then h.values name ++ [value] else h.values other := by
  unfold values add
  rw [Table.get?_insert]
  split <;> rfl

/-- All names with their values, in ascending order of the names. -/
def pairs (h : Headers) : List (String × String) :=
  h.entries.entries.flatMap fun e => e.2.map fun v => (e.1, v)

/-- The number of values. -/
def size (h : Headers) : Nat :=
  h.pairs.length

/-- Headers with every pair added. -/
def ofPairs (ps : List (String × String)) : Headers :=
  ps.foldl (fun h p => h.add p.1 p.2) empty

/-- Sets a header for each pair in turn, so that the last value of a name is the one it has. -/
def setEach (h : Headers) (ps : List (String × String)) : Headers :=
  ps.foldl (fun h p => h.set p.1 p.2) h

/-- Gives every name of other headers all its values there, in place of those it has. -/
def replaceBy (h other : Headers) : Headers :=
  other.entries.entries.foldl (fun h e => ⟨h.entries.insert e.1 e.2⟩) h

/-- Tells whether a character may be in a name. -/
def isNameChar (c : Char) : Bool :=
  c.isAlphanum || "!#$%&'*+-.^_`|~".toList.contains c

/-- The most bytes that a name may have. -/
def maxNameLength : Nat := 65535

/-- The name that a text stands for, in lower case. -/
def name? (s : String) : Option String :=
  if s.toList.isEmpty || s.length > maxNameLength || !s.toList.all isNameChar then none
  else some (String.ofList (s.toList.map Char.toLower))

/-- Tells whether a text may be a value: it has no controls but tabs. -/
def isValue (s : String) : Bool :=
  s.toList.all fun c => (c.toNat ≥ 32 && c.toNat ≠ 127) || c = '\t'

end Headers

end OperationGate
