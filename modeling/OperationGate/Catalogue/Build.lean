import OperationGate.Catalogue.Closure
import OperationGate.Catalogue.Cycles
import OperationGate.Catalogue.Definitions
import OperationGate.Catalogue.Validity

/-!
# Making a catalogue

A set of documents becomes a catalogue when its definitions fit the schema. Faults are looked for in
this order: in the documents one by one, in the fragments by name, cycles of fragments, in the
operations as they are written.
-/

namespace OperationGate.Catalogue

/-- Puts a fault of a definition down to its file. -/
def inFile {α : Type} (file : String) : Except DocumentIssue α → Except Failure α
  | .ok a => .ok a
  | .error issue => .error (.validation file issue)

/-- Checks that no fragment spreads itself. -/
def checkCycles (fragments : Table WrittenFragment) : Except Failure Unit :=
  match Cycles.repeated? fragments with
  | none => .ok ()
  | some n =>
    .error (.validation ((fragments.get? n).elim "" (·.file)) (.fragmentCycle n))

/-- A fragment with what it depends on. -/
def fragmentOf (s : Schema) (fragments : Table WrittenFragment) (f : WrittenFragment) : Fragment :=
  { f with dependencies := .of s fragments f.condition f.selections [] }

/-- The document of an operation: its source, then those of its fragments, with a blank line between
any two. -/
def documentOf (fragments : Table WrittenFragment) (source : String) (names : List String) :
    String :=
  Text.joinWith "\n\n" (source :: (names.filterMap fragments.get?).map (·.source))

/-- An operation that fits the schema, with what it depends on. -/
def operationOf (s : Schema) (fragments : Table WrittenFragment) (op : WrittenOperation) :
    Except Failure Operation := do
  let root ← inFile op.file (Validity.checkOperation s fragments op)
  let deps := Dependencies.of s fragments root op.selections (op.parameters.map (·.type.base))
  return { op with
    dependencies := deps
    rootType := root
    document := documentOf fragments op.source deps.fragments }

/-- The catalogue of what documents define. -/
def ofDefinitions (s : Schema) (ds : Definitions) : Except Failure Catalogue := do
  ds.fragments.values.forM fun f => inFile f.file (Validity.checkFragment s ds.fragments f)
  checkCycles ds.fragments
  let operations ← ds.operations.mapM (operationOf s ds.fragments)
  return ⟨operations.mergeSort Operation.before,
    ds.fragments.map fun _ f => fragmentOf s ds.fragments f⟩

/-- The catalogue of a list of documents, with paths reported relative to the root of the
project. -/
def ofDocuments (s : Schema) (root : Option Path) (docs : List SourceDocument) :
    Except Failure Catalogue := do
  ofDefinitions s (← Definitions.ofDocuments root docs)

end OperationGate.Catalogue
