import OperationGate.Catalogue.Basic
import OperationGate.Document.Parser
import OperationGate.Document.Printer
import OperationGate.Failure
import OperationGate.Path

/-!
# Definitions of a set of documents

The operations and fragments that documents define, before they are held against a schema. Every
operation has a name, and no two definitions would share a name or the name of a type. The first
fault in the order of the documents is the one reported.
-/

namespace OperationGate

/-- A document under the path it was found at. -/
structure SourceDocument where
  path : String
  source : String
  deriving DecidableEq, Repr, Inhabited

/-- What documents define. -/
structure Definitions where
  /-- Operations in the order written. -/
  operations : List WrittenOperation
  fragments : Table WrittenFragment
  deriving Inhabited

namespace Definitions

/-- No definitions. -/
def empty : Definitions := ⟨[], .empty⟩

/-- Adds a fragment whose name and type name are new. -/
def addFragment (ds : Definitions) (f : WrittenFragment) : Except Failure Definitions :=
  match ds.fragments.get? f.name with
  | some first => .error (.duplicateFragment f.name first.file f.file)
  | none =>
    match ds.fragments.values.find? fun g => g.typeName = f.typeName with
    | some other => .error (.fragmentTypeNameCollision f.name other.name f.typeName)
    | none => .ok { ds with fragments := ds.fragments.insert f.name f }

/-- Adds an operation whose name among its kind and whose type name are new. -/
def addOperation (ds : Definitions) (op : WrittenOperation) : Except Failure Definitions :=
  match ds.operations.find? fun o => o.kind = op.kind && o.name = op.name with
  | some first => .error (.duplicateOperation op.kind op.name first.file op.file)
  | none =>
    match ds.operations.find? fun o => o.typeName = op.typeName with
    | some other => .error (.typeNameCollision op.kind op.name other.name op.typeName)
    | none => .ok { ds with operations := ds.operations ++ [op] }

/-- A variable as a document declares it. -/
def variableOf (v : Document.Variable) : OperationVariable :=
  ⟨v.name, v.type, v.default.isSome⟩

/-- Adds a definition of the document that is reported as `file`. -/
def add (file : String) (ds : Definitions) (d : Document.Definition) : Except Failure Definitions :=
  match d with
  | .bare _ => .error (.anonymousOperation file)
  | .fragment f =>
    ds.addFragment ⟨f.name, f.condition, file, Document.outlines f.selections, d.print⟩
  | .operation op =>
    match op.name with
    | none => .error (.anonymousOperation file)
    | some name =>
      ds.addOperation
        ⟨op.kind, name, op.parameters.map variableOf,
          Document.outlines op.selections, file, d.print⟩

/-- Adds what a document defines. -/
def addDocument (root : Option Path) (ds : Definitions) (doc : SourceDocument) :
    Except Failure Definitions :=
  let file := reportedPath doc.path root
  match Document.read? doc.source with
  | none => .error (.parse file)
  | some defs => defs.foldlM (add file) ds

/-- What a list of documents defines, with paths reported relative to the root of the project. -/
def ofDocuments (root : Option Path) (docs : List SourceDocument) : Except Failure Definitions :=
  docs.foldlM (addDocument root) empty

end Definitions

end OperationGate
