import OperationGate.Catalogue.Definitions
import OperationGate.Files.Workspace
import OperationGate.Glob
import OperationGate.Project.Config

/-!
# Sources

Where a build finds its schema and its documents. Documents are the files below the project that a
pattern accepts, by the paths that lead to them, and those given as texts.
-/

namespace OperationGate.Sources

/-- The text of the schema. -/
def loadSchema : SchemaSource → Work String
  | .file path => do
    Work.note .debug ("reading schema from " ++ path.text)
    match (← get).read path with
    | .ok sdl => return sdl
    | .error fault => throw (.config (.schemaUnreadable path.text fault.message))
  | .url address headers => do
    Work.note .info ("downloading schema from " ++ address)
    match (← get).download address headers with
    | .ok sdl => return sdl
    | .error f => throw f

/-- Keeps the text of a schema in a file, and tells whether it was not there before. -/
def keepSchema (path : Path) (sdl : String) : Work Bool := do
  if (← get).holds path sdl then return false
  Work.write path sdl
  Work.note .debug ("wrote schema to " ++ path.text)
  return true

/-- Tells whether documents are not looked for in a directory of some name. -/
def isPassedOver (name : String) : Bool :=
  (Text.afterFront? "." name).isSome || name = "node_modules" || name = "target"

/-- The path that leads to an address below the project. -/
def pathBelow (rest : Address) : String :=
  Text.replaceChar '\\' '/' (Text.joinWith "/" rest)

/-- The files below a directory in which documents are looked for, each with the path that leads to
it. -/
def candidates (tree : FileTree) (dir : Address) : List (String × FileNode) :=
  ((tree.filesBelow dir).filter fun e => !e.1.dropLast.any isPassedOver).map fun e =>
    (pathBelow e.1, e.2)

/-- Patterns as their texts write them. -/
def patternsOf (texts : List String) : Except Failure (List Glob) :=
  texts.mapM fun text =>
    match Glob.ofString? text with
    | some g => .ok g
    | none => .error (.config (.globUnclosed (Glob.body text)))

/-- The document in a file that was found. -/
def readFound (path : String) (node : FileNode) : Work SourceDocument := do
  Work.note .debug ("found document " ++ path)
  match node with
  | .text source => return ⟨path, source⟩
  | _ => throw .io

/-- The documents below the project that some pattern accepts, in the order of their paths. -/
def findDocuments (root : Path) (patterns : List Glob) : Work (List SourceDocument) := do
  let w ← get
  match w.tree.at? w.here root with
  | .error _ => throw .io
  | .ok (dir, _) =>
    let found := (candidates w.tree dir).filter fun c => patterns.any (·.accepts c.1)
    let docs ← found.mapM fun c => readFound c.1 c.2
    return docs.mergeSort fun a b => decide (a.path ≤ b.path)

/-- Documents given as texts, under numbers. -/
def inlineDocuments (texts : List String) : List SourceDocument :=
  texts.mapIdx fun i source => ⟨"<inline-" ++ toString (i + 1) ++ ">", source⟩

/-- All documents: those that patterns find, if there are any patterns, and those given as texts. -/
def collectDocuments (root : Path) (patterns inline : List String) :
    Work (List SourceDocument) := do
  let globs ← patternsOf patterns
  let found ← if globs.isEmpty then pure [] else findDocuments root globs
  let docs := found ++ inlineDocuments inline
  Work.note .info ("collected " ++ toString docs.length ++ " graphql documents")
  return docs

end OperationGate.Sources
