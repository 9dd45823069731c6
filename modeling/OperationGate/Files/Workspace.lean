import OperationGate.Failure
import OperationGate.Files.Tree
import OperationGate.Http.Headers

/-!
# Workspaces

What a build works on: a file tree, the directory that it starts from, and what it notes on its way.
Work that fails leaves behind what it has done until then.
-/

namespace OperationGate

/-- How much a note matters, from the most to the least. -/
inductive NoteLevel where
  | error
  | warning
  | info
  | debug
  | trace
  deriving DecidableEq, Repr, Inhabited

namespace NoteLevel

/-- The word for a level. -/
def word : NoteLevel → String
  | .error => "ERROR"
  | .warning => "WARN"
  | .info => "INFO"
  | .debug => "DEBUG"
  | .trace => "TRACE"

/-- The place of a level among all, from the one that matters most. -/
def rank : NoteLevel → Nat
  | .error => 0
  | .warning => 1
  | .info => 2
  | .debug => 3
  | .trace => 4

/-- All levels. -/
def all : List NoteLevel :=
  [.error, .warning, .info, .debug, .trace]

/-- Tells whether notes of a level are shown where those up to `limit` are. -/
def isShownAt (limit level : NoteLevel) : Bool :=
  level.rank ≤ limit.rank

end NoteLevel

/-- A note on what happens. -/
structure Note where
  level : NoteLevel
  text : String
  deriving DecidableEq, Repr, Inhabited

/-- What a build works on. -/
structure Workspace where
  tree : FileTree
  /-- The directory that relative paths start from. -/
  here : Address
  /-- Notes in the order in which they were made. -/
  notes : List Note
  /-- The text at an address of the net. -/
  download : String → Headers → Except Failure String

namespace Workspace

/-- A workspace on a file tree, without a net. -/
def ofTree (tree : FileTree) (here : Address) : Workspace :=
  ⟨tree, here, [], fun _ _ => .error .http⟩

instance : Inhabited Workspace := ⟨.ofTree .empty []⟩

/-- The text of a file. -/
def read (w : Workspace) (p : Path) : Except FileFault String :=
  w.tree.read w.here p

/-- Tells whether a file has a text. -/
def holds (w : Workspace) (p : Path) (s : String) : Bool :=
  match w.read p with
  | .ok t => t = s
  | .error _ => false

/-- Tells whether there is something. -/
def has (w : Workspace) (p : Path) : Bool :=
  w.tree.has w.here p

/-- The workspace after one more note. -/
def noted (w : Workspace) (level : NoteLevel) (text : String) : Workspace :=
  { w with notes := w.notes ++ [⟨level, text⟩] }

end Workspace

/-- Work on a workspace. -/
abbrev Work := ExceptT Failure (StateM Workspace)

namespace Work

/-- Makes a note. -/
def note (level : NoteLevel) (text : String) : Work Unit :=
  modify fun w => w.noted level text

/-- Makes a directory and those that lead to it, where they are not there yet. -/
def makeWay (dir : Path) : Work Unit := do
  let w ← get
  let (tree, made) := w.tree.makeWay w.here dir
  set { w with tree }
  unless made do throw .io

/-- Writes a file whose directory is there. -/
def putFile (p : Path) (file : FileNode) : Work Unit := do
  let w ← get
  match w.tree.write? w.here p file with
  | some tree => set { w with tree }
  | none => throw .io

/-- Writes a file, making the directories that lead to it. -/
def writeFile (p : Path) (file : FileNode) : Work Unit := do
  if let some dir := p.parent? then makeWay dir
  putFile p file

/-- Writes a text to a file, making the directories that lead to it. -/
def write (p : Path) (s : String) : Work Unit :=
  writeFile p (.text s)

/-- Work that is done when other work has failed, before the failure is passed on. -/
def onFailure {α : Type} (work : Work α) (after : Failure → Work Unit) : Work α :=
  tryCatch work fun f => do
    after f
    throw f

end Work

end OperationGate
