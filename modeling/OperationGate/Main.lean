import OperationGate.CommandLine.Basic

/-!
# The program

Copies the files that a run may read into a workspace, runs the command line on it, and puts what
the run has changed back on disk.
-/

namespace OperationGate.Disk

/-- The workspace after some work, whether or not it fails. -/
def after (work : Work Unit) (w : Workspace) : Workspace :=
  (work.run w).2

/-- Copies a file, if there is one. -/
def copyFile (w : Workspace) (p : Path) : IO Workspace := do
  try
    let bytes ← IO.FS.readBinFile p.text
    return after (Work.writeFile p (.ofBytes bytes.toList)) w
  catch _ => return w

/-- Copies a directory with the files below it in which documents are looked for. -/
partial def copyBelow (w : Workspace) (p : Path) (entries : Array IO.FS.DirEntry) :
    IO Workspace := do
  let mut w := after (Work.makeWay p) w
  for e in entries do
    let inner := p.join ⟨e.fileName⟩
    match (← e.path.symlinkMetadata).type with
    | .file => w ← copyFile w inner
    | .dir =>
      unless Sources.isPassedOver e.fileName do w ← copyBelow w inner (← e.path.readDir)
    | _ => pure ()
  return w

/-- Copies a directory, or the file that is in its place. -/
def copyRoot (w : Workspace) (p : Path) : IO Workspace := do
  let place : IO.FS.DirEntry := ⟨p.text, ""⟩
  if ← place.root.isDir then copyBelow w p (← place.root.readDir) else copyFile w p

/-- The files that the build of a project may read. -/
def copyProject (w : Workspace) (c : ProjectConfig) : IO Workspace := do
  let l := Layout.ofConfig c
  let w ← copyRoot w c.root
  (c.schemaPath :: Artifact.registry.map fun a => l.place a.path).foldlM copyFile w

/-- Puts what a run has changed back on disk. -/
def putBack (before now : Workspace) : IO Unit := do
  for (address, node) in now.tree.entries do
    if before.tree.node? address ≠ some node then
      let place := Path.ofComponents (.root :: address.map .name)
      match node with
      | .directory => IO.FS.createDirAll place.text
      | .text s =>
        IO.FS.createDirAll (Path.ofComponents (.root :: address.dropLast.map .name)).text
        IO.FS.writeFile place.text s
      | .binary _ => pure ()

/-- The workspace for a run: nothing but the current directory, unless there is something to
build. -/
def workspaceFor (args : List String) : IO Workspace := do
  let current : Path := ⟨(← IO.currentDir).toString⟩
  let w := after (Work.makeWay current) (.ofTree .empty [])
  let here := match w.tree.locate [] current with
    | .ok a => a
    | .error _ => []
  let w := { w with here }
  match Command.read args with
  | .build a =>
    match a.config with
    | .ok c => copyProject w c
    | .error _ => return w
  | _ => return w

end OperationGate.Disk

open OperationGate

/-- Runs the command line. -/
def main (args : List String) : IO UInt32 := do
  let before ← Disk.workspaceFor args
  let (outcome, now) := CommandLine.run args (← IO.getEnv "LOG_LEVEL") before
  for note in outcome.notes do IO.eprintln (note.level.word ++ " " ++ note.text)
  try
    Disk.putBack before now
    IO.print outcome.output
    unless outcome.complaint.isEmpty do IO.eprintln outcome.complaint
    return outcome.code.toUInt32
  catch _ =>
    IO.eprintln (CommandLine.failureText .io)
    return 1
