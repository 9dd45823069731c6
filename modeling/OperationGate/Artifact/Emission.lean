import OperationGate.Artifact.Basic
import OperationGate.Files.Workspace

/-!
# Emission

Writing artifacts. All texts are made before the first file is written, so that an artifact without
a text leaves every file as it is. A file that need not be written is left alone.
-/

namespace OperationGate

/-- The places of the artifacts that were written and of those that were left alone. -/
structure EmitReport where
  written : List Path
  unchanged : List Path
  deriving DecidableEq, Repr, Inhabited

namespace Artifact

/-- Writes a file unless `keeps` leaves it alone. -/
def writeUnless (keeps : Workspace → RenderedFile → Bool) (report : EmitReport) (f : RenderedFile) :
    Work EmitReport := do
  if keeps (← get) f then return { report with unchanged := report.unchanged ++ [f.path] }
  Work.write f.path f.contents
  Work.note .debug ("wrote " ++ f.path.text)
  return { report with written := report.written ++ [f.path] }

/-- Writes the files that `keeps` does not leave alone, one after the other. -/
def writeAll (keeps : Workspace → RenderedFile → Bool) (files : List RenderedFile) :
    Work EmitReport :=
  files.foldlM (writeUnless keeps) ⟨[], []⟩

/-- Writes artifacts for operations where the files do not have their texts yet. -/
def emit (artifacts : List Artifact) (lib : TypeLibrary) (l : Layout) : Work EmitReport := do
  let files ← renderAll artifacts lib l
  writeAll (fun w f => w.holds f.path f.contents) files

/-- Writes artifacts for no operations where there are no files yet, so that what imports them finds
them. -/
def emitPlaceholders (artifacts : List Artifact) (l : Layout) : Work EmitReport := do
  let files ← renderAll artifacts .empty l
  writeAll (fun w f => w.has f.path) files

end Artifact

end OperationGate
