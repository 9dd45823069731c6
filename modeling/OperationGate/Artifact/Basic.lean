import OperationGate.Artifact.Layout
import OperationGate.Declaration.Basic

/-!
# Artifacts

Files that a build emits. An artifact has a place below the build directory and a text, which
depends on the layout of the project and, unless the artifact is a fixed one, on the operations.
-/

namespace OperationGate

/-- A file that a build emits. -/
structure Artifact where
  /-- Its path below the build directory. -/
  path : String
  /-- Its text, made from the layout alone. -/
  fixed : Option (Layout → Except Failure String)
  /-- Its text, made from operations too; where both are there, this one counts. -/
  generated : Option (TypeLibrary → Layout → Except Failure String)
  deriving Inhabited

/-- An artifact with its text made, at the place where it goes. -/
structure RenderedFile where
  path : Path
  contents : String
  deriving DecidableEq, Repr, Inhabited

namespace Artifact

/-- Tells whether the text of an artifact does not depend on operations. -/
def isFixed (a : Artifact) : Bool :=
  a.generated.isNone

/-- The text of an artifact. -/
def render (a : Artifact) (lib : TypeLibrary) (l : Layout) : Except Failure String :=
  match a.generated, a.fixed with
  | some text, _ => text lib l
  | none, some text => text l
  | none, none => .error (.config (.artifactWithoutSource a.path))

/-- All artifacts of a list, each with its text at its place. -/
def renderAll (artifacts : List Artifact) (lib : TypeLibrary) (l : Layout) :
    Except Failure (List RenderedFile) :=
  artifacts.mapM fun a => return ⟨l.place a.path, ← a.render lib l⟩

end Artifact

end OperationGate
