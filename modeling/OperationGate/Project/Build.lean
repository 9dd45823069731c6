import OperationGate.Artifact.Emission
import OperationGate.Artifact.Registry
import OperationGate.Project.Sources
import OperationGate.Schema.Parser
import OperationGate.Url.Parser

/-!
# Builds

A build loads the schema, collects the documents, makes the types of their operations and emits the
artifacts. Whatever fails before the artifacts are emitted leaves the files of the last build as
they are; without a schema, those that are missing are emitted for no operations.
-/

namespace OperationGate

/-- What is wrong with the settings of a build, the first of their faults. -/
def ProjectConfig.issue? (c : ProjectConfig) : Option ConfigIssue :=
  if (Text.trimmed c.endpoint).isEmpty then some .endpointMissing
  else if (Text.afterFront? "/" c.route).isNone then some (.apiRouteWithoutSlash c.route)
  else if c.patterns.isEmpty && c.inlineDocuments.isEmpty then some .noDocuments
  else c.schemaUrl.bind fun address =>
    match Url.read address with
    | .ok _ => none
    | .error fault => some (.invalidSchemaUrl address fault)

/-- What a build did. -/
structure BuildReport where
  /-- The number of operations. -/
  operations : Nat
  emitted : EmitReport
  deriving DecidableEq, Repr, Inhabited

namespace Build

/-- Work on the schema; if it fails, artifacts that are missing are emitted for no operations. -/
def orPlaceholders {α : Type} (l : Layout) (what : String) (work : Work α) : Work α :=
  Work.onFailure work fun f => do
    Work.note .warning (what ++ ", writing placeholders: " ++ f.message)
    discard (Artifact.emitPlaceholders Artifact.registry l)

/-- The documents of a project. The file of the schema is none of them, whatever the patterns
say. -/
def documents (c : ProjectConfig) : Work (List SourceDocument) := do
  let docs ← Sources.collectDocuments c.root c.patterns c.inlineDocuments
  return docs.filter fun d => !(c.root.join ⟨d.path⟩).same c.schemaPath

/-- Work that touches nothing. -/
def liftExcept {α : Type} (a : Except Failure α) : Work α := a

/-- The rest of a build once there is a schema. -/
def emitFor (c : ProjectConfig) (s : Schema) : Work BuildReport := do
  let docs ← documents c
  let lib ← liftExcept (TypeLibrary.ofDocuments s c.scalars (some c.root) docs)
  let emitted ← Artifact.emit Artifact.registry lib (Layout.ofConfig c)
  Work.note .info
    ("generated " ++ toString lib.operations.length ++ " operations: "
      ++ toString emitted.written.length ++ " files written, "
      ++ toString emitted.unchanged.length ++ " unchanged")
  return ⟨lib.operations.length, emitted⟩

/-- Builds a project. -/
def run (c : ProjectConfig) : Work BuildReport := do
  if let some issue := c.issue? then throw (.config issue)
  let l := Layout.ofConfig c
  let sdl ← orPlaceholders l "schema unavailable" (Sources.loadSchema c.schemaSource)
  if c.downloadsSchema then
    if ← Sources.keepSchema c.schemaPath sdl then
      Work.note .info ("updated schema at " ++ c.schemaPath.text)
  let s ← orPlaceholders l "schema invalid" (liftExcept (Schema.parse sdl))
  emitFor c s

end Build

end OperationGate
