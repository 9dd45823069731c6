import OperationGate.Project.Config

/-!
# The layout of a project

The places and settings that artifacts refer to, and how a module among the artifacts names another
file: by the path that leads there from its own directory.
-/

namespace OperationGate

/-- Places and settings for artifacts. -/
structure Layout where
  root : Path
  buildDir : Path
  schemaPath : Path
  clientOptions : Option Path
  serverOptions : Option Path
  route : String
  deriving DecidableEq, Repr, Inhabited

namespace Layout

/-- The layout of a configured project. -/
def ofConfig (c : ProjectConfig) : Layout :=
  ⟨c.root, c.buildDir, c.schemaPath, c.clientOptions, c.serverOptions, c.route⟩

/-- The place of an artifact. -/
def place (l : Layout) (artifact : String) : Path :=
  l.buildDir.join ⟨artifact⟩

/-- The ends of script files that an import leaves out. -/
def scriptEndings : List String :=
  [".d.ts", ".ts", ".mjs", ".js"]

/-- A text without the first of the script endings that it has. -/
def dropEnding (s : String) : String :=
  (scriptEndings.findSome? fun e => Text.beforeTail? e s).getD s

/-- The text by which the artifact `source` imports a file; a relative file is below the project. -/
def importOf (l : Layout) (source : String) (target : Path) : String :=
  let here := ((l.place source).parent?.getD l.buildDir).components
  let way := Path.ofComponents (Path.relativeComponents here (l.root.join target).components)
  let specifier := dropEnding (Text.replaceChar '\\' '/' way.text)
  if (Text.afterFront? "../" specifier).isSome then specifier else "./" ++ specifier

end Layout

end OperationGate
