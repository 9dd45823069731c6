import OperationGate.CommandLine.Arguments
import OperationGate.Project.Build

/-!
# The command line

One run of the program: the arguments are read, a build is configured and done, and its report is
printed.
-/

namespace OperationGate

/-- What a run prints, and the code that it ends with. -/
structure Outcome where
  code : Nat
  /-- Printed to the standard output. -/
  output : String
  /-- Printed to the standard error, with a line break after it unless it is empty. -/
  complaint : String
  /-- The notes that are shown. -/
  notes : List Note
  deriving DecidableEq, Repr, Inhabited

/-- What is wrong with a header that is given as an argument. -/
inductive HeaderIssue where
  | name (name : String)
  | value (name : String)
  deriving DecidableEq, Repr, Inhabited

/-- The wording of an issue. -/
def HeaderIssue.message : HeaderIssue → String
  | .name n => "invalid header name " ++ n ++ ": invalid HTTP header name"
  | .value n => "invalid header value for " ++ n ++ ": failed to parse header value"

namespace Arguments

/-- A header as it is sent. -/
def headerOf (pair : String × String) : Except HeaderIssue (String × String) :=
  match Headers.name? pair.1 with
  | none => .error (.name pair.1)
  | some name => if Headers.isValue pair.2 then .ok (name, pair.2) else .error (.value name)

/-- The settings that arguments ask for. -/
def config (a : Arguments) : Except HeaderIssue ProjectConfig := do
  let headers ← a.headers.mapM headerOf
  let c : ProjectConfig := .new a.endpoint a.root
  let c := a.buildDir.elim c c.withBuildDir
  let c := a.route.elim c c.withRoute
  let c := a.schemaPath.elim c c.withSchemaPath
  let c := a.schemaUrl.elim c c.withSchemaUrl
  let c := headers.foldl (fun c h => c.withSchemaHeader h.1 h.2) c
  let c := if a.patterns.isEmpty then c else c.withPatterns a.patterns
  let c := a.scalars.foldl (fun c s => c.withScalar s.1 s.2) c
  let c := a.clientOptions.elim c c.withClientOptions
  return a.serverOptions.elim c c.withServerOptions

end Arguments

namespace CommandLine

/-- The help text, line by line. -/
def helpLines : List String := [
  "graphql-middleware-codegen",
  "",
  "generate typescript types and endpoint tables for the graphql operations of a project",
  "",
  "usage:",
  "  graphql-middleware-codegen --endpoint <url> [options]",
  "",
  "required:",
  "  --endpoint <url>          upstream graphql endpoint",
  "",
  "options:",
  "  --root <dir>              project root (default: .)",
  "  --out <dir>               build dir, relative to the root (default: .graphql-middleware)",
  "  --prefix <path>           endpoint route prefix (default: /api/graphql_middleware)",
  "  --schema <path>           schema sdl file, relative to the root (default: schema.graphql)",
  "  --schema-url <url>        download the schema sdl and store it at --schema",
  "  --header <name:value>     header for the schema download (repeatable)",
  "  --documents <glob>        document glob, relative to the root (repeatable;",
  "                            default: **/*.graphql and **/*.gql)",
  "  --scalar <name=type>      typescript type for a custom scalar (repeatable)",
  "  --client-options <path>   file re-exported as client options",
  "  --server-options <path>   file re-exported as server options",
  "  -v, --verbose             debug logging (otherwise LOG_LEVEL, default info)",
  "  -h, --help                show this help"
]

/-- The help text. -/
def help : String :=
  String.join (helpLines.map (· ++ "\n"))

/-- The level up to which notes are shown unless another is asked for. -/
def defaultLevel : NoteLevel := .info

/-- The level that a word stands for, in capital or in small letters. -/
def levelOfWord? (word : String) : Option NoteLevel :=
  NoteLevel.all.find? fun l => word = l.word || word = l.word.toLower

/-- The level that the environment asks for, and the note on a word that stands for none. -/
def levelOf (setting : Option String) : NoteLevel × List Note :=
  match setting.map Text.trimmed with
  | none => (defaultLevel, [])
  | some word =>
    match levelOfWord? word with
    | some l => (l, [])
    | none =>
      (defaultLevel,
        [⟨.warning, "invalid `LOG_LEVEL` environment variable value: `" ++ word ++ "`"⟩])

/-- The report of a build as it is printed. -/
def reportText (r : BuildReport) : String :=
  "generated " ++ toString r.operations ++ " operations\n"
    ++ String.join (r.emitted.written.map fun p => "  wrote " ++ p.text ++ "\n")
    ++ (if r.emitted.unchanged.isEmpty then ""
      else "  " ++ toString r.emitted.unchanged.length ++ " files unchanged\n")

/-- What is printed when a build fails. -/
def failureText (f : Failure) : String :=
  "codegen failed: " ++ f.message

/-- A run with some arguments in a workspace, under a setting of the environment for the level of
notes. -/
def run (args : List String) (setting : Option String) (w : Workspace) : Outcome × Workspace :=
  match Command.read args with
  | .help => (⟨0, help, "", []⟩, w)
  | .refused issue => (⟨1, "", issue.message ++ "\n\n" ++ help, []⟩, w)
  | .build a =>
    let (limit, first) := if a.verbose then (.debug, []) else levelOf setting
    match a.config with
    | .error issue => (⟨1, "", "invalid arguments: " ++ issue.message, shown limit first⟩, w)
    | .ok c =>
      let (result, w') := (Build.run c).run { w with notes := first }
      let notes := shown limit w'.notes
      match result with
      | .ok r => (⟨0, reportText r, "", notes⟩, w')
      | .error f => (⟨1, "", failureText f, notes⟩, w')
where
  /-- The notes up to a level. -/
  shown (limit : NoteLevel) (notes : List Note) : List Note :=
    notes.filter fun n => limit.isShownAt n.level

end CommandLine

end OperationGate
