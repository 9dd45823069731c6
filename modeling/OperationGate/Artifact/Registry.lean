import OperationGate.Artifact.Basic
import OperationGate.Gateway.Documents
import OperationGate.Text.Shown

/-!
# The artifacts of a build

The ten files that a build emits: declarations and enum objects of the operations, tables of their
types, answers, documents, sources and endpoints, the options of clients and servers, and helpers.
-/

namespace OperationGate.Artifact

/-- The line that opens every module. -/
def header : String :=
  "// generated by graphql-middleware, do not edit\n"

/-- A module of those blocks that are not empty. -/
def moduleOf (blocks : List String) : String :=
  match blocks.filter (· ≠ "") with
  | [] => header ++ "\nexport \x7b\x7d;\n"
  | blocks => header ++ String.join (blocks.map ("\n" ++ ·))

/-- Where the declarations of operations go. -/
def declarationsPath : String := "graphql-operations/index.d.ts"

/-- The import of declared types into the artifact `source`. -/
def typeImport (l : Layout) (source : String) (names : List String) : String :=
  match sortedNames names with
  | [] => ""
  | names =>
    "\nimport type \x7b\n" ++ String.join (names.map fun n => "  " ++ n ++ ",\n") ++ "\x7d from "
      ++ Text.Literal.quote (l.importOf source (l.place declarationsPath)) ++ ";\n"

/-- The declarations of a library, with those of its enum objects. -/
def declarations (lib : TypeLibrary) : String :=
  moduleOf
    [lib.writeDeclarations [.enum, .input, .fragment, .operation, .parameters],
      lib.writeEnumDeclarations]

/-- The enum objects of a library. -/
def enumObjects (lib : TypeLibrary) : String :=
  moduleOf [lib.writeEnumDefinitions]

/-- Where the table of operation types goes. -/
def operationTypesPath : String := "graphql-middleware/operation-types.d.ts"

/-- The row of an operation: its variables, whether they must be given, and its result. -/
def operationTypeRow (op : Operation) : String :=
  "  " ++ op.name ++ ": [" ++ op.variablesTypeName ++ ", " ++ Text.Shown.flag op.needsVariables
    ++ ", " ++ op.typeName ++ "];\n"

/-- The table of the operations of one kind. -/
def operationTypeTable (lib : TypeLibrary) (kind : OperationKind) : String :=
  match lib.operationsOf kind with
  | [] => "\nexport type " ++ kind.typeSuffix ++ " = \x7b\x7d;\n"
  | ops =>
    "\nexport type " ++ kind.typeSuffix ++ " = \x7b\n" ++ String.join (ops.map operationTypeRow)
      ++ "\x7d;\n"

/-- The tables of operation types. -/
def operationTypes (lib : TypeLibrary) (l : Layout) : String :=
  header
    ++ typeImport l operationTypesPath
      (lib.operations.flatMap fun op => [op.typeName, op.variablesTypeName])
    ++ String.join (OperationKind.all.map (operationTypeTable lib))

/-- Where the types of answers go. -/
def responsePath : String := "graphql-middleware/response.d.ts"

/-- The types of answers, whatever the operation. -/
def responseShapes : String :=
  "\nexport type GraphqlResponseError = \x7b\n"
    ++ "  message: string;\n"
    ++ "  locations?: Array<\x7b line: number; column: number \x7d>;\n"
    ++ "  path?: Array<string | number>;\n"
    ++ "  extensions?: Record<string, unknown>;\n"
    ++ "\x7d;\n"
    ++ "\nexport type GraphqlResponse<T> = \x7b\n"
    ++ "  data: T;\n"
    ++ "  errors?: Array<GraphqlResponseError>;\n"
    ++ "  [key: string]: unknown;\n"
    ++ "\x7d;\n"

/-- The types of answers. -/
def responseTypes (lib : TypeLibrary) (l : Layout) : String :=
  let names := lib.operations.map (·.typeName)
  header ++ typeImport l responsePath names ++ responseShapes
    ++ "\nexport type OperationResponse = "
    ++ (if names.isEmpty then "never" else Text.joinWith " | " names) ++ ";\n"

/-- The documents of all operations, as data. -/
def documents (lib : TypeLibrary) : String :=
  (lib.operations.foldl (fun d op => d.insert op.kind op.name op.document)
    StoredDocuments.empty).write ++ "\n"

/-- The row of an operation in the table of sources. -/
def sourceRow (op : Operation) : String :=
  "  " ++ Text.Literal.quote (op.kind.word ++ ":" ++ op.name) ++ ": " ++ Text.Literal.quote op.file
    ++ ",\n"

/-- The table of the files that operations come from. -/
def sources (lib : TypeLibrary) : String :=
  match lib.operations with
  | [] => header ++ "\nexport const operationSources = \x7b\x7d;\n"
  | ops =>
    header ++ "\nexport const operationSources = \x7b\n" ++ String.join (ops.map sourceRow)
      ++ "\x7d;\n"

/-- The row of an operation in the table of endpoints. -/
def endpointRow (l : Layout) (op : Operation) : String :=
  "    " ++ op.name ++ ": " ++ Text.Literal.quote (endpointPath l.route op.kind op.name) ++ ",\n"

/-- The endpoints of the operations of one kind. -/
def endpointTable (lib : TypeLibrary) (l : Layout) (kind : OperationKind) : String :=
  match lib.operationsOf kind with
  | [] => "  " ++ kind.word ++ ": \x7b\x7d,\n"
  | ops =>
    "  " ++ kind.word ++ ": \x7b\n" ++ String.join (ops.map (endpointRow l)) ++ "  \x7d,\n"

/-- The table of endpoints. -/
def endpoints (lib : TypeLibrary) (l : Layout) : String :=
  header ++ "\nexport const endpoints = \x7b\n"
    ++ String.join (OperationKind.all.map (endpointTable lib l)) ++ "\x7d;\n"

/-- A module with the options that a module of the project exports, or with none. -/
def options (l : Layout) (source name : String) (target : Option Path) : String :=
  match target with
  | some target =>
    header ++ "\nimport " ++ name ++ " from " ++ Text.Literal.quote (l.importOf source target)
      ++ ";\n\nexport \x7b " ++ name ++ " \x7d;\n"
  | none => header ++ "\nexport const " ++ name ++ " = \x7b\x7d;\n"

/-- Where the options of clients go. -/
def clientOptionsPath : String := "graphql-middleware/client-options.js"

/-- Where the options of servers go. -/
def serverOptionsPath : String := "graphql-middleware/server-options.js"

/-- The helpers of the emitted modules. -/
def helpers (l : Layout) : String :=
  header ++ "\nexport const serverApiPrefix = " ++ Text.Literal.quote (Text.dropEndChar '/' l.route)
    ++ ";\n\nexport function getEndpoint(operation, operationName) \x7b\n"
    ++ "  return `$\x7bserverApiPrefix\x7d/$\x7boperation\x7d/$\x7boperationName\x7d`;\n\x7d\n"

/-- An artifact made from operations. -/
def ofLibrary (path : String) (text : TypeLibrary → Layout → String) : Artifact :=
  ⟨path, none, some fun lib l => .ok (text lib l)⟩

/-- An artifact made from the layout alone. -/
def ofLayout (path : String) (text : Layout → String) : Artifact :=
  ⟨path, some fun l => .ok (text l), none⟩

/-- Everything that a build emits, in the order in which it is written. -/
def registry : List Artifact :=
  [ofLibrary declarationsPath fun lib _ => declarations lib,
    ofLibrary "graphql-operations/index.js" fun lib _ => enumObjects lib,
    ofLibrary operationTypesPath operationTypes,
    ofLibrary responsePath responseTypes,
    ofLibrary "graphql-middleware/documents.json" fun lib _ => documents lib,
    ofLibrary "graphql-middleware/sources.js" fun lib _ => sources lib,
    ofLibrary "graphql-middleware/endpoints.js" endpoints,
    ofLayout clientOptionsPath fun l => options l clientOptionsPath "clientOptions" l.clientOptions,
    ofLayout serverOptionsPath fun l => options l serverOptionsPath "serverOptions" l.serverOptions,
    ofLayout "graphql-middleware/helpers.js" helpers]

end OperationGate.Artifact
