import OperationGate.Http.Headers
import OperationGate.Declaration.Shape
import OperationGate.Path

/-!
# Project configuration

The settings of a build: where the project is, where its schema and documents come from, where the
artifacts go, and what they are told about the endpoints.
-/

namespace OperationGate

/-- The route of the endpoints unless another is configured. -/
def defaultRoute : String :=
  "/api/graphql_middleware"

/-- Where a schema is loaded from. -/
inductive SchemaSource where
  | file (path : Path)
  | url (address : String) (headers : Headers)
  deriving Inhabited

/-- The settings of a build. -/
structure ProjectConfig where
  /-- The service that operations are sent to. -/
  endpoint : String
  /-- The route of the emitted endpoints. -/
  route : String
  /-- The directory that patterns and relative paths start from. -/
  root : Path
  /-- The directory that artifacts are written to. -/
  buildDir : Path
  /-- Patterns of the documents. -/
  patterns : List String
  /-- Documents given as texts. -/
  inlineDocuments : List String
  /-- The file with the schema; a downloaded schema is kept there. -/
  schemaPath : Path
  /-- The address that a schema is downloaded from. -/
  schemaUrl : Option String
  schemaHeaders : Headers
  /-- A module of the project with options for clients. -/
  clientOptions : Option Path
  /-- A module of the project with options for servers. -/
  serverOptions : Option Path
  /-- Types that stand for scalars. -/
  scalars : Shape.Scalars
  deriving Inhabited

namespace ProjectConfig

/-- The settings for a service and a project directory, with the usual places for all else. -/
def new (endpoint : String) (root : Path) : ProjectConfig where
  endpoint := endpoint
  route := defaultRoute
  root := root
  buildDir := root.join ⟨".graphql-middleware"⟩
  patterns := ["**/*.graphql", "**/*.gql"]
  inlineDocuments := []
  schemaPath := root.join ⟨"schema.graphql"⟩
  schemaUrl := none
  schemaHeaders := .empty
  clientOptions := none
  serverOptions := none
  scalars := .empty

/-- Configures the route of the endpoints. -/
def withRoute (c : ProjectConfig) (route : String) : ProjectConfig :=
  { c with route := route }

/-- Configures the directory for artifacts; a relative one is below the project. -/
def withBuildDir (c : ProjectConfig) (dir : Path) : ProjectConfig :=
  { c with buildDir := c.root.join dir }

/-- Configures the patterns of documents in place of the usual ones. -/
def withPatterns (c : ProjectConfig) (patterns : List String) : ProjectConfig :=
  { c with patterns := patterns }

/-- Adds a document given as text. -/
def withInlineDocument (c : ProjectConfig) (source : String) : ProjectConfig :=
  { c with inlineDocuments := c.inlineDocuments ++ [source] }

/-- Configures the file of the schema; a relative one is below the project. -/
def withSchemaPath (c : ProjectConfig) (path : Path) : ProjectConfig :=
  { c with schemaPath := c.root.join path }

/-- Configures the address that the schema is downloaded from. -/
def withSchemaUrl (c : ProjectConfig) (address : String) : ProjectConfig :=
  { c with schemaUrl := some address }

/-- Sets a header of the download. -/
def withSchemaHeader (c : ProjectConfig) (name value : String) : ProjectConfig :=
  { c with schemaHeaders := c.schemaHeaders.set name value }

/-- Configures the module with options for clients; a relative path is below the project. -/
def withClientOptions (c : ProjectConfig) (path : Path) : ProjectConfig :=
  { c with clientOptions := some (c.root.join path) }

/-- Configures the module with options for servers; a relative path is below the project. -/
def withServerOptions (c : ProjectConfig) (path : Path) : ProjectConfig :=
  { c with serverOptions := some (c.root.join path) }

/-- Configures the type that stands for a scalar. -/
def withScalar (c : ProjectConfig) (name type : String) : ProjectConfig :=
  { c with scalars := c.scalars.insert name type }

/-- Tells whether the schema is downloaded. -/
def downloadsSchema (c : ProjectConfig) : Bool :=
  c.schemaUrl.isSome

/-- Where the schema is loaded from. -/
def schemaSource (c : ProjectConfig) : SchemaSource :=
  match c.schemaUrl with
  | some address => .url address c.schemaHeaders
  | none => .file c.schemaPath

end ProjectConfig

end OperationGate
