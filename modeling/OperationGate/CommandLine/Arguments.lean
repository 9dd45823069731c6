import OperationGate.Path
import OperationGate.Text.Blank
import OperationGate.Text.Cut

/-!
# Arguments

The arguments of the command line: flags, most of which take a value. A flag whose value counts once
takes its last value; the others collect theirs in order.
-/

namespace OperationGate

/-- A flag that takes a value. -/
inductive ValueFlag where
  | endpoint
  | root
  | out
  | route
  | schema
  | schemaUrl
  | header
  | documents
  | scalar
  | clientOptions
  | serverOptions
  deriving DecidableEq, Repr, Inhabited

/-- How a flag with a value is written. -/
def ValueFlag.text : ValueFlag → String
  | .endpoint => "--endpoint"
  | .root => "--root"
  | .out => "--out"
  | .route => "--prefix"
  | .schema => "--schema"
  | .schemaUrl => "--schema-url"
  | .header => "--header"
  | .documents => "--documents"
  | .scalar => "--scalar"
  | .clientOptions => "--client-options"
  | .serverOptions => "--server-options"

/-- All flags with values. -/
def ValueFlag.all : List ValueFlag :=
  [.endpoint, .root, .out, .route, .schema, .schemaUrl, .header, .documents,
    .scalar, .clientOptions, .serverOptions]

/-- A flag. -/
inductive Flag where
  | valued (flag : ValueFlag)
  | verbose
  | help
  deriving DecidableEq, Repr, Inhabited

/-- The flag that an argument writes. -/
def Flag.ofText? (arg : String) : Option Flag :=
  if arg = "--verbose" || arg = "-v" then some .verbose
  else if arg = "--help" || arg = "-h" then some .help
  else (ValueFlag.all.find? (·.text = arg)).map .valued

/-- The arguments other than the endpoint. -/
structure CommandOptions where
  root : Path := ⟨"."⟩
  buildDir : Option Path := none
  route : Option String := none
  schemaPath : Option Path := none
  schemaUrl : Option String := none
  /-- Headers for the download of the schema, as pairs of name and value. -/
  headers : List (String × String) := []
  patterns : List String := []
  /-- Types that stand for scalars, as pairs of name and type. -/
  scalars : List (String × String) := []
  clientOptions : Option Path := none
  serverOptions : Option Path := none
  verbose : Bool := false
  deriving DecidableEq, Repr, Inhabited

/-- The arguments of the command line. -/
structure Arguments extends CommandOptions where
  endpoint : String
  deriving DecidableEq, Repr, Inhabited

/-- What is wrong with the arguments. -/
inductive ArgumentIssue where
  | unknown (arg : String)
  | valueMissing (flag : ValueFlag)
  | notAPair (flag : ValueFlag) (separator : Char) (value : String)
  | endpointMissing
  deriving DecidableEq, Repr, Inhabited

/-- The wording of an issue. -/
def ArgumentIssue.message : ArgumentIssue → String
  | .unknown arg => "unknown argument: " ++ arg
  | .valueMissing flag => flag.text ++ " requires a value"
  | .notAPair flag separator value =>
    flag.text ++ " expects <name>" ++ separator.toString ++ "<value>, got: " ++ value
  | .endpointMissing => "--endpoint is required"

/-- What the arguments ask for. -/
inductive Command where
  | help
  | build (args : Arguments)
  | refused (issue : ArgumentIssue)
  deriving DecidableEq, Repr, Inhabited

namespace Command

/-- The name and the value on both sides of the first separator, without blanks around them. -/
def pairOf? (separator : Char) (value : String) : Option (String × String) :=
  match Text.cutAt? separator value.toList with
  | none => none
  | some (key, rest) =>
    if (Text.trim key).isEmpty then none
    else some (String.ofList (Text.trim key), String.ofList (Text.trim rest))

/-- What is known before all arguments are read: the endpoint, if it was given, and the others. -/
abbrev Draft := Option String × CommandOptions

/-- Takes up the value of a flag. -/
def take (d : Draft) (flag : ValueFlag) (value : String) : Except ArgumentIssue Draft :=
  let (endpoint, o) := d
  match flag with
  | .endpoint => .ok (some value, o)
  | .root => .ok (endpoint, { o with root := ⟨value⟩ })
  | .out => .ok (endpoint, { o with buildDir := some ⟨value⟩ })
  | .route => .ok (endpoint, { o with route := some value })
  | .schema => .ok (endpoint, { o with schemaPath := some ⟨value⟩ })
  | .schemaUrl => .ok (endpoint, { o with schemaUrl := some value })
  | .documents => .ok (endpoint, { o with patterns := o.patterns ++ [value] })
  | .clientOptions => .ok (endpoint, { o with clientOptions := some ⟨value⟩ })
  | .serverOptions => .ok (endpoint, { o with serverOptions := some ⟨value⟩ })
  | .header =>
    match pairOf? ':' value with
    | some p => .ok (endpoint, { o with headers := o.headers ++ [p] })
    | none => .error (.notAPair .header ':' value)
  | .scalar =>
    match pairOf? '=' value with
    | some p => .ok (endpoint, { o with scalars := o.scalars ++ [p] })
    | none => .error (.notAPair .scalar '=' value)

/-- Reads the arguments that are left. -/
def readFrom (d : Draft) : List String → Command
  | [] =>
    match d.1 with
    | some endpoint => .build { d.2 with endpoint }
    | none => .refused .endpointMissing
  | arg :: rest =>
    match Flag.ofText? arg with
    | none => .refused (.unknown arg)
    | some .help => .help
    | some .verbose => readFrom (d.1, { d.2 with verbose := true }) rest
    | some (.valued flag) =>
      match rest with
      | [] => .refused (.valueMissing flag)
      | value :: rest =>
        match take d flag value with
        | .ok d => readFrom d rest
        | .error issue => .refused issue

/-- What arguments ask for. -/
def read (args : List String) : Command :=
  readFrom (none, {}) args

end Command

end OperationGate
