import OperationGate.Operation.Kind
import OperationGate.Url.Fault

/-!
# Failures

Everything that can go wrong, by its cause. Each cause has one wording. Failures of a build are
those of its configuration and its documents; the others belong to one call.
-/

namespace OperationGate

/-- What is wrong with a setting or with a use of one. -/
inductive ConfigIssue where
  | endpointMissing
  | apiRouteWithoutSlash (route : String)
  | noDocuments
  | invalidSchemaUrl (url : String) (fault : UrlFault)
  | schemaUnreadable (path reason : String)
  | globUnclosed (pattern : String)
  | artifactWithoutSource (path : String)
  | invalidBaseUrl (text : String)
  | invalidBaseScheme (scheme : String)
  | cacheWithoutRoom
  | subscriptionCalled (name : String)
  | other (message : String)
  deriving DecidableEq, Repr, Inhabited

/-- The wording of an issue. -/
def ConfigIssue.message : ConfigIssue → String
  | .endpointMissing => "graphql endpoint is required"
  | .apiRouteWithoutSlash r => "server api prefix must start with '/': " ++ r
  | .noDocuments => "no graphql documents configured"
  | .invalidSchemaUrl url fault => "invalid schema url " ++ url ++ ": " ++ fault.message
  | .schemaUnreadable path reason => "failed to read schema " ++ path ++ ": " ++ reason
  | .globUnclosed pattern => "unclosed brace in glob: " ++ pattern
  | .artifactWithoutSource path => "template " ++ path ++ " has no source"
  | .invalidBaseUrl text => "invalid base url: " ++ text
  | .invalidBaseScheme scheme =>
    "invalid url scheme: " ++ scheme ++ ". must be http or https"
  | .cacheWithoutRoom => "cache max size must be at least 1"
  | .subscriptionCalled name =>
    "subscription \"" ++ name ++ "\" cannot be executed over http"
  | .other message => message

/-- What is wrong with a document, seen against the schema. -/
inductive DocumentIssue where
  | rootMissing (kind : OperationKind) (operation : String)
  | variableRepeated (name operation : String)
  | variableNotInput (name type : String)
  | variableTypeUnknown (name type : String)
  | fragmentNotComposite (fragment type : String)
  | fragmentTypeUnknown (fragment type : String)
  | typenameWithSelections
  | fieldUnknown (field parent : String)
  | fieldTypeUnknown (parent field type : String)
  | leafWithSelections (field type : String)
  | compositeWithoutSelections (field type : String)
  | fragmentUnknown (fragment : String)
  | fragmentNeverApplies (fragment condition parent : String)
  | inlineTypeUnknown (type : String)
  | inlineNeverApplies (condition parent : String)
  | responseKeyShared (key first second : String)
  | fragmentCycle (fragment : String)
  deriving DecidableEq, Repr, Inhabited

/-- The wording of an issue. -/
def DocumentIssue.message : DocumentIssue → String
  | .rootMissing kind op =>
    kind.word ++ " \"" ++ op ++ "\" requires a " ++ kind.word
      ++ " root type, but the schema has none"
  | .variableRepeated v op => "variable $" ++ v ++ " is declared twice in \"" ++ op ++ "\""
  | .variableNotInput v type => "variable $" ++ v ++ " has non-input type \"" ++ type ++ "\""
  | .variableTypeUnknown v type => "variable $" ++ v ++ " has unknown type \"" ++ type ++ "\""
  | .fragmentNotComposite f type =>
    "fragment \"" ++ f ++ "\" has non-composite type condition \"" ++ type ++ "\""
  | .fragmentTypeUnknown f type =>
    "fragment \"" ++ f ++ "\" references unknown type \"" ++ type ++ "\""
  | .typenameWithSelections => "field \"__typename\" cannot have a selection set"
  | .fieldUnknown f parent => "field \"" ++ f ++ "\" not found on type \"" ++ parent ++ "\""
  | .fieldTypeUnknown parent f type =>
    "field \"" ++ parent ++ "." ++ f ++ "\" has unknown type \"" ++ type ++ "\""
  | .leafWithSelections f type =>
    "field \"" ++ f ++ "\" of type \"" ++ type ++ "\" cannot have a selection set"
  | .compositeWithoutSelections f type =>
    "field \"" ++ f ++ "\" of type \"" ++ type ++ "\" must have a selection set"
  | .fragmentUnknown f => "unknown fragment \"" ++ f ++ "\""
  | .fragmentNeverApplies f condition parent =>
    "fragment \"" ++ f ++ "\" on \"" ++ condition ++ "\" can never apply to \"" ++ parent ++ "\""
  | .inlineTypeUnknown type => "inline fragment references unknown type \"" ++ type ++ "\""
  | .inlineNeverApplies condition parent =>
    "inline fragment on \"" ++ condition ++ "\" can never apply to \"" ++ parent ++ "\""
  | .responseKeyShared key first second =>
    "response key \"" ++ key ++ "\" selects both \"" ++ first ++ "\" and \"" ++ second ++ "\""
  | .fragmentCycle f => "fragment \"" ++ f ++ "\" spreads itself"

/-- A failure of a build or of a call. -/
inductive Failure where
  | config (issue : ConfigIssue)
  | io
  | http
  | url (fault : UrlFault)
  | json
  | parse (path : String)
  | anonymousOperation (path : String)
  | duplicateOperation (kind : OperationKind) (name first second : String)
  | typeNameCollision (kind : OperationKind) (name other typeName : String)
  | fragmentTypeNameCollision (name other typeName : String)
  | duplicateFragment (name first second : String)
  | validation (path : String) (issue : DocumentIssue)
  | server (status : Option Nat)
  deriving DecidableEq, Repr, Inhabited

namespace Failure

/-- What an answer says about a failure of the server, whatever its cause. -/
def serverMessage : String :=
  "Server Error"

/-- The wording of a failure. Failures of files, transport, data and documents are worded without
the detail of what reported them. -/
def message : Failure → String
  | .config issue => "config error: " ++ issue.message
  | .io => "io error"
  | .http => "http error"
  | .url fault => "url error: " ++ fault.message
  | .json => "json error"
  | .parse path => "failed to parse graphql document " ++ path
  | .anonymousOperation path =>
    "anonymous operation in " ++ path ++ ": every query, mutation, and subscription must be named"
  | .duplicateOperation kind name first second =>
    "duplicate " ++ kind.word ++ " \"" ++ name ++ "\" in " ++ first ++ " and " ++ second
  | .typeNameCollision kind name other typeName =>
    kind.word ++ " \"" ++ name ++ "\" and \"" ++ other ++ "\" both generate the type name "
      ++ typeName
  | .fragmentTypeNameCollision name other typeName =>
    "fragments \"" ++ name ++ "\" and \"" ++ other ++ "\" both generate the type name " ++ typeName
  | .duplicateFragment name first second =>
    "duplicate fragment \"" ++ name ++ "\" in " ++ first ++ " and " ++ second
  | .validation path issue => "validation error in " ++ path ++ ": " ++ issue.message
  | .server _ => serverMessage

/-- Tells whether a failure is one of a build: of its configuration or its documents. -/
def isBuildFailure : Failure → Bool
  | .io | .http | .url _ | .json | .server _ => false
  | _ => true

end Failure

end OperationGate
