import OperationGate.Artifact.Basic
import OperationGate.Artifact.Emission
import OperationGate.Artifact.Layout
import OperationGate.Artifact.Registry
import OperationGate.Catalogue.Basic
import OperationGate.Catalogue.Build
import OperationGate.Catalogue.Closure
import OperationGate.Catalogue.Cycles
import OperationGate.Catalogue.Definitions
import OperationGate.Catalogue.Keys
import OperationGate.Catalogue.Validity
import OperationGate.Client.Activity
import OperationGate.Client.Basic
import OperationGate.Client.Cache
import OperationGate.Client.Call
import OperationGate.Client.Config
import OperationGate.CommandLine.Arguments
import OperationGate.CommandLine.Basic
import OperationGate.Declaration.Basic
import OperationGate.Declaration.Branch
import OperationGate.Declaration.Shape
import OperationGate.Declaration.TypeExpr
import OperationGate.Document.Basic
import OperationGate.Document.Grammar
import OperationGate.Document.Parser
import OperationGate.Document.Printer
import OperationGate.Document.Token
import OperationGate.Failure
import OperationGate.Files.Forest
import OperationGate.Files.Tree
import OperationGate.Files.Workspace
import OperationGate.Gateway.Basic
import OperationGate.Gateway.Documents
import OperationGate.Gateway.Options
import OperationGate.Gateway.Request
import OperationGate.Glob
import OperationGate.Http.Headers
import OperationGate.Http.Message
import OperationGate.Json.Basic
import OperationGate.Json.Reader
import OperationGate.Json.Shape
import OperationGate.Json.Source
import OperationGate.Json.Writer
import OperationGate.Main
import OperationGate.Number.Binary64
import OperationGate.Number.Layout
import OperationGate.Number.Shortest
import OperationGate.Operation.Kind
import OperationGate.Path
import OperationGate.Project.Build
import OperationGate.Project.Config
import OperationGate.Project.Sources
import OperationGate.Proofs.Artifact.Agreement
import OperationGate.Proofs.Artifact.Emission
import OperationGate.Proofs.Artifact.Imports
import OperationGate.Proofs.Artifact.Lines
import OperationGate.Proofs.Artifact.Literals
import OperationGate.Proofs.Artifact.Tables
import OperationGate.Proofs.Catalogue.Acceptance
import OperationGate.Proofs.Catalogue.Agreement
import OperationGate.Proofs.Catalogue.Closure
import OperationGate.Proofs.Catalogue.CycleSearch
import OperationGate.Proofs.Catalogue.Cycles
import OperationGate.Proofs.Catalogue.Dependencies
import OperationGate.Proofs.Catalogue.Fit
import OperationGate.Proofs.Catalogue.Keys
import OperationGate.Proofs.Catalogue.Reachable
import OperationGate.Proofs.Catalogue.Reordering
import OperationGate.Proofs.Catalogue.Standalone
import OperationGate.Proofs.Client.Cache
import OperationGate.Proofs.Client.Call
import OperationGate.Proofs.Client.Endpoint
import OperationGate.Proofs.Client.Flight
import OperationGate.Proofs.Client.History
import OperationGate.Proofs.Client.Key
import OperationGate.Proofs.Client.Run
import OperationGate.Proofs.Client.Transparency
import OperationGate.Proofs.CommandLine.Groups
import OperationGate.Proofs.Declaration.Branches
import OperationGate.Proofs.Declaration.Closed
import OperationGate.Proofs.Declaration.Identifiers
import OperationGate.Proofs.Declaration.Names
import OperationGate.Proofs.Declaration.Nullability
import OperationGate.Proofs.Declaration.Printed
import OperationGate.Proofs.Declaration.Printing
import OperationGate.Proofs.Declaration.Reading
import OperationGate.Proofs.Document.Keys
import OperationGate.Proofs.Document.Names
import OperationGate.Proofs.Files.Growth
import OperationGate.Proofs.Files.Listing
import OperationGate.Proofs.Files.Places
import OperationGate.Proofs.Files.Writing
import OperationGate.Proofs.Gateway.Arrival
import OperationGate.Proofs.Gateway.Documents
import OperationGate.Proofs.Gateway.Exchange
import OperationGate.Proofs.Gateway.Extras
import OperationGate.Proofs.Gateway.Headers
import OperationGate.Proofs.Gateway.Routing
import OperationGate.Proofs.Gateway.Trace
import OperationGate.Proofs.Glob
import OperationGate.Proofs.Json.Distinct
import OperationGate.Proofs.Json.LaidOut
import OperationGate.Proofs.Json.MemberOrder
import OperationGate.Proofs.Json.Numbers
import OperationGate.Proofs.Json.Reading
import OperationGate.Proofs.Number.Digits
import OperationGate.Proofs.Number.Shortest
import OperationGate.Proofs.Project.Build
import OperationGate.Proofs.Project.Collected
import OperationGate.Proofs.Project.Plan
import OperationGate.Proofs.Project.Rebuild
import OperationGate.Proofs.Project.Sources
import OperationGate.Proofs.Reach
import OperationGate.Proofs.Response.Decoding
import OperationGate.Proofs.Schema.Extensions
import OperationGate.Proofs.Schema.Named
import OperationGate.Proofs.Schema.Subtype
import OperationGate.Proofs.Selection.Collected
import OperationGate.Proofs.Selection.Extent
import OperationGate.Proofs.Selection.Levels
import OperationGate.Proofs.Selection.Once
import OperationGate.Proofs.Table
import OperationGate.Proofs.Text.Lines
import OperationGate.Proofs.Text.Parts
import OperationGate.Proofs.Text.Script
import OperationGate.Proofs.Text.Utf8
import OperationGate.Proofs.Url.Host
import OperationGate.Proofs.Url.Origin
import OperationGate.Proofs.Url.Query
import OperationGate.Reach
import OperationGate.Response
import OperationGate.Schema.Basic
import OperationGate.Schema.Definition
import OperationGate.Schema.Parser
import OperationGate.Schema.Report
import OperationGate.Schema.TypeRef
import OperationGate.Selection
import OperationGate.Table
import OperationGate.Text.Blank
import OperationGate.Text.Casing
import OperationGate.Text.Composite
import OperationGate.Text.Cut
import OperationGate.Text.Direction
import OperationGate.Text.Duration
import OperationGate.Text.Joining
import OperationGate.Text.Letter
import OperationGate.Text.LetterCase
import OperationGate.Text.Literal
import OperationGate.Text.Mark
import OperationGate.Text.Normal
import OperationGate.Text.Place
import OperationGate.Text.Rows
import OperationGate.Text.Shown
import OperationGate.Text.Utf8
import OperationGate.Text.Visible
import OperationGate.Url.Basic
import OperationGate.Url.Domain
import OperationGate.Url.Domain.Image
import OperationGate.Url.Domain.Label
import OperationGate.Url.Fault
import OperationGate.Url.Form
import OperationGate.Url.Host
import OperationGate.Url.Parser
import OperationGate.Url.Percent
import OperationGate.Url.Punycode
