import Registrar.Artifacts
import Registrar.ClassName
import Registrar.CodeUnit.Basic
import Registrar.CodeUnit.Decoding
import Registrar.CodeUnit.Emit
import Registrar.CodeUnit.Encoding
import Registrar.CodeUnit.Equality
import Registrar.CodeUnit.FormatError
import Registrar.CodeUnit.Listing
import Registrar.CodeUnit.Traversal
import Registrar.CommandLine.Arguments
import Registrar.CommandLine.Basic
import Registrar.CommandLine.Invocation
import Registrar.Declarations.Basic
import Registrar.Declarations.Format
import Registrar.Declarations.Validity
import Registrar.Evaluation.Basic
import Registrar.Evaluation.Host
import Registrar.Evaluation.Value
import Registrar.Glob.Pattern
import Registrar.Glob.Search
import Registrar.Json.Basic
import Registrar.Json.Codec
import Registrar.Json.Fault
import Registrar.Json.Library
import Registrar.Json.Literal
import Registrar.Json.Numeral
import Registrar.Json.Printing
import Registrar.Json.Shape
import Registrar.Json.Skipping
import Registrar.Log
import Registrar.Main
import Registrar.OrderedSet
import Registrar.Plan.Basic
import Registrar.Plan.ClassTable
import Registrar.Plan.Format
import Registrar.Plan.Record
import Registrar.Platform
import Registrar.Project.Basic
import Registrar.Project.Config
import Registrar.Project.Error
import Registrar.Project.Manifest
import Registrar.Project.Output
import Registrar.Recording.Argument
import Registrar.Recording.Catalogue
import Registrar.Recording.Event
import Registrar.Recording.Host
import Registrar.Storage.Fault
import Registrar.Storage.FileSystem
import Registrar.Storage.FileTree
import Registrar.Storage.Path
import Registrar.Synthesis.Assembly
import Registrar.Synthesis.Basic
import Registrar.Synthesis.ClassWorker
import Registrar.Synthesis.EntryPoint
import Registrar.Synthesis.Error
import Registrar.Synthesis.Features
import Registrar.Synthesis.JniWorker
import Registrar.Synthesis.Options
import Registrar.Synthesis.Region
import Registrar.Text.CharRange
import Registrar.Text.Extender
import Registrar.Text.Letter
import Registrar.Text.Numeral
import Registrar.Text.Page
import Registrar.Text.Pattern
import Registrar.Text.Quoted
import Registrar.Text.Unprintable
import Registrar.Version
import Registrar.Proofs.Assembly.Calls
import Registrar.Proofs.Assembly.Claiming
import Registrar.Proofs.Assembly.Composition
import Registrar.Proofs.Assembly.Generation
import Registrar.Proofs.Assembly.Numbering
import Registrar.Proofs.Assembly.Table
import Registrar.Proofs.Assembly.Unit
import Registrar.Proofs.Assembly.Wiring
import Registrar.Proofs.Checking.Matching
import Registrar.Proofs.Checking.Names
import Registrar.Proofs.Checking.Requirements
import Registrar.Proofs.Distinct
import Registrar.Proofs.Encoding.Grammar
import Registrar.Proofs.Encoding.Layout
import Registrar.Proofs.Encoding.Reading
import Registrar.Proofs.Encoding.Recognition
import Registrar.Proofs.Encoding.RoundTrip
import Registrar.Proofs.Encoding.Shortest
import Registrar.Proofs.Encoding.Truncation
import Registrar.Proofs.Encoding.Writing
import Registrar.Proofs.Json.Document
import Registrar.Proofs.Json.Editing
import Registrar.Proofs.Json.Manifests
import Registrar.Proofs.Json.Meaning
import Registrar.Proofs.Json.Reading
import Registrar.Proofs.Json.Skipping
import Registrar.Proofs.Json.Tokens
import Registrar.Proofs.Listing.Blocks
import Registrar.Proofs.Listing.Cutting
import Registrar.Proofs.Listing.Fingerprint
import Registrar.Proofs.Listing.Generated
import Registrar.Proofs.Listing.Lines
import Registrar.Proofs.Listing.Names
import Registrar.Proofs.Listing.Quoting
import Registrar.Proofs.Listing.Rendering
import Registrar.Proofs.Nesting
import Registrar.Proofs.Parts.Access
import Registrar.Proofs.Parts.Common
import Registrar.Proofs.Parts.EntryPoint
import Registrar.Proofs.Parts.Initialization
import Registrar.Proofs.Parts.Members
import Registrar.Proofs.Parts.Resources
import Registrar.Proofs.Parts.Serialization
import Registrar.Proofs.Parts.Worker
import Registrar.Proofs.Planning.Accumulation
import Registrar.Proofs.Planning.Additions
import Registrar.Proofs.Planning.Joining
import Registrar.Proofs.Planning.Rearrangement
import Registrar.Proofs.Planning.Union
import Registrar.Proofs.Recording.Answering
import Registrar.Proofs.Recording.Following
import Registrar.Proofs.Recording.History
import Registrar.Proofs.Recording.Isolation
import Registrar.Proofs.Recording.Order
import Registrar.Proofs.Recording.Registries
import Registrar.Proofs.Recording.Requests
import Registrar.Proofs.Recording.Response
import Registrar.Proofs.Recording.Run
import Registrar.Proofs.Recording.Scene
import Registrar.Proofs.Recording.Script
import Registrar.Proofs.Recording.Sections
import Registrar.Proofs.Recording.Telling
import Registrar.Proofs.Recording.Walk
import Registrar.Proofs.Running.Action
import Registrar.Proofs.Running.Composition
import Registrar.Proofs.Running.Depth
import Registrar.Proofs.Running.Embedding
import Registrar.Proofs.Running.Emission
import Registrar.Proofs.Running.Performance
import Registrar.Proofs.Running.Safety
import Registrar.Proofs.Running.Site
import Registrar.Proofs.Running.Unit
import Registrar.Proofs.Storage.Confinement
import Registrar.Proofs.Storage.Storing
import Registrar.Proofs.Tracing.Arrival
import Registrar.Proofs.Tracing.EntryPoint
import Registrar.Proofs.Tracing.Inquiry
import Registrar.Proofs.Tracing.Slots
import Registrar.Proofs.Tracing.Trace
import Registrar.Proofs.Tracing.Worker
