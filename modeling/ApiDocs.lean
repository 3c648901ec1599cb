import ApiDocs.Annotations.General
import ApiDocs.Annotations.Handler
import ApiDocs.Annotations.Tag
import ApiDocs.CommandLine.Arguments
import ApiDocs.CommandLine.Command
import ApiDocs.Error
import ApiDocs.Files.Access
import ApiDocs.Files.GoFiles
import ApiDocs.Files.Tree
import ApiDocs.Files.Writing
import ApiDocs.GoSource.Declarations
import ApiDocs.GoSource.Fields
import ApiDocs.GoSource.Heads
import ApiDocs.GoSource.Reading
import ApiDocs.GroupKey
import ApiDocs.Grouping.Gathering
import ApiDocs.Grouping.Operations
import ApiDocs.Grouping.Reconciliation
import ApiDocs.Grouping.RouteGroups
import ApiDocs.HttpMethod
import ApiDocs.Json.Decoding
import ApiDocs.Json.Printer
import ApiDocs.Json.Reader
import ApiDocs.Json.Value
import ApiDocs.Main
import ApiDocs.Markup.Dialect
import ApiDocs.Markup.Document
import ApiDocs.Notice
import ApiDocs.Output.Artifacts
import ApiDocs.Output.GoModule
import ApiDocs.OutputFormat
import ApiDocs.Path
import ApiDocs.Pattern.CaseFolding
import ApiDocs.Pattern.Categories
import ApiDocs.Pattern.CharSet
import ApiDocs.Pattern.Filter
import ApiDocs.Pattern.Matching
import ApiDocs.Pattern.Properties
import ApiDocs.Pattern.PropertyTable
import ApiDocs.Pattern.Reader
import ApiDocs.Pattern.Scripts
import ApiDocs.Pattern.Syntax
import ApiDocs.Proofs.Annotations.References
import ApiDocs.Proofs.Annotations.WrittenHandlers
import ApiDocs.Proofs.Annotations.WrittenLines
import ApiDocs.Proofs.Files.Below
import ApiDocs.Proofs.Files.Building
import ApiDocs.Proofs.Files.Effects
import ApiDocs.Proofs.Files.Places
import ApiDocs.Proofs.GoSource.BlockDepth
import ApiDocs.Proofs.GoSource.Braces
import ApiDocs.Proofs.GoSource.Heads
import ApiDocs.Proofs.GoSource.Layout
import ApiDocs.Proofs.GoSource.LayoutReading
import ApiDocs.Proofs.GoSource.OneLineStructs
import ApiDocs.Proofs.GoSource.Reading
import ApiDocs.Proofs.GroupKey
import ApiDocs.Proofs.Grouping.Additions
import ApiDocs.Proofs.Grouping.Contributions
import ApiDocs.Proofs.Grouping.Reconciliation
import ApiDocs.Proofs.Grouping.ReferencedOnce
import ApiDocs.Proofs.Grouping.References
import ApiDocs.Proofs.Grouping.Routes
import ApiDocs.Proofs.Json.Faithful
import ApiDocs.Proofs.Json.Text
import ApiDocs.Proofs.Markup.Anchors
import ApiDocs.Proofs.Markup.Insertion
import ApiDocs.Proofs.Output.Emission
import ApiDocs.Proofs.Output.GoLiteral
import ApiDocs.Proofs.Output.GoModule
import ApiDocs.Proofs.Output.JsonTree
import ApiDocs.Proofs.Path
import ApiDocs.Proofs.SortedMap
import ApiDocs.Proofs.Survey
import ApiDocs.Proofs.Swagger.GroupsJson
import ApiDocs.Proofs.Swagger.JsonForm
import ApiDocs.Proofs.Swagger.Lossless
import ApiDocs.Proofs.Text.Lines
import ApiDocs.Proofs.Text.Runs
import ApiDocs.Proofs.Types.Reachability
import ApiDocs.Proofs.Types.Visits
import ApiDocs.RouteFilter
import ApiDocs.RoutePath
import ApiDocs.Run
import ApiDocs.Settings
import ApiDocs.SortedMap
import ApiDocs.Survey
import ApiDocs.Swagger.Declaration
import ApiDocs.Swagger.JsonForm
import ApiDocs.Swagger.Listing
import ApiDocs.Swagger.Model
import ApiDocs.Swagger.Operation
import ApiDocs.Text.Blank
import ApiDocs.Text.Letters
import ApiDocs.Text.Pieces
import ApiDocs.Text.Runs
import ApiDocs.Text.Word
import ApiDocs.Text.WordRanges
import ApiDocs.Types.Collection
import ApiDocs.Types.Overrides
import ApiDocs.Types.Resolution
import ApiDocs.Types.Scope
import ApiDocs.Types.SwaggerType
import ApiDocs.Proofs.Markup.Tables
import ApiDocs.Proofs.Output.GroupFiles
import ApiDocs.Proofs.Files.Reading
import ApiDocs.Proofs.Files.Walk
import ApiDocs.Proofs.Survey.PackageSources
import ApiDocs.Proofs.Survey.Requests
import ApiDocs.Proofs.Annotations.BracketedMethods
import ApiDocs.Proofs.Annotations.ResponseCodes
import ApiDocs.Proofs.Survey.GeneralAnnotations
import ApiDocs.Proofs.Survey.MainFiles
import ApiDocs.Proofs.Files.Components
import ApiDocs.Proofs.Survey.DefaultMainFile
import ApiDocs.Proofs.Files.Scanning
import ApiDocs.Proofs.Types.Meaning
import ApiDocs.Proofs.Grouping.ArrayElements
import ApiDocs.Proofs.Types.RequiredNames
import ApiDocs.Proofs.GoSource.FieldLines
import ApiDocs.Proofs.GoSource.FieldTags
import ApiDocs.Proofs.Types.Reports
import ApiDocs.Proofs.RoutePath
import ApiDocs.Proofs.GoSource.FunctionBodies
import ApiDocs.Proofs.GoSource.DocComments
import ApiDocs.Proofs.Json.Characters
import ApiDocs.Proofs.Output.GoLegality
import ApiDocs.Proofs.Text.Ascii
import ApiDocs.Proofs.Output.GoProgram
import ApiDocs.Proofs.Output.RouteTranslator
