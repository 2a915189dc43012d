import ApiSurface.Catalog.Basic
import ApiSurface.Catalog.Declaration
import ApiSurface.Catalog.DeclaredTypes
import ApiSurface.Catalog.Marker
import ApiSurface.Catalog.Problem
import ApiSurface.Command.Basic
import ApiSurface.Command.Failure
import ApiSurface.Command.Generation
import ApiSurface.Command.Host
import ApiSurface.Command.SynthesizedCatalog
import ApiSurface.Command.Usage
import ApiSurface.Command.Writing
import ApiSurface.Document.Datum
import ApiSurface.Document.Json
import ApiSurface.Document.JsonReader
import ApiSurface.Document.PlainScalar
import ApiSurface.Document.Reading
import ApiSurface.Document.TomlReader
import ApiSurface.Document.Yaml.Cursor
import ApiSurface.Document.Yaml.Scalar
import ApiSurface.Document.Yaml.Token
import ApiSurface.Document.YamlReader
import ApiSurface.Document.YamlWriter
import ApiSurface.Files.FileTree
import ApiSurface.Files.Path
import ApiSurface.Lint.Issue
import ApiSurface.Lint.Report
import ApiSurface.Logging.Configuration
import ApiSurface.Logging.Event
import ApiSurface.Logging.Filter
import ApiSurface.Logging.ResourceEvents
import ApiSurface.Logging.ValuePattern
import ApiSurface.Main
import ApiSurface.Naming.Casing
import ApiSurface.Naming.EntityName
import ApiSurface.Naming.Inflection
import ApiSurface.Naming.Template
import ApiSurface.Naming.TypeId
import ApiSurface.Number.Basic
import ApiSurface.Number.Binary64
import ApiSurface.Number.Shortest
import ApiSurface.Operation.Basic
import ApiSurface.Operation.Documents
import ApiSurface.Operation.OnRelation
import ApiSurface.Operation.OnResource
import ApiSurface.Operation.Response
import ApiSurface.Operation.Set
import ApiSurface.Output.Files
import ApiSurface.Output.Snapshot
import ApiSurface.Output.Source
import ApiSurface.Output.Step
import ApiSurface.Proofs.Catalog.FlatValues
import ApiSurface.Proofs.Catalog.KeyPaths
import ApiSurface.Proofs.Catalog.MappedTypes
import ApiSurface.Proofs.Catalog.ReadBack
import ApiSurface.Proofs.Catalog.References
import ApiSurface.Proofs.Catalog.RepeatedIds
import ApiSurface.Proofs.Command.Outcome
import ApiSurface.Proofs.Command.Writing
import ApiSurface.Proofs.Document.MemberOrder
import ApiSurface.Proofs.Document.Readers
import ApiSurface.Proofs.Files.Changes
import ApiSurface.Proofs.Files.Passage
import ApiSurface.Proofs.Lint.Report
import ApiSurface.Proofs.Logging.Warnings
import ApiSurface.Proofs.Naming.BasePath
import ApiSurface.Proofs.Naming.Inflection
import ApiSurface.Proofs.Naming.Qualification
import ApiSurface.Proofs.Naming.SimpleName
import ApiSurface.Proofs.Naming.SnakeCase
import ApiSurface.Proofs.Naming.SnakeForm
import ApiSurface.Proofs.Naming.Template
import ApiSurface.Proofs.Operation.AccessorUse
import ApiSurface.Proofs.Operation.CallChains
import ApiSurface.Proofs.Operation.Delegation
import ApiSurface.Proofs.Operation.Effects
import ApiSurface.Proofs.Operation.Endpoints
import ApiSurface.Proofs.Operation.Names
import ApiSurface.Proofs.Operation.Placeholders
import ApiSurface.Proofs.Operation.Requirement
import ApiSurface.Proofs.Operation.Response
import ApiSurface.Proofs.Operation.Synthesis
import ApiSurface.Proofs.Operation.Typing
import ApiSurface.Proofs.Output.FileNames
import ApiSurface.Proofs.Output.Indentation
import ApiSurface.Proofs.Resource.AccessorChoice
import ApiSurface.Proofs.Resource.ArrayTypes
import ApiSurface.Proofs.Resource.Assembly
import ApiSurface.Proofs.Resource.HandRoutes
import ApiSurface.Proofs.Resource.IdentifierChoice
import ApiSurface.Proofs.Resource.MappedRoutes
import ApiSurface.Proofs.Resource.MountPath
import ApiSurface.Proofs.Resource.Refusal
import ApiSurface.Proofs.Resource.RelationScan
import ApiSurface.Proofs.Resource.Screening
import ApiSurface.Proofs.Resource.Shadowing
import ApiSurface.Proofs.Resource.ShapeChoice
import ApiSurface.Proofs.Resource.TypeArguments
import ApiSurface.Proofs.Resource.TypeReading
import ApiSurface.Proofs.Resource.TypeWrappers
import ApiSurface.Proofs.Settings.Layers
import ApiSurface.Proofs.Settings.Wrapper
import ApiSurface.Proofs.Synthesis.CatalogReport
import ApiSurface.Proofs.Synthesis.DeclarationOrder
import ApiSurface.Proofs.Synthesis.Lifecycle
import ApiSurface.Proofs.Text.Joining
import ApiSurface.Proofs.Text.Lines
import ApiSurface.Proofs.Text.Numerals
import ApiSurface.Proofs.Text.Replacing
import ApiSurface.Proofs.Text.Trimming
import ApiSurface.Resource.Accessors
import ApiSurface.Resource.Assembly
import ApiSurface.Resource.Configuration
import ApiSurface.Resource.Documents
import ApiSurface.Resource.Identifier
import ApiSurface.Resource.Metadata
import ApiSurface.Resource.Relation
import ApiSurface.Resource.RouteTable
import ApiSurface.Resource.TypeExpression
import ApiSurface.Security
import ApiSurface.Settings.Basic
import ApiSurface.Settings.Documents
import ApiSurface.Settings.Patch
import ApiSurface.Synthesis.CatalogReport
import ApiSurface.Synthesis.Lifecycle
import ApiSurface.Text.AlphanumericTable
import ApiSurface.Text.Blank
import ApiSurface.Text.CaseTable
import ApiSurface.Text.CodeRun
import ApiSurface.Text.Digits
import ApiSurface.Text.EscapedTable
import ApiSurface.Text.LetterCase
import ApiSurface.Text.Pieces
import ApiSurface.Text.Quoted
import ApiSurface.Text.Word
import ApiSurface.Text.WordTable
import ApiSurface.Proofs.Naming.SingularForm
import ApiSurface.Proofs.Naming.Slug
import ApiSurface.Proofs.Command.DefaultDirectory
import ApiSurface.Proofs.Operation.RoleText
