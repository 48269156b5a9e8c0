import ImageBuild.CommandLine.Arguments
import ImageBuild.CommandLine.Grammar
import ImageBuild.CommandLine.Invocation
import ImageBuild.CommandLine.LogFilter
import ImageBuild.CommandLine.Misuse
import ImageBuild.CommandLine.Outcome
import ImageBuild.CommandLine.Report
import ImageBuild.CommandLine.Usage
import ImageBuild.Configuration
import ImageBuild.Decimal.Double
import ImageBuild.Decimal.Shortest
import ImageBuild.Dockerfile.Content
import ImageBuild.Dockerfile.Instruction
import ImageBuild.Dockerfile.Source
import ImageBuild.Dockerfile.Words
import ImageBuild.Document
import ImageBuild.Error
import ImageBuild.Files.Fault
import ImageBuild.Files.Store
import ImageBuild.Ini.Fault
import ImageBuild.Ini.Reader
import ImageBuild.Json.Basic
import ImageBuild.Json.Printer
import ImageBuild.Json.ReadError
import ImageBuild.Json.Reader
import ImageBuild.Labels
import ImageBuild.Log
import ImageBuild.ModuleSpec
import ImageBuild.OrderedMap
import ImageBuild.Pattern.Basic
import ImageBuild.Pattern.CharSet
import ImageBuild.Pattern.Class
import ImageBuild.Pattern.Dialect
import ImageBuild.Pattern.Property
import ImageBuild.Pattern.Reader
import ImageBuild.Proofs.Configuration.View
import ImageBuild.Proofs.Dockerfile.Instructions
import ImageBuild.Proofs.Dockerfile.Labels
import ImageBuild.Proofs.Dockerfile.RoundTrip
import ImageBuild.Proofs.Dockerfile.Words
import ImageBuild.Proofs.Document
import ImageBuild.Proofs.Json.Reading
import ImageBuild.Proofs.Json.Shape
import ImageBuild.Proofs.Log
import ImageBuild.Proofs.ModuleSpec
import ImageBuild.Proofs.OrderedMap
import ImageBuild.Proofs.Pattern.Repetition
import ImageBuild.Proofs.Pattern.Identifier
import ImageBuild.Proofs.Repository.Derivation
import ImageBuild.Proofs.Schema.ContainerFormat
import ImageBuild.Proofs.Schema.ContainerRules
import ImageBuild.Proofs.Schema.ContainerText
import ImageBuild.Proofs.Schema.Judging
import ImageBuild.Proofs.Text.Cut
import ImageBuild.Proofs.Text.Lines
import ImageBuild.Proofs.Text.Case
import ImageBuild.Repository
import ImageBuild.Schema.Basic
import ImageBuild.Schema.Container
import ImageBuild.Schema.Draft4
import ImageBuild.Schema.Format
import ImageBuild.Schema.Judge
import ImageBuild.Schema.Reader
import ImageBuild.Schema.Resource
import ImageBuild.Schema.Uri
import ImageBuild.Schema.Validator
import ImageBuild.Schema.Violation
import ImageBuild.Settings
import ImageBuild.Tags
import ImageBuild.Text.Blank
import ImageBuild.Text.Case
import ImageBuild.Text.Category
import ImageBuild.Text.Quoted
import ImageBuild.Text.Script
import ImageBuild.Text.Similarity
import ImageBuild.Text.Word
import ImageBuild.Yaml.Cursor
import ImageBuild.Yaml.Document
import ImageBuild.Yaml.Event
import ImageBuild.Yaml.Event.Grammar
import ImageBuild.Yaml.Fault
import ImageBuild.Yaml.Reader
import ImageBuild.Yaml.Scalar
import ImageBuild.Yaml.Token
import ImageBuild.Yaml.Token.Lexer
import ImageBuild.Yaml.Token.Property
import ImageBuild.Yaml.Token.Scalar
import ImageBuild.Main
import ImageBuild.Proofs.Settings
import ImageBuild.Proofs.Configuration.Failure
import ImageBuild.Proofs.Dockerfile.Continuation
import ImageBuild.Proofs.Dockerfile.Conservation
import ImageBuild.Proofs.Dockerfile.BlankLines
import ImageBuild.Proofs.Document.Misfits
import ImageBuild.Proofs.CommandLine.Showing
import ImageBuild.Proofs.Document.Logging
import ImageBuild.Proofs.Tags
import ImageBuild.Proofs.Repository.TagSource
import ImageBuild.Proofs.Schema.Paths
import ImageBuild.Proofs.Schema.Locations
import ImageBuild.Proofs.Document.Locations
import ImageBuild.Proofs.Dockerfile.Composition
import ImageBuild.Proofs.Dockerfile.Layout
import ImageBuild.Proofs.Configuration.Autorebuild
import ImageBuild.Proofs.Repository.Flatpak
import ImageBuild.Proofs.ModuleSpec.Refusal
import ImageBuild.Proofs.ModuleSpec.Profile
import ImageBuild.Proofs.Dockerfile.Spelling
import ImageBuild.Proofs.Repository.DerivedLabels
import ImageBuild.Proofs.Dockerfile.NormalForm
