import ODataClient.Check
import ODataClient.Code.Fragment
import ODataClient.Code.Imports
import ODataClient.Code.Writer
import ODataClient.CommandLine.Arguments
import ODataClient.CommandLine.Form
import ODataClient.CommandLine.Help
import ODataClient.CommandLine.Run
import ODataClient.Diagnostic
import ODataClient.Dictionary
import ODataClient.Disk.Basic
import ODataClient.Disk.File
import ODataClient.Disk.FileTree
import ODataClient.Disk.Path
import ODataClient.Edm
import ODataClient.Generation.Fault
import ODataClient.Generation.Plan
import ODataClient.Generation.Run
import ODataClient.Generation.Source
import ODataClient.Json.Basic
import ODataClient.Json.Fault
import ODataClient.Json.Parser
import ODataClient.Json.Printer
import ODataClient.Json.Token
import ODataClient.Lint
import ODataClient.Main
import ODataClient.Model.Build
import ODataClient.Model.ComplexGraph
import ODataClient.Model.Error
import ODataClient.Model.Service
import ODataClient.Name.Basic
import ODataClient.Name.Convention
import ODataClient.Name.Registry
import ODataClient.Name.Run
import ODataClient.Name.Source
import ODataClient.Pipeline.Basic
import ODataClient.Pipeline.Context
import ODataClient.Pipeline.Phase
import ODataClient.Proofs.Name.Registry
import ODataClient.Proofs.Name.Runs
import ODataClient.Report.Check
import ODataClient.Report.Generation
import ODataClient.Report.Line
import ODataClient.Report.Terminal
import ODataClient.Report.Wrap
import ODataClient.Schema.Basic
import ODataClient.Schema.Document
import ODataClient.Schema.Error
import ODataClient.Schema.Merge
import ODataClient.Schema.Source
import ODataClient.Schema.TypeReference
import ODataClient.Service.Basic
import ODataClient.Service.Directory
import ODataClient.Service.Json
import ODataClient.ServiceMapping
import ODataClient.Settings.Basic
import ODataClient.Settings.Line
import ODataClient.Settings.Literal
import ODataClient.Settings.Token
import ODataClient.Settings.Value
import ODataClient.Swagger
import ODataClient.TargetLanguage
import ODataClient.Text.Lines
import ODataClient.Text.Span
import ODataClient.Text.Words
import ODataClient.TypeScript.ComplexTypeFile
import ODataClient.TypeScript.EntityFile
import ODataClient.TypeScript.Expression
import ODataClient.TypeScript.FunctionImportsFile
import ODataClient.TypeScript.Member
import ODataClient.TypeScript.Naming
import ODataClient.TypeScript.Output
import ODataClient.TypeScript.Package
import ODataClient.TypeScript.PackageJson
import ODataClient.TypeScript.RequestBuilderFile
import ODataClient.TypeScript.SourceFile
import ODataClient.TypeScript.Syntax
import ODataClient.TypeScript.Types
import ODataClient.Unicode.CaseMapping
import ODataClient.Unicode.LineBreak
import ODataClient.Unicode.LineBreakClass
import ODataClient.Unicode.Property
import ODataClient.Unicode.Width
import ODataClient.Xml.Basic
import ODataClient.Xml.Parts
import ODataClient.Xml.Reader
import ODataClient.Xml.Reference
import ODataClient.Xml.Scopes
import ODataClient.Xml.Tag
import ODataClient.Proofs.Dictionary
import ODataClient.Proofs.Model.ComplexOrder
import ODataClient.Proofs.Model.Steps
import ODataClient.Proofs.Model.Entities
import ODataClient.Proofs.Model.Functions
import ODataClient.Proofs.Model.Whole
import ODataClient.Proofs.Model.Integrity
import ODataClient.Proofs.Model.Correspondence
import ODataClient.Proofs.Outcome
import ODataClient.Proofs.Schema.References
import ODataClient.Proofs.Schema.Structure
import ODataClient.Proofs.Model.Failures
import ODataClient.Proofs.Text.Casing
import ODataClient.Proofs.TypeScript.Spelling
import ODataClient.Proofs.TypeScript.ServiceNames
import ODataClient.Proofs.TypeScript.Modules
import ODataClient.Proofs.TypeScript.ModuleNames
import ODataClient.Proofs.Code.Imports
import ODataClient.Proofs.TypeScript.FileImports
import ODataClient.Proofs.TypeScript.Bindings
import ODataClient.Proofs.Code.Requests
import ODataClient.Proofs.TypeScript.Requests
import ODataClient.Proofs.TypeScript.Typing
import ODataClient.Proofs.TypeScript.Siblings
import ODataClient.Proofs.Name.Agreement
import ODataClient.Proofs.Model.Coupling
import ODataClient.Proofs.Model.Counterparts
import ODataClient.Proofs.Model.AuxiliaryInputs
import ODataClient.Proofs.TypeScript.Layout
import ODataClient.Proofs.Model.Appending
import ODataClient.Proofs.Text.Letters
import ODataClient.Proofs.TypeScript.Scope
import ODataClient.Proofs.Model.Stability
import ODataClient.Proofs.TypeScript.Emission
import ODataClient.Proofs.Pipeline.Served
import ODataClient.Proofs.Json.RoundTrip
import ODataClient.Proofs.ServiceMapping
import ODataClient.Proofs.Model.Regeneration
import ODataClient.Proofs.Pipeline.Mapped
import ODataClient.Proofs.Generation.Selection
import ODataClient.Proofs.Generation.Runs
import ODataClient.Proofs.Generation.Writing
import ODataClient.Proofs.Generation.MappingFile
import ODataClient.Proofs.Generation.Reports
import ODataClient.Proofs.Disk.Paths
import ODataClient.Proofs.Disk.Places
import ODataClient.Proofs.Disk.Trees
import ODataClient.Proofs.Disk.Putting
import ODataClient.Proofs.TypeScript.WrittenFiles
import ODataClient.Proofs.Pipeline.Traces
import ODataClient.Proofs.Generation.Checks
import ODataClient.Proofs.Generation.Packages
import ODataClient.Proofs.Model.ComplexCycles
import ODataClient.Proofs.Model.ComplexRecursion
import ODataClient.Proofs.Name.Interleaving
import ODataClient.Proofs.Name.Numbering
import ODataClient.Proofs.Name.Refusals
import ODataClient.Proofs.Name.Sources
import ODataClient.Proofs.TypeScript.Identifiers
import ODataClient.Proofs.Schema.TypeReferences
import ODataClient.Proofs.Code.Gathering
import ODataClient.Proofs.Schema.Concatenation
import ODataClient.Proofs.Model.OrphanResults
import ODataClient.Proofs.TypeScript.EntityMembers
import ODataClient.Proofs.Code.Rows
import ODataClient.Proofs.Code.Comments
import ODataClient.Proofs.TypeScript.Literals
import ODataClient.Proofs.Text.WordBreaks
import ODataClient.Proofs.Text.Occurrences
import ODataClient.Proofs.Schema.Places
import ODataClient.Proofs.Code.Groups
