import ExprGate.Access.CallSite
import ExprGate.Access.Evaluator
import ExprGate.Access.Gate
import ExprGate.Access.Interleaving
import ExprGate.Access.Registry
import ExprGate.Access.Requests
import ExprGate.Access.Resolver
import ExprGate.Access.Scenario
import ExprGate.Access.World
import ExprGate.Artifact.Basic
import ExprGate.Artifact.Build
import ExprGate.Artifact.Element
import ExprGate.Artifact.Generation
import ExprGate.Artifact.Index
import ExprGate.Artifact.Source
import ExprGate.Artifact.TypeName
import ExprGate.Artifact.TypeRef
import ExprGate.Build.Session
import ExprGate.Build.Settings
import ExprGate.Declaration.Annotation
import ExprGate.Declaration.Basic
import ExprGate.Declaration.Catalog
import ExprGate.Declaration.Resolution
import ExprGate.Diagnostic
import ExprGate.Endpoint
import ExprGate.Expansion.MarkerType
import ExprGate.Expansion.QuotedPath
import ExprGate.Expansion.Usage
import ExprGate.Files.Disk
import ExprGate.Files.Path
import ExprGate.Files.Search
import ExprGate.Grammar.Attribute
import ExprGate.Grammar.Construct
import ExprGate.Grammar.Expr
import ExprGate.Grammar.File
import ExprGate.Grammar.Item
import ExprGate.Grammar.Parser
import ExprGate.Grammar.Path
import ExprGate.Grammar.Pattern
import ExprGate.Grammar.Rules
import ExprGate.Grammar.Type
import ExprGate.Marker.Descriptor
import ExprGate.Marker.Discovery
import ExprGate.Naming
import ExprGate.Output.DiskSink
import ExprGate.Output.Run
import ExprGate.Output.RuntimePath
import ExprGate.Output.Sink
import ExprGate.Placeholder.Basic
import ExprGate.Placeholder.Expand
import ExprGate.Placeholder.Lookup
import ExprGate.Proofs.Access.Interleaving
import ExprGate.Proofs.Access.Requests
import ExprGate.Proofs.Access.Resolution
import ExprGate.Proofs.Access.Retention
import ExprGate.Proofs.Access.Transparency
import ExprGate.Proofs.Artifact.Build
import ExprGate.Proofs.Artifact.Coverage
import ExprGate.Proofs.Artifact.GeneratedIndex
import ExprGate.Proofs.Artifact.Generation
import ExprGate.Proofs.Artifact.Index
import ExprGate.Proofs.Artifact.IndexLine
import ExprGate.Proofs.Artifact.IndexReading
import ExprGate.Proofs.Artifact.Locality
import ExprGate.Proofs.Artifact.MarkersInUse
import ExprGate.Proofs.Artifact.ModuleTree
import ExprGate.Proofs.Artifact.Outcomes
import ExprGate.Proofs.Artifact.Reordering
import ExprGate.Proofs.Artifact.ShortNames
import ExprGate.Proofs.Artifact.Source
import ExprGate.Proofs.Build.AcceptedNames
import ExprGate.Proofs.Declaration.Additions
import ExprGate.Proofs.Declaration.Anchoring
import ExprGate.Proofs.Declaration.Catalog
import ExprGate.Proofs.Declaration.History
import ExprGate.Proofs.Declaration.Reordering
import ExprGate.Proofs.Endpoint
import ExprGate.Proofs.Expansion.Agreement
import ExprGate.Proofs.Expansion.Emitted
import ExprGate.Proofs.Expansion.MarkerType
import ExprGate.Proofs.Expansion.PathLists
import ExprGate.Proofs.Expansion.Trial
import ExprGate.Proofs.Expansion.Usability
import ExprGate.Proofs.Expansion.Usages
import ExprGate.Proofs.Files.Disk
import ExprGate.Proofs.Files.Parts
import ExprGate.Proofs.Files.Path
import ExprGate.Proofs.FirstOccurrence
import ExprGate.Proofs.Grammar.Attribute
import ExprGate.Proofs.Marker.Descriptor
import ExprGate.Proofs.Marker.Discovery
import ExprGate.Proofs.Naming
import ExprGate.Proofs.Naming.DryRun
import ExprGate.Proofs.Naming.FailClosed
import ExprGate.Proofs.Output.Agreement
import ExprGate.Proofs.Output.Coverage
import ExprGate.Proofs.Output.DiskSink
import ExprGate.Proofs.Output.Emission
import ExprGate.Proofs.Output.Isolation
import ExprGate.Proofs.Output.Memory
import ExprGate.Proofs.Output.Modules
import ExprGate.Proofs.Output.Regeneration
import ExprGate.Proofs.Output.ScanOrder
import ExprGate.Proofs.Output.Writing
import ExprGate.Proofs.Placeholder.ClosingBrace
import ExprGate.Proofs.Placeholder.Composition
import ExprGate.Proofs.Placeholder.Cycles
import ExprGate.Proofs.Placeholder.Delimiting
import ExprGate.Proofs.Placeholder.DryRun
import ExprGate.Proofs.Placeholder.Escaping
import ExprGate.Proofs.Placeholder.Evaluation
import ExprGate.Proofs.Placeholder.Lookup
import ExprGate.Proofs.Placeholder.Recursion
import ExprGate.Proofs.Placeholder.Spelling
import ExprGate.Proofs.Placeholder.Strictness
import ExprGate.Proofs.Placeholder.Verbatim
import ExprGate.Proofs.Source.Annotation
import ExprGate.Proofs.Source.Attachment
import ExprGate.Proofs.Source.Finishing
import ExprGate.Proofs.Source.ImportedPaths
import ExprGate.Proofs.Source.Imports
import ExprGate.Proofs.Source.Interruption
import ExprGate.Proofs.Source.Leaves
import ExprGate.Proofs.Source.ModulePath
import ExprGate.Proofs.Source.Placement
import ExprGate.Proofs.Source.Reading
import ExprGate.Proofs.Source.TestModules
import ExprGate.Proofs.Source.TestOnly
import ExprGate.Proofs.Table
import ExprGate.Proofs.Text.QualifiedName
import ExprGate.Proofs.Text.RegularName
import ExprGate.Proofs.Text.SnakeCase
import ExprGate.Proofs.Text.Sorted
import ExprGate.Proofs.Text.Utf8
import ExprGate.Proofs.Text.Words
import ExprGate.Proofs.Token.Identifier
import ExprGate.Proofs.Token.Literal
import ExprGate.Proofs.Token.Name
import ExprGate.Proofs.Token.Wrapping
import ExprGate.Source.Annotation
import ExprGate.Source.Collection
import ExprGate.Source.Imports
import ExprGate.Source.ModulePath
import ExprGate.Text.Alphanumeric
import ExprGate.Text.Blank
import ExprGate.Text.Case
import ExprGate.Text.CodeTable
import ExprGate.Text.IdentChar
import ExprGate.Text.Mark
import ExprGate.Text.QualifiedName
import ExprGate.Text.Quoted
import ExprGate.Text.Search
import ExprGate.Text.Sorted
import ExprGate.Text.Words
import ExprGate.Token.Basic
import ExprGate.Token.Lexer
import ExprGate.Token.Literal
import ExprGate.Token.Printer
