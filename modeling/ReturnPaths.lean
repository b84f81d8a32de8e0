import ReturnPaths.Main
import ReturnPaths.FlowUnit.Printer
import ReturnPaths.Proofs.Check.Reported
import ReturnPaths.Proofs.StableSort
import ReturnPaths.Proofs.Path.Order
import ReturnPaths.Proofs.FileTree.WellFormed
import ReturnPaths.Proofs.FileTree.Location
import ReturnPaths.Proofs.Analysis.Collection
import ReturnPaths.Proofs.FileTree.Outline
import ReturnPaths.Proofs.FileTree.Overwriting
import ReturnPaths.Proofs.Log.Content
import ReturnPaths.Proofs.Session
import ReturnPaths.Proofs.Analysis.Running
import ReturnPaths.Proofs.Analysis.Isolation
import ReturnPaths.Proofs.CommandLine.Settings
import ReturnPaths.Proofs.CommandLine.Outcome
import ReturnPaths.Proofs.Json.Document
import ReturnPaths.Proofs.Json.Lexeme
import ReturnPaths.Proofs.Json.Spacing
import ReturnPaths.Proofs.Json.Skipping
import ReturnPaths.Proofs.Json.Writing
import ReturnPaths.Proofs.FlowUnit.Decoding
import ReturnPaths.Proofs.FlowUnit.Reading
import ReturnPaths.Proofs.FlowUnit.Presentation
import ReturnPaths.Proofs.FlowUnit.Rejection
import ReturnPaths.Proofs.FlowUnit.RoundTrip
import ReturnPaths.Proofs.Path.Front
import ReturnPaths.Proofs.Analysis.Spelling
import ReturnPaths.Proofs.Check.Independence
import ReturnPaths.Proofs.Report.Lines
import ReturnPaths.Proofs.Report.Annotation
import ReturnPaths.Proofs.Report.Document
import ReturnPaths.Proofs.Check.Nesting
import ReturnPaths.Proofs.Path.Below
import ReturnPaths.Proofs.Analysis.Contents
import ReturnPaths.Proofs.Report.Order
import ReturnPaths.Proofs.Analysis.Arguments
import ReturnPaths.Proofs.Analysis.Relocation
import ReturnPaths.Proofs.FileTree.Agreement
import ReturnPaths.Proofs.FileTree.Creation
import ReturnPaths.Proofs.Analysis.Agreement
import ReturnPaths.Proofs.Analysis.Parallel
import ReturnPaths.Proofs.Exit.Composition
import ReturnPaths.Proofs.Check.Logged
import ReturnPaths.Proofs.CommandLine.Coupling
import ReturnPaths.Proofs.CommandLine.Noninterference
import ReturnPaths.Proofs.Check.Enabled
import ReturnPaths.Proofs.Analysis.Selection
import ReturnPaths.Proofs.Config.Exclusion
import ReturnPaths.Proofs.Path.Parents
import ReturnPaths.Proofs.Config.Search
import ReturnPaths.Proofs.Text.Replacement
import ReturnPaths.Proofs.Report.Escaping
import ReturnPaths.Proofs.Issue.Operations
import ReturnPaths.Proofs.Analysis.Patterns
import ReturnPaths.Proofs.Report.Sections
