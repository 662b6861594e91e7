import TemplateLint.CommandLine.Arguments
import TemplateLint.CommandLine.Help
import TemplateLint.CommandLine.PathList
import TemplateLint.Configuration.Load
import TemplateLint.Dispatch.Execution
import TemplateLint.Dispatch.Run
import TemplateLint.FileTree.Discovery
import TemplateLint.Linter.Launch
import TemplateLint.Main
import TemplateLint.Program
import TemplateLint.Proofs.Dispatch.ConcurrencyLimit
import TemplateLint.Proofs.Dispatch.Refinement
import TemplateLint.Proofs.Dispatch.Truncation
import TemplateLint.Proofs.FileTree.Discovery
import TemplateLint.Proofs.Program.ExitStatus
import TemplateLint.Report.Render
import TemplateLint.Proofs.Report.ClosingLine
import TemplateLint.Proofs.Dispatch.Expansion
import TemplateLint.Proofs.Report.Agreement
import TemplateLint.Proofs.Dispatch.ReportedCounts
import TemplateLint.Proofs.Path
import TemplateLint.Proofs.FileTree.Walk
import TemplateLint.Proofs.FileTree.Lookup
import TemplateLint.Proofs.FileTree.Contents
import TemplateLint.Proofs.Dispatch.Isolation
import TemplateLint.Proofs.Program.Invocation
import TemplateLint.Proofs.Linter.Interpretation
import TemplateLint.Proofs.Response.Decoding
import TemplateLint.Proofs.Report.Coloring
import TemplateLint.Proofs.Configuration.RoundTrip
import TemplateLint.Proofs.Program.Additions
import TemplateLint.Proofs.Summary.Grouping
import TemplateLint.Proofs.Dispatch.SingleJob
import TemplateLint.Proofs.Dispatch.SlackLimit
import TemplateLint.Proofs.Program.PipedPaths
import TemplateLint.Proofs.Report.Details
import TemplateLint.Proofs.Configuration.BaseDirectory
import TemplateLint.Proofs.Configuration.Members
import TemplateLint.Proofs.FileTree.Subdirectories
import TemplateLint.Proofs.Eligibility
import TemplateLint.Proofs.CommandLine.PathList
import TemplateLint.Proofs.CommandLine.Tokens
import TemplateLint.Proofs.Diagnostic
import TemplateLint.Proofs.Report.Totals
import TemplateLint.Proofs.Configuration.Discovery
