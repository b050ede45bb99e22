import DryRun.Main
import DryRun.Proofs.Evaluation.Room
import DryRun.Proofs.Bracket.Marks
import DryRun.Proofs.Bracket.FirstFault
import DryRun.Proofs.Bracket.Balance
import DryRun.Proofs.Rule.Continuation
import DryRun.Proofs.Rule.Unclosed
import DryRun.Proofs.Execution.Stages
import DryRun.Proofs.Value.Spelling
import DryRun.Proofs.Arithmetic.Exact
import DryRun.Proofs.Program.Appended
import DryRun.Proofs.Program.Comment
import DryRun.Proofs.Rule.Report
import DryRun.Proofs.Rule.Appended
import DryRun.Proofs.Bracket.Insertion
import DryRun.Proofs.Rule.Insertion
import DryRun.Proofs.Verdict.Insertion
import DryRun.Proofs.Evaluation.Avoided
import DryRun.Proofs.Function.Parts
import DryRun.Proofs.Function.Header
import DryRun.Proofs.Program.Uncalled
import DryRun.Proofs.CommandLine.Timeout
import DryRun.Proofs.Arithmetic.Malformed
import DryRun.Proofs.Duration.Units
import DryRun.Proofs.Number.Precision
import DryRun.Proofs.Text.Patterns
import DryRun.Proofs.Toml.Scalars
import DryRun.Proofs.Toml.Lines
import DryRun.Proofs.Config.Saved
import DryRun.Proofs.Json.Tokens
import DryRun.Proofs.Json.Layout
import DryRun.Proofs.CommandLine.Title
import DryRun.Proofs.Source.Comments
import DryRun.Proofs.Exchange.RoundTrip
import DryRun.Proofs.Evaluation.Errors
import DryRun.Proofs.Program.Errors
import DryRun.Proofs.Json.Strings
import DryRun.Proofs.Json.Relaxed
import DryRun.Proofs.Json.Strict
import DryRun.Proofs.Source.Contents
import DryRun.Proofs.Rule.NeverClosed
import DryRun.Proofs.Verdict.Diagnostics
import DryRun.Proofs.Rule.Assignment
import DryRun.Proofs.Loop.Bodies
import DryRun.Proofs.Evaluation.Parentheses
import DryRun.Proofs.Program.StringLines
import DryRun.Proofs.Program.OneLine
import DryRun.Proofs.Program.Items
import DryRun.Proofs.Evaluation.Budget
import DryRun.Proofs.Arithmetic.Repetition
import DryRun.Proofs.Evaluation.Templates
import DryRun.Proofs.Evaluation.Operands
import DryRun.Proofs.Program.Augmented
import DryRun.Proofs.Allocation.Lists
import DryRun.Proofs.Allocation.Literals
import DryRun.Proofs.Config.Budget
import DryRun.Proofs.Execution.Truncation
import DryRun.Proofs.Evaluation.Repetition
import DryRun.Proofs.Evaluation.Counted
