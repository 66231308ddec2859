import PermissionRules.Main
import PermissionRules.Rules.CategoryText
import PermissionRules.Proofs.Decimal.Digits
import PermissionRules.Proofs.Decimal.Notation
import PermissionRules.Proofs.Decimal.Rounding
import PermissionRules.Proofs.Document.Layout
import PermissionRules.Proofs.Document.NumberTokens
import PermissionRules.Proofs.Document.Parsed
import PermissionRules.Proofs.Document.ReadBack
import PermissionRules.Proofs.Document.TextTokens
import PermissionRules.Proofs.Document.Value
import PermissionRules.Proofs.Document.WrittenTokens
import PermissionRules.Proofs.Double.Encoding
import PermissionRules.Proofs.Double.Shortest
import PermissionRules.Proofs.Files.Overwriting
import PermissionRules.Proofs.Ordered
import PermissionRules.Proofs.Pattern.Answer
import PermissionRules.Proofs.Pattern.Grammar
import PermissionRules.Proofs.Pattern.Migration
import PermissionRules.Proofs.Pattern.Rendering
import PermissionRules.Proofs.Rules.Agreement
import PermissionRules.Proofs.Rules.Repaired
import PermissionRules.Proofs.Run.FixThenCheck
import PermissionRules.Proofs.Run.Fixing
import PermissionRules.Proofs.Run.Loading
import PermissionRules.Proofs.Text.Runs
import PermissionRules.Proofs.Rules.ByCategory
import PermissionRules.Proofs.Rules.FixedPoint
import PermissionRules.Proofs.Rules.Frame
import PermissionRules.Proofs.Rules.Partition
import PermissionRules.Proofs.Run.Rejection
import PermissionRules.Proofs.Run.Rewriting
import PermissionRules.Proofs.Run.DryRun
import PermissionRules.Proofs.Run.TargetOrder
import PermissionRules.Proofs.Document.Edited
import PermissionRules.Proofs.Document.Fallback
import PermissionRules.Proofs.Run.InlineFix
import PermissionRules.Proofs.Report.Checks
import PermissionRules.Proofs.Run.Verdict
import PermissionRules.Proofs.Settings.Locations
import PermissionRules.Proofs.Run.Selection
import PermissionRules.Proofs.Report.ReadBack
import PermissionRules.Proofs.Text.Lines
import PermissionRules.Proofs.Report.Patterns
import PermissionRules.Proofs.Run.Patterns
import PermissionRules.Proofs.Settings.Requests
import PermissionRules.Proofs.Document.Outside
import PermissionRules.Proofs.Document.Leftover
import PermissionRules.Proofs.Settings.Trimmed
import PermissionRules.Proofs.Rules.Originals
import PermissionRules.Proofs.CommandLine.Attached
import PermissionRules.Proofs.CommandLine.Spelled
import PermissionRules.Proofs.Pattern.Shapes
import PermissionRules.Proofs.Ordered.Kept
import PermissionRules.Proofs.Document.Pieces
import PermissionRules.Proofs.Document.Denotation
import PermissionRules.Proofs.Run.Documents
import PermissionRules.Proofs.Run.Diagnostics
import PermissionRules.Proofs.Run.LineFeeds
