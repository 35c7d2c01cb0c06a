import LintBridge.Main
import LintBridge.Proofs.Schedule.Delivery
import LintBridge.Proofs.Schedule.Debounce
import LintBridge.Proofs.Schedule.Separation
import LintBridge.Proofs.Response.Delimited
import LintBridge.Proofs.Session.Reconfiguration
import LintBridge.Proofs.Session.Turns
import LintBridge.Proofs.Response.Reencoding
import LintBridge.Proofs.Response.Separate
import LintBridge.Proofs.CommandLine.Status
import LintBridge.Proofs.Response.Strewn
import LintBridge.Proofs.Linter.Nearest
import LintBridge.Proofs.Matching.Equivalence
import LintBridge.Proofs.Settings.Spelling
import LintBridge.Proofs.Settings.Field
import LintBridge.Proofs.Settings.Layers
import LintBridge.Proofs.Settings.Updates
import LintBridge.Proofs.Session.Notification
import LintBridge.Proofs.Schedule.Underway
import LintBridge.Proofs.Schedule.Phase
import LintBridge.Proofs.Session.Drained
import LintBridge.Proofs.Schedule.Shutdown
import LintBridge.Proofs.Matching.Written
import LintBridge.Proofs.Publication.Conveyed
import LintBridge.Proofs.Linter.Resolved
import LintBridge.Proofs.Text.Letters
import LintBridge.Proofs.Settings.Label
import LintBridge.Proofs.Response.Span
import LintBridge.Proofs.Settings.Words
import LintBridge.Proofs.Response.Numerals
import LintBridge.Proofs.Uri.Projection
import LintBridge.Proofs.Report.Lossless
