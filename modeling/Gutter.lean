import Gutter.Issue.Json
import Gutter.Main
import Gutter.Proofs.Issues
import Gutter.Proofs.Linter.Report
import Gutter.Proofs.Session.Drawing
import Gutter.Proofs.Session.Edits
import Gutter.Proofs.Session.Freshness
import Gutter.Proofs.Session.Markers
import Gutter.Proofs.Session.Shown
import Gutter.Proofs.Session.Timers
import Gutter.Session.Stage
import Gutter.Proofs.Session.Quiet
import Gutter.Proofs.Session.Published
import Gutter.Proofs.Session.Deal
import Gutter.Proofs.Session.Renaming
import Gutter.Proofs.Session.Order
import Gutter.Proofs.Session.Status
import Gutter.Proofs.Session.Quiescence
import Gutter.Proofs.Session.Closing
import Gutter.Proofs.Grouping
import Gutter.Proofs.Session.Pruning
import Gutter.Proofs.Session.Futile
import Gutter.Proofs.Session.Burst
import Gutter.Proofs.Settings.Json
import Gutter.Proofs.Terminal.Verdict
import Gutter.Proofs.Terminal.Transcript
import Gutter.Proofs.Linter.Command
import Gutter.Proofs.Extensions
import Gutter.Proofs.Settings.Overlay
import Gutter.Proofs.Session.Reported
