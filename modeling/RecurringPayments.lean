import RecurringPayments.Main
import RecurringPayments.Proofs.Calendar.Written
import RecurringPayments.Proofs.Command.Ending
import RecurringPayments.Proofs.Csv.RoundTrip
import RecurringPayments.Proofs.Detection.Advance
import RecurringPayments.Proofs.Detection.Continuation
import RecurringPayments.Proofs.Detection.Evenness
import RecurringPayments.Proofs.Detection.Failure
import RecurringPayments.Proofs.Detection.Folding
import RecurringPayments.Proofs.Detection.Lookup
import RecurringPayments.Proofs.Detection.Scaling
import RecurringPayments.Proofs.Detection.Schedule
import RecurringPayments.Proofs.Detection.Shift
import RecurringPayments.Proofs.Detection.Span
import RecurringPayments.Proofs.Report.Bills
import RecurringPayments.Proofs.Report.Completion
import RecurringPayments.Proofs.Report.Levels
import RecurringPayments.Proofs.Report.Relabelling
import RecurringPayments.Proofs.Report.RuleAccount
import RecurringPayments.Proofs.Report.RuleSplit
import RecurringPayments.Proofs.Rule.Containment
import RecurringPayments.Proofs.Rule.Duality
import RecurringPayments.Proofs.Rule.Footprint
import RecurringPayments.Proofs.Rule.Shape
import RecurringPayments.Proofs.Rule.Validity
import RecurringPayments.Proofs.Session.Cancellation
import RecurringPayments.Proofs.Settings.InForce
import RecurringPayments.Proofs.Subscription.Billing
import RecurringPayments.Proofs.Subscription.Origin
import RecurringPayments.Proofs.Subscription.Pausing
import RecurringPayments.Proofs.Subscription.Reconciliation
import RecurringPayments.Proofs.Subscription.Upcoming
import RecurringPayments.Proofs.Table.Stored
import RecurringPayments.Proofs.Table.Written
import RecurringPayments.Proofs.Text.Pieces
import RecurringPayments.Proofs.Transaction.Margin
import RecurringPayments.Proofs.Transaction.RoundTrip
import RecurringPayments.Proofs.Transaction.Survival
import RecurringPayments.Rule.Wording
import RecurringPayments.Session.Basic
import RecurringPayments.Session.Settings
