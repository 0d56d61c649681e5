import TimeRollup.Main
import TimeRollup.Proofs.Calendar.Windows
import TimeRollup.Proofs.Chain.Acceptance
import TimeRollup.Proofs.Chain.Depth
import TimeRollup.Proofs.Chain.Extension
import TimeRollup.Proofs.Chain.Rendering
import TimeRollup.Proofs.Config.Registration
import TimeRollup.Proofs.Definition.ColumnNames
import TimeRollup.Proofs.Expr.Verbatim
import TimeRollup.Proofs.Interval.Buckets
import TimeRollup.Proofs.Meaning.Hierarchy
import TimeRollup.Proofs.Rule.Additions
import TimeRollup.Proofs.Rule.Distinct
import TimeRollup.Proofs.Rule.Substitution
import TimeRollup.Proofs.SelectItem.NamedAlias
import TimeRollup.Proofs.SelectItem.Reread
import TimeRollup.Proofs.Session.Execution
import TimeRollup.Proofs.Session.Registrations
import TimeRollup.Proofs.Session.StatementTexts
import TimeRollup.Proofs.Expr.Grammar
import TimeRollup.Proofs.Interval.NormalForm
import TimeRollup.Proofs.Interval.Saturation
import TimeRollup.Proofs.Config.Policies
import TimeRollup.Proofs.Calendar.Durations
import TimeRollup.Proofs.Chain.FixedRules
import TimeRollup.Proofs.SelectItem.DefaultAlias
import TimeRollup.Proofs.Session.RefreshSelection
