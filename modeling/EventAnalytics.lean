import EventAnalytics.Command.Run
import EventAnalytics.Main
import EventAnalytics.Proofs.Event.Lookup
import EventAnalytics.Proofs.Query.Meaning
import EventAnalytics.Proofs.Query.Quoting
import EventAnalytics.Proofs.Query.Span
import EventAnalytics.Proofs.Store.Sharing
import EventAnalytics.Query.Compile
import EventAnalytics.Settings.Basic
import EventAnalytics.Store.Image
import EventAnalytics.Store.Ingest
import EventAnalytics.Proofs.Store.Ingestion
import EventAnalytics.Proofs.Settings.Defaults
import EventAnalytics.Proofs.Query.Columns
import EventAnalytics.Proofs.Query.Clauses
import EventAnalytics.Proofs.Event.Text
import EventAnalytics.Proofs.Query.Text
import EventAnalytics.Proofs.Store.Interleaving
import EventAnalytics.Proofs.Time.Window
import EventAnalytics.Proofs.Time.Explicit
import EventAnalytics.Proofs.Query.Present
import EventAnalytics.Proofs.Query.Faults
import EventAnalytics.Proofs.Path.Priority
import EventAnalytics.Proofs.Path.Location
import EventAnalytics.Proofs.Settings.Validation
import EventAnalytics.Proofs.Sql.Assembly
import EventAnalytics.Proofs.Event.Cells
import EventAnalytics.Proofs.Store.Found
import EventAnalytics.Proofs.Store.Naming
