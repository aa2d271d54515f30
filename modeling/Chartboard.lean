import Chartboard.Dashboard.Store
import Chartboard.Main
import Chartboard.View.Bus
import Chartboard.Wire.Settings
import Chartboard.Proofs.View.Generations
import Chartboard.Proofs.View.Completion
import Chartboard.Proofs.View.Freshness
import Chartboard.Proofs.Chart.Checked
import Chartboard.Proofs.Chart.Drawable
import Chartboard.Proofs.Decimal.Distinct
import Chartboard.Proofs.Decimal.Written
import Chartboard.Proofs.Json.Quoting
import Chartboard.Proofs.Json.Scalars
import Chartboard.Proofs.Query.CrossFilter
import Chartboard.Proofs.Chart.Resolution
import Chartboard.Proofs.Chart.Relevance
import Chartboard.Proofs.Chart.Required
import Chartboard.Proofs.Dashboard.Calls
import Chartboard.Proofs.Dashboard.Delivery
import Chartboard.Proofs.Dashboard.Following
import Chartboard.Proofs.Dashboard.Refusal
import Chartboard.Proofs.Dashboard.Drafts
import Chartboard.Proofs.View.Broadcasts
import Chartboard.Proofs.Query.GroupRows
import Chartboard.Proofs.Chart.Points
import Chartboard.Proofs.Query.KeyedRows
import Chartboard.Proofs.Chart.Labels
import Chartboard.Proofs.Decimal.Ordered
import Chartboard.Proofs.StableSort.Joining
import Chartboard.Proofs.Query.FirstSeen
import Chartboard.Proofs.Query.TopRows
import Chartboard.Proofs.View.Display
import Chartboard.Proofs.View.Refusals
import Chartboard.Proofs.Dashboard.KeptOut
import Chartboard.Proofs.View.Runs
import Chartboard.Proofs.Dashboard.Refreshing
import Chartboard.Proofs.Dashboard.Independence
import Chartboard.Proofs.Command.Requests
import Chartboard.Proofs.Dashboard.Settling
import Chartboard.Proofs.Json.Numbers
import Chartboard.Proofs.Json.Layout
import Chartboard.Proofs.Json.Scanning
import Chartboard.Proofs.Dashboard.Identifiers
import Chartboard.Proofs.Json.Decoding
import Chartboard.Proofs.Wire.Records
import Chartboard.Proofs.Wire.Documents
import Chartboard.Proofs.Wire.Queries
import Chartboard.Proofs.Dashboard.Saves
import Chartboard.Proofs.Dashboard.Listing
import Chartboard.Proofs.View.Publications
import Chartboard.Proofs.Data.Detection
import Chartboard.Proofs.Query.Tuples
import Chartboard.Proofs.Chart.Frequencies
import Chartboard.Proofs.Query.IntegerColumns
import Chartboard.Proofs.Query.Sorting
import Chartboard.Proofs.Query.Restriction
import Chartboard.Proofs.Render.Truncation
import Chartboard.Proofs.Query.Failures
import Chartboard.Proofs.Render.Widening
import Chartboard.Proofs.Render.RowMarks
import Chartboard.Proofs.Dashboard.Merging
import Chartboard.Proofs.Chart.Blanks
import Chartboard.Proofs.Render.Colouring
import Chartboard.Proofs.View.Colouring
import Chartboard.Proofs.View.Nesting
import Chartboard.Proofs.Data.Sampling
import Chartboard.Proofs.Time.Layouts
import Chartboard.Proofs.Command.Profiles
import Chartboard.Proofs.Query.OwnTexts
import Chartboard.Proofs.Query.ResultColumns
import Chartboard.Proofs.Query.FilterOrder
import Chartboard.Proofs.Render.ChosenKind
import Chartboard.Proofs.Dashboard.Configuration
