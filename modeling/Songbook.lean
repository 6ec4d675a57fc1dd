import Songbook.Request.Json
import Songbook.Seed
import Songbook.Web.Deployment
import Songbook.Web.Route
import Songbook.Proofs.Number.Reading
import Songbook.Proofs.Request.Wire
import Songbook.Proofs.Text.Cutting
import Songbook.Proofs.Store.Matching
import Songbook.Proofs.Value.Paths
import Songbook.Proofs.Plan.NumberFilters
import Songbook.Proofs.Plan.Translation
import Songbook.Proofs.Plan.RollUp
import Songbook.Proofs.Store.Totals
import Songbook.Proofs.Service.Agreement
import Songbook.Proofs.Plan.RowOrder
import Songbook.Proofs.Service.AlbumOrder
import Songbook.Proofs.Store.Searches
import Songbook.Proofs.Text.Beginnings
import Songbook.Proofs.Service.Titles
import Songbook.Proofs.Entries
import Songbook.Proofs.Request.Questions
import Songbook.Proofs.Request.Filters
import Songbook.Proofs.Request.Arrival
import Songbook.Proofs.Request.Written
import Songbook.Proofs.Request.Parts
import Songbook.Proofs.Service.Paging
import Songbook.Proofs.Service.DrillDown
import Songbook.Proofs.Request.Kept
import Songbook.Proofs.Web.Faults
import Songbook.Proofs.Service.Questions
import Songbook.Proofs.Store.Histories
import Songbook.Proofs.Request.WellFormed
import Songbook.Proofs.Json.Strings
import Songbook.Proofs.Json.Numerals
import Songbook.Proofs.Json.Reading
import Songbook.Proofs.Json.Fields
import Songbook.Proofs.Value.Json
import Songbook.Proofs.Request.Json
import Songbook.Proofs.Plan.Questions
import Songbook.Proofs.Plan.Narrowing
import Songbook.Proofs.Number.Integers
import Songbook.Proofs.Value.Order
import Songbook.Proofs.Store.Stability
import Songbook.Proofs.Store.Exchange
import Songbook.Proofs.Store.Endings
import Songbook.Proofs.Service.Endings
import Songbook.Proofs.Store.Placement
import Songbook.Proofs.Store.Partition
import Songbook.Proofs.Value.Numbers
import Songbook.Proofs.Store.Sums
import Songbook.Proofs.Store.Formulas
import Songbook.Proofs.Catalog
import Songbook.Proofs.Plan.Dispatch
import Songbook.Proofs.Service.Trending
import Songbook.Proofs.Request.Grammar
import Songbook.Proofs.Request.QuestionTexts
import Songbook.Proofs.Store.Comparisons
import Songbook.Proofs.Plan.NotNumbers
import Songbook.Proofs.Request.SortTokens
import Songbook.Proofs.Value.Joined
import Songbook.Proofs.Request.Collected
import Songbook.Proofs.Number.Rounding
import Songbook.Proofs.Request.Counts
import Songbook.Proofs.Calendar.Days
import Songbook.Proofs.Calendar.Texts
import Songbook.Proofs.Plan.Dates
