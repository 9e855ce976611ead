import Roster.Files.Tree
import Roster.Main
import Roster.Proofs.Filter.Boundary
import Roster.Proofs.Filter.Collation
import Roster.Proofs.Filter.Compilation
import Roster.Proofs.Filter.Condition
import Roster.Proofs.Filter.Grammar
import Roster.Proofs.Filter.Injection
import Roster.Proofs.Filter.Meaning
import Roster.Proofs.Filter.Placeholders
import Roster.Proofs.Filter.Quotation
import Roster.Proofs.Filter.Rejection
import Roster.Proofs.Filter.Renumbering
import Roster.Proofs.Filter.Respelling
import Roster.Proofs.Filter.Scan
import Roster.Proofs.Filter.Source
import Roster.Proofs.Filter.Span
import Roster.Proofs.Page
import Roster.Proofs.Sql.Order
import Roster.Proofs.Users.Answer
import Roster.Proofs.Users.Appending
import Roster.Proofs.Users.Binding
import Roster.Proofs.Users.Evaluation
import Roster.Proofs.Users.Order
import Roster.Proofs.Users.Paging
import Roster.Proofs.Users.Reads
import Roster.Proofs.Users.Secrecy
import Roster.Proofs.Users.Selection
import Roster.Proofs.Filter.Exchange
import Roster.Proofs.Users.Session
import Roster.Proofs.Users.Refusal
import Roster.Proofs.Filter.Items
import Roster.Proofs.Filter.MatchAll
import Roster.Proofs.Filter.Verbatim
import Roster.Proofs.Users.Opposite
import Roster.Proofs.Users.Membership
import Roster.Proofs.Users.Moment
import Roster.Proofs.Filter.Fault
import Roster.Proofs.Sql.Pattern
import Roster.Proofs.Users.Search
import Roster.Proofs.Text.Words
import Roster.Proofs.Users.Inspection
import Roster.Proofs.Users.PageBounds
import Roster.Proofs.Filter.Failure
import Roster.Proofs.Filter.Capture
import Roster.Proofs.Filter.Literal
import Roster.Proofs.Settings
import Roster.Proofs.Files.Path
import Roster.Proofs.Filter.Groups
import Roster.Proofs.Filter.Shape
import Roster.Proofs.Sql.Names
