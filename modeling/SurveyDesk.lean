import SurveyDesk.Binary64
import SurveyDesk.Decimal.Layout
import SurveyDesk.Decimal.Read
import SurveyDesk.Decimal.Shortest
import SurveyDesk.Fault
import SurveyDesk.Filter.Payload
import SurveyDesk.Filter.Schema
import SurveyDesk.Filter.Shown
import SurveyDesk.Filter.SortRequest
import SurveyDesk.Filter.Tree
import SurveyDesk.Filter.Violation
import SurveyDesk.Http.Access
import SurveyDesk.Http.Answer
import SurveyDesk.Http.Body
import SurveyDesk.Http.Cookie
import SurveyDesk.Http.Date
import SurveyDesk.Http.Failure
import SurveyDesk.Http.Input
import SurveyDesk.Http.MediaType
import SurveyDesk.Http.Parameter
import SurveyDesk.Http.Query
import SurveyDesk.Http.Request
import SurveyDesk.Http.Response
import SurveyDesk.Http.Route
import SurveyDesk.Http.Service
import SurveyDesk.Json.Fault
import SurveyDesk.Json.Octets
import SurveyDesk.Json.Reader
import SurveyDesk.Json.Token
import SurveyDesk.Json.Writer
import SurveyDesk.Pattern.Attempt
import SurveyDesk.Pattern.Basic
import SurveyDesk.Pattern.CharacterSet
import SurveyDesk.Pattern.Escape
import SurveyDesk.Pattern.Fault
import SurveyDesk.Pattern.Flags
import SurveyDesk.Pattern.InlineFlags
import SurveyDesk.Pattern.Membership
import SurveyDesk.Pattern.Node
import SurveyDesk.Pattern.Search
import SurveyDesk.Pattern.Sequence
import SurveyDesk.Pattern.Source
import SurveyDesk.Pattern.Width
import SurveyDesk.Query.Compiler
import SurveyDesk.Query.Limits
import SurveyDesk.Session.Claims
import SurveyDesk.Session.Rejection
import SurveyDesk.Session.Sha256
import SurveyDesk.Session.Token
import SurveyDesk.Store.Basic
import SurveyDesk.Store.Document
import SurveyDesk.Store.Ordering
import SurveyDesk.Store.Path
import SurveyDesk.Store.Predicate
import SurveyDesk.Survey.Banner
import SurveyDesk.Survey.Caller
import SurveyDesk.Survey.Desk
import SurveyDesk.Survey.History
import SurveyDesk.Survey.Operations
import SurveyDesk.Survey.Records
import SurveyDesk.Survey.Responses
import SurveyDesk.Text.Base64Url
import SurveyDesk.Text.Encoding
import SurveyDesk.Text.Numeral
import SurveyDesk.Text.Basic
import SurveyDesk.Text.Percent
import SurveyDesk.Text.QueryParameter
import SurveyDesk.Text.Utf16
import SurveyDesk.Text.Utf32
import SurveyDesk.Text.Utf8
import SurveyDesk.Unicode.Blank
import SurveyDesk.Unicode.Bounds
import SurveyDesk.Unicode.CharacterName
import SurveyDesk.Unicode.Identifier
import SurveyDesk.Unicode.Letter
import SurveyDesk.Unicode.LetterCase
import SurveyDesk.Unicode.Name.Alias
import SurveyDesk.Unicode.Name.Ancient
import SurveyDesk.Unicode.Name.Eastern
import SurveyDesk.Unicode.Name.Emblem
import SurveyDesk.Unicode.Name.Further
import SurveyDesk.Unicode.Name.Notation
import SurveyDesk.Unicode.Name.Pictorial
import SurveyDesk.Unicode.Name.Presentation
import SurveyDesk.Unicode.Name.Shape
import SurveyDesk.Unicode.Name.Sign
import SurveyDesk.Unicode.Name.Southern
import SurveyDesk.Unicode.Name.Western
import SurveyDesk.Unicode.Numeric
import SurveyDesk.Unicode.Printable
import SurveyDesk.Unicode.UpperCase
import SurveyDesk.Value.Basic
import SurveyDesk.Value.Comparison
import SurveyDesk.Value.Equality
import SurveyDesk.Value.Keyed
import SurveyDesk.Value.Literal
import SurveyDesk.Proofs.Value.Entries
import SurveyDesk.Proofs.Value.Keyed
import SurveyDesk.Proofs.Store.Collection
import SurveyDesk.Proofs.Survey.Ledger
import SurveyDesk.Proofs.Store.Find
import SurveyDesk.Proofs.Survey.Bookkeeping
import SurveyDesk.Proofs.Survey.Integrity
import SurveyDesk.Proofs.Survey.Lookup
import SurveyDesk.Proofs.Survey.Writing
import SurveyDesk.Proofs.Survey.Refinement
import SurveyDesk.Proofs.Store.Page
import SurveyDesk.Proofs.Survey.ListScope
import SurveyDesk.Proofs.Filter.Meaning
import SurveyDesk.Proofs.Filter.Shape
import SurveyDesk.Proofs.Query.Compiled
import SurveyDesk.Proofs.Query.Evaluation
import SurveyDesk.Proofs.Query.Grammar
import SurveyDesk.Proofs.Survey.OwnView
import SurveyDesk.Proofs.Survey.Noninterference
import SurveyDesk.Proofs.Survey.Ownership
import SurveyDesk.Proofs.Text.Base64Url
import SurveyDesk.Proofs.Text.Utf8
import SurveyDesk.Proofs.Json.Text
import SurveyDesk.Proofs.Json.Number
import SurveyDesk.Proofs.Json.WrittenNumber
import SurveyDesk.Proofs.Json.Rereading
import SurveyDesk.Proofs.Session.Token
import SurveyDesk.Proofs.Session.Issue
import SurveyDesk.Proofs.Session.Lifetime
import SurveyDesk.Proofs.Session.Acceptance
import SurveyDesk.Proofs.Http.Admission
import SurveyDesk.Proofs.Survey.Lifecycle
import SurveyDesk.Proofs.Survey.Chronicle
import SurveyDesk.Proofs.Survey.References
import SurveyDesk.Proofs.Http.Handling
import SurveyDesk.Proofs.Http.Visits
import SurveyDesk.Proofs.Survey.Publishing
import SurveyDesk.Proofs.Http.Bearer
import SurveyDesk.Proofs.Http.FailedRequests
import SurveyDesk.Proofs.Http.HistoryLog
import SurveyDesk.Proofs.Survey.Removal
import SurveyDesk.Proofs.Http.Finality
import SurveyDesk.Proofs.Survey.Masking
import SurveyDesk.Proofs.Text.Percent
import SurveyDesk.Proofs.Filter.WireForm
import SurveyDesk.Proofs.Filter.Transport
import SurveyDesk.Proofs.Filter.Grammar
import SurveyDesk.Proofs.Filter.Reading
import SurveyDesk.Proofs.Store.Answering
import SurveyDesk.Proofs.Survey.Listing
import SurveyDesk.Proofs.Http.ListFaults
import SurveyDesk.Proofs.Store.Pagination
import SurveyDesk.Proofs.Survey.Pages
import SurveyDesk.Proofs.Http.Pages
import SurveyDesk.Proofs.Http.Cookies
import SurveyDesk.Proofs.Http.Renewal
import SurveyDesk.Proofs.Http.StoredTexts
import SurveyDesk.Proofs.Survey.Legibility
import SurveyDesk.Proofs.Http.Tables
import SurveyDesk.Proofs.Store.Calls
import SurveyDesk.Proofs.Store.OrderedMap
import SurveyDesk.Proofs.Store.OwnIds
import SurveyDesk.Proofs.Store.Sorting
import SurveyDesk.Proofs.Query.Limits
import SurveyDesk.Proofs.Query.WorkList
import SurveyDesk.Proofs.Query.Strictness
import SurveyDesk.Proofs.Query.Recursion
import SurveyDesk.Proofs.Query.Pruning
import SurveyDesk.Proofs.Query.KeyOrder
import SurveyDesk.Proofs.Survey.Refusals
import SurveyDesk.Proofs.Http.Calendar
import SurveyDesk.Proofs.Http.Dates
import SurveyDesk.Proofs.Http.CookieLife
import SurveyDesk.Proofs.Json.Depth
import SurveyDesk.Proofs.Filter.SortList
import SurveyDesk.Proofs.Http.Orders
import SurveyDesk.Proofs.Filter.NormalForm
import SurveyDesk.Proofs.Store.Newest
import SurveyDesk.Proofs.Survey.Additions
import SurveyDesk.Proofs.Survey.HistoryList
import SurveyDesk.Proofs.Survey.Rows
import SurveyDesk.Proofs.Survey.Frame
import SurveyDesk.Proofs.Survey.Copying
import SurveyDesk.Proofs.Store.Reordering
import SurveyDesk.Proofs.Survey.Complement
import SurveyDesk.Proofs.Survey.Priorities
import SurveyDesk.Proofs.Http.Creation
import SurveyDesk.Proofs.Filter.Paths
import SurveyDesk.Proofs.Filter.FirstViolation
import SurveyDesk.Proofs.Filter.Shown
