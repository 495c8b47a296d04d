import SignatureDesk.Agreement.Reconcile
import SignatureDesk.Agreement.Signature
import SignatureDesk.AllowList.Change
import SignatureDesk.AllowList.Entries
import SignatureDesk.AllowList.Kind
import SignatureDesk.AllowList.Validate
import SignatureDesk.Config.Basic
import SignatureDesk.Config.Load
import SignatureDesk.Config.Path
import SignatureDesk.Config.Value
import SignatureDesk.Console.Basic
import SignatureDesk.Console.Corporate
import SignatureDesk.Console.Exchange
import SignatureDesk.Console.Media
import SignatureDesk.Console.Operation
import SignatureDesk.Console.Perform
import SignatureDesk.Console.Permission
import SignatureDesk.Console.Resource
import SignatureDesk.Console.SignIn
import SignatureDesk.Dialogue
import SignatureDesk.Digest.Hmac
import SignatureDesk.Digest.Sha256
import SignatureDesk.Failure
import SignatureDesk.Identity.Der
import SignatureDesk.Identity.Pem
import SignatureDesk.Identity.Rsa
import SignatureDesk.Identity.Token
import SignatureDesk.Identity.Verifier
import SignatureDesk.Json.Basic
import SignatureDesk.Json.Codec
import SignatureDesk.Json.Numeral
import SignatureDesk.Json.Printer
import SignatureDesk.Json.Reader
import SignatureDesk.Listing.Columns
import SignatureDesk.Listing.PageQuery
import SignatureDesk.Listing.Sort
import SignatureDesk.Number.Binary64
import SignatureDesk.Number.Decimal
import SignatureDesk.Number.Float64
import SignatureDesk.Reconcile.Listing
import SignatureDesk.Reconcile.Lookup
import SignatureDesk.Reconcile.View
import SignatureDesk.Records.Agreement
import SignatureDesk.Records.Platform
import SignatureDesk.Remote.Call
import SignatureDesk.Remote.Cla
import SignatureDesk.Remote.Platform
import SignatureDesk.Remote.Wire
import SignatureDesk.Report.Basic
import SignatureDesk.Report.Command
import SignatureDesk.Report.Layout
import SignatureDesk.Session.Basic
import SignatureDesk.Session.Bearer
import SignatureDesk.Session.Guard
import SignatureDesk.Session.Id
import SignatureDesk.Session.Store
import SignatureDesk.Signing
import SignatureDesk.Text.Base64
import SignatureDesk.Text.Case
import SignatureDesk.Text.CaseTable
import SignatureDesk.Text.Hex
import SignatureDesk.Text.PrintTable
import SignatureDesk.Text.Quoted
import SignatureDesk.Text.Utf8
import SignatureDesk.Text.White
import SignatureDesk.Time.Calendar
import SignatureDesk.Time.Instant
import SignatureDesk.Toml.Document
import SignatureDesk.Toml.Quote
import SignatureDesk.Toml.Scalar
import SignatureDesk.Toml.Tree
import SignatureDesk.Url.Basic
import SignatureDesk.Url.Form
import SignatureDesk.Url.Host
import SignatureDesk.Url.Percent
import SignatureDesk.Proofs.Dialogue.Transcript
import SignatureDesk.Proofs.Console.Handling
import SignatureDesk.Main
import SignatureDesk.Proofs.Console.Authorization
import SignatureDesk.Proofs.Remote.Wire
import SignatureDesk.Proofs.Console.Corporate
import SignatureDesk.Proofs.Json.Members
import SignatureDesk.Proofs.Reconcile.Paging
import SignatureDesk.Proofs.Url.Address
import SignatureDesk.Proofs.Dialogue.Asks
import SignatureDesk.Proofs.Remote.Endpoint
import SignatureDesk.Proofs.Url.Parts
import SignatureDesk.Proofs.Url.Below
import SignatureDesk.Proofs.Remote.Placement
import SignatureDesk.Proofs.Remote.Addressed
import SignatureDesk.Proofs.Console.Addressing
import SignatureDesk.Proofs.Console.Lifetime
import SignatureDesk.Proofs.Session.Spelling
import SignatureDesk.Proofs.Reconcile.Sections
import SignatureDesk.Proofs.Console.CorporateEdits
import SignatureDesk.Proofs.Remote.Strict
import SignatureDesk.Proofs.Console.Failures
import SignatureDesk.Proofs.Time.Written
import SignatureDesk.Proofs.Remote.Signed
import SignatureDesk.Proofs.Console.SignIn
import SignatureDesk.Proofs.Console.Credentials
import SignatureDesk.Proofs.Order.Arranged
import SignatureDesk.Proofs.AllowList.NormalForm
import SignatureDesk.Proofs.Listing.Presses
import SignatureDesk.Proofs.Json.Canonical
import SignatureDesk.Proofs.Json.Fields
import SignatureDesk.Proofs.Time.ReadBack
import SignatureDesk.Proofs.Json.RoundTrip
import SignatureDesk.Proofs.Records.ReadBack
import SignatureDesk.Proofs.Report.SavedListing
import SignatureDesk.Proofs.Reconcile.CurrentCorporate
import SignatureDesk.Proofs.Order.Groups
import SignatureDesk.Proofs.Listing.SortedRows
import SignatureDesk.Proofs.Config.Layers
import SignatureDesk.Proofs.Listing.ByDate
import SignatureDesk.Proofs.Listing.ByName
import SignatureDesk.Proofs.Config.Spellings
import SignatureDesk.Proofs.Config.VariableNames
import SignatureDesk.Proofs.Config.TextSettings
import SignatureDesk.Proofs.Listing.NamedRecords
import SignatureDesk.Proofs.AllowList.Grammar
import SignatureDesk.Proofs.AllowList.Change
import SignatureDesk.Proofs.Json.Written
import SignatureDesk.Proofs.AllowList.Summary
import SignatureDesk.Proofs.Reconcile.Counts
import SignatureDesk.Proofs.Reconcile.Accounting
import SignatureDesk.Proofs.Console.Organizations
import SignatureDesk.Proofs.Reconcile.Rows
import SignatureDesk.Proofs.Console.SortedListing
import SignatureDesk.Proofs.Text.Utf8
import SignatureDesk.Proofs.Url.Form
import SignatureDesk.Proofs.Url.Tidy
import SignatureDesk.Proofs.Listing.Queries
import SignatureDesk.Proofs.Remote.Queries
import SignatureDesk.Proofs.Text.Hex
import SignatureDesk.Proofs.Listing.Directions
import SignatureDesk.Proofs.Listing.Comparisons
import SignatureDesk.Proofs.Remote.SignedLines
