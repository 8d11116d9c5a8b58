import Rollmark.Bridge
import Rollmark.Main
import Rollmark.Proofs.Action.Decode
import Rollmark.Proofs.Action.RoundTrip
import Rollmark.Proofs.Base64
import Rollmark.Proofs.Bucket.Balance
import Rollmark.Proofs.Bucket.Merge
import Rollmark.Proofs.Bucket.Operations
import Rollmark.Proofs.Intent
import Rollmark.Proofs.Json.RoundTrip
import Rollmark.Proofs.Json.Token
import Rollmark.Proofs.Report
import Rollmark.Proofs.Session.Blind
import Rollmark.Proofs.Session.Conservation
import Rollmark.Proofs.Session.Effect
import Rollmark.Proofs.Session.Persistence
import Rollmark.Proofs.Session.Scene
import Rollmark.Proofs.Session.Store
import Rollmark.Proofs.Span.Link
import Rollmark.Proofs.Span.Order
import Rollmark.Proofs.Span.Recovery
import Rollmark.Proofs.Span.Written
import Rollmark.Proofs.Text.Scan
import Rollmark.Sheet.Sample
import Rollmark.Proofs.Dice
import Rollmark.Proofs.Formula.Layout
import Rollmark.Proofs.Formula.Sixes
import Rollmark.Proofs.Formula.Total
import Rollmark.Proofs.Session.Dice
import Rollmark.Proofs.Session.Books
import Rollmark.Proofs.Session.Draws
import Rollmark.Proofs.Session.Typed
import Rollmark.Proofs.Command.Arguments
import Rollmark.Proofs.Command.Files
import Rollmark.Proofs.Command.Bucket
import Rollmark.Proofs.Sheet.Pattern
import Rollmark.Proofs.Span.Lookup
import Rollmark.Proofs.Span.WellFormed
import Rollmark.Proofs.Span.Linked
import Rollmark.Proofs.Outcome
import Rollmark.Proofs.Intent.Defense
import Rollmark.Proofs.Report.Caps
import Rollmark.Proofs.Formula.Spacing
import Rollmark.Proofs.Span.Rollable
import Rollmark.Proofs.Session.Requests
import Rollmark.Proofs.Report.Bare
import Rollmark.Proofs.Sheet.Wildcard
import Rollmark.Proofs.Formula.Canonical
import Rollmark.Proofs.Formula.Roll
import Rollmark.Proofs.Odds
import Rollmark.Proofs.Bucket.Replay
import Rollmark.Proofs.Bucket.Range
import Rollmark.Proofs.Sheet.LeadingNumber
import Rollmark.Proofs.Reference
import Rollmark.Proofs.Outcome.Hits
import Rollmark.Proofs.Span.Letter
import Rollmark.Proofs.Span.Quoted
import Rollmark.Proofs.Span.Relink
import Rollmark.Proofs.Sheet.RoundTrip
import Rollmark.Proofs.Command.Roll
import Rollmark.Proofs.Formula.Explicit
import Rollmark.Proofs.Modifier.Directive
