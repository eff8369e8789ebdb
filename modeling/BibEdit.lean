import BibEdit.CommandLine.Basic
import BibEdit.CommandLine.Run
import BibEdit.Condition.Basic
import BibEdit.Condition.Syntax
import BibEdit.Console.Ansi
import BibEdit.Console.Options
import BibEdit.Console.Prompt
import BibEdit.Console.Style
import BibEdit.Console.Terminal
import BibEdit.Creator
import BibEdit.Database.Import
import BibEdit.Database.Load
import BibEdit.Database.Save
import BibEdit.Database.Session
import BibEdit.Database.Tables
import BibEdit.Database.Workspace
import BibEdit.Decimal.Binary64
import BibEdit.Decimal.Digits
import BibEdit.Distinct
import BibEdit.Evaluation
import BibEdit.Fault
import BibEdit.Field
import BibEdit.Held
import BibEdit.ItemType
import BibEdit.Json.Basic
import BibEdit.Json.Reader
import BibEdit.Library.Basic
import BibEdit.Library.Document
import BibEdit.Library.Export
import BibEdit.Library.Import
import BibEdit.Library.Query
import BibEdit.Library.Save
import BibEdit.Library.Workspace
import BibEdit.Main
import BibEdit.Pattern.Basic
import BibEdit.Pattern.Kind
import BibEdit.Pattern.Wildcard
import BibEdit.Probe.Basic
import BibEdit.Probe.Literal
import BibEdit.Record
import BibEdit.Regex.Basic
import BibEdit.Regex.Charset
import BibEdit.Regex.Error
import BibEdit.Regex.Match
import BibEdit.Regex.Matcher
import BibEdit.Regex.Reader
import BibEdit.Regex.Token
import BibEdit.Replacement
import BibEdit.Replacement.Ready
import BibEdit.Revision
import BibEdit.Search
import BibEdit.Session.Basic
import BibEdit.Session.Replace
import BibEdit.Session.Search
import BibEdit.Settings
import BibEdit.Snapshot
import BibEdit.Text.Basic
import BibEdit.Text.Case
import BibEdit.Text.Numeral
import BibEdit.Text.Path
import BibEdit.Toml.Display
import BibEdit.Toml.Draft
import BibEdit.Toml.Printer
import BibEdit.Toml.Reader
import BibEdit.Toml.Value
import BibEdit.Unicode.Alphabetic
import BibEdit.Unicode.CaseContext
import BibEdit.Unicode.CaseFold
import BibEdit.Unicode.Identifier
import BibEdit.Unicode.LetterCase
import BibEdit.Unicode.Name
import BibEdit.Unicode.Printable
import BibEdit.Unicode.Ranges
import BibEdit.Proofs.Ascending
import BibEdit.Proofs.Condition.Colons
import BibEdit.Proofs.Condition.Grammar
import BibEdit.Proofs.Condition.RoundTrip
import BibEdit.Proofs.Console.Dialogue
import BibEdit.Proofs.Database.Import
import BibEdit.Proofs.Database.Keys
import BibEdit.Proofs.Database.Ledger
import BibEdit.Proofs.Database.Load
import BibEdit.Proofs.Database.Names
import BibEdit.Proofs.Database.Numbers
import BibEdit.Proofs.Database.Ownership
import BibEdit.Proofs.Database.Parts
import BibEdit.Proofs.Database.Pointwise
import BibEdit.Proofs.Database.Save
import BibEdit.Proofs.Database.Search
import BibEdit.Proofs.Database.Session
import BibEdit.Proofs.Database.Tables
import BibEdit.Proofs.Database.Workspace
import BibEdit.Proofs.Evaluation
import BibEdit.Proofs.Evaluation.Detail
import BibEdit.Proofs.Evaluation.Order
import BibEdit.Proofs.Library.Derailed
import BibEdit.Proofs.Library.Export
import BibEdit.Proofs.Library.Keys
import BibEdit.Proofs.Library.Listing
import BibEdit.Proofs.Library.Load
import BibEdit.Proofs.Library.Reachable
import BibEdit.Proofs.Library.Reimport
import BibEdit.Proofs.Library.Save
import BibEdit.Proofs.Library.Scope
import BibEdit.Proofs.Library.Search
import BibEdit.Proofs.Library.Sound
import BibEdit.Proofs.Lookup
import BibEdit.Proofs.Pattern.Contains
import BibEdit.Proofs.Pattern.Glob
import BibEdit.Proofs.Pattern.Language
import BibEdit.Proofs.Pattern.Stream
import BibEdit.Proofs.Pattern.Test
import BibEdit.Proofs.Pattern.Validation
import BibEdit.Proofs.Pattern.Wildcard
import BibEdit.Proofs.Probe.Advisory
import BibEdit.Proofs.Probe.Extract
import BibEdit.Proofs.Probe.Follows
import BibEdit.Proofs.Probe.Headers
import BibEdit.Proofs.Probe.Kept
import BibEdit.Proofs.Probe.Literal
import BibEdit.Proofs.Probe.Necessary
import BibEdit.Proofs.Probe.Plan
import BibEdit.Proofs.Probe.Runs
import BibEdit.Proofs.Probe.Search
import BibEdit.Proofs.Probe.Term
import BibEdit.Proofs.Probe.Walk
import BibEdit.Proofs.Probe.Widths
import BibEdit.Proofs.Regex.Casing
import BibEdit.Proofs.Regex.Exact
import BibEdit.Proofs.Regex.Grammar
import BibEdit.Proofs.Regex.Language
import BibEdit.Proofs.Regex.Leftmost
import BibEdit.Proofs.Regex.Limits
import BibEdit.Proofs.Regex.Opening
import BibEdit.Proofs.Regex.Reading
import BibEdit.Proofs.Regex.Spans
import BibEdit.Proofs.Regex.Tracks
import BibEdit.Proofs.Regex.Tree
import BibEdit.Proofs.Replacement.Template
import BibEdit.Proofs.Revision.Batch
import BibEdit.Proofs.Revision.Commit
import BibEdit.Proofs.Revision.Edits
import BibEdit.Proofs.Revision.Frame
import BibEdit.Proofs.Revision.Literal
import BibEdit.Proofs.Revision.Snapshots
import BibEdit.Proofs.Revision.Splice
import BibEdit.Proofs.Search.Protocol
import BibEdit.Proofs.Session.Announced
import BibEdit.Proofs.Session.Consent
import BibEdit.Proofs.Session.Display
import BibEdit.Proofs.Session.Highlight
import BibEdit.Proofs.Session.Replace
import BibEdit.Proofs.Session.Review
import BibEdit.Proofs.Session.Work
import BibEdit.Proofs.Settings.Unrecognized
import BibEdit.Proofs.Snapshot.RoundTrip
import BibEdit.Proofs.Success
import BibEdit.Proofs.Text.Numeral
import BibEdit.Proofs.Text.Splice
import BibEdit.Proofs.Toml.Keyed
import BibEdit.Proofs.Toml.Same
import BibEdit.Proofs.Unicode.Fold
