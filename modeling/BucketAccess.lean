import BucketAccess.Arn
import BucketAccess.Bucket.Name
import BucketAccess.Catalog.Actions
import BucketAccess.Catalog.Conditions
import BucketAccess.Catalog.Documents
import BucketAccess.Catalog.Identities
import BucketAccess.CommandLine.Arguments
import BucketAccess.CommandLine.Command
import BucketAccess.CommandLine.Output
import BucketAccess.CommandLine.Run
import BucketAccess.CommandLine.Usage
import BucketAccess.CommandLine.Word
import BucketAccess.Decimal.Digits
import BucketAccess.Decimal.Double
import BucketAccess.Decimal.Layout
import BucketAccess.Decimal.Shortest
import BucketAccess.Failure
import BucketAccess.Files.Path
import BucketAccess.Files.Tree
import BucketAccess.Generator
import BucketAccess.Json.Display
import BucketAccess.Json.Document
import BucketAccess.Json.Fault
import BucketAccess.Json.Number
import BucketAccess.Json.Reading
import BucketAccess.Json.Text
import BucketAccess.Json.Value
import BucketAccess.Json.Writer
import BucketAccess.Log
import BucketAccess.Main
import BucketAccess.Policy.Action
import BucketAccess.Policy.Draft
import BucketAccess.Policy.Finding
import BucketAccess.Policy.Review
import BucketAccess.Policy.Scope
import BucketAccess.Policy.Selection
import BucketAccess.Preset
import BucketAccess.Principal.Advice
import BucketAccess.Principal.Review
import BucketAccess.Principal.Shape
import BucketAccess.Proofs.Arn
import BucketAccess.Proofs.Bucket.Labels
import BucketAccess.Proofs.Bucket.Name
import BucketAccess.Proofs.CommandLine.FailingRuns
import BucketAccess.Proofs.CommandLine.Generating
import BucketAccess.Proofs.CommandLine.Options
import BucketAccess.Proofs.CommandLine.Printout
import BucketAccess.Proofs.CommandLine.Reporting
import BucketAccess.Proofs.CommandLine.SavedPolicy
import BucketAccess.Proofs.CommandLine.Steps
import BucketAccess.Proofs.CommandLine.Supply
import BucketAccess.Proofs.Decimal.Digits
import BucketAccess.Proofs.Decimal.Layout
import BucketAccess.Proofs.Decimal.Printing
import BucketAccess.Proofs.Decimal.Rounding
import BucketAccess.Proofs.Files.Path
import BucketAccess.Proofs.Files.Store
import BucketAccess.Proofs.Files.Tree
import BucketAccess.Proofs.Generator
import BucketAccess.Proofs.Json.Ascii
import BucketAccess.Proofs.Json.Completeness
import BucketAccess.Proofs.Json.Exact
import BucketAccess.Proofs.Json.Grammar
import BucketAccess.Proofs.Json.Naming
import BucketAccess.Proofs.Json.Nesting
import BucketAccess.Proofs.Json.Number
import BucketAccess.Proofs.Json.Reordering
import BucketAccess.Proofs.Json.RoundTrip
import BucketAccess.Proofs.Json.Soundness
import BucketAccess.Proofs.Json.Strict
import BucketAccess.Proofs.Json.Text
import BucketAccess.Proofs.Json.WellFormed
import BucketAccess.Proofs.Policy.Acceptance
import BucketAccess.Proofs.Policy.Confinement
import BucketAccess.Proofs.Policy.Draft
import BucketAccess.Proofs.Policy.Grammar
import BucketAccess.Proofs.Policy.Growth
import BucketAccess.Proofs.Policy.Identities
import BucketAccess.Proofs.Policy.Ignored
import BucketAccess.Proofs.Policy.Inside
import BucketAccess.Proofs.Policy.MemberOrder
import BucketAccess.Proofs.Policy.Order
import BucketAccess.Proofs.Policy.Places
import BucketAccess.Proofs.Policy.Refusal
import BucketAccess.Proofs.Policy.Selection
import BucketAccess.Proofs.Policy.Spelling
import BucketAccess.Proofs.Policy.Statements
import BucketAccess.Proofs.Policy.Typing
import BucketAccess.Proofs.Principal.Acceptance
import BucketAccess.Proofs.Principal.Completion
import BucketAccess.Proofs.Principal.DeadEnd
import BucketAccess.Proofs.Principal.Grammar
import BucketAccess.Proofs.Principal.Guidance
import BucketAccess.Proofs.Principal.Identity
import BucketAccess.Proofs.Principal.Kinds
import BucketAccess.Proofs.Principal.Pattern
import BucketAccess.Proofs.Saving
import BucketAccess.Proofs.Saving.Outcome
import BucketAccess.Proofs.Session.Course
import BucketAccess.Proofs.Session.Files
import BucketAccess.Proofs.Session.Ids
import BucketAccess.Proofs.Sid
import BucketAccess.Proofs.Text.Beginning
import BucketAccess.Proofs.Text.Fields
import BucketAccess.Proofs.Text.Points
import BucketAccess.Proofs.Text.Utf8
import BucketAccess.Proofs.Work
import BucketAccess.Saving
import BucketAccess.Session
import BucketAccess.Settings
import BucketAccess.Sid
import BucketAccess.Text.Blank
import BucketAccess.Text.Digit
import BucketAccess.Text.Hex
import BucketAccess.Text.Lines
import BucketAccess.Text.Printable
import BucketAccess.Text.Quoted
import BucketAccess.Text.Split
import BucketAccess.Text.Uppercase
import BucketAccess.Text.Uppercase.Table
import BucketAccess.Text.Utf8
import BucketAccess.Verdict
import BucketAccess.Workspace
