import Conform.CodePointer
import Conform.Command.Argument
import Conform.Command.Run
import Conform.Command.Task
import Conform.Compile.Build
import Conform.Compile.Document
import Conform.Compile.Keyword
import Conform.Compile.Options
import Conform.Compile.Reference
import Conform.Compile.Registry
import Conform.Compile.Schema
import Conform.Compile.Session
import Conform.Failure
import Conform.Format.Identifier
import Conform.Format.Standard
import Conform.Format.Time
import Conform.Json.Equality
import Conform.Json.Reader
import Conform.Json.Value
import Conform.Json.Writer
import Conform.Main
import Conform.Network.Address
import Conform.Network.Hostname
import Conform.Network.NameTables
import Conform.Network.Nameprep
import Conform.Network.Punycode
import Conform.Number.Basic
import Conform.Number.Decimal
import Conform.Number.Double
import Conform.Number.Places
import Conform.Pointer
import Conform.Proofs.CodePointer
import Conform.Proofs.Compile.Account
import Conform.Proofs.Compile.Addressed
import Conform.Proofs.Compile.Alike
import Conform.Proofs.Compile.Answers
import Conform.Proofs.Compile.Bases
import Conform.Proofs.Compile.Building
import Conform.Proofs.Compile.Built
import Conform.Proofs.Compile.Callers
import Conform.Proofs.Compile.Causes
import Conform.Proofs.Compile.Checks
import Conform.Proofs.Compile.Congruence
import Conform.Proofs.Compile.Contained
import Conform.Proofs.Compile.Counted
import Conform.Proofs.Compile.Cycles
import Conform.Proofs.Compile.Depth
import Conform.Proofs.Compile.Descent
import Conform.Proofs.Compile.Determined
import Conform.Proofs.Compile.Documents
import Conform.Proofs.Compile.Extent
import Conform.Proofs.Compile.Faithful
import Conform.Proofs.Compile.Filed
import Conform.Proofs.Compile.Histories
import Conform.Proofs.Compile.Identity
import Conform.Proofs.Compile.Keeps
import Conform.Proofs.Compile.Kept
import Conform.Proofs.Compile.Ledger
import Conform.Proofs.Compile.Library
import Conform.Proofs.Compile.Loading
import Conform.Proofs.Compile.Locations
import Conform.Proofs.Compile.Memo
import Conform.Proofs.Compile.Neighbours
import Conform.Proofs.Compile.Nested
import Conform.Proofs.Compile.Objects
import Conform.Proofs.Compile.Observed
import Conform.Proofs.Compile.Observing
import Conform.Proofs.Compile.Order
import Conform.Proofs.Compile.Parallel
import Conform.Proofs.Compile.Pointed
import Conform.Proofs.Compile.Reached
import Conform.Proofs.Compile.Rearranged
import Conform.Proofs.Compile.Registered
import Conform.Proofs.Compile.Regular
import Conform.Proofs.Compile.Reordered
import Conform.Proofs.Compile.Reproduced
import Conform.Proofs.Compile.Requested
import Conform.Proofs.Compile.Resources
import Conform.Proofs.Compile.Retried
import Conform.Proofs.Compile.Runs
import Conform.Proofs.Compile.Sequences
import Conform.Proofs.Compile.Settled
import Conform.Proofs.Compile.Subnodes
import Conform.Proofs.Compile.Survey
import Conform.Proofs.Compile.Trees
import Conform.Proofs.Compile.Walks
import Conform.Proofs.Format.Identifier
import Conform.Proofs.Format.Pointer
import Conform.Proofs.Format.Time
import Conform.Proofs.Fragment
import Conform.Proofs.Json.Canonical
import Conform.Proofs.Json.Decoded
import Conform.Proofs.Json.Members
import Conform.Proofs.Json.Rearranged
import Conform.Proofs.Lists
import Conform.Proofs.Number.Divisible
import Conform.Proofs.Number.Doubles
import Conform.Proofs.Number.Exact
import Conform.Proofs.Number.Multiple
import Conform.Proofs.Number.Order
import Conform.Proofs.Number.Rounding
import Conform.Proofs.Pointer
import Conform.Proofs.Pointer.Address
import Conform.Proofs.Pointer.Codes
import Conform.Proofs.Pointer.Text
import Conform.Proofs.Result
import Conform.Proofs.Schema.Acceptance
import Conform.Proofs.Schema.Agreement
import Conform.Proofs.Schema.Asked
import Conform.Proofs.Schema.Collect
import Conform.Proofs.Schema.Concord
import Conform.Proofs.Schema.Consistent
import Conform.Proofs.Schema.Distinct
import Conform.Proofs.Schema.Elsewhere
import Conform.Proofs.Schema.Failures
import Conform.Proofs.Schema.Inquiry
import Conform.Proofs.Schema.Invariance
import Conform.Proofs.Schema.Multiples
import Conform.Proofs.Schema.Reading
import Conform.Proofs.Schema.Relocated
import Conform.Proofs.Schema.Reports
import Conform.Proofs.Schema.Totality
import Conform.Proofs.Schema.Tractable
import Conform.Proofs.Schema.Tree
import Conform.Proofs.Schema.Words
import Conform.Proofs.Uri
import Conform.Regex.Element
import Conform.Regex.Fault
import Conform.Regex.Match
import Conform.Regex.Pattern
import Conform.Regex.Reader
import Conform.Regex.Source
import Conform.Schema.Acceptance
import Conform.Schema.Constraint
import Conform.Schema.Equality
import Conform.Schema.EvalError
import Conform.Schema.Findings
import Conform.Schema.Message
import Conform.Schema.Node
import Conform.Schema.Outcome
import Conform.Source.Loader
import Conform.Source.Resource
import Conform.Storage.Files
import Conform.Storage.Path
import Conform.Table.Basic
import Conform.Table.Column
import Conform.Table.Csv
import Conform.Table.Fault
import Conform.Table.Instant
import Conform.Text.Base64
import Conform.Text.Blank
import Conform.Text.Case
import Conform.Text.CodePoint
import Conform.Text.Digit
import Conform.Text.Percent
import Conform.Text.Printable
import Conform.Text.Quoted
import Conform.Text.Ranges
import Conform.Text.Split
import Conform.Text.Utf8
import Conform.Text.Word
import Conform.Uri
import Conform.Yaml.Cursor
import Conform.Yaml.Fault
import Conform.Yaml.Number
import Conform.Yaml.Scalar
import Conform.Yaml.Tag
import Conform.Yaml.Token
import Conform.Yaml.Tree
import Conform.Yaml.Value
