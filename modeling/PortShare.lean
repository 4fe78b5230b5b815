import PortShare.AccessLevel
import PortShare.Command
import PortShare.CommandLine.Grammar
import PortShare.CommandLine.Read
import PortShare.CommandLine.Screens
import PortShare.CommandLine.Values
import PortShare.Decimal.Binary64
import PortShare.Decimal.Shortest
import PortShare.DevUrl
import PortShare.Failure
import PortShare.Files
import PortShare.Http.Client
import PortShare.Http.Exchange
import PortShare.Http.Message
import PortShare.Http.Proxy
import PortShare.Http.Route
import PortShare.Json.Fault
import PortShare.Json.Lexeme
import PortShare.Json.Literal
import PortShare.Json.Reader
import PortShare.Json.Record
import PortShare.Json.Skip
import PortShare.Json.Tree
import PortShare.Json.Value
import PortShare.Json.Writer
import PortShare.Log
import PortShare.Main
import PortShare.Plan
import PortShare.Program
import PortShare.Proofs.Course
import PortShare.Proofs.Effect
import PortShare.Proofs.Holdings
import PortShare.Proofs.Http.Agreement
import PortShare.Proofs.Http.Calls
import PortShare.Proofs.Http.Naming
import PortShare.Proofs.Http.Safety
import PortShare.Proofs.Http.Script
import PortShare.Proofs.Json.Grammar
import PortShare.Proofs.Json.Lexeme
import PortShare.Proofs.Json.Members
import PortShare.Proofs.Json.Number
import PortShare.Proofs.Json.Reading
import PortShare.Proofs.Json.Writing
import PortShare.Proofs.Numeral
import PortShare.Proofs.ReadBeforeWrite
import PortShare.Proofs.Sound
import PortShare.Proofs.Turns
import PortShare.Proofs.Utf8
import PortShare.Proofs.Visit
import PortShare.Proofs.Wire
import PortShare.Reconcile
import PortShare.Report
import PortShare.Session
import PortShare.Settings.Check
import PortShare.Settings.File
import PortShare.Settings.Merge
import PortShare.Settings.Variables
import PortShare.Store
import PortShare.Text.Category
import PortShare.Text.Composed
import PortShare.Text.Direction
import PortShare.Text.Joining
import PortShare.Text.Mark
import PortShare.Text.Numeral
import PortShare.Text.Quoted
import PortShare.Text.Utf8
import PortShare.Toml.Document
import PortShare.Toml.Lexeme
import PortShare.Toml.Scalar
import PortShare.Toml.Table
import PortShare.Url.Domain
import PortShare.Url.Folding
import PortShare.Url.Form
import PortShare.Url.Host
import PortShare.Url.Label
import PortShare.Url.Origin
import PortShare.Url.Path
import PortShare.Url.Percent
import PortShare.Url.Punycode
import PortShare.Url.Read
import PortShare.Validation
import PortShare.Wire
import PortShare.Proofs.PortCount
import PortShare.Proofs.Settled
import PortShare.Proofs.Traffic
import PortShare.Proofs.Json.Layout
import PortShare.Proofs.Listing
import PortShare.Proofs.Json.Skipping
import PortShare.Proofs.Json.Exact
import PortShare.Proofs.Json.Records
import PortShare.Proofs.Decoding
import PortShare.Proofs.Delivery
import PortShare.Proofs.Url.Path
import PortShare.Proofs.Http.Address
import PortShare.Proofs.Http.Classification
import PortShare.Proofs.Http.Token
import PortShare.Proofs.Settings.Token
import PortShare.Proofs.CommandLine.Token
import PortShare.Proofs.CommandLine.Screens
import PortShare.Proofs.Secrecy
import PortShare.Proofs.Transcript
import PortShare.Proofs.Separation
import PortShare.Proofs.Gate
import PortShare.Proofs.Json.Extent
import PortShare.Proofs.Entire
import PortShare.Proofs.CommandLine.Variables
import PortShare.Proofs.LocalFault
import PortShare.Proofs.Url.Form
import PortShare.Proofs.Http.Endpoint
import PortShare.Proofs.Http.Explanation
import PortShare.Proofs.Http.Outcome
import PortShare.Proofs.Program
import PortShare.Proofs.Untroubled
import PortShare.Proofs.Overwriting
import PortShare.Proofs.Draining
import PortShare.Proofs.Commuting
import PortShare.Proofs.Admission
import PortShare.Proofs.Port
import PortShare.Proofs.AccessLevel
import PortShare.Proofs.Http.Body
import PortShare.Proofs.Settings.Template
import PortShare.Proofs.Table
import PortShare.Proofs.Settings.Unclosed
import PortShare.Proofs.Toml.Ended
import PortShare.Proofs.Toml.Lines
import PortShare.Proofs.Toml.Difference
import PortShare.Proofs.Toml.Quoted
import PortShare.Proofs.Settings.TokenLine
import PortShare.Proofs.Quoted
import PortShare.Proofs.Configured
import PortShare.Proofs.Wording
