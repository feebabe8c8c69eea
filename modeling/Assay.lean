import Assay.Text.Blank
import Assay.Text.Search
import Assay.Text.Slice
import Assay.Number.Shortest
import Assay.Json.Number
import Assay.Json.Basic
import Assay.Json.Writer
import Assay.Json.Reader
import Assay.Unicode.Cuts
import Assay.Unicode.Properties
import Assay.Unicode.CaseMaps
import Assay.Text.Casing
import Assay.Text.Quoted
import Assay.Text.Utf8
import Assay.Dict
import Assay.Time.Span
import Assay.Time.Instant
import Assay.Uuid
import Assay.Json.Decode
import Assay.Http.Method
import Assay.Http.Request
import Assay.Http.Response
import Assay.Case.Assertion
import Assay.Report.Outcome
import Assay.Report.Basic
import Assay.Case.Basic
import Assay.Unicode.Runs
import Assay.Unicode.Category
import Assay.Unicode.Script
import Assay.Unicode.Binary
import Assay.Regex.Class
import Assay.Regex.Syntax
import Assay.Regex.Parser
import Assay.Regex.Basic
import Assay.Json.Path
import Assay.Template.Basic
import Assay.Template.BuiltIn
import Assay.Template.Scopes
import Assay.Template.Resolver
import Assay.Pairing
import Assay.Check.Pattern
import Assay.Check.Structure
import Assay.Check.Fault
import Assay.Check.Body
import Assay.Check.Headers
import Assay.Check.Assertions
import Assay.Check.Database
import Assay.Check.Suite
import Assay.Url.Percent
import Assay.Url.Punycode
import Assay.Url.Host
import Assay.Url.Basic
import Assay.Files.Path
import Assay.Files.Tree
import Assay.Run.Fault
import Assay.Run.Executor
import Assay.Output.Sink
import Assay.Run.Error
import Assay.Run.Bridge
import Assay.Run.Ledger
import Assay.Run.Runner
import Assay.Json.Pieces
import Assay.Output.Console
import Assay.Output.JsonLines
import Assay.Output.Allure
import Assay.Yaml.Token
import Assay.Yaml.Cursor
import Assay.Yaml.Scalar
import Assay.Yaml.Lexer
import Assay.Yaml.Node
import Assay.Yaml.Plain
import Assay.Yaml.Shape
import Assay.Load.Definition
import Assay.Load.Files
import Assay.Output.Desk
import Assay.Output.Guest
import Assay.Run.Scripted
import Assay.Harness.Config
import Assay.Harness.Client
import Assay.Harness.Basic
import Assay.Cli.Arguments
import Assay.Cli.Program
import Assay.Files.Changes
import Assay.Main
import Assay.Proofs.Json
import Assay.Proofs.Pairing
import Assay.Proofs.Matching
import Assay.Proofs.Outputs
import Assay.Proofs.Runner
import Assay.Proofs.Asking
import Assay.Proofs.Executor
import Assay.Proofs.Verdict
import Assay.Proofs.Templates
import Assay.Proofs.Lifetime
import Assay.Proofs.Captures
import Assay.Proofs.Gating
import Assay.Proofs.Dictionary
import Assay.Proofs.Commuting
import Assay.Proofs.Arranging
import Assay.Proofs.Decoding
import Assay.Proofs.Definitions
import Assay.Proofs.Reading
import Assay.Proofs.Calendar
import Assay.Proofs.Instants
import Assay.Proofs.Reports
import Assay.Proofs.Lines
import Assay.Proofs.Consoles
import Assay.Proofs.Views
import Assay.Proofs.Naming
import Assay.Proofs.Focus
import Assay.Proofs.Paths
import Assay.Proofs.Locating
import Assay.Proofs.Refusals
import Assay.Proofs.Bridges
import Assay.Proofs.Largest
import Assay.Proofs.Unpaired
import Assay.Proofs.Attempts
import Assay.Proofs.Indenting
import Assay.Proofs.Directories
import Assay.Proofs.Results
import Assay.Proofs.Resolving
import Assay.Proofs.Altering
import Assay.Proofs.Filling
import Assay.Proofs.Settling
import Assay.Proofs.Relaxing
import Assay.Proofs.Relating
import Assay.Proofs.Ordering
import Assay.Proofs.Recorded
import Assay.Proofs.Routes
import Assay.Proofs.Listing
import Assay.Proofs.Loading
import Assay.Proofs.Malformed
import Assay.Proofs.Expecting
import Assay.Proofs.Rounding
import Assay.Proofs.Comparing
import Assay.Proofs.Lettercase
import Assay.Proofs.Courses
import Assay.Proofs.Histories
import Assay.Proofs.Wordings
import Assay.Proofs.Spelling
import Assay.Proofs.Braces
import Assay.Proofs.Labels
import Assay.Proofs.Domains
import Assay.Proofs.Hosts
import Assay.Proofs.Addresses
import Assay.Proofs.Joining
import Assay.Proofs.Previews
