import FluentAssert.Canonical
import FluentAssert.Canonical.Document
import FluentAssert.Canonical.OfNative
import FluentAssert.Chain
import FluentAssert.Config
import FluentAssert.Duration
import FluentAssert.Environment
import FluentAssert.Environment.Store
import FluentAssert.Fields
import FluentAssert.FileTree
import FluentAssert.Finding
import FluentAssert.Glob
import FluentAssert.Handler
import FluentAssert.Http.ContentType
import FluentAssert.Http.Message
import FluentAssert.Http.Status
import FluentAssert.Journal
import FluentAssert.Json.Reader
import FluentAssert.Json.Value
import FluentAssert.Json.Writer
import FluentAssert.LineDiff.Script
import FluentAssert.LineDiff.Settle
import FluentAssert.LineDiff.Shortest
import FluentAssert.Message
import FluentAssert.Message.Settings
import FluentAssert.Message.Settings.Document
import FluentAssert.Message.Settings.File
import FluentAssert.Native
import FluentAssert.Native.Json
import FluentAssert.Native.OfCanonical
import FluentAssert.Native.OfJson
import FluentAssert.Node
import FluentAssert.Node.Array
import FluentAssert.Node.Boolean
import FluentAssert.Node.Match
import FluentAssert.Node.Number
import FluentAssert.Node.Object
import FluentAssert.Node.Response
import FluentAssert.Node.Text
import FluentAssert.Node.Value
import FluentAssert.Number.Binary
import FluentAssert.Number.Format
import FluentAssert.Number.Layout
import FluentAssert.Number.Literal
import FluentAssert.Number.Shortest
import FluentAssert.Proofs.Canonical.Alike
import FluentAssert.Proofs.Canonical.Containment
import FluentAssert.Proofs.Canonical.Entries
import FluentAssert.Proofs.Canonical.Equality
import FluentAssert.Proofs.Canonical.Idempotence
import FluentAssert.Proofs.Canonical.Leaves
import FluentAssert.Proofs.Canonical.Multiset
import FluentAssert.Proofs.Canonical.Offences
import FluentAssert.Proofs.Canonical.Routes
import FluentAssert.Proofs.Canonical.Shown
import FluentAssert.Proofs.Chain.Calls
import FluentAssert.Proofs.Chain.Suppression
import FluentAssert.Proofs.Environment.Numbers
import FluentAssert.Proofs.Environment.Refinement
import FluentAssert.Proofs.Environment.Table
import FluentAssert.Proofs.Environment.TypeSafety
import FluentAssert.Proofs.Fields
import FluentAssert.Proofs.FileTree
import FluentAssert.Proofs.Handler
import FluentAssert.Proofs.Http.ContentType
import FluentAssert.Proofs.Http.Headers
import FluentAssert.Proofs.Http.LetterCase
import FluentAssert.Proofs.Json.Document
import FluentAssert.Proofs.Json.Encoded
import FluentAssert.Proofs.Json.Printed
import FluentAssert.Proofs.Json.Proper
import FluentAssert.Proofs.Json.Scalar
import FluentAssert.Proofs.LineDiff.Sides
import FluentAssert.Proofs.Message.Colors
import FluentAssert.Proofs.Message.Diff
import FluentAssert.Proofs.Message.Discovery
import FluentAssert.Proofs.Message.Limit
import FluentAssert.Proofs.Message.Parts
import FluentAssert.Proofs.Native.Document
import FluentAssert.Proofs.Node.Body
import FluentAssert.Proofs.Node.Calls
import FluentAssert.Proofs.Node.Containment
import FluentAssert.Proofs.Node.Content
import FluentAssert.Proofs.Node.ContentType
import FluentAssert.Proofs.Node.Operation
import FluentAssert.Proofs.Node.Elements
import FluentAssert.Proofs.Node.Fields
import FluentAssert.Proofs.Node.Fold
import FluentAssert.Proofs.Node.Headers
import FluentAssert.Proofs.Node.Isolation
import FluentAssert.Proofs.Node.Iteration
import FluentAssert.Proofs.Node.Journey
import FluentAssert.Proofs.Node.Judgement
import FluentAssert.Proofs.Node.Label
import FluentAssert.Proofs.Node.LetterCase
import FluentAssert.Proofs.Node.Matches
import FluentAssert.Proofs.Node.Navigation
import FluentAssert.Proofs.Node.Numbers
import FluentAssert.Proofs.Node.Positions
import FluentAssert.Proofs.Node.Reduction
import FluentAssert.Proofs.Node.Standing
import FluentAssert.Proofs.Node.Trail
import FluentAssert.Proofs.Number.Whole
import FluentAssert.Proofs.Number.Worth
import FluentAssert.Proofs.Operation
import FluentAssert.Proofs.Operation.Inquiry
import FluentAssert.Proofs.Operation.Pair
import FluentAssert.Proofs.Operation.Plan
import FluentAssert.Proofs.Operation.Route
import FluentAssert.Proofs.Operation.Verdict
import FluentAssert.Proofs.Program
import FluentAssert.Proofs.Program.Breadcrumbs
import FluentAssert.Proofs.Program.HeldChains
import FluentAssert.Proofs.Program.History
import FluentAssert.Proofs.Program.Mirror
import FluentAssert.Proofs.Program.Parts
import FluentAssert.Proofs.Program.Scopes
import FluentAssert.Proofs.Program.Steady
import FluentAssert.Proofs.Program.Uniform
import FluentAssert.Proofs.Regex.Groups
import FluentAssert.Proofs.Regex.Names
import FluentAssert.Proofs.Run.History
import FluentAssert.Proofs.Run.Laws
import FluentAssert.Proofs.Run.Local
import FluentAssert.Proofs.Session.Entrance
import FluentAssert.Proofs.Session.Exchange
import FluentAssert.Proofs.Session.Fatal
import FluentAssert.Proofs.Session.Pipeline
import FluentAssert.Proofs.Session.Transparency
import FluentAssert.Proofs.Session.Views
import FluentAssert.Proofs.Text.Encoded
import FluentAssert.Proofs.Text.Lines
import FluentAssert.Proofs.Text.Lowercase
import FluentAssert.Proofs.Text.Quoted
import FluentAssert.Proofs.Text.Split
import FluentAssert.Proofs.Text.Utf8
import FluentAssert.Regex
import FluentAssert.Regex.Bracket
import FluentAssert.Regex.Cursor
import FluentAssert.Regex.Escape
import FluentAssert.Regex.Expr
import FluentAssert.Regex.Fault
import FluentAssert.Regex.Meaning
import FluentAssert.Regex.Memory
import FluentAssert.Regex.Octets
import FluentAssert.Regex.Program
import FluentAssert.Regex.Reader
import FluentAssert.Regex.Search
import FluentAssert.Regex.Tree
import FluentAssert.Run
import FluentAssert.Session
import FluentAssert.Text.Age
import FluentAssert.Text.AgeTable
import FluentAssert.Text.Alphabetic
import FluentAssert.Text.Blank
import FluentAssert.Text.Category
import FluentAssert.Text.CategoryTable
import FluentAssert.Text.CharSet
import FluentAssert.Text.Fold
import FluentAssert.Text.FoldTable
import FluentAssert.Text.Lines
import FluentAssert.Text.Lowercase
import FluentAssert.Text.LowercaseTable
import FluentAssert.Text.Property
import FluentAssert.Text.Property.Binary
import FluentAssert.Text.Property.BinaryTable
import FluentAssert.Text.Property.Break
import FluentAssert.Text.Property.Category
import FluentAssert.Text.Quoted
import FluentAssert.Text.Ranges
import FluentAssert.Text.Script
import FluentAssert.Text.ScriptTable
import FluentAssert.Text.Utf8
import FluentAssert.Yaml.Cursor
import FluentAssert.Yaml.Document
import FluentAssert.Yaml.Event
import FluentAssert.Yaml.Scalar
import FluentAssert.Yaml.Scanner
import FluentAssert.Yaml.Token
import FluentAssert.Yaml.Value
