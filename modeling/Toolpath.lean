import Toolpath.Block
import Toolpath.Calendar
import Toolpath.Clock
import Toolpath.Command
import Toolpath.CommandLine.Arguments
import Toolpath.CommandLine.Program
import Toolpath.Config.Check
import Toolpath.Config.Checked
import Toolpath.Config.File
import Toolpath.Config.Settings
import Toolpath.Decimal.Binary
import Toolpath.Decimal.Layout
import Toolpath.Decimal.Reader
import Toolpath.Decimal.Shortest
import Toolpath.Decimal.Whole
import Toolpath.Encoding.Base64
import Toolpath.Encoding.Decode
import Toolpath.Encoding.Halves
import Toolpath.Encoding.Name
import Toolpath.Encoding.SingleByte
import Toolpath.Encoding.Utf16
import Toolpath.Encoding.Utf8
import Toolpath.Entries
import Toolpath.Event
import Toolpath.Files.Document
import Toolpath.Files.Path
import Toolpath.Files.Tree
import Toolpath.Geometry
import Toolpath.Json.Printer
import Toolpath.Json.Reader
import Toolpath.Layer
import Toolpath.Log.Line
import Toolpath.Log.Moment
import Toolpath.Log.Record
import Toolpath.Log.Setup
import Toolpath.Log.Template
import Toolpath.Machine
import Toolpath.Main
import Toolpath.Proofs.Accounting
import Toolpath.Proofs.Agreement
import Toolpath.Proofs.Alike
import Toolpath.Proofs.AnnouncedLength
import Toolpath.Proofs.Bounds
import Toolpath.Proofs.Comments
import Toolpath.Proofs.Continuation
import Toolpath.Proofs.Delivery
import Toolpath.Proofs.Depth
import Toolpath.Proofs.Digits
import Toolpath.Proofs.Drawing
import Toolpath.Proofs.Erasure
import Toolpath.Proofs.Escapes
import Toolpath.Proofs.Fields
import Toolpath.Proofs.Finite
import Toolpath.Proofs.FiniteSummary
import Toolpath.Proofs.Guarded
import Toolpath.Proofs.Handlers
import Toolpath.Proofs.Hop
import Toolpath.Proofs.Indented
import Toolpath.Proofs.Journal
import Toolpath.Proofs.JsonText
import Toolpath.Proofs.JsonTokens
import Toolpath.Proofs.LastWrite
import Toolpath.Proofs.Layering
import Toolpath.Proofs.LetterCase
import Toolpath.Proofs.Lines
import Toolpath.Proofs.Listening
import Toolpath.Proofs.Literals
import Toolpath.Proofs.LogLines
import Toolpath.Proofs.LongestNumeral
import Toolpath.Proofs.Meaning
import Toolpath.Proofs.Nearest
import Toolpath.Proofs.NormalSettings
import Toolpath.Proofs.Numeral
import Toolpath.Proofs.Plan
import Toolpath.Proofs.Polyline
import Toolpath.Proofs.ReadBack
import Toolpath.Proofs.Recasing
import Toolpath.Proofs.Recording
import Toolpath.Proofs.Reports
import Toolpath.Proofs.Resolution
import Toolpath.Proofs.Rounding
import Toolpath.Proofs.ScalarKeys
import Toolpath.Proofs.SegmentCount
import Toolpath.Proofs.ShortestDigits
import Toolpath.Proofs.Site
import Toolpath.Proofs.Spacing
import Toolpath.Proofs.Steps
import Toolpath.Proofs.Utf8
import Toolpath.Proofs.Verdict
import Toolpath.Run
import Toolpath.Source.Fetch
import Toolpath.Source.Load
import Toolpath.Source.Loader
import Toolpath.Source.Network
import Toolpath.Summary
import Toolpath.Text.Blank
import Toolpath.Text.Case
import Toolpath.Text.CaseTable
import Toolpath.Text.CasedTable
import Toolpath.Text.Digit
import Toolpath.Text.Half
import Toolpath.Text.Printable
import Toolpath.Text.Quoted
import Toolpath.Url.Basic
import Toolpath.Url.Host
import Toolpath.Url.Join
import Toolpath.Value
import Toolpath.Yaml.Cursor
import Toolpath.Yaml.Fault
import Toolpath.Yaml.Graph
import Toolpath.Yaml.Key
import Toolpath.Yaml.Literal
import Toolpath.Yaml.Merge
import Toolpath.Yaml.Node
import Toolpath.Yaml.Plain
import Toolpath.Yaml.Reader
import Toolpath.Yaml.Scalar
import Toolpath.Yaml.Token
