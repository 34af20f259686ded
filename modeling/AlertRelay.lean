import AlertRelay.Alert.Event
import AlertRelay.Alert.Level
import AlertRelay.Alert.Occurrence
import AlertRelay.Alert.Payload
import AlertRelay.Command.Arguments
import AlertRelay.Command.Help
import AlertRelay.Command.Run
import AlertRelay.Config.Endpoint
import AlertRelay.Config.Files
import AlertRelay.Config.Handler
import AlertRelay.Config.Service
import AlertRelay.Config.Settings
import AlertRelay.Delivery.Exchange
import AlertRelay.Delivery.Failure
import AlertRelay.Delivery.Fault
import AlertRelay.Delivery.Notice
import AlertRelay.Delivery.Post
import AlertRelay.Delivery.Rejection
import AlertRelay.Delivery.Service
import AlertRelay.Delivery.Wire
import AlertRelay.Json.Reader
import AlertRelay.Json.Text
import AlertRelay.Log.Entry
import AlertRelay.Log.Line
import AlertRelay.Log.Sink
import AlertRelay.Log.Threshold
import AlertRelay.Main
import AlertRelay.Number.Decimal
import AlertRelay.Number.Double
import AlertRelay.Number.Layout
import AlertRelay.Number.Order
import AlertRelay.Number.Power
import AlertRelay.Number.Reading
import AlertRelay.Number.Shortest
import AlertRelay.Proofs.Alert.Encoding
import AlertRelay.Proofs.Alert.Lossless
import AlertRelay.Proofs.Command.ExitCode
import AlertRelay.Proofs.Command.Texts
import AlertRelay.Proofs.Command.Words
import AlertRelay.Proofs.Config.Caching
import AlertRelay.Proofs.Config.Endpoint
import AlertRelay.Proofs.Config.Files
import AlertRelay.Proofs.Config.Loading
import AlertRelay.Proofs.Config.Validated
import AlertRelay.Proofs.Delivery.Authorization
import AlertRelay.Proofs.Delivery.Client
import AlertRelay.Proofs.Delivery.Cookies
import AlertRelay.Proofs.Delivery.Outcome
import AlertRelay.Proofs.Delivery.OwnUrl
import AlertRelay.Proofs.Delivery.Preparation
import AlertRelay.Proofs.Delivery.Rejection
import AlertRelay.Proofs.Delivery.Reporting
import AlertRelay.Proofs.Delivery.Requests
import AlertRelay.Proofs.Delivery.Resolution
import AlertRelay.Proofs.Delivery.Secrecy
import AlertRelay.Proofs.Delivery.Sending
import AlertRelay.Proofs.Delivery.Snapshot
import AlertRelay.Proofs.Json.Grammar
import AlertRelay.Proofs.Json.Reading
import AlertRelay.Proofs.Json.Scanning
import AlertRelay.Proofs.Json.TreeReading
import AlertRelay.Proofs.Log.Entry
import AlertRelay.Proofs.Number.Digits
import AlertRelay.Proofs.Number.Exact
import AlertRelay.Proofs.Number.Range
import AlertRelay.Proofs.Result
import AlertRelay.Proofs.Template.ActionReading
import AlertRelay.Proofs.Template.Alike
import AlertRelay.Proofs.Template.Balance
import AlertRelay.Proofs.Template.BodyReading
import AlertRelay.Proofs.Template.Buffer
import AlertRelay.Proofs.Template.Chaining
import AlertRelay.Proofs.Template.Concatenation
import AlertRelay.Proofs.Template.Constants
import AlertRelay.Proofs.Template.Containment
import AlertRelay.Proofs.Template.Conversion
import AlertRelay.Proofs.Template.Covering
import AlertRelay.Proofs.Template.Delimited
import AlertRelay.Proofs.Template.Dependence
import AlertRelay.Proofs.Template.Descent
import AlertRelay.Proofs.Template.DescentReading
import AlertRelay.Proofs.Template.Directives
import AlertRelay.Proofs.Template.Execution
import AlertRelay.Proofs.Template.Faults
import AlertRelay.Proofs.Template.Fields
import AlertRelay.Proofs.Template.Filling
import AlertRelay.Proofs.Template.Fitting
import AlertRelay.Proofs.Template.Grammar
import AlertRelay.Proofs.Template.ItemReading
import AlertRelay.Proofs.Template.Joining
import AlertRelay.Proofs.Template.Lines
import AlertRelay.Proofs.Template.Location
import AlertRelay.Proofs.Template.Mirroring
import AlertRelay.Proofs.Template.Ordering
import AlertRelay.Proofs.Template.Padding
import AlertRelay.Proofs.Template.Parallel
import AlertRelay.Proofs.Template.PieceReading
import AlertRelay.Proofs.Template.PipelineReading
import AlertRelay.Proofs.Template.Piping
import AlertRelay.Proofs.Template.Relocation
import AlertRelay.Proofs.Template.Reordering
import AlertRelay.Proofs.Template.Replacing
import AlertRelay.Proofs.Template.Scanning
import AlertRelay.Proofs.Template.Shifting
import AlertRelay.Proofs.Template.Spelling
import AlertRelay.Proofs.Template.Stations
import AlertRelay.Proofs.Template.TreeReading
import AlertRelay.Proofs.Template.TreeStep
import AlertRelay.Proofs.Template.WordReading
import AlertRelay.Proofs.Template.Writing
import AlertRelay.Proofs.Text.Base64
import AlertRelay.Proofs.Text.Blank
import AlertRelay.Proofs.Text.Split
import AlertRelay.Proofs.Text.Utf8
import AlertRelay.Proofs.Url.Escaping
import AlertRelay.Proofs.Url.Host
import AlertRelay.Proofs.Url.Path
import AlertRelay.Proofs.Url.Pieces
import AlertRelay.Proofs.Url.Port
import AlertRelay.Proofs.Url.Rereading
import AlertRelay.Proofs.Url.Wire
import AlertRelay.Proofs.Value.Agreement
import AlertRelay.Proofs.Value.Comparison
import AlertRelay.Proofs.Value.Entries
import AlertRelay.Proofs.Value.Integers
import AlertRelay.Proofs.Value.Reordering
import AlertRelay.Template.Basic
import AlertRelay.Template.Directive
import AlertRelay.Template.Error
import AlertRelay.Template.Function
import AlertRelay.Template.Lexer
import AlertRelay.Template.Node
import AlertRelay.Template.Pipeline
import AlertRelay.Template.Run
import AlertRelay.Template.Token
import AlertRelay.Template.Tree
import AlertRelay.Text.Ascii
import AlertRelay.Text.Base64
import AlertRelay.Text.Blank
import AlertRelay.Text.Composed
import AlertRelay.Text.Digit
import AlertRelay.Text.Direction
import AlertRelay.Text.Hex
import AlertRelay.Text.Joining
import AlertRelay.Text.Lower
import AlertRelay.Text.Mark
import AlertRelay.Text.Pad
import AlertRelay.Text.Printable
import AlertRelay.Text.Punycode
import AlertRelay.Text.Quoted
import AlertRelay.Text.Ranges
import AlertRelay.Text.Script
import AlertRelay.Text.Split
import AlertRelay.Text.Utf8
import AlertRelay.Text.Word
import AlertRelay.Url.Address
import AlertRelay.Url.Basic
import AlertRelay.Url.Escape
import AlertRelay.Url.Label
import AlertRelay.Url.Letter
import AlertRelay.Validation.Checked
import AlertRelay.Validation.Scalar
import AlertRelay.Value.Basic
import AlertRelay.Value.Compare
import AlertRelay.Value.Literal
import AlertRelay.Value.Printer
import AlertRelay.Yaml.Content
import AlertRelay.Yaml.Cursor
import AlertRelay.Yaml.Datum
import AlertRelay.Yaml.Error
import AlertRelay.Yaml.Lexer
import AlertRelay.Yaml.Moment
import AlertRelay.Yaml.Node
import AlertRelay.Yaml.Number
import AlertRelay.Yaml.Resolve
import AlertRelay.Yaml.Scalar
import AlertRelay.Yaml.Token
