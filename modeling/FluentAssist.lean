import FluentAssist.WordSize
import FluentAssist.Text.Basic
import FluentAssist.Text.Position
import FluentAssist.Text.Blank
import FluentAssist.Text.WordChar
import FluentAssist.Text.LowerCase
import FluentAssist.Text.Search
import FluentAssist.Text.Quoted
import FluentAssist.Json.Shortest
import FluentAssist.Json.Value
import FluentAssist.Json.Printer
import FluentAssist.Json.Raw
import FluentAssist.Json.Reader
import FluentAssist.Cursor.Kind
import FluentAssist.Cursor.OpenCall
import FluentAssist.Cursor.Word
import FluentAssist.Cursor.Literal
import FluentAssist.Cursor.Context
import FluentAssist.Style.Catalog
import FluentAssist.Style.Position
import FluentAssist.Completion.Candidate
import FluentAssist.Completion.Snippet
import FluentAssist.Completion.Documentation
import FluentAssist.Completion.Assemble
import FluentAssist.Knowledge.Table
import FluentAssist.Knowledge.Attribute
import FluentAssist.Knowledge.Base
import FluentAssist.Hover
import FluentAssist.Knowledge.Bundled
import FluentAssist.Files.Path
import FluentAssist.Files.Tree
import FluentAssist.Files.Program
import FluentAssist.Files.Companion
import FluentAssist.Knowledge.Decode
import FluentAssist.Knowledge.Assets
import FluentAssist.Protocol.Convert
import FluentAssist.Engine
import FluentAssist.Text.Utf8
import FluentAssist.Url.Percent
import FluentAssist.Url.Punycode
import FluentAssist.Url.DomainForms
import FluentAssist.Url.Label
import FluentAssist.Url.Domain
import FluentAssist.Url.Host
import FluentAssist.Url.Segments
import FluentAssist.Url.Basic
import FluentAssist.Resolution.Pattern
import FluentAssist.Resolution.ClassName
import FluentAssist.Resolution.Cache
import FluentAssist.Resolution.Supersession
import FluentAssist.Resolution.Lookup
import FluentAssist.Resolution.Resolver
import FluentAssist.Protocol.HoverReply
import FluentAssist.Wire.Envelope
import FluentAssist.Wire.Frame
import FluentAssist.Analyzer.Error
import FluentAssist.Analyzer.Message
import FluentAssist.Analyzer.Connection
import FluentAssist.Analyzer.Exchange
import FluentAssist.Yaml.Source
import FluentAssist.Yaml.Scalar
import FluentAssist.Yaml.Token
import FluentAssist.Yaml.Node
import FluentAssist.Settings.Basic
import FluentAssist.Settings.Client
import FluentAssist.Settings.File
import FluentAssist.Documents
import FluentAssist.Preview
import FluentAssist.Protocol.Capabilities
import FluentAssist.CommandLine.Argument
import FluentAssist.CommandLine.Invocation
import FluentAssist.CommandLine.Run
import FluentAssist.Protocol.Message
import FluentAssist.Protocol.Mismatch
import FluentAssist.Protocol.Shape
import FluentAssist.Protocol.DocumentShapes
import FluentAssist.Protocol.EditorShapes
import FluentAssist.Protocol.RequestShapes
import FluentAssist.Protocol.Method
import FluentAssist.Protocol.Params
import FluentAssist.Server.Basic
import FluentAssist.Server.Task
import FluentAssist.Server.Lifecycle
import FluentAssist.Server.Pool
import FluentAssist.Main
import FluentAssist.Proofs.Resolution.Cache
import FluentAssist.Proofs.Resolution.Memory
import FluentAssist.Proofs.Resolution.Transparency
import FluentAssist.Proofs.Resolution.Supersession
import FluentAssist.Proofs.Server.Session
import FluentAssist.Proofs.Analyzer.Closing
import FluentAssist.Proofs.Server.Conversation
import FluentAssist.Proofs.Server.CurrentText
import FluentAssist.Proofs.Resolution.Signals
import FluentAssist.Proofs.Resolution.Interruption
import FluentAssist.Proofs.Server.Turns
import FluentAssist.Proofs.Server.Interleaving
import FluentAssist.Proofs.Server.Superseded
import FluentAssist.Proofs.Server.Replica
import FluentAssist.Proofs.Server.Forwarding
import FluentAssist.Proofs.Text.Boundary
import FluentAssist.Proofs.Text.Lines
import FluentAssist.Proofs.Text.Positions
import FluentAssist.Proofs.Text.Search
import FluentAssist.Proofs.Cursor.Window
import FluentAssist.Proofs.Cursor.OpenCalls
import FluentAssist.Proofs.Text.Expression
import FluentAssist.Proofs.Cursor.Recognition
import FluentAssist.Proofs.Cursor.Classification
import FluentAssist.Proofs.Cursor.Line
import FluentAssist.Proofs.Completion.Edits
import FluentAssist.Proofs.Completion.CursorInRange
import FluentAssist.Proofs.Cursor.Tokens
import FluentAssist.Proofs.Cursor.Acceptance
import FluentAssist.Proofs.Cursor.Lookback
import FluentAssist.Proofs.Cursor.WordRange
import FluentAssist.Proofs.Cursor.Literals
import FluentAssist.Proofs.Text.Utf8
import FluentAssist.Proofs.Wire.Framing
import FluentAssist.Proofs.Wire.Chunks
import FluentAssist.Proofs.Analyzer.Listening
import FluentAssist.Proofs.Completion.HoverAgreement
import FluentAssist.Proofs.Completion.InternalAttributes
import FluentAssist.Proofs.Server.StartSettings
import FluentAssist.Proofs.Server.OfflineReplies
import FluentAssist.Proofs.Server.OfflineSessions
import FluentAssist.Proofs.Server.Degradation
import FluentAssist.Proofs.Completion.InsideLiteral
import FluentAssist.Proofs.Text.Addressing
import FluentAssist.Proofs.Resolution.Eviction
import FluentAssist.Proofs.Resolution.Repetition
import FluentAssist.Proofs.Completion.SnippetReading
import FluentAssist.Proofs.Style.Declaration
import FluentAssist.Proofs.Style.Narrowing
import FluentAssist.Proofs.Resolution.MethodQuestion
import FluentAssist.Proofs.Resolution.PatternReading
import FluentAssist.Proofs.Resolution.Captures
import FluentAssist.Proofs.Completion.HashSigns
import FluentAssist.Proofs.Preview.Page
import FluentAssist.Proofs.Resolution.Backtracking
import FluentAssist.Proofs.Preview.Lifecycle
import FluentAssist.Proofs.Settings.ClientOptions
import FluentAssist.Proofs.Text.Shifting
import FluentAssist.Proofs.Files.LastNames
import FluentAssist.Proofs.Files.Extensions
import FluentAssist.Proofs.Files.Companions
