import IsolationGate.Command.Arguments
import IsolationGate.Command.Run
import IsolationGate.Config.DataError
import IsolationGate.Config.Decode
import IsolationGate.Config.Encode
import IsolationGate.Config.Load
import IsolationGate.Config.Schema
import IsolationGate.Config.Violation
import IsolationGate.Datum
import IsolationGate.Gateway.Answer
import IsolationGate.Gateway.Counters
import IsolationGate.Gateway.Forward
import IsolationGate.Gateway.Framing
import IsolationGate.Gateway.InFlight
import IsolationGate.Gateway.RequestId
import IsolationGate.Gateway.Server
import IsolationGate.Gateway.Snapshot
import IsolationGate.Http.Authority
import IsolationGate.Http.Field
import IsolationGate.Http.Fields
import IsolationGate.Http.Message
import IsolationGate.Http.Target
import IsolationGate.Json.Reader
import IsolationGate.Json.Writer
import IsolationGate.Lifecycle.Program
import IsolationGate.Lifecycle.Shutdown
import IsolationGate.Lifecycle.StartError
import IsolationGate.Lifecycle.Watch
import IsolationGate.Log.Event
import IsolationGate.Log.Filter
import IsolationGate.Log.Format
import IsolationGate.Main
import IsolationGate.Net.SocketAddress
import IsolationGate.Number.Binary64
import IsolationGate.Number.Digits
import IsolationGate.Page.DemoPage
import IsolationGate.Page.StyleTag
import IsolationGate.Policy.ContentPolicy
import IsolationGate.Policy.EmbedderPolicy
import IsolationGate.Policy.ExemptedPaths
import IsolationGate.Policy.FetchMetadata
import IsolationGate.Policy.Nonce
import IsolationGate.Policy.OpenerPolicy
import IsolationGate.Policy.ReportUri
import IsolationGate.Text.Base64
import IsolationGate.Text.Blank
import IsolationGate.Text.CodeTable
import IsolationGate.Text.CombiningClass
import IsolationGate.Text.Composition
import IsolationGate.Text.Direction
import IsolationGate.Text.Joining
import IsolationGate.Text.Marks
import IsolationGate.Text.Printable
import IsolationGate.Text.Quoted
import IsolationGate.Text.Segments
import IsolationGate.Text.Utf8
import IsolationGate.Toml.Moment
import IsolationGate.Toml.Number
import IsolationGate.Toml.Quote
import IsolationGate.Toml.Reader
import IsolationGate.Toml.Space
import IsolationGate.Toml.Table
import IsolationGate.Toml.Writer
import IsolationGate.Url.Absolute
import IsolationGate.Url.Domain
import IsolationGate.Url.Host
import IsolationGate.Url.NameForms
import IsolationGate.Url.Punycode
import IsolationGate.Proofs.Rejection
import IsolationGate.Proofs.OneSnapshot
import IsolationGate.Proofs.WatchLoop
import IsolationGate.Proofs.StartupEdits
import IsolationGate.Proofs.HotReload
import IsolationGate.Proofs.PolicyText
import IsolationGate.Proofs.Layers
import IsolationGate.Proofs.ValidStart
import IsolationGate.Proofs.Vary
import IsolationGate.Proofs.NonceAgreement
import IsolationGate.Proofs.SentTarget
import IsolationGate.Proofs.Handling
import IsolationGate.Proofs.Forwarding
import IsolationGate.Proofs.NonceSource
import IsolationGate.Proofs.PageIsolation
import IsolationGate.Proofs.Prediction
import IsolationGate.Proofs.ShutdownLatch
import IsolationGate.Proofs.FreshDraws
import IsolationGate.Proofs.DecisionCounts
import IsolationGate.Proofs.JsonText
import IsolationGate.Proofs.StructuredItem
import IsolationGate.Proofs.ReportGroup
import IsolationGate.Proofs.TomlText
import IsolationGate.Proofs.TomlValue
import IsolationGate.Proofs.TomlDocument
import IsolationGate.Proofs.PrintedConfig
import IsolationGate.Proofs.TomlRange
import IsolationGate.Proofs.Reload
import IsolationGate.Proofs.UriAcceptance
import IsolationGate.Proofs.ReportDirective
import IsolationGate.Proofs.ByteOrder
import IsolationGate.Proofs.EmbedderValues
import IsolationGate.Proofs.EveryViolation
import IsolationGate.Proofs.PathMembership
import IsolationGate.Proofs.CanonicalPaths
import IsolationGate.Proofs.EscapedText
import IsolationGate.Proofs.StartTag
import IsolationGate.Proofs.RequestIds
import IsolationGate.Proofs.PageTags
