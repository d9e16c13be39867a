import ChatGateway.Chat.Completion
import ChatGateway.Chat.OfMessages
import ChatGateway.Chat.Request
import ChatGateway.CommandLine
import ChatGateway.Failure
import ChatGateway.Gateway.Answer
import ChatGateway.Gateway.Completions
import ChatGateway.Gateway.EventStream
import ChatGateway.Gateway.Health
import ChatGateway.Gateway.Routes
import ChatGateway.Http.Domain.Direction
import ChatGateway.Http.Domain.Joining
import ChatGateway.Http.Domain.Mapping
import ChatGateway.Http.Domain.Mark
import ChatGateway.Http.Domain.Name
import ChatGateway.Http.Domain.Punycode
import ChatGateway.Http.Exchange
import ChatGateway.Http.Url.Basic
import ChatGateway.Http.Url.Host
import ChatGateway.Http.Url.Parser
import ChatGateway.Http.Url.Percent
import ChatGateway.Image.Fetch
import ChatGateway.Image.Format
import ChatGateway.Image.Inline
import ChatGateway.Json.Basic
import ChatGateway.Json.Decoder
import ChatGateway.Json.Error
import ChatGateway.Json.Number
import ChatGateway.Json.Parser
import ChatGateway.Json.Reading
import ChatGateway.Json.Record
import ChatGateway.Json.Tagged
import ChatGateway.Json.Token
import ChatGateway.Logging.Filter
import ChatGateway.Logging.Pattern
import ChatGateway.Logging.Redaction
import ChatGateway.Logging.Setup
import ChatGateway.Main
import ChatGateway.Messages.Event
import ChatGateway.Messages.OfChat
import ChatGateway.Messages.Request
import ChatGateway.Messages.Response
import ChatGateway.Number.Binary
import ChatGateway.Number.Numeral
import ChatGateway.Proofs.Chat.CompletionText
import ChatGateway.Proofs.Gateway.Framing
import ChatGateway.Proofs.Gateway.Streamed
import ChatGateway.Proofs.Json.Containers
import ChatGateway.Proofs.Json.Integers
import ChatGateway.Proofs.Json.Members
import ChatGateway.Proofs.Json.Records
import ChatGateway.Proofs.Json.RoundTrip
import ChatGateway.Proofs.Json.Spelling
import ChatGateway.Proofs.Json.Visible
import ChatGateway.Proofs.Messages.Conversation
import ChatGateway.Proofs.Messages.EventText
import ChatGateway.Proofs.Stream.Accounting
import ChatGateway.Proofs.Stream.Agreement
import ChatGateway.Proofs.Stream.Cutting
import ChatGateway.Proofs.Stream.Delivery
import ChatGateway.Proofs.Stream.Departure
import ChatGateway.Proofs.Stream.Drain
import ChatGateway.Proofs.Stream.Meaning
import ChatGateway.Proofs.Stream.Order
import ChatGateway.Proofs.Stream.Phases
import ChatGateway.Proofs.Stream.Rendition
import ChatGateway.Proofs.Stream.Sequence
import ChatGateway.Proofs.Stream.Steps
import ChatGateway.Proofs.Stream.Terminal
import ChatGateway.Proofs.Traced
import ChatGateway.Provider
import ChatGateway.Settings.Basic
import ChatGateway.Settings.Load
import ChatGateway.Settings.Toml.Document
import ChatGateway.Settings.Toml.Scalar
import ChatGateway.Settings.Toml.Text
import ChatGateway.Settings.Value
import ChatGateway.Stream.Lines
import ChatGateway.Stream.Relay
import ChatGateway.Stream.Session
import ChatGateway.Stream.Signal
import ChatGateway.Text.Alphanumeric
import ChatGateway.Text.Base64
import ChatGateway.Text.Blank
import ChatGateway.Text.Composition
import ChatGateway.Text.Cut
import ChatGateway.Text.Digits
import ChatGateway.Text.Printable
import ChatGateway.Text.Quoted
import ChatGateway.Text.Ranges
import ChatGateway.Text.Table
import ChatGateway.Text.Utf8
import ChatGateway.Traced
import ChatGateway.Proofs.Json.Omission
import ChatGateway.Proofs.Messages.Envelope
import ChatGateway.Proofs.Stream.Reported
import ChatGateway.Proofs.Messages.IdleEvent
import ChatGateway.Proofs.Stream.Padding
import ChatGateway.Proofs.Json.Floats
import ChatGateway.Proofs.Chat.RequestText
import ChatGateway.Proofs.Messages.RequestText
import ChatGateway.Proofs.Settings.SettingsText
import ChatGateway.Proofs.Gateway.WireText
import ChatGateway.Proofs.Http.Endpoint
import ChatGateway.Proofs.Gateway.Stages
import ChatGateway.Proofs.Gateway.OneCall
import ChatGateway.Proofs.Gateway.Refusal
import ChatGateway.Proofs.Gateway.Failing
import ChatGateway.Proofs.Gateway.Posted
import ChatGateway.Proofs.Json.Unions
import ChatGateway.Proofs.Messages.EventMembers
import ChatGateway.Proofs.Json.Fields
import ChatGateway.Proofs.Json.Scalars
import ChatGateway.Proofs.Messages.EventQuotes
import ChatGateway.Proofs.Stream.Mirror
import ChatGateway.Proofs.Json.Changes
import ChatGateway.Proofs.Messages.Tolerance
import ChatGateway.Proofs.Messages.Reasons
import ChatGateway.Proofs.Json.Acceptance
import ChatGateway.Proofs.Chat.Grammar
import ChatGateway.Proofs.Settings.Keys
import ChatGateway.Proofs.Settings.Precedence
import ChatGateway.Proofs.Settings.Overrides
import ChatGateway.Proofs.Text.Cut
import ChatGateway.Proofs.Logging.Masking
import ChatGateway.Proofs.Chat.SharedCount
import ChatGateway.Proofs.Text.Base64
import ChatGateway.Proofs.Image.Formats
import ChatGateway.Proofs.Image.DataUrl
import ChatGateway.Proofs.Image.Download
import ChatGateway.Proofs.Text.Utf8.Spelling
import ChatGateway.Proofs.Text.Utf8.Lossy
import ChatGateway.Proofs.Text.Utf8.Single
import ChatGateway.Proofs.Stream.DecodedLines
