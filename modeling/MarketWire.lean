import MarketWire.Auth.Credentials
import MarketWire.Auth.Nonce
import MarketWire.Auth.Signer
import MarketWire.Digest.Hmac
import MarketWire.Digest.Sha384
import MarketWire.Json.Number
import MarketWire.Json.Printer
import MarketWire.Json.Token
import MarketWire.Json.Tree
import MarketWire.Json.Value
import MarketWire.Market.Channel
import MarketWire.Market.Side
import MarketWire.Market.Symbol
import MarketWire.Number.Binary64
import MarketWire.Number.Decimal.Basic
import MarketWire.Number.Decimal.Difference
import MarketWire.Number.Decimal.Notation
import MarketWire.Number.Decimal.OfBinary
import MarketWire.Number.Shortest
import MarketWire.Record.Account
import MarketWire.Record.Event
import MarketWire.Record.Layout
import MarketWire.Record.Public
import MarketWire.Record.Pulse
import MarketWire.Record.Row
import MarketWire.Record.Schema
import MarketWire.Record.Shape
import MarketWire.Report.Failure
import MarketWire.Report.Frame
import MarketWire.Report.Kind
import MarketWire.Report.Record
import MarketWire.Report.Request
import MarketWire.Report.Stream
import MarketWire.Rest.Client
import MarketWire.Rest.Endpoint
import MarketWire.Rest.Failure
import MarketWire.Rest.Host
import MarketWire.Rest.Host.Address
import MarketWire.Rest.Host.Name
import MarketWire.Rest.Host.NameTable
import MarketWire.Rest.Url
import MarketWire.Stream.Config
import MarketWire.Stream.Endpoint
import MarketWire.Stream.Failure
import MarketWire.Stream.Feed
import MarketWire.Stream.Link
import MarketWire.Stream.Mailbox
import MarketWire.Stream.Message
import MarketWire.Stream.Registry
import MarketWire.Stream.Session.Basic
import MarketWire.Stream.Session.Loop
import MarketWire.Stream.Session.Run
import MarketWire.Stream.Sink
import MarketWire.Stream.Socket
import MarketWire.Stream.Subscriber
import MarketWire.Text.Blank
import MarketWire.Text.Bytes
import MarketWire.Text.Case
import MarketWire.Text.CaseTable
import MarketWire.Text.Composition
import MarketWire.Text.CompositionTable
import MarketWire.Text.Count
import MarketWire.Text.GraphicTable
import MarketWire.Text.Hex
import MarketWire.Text.Parts
import MarketWire.Text.Percent
import MarketWire.Text.Phrase
import MarketWire.Text.Punycode
import MarketWire.Text.Quoted
import MarketWire.Text.Span
import MarketWire.Wire.Control
import MarketWire.Wire.Frame
import MarketWire.Wire.Member
import MarketWire.Wire.Request
import MarketWire.Proofs.Registry.Invariant
import MarketWire.Proofs.Registry.Passage
import MarketWire.Proofs.Session.Effect
import MarketWire.Proofs.Session.History
import MarketWire.Proofs.Session.Ending
import MarketWire.Proofs.Registry.Channel
import MarketWire.Proofs.Session.Ownership
import MarketWire.Proofs.Session.Routing
import MarketWire.Proofs.Feed.Echo
import MarketWire.Proofs.Registry.Dialogue
import MarketWire.Proofs.Session.Release
import MarketWire.Proofs.Session.Deadline
import MarketWire.Proofs.Session.Requests
import MarketWire.Proofs.Registry.Custody
import MarketWire.Proofs.Feed.Likeness
import MarketWire.Proofs.Session.Answers
import MarketWire.Proofs.Session.Account
import MarketWire.Proofs.Sink.Fifo
import MarketWire.Proofs.Session.Challenge
import MarketWire.Proofs.Session.Gate
import MarketWire.Proofs.Session.Inbox
import MarketWire.Proofs.Session.Lifecycle
import MarketWire.Proofs.Session.Noise
import MarketWire.Proofs.Mailbox.Wakeup
import MarketWire.Proofs.Record.Compatibility
import MarketWire.Proofs.Wire.Grammar
import MarketWire.Proofs.Feed.Acknowledgement
import MarketWire.Proofs.Number.Shortest
import MarketWire.Proofs.Record.Acceptance
import MarketWire.Proofs.Text.Bytes
import MarketWire.Proofs.Auth.Payload
import MarketWire.Proofs.Auth.Verification
import MarketWire.Proofs.Auth.Race
import MarketWire.Proofs.Auth.Spending
import MarketWire.Proofs.Auth.Envelope
import MarketWire.Proofs.Number.DecimalText
import MarketWire.Proofs.Record.ObjectText
import MarketWire.Proofs.Record.Replay
import MarketWire.Proofs.Record.Elements
import MarketWire.Proofs.Record.TickerForms
import MarketWire.Proofs.Record.ProfileForms
import MarketWire.Proofs.Record.Signs
import MarketWire.Proofs.Number.Near
import MarketWire.Proofs.Number.Rounding
import MarketWire.Proofs.Json.TokenValue
import MarketWire.Proofs.Number.ShortDigits
import MarketWire.Proofs.Json.Spelling
import MarketWire.Proofs.Number.TokenDecimal
import MarketWire.Proofs.Number.BinaryText
import MarketWire.Proofs.Number.OfBinary
import MarketWire.Proofs.Number.OfNumber
import MarketWire.Proofs.Record.Decimals
import MarketWire.Proofs.Socket.Keepalive
import MarketWire.Proofs.Wire.Restatement
import MarketWire.Proofs.Text.Case
import MarketWire.Proofs.Market.Symbol
