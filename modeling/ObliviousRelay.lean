import ObliviousRelay.Command.Arguments
import ObliviousRelay.Command.Launch
import ObliviousRelay.Config.Decode
import ObliviousRelay.Config.Encode
import ObliviousRelay.Config.Fault
import ObliviousRelay.Config.Load
import ObliviousRelay.Config.Rules
import ObliviousRelay.Config.Schema
import ObliviousRelay.Config.Tree
import ObliviousRelay.Decimal.Shortest
import ObliviousRelay.Failure
import ObliviousRelay.Forwarding.Engine
import ObliviousRelay.Gateway.Client
import ObliviousRelay.Gateway.Dialled
import ObliviousRelay.Gateway.Event
import ObliviousRelay.Gateway.Exchange
import ObliviousRelay.Gateway.Phase
import ObliviousRelay.Gateway.Pool
import ObliviousRelay.Gateway.Slots
import ObliviousRelay.Gateway.Station
import ObliviousRelay.Gateway.Trust
import ObliviousRelay.Http.Answer
import ObliviousRelay.Http.Field
import ObliviousRelay.Http.Framing
import ObliviousRelay.Http.Inbound
import ObliviousRelay.Http.ReplyReader
import ObliviousRelay.Http.Request
import ObliviousRelay.Http.RequestTarget
import ObliviousRelay.Http.Response
import ObliviousRelay.Http.Routes
import ObliviousRelay.Http.Status
import ObliviousRelay.Idna.Data.Mapping
import ObliviousRelay.Idna.Data.Properties
import ObliviousRelay.Idna.Domain
import ObliviousRelay.Idna.Label
import ObliviousRelay.Idna.Mapping
import ObliviousRelay.Idna.Normal
import ObliviousRelay.Idna.Punycode
import ObliviousRelay.Idna.Spans
import ObliviousRelay.Lifecycle.Shutdown
import ObliviousRelay.Log.Directive
import ObliviousRelay.Log.Entry
import ObliviousRelay.Main
import ObliviousRelay.MediaType
import ObliviousRelay.Message
import ObliviousRelay.Metrics
import ObliviousRelay.Net.FileTree
import ObliviousRelay.Net.Ip
import ObliviousRelay.Net.Listener
import ObliviousRelay.Net.ServerName
import ObliviousRelay.Net.SocketAddress
import ObliviousRelay.Proofs.Gateway.Table
import ObliviousRelay.Proofs.Gateway.Transition
import ObliviousRelay.Rehearsal.LeaseDesk
import ObliviousRelay.Rehearsal.Network
import ObliviousRelay.Rehearsal.Script
import ObliviousRelay.Rehearsal.SlotDesk
import ObliviousRelay.Rehearsal.VisitDesk
import ObliviousRelay.Rehearsal.World
import ObliviousRelay.Relay.Basic
import ObliviousRelay.Relay.Startup
import ObliviousRelay.Relay.Step
import ObliviousRelay.Routing.Registry
import ObliviousRelay.Routing.Selector
import ObliviousRelay.Routing.Target
import ObliviousRelay.Text.Ascii
import ObliviousRelay.Text.Blank
import ObliviousRelay.Text.Natural
import ObliviousRelay.Text.Packed
import ObliviousRelay.Text.Quoted
import ObliviousRelay.Timing.Backoff
import ObliviousRelay.Timing.Deadline
import ObliviousRelay.Timing.Retry
import ObliviousRelay.Toml.Document
import ObliviousRelay.Toml.Lexical
import ObliviousRelay.Toml.Node
import ObliviousRelay.Toml.Number
import ObliviousRelay.Url.Basic
import ObliviousRelay.Url.Host
import ObliviousRelay.Url.Parser
import ObliviousRelay.Url.Percent
import ObliviousRelay.Proofs.Gateway.SlotAccount
import ObliviousRelay.Proofs.Gateway.ConnectionAccount
import ObliviousRelay.Proofs.Gateway.History
import ObliviousRelay.Proofs.Gateway.PoolBound
import ObliviousRelay.Proofs.Gateway.Frame
import ObliviousRelay.Proofs.Gateway.SlotConservation
import ObliviousRelay.Proofs.Gateway.CleanPool
import ObliviousRelay.Proofs.Gateway.Clients
import ObliviousRelay.Proofs.Routing.Registry
import ObliviousRelay.Proofs.Relay.Visits
import ObliviousRelay.Proofs.Relay.Ties
import ObliviousRelay.Proofs.Relay.Delivery
import ObliviousRelay.Proofs.Relay.Settling
import ObliviousRelay.Proofs.Forwarding.Protocol
import ObliviousRelay.Proofs.Gateway.Content
import ObliviousRelay.Proofs.Gateway.Timely
import ObliviousRelay.Proofs.Relay.Life
import ObliviousRelay.Proofs.Relay.Unread
import ObliviousRelay.Proofs.Relay.Rounds
import ObliviousRelay.Proofs.Relay.Noninterference
import ObliviousRelay.Proofs.Relay.Story
import ObliviousRelay.Proofs.Relay.Tunnel
import ObliviousRelay.Proofs.Relay.Privacy
import ObliviousRelay.Proofs.Relay.Prompt
import ObliviousRelay.Proofs.Relay.Deadlines
import ObliviousRelay.Proofs.Gateway.Isolation
import ObliviousRelay.Proofs.Gateway.Counters
import ObliviousRelay.Proofs.Relay.Gauges
import ObliviousRelay.Proofs.Config.Accepted
import ObliviousRelay.Proofs.Relay.Loaded
import ObliviousRelay.Proofs.Relay.Answers
import ObliviousRelay.Proofs.Relay.Masking
import ObliviousRelay.Proofs.Routing.Selector
import ObliviousRelay.Proofs.Http.Routes
import ObliviousRelay.Proofs.Relay.Buildable
import ObliviousRelay.Proofs.Relay.Reachable
import ObliviousRelay.Proofs.Relay.Outcomes
import ObliviousRelay.Proofs.MediaType
import ObliviousRelay.Proofs.Config.Records
import ObliviousRelay.Proofs.Config.RoundTrip
import ObliviousRelay.Proofs.Message
import ObliviousRelay.Proofs.Http.Inbound
import ObliviousRelay.Proofs.Http.DeclaredLength
import ObliviousRelay.Proofs.Forwarding.Verdict
import ObliviousRelay.Proofs.Text.Trim
import ObliviousRelay.Proofs.Routing.Grammar
import ObliviousRelay.Proofs.Config.Rules
import ObliviousRelay.Proofs.Gateway.Own
import ObliviousRelay.Proofs.Gateway.Attempts
import ObliviousRelay.Proofs.Gateway.Tariff
import ObliviousRelay.Proofs.Gateway.Dialling
import ObliviousRelay.Proofs.Gateway.Connecting
import ObliviousRelay.Proofs.Gateway.IdleSearch
import ObliviousRelay.Proofs.Gateway.Failing
import ObliviousRelay.Proofs.Gateway.Turns
import ObliviousRelay.Proofs.Gateway.FailedLease
import ObliviousRelay.Proofs.Gateway.SpentLease
import ObliviousRelay.Proofs.Routing.LastEntry
import ObliviousRelay.Proofs.Timing.Delays
import ObliviousRelay.Proofs.Timing.Schedule
import ObliviousRelay.Proofs.Gateway.Moments
import ObliviousRelay.Proofs.Relay.Dues
import ObliviousRelay.Proofs.Relay.Breakdown
import ObliviousRelay.Proofs.Relay.Times
import ObliviousRelay.Proofs.Lookup
import ObliviousRelay.Proofs.Gateway.EndsBy
import ObliviousRelay.Proofs.Relay.Pending
import ObliviousRelay.Proofs.Relay.Answerable
import ObliviousRelay.Proofs.Relay.InTime
import ObliviousRelay.Proofs.Text.Split
import ObliviousRelay.Proofs.Text.Ascii
import ObliviousRelay.Proofs.Net.Numerals
import ObliviousRelay.Proofs.Net.Ip
import ObliviousRelay.Proofs.Idna.Names
import ObliviousRelay.Proofs.Url.Encoding
import ObliviousRelay.Proofs.Url.Path
import ObliviousRelay.Proofs.Url.Host
import ObliviousRelay.Proofs.Url.Authority
import ObliviousRelay.Proofs.Url.Normal
import ObliviousRelay.Proofs.Routing.Endpoint
import ObliviousRelay.Proofs.Framing.Grammar
import ObliviousRelay.Proofs.Framing.RoundTrip
import ObliviousRelay.Proofs.Net.FileTree
import ObliviousRelay.Proofs.Net.Binding
import ObliviousRelay.Proofs.Net.Listeners
import ObliviousRelay.Lifecycle.Service
import ObliviousRelay.Proofs.Lifecycle.Shutdown
import ObliviousRelay.Proofs.Lifecycle.Service
