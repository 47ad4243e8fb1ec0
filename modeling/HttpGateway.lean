import HttpGateway.Bootstrap
import HttpGateway.Config
import HttpGateway.Config.Document
import HttpGateway.Config.Reader
import HttpGateway.Config.Validation
import HttpGateway.Counter
import HttpGateway.Duration
import HttpGateway.Error
import HttpGateway.Exchange
import HttpGateway.Forwarding.BufferPool
import HttpGateway.Forwarding.Delivery
import HttpGateway.Forwarding.FlushPolicy
import HttpGateway.Forwarding.HopByHop
import HttpGateway.Forwarding.Outbound
import HttpGateway.Forwarding.ProtocolSwitch
import HttpGateway.Forwarding.Proxy
import HttpGateway.Forwarding.Relay
import HttpGateway.Forwarding.Relay.Timed
import HttpGateway.Forwarding.Stream
import HttpGateway.Grpc.Carriage
import HttpGateway.Grpc.ChannelPool
import HttpGateway.Grpc.Invocation
import HttpGateway.Grpc.Message
import HttpGateway.Grpc.Status
import HttpGateway.Grpc.Unary
import HttpGateway.Handlers
import HttpGateway.Http.Header
import HttpGateway.Http.HeaderMap
import HttpGateway.Http.Message
import HttpGateway.Http.Status
import HttpGateway.Http.Uri
import HttpGateway.Http2.FieldBlock
import HttpGateway.Http2.Huffman
import HttpGateway.Inbound.Body
import HttpGateway.Inbound.Clock
import HttpGateway.Inbound.Server
import HttpGateway.Json
import HttpGateway.Json.Reader
import HttpGateway.Lifecycle
import HttpGateway.Metadata
import HttpGateway.Metadata.HeaderText
import HttpGateway.Metadata.Wire
import HttpGateway.RawCall
import HttpGateway.Registry
import HttpGateway.Rehearsal.GrpcPeer
import HttpGateway.Rehearsal.Journal
import HttpGateway.Rehearsal.Offline
import HttpGateway.Rehearsal.Script
import HttpGateway.Reply
import HttpGateway.Routing.Host
import HttpGateway.Routing.Table
import HttpGateway.Serialization
import HttpGateway.Shutdown
import HttpGateway.SocketAddress
import HttpGateway.Stage
import HttpGateway.StatusMapping
import HttpGateway.Text.Ascii
import HttpGateway.Text.Base64
import HttpGateway.Text.Decimal
import HttpGateway.Text.Form
import HttpGateway.Text.Quoted
import HttpGateway.Text.Shortest
import HttpGateway.Text.Unprintable
import HttpGateway.Text.Utf8
import HttpGateway.Toml
import HttpGateway.Toml.Reader
import HttpGateway.Proofs.Stream.Flow
import HttpGateway.Proofs.Lifecycle.Order
import HttpGateway.Proofs.Outbound.Headers
import HttpGateway.Proofs.Outbound.Target
import HttpGateway.Proofs.Stream.Completeness
import HttpGateway.Proofs.Transport.Ends
import HttpGateway.Proofs.Transport.NoTrace
import HttpGateway.Proofs.Transport.Relays
import HttpGateway.Proofs.Transport.Switch
import HttpGateway.Proofs.Pool.FirstStored
import HttpGateway.Proofs.Metadata.Grouping
import HttpGateway.Proofs.Metadata.HeaderText
import HttpGateway.Proofs.Traversal
import HttpGateway.Proofs.Metadata.Keys
import HttpGateway.Proofs.Metadata.Wire
import HttpGateway.Proofs.Metadata.Request
import HttpGateway.Proofs.Lifecycle.FailedCall
import HttpGateway.Proofs.Startup.Registration
import HttpGateway.Proofs.Startup.FieldPaths
import HttpGateway.Proofs.Startup.Validation
import HttpGateway.Proofs.Startup.Bootstrap
import HttpGateway.Proofs.Relay.Copies
import HttpGateway.Proofs.Relay.Outcome
import HttpGateway.Proofs.Shared.Histories
import HttpGateway.Proofs.Shared.Serial
import HttpGateway.Proofs.Shared.Mapping
import HttpGateway.Proofs.Text.ByteOrder
import HttpGateway.Proofs.Shared.Registry
import HttpGateway.Proofs.Lifecycle.Bundles
import HttpGateway.Proofs.Lifecycle.Isolation
import HttpGateway.Proofs.Lifecycle.OneBundle
import HttpGateway.Proofs.Buffers.Pool
import HttpGateway.Proofs.Buffers.Circulation
import HttpGateway.Proofs.Stream.Discipline
import HttpGateway.Proofs.Stream.Reuse
import HttpGateway.Proofs.Stream.Bodies
import HttpGateway.Proofs.Stream.Direct
import HttpGateway.Proofs.Stream.DirectDelivery
import HttpGateway.Proofs.Stream.Agreement
import HttpGateway.Proofs.Startup.Seeded
import HttpGateway.Proofs.Inbound.Dispatch
import HttpGateway.Proofs.Routing.Choice
import HttpGateway.Proofs.Outbound.Host
import HttpGateway.Proofs.Metadata.ReplyFields
import HttpGateway.Proofs.Stream.Head
import HttpGateway.Proofs.Routing.Host
import HttpGateway.Proofs.Reply.ErrorHeaders
import HttpGateway.Proofs.Reply.Assembly
import HttpGateway.Proofs.Lifecycle.Invariant
import HttpGateway.Proofs.Lifecycle.PublishedHead
