import WormholeMap.Action
import WormholeMap.Autosave
import WormholeMap.Backend.Basic
import WormholeMap.Backend.Script
import WormholeMap.Cli.Arguments
import WormholeMap.Cli.Job
import WormholeMap.Cli.Text
import WormholeMap.Client
import WormholeMap.Config
import WormholeMap.Decimal.Read
import WormholeMap.Decimal.Shortest
import WormholeMap.Deletion
import WormholeMap.DetailFeed
import WormholeMap.Event.Basic
import WormholeMap.Event.Decode
import WormholeMap.EventStream.Connection
import WormholeMap.EventStream.Decoder
import WormholeMap.Graph
import WormholeMap.Json.Basic
import WormholeMap.Json.Document
import WormholeMap.Json.Number
import WormholeMap.Json.Print
import WormholeMap.Json.Token
import WormholeMap.Json.Written
import WormholeMap.Main
import WormholeMap.Map.Amounts
import WormholeMap.Map.Geometry
import WormholeMap.Map.Id
import WormholeMap.Map.Info
import WormholeMap.Map.Link
import WormholeMap.Map.Node
import WormholeMap.Map.Record
import WormholeMap.Map.Status
import WormholeMap.Proofs.Autosave
import WormholeMap.Proofs.Cli.Deleting
import WormholeMap.Proofs.Cli.ExitCode
import WormholeMap.Proofs.Client.Batches
import WormholeMap.Proofs.Client.Connecting
import WormholeMap.Proofs.Client.Exchanges
import WormholeMap.Proofs.Client.Outcomes
import WormholeMap.Proofs.Event.Classification
import WormholeMap.Proofs.Event.Entities
import WormholeMap.Proofs.Event.Envelope
import WormholeMap.Proofs.Event.Loading
import WormholeMap.Proofs.Event.Spelling
import WormholeMap.Proofs.EventStream.Accepted
import WormholeMap.Proofs.EventStream.Blocks
import WormholeMap.Proofs.EventStream.Chunks
import WormholeMap.Proofs.EventStream.Encoding
import WormholeMap.Proofs.EventStream.Growing
import WormholeMap.Proofs.EventStream.Lifecycle
import WormholeMap.Proofs.EventStream.Reopening
import WormholeMap.Proofs.EventStream.Resume
import WormholeMap.Proofs.EventStream.RoundTrip
import WormholeMap.Proofs.EventStream.Scanning
import WormholeMap.Proofs.Graph.Commuting
import WormholeMap.Proofs.Graph.Drawing
import WormholeMap.Proofs.Graph.Entity
import WormholeMap.Proofs.Graph.Index
import WormholeMap.Proofs.Graph.Keyed
import WormholeMap.Proofs.Graph.Patching
import WormholeMap.Proofs.Graph.Presence
import WormholeMap.Proofs.Graph.Removal
import WormholeMap.Proofs.Graph.Revision
import WormholeMap.Proofs.Graph.Settings
import WormholeMap.Proofs.Graph.Table
import WormholeMap.Proofs.Idempotence
import WormholeMap.Proofs.Json.Members
import WormholeMap.Proofs.Json.Reading
import WormholeMap.Proofs.Map.Equality
import WormholeMap.Proofs.Map.RoundTrip
import WormholeMap.Proofs.Replay
import WormholeMap.Proofs.Session.Feeds
import WormholeMap.Proofs.Session.Transitions
import WormholeMap.Proofs.Subscription.Discipline
import WormholeMap.Proofs.Subscription.Messages
import WormholeMap.Proofs.Subscription.ReadAhead
import WormholeMap.Proofs.Subscription.Requests
import WormholeMap.Proofs.Text.Blank
import WormholeMap.Proofs.Text.Utf8
import WormholeMap.Proofs.Text.Whole
import WormholeMap.Proofs.View.Coherence
import WormholeMap.Proofs.View.Converging
import WormholeMap.Proofs.View.Following
import WormholeMap.Proofs.View.Moments
import WormholeMap.Proofs.View.Protocol
import WormholeMap.Proofs.View.Toasts
import WormholeMap.Published
import WormholeMap.Reconcile
import WormholeMap.Render
import WormholeMap.Request
import WormholeMap.Session
import WormholeMap.Store
import WormholeMap.Subscription
import WormholeMap.Text.Blank
import WormholeMap.Text.CodeRange
import WormholeMap.Text.CombiningClass
import WormholeMap.Text.Composition
import WormholeMap.Text.Direction
import WormholeMap.Text.Joining
import WormholeMap.Text.Mark
import WormholeMap.Text.Normal
import WormholeMap.Text.Utf8
import WormholeMap.Text.Whole
import WormholeMap.Toast
import WormholeMap.Url.Basic
import WormholeMap.Url.Domain
import WormholeMap.Url.Folding
import WormholeMap.Url.Host
import WormholeMap.Url.Percent
import WormholeMap.Url.Punycode
import WormholeMap.Uuid
import WormholeMap.View
