import WebsocketProxy.Library.Transition
import WebsocketProxy.Library.UnorderedMap
import WebsocketProxy.Library.RingQueue
import WebsocketProxy.Library.Ledger
import WebsocketProxy.Library.DoubleIndex
import WebsocketProxy.Library.Memory
import WebsocketProxy.Library.Stores
import WebsocketProxy.Library.StoreRing
import WebsocketProxy.Library.ByteRing
import WebsocketProxy.Library.Since
import WebsocketProxy.Library.Clocked
import WebsocketProxy.Library.Observed
import WebsocketProxy.Library.Fairness
import WebsocketProxy.Library.Holders
import WebsocketProxy.Types
import WebsocketProxy.Websocket.Basic
import WebsocketProxy.Websocket.Urls
import WebsocketProxy.Websocket.Lifecycle
import WebsocketProxy.Websocket.Phases
import WebsocketProxy.Websocket.Moves
import WebsocketProxy.Websocket.Outgoing
import WebsocketProxy.Server.Basic
import WebsocketProxy.Server.Run
import WebsocketProxy.Server.Tables
import WebsocketProxy.Server.Departure
import WebsocketProxy.Server.Removal
import WebsocketProxy.Server.Change
import WebsocketProxy.Server.Handlers
import WebsocketProxy.Server.Projection
import WebsocketProxy.Server.ReadLoop
import WebsocketProxy.Server.Answers
import WebsocketProxy.Server.Loop
import WebsocketProxy.Server.Numbering
import WebsocketProxy.Server.Sharing
import WebsocketProxy.Server.Indexes
import WebsocketProxy.Server.Single
import WebsocketProxy.Server.Membership
import WebsocketProxy.Server.Openings
import WebsocketProxy.Server.OwnSockets
import WebsocketProxy.Server.Slots
import WebsocketProxy.Server.Requests
import WebsocketProxy.Server.Registration
import WebsocketProxy.Server.Roster
import WebsocketProxy.Server.OpenAnswers
import WebsocketProxy.Server.Initiators
import WebsocketProxy.Server.Published
import WebsocketProxy.Server.Attaching
import WebsocketProxy.Server.Grants
import WebsocketProxy.Server.LifeCycle
import WebsocketProxy.Server.AutoShutdown
import WebsocketProxy.Server.Unregistering
import WebsocketProxy.Server.HeartbeatPass
import WebsocketProxy.Server.Ownership
import WebsocketProxy.Server.Evictions
import WebsocketProxy.Server.HeartbeatDensity
import WebsocketProxy.Server.SilentClients
import WebsocketProxy.Server.Draining
import WebsocketProxy.Server.GracefulShutdown
import WebsocketProxy.Server.Subscriptions
import WebsocketProxy.Server.Bookkeeping
import WebsocketProxy.Server.SubscriptionTypes
import WebsocketProxy.Server.LiveSockets
import WebsocketProxy.Server.SocketIds
import WebsocketProxy.Queue.Layout
import WebsocketProxy.Queue.QueuedProxy
import WebsocketProxy.Queue.ServerQueue
import WebsocketProxy.Queue.PendingOpen
import WebsocketProxy.Client.Basic
import WebsocketProxy.Client.Steps
import WebsocketProxy.Client.CallbackProtocol
import WebsocketProxy.Client.Rounds
import WebsocketProxy.Client.ServerDeath
import WebsocketProxy.Client.Timeout
import WebsocketProxy.Client.Lifetime
import WebsocketProxy.Queue.ClientAnswers
import WebsocketProxy.Queue.ClientRequests
import WebsocketProxy.Queue.MessageSizes
import WebsocketProxy.Session.Basic
import WebsocketProxy.Session.Isolation
import WebsocketProxy.Session.Closed
import WebsocketProxy.Session.CloseOne
import WebsocketProxy.Session.Agreement
import WebsocketProxy.Session.Liveness
import WebsocketProxy.Session.AsyncOpen
import WebsocketProxy.Session.SyncOpen
import WebsocketProxy.Session.RequestErrors
import WebsocketProxy.Session.Subscribing
import WebsocketProxy.Server.Upstream
import WebsocketProxy.Server.SlotContents
import WebsocketProxy.Session.Answered
import WebsocketProxy.Session.Reading
import WebsocketProxy.Session.Delivery
import WebsocketProxy.Session.Holdings
import WebsocketProxy.Server.Forwarding
import WebsocketProxy.Session.LiveServer
import WebsocketProxy.Server.IdleShutdown
import WebsocketProxy.Server.Stopping
import WebsocketProxy.Server.Progress
import WebsocketProxy.Session.Progress
import WebsocketProxy.Session.Returning
import WebsocketProxy.Session.Arrival
