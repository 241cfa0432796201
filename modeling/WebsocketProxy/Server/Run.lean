import WebsocketProxy.Server.Basic

/-!
# Runs of the proxy server

The server as a transition system. An event is the run of one handler by `asio`, with what
the handler finds: the message at the head of the client queue, or the result of the
operation that completed. Handlers run one at a time and in any order; a handler runs when
it is posted or its operation is outstanding, and `ioc_` was not stopped.

Two events are not handlers. `slotReused` is a client writing where a message was taken
from: the client queue gives memory out again without asking the server. `rehash` changes
the order in which an iteration over a table meets its entries.
-/

namespace WebsocketProxy

/-- What happens to the server. -/
inductive Event where
  | processClientMessage (msg : Option Message)
  | startHeartbeat
  | complete (r : ℕ) (c : Websocket.Completion)
  | signal
  | shutdownClosure
  | stopClosure
  | timerHandler
  | slotReused (msg : ℕ) (contents : Message)
  | rehash (clients : UnorderedMap UInt64 ClientInfo) (byId : UnorderedMap UInt64 ℕ)
      (byUrlApiKey : UnorderedMap WebsocketKey ℕ)

/-- The server with its tables in another order. -/
def rehash (px : WebsocketProxy) (clients : UnorderedMap UInt64 ClientInfo)
    (byId : UnorderedMap UInt64 ℕ) (byUrlApiKey : UnorderedMap WebsocketKey ℕ) :
    Option WebsocketProxy :=
  if clients.entries.Perm px.clients.entries
      ∧ byId.entries.Perm px.websocketsById.entries
      ∧ byUrlApiKey.entries.Perm px.websocketsByUrlApiKey.entries then
    some { px with clients, websocketsById := byId, websocketsByUrlApiKey := byUrlApiKey }
  else none

/-- The server after `run` caught an exception: its loop goes on, unless `run_` is off. -/
def caught (px : WebsocketProxy) : WebsocketProxy :=
  if px.run then px else { px with stopped := true }

/-- The server after the run of a handler, if the handler can run. -/
def runHandler (px : WebsocketProxy) : Event → Option WebsocketProxy
  | .processClientMessage msg =>
      if 0 < px.messageHandlers then
        let (px, threw) := { px with
          messageHandlers := px.messageHandlers - 1 }.processClientMessage msg
        some (if threw then px.caught else px)
      else none
  | .startHeartbeat =>
      if 0 < px.heartbeatHandlers then
        let px := { px with heartbeatHandlers := px.heartbeatHandlers - 1 }
        some (if px.startup then px.announce else px.startHeartbeat)
      else none
  | .complete r c => ((px.sockets r).complete c).map (px.perform r)
  | .signal => if px.signalHandler then some { px with signalHandler := false }.shutdown else none
  | .shutdownClosure =>
      if 0 < px.shutdownClosures then
        some { px with shutdownClosures := px.shutdownClosures - 1 }.shutdownClosure
      else none
  | .stopClosure =>
      -- the timer is local to the closure, so its wait is cancelled at once
      if 0 < px.stopClosures then
        some { px with stopClosures := px.stopClosures - 1, timerHandlers := px.timerHandlers + 1 }
      else none
  | .timerHandler =>
      if 0 < px.timerHandlers then
        some { px with timerHandlers := px.timerHandlers - 1, stopped := true }
      else none
  | .slotReused msg contents =>
      some { px with slots := Function.update px.slots msg contents }
  | .rehash clients byId byUrlApiKey => px.rehash clients byId byUrlApiKey

/-- The server after an event. -/
def step (px : WebsocketProxy) (ev : Event) : Option WebsocketProxy :=
  if px.stopped then none else px.runHandler ev

/-- The server when `run` enters its loop. -/
def start (pid : UInt64) (clock : ℕ → UInt64) : WebsocketProxy := { pid, clock }

/-- The server as a transition system. -/
def system : TransitionSystem WebsocketProxy Event where
  initial px := ∃ pid clock, px = start pid clock
  step := step

/-! ### Events of clients -/

namespace Event

/-- The handling of a message of a client. -/
def message (pid : UInt64) (data : Message.Data) : Event :=
  .processClientMessage (some { pid, data })

def register (pid : UInt64) : Event := message pid (.register { name := [] })
def unregister (pid : UInt64) : Event := message pid .unregister
def openWs (pid : UInt64) (url apiKey : Bytes) : Event := message pid (.openWs { url, apiKey })
def closeWs (pid id : UInt64) : Event := message pid (.closeWs { id })

def subscribe (pid id : UInt64) (symbol : Bytes) : Event :=
  message pid (.subscribe { symbol, id, type := SubscriptionType.quotes })
def unsubscribe (pid id : UInt64) (symbol : Bytes) : Event :=
  message pid (.unsubscribe { symbol, id })

/-- The coroutine that opens a connection is resumed with success, to its end. -/
def opened (r : ℕ) : List Event := List.replicate 5 (.complete r (.resumed (.success 443)))

end Event

/-- A client opens a connection. -/
def openOne : List Event := [.register 1, .openWs 1 [104] []] ++ Event.opened 0

/-- Two clients share a connection. -/
def openShared : List Event :=
  [.register 1, .register 2, .openWs 1 [104] []] ++ Event.opened 0 ++ [.openWs 2 [104] []]

end WebsocketProxy
