import WebsocketProxy.Library.RingQueue
import WebsocketProxy.Websocket.Basic

/-!
# The proxy server

`WebsocketProxy` is the state of the server: the members of the class, the memory of the
slots its references point into, and what `asio` holds for it. `Tables` is the part of it
that says who is connected to what, and `Process` the part that says what runs. The
functions are those of the class under their names; each takes the state to the changed
state.

* `Websocket` objects are referred to by numbers, in the order in which `openNewWs` was
  called; `sockets` are the objects, and an object no table refers to stays.
* Messages of clients are referred to by numbers, in the order in which they were taken
  from the queue. `slots` is what the memory of a message is read as; `stores` are the
  statuses the server stored in it. Messages of the server are listed in `serverQueue`.
* `clock` are the readings of the system clock, `readings` counts those taken.
* Of the handlers `asio` holds, the posted ones are counted here, the completions of a
  connection in the connection.

Logging is left out, and so are the allocation of memory and its failures.
-/

/-- What the server keeps of a client. -/
structure ClientInfo where
  pid : UInt64
  lastHeartbeatTime : UInt64
deriving DecidableEq

/-- Who is connected to what: the tables of the server, and the connections. -/
structure Tables where
  clients : UnorderedMap UInt64 ClientInfo := ∅
  websocketsById : UnorderedMap UInt64 ℕ := ∅
  websocketsByUrlApiKey : UnorderedMap WebsocketKey ℕ := ∅
  closedSockets : RingQueue UInt64 256 := .empty
  closedSocketsIndex : ℕ := 0
  websocketId : UInt32 := 0
  /-- The connections, by reference. -/
  sockets : ℕ → Websocket := fun _ => Websocket.blank
  /-- The number of calls of `openNewWs`, and the reference the next one constructs at. -/
  opens : ℕ := 0

/-- The process the server runs in: what does not change, what `asio` holds for it, and the
flags the handlers go by. -/
structure Process where
  pid : UInt64
  /-- The readings of the system clock. -/
  clock : ℕ → UInt64
  run : Bool := true
  /-- The number of messages taken from the client queue. -/
  taken : ℕ := 0
  /-- The first `startHeartbeat` is run by the handler that sends a heartbeat before. -/
  startup : Bool := true
  heartbeatHandlers : ℕ := 1
  messageHandlers : ℕ := 1
  /-- The handler of the termination signals is set. -/
  signalHandler : Bool := true
  /-- The closures `shutdown` posted, those these posted, and the handlers of the timers
  the latter set. -/
  shutdownClosures : ℕ := 0
  stopClosures : ℕ := 0
  timerHandlers : ℕ := 0
  /-- `processClientMessage` has called `shutdown`. -/
  autoShutdown : Bool := false
  /-- `ioc_` was stopped. -/
  stopped : Bool := false

/-- The state of the proxy server. -/
structure WebsocketProxy extends Tables, Process where
  lastHeartbeatTime : UInt64 := 0
  shutdownTime : UInt64 := 0
  serverQueue : List Message := []
  readings : ℕ := 0
  /-- What the memory of a message taken from the client queue is read as. -/
  slots : ℕ → Message := fun _ => default
  /-- The statuses stored in a message taken from the client queue. -/
  stores : ℕ → List Message.Status := fun _ => []
  /-- How many messages had been published when the last of these statuses was stored. -/
  storedAfter : ℕ → ℕ := fun _ => 0

namespace Tables

/-- The tables with a connection changed. -/
def modifySocket (t : Tables) (r : ℕ) (f : Websocket → Websocket) : Tables :=
  { t with sockets := Function.update t.sockets r (f (t.sockets r)) }

/-- `closeWs(id, pid)`: take the client from the connection, and close and drop the
connection when no client is left. -/
def closeWs (t : Tables) (id pid : UInt64) : Tables :=
  match t.websocketsById.lookup id with
  | none => t
  | some r =>
      let t := t.modifySocket r (fun ws => { ws with clients := ws.clients.erase pid })
      if (t.sockets r).clients = ∅ then
        let t := t.modifySocket r Websocket.close
        { t with
          websocketsByUrlApiKey := t.websocketsByUrlApiKey.erase (t.sockets r).key
          websocketsById := t.websocketsById.erase id }
      else t

/-- One round of the first loop of `unregisterClient`: take the client from a connection,
and note the connection when no client is left. -/
def detach (pid : UInt64) (acc : Tables × List UInt64) (kvp : Σ _ : UInt64, ℕ) :
    Tables × List UInt64 :=
  let (t, toClose) := acc
  if pid ∈ (t.sockets kvp.2).clients then
    let t := t.modifySocket kvp.2 (fun ws => { ws with clients := ws.clients.erase pid })
    if (t.sockets kvp.2).clients = ∅ then (t, toClose ++ [kvp.1]) else (t, toClose)
  else (t, toClose)

/-- The loops of `unregisterClient`: take the client from all connections, and close those
no client is left of. -/
def unregisterSockets (t : Tables) (pid : UInt64) : Tables :=
  let (t, toClose) := t.websocketsById.entries.foldl (detach pid) (t, [])
  toClose.foldl (fun t id => t.closeWs id pid) t

/-- One round of the loop of `removeClosedSockets`: drop the connection with an id. -/
def removeClosed (t : Tables) (id : UInt64) : Tables :=
  match t.websocketsById.lookup id with
  | none => t
  | some r =>
      { t with
        websocketsByUrlApiKey := t.websocketsByUrlApiKey.erase (t.sockets r).key
        websocketsById := t.websocketsById.erase id }

/-- The loop of `removeClosedSockets`, for at most the given number of rounds. -/
def removeClosedLoop : ℕ → Tables → Tables
  | 0, t => t
  | n + 1, t =>
      match t.closedSockets.read t.closedSocketsIndex with
      | none => t
      | some (id, index) =>
          removeClosedLoop n ({ t with closedSocketsIndex := index }.removeClosed id)

/-- Drop the connections whose ids are read from `closed_sockets_`. There are at most as
many rounds as elements the reader is behind. -/
def removeClosedSockets (t : Tables) : Tables :=
  t.removeClosedLoop (t.closedSockets.reserved - t.closedSocketsIndex)

/-- The loop of the closure of `shutdown`: close all connections and empty the tables. -/
def closeAll (t : Tables) : Tables :=
  let t := t.websocketsById.entries.foldl (fun t kvp =>
    let t := t.modifySocket kvp.2 Websocket.close
    { t with websocketsByUrlApiKey := t.websocketsByUrlApiKey.erase (t.sockets kvp.2).key }) t
  { t with websocketsById := ∅ }

end Tables

namespace WebsocketProxy

/-! ### Messages to the clients -/

/-- Take a reading of the clock. -/
def getTimestamp (px : WebsocketProxy) : UInt64 × WebsocketProxy :=
  (px.clock px.readings, { px with readings := px.readings + 1 })

/-- Publish a message, at a time the caller read. -/
def sendMessageToClientAt (px : WebsocketProxy) (msg : Message) (now : UInt64) :
    WebsocketProxy :=
  { px with serverQueue := px.serverQueue ++ [msg], lastHeartbeatTime := now }

/-- Publish a message. -/
def sendMessageToClient (px : WebsocketProxy) (msg : Message) : WebsocketProxy :=
  let (now, px) := px.getTimestamp
  px.sendMessageToClientAt msg now

/-- A message of the server. -/
def reserveMessage (px : WebsocketProxy) (data : Message.Data) : Message :=
  { pid := px.pid, data }

/-- Publish a heartbeat, if nothing was published for a while. -/
def sendHeartbeat (px : WebsocketProxy) (now : UInt64) : Bool × WebsocketProxy :=
  if now - px.lastHeartbeatTime > heartbeatInterval then
    (true, px.sendMessageToClientAt (px.reserveMessage .heartbeat) now)
  else (false, px)

/-- Tell the clients that a connection was opened for a client. -/
def onWsOpened (px : WebsocketProxy) (id clientPid : UInt64) : WebsocketProxy :=
  px.sendMessageToClient
    (px.reserveMessage (.openWs { id, clientPid, newConnection := true }))

/-- Tell the clients that a connection was closed, and note its id for removal. -/
def onWsClosed (px : WebsocketProxy) (id : UInt64) : WebsocketProxy :=
  let px := px.sendMessageToClient (px.reserveMessage (.closeWs { id }))
  { px with closedSockets := px.closedSockets.push id }

/-- Tell the clients about an error of a connection. -/
def onWsError (px : WebsocketProxy) (id : UInt64) (err : Bytes) (len : UInt32) :
    WebsocketProxy :=
  px.sendMessageToClient
    (px.reserveMessage (.wsError { id, len, err := err.take len.toNat }))

/-- Pass data of a connection on to the clients. -/
def onWsData (px : WebsocketProxy) (id : UInt64) (data : Bytes) (len remaining : UInt32) :
    WebsocketProxy :=
  px.sendMessageToClient
    (px.reserveMessage (.wsData { id, len, remaining, data := data.take len.toNat }))

/-! ### The slots of requests -/

/-- Store a status in the slot of a message. -/
def storeStatus (px : WebsocketProxy) (msg : ℕ) (status : Message.Status) : WebsocketProxy :=
  { px with
    slots := Function.update px.slots msg { px.slots msg with status }
    stores := Function.update px.stores msg (px.stores msg ++ [status])
    storedAfter := Function.update px.storedAfter msg px.serverQueue.length }

/-- Write the data in the slot of a message. -/
def storeData (px : WebsocketProxy) (msg : ℕ) (data : Message.Data) : WebsocketProxy :=
  { px with slots := Function.update px.slots msg { px.slots msg with data } }

/-! ### Clients -/

/-- Look a client up, and refresh it. The result tells whether there is one. -/
def getClient (px : WebsocketProxy) (pid : UInt64) : Bool × WebsocketProxy :=
  match px.clients.lookup pid with
  | some client =>
      let (now, px) := px.getTimestamp
      (true, { px with clients := px.clients.replace pid { client with lastHeartbeatTime := now } })
  | none => (false, px)

/-- Register the sender of a message, or refresh it. -/
def handleClientRegistration (px : WebsocketProxy) (msg : ℕ) (reg : RegisterMessage) :
    WebsocketProxy :=
  let pid := (px.slots msg).pid
  let px := px.storeData msg (.register { reg with serverPid := px.pid })
  let px := { px with shutdownTime := 0 }
  let px := { px with clients := px.clients.emplace pid ⟨0, 0⟩ }
  let (now, px) := px.getTimestamp
  let px := { px with clients := px.clients.replace pid ⟨pid, now⟩ }
  px.storeStatus msg .success

/-- `unregisterClient` with an iterator: drop a client that is in the table. -/
def unregisterClientAt (px : WebsocketProxy) (pid : UInt64) : WebsocketProxy :=
  let px := { px with toTables := px.toTables.unregisterSockets pid }
  let px := { px with clients := px.clients.erase pid }
  if px.clients.isEmpty then
    let (now, px) := px.getTimestamp
    { px with shutdownTime := now }
  else px

/-- `unregisterClient` with a process id: drop a client, if it is in the table. -/
def unregisterClient (px : WebsocketProxy) (pid : UInt64) : WebsocketProxy :=
  if pid ∈ px.clients then px.unregisterClientAt pid else px

def handleClientHeartbeat (px : WebsocketProxy) (msg : ℕ) : WebsocketProxy :=
  (px.getClient (px.slots msg).pid).2

/-! ### Opening and closing -/

/-- Construct a connection and spawn the coroutine that opens it. The result tells whether
the constructor threw. -/
def openNewWs (px : WebsocketProxy) (msg : ℕ) (req : WsOpen) : WebsocketProxy × Bool :=
  let px := px.storeData msg (.openWs { req with newConnection := true })
  let websocketId := px.websocketId + 1
  let id := px.pid * 10000 + websocketId.toUInt64
  match Websocket.new id req.url req.apiKey msg with
  | none => ({ px with websocketId, opens := px.opens + 1 }, true)
  | some ws =>
      ({ px with
          websocketId
          opens := px.opens + 1
          sockets := Function.update px.sockets px.opens ws }, false)

/-- The callback `openNewWs` gives to the coroutine that opens a connection: it enters the
connection under what it now reads in the slot of the request, and answers the request. -/
def onOpened (px : WebsocketProxy) (r msg : ℕ) (success : Bool) : WebsocketProxy :=
  if success then
    let pid := (px.slots msg).pid
    let id := (px.sockets r).id
    let px := px.onWsOpened id pid
    let req := (px.slots msg).wsOpen
    let px := px.storeData msg (.openWs { req with id, clientPid := pid })
    let px := { px with
      toTables := px.modifySocket r (fun ws => { ws with clients := insert pid ws.clients }) }
    let px := { px with
      websocketsByUrlApiKey := px.websocketsByUrlApiKey.emplace ⟨req.url, req.apiKey⟩ r }
    let px := { px with websocketsById := px.websocketsById.emplace id r }
    px.storeStatus msg .success
  else px.storeStatus msg .failed

/-- Attach the sender to the connection of the url and key it asks for, or open one. The
result tells whether the constructor threw. -/
def openWs (px : WebsocketProxy) (msg : ℕ) (req : WsOpen) : WebsocketProxy × Bool :=
  let pid := (px.slots msg).pid
  let (client, px) := px.getClient pid
  if client then
    match px.websocketsByUrlApiKey.lookup ⟨req.url, req.apiKey⟩ with
    | some r =>
        let state := (px.sockets r).status
        if state ≠ .disconnecting ∧ state ≠ .disconnected then
          let px := { px with
            toTables := px.modifySocket r (fun ws => { ws with clients := insert pid ws.clients }) }
          let id := (px.sockets r).id
          let px := px.storeData msg (.openWs
            { req with id, clientPid := pid, newConnection := decide (state = .connecting) })
          let px := px.onWsOpened id pid
          (px.storeStatus msg .success, false)
        else px.openNewWs msg req
    | none => px.openNewWs msg req
  else
    let err := (toBytes ("Client " ++ toString pid ++ " not found")).take 255
    ((px.storeData msg (.openWs { req with err })).storeStatus msg .failed, false)

/-- `closeWs` of a message. -/
def closeWs (px : WebsocketProxy) (msg : ℕ) (req : WsClose) : WebsocketProxy :=
  let pid := (px.slots msg).pid
  let (client, px) := px.getClient pid
  let px := if client then { px with toTables := px.toTables.closeWs req.id pid } else px
  px.storeStatus msg .success

/-! ### Subscriptions and requests -/

/-- Record a subscription, and pass the request on if it subscribes to something new. -/
def handleSubscribe (px : WebsocketProxy) (msg : ℕ) (req : WsSubscription) : WebsocketProxy :=
  let pid := (px.slots msg).pid
  let (client, px) := px.getClient pid
  if client then
    let symbol := Message.symbolView req
    match px.websocketsById.lookup req.id with
    | some r =>
        match (px.sockets r).subscriptions.lookup symbol with
        | none =>
            let sub : Subscription := { type := req.type, clients := {pid} }
            let px := { px with toTables := px.modifySocket r (fun ws =>
              { ws with subscriptions := ws.subscriptions.insert symbol sub }.send req.request) }
            px.storeStatus msg .success
        | some sub =>
            let new := sub.type &&& req.type = 0
            let sub : Subscription :=
              { type := if new then sub.type ||| req.type else sub.type
                clients := insert pid sub.clients }
            let px := { px with toTables := px.modifySocket r (fun ws =>
              let ws := { ws with subscriptions := ws.subscriptions.replace symbol sub }
              if new then ws.send req.request else ws) }
            let px := px.storeData msg (.subscribe { req with existing := true })
            px.storeStatus msg .success
    | none => px.storeStatus msg .failed
  else px.storeStatus msg .failed

/-- Drop the sender from a subscription, and the subscription with the last client, when
the request is passed on. -/
def handleUnsubscribe (px : WebsocketProxy) (msg : ℕ) (req : WsSubscription) :
    WebsocketProxy :=
  let pid := (px.slots msg).pid
  let (client, px) := px.getClient pid
  let px :=
    if client then
      let symbol := Message.symbolView req
      match px.websocketsById.lookup req.id with
      | some r =>
          match (px.sockets r).subscriptions.lookup symbol with
          | some sub =>
              let sub := { sub with clients := sub.clients.erase pid }
              { px with toTables := px.modifySocket r (fun ws =>
                if sub.clients = ∅ then
                  { ws with subscriptions := ws.subscriptions.erase symbol }.send req.request
                else { ws with subscriptions := ws.subscriptions.replace symbol sub }) }
          | none => px
      | none => px
    else px
  px.storeStatus msg .success

/-- Pass a request on. -/
def sendWsRequest (px : WebsocketProxy) (msg : ℕ) (req : WsRequest) : WebsocketProxy :=
  let pid := (px.slots msg).pid
  let (client, px) := px.getClient pid
  if client then
    match px.websocketsById.lookup req.id with
    | some r =>
        let px := { px with toTables := px.modifySocket r (fun ws => ws.send req.data) }
        px.storeStatus msg .success
    | none =>
        let err := toBytes
          ("Failed to send message. Websocket not found. id=" ++ toString req.id)
        (px.onWsError req.id err (UInt32.ofNat err.length)).storeStatus msg .failed
  else
    let err := toBytes ("Failed to send message. Client not found. pid=" ++ toString pid)
    (px.onWsError req.id err (UInt32.ofNat err.length)).storeStatus msg .failed

/-! ### The two loops -/

/-- Handle a message by its type. The result tells whether the handling threw. -/
def handleClientMessage (px : WebsocketProxy) (msg : ℕ) : WebsocketProxy × Bool :=
  match (px.slots msg).data with
  | .register reg => (px.handleClientRegistration msg reg, false)
  | .unregister => (px.unregisterClient (px.slots msg).pid, false)
  | .heartbeat => (px.handleClientHeartbeat msg, false)
  | .openWs req => px.openWs msg req
  | .closeWs req => (px.closeWs msg req, false)
  | .wsRequest req => (px.sendWsRequest msg req, false)
  | .subscribe req => (px.handleSubscribe msg req, false)
  | .unsubscribe req => (px.handleUnsubscribe msg req, false)
  | .logLevel _ => (px, false)
  | .wsData _ => (px, false)
  | .wsError _ => (px, false)
  | .unknown => (px, false)

/-- Post the closure that shuts down. -/
def shutdown (px : WebsocketProxy) : WebsocketProxy :=
  { px with shutdownClosures := px.shutdownClosures + 1 }

/-- The end of `processClientMessage`: shut down when no client came for a minute, else
post the handler again. -/
def processNext (px : WebsocketProxy) : WebsocketProxy :=
  let repost (px : WebsocketProxy) := { px with messageHandlers := px.messageHandlers + 1 }
  if px.run then
    if px.shutdownTime ≠ 0 then
      let (now, px) := px.getTimestamp
      if now - px.shutdownTime ≥ 60000 then { px.shutdown with autoShutdown := true }
      else repost px
    else repost px
  else px

/-- Take a message from the queue, if there is one, and handle it. The result tells whether
the handling threw: an exception leaves the handler at once. -/
def processClientMessage (px : WebsocketProxy) (msg : Option Message) :
    WebsocketProxy × Bool :=
  match msg with
  | some m =>
      let px := { px with
        taken := px.taken + 1
        slots := Function.update px.slots px.taken m }
      let (px, threw) := px.handleClientMessage (px.taken - 1)
      if threw then (px, true)
      else ({ px with toTables := px.toTables.removeClosedSockets }.processNext, false)
  | none => ({ px with toTables := px.toTables.removeClosedSockets }.processNext, false)

/-- One round of the loop of `checkHeartbeats`, at a reading of the clock. -/
def checkClient (now : UInt64) (px : WebsocketProxy) (kvp : Σ _ : UInt64, ClientInfo) :
    WebsocketProxy :=
  if now - kvp.2.lastHeartbeatTime > 30000 then px.unregisterClientAt kvp.1 else px

/-- Send a heartbeat, and drop the clients whose own heartbeats have stopped. -/
def checkHeartbeats (px : WebsocketProxy) : Bool × WebsocketProxy :=
  if px.clients.isEmpty then (false, px)
  else
    let (now, px) := px.getTimestamp
    let (hasActivity, px) := px.sendHeartbeat now
    (hasActivity, px.clients.entries.foldl (checkClient now) px)

def startHeartbeat (px : WebsocketProxy) : WebsocketProxy :=
  let (_, px) := px.checkHeartbeats
  if px.run then { px with heartbeatHandlers := px.heartbeatHandlers + 1 } else px

/-- The handler `run` posts first: announce the server, and start the heartbeat. -/
def announce (px : WebsocketProxy) : WebsocketProxy :=
  let (now, px) := px.getTimestamp
  let (_, px) := px.sendHeartbeat now
  { px with startup := false }.startHeartbeat

/-- The closure `shutdown` posts. -/
def shutdownClosure (px : WebsocketProxy) : WebsocketProxy :=
  let px := { px with run := false }
  let px := { px with toTables := px.toTables.closeAll }
  { px with stopClosures := px.stopClosures + 1 }

/-! ### Calls of a connection -/

/-- Perform a call of a connection into the proxy. -/
def callback (r : ℕ) (px : WebsocketProxy) (call : Websocket.Callback) : WebsocketProxy :=
  match call with
  | .onWsError err => px.onWsError (px.sockets r).id err (UInt32.ofNat err.length)
  | .onWsData data => px.onWsData (px.sockets r).id data (UInt32.ofNat data.length) 0
  | .onWsClosed => px.onWsClosed (px.sockets r).id
  | .opened msg success => px.onOpened r msg success

/-- Change a connection as one of its methods does, and perform the calls of the method. -/
def perform (px : WebsocketProxy) (r : ℕ) (result : Websocket × List Websocket.Callback) :
    WebsocketProxy :=
  result.2.foldl (callback r) { px with toTables := px.modifySocket r (fun _ => result.1) }

end WebsocketProxy
