import WebsocketProxy.Library.Transition
import WebsocketProxy.Library.UnorderedMap
import WebsocketProxy.Types

/-!
# The client

`WebsocketProxyClient` is the state of a client: the members of the class, where its two
threads are, and what can be seen of it. The worker runs `doWork`, and the caller is the
thread that calls the public methods; between two steps of one the other may make any number.

An event is a step of one of them, with what it finds: the readings of the clock, the message
at the reading index of the server queue, the answer in the slot of a request. Messages the
client publishes are put out by the step; a request is referred to by its number in the client
queue, which the event gives.

`serverQueueIndex` counts messages of the server queue. Logging is left out, and so is
starting the worker: it does nothing before the client is registered.
-/

/-- A call of the callback interface. -/
inductive WebsocketProxyCallback where
  | onWebsocketProxyServerDisconnected
  | onWebsocketOpened (id : UInt64)
  | onWebsocketClosed (id : UInt64)
  | onWebsocketError (id : UInt64) (err : Bytes) (len : UInt32)
  | onWebsocketData (id : UInt64) (data : Bytes) (len remaining : UInt32)
deriving DecidableEq

namespace WebsocketProxyClient

/-- Where the worker is in a round of its loop. -/
inductive Worker where
  /-- It loads `server_pid_` next. -/
  | loading
  /-- It reads the clock next. -/
  | timing (serverPid : UInt64)
  /-- It reads the queue next. -/
  | reading (serverPid now : UInt64)
  /-- It calls `sendHeartbeat` next; `found` tells whether there was a message. -/
  | beating (now : UInt64) (found : Bool)
  /-- It compares `now` with the time of the last message next. -/
  | comparing (now : UInt64) (found : Bool)
  /-- It gives the server up next. -/
  | disconnecting
deriving DecidableEq

/-- The arguments of `openWebSocket`, or of `openWebSocketAsync`. -/
structure Opening where
  url : Bytes
  apiKey : Bytes
  async : Bool
deriving DecidableEq

/-- What the caller waits for the answer of. `existing` is what the variable holds that the
caller passed to `subscribe` by reference. -/
inductive Request where
  | register (o : Opening)
  | openWs
  | closeWs (id : UInt64)
  | subscribe (existing : Bool)
deriving DecidableEq

/-- Where the caller is in a public method. -/
inductive Caller where
  | idle
  /-- It calls `spawnWebsocketsProxyServer` next. -/
  | spawning (o : Opening)
  /-- It calls `_register` next, after `waitForServerReady` if the reading index is zero. -/
  | connecting (o : Opening)
  /-- It is connected, and sends `OpenWs` next. -/
  | connected (o : Opening)
  /-- It waits for the answer of a message since `start`. -/
  | waiting (msg : ℕ) (start : UInt64) (req : Request)
  /-- `CloseWs` was answered, and it calls `unregister` next. -/
  | unregistering (id : UInt64)
  /-- `Unregister` is published, and it sets `server_pid_` to zero next. -/
  | forgetting (id : UInt64)
deriving DecidableEq

/-- What a public method returned, and what it left in the variables that were passed to it by
reference. -/
inductive Result where
  | openWebSocket (id : UInt64) (newConnection : Bool)
  | openWebSocketAsync (success : Bool)
  | closeWebSocket (id : UInt64) (success : Bool)
  | subscribe (success existing : Bool)
deriving DecidableEq

/-- What can be seen of a client: the messages its worker reads, each with what the worker
takes for the process id of the server, the callbacks, and what calls return. -/
inductive Observation where
  | read (serverPid : UInt64) (msg : Message)
  | callback (cb : WebsocketProxyCallback)
  | returned (result : Result)
deriving DecidableEq

end WebsocketProxyClient

open WebsocketProxyClient

/-- The state of a client. -/
structure WebsocketProxyClient where
  pid : UInt64
  name : Bytes := []
  id : UInt64 := 0
  serverPid : UInt64 := 0
  /-- `client_queue_` and `server_queue_` are set. -/
  queues : Bool := false
  serverQueueIndex : ℕ := 0
  lastHeartbeatTime : UInt64 := 0
  lastServerHeartbeatTime : UInt64 := 0
  websockets : UnorderedMap UInt64 Unit := ∅
  worker : Worker := .loading
  caller : Caller := .idle
  /-- What was seen of the client so far. -/
  trace : List Observation := []

namespace WebsocketProxyClient

/-! ### Messages to the server -/

/-- Publish a message. -/
def sendMessage (c : WebsocketProxyClient) (data : Message.Data) (sent : UInt64) :
    WebsocketProxyClient × List Message :=
  ({ c with lastHeartbeatTime := sent }, [{ pid := c.pid, data }])

/-- Publish a heartbeat, if nothing was published for a while. -/
def sendHeartbeat (c : WebsocketProxyClient) (now sent : UInt64) :
    WebsocketProxyClient × List Message :=
  if c.serverPid ≠ 0 ∧ now - c.lastHeartbeatTime > heartbeatInterval then
    c.sendMessage .heartbeat sent
  else (c, [])

/-! ### Messages of the server -/

/-- Call a callback. -/
def callback (c : WebsocketProxyClient) (cb : WebsocketProxyCallback) : WebsocketProxyClient :=
  { c with trace := c.trace ++ [.callback cb] }

def handleWsOpen (c : WebsocketProxyClient) (m : WsOpen) : WebsocketProxyClient :=
  if m.clientPid = c.pid then
    { c with websockets := c.websockets.emplace m.id () }.callback (.onWebsocketOpened m.id)
  else c

def handleWsClose (c : WebsocketProxyClient) (m : WsClose) : WebsocketProxyClient :=
  if m.id ∈ c.websockets then
    { c with websockets := c.websockets.erase m.id }.callback (.onWebsocketClosed m.id)
  else c

def handleWsError (c : WebsocketProxyClient) (m : WsError) : WebsocketProxyClient :=
  if m.id ∈ c.websockets then c.callback (.onWebsocketError m.id m.err m.len) else c

def handleWsData (c : WebsocketProxyClient) (m : WsData) : WebsocketProxyClient :=
  if m.id ∈ c.websockets then c.callback (.onWebsocketData m.id m.data m.len m.remaining) else c

/-- Handle a message of the server by its type. -/
def handleMessage (c : WebsocketProxyClient) (msg : Message) : WebsocketProxyClient :=
  match msg.data with
  | .openWs m => c.handleWsOpen m
  | .closeWs m => c.handleWsClose m
  | .wsError m => c.handleWsError m
  | .wsData m => c.handleWsData m
  | _ => c

/-! ### The worker -/

/-- A message was read, at the time `now`: it tells that there is a server. -/
def noteMessage (c : WebsocketProxyClient) (serverPid now : UInt64) (msg : Message) :
    WebsocketProxyClient :=
  { c with
    serverQueueIndex := c.serverQueueIndex + 1
    trace := c.trace ++ [.read serverPid msg]
    lastServerHeartbeatTime := now }

/-- A message was read, at the time `now` and with `serverPid` for the process id of the
server. -/
def handleResult (c : WebsocketProxyClient) (serverPid now : UInt64) (msg : Message) :
    WebsocketProxyClient :=
  let c := c.noteMessage serverPid now msg
  if serverPid ≠ msg.pid then { c with worker := .loading }
  else { c.handleMessage msg with worker := .beating now true }

/-- At the time `now`, a server last heard of at the time `last` is silent for too long. -/
def isSilent (last now : UInt64) : Bool := last ≠ 0 && now - last > heartbeatTimeout

/-- Nothing was heard of the server for too long. -/
def isTimedOut (c : WebsocketProxyClient) (now : UInt64) : Bool :=
  isSilent c.lastServerHeartbeatTime now

/-- Give the server up, and all connections. -/
def giveUp (c : WebsocketProxyClient) : WebsocketProxyClient :=
  let c := { c with serverPid := 0 }.callback .onWebsocketProxyServerDisconnected
  let c := c.websockets.keys.foldl (fun c id => c.callback (.onWebsocketClosed id)) c
  { c with websockets := ∅ }

/-! ### The public methods -/

/-- A public method returns. -/
def returns (c : WebsocketProxyClient) (result : Result) : WebsocketProxyClient :=
  { c with caller := .idle, trace := c.trace ++ [.returned result] }

/-- What `openWebSocket` or `openWebSocketAsync` returns when it fails. -/
def Opening.failed (o : Opening) : Result :=
  if o.async then .openWebSocketAsync false else .openWebSocket 0 false

/-- How long the caller waits for an answer, in milliseconds. -/
def Request.limit : Request → UInt64
  | register _ => 20000
  | openWs => 30000
  | closeWs _ => 10000
  | subscribe _ => 10000

/-- What a method returns when no answer came in time. -/
def Request.timedOut : Request → Result
  | register o => o.failed
  | openWs => .openWebSocket 0 false
  | closeWs id => .closeWebSocket id false
  | subscribe existing => .subscribe false existing

/-- The bytes of a string before the first zero byte. -/
def cString (s : Bytes) : Bytes := s.takeWhile (· ≠ 0)

/-- Publish a request, and wait for the answer. -/
def ask (c : WebsocketProxyClient) (req : Request) (data : Message.Data) (msg : ℕ)
    (sent start : UInt64) : WebsocketProxyClient × List Message :=
  let (c, published) := c.sendMessage data sent
  ({ c with caller := .waiting msg start req }, published)

/-- Publish `OpenWs`, and wait for the answer unless the method is `openWebSocketAsync`. -/
def sendOpenMessage (c : WebsocketProxyClient) (o : Opening) (msg : ℕ) (sent start : UInt64) :
    WebsocketProxyClient × List Message :=
  let data := .openWs { url := cString o.url, apiKey := cString o.apiKey }
  if o.async then
    let (c, published) := c.sendMessage data sent
    (c.returns (.openWebSocketAsync true), published)
  else c.ask .openWs data msg sent start

/-- The caller goes on with the answer of a request, which it finds at the time `now`. -/
def handleAnswer (c : WebsocketProxyClient) (req : Request) (answer : Message) (now : UInt64) :
    WebsocketProxyClient :=
  match req with
  | .register o =>
      let c := { c with lastServerHeartbeatTime := now }
      if answer.status = .failed then c.returns o.failed
      else { c with serverPid := answer.registerMessage.serverPid, caller := .connected o }
  | .openWs =>
      let c := { c with lastServerHeartbeatTime := now }
      if answer.status = .failed then c.returns (.openWebSocket 0 false)
      else c.returns (.openWebSocket answer.wsOpen.id answer.wsOpen.newConnection)
  | .closeWs id => { c with caller := .unregistering id }
  | .subscribe existing => c.returns (.subscribe true existing)

/-! ### Runs -/

/-- What happens to a client. -/
inductive Event where
  /-- The steps of the worker. -/
  | load
  | takeTime (now : UInt64)
  | read (result : Option Message)
  | sendHeartbeat (sent : UInt64)
  | compare
  | disconnect
  /-- The order in which an iteration over `websockets_` meets the ids changes. -/
  | rehash (websockets : UnorderedMap UInt64 Unit)
  /-- The steps of `openWebSocket` and `openWebSocketAsync`. -/
  | openWebSocket (o : Opening)
  | spawnWebsocketsProxyServer (index : Option ℕ)
  | waitForServerReady (found : Bool)
  | register (msg : ℕ) (sent start : UInt64)
  | sendOpenMessage (msg : ℕ) (sent start : UInt64)
  /-- The steps of `closeWebSocket`. -/
  | closeWebSocket (id : UInt64) (msg : ℕ) (sent start : UInt64)
  | unregister (sent : UInt64)
  | forget
  /-- `subscribe` is called. -/
  | subscribe (sub : WsSubscription) (existing : Bool) (msg : ℕ) (sent start : UInt64)
  /-- `unsubscribe`, `send` and `setLogLevel`. -/
  | unsubscribe (sub : WsSubscription) (sent : UInt64)
  | send (req : WsRequest) (sent : UInt64)
  | setLogLevel (level : LogLevel) (sent : UInt64)
  /-- The steps of `waitForResponse`: the answer is not there, the time is up, or there is an
  answer. -/
  | wait (now sent : UInt64)
  | timeout (now : UInt64)
  | answer (answer : Message) (now : UInt64)

/-- A client after a step, with the messages the step publishes, if the step can be made. -/
def perform (c : WebsocketProxyClient) :
    Event → Option (WebsocketProxyClient × List Message)
  | .load =>
      match c.worker with
      | .loading =>
          some (if c.serverPid = 0 then c else { c with worker := .timing c.serverPid }, [])
      | _ => none
  | .takeTime now =>
      match c.worker with
      | .timing serverPid => some ({ c with worker := .reading serverPid now }, [])
      | _ => none
  | .read result =>
      match c.worker, result with
      | .reading serverPid now, some msg => some (c.handleResult serverPid now msg, [])
      | .reading _ now, none => some ({ c with worker := .beating now false }, [])
      | _, _ => none
  | .sendHeartbeat sent =>
      match c.worker with
      | .beating now found =>
          let (c, published) := c.sendHeartbeat now sent
          some ({ c with worker := .comparing now found }, published)
      | _ => none
  | .compare =>
      match c.worker with
      | .comparing now found =>
          some ({ c with
            worker := if !found && c.isTimedOut now then .disconnecting else .loading }, [])
      | _ => none
  | .disconnect =>
      match c.worker with
      | .disconnecting => some ({ c.giveUp with worker := .loading }, [])
      | _ => none
  | .rehash websockets =>
      if websockets.entries.Perm c.websockets.entries then some ({ c with websockets }, []) else none
  | .openWebSocket o =>
      match c.caller with
      | .idle =>
          some (
            if o.url.length > 255 then c.returns o.failed
            else if c.serverPid = 0 then { c with caller := .spawning o }
            else { c with caller := .connected o }, [])
      | _ => none
  | .spawnWebsocketsProxyServer index =>
      match c.caller, index with
      | .spawning o, some index =>
          some ({ c with queues := true, serverQueueIndex := index, caller := .connecting o }, [])
      | .spawning o, none => some (c.returns o.failed, [])
      | _, _ => none
  | .waitForServerReady found =>
      match c.caller with
      | .connecting o =>
          if c.serverQueueIndex ≠ 0 then none
          else if found then some ({ c with serverQueueIndex := 1 }, [])
          else some (c.returns o.failed, [])
      | _ => none
  | .register msg sent start =>
      match c.caller with
      | .connecting o =>
          if c.serverQueueIndex = 0 then none
          else some (c.ask (.register o) (.register { name := c.name }) msg sent start)
      | _ => none
  | .sendOpenMessage msg sent start =>
      match c.caller with
      | .connected o => some (c.sendOpenMessage o msg sent start)
      | _ => none
  | .closeWebSocket id msg sent start =>
      match c.caller with
      | .idle =>
          let reqId := if id = 0 then c.id else id
          if c.queues then some (c.ask (.closeWs id) (.closeWs { id := reqId }) msg sent start)
          else none
      | _ => none
  | .unregister sent =>
      match c.caller with
      | .unregistering id =>
          let (c, published) := c.sendMessage .unregister sent
          some ({ c with caller := .forgetting id }, published)
      | _ => none
  | .forget =>
      match c.caller with
      | .forgetting id => some ({ c with serverPid := 0 }.returns (.closeWebSocket id true), [])
      | _ => none
  | .subscribe sub existing msg sent start =>
      match c.caller with
      | .idle =>
          let data := .subscribe { sub with existing := false }
          if c.queues then some (c.ask (.subscribe existing) data msg sent start) else none
      | _ => none
  | .unsubscribe sub sent =>
      match c.caller with
      | .idle =>
          let data := .unsubscribe { sub with existing := false, type := SubscriptionType.none }
          if c.queues then some (c.sendMessage data sent) else none
      | _ => none
  | .send req sent =>
      match c.caller with
      | .idle => if c.queues then some (c.sendMessage (.wsRequest req) sent) else none
      | _ => none
  | .setLogLevel level sent =>
      match c.caller with
      | .idle => if c.queues then some (c.sendMessage (.logLevel level) sent) else none
      | _ => none
  | .wait now sent =>
      match c.caller with
      | .waiting _ start req =>
          if now - start > req.limit then none else some (c.sendHeartbeat now sent)
      | _ => none
  | .timeout now =>
      match c.caller with
      | .waiting _ start req =>
          if now - start > req.limit then some (c.returns req.timedOut, []) else none
      | _ => none
  | .answer answer now =>
      match c.caller with
      | .waiting _ _ req =>
          if answer.status = .pending then none else some (c.handleAnswer req answer now, [])
      | _ => none

/-- A client when it is constructed. -/
def start (pid : UInt64) (name : Bytes) : WebsocketProxyClient := { pid, name }

/-- A client as a transition system, with any messages in the queues. -/
def system : TransitionSystem WebsocketProxyClient Event where
  initial c := ∃ pid name, c = start pid name
  step c ev := (c.perform ev).map Prod.fst

namespace Event

/-- `openWebSocketAsync` by a client that is not connected, when `msgs` messages of clients and
`index` messages of the server have been published. -/
def connect (serverPid : UInt64) (msgs index : ℕ) (now : UInt64) : List Event :=
  [.openWebSocket ⟨[104], [], true⟩, .spawnWebsocketsProxyServer (some index),
    .register msgs now now,
    .answer { pid := 0, data := .register { name := [], serverPid }, status := .success } now,
    .sendOpenMessage (msgs + 1) now now]

/-- A round of the worker that does not end early. -/
def round (now : UInt64) (result : Option Message) : List Event :=
  [.load, .takeTime now, .read result, .sendHeartbeat now, .compare]

end Event

end WebsocketProxyClient
