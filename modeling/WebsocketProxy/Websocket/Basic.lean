import Mathlib.Data.Finset.Basic
import WebsocketProxy.Library.Transition
import WebsocketProxy.Library.UnorderedMap
import WebsocketProxy.Types

/-!
# The upstream connection

`Websocket` is one connection to a remote server, with its state and its outstanding
asynchronous operations: the coroutine that opens it, reads, writes and the close. Methods
of the class take the connection to the changed connection. Where a method calls back into
the proxy, the calls are returned as a list, in their order, for the proxy to perform.

`Websocket.new` is the constructor, with its splitting of the url; it has no value when
the port text is one `std::stoi` throws on.

`Websocket.system` is the connection as a transition system of its own: all methods may be
called at any time, and a completion occurs when its operation is outstanding.
-/

/-! ### Strings -/

/-- The position of the first occurrence of `pat`. -/
def Bytes.find (pat : Bytes) : Bytes → Option ℕ
  | [] => if pat = [] then some 0 else none
  | c :: s => if pat.isPrefixOf (c :: s) then some 0 else (Bytes.find pat s).map (· + 1)

/-- The position of the first occurrence of `pat` at `pos` or later. -/
def Bytes.findFrom (pat s : Bytes) (pos : ℕ) : Option ℕ :=
  (Bytes.find pat (s.drop pos)).map (· + pos)

/-- Whether `std::isspace` accepts the byte. -/
def isSpace (c : UInt8) : Bool := c = 32 || (9 ≤ c && c ≤ 13)

/-- Whether the byte is a decimal digit. -/
def isDigit (c : UInt8) : Bool := 48 ≤ c && c ≤ 57

/-- The number a list of decimal digits denotes. -/
def digitsValue (ds : Bytes) : ℕ := ds.foldl (fun n c => 10 * n + (c.toNat - 48)) 0

/-- The number `std::stoi` reads, if it does not throw: after white space and an optional
sign there must be a digit, and the number must be an `int`. -/
def stoi (s : Bytes) : Option ℤ :=
  let s := s.dropWhile isSpace
  let negative := s.head? = some 45
  let s := if s.head? = some 45 ∨ s.head? = some 43 then s.tail else s
  let digits := s.takeWhile isDigit
  let value : ℤ := if negative then -(digitsValue digits : ℤ) else digitsValue digits
  if digits = [] then none
  else if -2 ^ 31 ≤ value ∧ value < 2 ^ 31 then some value
  else none

/-! ### The connection -/

/-- A subscription of a connection: its bits, and the clients that want it. -/
structure Subscription where
  type : SubscriptionType := SubscriptionType.none
  clients : Finset UInt64 := ∅
deriving DecidableEq

/-- The kinds of errors the connection tells apart. -/
inductive ErrorCondition where
  | closed
  | eof
  | operationAborted
  | other
deriving DecidableEq

/-- An error code, with the text of its message. -/
structure ErrorCode where
  condition : ErrorCondition
  message : Bytes
deriving DecidableEq

/-- The errors on which a read or a write handler returns without a failure. -/
def ErrorCode.Quiet (ec : ErrorCode) : Prop :=
  ec.condition = .closed ∨ ec.condition = .eof ∨ ec.condition = .operationAborted

instance (ec : ErrorCode) : Decidable ec.Quiet :=
  inferInstanceAs (Decidable (_ ∨ _ ∨ _))

namespace Websocket

/-- The states of a connection. -/
inductive Status where
  | connecting
  | connected
  | disconnecting
  | disconnected
deriving DecidableEq

/-- The number of a status: they are compared by it. -/
def Status.toNat : Status → ℕ
  | .connecting => 0
  | .connected => 1
  | .disconnecting => 2
  | .disconnected => 3

/-- Where the coroutine that opens a connection is suspended. -/
inductive OpenStage where
  | spawned
  | resolve
  | connect
  | sslHandshake
  | handshake
deriving DecidableEq

/-- The result the coroutine that opens a connection is resumed with. Of `connect`, the
result also tells the port of the endpoint, and whether the host name could be set. -/
inductive OpenResult where
  | success (port : ℕ)
  | failure (ec : ErrorCode)
  | hostNameNotSet (ec : ErrorCode)
deriving DecidableEq

/-- The calls of a connection into its proxy. `opened` is the callback `open` was given;
the request it captured is the message numbered `msg`. -/
inductive Callback where
  | onWsError (err : Bytes)
  | onWsData (data : Bytes)
  | onWsClosed
  | opened (msg : ℕ) (success : Bool)
deriving DecidableEq

end Websocket

/-- A connection to a remote server. The clients attached to it and their subscriptions
are those the proxy keeps in it. -/
structure Websocket where
  url : Bytes := []
  apiKey : Bytes := []
  host : Bytes := []
  path : Bytes := []
  port : UInt16 := 65535
  id : UInt64 := 0
  clients : Finset UInt64 := ∅
  subscriptions : UnorderedMap Bytes Subscription := ∅
  status : Websocket.Status := .disconnected
  /-- The readable bytes of `w_buffer_`. -/
  wBuffer : Bytes := []
  /-- The coroutine that opens the connection: its stage, and the request it answers. -/
  opening : Option (Websocket.OpenStage × ℕ) := none
  /-- The number of reads outstanding. -/
  reads : ℕ := 0
  /-- The writes outstanding, each with the number of bytes it transmits. -/
  writes : List ℕ := []
  /-- The messages handed to the transport so far. -/
  transport : List Bytes := []
  /-- The number of closes started so far. -/
  closesStarted : ℕ := 0
  /-- The number of closes completed so far. -/
  closesDone : ℕ := 0

/-- The key under which a connection is shared. -/
structure WebsocketKey where
  url : Bytes
  apiKey : Bytes
deriving DecidableEq

namespace Websocket

/-- What memory no connection was constructed in holds. -/
def blank : Websocket := {}

/-- The key of a connection. -/
def key (ws : Websocket) : WebsocketKey := ⟨ws.url, ws.apiKey⟩

/-! ### Construction -/

/-- The scheme, host part and path the constructor splits a url into. -/
def splitUrl (url : Bytes) : Bytes × Bytes × Bytes :=
  match Bytes.find (toBytes "://") url with
  | none =>
      match Bytes.find (toBytes "/") url with
      | none => (toBytes "wss", url, toBytes "/")
      | some pos => (toBytes "wss", url.take pos, url.drop pos)
  | some pos =>
      let hostBegin := pos + 3
      match Bytes.findFrom (toBytes "/") url hostBegin with
      | none => (url.take pos, url.drop hostBegin, toBytes "/")
      | some pos1 => (url.take pos, (url.drop hostBegin).take (pos1 - hostBegin), url.drop pos1)

/-- Where the port text of a host part starts, if it has one: a colon at position three or
four is not taken for the start of a port. -/
def portColon (host : Bytes) : Option ℕ :=
  (Bytes.find (toBytes ":") host).filter (fun pos => pos ≠ 3 ∧ pos ≠ 4)

/-- The host and the port the constructor reads a host part as, if `std::stoi` does not
throw. The number is cut to 16 bits. -/
def splitHost (host : Bytes) : Option (Bytes × UInt16) :=
  match portColon host with
  | none => some (host, 65535)
  | some pos =>
      (stoi (host.drop (pos + 1))).map (fun n => (host.take pos, UInt16.ofNat (n % 65536).toNat))

/-- The connection constructed from a url, with its opening coroutine spawned for the
request `msg`. There is none when `std::stoi` throws on the port text. -/
def new (id : UInt64) (url apiKey : Bytes) (msg : ℕ) : Option Websocket :=
  let (protocol, host, path) := splitUrl url
  (splitHost host).map fun (host, port) =>
    { url, apiKey, host, path, id
      port := if port = 65535 then (if protocol = toBytes "ws" then 80 else 443) else port
      opening := some (.spawned, msg) }

/-! ### Methods -/

/-- Start the close, unless the connection is closing or closed. -/
def close (ws : Websocket) : Websocket :=
  if ws.status.toNat < Status.disconnecting.toNat then
    { ws with status := .disconnecting, closesStarted := ws.closesStarted + 1 }
  else ws

/-- Report an error, tell the callback of `open` if it is given, and close. -/
def fail (ws : Websocket) (ec : ErrorCode) (callback : Option ℕ := none)
    (closeConnection : Bool := true) : Websocket × List Callback :=
  (if closeConnection ∧ ws.status.toNat < Status.disconnecting.toNat then ws.close else ws,
    .onWsError ec.message :: (callback.map (Callback.opened · false)).toList)

/-- Start a write of all that is readable once `buffer` was appended. -/
def send (ws : Websocket) (buffer : Bytes) : Websocket :=
  let wBuffer := ws.wBuffer ++ buffer
  { ws with
    wBuffer
    writes := ws.writes ++ [wBuffer.length]
    transport := ws.transport ++ [wBuffer] }

/-- The handler of a write that transmitted the given number of bytes. -/
def onWrite (ws : Websocket) (ec : Option ErrorCode) (bytesTransferred : ℕ) :
    Websocket × List Callback :=
  match ec with
  | some ec =>
      if ws.status ≠ .disconnected ∧ ¬ ec.Quiet then ws.fail ec none true else (ws, [])
  | none => ({ ws with wBuffer := ws.wBuffer.drop bytesTransferred }, [])

/-- The handler of a read: of an error, or of a message, after which the next read starts
if the connection is connected. -/
def onRead (ws : Websocket) (result : Except ErrorCode Bytes) : Websocket × List Callback :=
  match result with
  | .error ec =>
      if ws.status ≠ .disconnected ∧ ¬ ec.Quiet then ws.fail ec none true else (ws, [])
  | .ok data =>
      (if ws.status = .connected then { ws with reads := ws.reads + 1 } else ws,
        [.onWsData data])

/-- The handler of the close. -/
def onClose (ws : Websocket) (ec : Option ErrorCode) : Websocket × List Callback :=
  let (ws, calls) : Websocket × List Callback :=
    match ec with
    | some ec => if ec.condition ≠ .closed then ws.fail ec else (ws, [])
    | none => (ws, [])
  ({ ws with status := .disconnected }, calls ++ [.onWsClosed])

/-- The coroutine `open` of the request `msg`, resumed at a stage with a result, as far as
its next suspension or its end. The first stage resumes without a result. -/
def openResume (ws : Websocket) (stage : OpenStage) (msg : ℕ) (result : OpenResult) :
    Option (Websocket × List Callback) :=
  let failed (ec : ErrorCode) := fail { ws with opening := none } ec (some msg)
  match stage, result with
  | .spawned, .success _ =>
      some ({ ws with status := .connecting, opening := some (.resolve, msg) }, [])
  | .resolve, .success _ => some ({ ws with opening := some (.connect, msg) }, [])
  | .connect, .success port =>
      let host := ws.host ++ toBytes ":" ++ toBytes (toString port)
      some ({ ws with host, opening := some (.sslHandshake, msg) }, [])
  | .sslHandshake, .success _ => some ({ ws with opening := some (.handshake, msg) }, [])
  | .handshake, .success _ =>
      some ({ ws with status := .connected, opening := none, reads := ws.reads + 1 },
        [.opened msg true])
  | .spawned, _ => none
  | .connect, .hostNameNotSet ec => some (failed ec)
  | _, .hostNameNotSet _ => none
  | _, .failure ec => some (failed ec)

/-! ### The connection as a transition system -/

/-- The completion of an operation that is outstanding: the coroutine of `open` is resumed,
or a read, one of the writes or the close is completed. -/
inductive Completion where
  | resumed (result : OpenResult)
  | read (result : Except ErrorCode Bytes)
  | write (i : ℕ) (ec : Option ErrorCode)
  | close (ec : Option ErrorCode)

/-- The handler of a completion, if the operation is outstanding. -/
def complete (ws : Websocket) : Completion → Option (Websocket × List Callback)
  | .resumed result => ws.opening.bind fun (stage, msg) => ws.openResume stage msg result
  | .read result =>
      if 0 < ws.reads then some ({ ws with reads := ws.reads - 1 }.onRead result) else none
  | .write i ec =>
      ws.writes[i]?.map fun n => { ws with writes := ws.writes.eraseIdx i }.onWrite ec n
  | .close ec =>
      if ws.closesDone < ws.closesStarted then
        some ({ ws with closesDone := ws.closesDone + 1 }.onClose ec)
      else none

/-- What happens to a connection: a completion, a call of `send` or `close`, or a change
of the clients or subscriptions the proxy keeps in it. -/
inductive Event where
  | completed (c : Completion)
  | send (buffer : Bytes)
  | close
  | setClients (clients : Finset UInt64)
  | setSubscriptions (subscriptions : UnorderedMap Bytes Subscription)

/-- The connection after an event. -/
def step (ws : Websocket) : Event → Option Websocket
  | .completed c => (ws.complete c).map Prod.fst
  | .send buffer => some (ws.send buffer)
  | .close => some ws.close
  | .setClients clients => some { ws with clients }
  | .setSubscriptions subscriptions => some { ws with subscriptions }

/-- The connection as a transition system: it starts as constructed. -/
def system : TransitionSystem Websocket Event where
  initial ws := ∃ id url apiKey msg, new id url apiKey msg = some ws
  step := step

end Websocket
