import Mathlib.Algebra.Order.Ring.Int
import Mathlib.Data.List.Basic

/-!
# The messages of the shared memory queues

Clients and server write the same messages into the two queues. A message has the process
id of its writer, a type with the data of that type, and a status, by which the server
answers a request in the slot of the request. `Message.Data` has a constructor for each
type, holding the structure the data of that type is read as.

Character arrays are modelled by the bytes that are read from them, and the lengths of
variable tails by the lengths of those tails, except where the code computes a length.
-/

/-- The bytes of a string or of a payload. -/
abbrev Bytes : Type := List UInt8

/-- The bytes of a text of the source. -/
def toBytes (s : String) : Bytes := s.toUTF8.toList

/-- Milliseconds of silence after which a heartbeat is sent. -/
def heartbeatInterval : UInt64 := 500

/-- Milliseconds of silence after which a client gives the server up. -/
def heartbeatTimeout : UInt64 := 15000

/-- The data of a `Register` message. -/
structure RegisterMessage where
  name : Bytes
  serverPid : UInt64 := 0
deriving DecidableEq, Inhabited

/-- The data of an `OpenWs` message, with the fields of the answer. -/
structure WsOpen where
  url : Bytes := []
  apiKey : Bytes := []
  clientPid : UInt64 := 0
  id : UInt64 := 0
  newConnection : Bool := false
  err : Bytes := []
deriving DecidableEq, Inhabited

/-- The data of a `CloseWs` message. -/
structure WsClose where
  id : UInt64
deriving DecidableEq

/-- The bits of a subscription. -/
abbrev SubscriptionType : Type := UInt8

namespace SubscriptionType

def none : SubscriptionType := 0
def quotes : SubscriptionType := 1
def trades : SubscriptionType := 2

end SubscriptionType

/-- The data of a `Subscribe` or `Unsubscribe` message. The array `symbol` has 256 bytes;
`request` are the `request_len` bytes of the tail. -/
structure WsSubscription where
  symbol : Bytes
  id : UInt64
  existing : Bool := false
  type : SubscriptionType := SubscriptionType.none
  request : Bytes := []
deriving DecidableEq

/-- The data of a `WsRequest` message: `data` are the `len` bytes of the tail. -/
structure WsRequest where
  id : UInt64
  data : Bytes
deriving DecidableEq

/-- The data of a `WsError` message. -/
structure WsError where
  id : UInt64
  len : UInt32
  err : Bytes
deriving DecidableEq

/-- The data of a `WsData` message. -/
structure WsData where
  id : UInt64
  len : UInt32
  remaining : UInt32
  data : Bytes
deriving DecidableEq

/-- The data of a `LogLevel` message. -/
structure LogLevel where
  level : UInt8
deriving DecidableEq

namespace Message

/-- The status of a request: `pending` until the server answers it. -/
inductive Status where
  | pending
  | success
  | failed
deriving DecidableEq

/-- The types of messages, each with the data of a message of that type. A type byte the
source does not name is `unknown`. -/
inductive Data where
  | register (m : RegisterMessage)
  | unregister
  | openWs (m : WsOpen)
  | closeWs (m : WsClose)
  | heartbeat
  | wsRequest (m : WsRequest)
  | wsData (m : WsData)
  | wsError (m : WsError)
  | subscribe (m : WsSubscription)
  | unsubscribe (m : WsSubscription)
  | logLevel (m : LogLevel)
  | unknown
deriving DecidableEq

end Message

/-- A message in a slot of a queue. -/
structure Message where
  pid : UInt64
  data : Message.Data
  status : Message.Status := .pending
deriving DecidableEq

namespace Message

instance : Inhabited Message := ⟨{ pid := 0, data := .unknown }⟩

/-- The data of a message read as that of an `OpenWs` message. -/
def wsOpen (msg : Message) : WsOpen :=
  match msg.data with
  | .openWs req => req
  | _ => default

/-- The data of a message read as that of a `Register` message. -/
def registerMessage (msg : Message) : RegisterMessage :=
  match msg.data with
  | .register reg => reg
  | _ => default

/-- The symbol of a subscription: the bytes before the first zero byte, and at most as
many as the array has. -/
def symbolView (req : WsSubscription) : Bytes :=
  (req.symbol.take 256).takeWhile (· ≠ 0)

end Message
