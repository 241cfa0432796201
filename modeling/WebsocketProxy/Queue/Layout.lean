import WebsocketProxy.Library.ByteRing
import WebsocketProxy.Types

/-!
# The layout of messages

The structures of the messages are packed: each field follows the one before it. The fields
are given by their offsets, the offsets of the data by those in the whole message. A message
in memory is read as its type says; arrays of characters are read as C strings, which go on
to their first zero byte even where that is beyond the array.
-/

/-- The number of bytes of the client queue: `1 << 16`. -/
abbrev queueSize : ℕ := 65536

/-- The C string at an address of the client queue. -/
def Memory.string (m : Memory) (a : ℕ) : Bytes := m.cString a (queueSize - a)

/-- A string depends on as many bytes as it has, and the one that ends it. -/
theorem Memory.string_congr {m m' : Memory} {a k : ℕ} {s : Bytes}
    (h : ∀ x, a ≤ x → x < a + k → m x = m' x) (hs : s.length < k) (hm : m.string a = s) :
  m'.string a = s
  := by
  unfold string at hm ⊢
  apply cString_congr h hs hm

/-- The bytes of an array. -/
def Memory.bytes (m : Memory) (a n : ℕ) : Bytes := (List.range n).map fun i => m (a + i)

/-- The memory with one byte replaced. -/
def Memory.writeByte (m : Memory) (a : ℕ) (v : UInt8) : Memory := m.fill a 1 fun _ => v

namespace Message

/-! ### Offsets -/

def typeOffset : ℕ := 8
def statusOffset : ℕ := 9

/-- The offset of the data, which is the size of `Message`. -/
def dataOffset : ℕ := 10

/-- The status a byte is read as. Clients compare it with `PENDING` and with `FAILED`. -/
def Status.ofByte (b : UInt8) : Status :=
  if b = 0 then .pending else if b = 2 then .failed else .success

def Status.toByte : Status → UInt8
  | .pending => 0
  | .success => 1
  | .failed => 2

end Message

namespace WsOpen

def urlOffset : ℕ := Message.dataOffset
def apiKeyOffset : ℕ := Message.dataOffset + 512
def clientPidOffset : ℕ := Message.dataOffset + 1024
def idOffset : ℕ := Message.dataOffset + 1032
def newConnectionOffset : ℕ := Message.dataOffset + 1040
def errOffset : ℕ := Message.dataOffset + 1041

theorem offsets :
  urlOffset = 10 ∧ apiKeyOffset = 522 ∧ clientPidOffset = 1034 ∧ idOffset = 1042 ∧
    newConnectionOffset = 1050
  := ⟨rfl, rfl, rfl, rfl, rfl⟩

/-- The size of an `OpenWs` message. -/
def messageSize : ℕ := Message.dataOffset + 1297

/-- The data of an `OpenWs` message at an address. -/
def read (m : Memory) (a : ℕ) : WsOpen where
  url := m.string (a + urlOffset)
  apiKey := m.string (a + apiKeyOffset)
  clientPid := m.readU64 (a + clientPidOffset)
  id := m.readU64 (a + idOffset)
  newConnection := m (a + newConnectionOffset) ≠ 0
  err := m.string (a + errOffset)

/-- The strings of a request end in their arrays, as `strcpy_s` leaves them. -/
def Ends (req : WsOpen) : Prop := req.url.length < 512 ∧ req.apiKey.length < 512

instance (req : WsOpen) : Decidable req.Ends := inferInstanceAs (Decidable (_ ∧ _))

end WsOpen

namespace Message

/-- The data of a message at an address, by the byte of its type. -/
def Data.read (m : Memory) (a : ℕ) : Data :=
  let data := a + dataOffset
  match (m (a + typeOffset)).toNat with
  | 0 => .register { name := m.string data, serverPid := m.readU64 (data + 32) }
  | 1 => .unregister
  | 2 => .openWs (WsOpen.read m a)
  | 3 => .closeWs { id := m.readU64 data }
  | 4 => .heartbeat
  | 5 => .wsRequest
      { id := m.readU64 data, data := m.bytes (data + 12) (m.readU32 (data + 8)).toNat }
  | 6 => .wsData
      { id := m.readU64 data
        len := m.readU32 (data + 8)
        remaining := m.readU32 (data + 12)
        data := m.bytes (data + 16) (m.readU32 (data + 8)).toNat }
  | 7 => .wsError
      { id := m.readU64 data
        len := m.readU32 (data + 8)
        err := m.bytes (data + 12) (m.readU32 (data + 8)).toNat }
  | 8 => .subscribe (subscription data)
  | 9 => .unsubscribe (subscription data)
  | 10 => .logLevel { level := m data }
  | _ => .unknown
where
  /-- The data of a subscription. -/
  subscription (data : ℕ) : WsSubscription :=
    { symbol := m.bytes data 256
      id := m.readU64 (data + 256)
      existing := m (data + 268) ≠ 0
      type := m (data + 269)
      request := m.bytes (data + 270) (m.readU32 (data + 264)).toNat }

/-- The message at an address. -/
def read (m : Memory) (a : ℕ) : Message where
  pid := m.readU64 a
  data := Data.read m a
  status := Status.ofByte (m (a + statusOffset))

/-- The message at an address, read as an `OpenWs` message whatever its type is by now: this
is what a reference to a request is read as later. -/
def readOpen (m : Memory) (a : ℕ) : Message where
  pid := m.readU64 a
  data := .openWs (WsOpen.read m a)
  status := Status.ofByte (m (a + statusOffset))

/-! ### Answers -/

/-- The memory with the fields of an answer written, those of them that were changed. -/
def Data.writeAnswer (m : Memory) (a : ℕ) : Data → Data → Memory
  | .register _, .register reg => m.writeU64 (a + dataOffset + 32) reg.serverPid
  | .openWs req, .openWs req' =>
      let m := m.writeU64 (a + WsOpen.clientPidOffset) req'.clientPid
      let m := m.writeU64 (a + WsOpen.idOffset) req'.id
      let m := if req'.newConnection = req.newConnection then m
        else m.writeByte (a + WsOpen.newConnectionOffset) (if req'.newConnection then 1 else 0)
      if req'.err = req.err then m
      else m.fill (a + WsOpen.errOffset) (req'.err.length + 1) fun i => req'.err.getD i 0
  | .subscribe req, .subscribe req' =>
      if req'.existing = req.existing then m
      else m.writeByte (a + dataOffset + 268) (if req'.existing then 1 else 0)
  | _, _ => m

/-- The memory with the answer to a message written: the fields, and the status if one was
stored. -/
def writeAnswer (m : Memory) (a : ℕ) (msg msg' : Message) (stored : Bool) : Memory :=
  let m := Data.writeAnswer m a msg.data msg'.data
  if stored then m.writeByte (a + statusOffset) msg'.status.toByte else m

/-! ### The bytes an opening reads and writes -/

/-- The byte at an address is one of those that the end of an opening writes in the message
at `a`: its status, and the fields `client_pid` and `id`. -/
def OpenAnswer (a x : ℕ) : Prop :=
  x = a + statusOffset ∨ a + WsOpen.clientPidOffset ≤ x ∧ x < a + WsOpen.newConnectionOffset

/-- The memory with the fields `id` and `client_pid` of a request written. -/
def writeOpened (m : Memory) (a : ℕ) (id clientPid : UInt64) : Memory :=
  (m.writeU64 (a + WsOpen.idOffset) id).writeU64 (a + WsOpen.clientPidOffset) clientPid

theorem writeOpened_outside {m : Memory} {a x : ℕ} (id clientPid : UInt64)
    (h : x < a + WsOpen.clientPidOffset ∨ a + WsOpen.newConnectionOffset ≤ x) :
  writeOpened m a id clientPid x = m x
  := by
  obtain ⟨-, -, hclientPid, hid, hnew⟩ := WsOpen.offsets
  unfold writeOpened
  rw [Memory.writeU64_outside _ (by omega), Memory.writeU64_outside _ (by omega)]

end Message
