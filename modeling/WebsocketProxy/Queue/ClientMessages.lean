import WebsocketProxy.Queue.ClientRequests
import WebsocketProxy.Queue.PendingOpen
import WebsocketProxy.Server.SlotContents

/-!
# The messages of clients

Besides the calls of its caller, a client sends messages of its own: it registers and unregisters,
sends heartbeats, and sets the log level. The server reads each message as it was sent
(`ClientMessage.reads_message`), and answers it within its bytes
(`ClientMessage.writeAnswer_outside`).
-/

/-- A message that a client sends: a call of its caller, or one of its own. -/
inductive ClientMessage where
  | request (call : ClientCall)
  | register
  | unregister
  | heartbeat
  | setLogLevel (level : LogLevel)

/-! ### Answers -/

namespace Message.Data

/-- The end of what is written into a message as it is answered. -/
def answerEnd : Data → ℕ
  | .register _ => dataOffset + 40
  | .openWs _ => WsOpen.messageSize
  | .subscribe _ => dataOffset + 269
  | _ => dataOffset

section

variable {pid : UInt64} {data answer : Data} {m : Memory} {a x : ℕ}

/-- The flag and the text of an answer are written behind its id, and end in the message. -/
theorem writeAnswer_openWs {req answer : WsOpen} (hx : x < a + WsOpen.newConnectionOffset ∨
      a + WsOpen.messageSize ≤ x ∧ (answer.err = req.err ∨ answer.err.length < 256)) :
  writeAnswer m a (.openWs req) (.openWs answer) x
    = ((m.writeU64 (a + WsOpen.clientPidOffset) answer.clientPid).writeU64
        (a + WsOpen.idOffset) answer.id) x
  := by
  obtain ⟨-, -, -, -, hnew⟩ := WsOpen.offsets
  have herrOffset : WsOpen.errOffset = 1051 := by rfl
  have hsize : WsOpen.messageSize = 1307 := by rfl
  have hflag : ∀ m : Memory, (if answer.newConnection = req.newConnection then m
      else m.writeByte (a + WsOpen.newConnectionOffset)
        (if answer.newConnection then 1 else 0)) x = m x := by
    intro m
    split
    · rfl
    · exact Memory.fill_outside _ (by omega)
  rw [writeAnswer]
  split
  case isTrue => exact hflag _
  case isFalse hne =>
    refine (Memory.fill_outside _ ?_).trans (hflag _)
    rcases hx with hlt | ⟨hge, herr⟩
    · omega
    · have hlength := herr.resolve_left hne
      omega

/-- The fields of an answer are written behind the header, and before this end. -/
theorem Filled.writeAnswer_outside (h : data.Filled pid answer)
    (hx : x < a + dataOffset ∨ a + data.answerEnd ≤ x) :
  writeAnswer m a data answer x = m x
  := by
  rw [dataOffset] at hx
  cases h with
  | register =>
      change x < a + 10 ∨ a + 50 ≤ x at hx
      apply Memory.writeU64_outside
      rw [dataOffset]
      omega
  | openWs _ herr =>
      change x < a + 10 ∨ a + WsOpen.messageSize ≤ x at hx
      obtain ⟨-, -, hclientPid, hid, hnew⟩ := WsOpen.offsets
      have hsize : WsOpen.messageSize = 1307 := by rfl
      rw [writeAnswer_openWs]
      · rw [Memory.writeU64_outside _ (by omega), Memory.writeU64_outside _ (by omega)]
      · rcases hx with hlt | hge
        · left
          omega
        · exact Or.inr ⟨hge, herr⟩
  | closeWs => rfl
  | subscribe => exact congrFun (if_pos rfl) x
  | existing =>
      change x < a + 10 ∨ a + 279 ≤ x at hx
      rw [writeAnswer]
      split
      · rfl
      · apply Memory.fill_outside
        rw [dataOffset]
        omega

/-- The id of an answer is in the bytes it is written to. -/
theorem readU64_writeAnswer_openWs {req answer : WsOpen} :
  (writeAnswer m a (.openWs req) (.openWs answer)).readU64 (a + WsOpen.idOffset) = answer.id
  := by
  have hwritten := Memory.readU64_writeU64
    (m.writeU64 (a + WsOpen.clientPidOffset) answer.clientPid) (a + WsOpen.idOffset) answer.id
  refine (Memory.readU64_congr ?_).trans hwritten
  intro x hle hlt
  apply writeAnswer_openWs
  left
  obtain ⟨-, -, -, hid, hnew⟩ := WsOpen.offsets
  omega

end

end Message.Data

/-! ### The stores -/

namespace RequestStores

/-- The name is copied, and the byte behind it is set to zero. -/
def register (c : WebsocketProxyClient) (a : ℕ) : Option (List Store) := do
  let name ← strcpyS (a + Message.dataOffset) 31 (WebsocketProxyClient.cString c.name)
  return request c a (getMessageSize 296 0) 0 [name, .byte (a + Message.dataOffset + 31) 0]

def unregister (c : WebsocketProxyClient) (a : ℕ) : List Store :=
  request c a (getMessageSize 0 0) 1 []

def sendHeartbeat (c : WebsocketProxyClient) (a : ℕ) : List Store :=
  request c a (getMessageSize 0 0) 4 []

def setLogLevel (c : WebsocketProxyClient) (a : ℕ) (level : LogLevel) : List Store :=
  request c a (getMessageSize 1 0) 10 [.byte (a + Message.dataOffset) level.level]

end RequestStores

namespace ClientMessage

/-- The stores of a message into the bytes reserved at an address, if it is published. -/
def stores (c : WebsocketProxyClient) (a : ℕ) : ClientMessage → Option (List Store)
  | request call => call.stores c a
  | register => RequestStores.register c a
  | unregister => some (RequestStores.unregister c a)
  | heartbeat => some (RequestStores.sendHeartbeat c a)
  | setLogLevel level => some (RequestStores.setLogLevel c a level)

/-- The number of bytes of the message. -/
def extent : ClientMessage → ℕ
  | request call => call.extent
  | register => Message.dataOffset + 296
  | unregister | heartbeat => Message.dataOffset
  | setLogLevel _ => Message.dataOffset + 1

/-- The number of bytes that are reserved. -/
def size : ClientMessage → UInt32
  | request call => call.size
  | register => getMessageSize 296 0
  | unregister | heartbeat => getMessageSize 0 0
  | setLogLevel _ => getMessageSize 1 0

/-- The data of the message. -/
def data (c : WebsocketProxyClient) : ClientMessage → Message.Data
  | request call => call.data c
  | register => .register { name := WebsocketProxyClient.cString c.name }
  | unregister => .unregister
  | heartbeat => .heartbeat
  | setLogLevel level => .logLevel level

/-- The message as it is published. -/
def message (c : WebsocketProxyClient) (msg : ClientMessage) : Message where
  pid := c.pid
  data := msg.data c

/-- The strings among the arguments fit in their arrays. -/
def Fits : ClientMessage → Prop
  | request call => call.Fits
  | _ => True

instance (msg : ClientMessage) : Decidable msg.Fits :=
  match msg with
  | request call => inferInstanceAs (Decidable call.Fits)
  | register | unregister | heartbeat | setLogLevel _ => inferInstanceAs (Decidable True)

theorem toNat_size {msg : ClientMessage} (hwrap : msg.extent < 2 ^ 32) :
  msg.size.toNat = msg.extent
  := by
  cases msg with
  | request call => exact ClientCall.toNat_size hwrap
  | _ => rfl

/-- A message has a header. -/
theorem le_extent (msg : ClientMessage) :
  Message.dataOffset ≤ msg.extent
  := by
  cases msg with
  | request call =>
      cases call with
      | openWebSocket | closeWebSocket => apply Nat.le_add_right
      | subscribe | unsubscribe | send =>
          exact (Nat.le_add_right _ _).trans (Nat.le_add_right _ _)
  | register | setLogLevel => apply Nat.le_add_right
  | unregister | heartbeat => apply Nat.le_refl

/-! ### What is read -/

variable {c : WebsocketProxyClient} {m m' : Memory} {a : ℕ} {msg : ClientMessage}
variable {stores : List Store}

theorem register_eq_some :
  RequestStores.register c a = some stores ↔
    (WebsocketProxyClient.cString c.name).length < 31 ∧
      RequestStores.request c a (getMessageSize 296 0) 0
        [⟨a + 10, WebsocketProxyClient.cString c.name ++ [0]⟩, .byte (a + 41) 0] = stores
  := by
  unfold RequestStores.register RequestStores.strcpyS
  split
  case isTrue hlt =>
    constructor
    · intro h
      exact ⟨hlt, Option.some.inj h⟩
    · rintro ⟨-, h⟩
      apply congrArg some h
  case isFalse hge =>
    constructor
    · rintro ⟨⟩
    · rintro ⟨hlt, -⟩
      exact absurd hlt hge

/-- The stores of a message lay it out, if its arguments fit. -/
theorem stores_lay (h : msg.stores c a = some stores) (hfits : msg.Fits)
    (hwrap : msg.extent < 2 ^ 32) :
  Store.Lay stores a msg.size.toNat
  := by
  have hheader : ∀ type, Store.Lay (RequestStores.request c a (getMessageSize 0 0) type []) a
      (getMessageSize 0 0).toNat := by
    intro type
    apply RequestStores.request_lay
    · decide
    · exact .nil
    · rintro s ⟨⟩
  cases msg with
  | request call => exact ClientCall.stores_lay h hfits hwrap
  | register =>
      obtain ⟨hname, rfl⟩ := register_eq_some.mp h
      have hsize : (getMessageSize 296 0).toNat = 306 := by rfl
      apply RequestStores.request_lay
      · rw [hsize, Message.dataOffset]
        omega
      · simp only [List.pairwise_cons, List.forall_mem_cons, Store.Apart, List.length_append,
          List.length_singleton, Store.byte_address, Store.byte_length, List.not_mem_nil,
          IsEmpty.forall_iff, implies_true, List.Pairwise.nil, and_true]
        omega
      · simp only [List.forall_mem_cons, List.length_append, List.length_singleton,
          Store.byte_address, Store.byte_length, List.not_mem_nil, IsEmpty.forall_iff,
          implies_true, and_true]
        rw [hsize, Message.dataOffset]
        omega
  | unregister | heartbeat =>
      obtain rfl := Option.some.inj h
      apply hheader
  | setLogLevel level =>
      obtain rfl := Option.some.inj h
      have hsize : (getMessageSize 1 0).toNat = 11 := by rfl
      apply RequestStores.request_lay
      · rw [hsize, Message.dataOffset]
        omega
      · apply List.pairwise_singleton
      · intro s hs
        rw [List.mem_singleton.mp hs, Store.byte_address, Store.byte_length, hsize,
          Message.dataOffset]
        omega

/-- The server reads the message that the client sends, whatever memory holds beside it. -/
theorem reads_message (h : msg.stores c a = some stores) (hfits : msg.Fits)
    (hwrap : msg.extent < 2 ^ 32) (hplaced : a + msg.size.toNat ≤ queueSize)
    (hm : (m.run stores).Agree m' a msg.size.toNat) :
  Message.read m' a = msg.message c
  := by
  have hlay := stores_lay h hfits hwrap
  cases msg with
  | request call => exact ClientCall.reads_message h hfits hwrap (fun _ => hplaced) hm
  | register =>
      obtain ⟨hname, rfl⟩ := register_eq_some.mp h
      obtain ⟨hread, htype, hheld, hblank⟩ := RequestStores.request_read hlay hm
      have hsize : (getMessageSize 296 0).toNat = 306 := by rfl
      have hstring : m'.string (a + 10) = WebsocketProxyClient.cString c.name := by
        have hheld : m'.Holds (a + 10) (WebsocketProxyClient.cString c.name ++ [0]) :=
          hheld ⟨a + 10, WebsocketProxyClient.cString c.name ++ [0]⟩ List.mem_cons_self
        apply hheld.string (WebsocketProxyClient.nul_notMem_cString c.name)
        change a + (getMessageSize 296 0).toNat ≤ _ at hplaced
        omega
      have hserverPid : m'.readU64 (a + 10 + 32) = 0 := by
        apply Memory.readU64_blank
        intro x hle hlt
        apply hblank
        · rw [Message.dataOffset]
          omega
        · rw [hsize, Message.dataOffset]
          omega
        · simp only [List.forall_mem_cons, Store.Covers, List.length_append,
            List.length_singleton, Store.byte_address, Store.byte_length, List.not_mem_nil,
            IsEmpty.forall_iff, implies_true, and_true]
          omega
      apply hread.trans
      apply congrArg (fun data => ({ pid := c.pid, data } : Message))
      rw [Message.Data.read, htype]
      change Message.Data.register
        { name := m'.string (a + 10), serverPid := m'.readU64 (a + 10 + 32) } = _
      rw [hstring, hserverPid]
      rfl
  | unregister | heartbeat =>
      obtain rfl := Option.some.inj h
      obtain ⟨hread, htype, -⟩ := RequestStores.request_read hlay hm
      apply hread.trans
      apply congrArg (fun data => ({ pid := c.pid, data } : Message))
      rw [Message.Data.read, htype]
      rfl
  | setLogLevel level =>
      obtain rfl := Option.some.inj h
      obtain ⟨hread, htype, hrecord⟩ := RequestStores.request_read hlay hm
      have hlevel : m' (a + 10) = level.level :=
        (hrecord.held (.byte (a + 10) level.level) List.mem_cons_self).byte
      apply hread.trans
      apply congrArg (fun data => ({ pid := c.pid, data } : Message))
      rw [Message.Data.read, htype]
      exact congrArg (fun level => Message.Data.logLevel { level }) hlevel

/-- A request to open a connection has the bytes of a structure. -/
theorem extent_of_openWs {req : WsOpen} (h : msg.data c = .openWs req) :
  msg.extent = WsOpen.messageSize
  := by
  cases msg with
  | request call =>
      cases call with
      | openWebSocket => rfl
      | closeWebSocket | subscribe | unsubscribe | send => cases h
  | register | unregister | heartbeat | setLogLevel => cases h

/-- The answer to a message fits in it. -/
theorem answerEnd_le (c : WebsocketProxyClient) (msg : ClientMessage) :
  (msg.data c).answerEnd ≤ msg.extent
  := by
  cases msg with
  | request call =>
      cases call with
      | openWebSocket => apply Nat.le_refl
      | subscribe id symbol request type =>
          change 279 ≤ 280 + request.bytes.length
          omega
      | closeWebSocket | unsubscribe | send => apply le_extent
  | register =>
      change 50 ≤ 306
      omega
  | unregister | heartbeat | setLogLevel => apply le_extent

/-- The answer to a message is written into its bytes, behind its type. -/
theorem writeAnswer_outside {pid : UInt64} {answer : Message} {stored : Bool} {x : ℕ}
    (hfilled : (msg.data c).Answered → (msg.data c).Filled pid answer.data)
    (hx : x < a + Message.statusOffset ∨ a + msg.extent ≤ x) :
  Message.writeAnswer m a (msg.message c) answer stored x = m x
  := by
  have hextent := msg.le_extent
  have hend := msg.answerEnd_le c
  rw [Message.dataOffset] at hextent
  rw [Message.statusOffset] at hx
  have hdata : Message.Data.writeAnswer m a (msg.data c) answer.data x = m x := by
    rcases em (msg.data c).Answered with hanswered | hnot
    · apply (hfilled hanswered).writeAnswer_outside
      rw [Message.dataOffset]
      omega
    · cases hdata : msg.data c with
      | register | openWs | closeWs | subscribe =>
          rw [hdata] at hnot
          exact absurd trivial hnot
      | _ => rfl
  rw [Message.writeAnswer]
  split
  · rw [Memory.writeByte, Memory.fill_outside]
    · exact hdata
    · rw [Message.statusOffset]
      omega
  · exact hdata

end ClientMessage
