import Mathlib.Data.List.TakeWhile
import WebsocketProxy.Client.Steps
import WebsocketProxy.Library.Stores
import WebsocketProxy.Queue.Layout

/-!
# The bytes of client requests

What a client writes into the bytes it reserved for a request, store by store, and what the
server reads there. `ClientCall.stores` are the stores of a call, in the order of the source,
or `none` if nothing is published. `reads_message` says that the server reads the message the
client published (`perform_publishes`), as far as the arguments fit in their arrays: this is
`ClientCall.Fits`, and `roundTrips_iff` says that it is exactly when.
-/

/-- A payload. Its length is passed as a `uint32_t`. -/
structure Payload where
  bytes : Bytes
  lt : bytes.length < 2 ^ 32

/-- The `len` that is passed with a payload. -/
def Payload.len (data : Payload) : UInt32 := UInt32.ofNat data.bytes.length

@[simp]
theorem Payload.toNat_len (data : Payload) :
  data.len.toNat = data.bytes.length
  := UInt32.toNat_ofNat_of_lt' data.lt

/-- A call of a client that publishes a request. `openWebSocket` stands for
`openWebSocketAsync`, too. -/
inductive ClientCall where
  | openWebSocket (url apiKey : Bytes)
  | closeWebSocket (id : UInt64)
  | subscribe (id : UInt64) (symbol : Bytes) (request : Payload) (type : SubscriptionType)
  | unsubscribe (id : UInt64) (symbol : Bytes) (request : Payload)
  | send (id : UInt64) (data : Payload)

/-! ### Sizes and offsets -/

namespace WsSubscription

def symbolOffset : ℕ := Message.dataOffset
def idOffset : ℕ := Message.dataOffset + 256
def requestLenOffset : ℕ := Message.dataOffset + 264
def existingOffset : ℕ := Message.dataOffset + 268
def typeOffset : ℕ := Message.dataOffset + 269

/-- The offset of the tail, which is `sizeof(WsSubscription)` in the data. -/
def requestOffset : ℕ := Message.dataOffset + 270

theorem offsets :
  symbolOffset = 10 ∧ idOffset = 266 ∧ requestLenOffset = 274 ∧ existingOffset = 278 ∧
    typeOffset = 279 ∧ requestOffset = 280
  := ⟨rfl, rfl, rfl, rfl, rfl, rfl⟩

end WsSubscription

/-- `get_message_size`, of a structure of `size` bytes. -/
def getMessageSize (size : ℕ) (dataLen : UInt32) : UInt32 :=
  UInt32.ofNat (Message.dataOffset + size + dataLen.toNat)

/-! ### The stores -/

namespace RequestStores

/-- The bytes are set to zero, and the process id is stored. -/
def reserveMessage (c : WebsocketProxyClient) (a : ℕ) (size : UInt32) : List Store :=
  [.zero a size.toNat, .u64 a c.pid]

/-- The status is stored. -/
def sendMessage (a : ℕ) : List Store := [.byte (a + Message.statusOffset) 0]

/-- What the calls have in common: the message is reserved, its type is stored, then the fields
of its data, and it is sent. -/
def request (c : WebsocketProxyClient) (a : ℕ) (size : UInt32) (type : UInt8)
    (fields : List Store) : List Store :=
  reserveMessage c a size ++ [.byte (a + Message.typeOffset) type] ++ fields ++ sendMessage a

/-- `strcpy_s`: nothing is copied where the string does not fit, and the call does not return. -/
def strcpyS (a size : ℕ) (s : Bytes) : Option Store :=
  if s.length < size then some ⟨a, s ++ [0]⟩ else none

def sendOpenMessage (c : WebsocketProxyClient) (a : ℕ) (url apiKey : Bytes) :
    Option (List Store) :=
  if url.length > 255 then none
  else do
    let url ← strcpyS (a + WsOpen.urlOffset) 512 (WebsocketProxyClient.cString url)
    let apiKey ← strcpyS (a + WsOpen.apiKeyOffset) 512 (WebsocketProxyClient.cString apiKey)
    return request c a (getMessageSize 1297 0) 2 [url, apiKey]

def closeWebSocket (c : WebsocketProxyClient) (a : ℕ) (id : UInt64) : List Store :=
  request c a (getMessageSize 8 0) 3 [.u64 (a + Message.dataOffset) (if id = 0 then c.id else id)]

/-- The bytes of `symbol` are copied without the zero byte that ends it. -/
def subscribe (c : WebsocketProxyClient) (a : ℕ) (id : UInt64) (symbol : Bytes)
    (request : Payload) (type : SubscriptionType) : List Store :=
  RequestStores.request c a (getMessageSize 270 request.len) 8
    [.u32 (a + WsSubscription.requestLenOffset) request.len,
      .u64 (a + WsSubscription.idOffset) id,
      .byte (a + WsSubscription.typeOffset) type,
      ⟨a + WsSubscription.symbolOffset, symbol⟩,
      ⟨a + WsSubscription.requestOffset, request.bytes⟩]

def unsubscribe (c : WebsocketProxyClient) (a : ℕ) (id : UInt64) (symbol : Bytes)
    (request : Payload) : List Store :=
  RequestStores.request c a (getMessageSize 270 request.len) 9
    [.u32 (a + WsSubscription.requestLenOffset) request.len,
      .u64 (a + WsSubscription.idOffset) id,
      .byte (a + WsSubscription.existingOffset) 0,
      ⟨a + WsSubscription.symbolOffset, symbol⟩,
      ⟨a + WsSubscription.requestOffset, request.bytes⟩]

def send (c : WebsocketProxyClient) (a : ℕ) (id : UInt64) (data : Payload) : List Store :=
  request c a (getMessageSize 12 data.len) 5
    [.u32 (a + Message.dataOffset + 8) data.len,
      .u64 (a + Message.dataOffset) id,
      ⟨a + Message.dataOffset + 12, data.bytes⟩]

end RequestStores

namespace ClientCall

/-- The stores of a call into the bytes it reserves at an address, if it publishes them. -/
def stores (c : WebsocketProxyClient) (a : ℕ) : ClientCall → Option (List Store)
  | openWebSocket url apiKey => RequestStores.sendOpenMessage c a url apiKey
  | closeWebSocket id => some (RequestStores.closeWebSocket c a id)
  | subscribe id symbol request type => some (RequestStores.subscribe c a id symbol request type)
  | unsubscribe id symbol request => some (RequestStores.unsubscribe c a id symbol request)
  | send id data => some (RequestStores.send c a id data)

/-- The number of bytes of the message. -/
def extent : ClientCall → ℕ
  | openWebSocket _ _ => Message.dataOffset + 1297
  | closeWebSocket _ => Message.dataOffset + 8
  | subscribe _ _ request _ | unsubscribe _ _ request =>
      Message.dataOffset + 270 + request.bytes.length
  | send _ data => Message.dataOffset + 12 + data.bytes.length

/-- The number of bytes that are reserved. -/
def size : ClientCall → UInt32
  | openWebSocket _ _ => getMessageSize 1297 0
  | closeWebSocket _ => getMessageSize 8 0
  | subscribe _ _ request _ | unsubscribe _ _ request => getMessageSize 270 request.len
  | send _ data => getMessageSize 12 data.len

/-- If the size does not wrap around, all bytes of the message are reserved. -/
theorem toNat_size {call : ClientCall} (hwrap : call.extent < 2 ^ 32) :
  call.size.toNat = call.extent
  := by
  cases call with
  | openWebSocket | closeWebSocket => rfl
  | subscribe | unsubscribe | send =>
      simp only [size, getMessageSize, Payload.toNat_len]
      apply UInt32.toNat_ofNat_of_lt' hwrap

/-! ### What is read -/

/-- The bytes of an array of 256 bytes that begins with the given ones. -/
def padded (symbol : Bytes) : Bytes := symbol ++ List.replicate (256 - symbol.length) 0

/-- The data of the message that a call publishes. -/
def data (c : WebsocketProxyClient) : ClientCall → Message.Data
  | openWebSocket url apiKey =>
      .openWs
        { url := WebsocketProxyClient.cString url, apiKey := WebsocketProxyClient.cString apiKey }
  | closeWebSocket id => .closeWs { id := if id = 0 then c.id else id }
  | subscribe id symbol request type =>
      .subscribe { symbol := padded symbol, id, type, request := request.bytes }
  | unsubscribe id symbol request =>
      .unsubscribe { symbol := padded symbol, id, request := request.bytes }
  | send id data => .wsRequest { id, data := data.bytes }

/-- What a handler decodes from a message equals the arguments. -/
def Decodes (msg : Message) : ClientCall → Prop
  | openWebSocket url apiKey =>
      ∃ req, msg.data = .openWs req ∧ req.url = url ∧ req.apiKey = apiKey
  | closeWebSocket id => msg.data = .closeWs { id }
  | subscribe id symbol request type =>
      ∃ req, msg.data = .subscribe req ∧ Message.symbolView req = symbol ∧ req.id = id ∧
        req.type = type ∧ req.request = request.bytes
  | unsubscribe id symbol request =>
      ∃ req, msg.data = .unsubscribe req ∧ Message.symbolView req = symbol ∧ req.id = id ∧
        req.request = request.bytes
  | send id data => msg.data = .wsRequest { id, data := data.bytes }

/-- The call publishes its message, writes reserved bytes only, and whatever the memory holds
beside them, what a handler decodes equals the arguments. -/
def RoundTrips (c : WebsocketProxyClient) (m : Memory) (a : ℕ) (call : ClientCall) : Prop :=
  ∃ stores, call.stores c a = some stores ∧
    (∀ s ∈ stores, s.Within a call.size.toNat) ∧
    ∀ m', (m.run stores).Agree m' a call.size.toNat → call.Decodes (Message.read m' a)

/-! ### Conditions on calls -/

/-- The call is not rejected: the URL has at most 255 bytes. -/
def Accepted : ClientCall → Prop
  | openWebSocket url _ => url.length ≤ 255
  | _ => True

instance (call : ClientCall) : Decidable call.Accepted :=
  match call with
  | openWebSocket _ _ => inferInstanceAs (Decidable (_ ≤ _))
  | closeWebSocket _ | subscribe .. | unsubscribe .. | send .. => inferInstanceAs (Decidable True)

/-- The strings among the arguments have no zero byte. -/
def NulFree : ClientCall → Prop
  | openWebSocket url apiKey => 0 ∉ url ∧ 0 ∉ apiKey
  | subscribe _ symbol _ _ | unsubscribe _ symbol _ => 0 ∉ symbol
  | closeWebSocket _ | send _ _ => True

instance (call : ClientCall) : Decidable call.NulFree :=
  match call with
  | openWebSocket _ _ => inferInstanceAs (Decidable (_ ∧ _))
  | subscribe .. | unsubscribe .. => inferInstanceAs (Decidable (_ ∉ _))
  | closeWebSocket _ | send .. => inferInstanceAs (Decidable True)

/-- The reserved bytes are those of the queue, if it has so many. -/
def Placed (a : ℕ) (call : ClientCall) : Prop :=
  call.size.toNat ≤ queueSize → a + call.size.toNat ≤ queueSize

instance (a : ℕ) (call : ClientCall) : Decidable (call.Placed a) :=
  inferInstanceAs (Decidable (_ → _))

/-- The strings among the arguments fit in their arrays. -/
def Fits : ClientCall → Prop
  | openWebSocket _ apiKey => apiKey.length < 512
  | subscribe _ symbol _ _ | unsubscribe _ symbol _ => symbol.length ≤ 256
  | closeWebSocket _ | send _ _ => True

instance (call : ClientCall) : Decidable call.Fits :=
  match call with
  | openWebSocket _ _ => inferInstanceAs (Decidable (_ < _))
  | subscribe .. | unsubscribe .. => inferInstanceAs (Decidable (_ ≤ _))
  | closeWebSocket _ | send .. => inferInstanceAs (Decidable True)

end ClientCall

/-! ### Arrays -/

namespace Memory

/-- An array that begins with bytes, and is zero after them, is read as they are padded. -/
theorem Holds.bytes_padded {m : Memory} {a n : ℕ} {s : Bytes} (h : m.Holds a s)
    (hle : s.length ≤ n) (hzero : ∀ x, a + s.length ≤ x → x < a + n → m x = 0) :
  m.bytes a n = s ++ List.replicate (n - s.length) 0
  := by
  apply List.ext_getElem
  · simp only [bytes, List.length_map, List.length_range, List.length_append,
      List.length_replicate]
    omega
  · intro i hi _
    simp only [bytes, List.length_map, List.length_range] at hi
    simp only [bytes, List.getElem_map, List.getElem_range]
    rcases Nat.lt_or_ge i s.length with hlt | hge
    · rw [List.getElem_append_left hlt]
      apply h i hlt
    · rw [List.getElem_append_right hge, List.getElem_replicate]
      apply hzero _ (Nat.add_le_add_left hge a) (Nat.add_lt_add_left hi a)

/-- An array is read as it is held. -/
theorem Holds.bytes {m : Memory} {a : ℕ} {s : Bytes} (h : m.Holds a s) :
  m.bytes a s.length = s
  := by
  rw [h.bytes_padded (Nat.le_refl _), Nat.sub_self, List.replicate_zero, List.append_nil]
  intro x hle hlt
  exact absurd hlt (Nat.not_lt_of_le hle)

/-- A string that ends in its array is read as it is held. -/
theorem Holds.string {m : Memory} {a : ℕ} {s : Bytes} (h : m.Holds a (s ++ [0])) (hs : 0 ∉ s)
    (hend : a + s.length < queueSize) :
  m.string a = s
  := by
  have hbytes : m.Holds a s := by
    intro i hi
    have hheld := h i (by rw [List.length_append]; omega)
    rw [List.getElem_append_left hi] at hheld
    exact hheld
  have hzero : m (a + s.length) = 0 := by
    have hheld := h s.length (by rw [List.length_append]; exact Nat.lt_succ_self _)
    rw [List.getElem_append_right (Nat.le_refl _)] at hheld
    simp only [Nat.sub_self, List.getElem_cons_zero] at hheld
    exact hheld
  apply hbytes.cString hs
  exact Or.inr ⟨by omega, hzero⟩

end Memory

/-- A string has no zero byte before the first. -/
theorem WebsocketProxyClient.nul_notMem_cString (s : Bytes) :
  0 ∉ cString s
  := by
  intro hmem
  have hne := List.mem_takeWhile_imp hmem
  rw [decide_eq_true_iff] at hne
  apply hne rfl

theorem WebsocketProxyClient.length_cString_le (s : Bytes) :
  (cString s).length ≤ s.length
  := (List.takeWhile_sublist _).length_le

theorem WebsocketProxyClient.cString_of_nulFree {s : Bytes} (h : 0 ∉ s) :
  cString s = s
  := by
  apply List.takeWhile_eq_self_iff.mpr
  intro b hb
  rw [decide_eq_true_iff]
  rintro rfl
  apply h hb

/-- The symbol a handler takes from a padded array is the one it was padded from. -/
theorem ClientCall.symbolView_padded {sub : WsSubscription} {symbol : Bytes}
    (hsub : sub.symbol = padded symbol) (hsymbol : symbol.length ≤ 256) (hnul : 0 ∉ symbol) :
  Message.symbolView sub = symbol
  := by
  have hlength : (padded symbol).length = 256 := by
    rw [padded, List.length_append, List.length_replicate]
    omega
  rw [Message.symbolView, hsub, ← hlength, List.take_length, padded]
  rw [List.takeWhile_append_of_pos]
  · rw [List.takeWhile_replicate, if_neg (by decide), List.append_nil]
  · intro b hb
    rw [decide_eq_true_iff]
    rintro rfl
    apply hnul hb

/-! ### What a message leaves -/

/-- The stores of a message, whoever writes it: the bytes are set to zero, then the process id
is stored, the type, and the rest. -/
def Message.stores (pid : UInt64) (a : ℕ) (size : UInt32) (type : UInt8) (fields : List Store) :
    List Store :=
  .zero a size.toNat :: .u64 a pid :: .byte (a + Message.typeOffset) type :: fields

section

variable {pid : UInt64} {m m' : Memory} {a : ℕ} {size : UInt32} {type : UInt8}
variable {fields : List Store}

/-- A message is laid out, if what is stored after its type is apart from each other behind it. -/
theorem Message.stores_lay (hsize : Message.statusOffset ≤ size.toNat)
    (hapart : fields.Pairwise Store.Apart)
    (hwithin : ∀ s ∈ fields, a + Message.statusOffset ≤ s.address ∧
      s.address + s.bytes.length ≤ a + size.toNat) :
  Store.Lay (Message.stores pid a size type fields) a size.toNat
  := by
  have hfields : (Message.stores pid a size type fields).tail
      = .u64 a pid :: .byte (a + 8) type :: fields := by rfl
  rw [Message.statusOffset] at hsize hwithin
  constructor
  · rfl
  · rw [hfields]
    refine .cons ?_ (.cons ?_ hapart)
    · intro s hs
      apply Or.inl
      rw [Store.u64_address, Store.u64_length]
      rcases List.mem_cons.mp hs with rfl | hs
      · apply Nat.le_refl _
      · have := (hwithin s hs).1
        omega
    · intro s hs
      apply Or.inl
      rw [Store.byte_address, Store.byte_length]
      exact (hwithin s hs).1
  · rw [hfields]
    intro s hs
    rcases List.mem_cons.mp hs with rfl | hs
    · rw [Store.u64_address, Store.u64_length]
      omega
    rcases List.mem_cons.mp hs with rfl | hs
    · rw [Store.byte_address, Store.byte_length]
      omega
    · obtain ⟨hle, hend⟩ := hwithin s hs
      omega

/-- What is read of a message that was laid out, and a record of what is stored after its type. -/
theorem Message.stores_read (hlay : Store.Lay (Message.stores pid a size type fields) a size.toNat)
    (hm : (m.run (Message.stores pid a size type fields)).Agree m' a size.toNat) :
  m'.readU64 a = pid ∧ m' (a + Message.typeOffset) = type ∧
    m'.Record (a + Message.statusOffset) (size.toNat - Message.statusOffset) fields
  := by
  have hfields : (Message.stores pid a size type fields).tail
      = .u64 a pid :: .byte (a + 8) type :: fields := by rfl
  have hrecord := (Memory.record_run (m := m) hlay).congr
    (fun s hs => hlay.all_within s (List.mem_of_mem_tail hs)) hm
  rw [hfields] at hrecord
  refine ⟨(hrecord.held _ List.mem_cons_self).readU64,
    (hrecord.held (.byte (a + 8) type) (by simp)).byte, ?_, ?_⟩
  · intro s hs
    apply hrecord.held s
    simp [hs]
  · intro x hle hlt hx
    rw [Message.statusOffset] at hle hlt
    apply hrecord.blank x (by omega) (by omega)
    intro s hs hcovers
    -- the process id and the type come before the status
    rcases List.mem_cons.mp hs with rfl | hs
    · rw [Store.Covers, Store.u64_address, Store.u64_length] at hcovers
      omega
    rcases List.mem_cons.mp hs with rfl | hs
    · rw [Store.Covers, Store.byte_address, Store.byte_length] at hcovers
      omega
    · apply hx s hs hcovers

end

/-! ### What a request leaves -/

namespace RequestStores

section

variable {c : WebsocketProxyClient} {m m' : Memory} {a : ℕ} {size : UInt32} {type : UInt8}
variable {fields : List Store}

/-- A request is a message, and its status is stored last. -/
theorem request_eq :
  request c a size type fields = Message.stores c.pid a size type (fields ++ sendMessage a)
  := rfl

/-- A request lays out its message, if its fields are apart from each other in the data. -/
theorem request_lay (hsize : Message.dataOffset ≤ size.toNat)
    (hapart : fields.Pairwise Store.Apart)
    (hwithin : ∀ s ∈ fields, a + Message.dataOffset ≤ s.address ∧
      s.address + s.bytes.length ≤ a + size.toNat) :
  Store.Lay (request c a size type fields) a size.toNat
  := by
  rw [Message.dataOffset] at hsize hwithin
  rw [request_eq, sendMessage, Message.statusOffset]
  apply Message.stores_lay
  · rw [Message.statusOffset]
    omega
  · refine List.pairwise_append.mpr ⟨hapart, List.pairwise_singleton _ _, ?_⟩
    intro s hs t ht
    apply Or.inr
    rw [List.mem_singleton.mp ht, Store.byte_address, Store.byte_length]
    exact (hwithin s hs).1
  · intro s hs
    rw [Message.statusOffset]
    rcases List.mem_append.mp hs with hs | hs
    · obtain ⟨hle, hend⟩ := hwithin s hs
      omega
    · rw [List.mem_singleton.mp hs, Store.byte_address, Store.byte_length]
      omega

/-- What is read of a message that a request laid out: its header, and a record of its fields. -/
theorem request_read (hlay : Store.Lay (request c a size type fields) a size.toNat)
    (hm : (m.run (request c a size type fields)).Agree m' a size.toNat) :
  Message.read m' a = { pid := c.pid, data := Message.Data.read m' a } ∧
    m' (a + Message.typeOffset) = type ∧
    m'.Record (a + Message.dataOffset) (size.toNat - Message.dataOffset) fields
  := by
  rw [request_eq] at hlay hm
  obtain ⟨hpid, htype, hrecord⟩ := Message.stores_read hlay hm
  have hstatus : m' (a + 9) = 0 :=
    (hrecord.held (.byte (a + 9) 0) (List.mem_append_right _ List.mem_cons_self)).byte
  refine ⟨?_, htype, ?_, ?_⟩
  · rw [Message.read, hpid, Message.statusOffset, hstatus]
    rfl
  · intro s hs
    apply hrecord.held s (List.mem_append_left _ hs)
  · intro x hle hlt hx
    rw [Message.dataOffset] at hle hlt
    rw [Message.statusOffset] at hrecord
    apply hrecord.blank x (by omega) (by omega)
    intro s hs hcovers
    -- the status comes before the data
    rcases List.mem_append.mp hs with hs | hs
    · apply hx s hs hcovers
    · rw [List.mem_singleton.mp hs, Store.Covers, Store.byte_address, Store.byte_length,
        Message.statusOffset] at hcovers
      omega

end

/-! ### The data of the requests -/

section

variable {c : WebsocketProxyClient} {m : Memory} {a n k : ℕ} {id : UInt64} {symbol : Bytes}
variable {request : Payload} {type v : UInt8}

theorem open_lay {url apiKey : Bytes} (hurl : url.length ≤ 255) (hkey : apiKey.length < 512) :
  Store.Lay
    (RequestStores.request c a (getMessageSize 1297 0) type
      [⟨a + 10, url ++ [0]⟩, ⟨a + 522, apiKey ++ [0]⟩])
    a (getMessageSize 1297 0).toNat
  := by
  have hsize : (getMessageSize 1297 0).toNat = 1307 := by rfl
  apply request_lay
  · rw [hsize, Message.dataOffset]
    omega
  · simp only [List.pairwise_cons, List.forall_mem_cons, Store.Apart, List.length_append,
      List.length_singleton, List.not_mem_nil, IsEmpty.forall_iff, implies_true,
      List.Pairwise.nil, and_true]
    omega
  · simp only [List.forall_mem_cons, List.length_append, List.length_singleton,
      List.not_mem_nil, IsEmpty.forall_iff, implies_true, and_true]
    rw [hsize, Message.dataOffset]
    omega

/-- What is read of the data of an opening: the two strings, and zeros for the fields of the
answer. -/
theorem open_read {url apiKey : Bytes} (hurl : url.length ≤ 255) (hkey : apiKey.length < 512)
    (hurl' : 0 ∉ url) (hkey' : 0 ∉ apiKey) (ha : a + 1307 ≤ queueSize)
    (h : m.Record (a + 10) 1297 [⟨a + 10, url ++ [0]⟩, ⟨a + 522, apiKey ++ [0]⟩]) :
  WsOpen.read m a = { url, apiKey }
  := by
  have hheld : m.Holds (a + 10) (url ++ [0]) := h.held ⟨a + 10, url ++ [0]⟩ (by simp)
  have hheld' : m.Holds (a + 522) (apiKey ++ [0]) := h.held ⟨a + 522, apiKey ++ [0]⟩ (by simp)
  have hblank : ∀ x, a + 1034 ≤ x → x < a + 1307 → m x = 0 := by
    intro x hle hlt
    apply h.blank
    · omega
    · omega
    · simp only [List.forall_mem_cons, Store.Covers, List.length_append, List.length_singleton,
        List.not_mem_nil, IsEmpty.forall_iff, implies_true, and_true]
      omega
  have herr : m.Holds (a + 1051) ([] ++ [0]) := by
    intro i hi
    obtain rfl := Nat.lt_one_iff.mp hi
    exact hblank (a + 1051) (by omega) (by omega)
  obtain ⟨hurlOffset, hkeyOffset, hclientPid, hid, hnew⟩ := WsOpen.offsets
  have herrOffset : WsOpen.errOffset = 1051 := by rfl
  rw [WsOpen.read, hurlOffset, hkeyOffset, hclientPid, hid, hnew, herrOffset]
  rw [hheld.string hurl' (by omega), hheld'.string hkey' (by omega)]
  rw [herr.string List.not_mem_nil (by rw [List.length_nil]; omega)]
  rw [Memory.readU64_blank, Memory.readU64_blank, hblank (a + 1050) (by omega) (by omega)]
  · rfl
  · intro x hle hlt
    exact hblank x (by omega) (by omega)
  · intro x hle hlt
    exact hblank x (by omega) (by omega)

/-- The stores of the data of a subscription; `existing` is stored by one of the calls only,
and `type` by the other. -/
theorem subscription_lay (hk : k = 278 ∨ k = 279) (hsymbol : symbol.length ≤ 256)
    (hsize : (getMessageSize 270 request.len).toNat = 280 + request.bytes.length) :
  Store.Lay
    (RequestStores.request c a (getMessageSize 270 request.len) type
      [.u32 (a + 274) request.len, .u64 (a + 266) id, .byte (a + k) v, ⟨a + 10, symbol⟩,
        ⟨a + 280, request.bytes⟩])
    a (getMessageSize 270 request.len).toNat
  := by
  apply request_lay
  · rw [hsize, Message.dataOffset]
    omega
  · simp only [List.pairwise_cons, List.forall_mem_cons, Store.Apart, Store.u64_address,
      Store.u64_length, Store.u32_address, Store.u32_length, Store.byte_address,
      Store.byte_length, List.not_mem_nil, IsEmpty.forall_iff, implies_true, List.Pairwise.nil,
      and_true]
    omega
  · simp only [List.forall_mem_cons, Store.u64_address, Store.u64_length, Store.u32_address,
      Store.u32_length, Store.byte_address, Store.byte_length, List.not_mem_nil,
      IsEmpty.forall_iff, implies_true, and_true]
    rw [hsize, Message.dataOffset]
    omega

/-- What is read of the data of a subscription. -/
theorem subscription_read (hk : k = 278 ∨ k = 279) (hsymbol : symbol.length ≤ 256)
    (hsize : (getMessageSize 270 request.len).toNat = 280 + request.bytes.length)
    (h : m.Record (a + 10) ((getMessageSize 270 request.len).toNat - 10)
      [.u32 (a + 274) request.len, .u64 (a + 266) id, .byte (a + k) v, ⟨a + 10, symbol⟩,
        ⟨a + 280, request.bytes⟩]) :
  Message.Data.read.subscription m (a + 10)
    = { symbol := ClientCall.padded symbol
        id
        existing := (if k = 278 then v else 0) ≠ 0
        type := if k = 279 then v else 0
        request := request.bytes }
  := by
  have hlen : m.readU32 (a + 10 + 264) = request.len :=
    (h.held (.u32 (a + 274) request.len) (by simp)).readU32
  have hid : m.readU64 (a + 10 + 256) = id := (h.held (.u64 (a + 266) id) (by simp)).readU64
  have hflag : m (a + k) = v := (h.held (.byte (a + k) v) (by simp)).byte
  have htail : m.bytes (a + 10 + 270) request.bytes.length = request.bytes :=
    (h.held ⟨a + 280, request.bytes⟩ (by simp)).bytes
  have hpadded : m.bytes (a + 10) 256 = ClientCall.padded symbol := by
    have hheld : m.Holds (a + 10) symbol := h.held ⟨a + 10, symbol⟩ (by simp)
    apply hheld.bytes_padded hsymbol
    intro x hle hlt
    apply h.blank
    · omega
    · omega
    · simp only [List.forall_mem_cons, Store.Covers, Store.u64_address, Store.u64_length,
        Store.u32_address, Store.u32_length, Store.byte_address, Store.byte_length,
        List.not_mem_nil, IsEmpty.forall_iff, implies_true, and_true]
      omega
  -- the flag that is not stored is zero
  have hblank : ∀ j, j = 278 ∨ j = 279 → j ≠ k → m (a + j) = 0 := by
    intro j hj hne
    apply h.blank
    · omega
    · omega
    · simp only [List.forall_mem_cons, Store.Covers, Store.u64_address, Store.u64_length,
        Store.u32_address, Store.u32_length, Store.byte_address, Store.byte_length,
        List.not_mem_nil, IsEmpty.forall_iff, implies_true, and_true]
      omega
  have hexisting : m (a + 10 + 268) = if k = 278 then v else 0 := by
    split
    case isTrue heq => rw [← hflag, heq]
    case isFalse hne => exact hblank 278 (Or.inl rfl) (Ne.symm hne)
  have htype : m (a + 10 + 269) = if k = 279 then v else 0 := by
    split
    case isTrue heq => rw [← hflag, heq]
    case isFalse hne => exact hblank 279 (Or.inr rfl) (Ne.symm hne)
  unfold Message.Data.read.subscription
  rw [hlen, hid, hexisting, htype, hpadded, Payload.toNat_len, htail]

theorem send_lay (hsize : (getMessageSize 12 request.len).toNat = 22 + request.bytes.length) :
  Store.Lay
    (RequestStores.request c a (getMessageSize 12 request.len) type
      [.u32 (a + 18) request.len, .u64 (a + 10) id, ⟨a + 22, request.bytes⟩])
    a (getMessageSize 12 request.len).toNat
  := by
  apply request_lay
  · rw [hsize, Message.dataOffset]
    omega
  · simp only [List.pairwise_cons, List.forall_mem_cons, Store.Apart, Store.u64_address,
      Store.u64_length, Store.u32_address, Store.u32_length, List.not_mem_nil,
      IsEmpty.forall_iff, implies_true, List.Pairwise.nil, and_true]
    omega
  · simp only [List.forall_mem_cons, Store.u64_address, Store.u64_length, Store.u32_address,
      Store.u32_length, List.not_mem_nil, IsEmpty.forall_iff, implies_true, and_true]
    rw [hsize, Message.dataOffset]
    omega

/-- What is read of the data of a payload. -/
theorem send_read
    (h : m.Record (a + 10) n
      [.u32 (a + 18) request.len, .u64 (a + 10) id, ⟨a + 22, request.bytes⟩]) :
  ({ id := m.readU64 (a + 10)
     data := m.bytes (a + 10 + 12) (m.readU32 (a + 10 + 8)).toNat } : WsRequest)
    = { id, data := request.bytes }
  := by
  have hid : m.readU64 (a + 10) = id := (h.held (.u64 (a + 10) id) (by simp)).readU64
  have hlen : m.readU32 (a + 10 + 8) = request.len :=
    (h.held (.u32 (a + 18) request.len) (by simp)).readU32
  have htail : m.bytes (a + 10 + 12) request.bytes.length = request.bytes :=
    (h.held ⟨a + 22, request.bytes⟩ (by simp)).bytes
  rw [hid, hlen, Payload.toNat_len, htail]

theorem closeWebSocket_lay :
  Store.Lay (RequestStores.request c a (getMessageSize 8 0) type [.u64 (a + 10) id]) a
    (getMessageSize 8 0).toNat
  := by
  have hsize : (getMessageSize 8 0).toNat = 18 := by rfl
  apply request_lay
  · rw [hsize, Message.dataOffset]
    omega
  · apply List.pairwise_singleton
  · intro s hs
    rw [List.mem_singleton.mp hs, Store.u64_address, Store.u64_length, hsize, Message.dataOffset]
    omega

end

/-- What `sendOpenMessage` stores, if the URL is short enough and the key fits. -/
theorem sendOpenMessage_eq_some {c : WebsocketProxyClient} {a : ℕ} {url apiKey : Bytes}
    {stores : List Store} :
  sendOpenMessage c a url apiKey = some stores ↔
    url.length ≤ 255 ∧ (WebsocketProxyClient.cString apiKey).length < 512 ∧
      RequestStores.request c a (getMessageSize 1297 0) 2
        [⟨a + 10, WebsocketProxyClient.cString url ++ [0]⟩,
          ⟨a + 522, WebsocketProxyClient.cString apiKey ++ [0]⟩] = stores
  := by
  unfold sendOpenMessage
  split
  case isTrue hlong =>
    constructor
    · rintro ⟨⟩
    · rintro ⟨hle, -⟩
      omega
  case isFalse hshort =>
    have hurl := WebsocketProxyClient.length_cString_le url
    rw [strcpyS, if_pos (by omega), strcpyS]
    split
    case isTrue hkey =>
      constructor
      · intro h
        exact ⟨by omega, hkey, Option.some.inj h⟩
      · rintro ⟨-, -, h⟩
        apply congrArg some h
    case isFalse hkey =>
      constructor
      · rintro ⟨⟩
      · rintro ⟨-, hlt, -⟩
        exact absurd hlt hkey

end RequestStores

namespace ClientCall

variable {c c' : WebsocketProxyClient} {m m' : Memory} {a : ℕ} {call : ClientCall}
variable {stores : List Store}

/-- The stores of a call lay out its message, if the symbol fits. -/
theorem stores_lay (h : call.stores c a = some stores) (hfits : call.Fits)
    (hwrap : call.extent < 2 ^ 32) :
  Store.Lay stores a call.size.toNat
  := by
  have hsize := toNat_size hwrap
  cases call with
  | openWebSocket url apiKey =>
      obtain ⟨hurl, hkey, rfl⟩ := RequestStores.sendOpenMessage_eq_some.mp h
      apply RequestStores.open_lay _ hkey
      exact (WebsocketProxyClient.length_cString_le url).trans hurl
  | closeWebSocket id =>
      obtain rfl := Option.some.inj h
      apply RequestStores.closeWebSocket_lay
  | subscribe id symbol request type =>
      obtain rfl := Option.some.inj h
      apply RequestStores.subscription_lay (Or.inr rfl) hfits hsize
  | unsubscribe id symbol request =>
      obtain rfl := Option.some.inj h
      apply RequestStores.subscription_lay (Or.inl rfl) hfits hsize
  | send id data =>
      obtain rfl := Option.some.inj h
      apply RequestStores.send_lay hsize

/-- The server reads the message that the client published, whatever memory holds beside it. -/
theorem reads_message (h : call.stores c a = some stores) (hfits : call.Fits)
    (hwrap : call.extent < 2 ^ 32) (hplaced : call.Placed a)
    (hm : (m.run stores).Agree m' a call.size.toNat) :
  Message.read m' a = { pid := c.pid, data := call.data c }
  := by
  have hlay := stores_lay h hfits hwrap
  have hsize := toNat_size hwrap
  unfold Placed at hplaced
  rw [hsize] at hplaced
  cases call with
  | openWebSocket url apiKey =>
      obtain ⟨hurl, hkey, rfl⟩ := RequestStores.sendOpenMessage_eq_some.mp h
      obtain ⟨hread, htype, hrecord⟩ := RequestStores.request_read hlay hm
      have hqueue : a + 1307 ≤ queueSize := by
        apply hplaced
        change 1307 ≤ 65536
        omega
      apply hread.trans
      apply congrArg (fun data => ({ pid := c.pid, data } : Message))
      rw [Message.Data.read, htype]
      apply congrArg Message.Data.openWs
      apply RequestStores.open_read _ hkey (WebsocketProxyClient.nul_notMem_cString url)
        (WebsocketProxyClient.nul_notMem_cString apiKey) hqueue hrecord
      exact (WebsocketProxyClient.length_cString_le url).trans hurl
  | closeWebSocket id =>
      obtain rfl := Option.some.inj h
      obtain ⟨hread, htype, hrecord⟩ := RequestStores.request_read hlay hm
      have hid : m'.readU64 (a + 10) = if id = 0 then c.id else id :=
        (hrecord.held _ List.mem_cons_self).readU64
      apply hread.trans
      apply congrArg (fun data => ({ pid := c.pid, data } : Message))
      rw [Message.Data.read, htype]
      exact congrArg (fun id => Message.Data.closeWs { id }) hid
  | subscribe id symbol request type =>
      obtain rfl := Option.some.inj h
      obtain ⟨hread, htype, hrecord⟩ := RequestStores.request_read hlay hm
      have hsub := RequestStores.subscription_read (Or.inr rfl) hfits hsize hrecord
      apply hread.trans
      apply congrArg (fun data => ({ pid := c.pid, data } : Message))
      rw [Message.Data.read, htype]
      apply congrArg Message.Data.subscribe hsub
  | unsubscribe id symbol request =>
      obtain rfl := Option.some.inj h
      obtain ⟨hread, htype, hrecord⟩ := RequestStores.request_read hlay hm
      have hsub := RequestStores.subscription_read (Or.inl rfl) hfits hsize hrecord
      apply hread.trans
      apply congrArg (fun data => ({ pid := c.pid, data } : Message))
      rw [Message.Data.read, htype]
      apply congrArg Message.Data.unsubscribe hsub
  | send id data =>
      obtain rfl := Option.some.inj h
      obtain ⟨hread, htype, hrecord⟩ := RequestStores.request_read hlay hm
      have hreq := RequestStores.send_read hrecord
      apply hread.trans
      apply congrArg (fun data => ({ pid := c.pid, data } : Message))
      rw [Message.Data.read, htype]
      apply congrArg Message.Data.wsRequest hreq

/-- The event of a client that makes a call: `openWebSocket` publishes when it is connected. -/
inductive Makes (c : WebsocketProxyClient) : WebsocketProxyClient.Event → ClientCall → Prop
  | openWebSocket {o msg sent start} (hcaller : c.caller = .connected o) :
      Makes c (.sendOpenMessage msg sent start) (.openWebSocket o.url o.apiKey)
  | closeWebSocket {id msg sent start} :
      Makes c (.closeWebSocket id msg sent start) (.closeWebSocket id)
  | subscribe {sub request symbol existing msg sent start} (hsymbol : sub.symbol = padded symbol)
      (hrequest : sub.request = request.bytes) :
      Makes c (.subscribe sub existing msg sent start) (.subscribe sub.id symbol request sub.type)
  | unsubscribe {sub request symbol sent} (hsymbol : sub.symbol = padded symbol)
      (hrequest : sub.request = request.bytes) :
      Makes c (.unsubscribe sub sent) (.unsubscribe sub.id symbol request)
  | send {req data sent} (hdata : req.data = data.bytes) :
      Makes c (.send req sent) (.send req.id data)

/-- A client that makes a call publishes the message the server reads. -/
theorem perform_publishes {ev : WebsocketProxyClient.Event} {published : List Message}
    (h : call.Makes c ev) (hperform : c.perform ev = some (c', published)) :
  published = [{ pid := c.pid, data := call.data c }]
  := by
  have hstep := WebsocketProxyClient.perform_step hperform
  cases h with
  | openWebSocket hcaller =>
      cases hstep with
      | openAsync hcaller' | openSync hcaller' =>
          obtain rfl := WebsocketProxyClient.Caller.connected.inj (hcaller.symm.trans hcaller')
          rfl
  | closeWebSocket =>
      cases hstep
      rfl
  | subscribe hsymbol hrequest | unsubscribe hsymbol hrequest =>
      cases hstep
      rw [data, ← hsymbol, ← hrequest]
  | send hdata =>
      cases hstep
      rw [data, ← hdata]

/-! ### Round trips -/

/-- Every call that fits publishes its message, unless it is rejected. -/
theorem exists_stores (haccepted : call.Accepted) (hfits : call.Fits) :
  ∃ stores, call.stores c a = some stores
  := by
  cases call with
  | openWebSocket url apiKey =>
      use RequestStores.request c a (getMessageSize 1297 0) 2
        [⟨a + 10, WebsocketProxyClient.cString url ++ [0]⟩,
          ⟨a + 522, WebsocketProxyClient.cString apiKey ++ [0]⟩]
      apply RequestStores.sendOpenMessage_eq_some.mpr
      use haccepted
      use (WebsocketProxyClient.length_cString_le apiKey).trans_lt hfits
  | closeWebSocket | subscribe | unsubscribe | send => exact ⟨_, rfl⟩

/-- A handler decodes the arguments of a call that fits from the message the client published. -/
theorem decodes_data (hid : c.id = 0) (hnul : call.NulFree) (hfits : call.Fits) :
  call.Decodes { pid := c.pid, data := call.data c }
  := by
  cases call with
  | openWebSocket url apiKey =>
      refine ⟨_, rfl, ?_, ?_⟩
      · apply WebsocketProxyClient.cString_of_nulFree hnul.1
      · apply WebsocketProxyClient.cString_of_nulFree hnul.2
  | closeWebSocket id =>
      rcases eq_or_ne id 0 with rfl | hne
      · simp only [Decodes, data, hid, if_pos]
      · simp only [Decodes, data, if_neg hne]
  | subscribe id symbol request type =>
      exact ⟨_, rfl, symbolView_padded rfl hfits hnul, rfl, rfl, rfl⟩
  | unsubscribe id symbol request =>
      exact ⟨_, rfl, symbolView_padded rfl hfits hnul, rfl, rfl⟩
  | send => rfl

theorem length_symbolView_le (sub : WsSubscription) :
  (Message.symbolView sub).length ≤ 256
  := (List.takeWhile_sublist _).length_le.trans (List.length_take_le _ _)

/-- For every client, every call that is not rejected, and any memory: what the server decodes
equals the arguments, and only reserved bytes are written, if and only if the strings fit in
their arrays. -/
theorem roundTrips_iff (hclient : WebsocketProxyClient.system.Reachable c)
    (haccepted : call.Accepted) (hnul : call.NulFree) (hwrap : call.extent < 2 ^ 32)
    (hplaced : call.Placed a) :
  call.RoundTrips c m a ↔ call.Fits
  := by
  constructor
  · rintro ⟨stores, hstores, -, hdecodes⟩
    have hread := hdecodes _ (fun _ _ _ => rfl)
    cases call with
    | openWebSocket url apiKey =>
        obtain ⟨-, hkey, -⟩ := RequestStores.sendOpenMessage_eq_some.mp hstores
        rw [WebsocketProxyClient.cString_of_nulFree hnul.2] at hkey
        exact hkey
    | closeWebSocket | send => trivial
    | subscribe id symbol request type =>
        obtain ⟨req, -, rfl, -⟩ := hread
        apply length_symbolView_le
    | unsubscribe id symbol request =>
        obtain ⟨req, -, rfl, -⟩ := hread
        apply length_symbolView_le
  · intro hfits
    obtain ⟨stores, hstores⟩ := exists_stores (c := c) (a := a) haccepted hfits
    use stores, hstores, (stores_lay hstores hfits hwrap).all_within
    intro m' hm
    rw [reads_message hstores hfits hwrap hplaced hm]
    apply decodes_data (WebsocketProxyClient.reachable_id hclient) hnul hfits

/-- `subscribe` to a symbol of as many bytes, with a request of three bytes. -/
def subscribeTo (length : ℕ) : ClientCall :=
  .subscribe 1 (List.replicate length 65) ⟨[1, 2, 3], by decide⟩ SubscriptionType.quotes

/-- A symbol that fills its array is decoded, whatever the bytes held before. -/
theorem roundTrips_subscribeTo :
  (subscribeTo 256).RoundTrips (WebsocketProxyClient.start 7 []) (fun _ => 255) 1000
  := by
  have hnul : (subscribeTo 256).NulFree := by decide +kernel
  have hfits : (subscribeTo 256).Fits := by decide +kernel
  exact (roundTrips_iff (.initial ⟨7, [], rfl⟩) (by decide) hnul (by decide) (by decide)).mpr hfits

/-- A symbol of 300 bytes is copied over the fields behind it, and is not decoded. -/
theorem not_roundTrips_subscribeTo :
  WebsocketProxyClient.system.Reachable (WebsocketProxyClient.start 7 []) ∧
    (subscribeTo 300).Accepted ∧ (subscribeTo 300).NulFree ∧ (subscribeTo 300).extent < 2 ^ 32 ∧
    (subscribeTo 300).Placed 1000 ∧
    ¬ (subscribeTo 300).RoundTrips (WebsocketProxyClient.start 7 []) (fun _ => 255) 1000
  := by
  refine ⟨.initial ⟨7, [], rfl⟩, by decide, by decide +kernel, by decide, by decide, ?_⟩
  rintro ⟨stores, -, -, hdecodes⟩
  obtain ⟨req, -, hsymbol, -⟩ := hdecodes _ (fun _ _ _ => rfl)
  have hle := length_symbolView_le req
  rw [hsymbol, List.length_replicate] at hle
  omega

end ClientCall
