import WebsocketProxy.Library.StoreRing
import WebsocketProxy.Queue.MessageSizes
import WebsocketProxy.Server.Published

/-!
# The server over its server queue

`BroadcastProxy` is the proxy server together with the bytes of its server queue. What a handler
publishes is written after the handler, message by message and store by store: bytes are reserved,
the message is stored into them, and it is published. Clients read at any time between.

Nothing waits for the clients, so the bytes of a message are given out again a round later. A
client that is not as far behind reads the messages that the server has published in
`WebsocketProxy.system`, in their order (`reads_published`).
-/

/-! ### The messages of the server -/

namespace MessageStores

def onWsOpened (px : WebsocketProxy) (a : ℕ) (id clientPid : UInt64) : List Store :=
  Message.stores px.pid a (getMessageSize 1297 0) 2
    [.u64 (a + WsOpen.idOffset) id, .u64 (a + WsOpen.clientPidOffset) clientPid,
      .byte (a + WsOpen.newConnectionOffset) 1]

def onWsClosed (px : WebsocketProxy) (a : ℕ) (id : UInt64) : List Store :=
  Message.stores px.pid a (getMessageSize 8 0) 3 [.u64 (a + Message.dataOffset) id]

def sendHeartbeat (px : WebsocketProxy) (a : ℕ) : List Store :=
  Message.stores px.pid a (getMessageSize 0 0) 4 []

end MessageStores

namespace Message.Data

/-- What the server publishes: of an `OpenWs` message it fills in the answer only, and a payload
has the length that is stored beside it. -/
def Announced : Data → Prop
  | .openWs req => req = { id := req.id, clientPid := req.clientPid, newConnection := true }
  | .closeWs _ | .heartbeat => True
  | .wsError e => e.err.length = e.len.toNat
  | .wsData d => d.data.length = d.len.toNat
  | _ => False

/-- The number of bytes of the message. -/
def extent : Data → ℕ
  | .openWs _ => Message.dataOffset + 1297
  | .closeWs _ => Message.dataOffset + 8
  | .wsError e => Message.dataOffset + 12 + e.len.toNat
  | .wsData d => Message.dataOffset + 16 + d.len.toNat
  | _ => Message.dataOffset

/-- The number of bytes that the server reserves for the message. -/
def size : Data → UInt32
  | .openWs _ => getMessageSize 1297 0
  | .closeWs _ => getMessageSize 8 0
  | .wsError e => getMessageSize 12 e.len
  | .wsData d => getMessageSize 16 d.len
  | _ => getMessageSize 0 0

/-- The stores of the server into the bytes it reserved at an address. -/
def stores (px : WebsocketProxy) (a : ℕ) : Data → List Store
  | .openWs req => MessageStores.onWsOpened px a req.id req.clientPid
  | .closeWs req => MessageStores.onWsClosed px a req.id
  | .heartbeat => MessageStores.sendHeartbeat px a
  | .wsError e => MessageStores.onWsError px a e.id e.err e.len
  | .wsData d => MessageStores.onWsData px a d.id d.data d.len d.remaining
  | _ => []

end Message.Data

/-! ### What is read of them -/

/-- A string whose first byte is zero is empty. -/
theorem Memory.string_blank {m : Memory} {a : ℕ} (h : m a = 0) :
  m.string a = []
  := by
  rw [string]
  cases queueSize - a with
  | zero => rfl
  | succ n => exact if_pos h

namespace MessageStores

variable {px : WebsocketProxy} {m m' : Memory} {a : ℕ} {id clientPid : UInt64}

theorem onWsOpened_lay :
  Store.Lay (onWsOpened px a id clientPid) a (getMessageSize 1297 0).toNat
  := by
  have hsize : (getMessageSize 1297 0).toNat = 1307 := by rfl
  obtain ⟨-, -, hclientPid, hid, hnew⟩ := WsOpen.offsets
  apply Message.stores_lay
  · rw [hsize]
    decide
  · simp only [List.pairwise_cons, List.forall_mem_cons, Store.Apart, Store.u64_address,
      Store.u64_length, Store.byte_address, Store.byte_length, List.not_mem_nil,
      IsEmpty.forall_iff, implies_true, List.Pairwise.nil, and_true]
    omega
  · simp only [List.forall_mem_cons, Store.u64_address, Store.u64_length, Store.byte_address,
      Store.byte_length, List.not_mem_nil, IsEmpty.forall_iff, implies_true, and_true, hsize,
      Message.statusOffset]
    omega

theorem onWsClosed_lay :
  Store.Lay (onWsClosed px a id) a (getMessageSize 8 0).toNat
  := by
  have hsize : (getMessageSize 8 0).toNat = 18 := by rfl
  apply Message.stores_lay
  · rw [hsize]
    decide
  · apply List.pairwise_singleton
  · intro s hs
    rw [List.mem_singleton.mp hs, Store.u64_address, Store.u64_length, hsize,
      Message.statusOffset, Message.dataOffset]
    omega

theorem sendHeartbeat_lay :
  Store.Lay (sendHeartbeat px a) a (getMessageSize 0 0).toNat
  := by
  apply Message.stores_lay
  · decide
  · exact .nil
  · rintro s ⟨⟩

/-- What is read of a message that was laid out, with nothing stored in its status. -/
theorem header_read {size : UInt32} {type : UInt8} {fields : List Store}
    (hlay : Store.Lay (Message.stores px.pid a size type fields) a size.toNat)
    (hsize : Message.statusOffset < size.toNat)
    (hfields : ∀ s ∈ fields, a + Message.dataOffset ≤ s.address)
    (hm : (m.run (Message.stores px.pid a size type fields)).Agree m' a size.toNat) :
  Message.read m' a = px.reserveMessage (Message.Data.read m' a) ∧
    m' (a + Message.typeOffset) = type ∧
    m'.Record (a + Message.statusOffset) (size.toNat - Message.statusOffset) fields
  := by
  obtain ⟨hpid, htype, hrecord⟩ := Message.stores_read hlay hm
  refine ⟨?_, htype, hrecord⟩
  have hstatus : m' (a + Message.statusOffset) = 0 := by
    apply hrecord.blank _ (Nat.le_refl _)
    · omega
    · rintro s hs ⟨hle, -⟩
      have := hfields s hs
      rw [Message.dataOffset] at this
      rw [Message.statusOffset] at hle
      omega
  rw [Message.read, hpid, hstatus]
  rfl

/-- What clients read of an opening is the message that the proxy publishes. -/
theorem onWsOpened_read
    (hm : (m.run (onWsOpened px a id clientPid)).Agree m' a (getMessageSize 1297 0).toNat) :
  Message.read m' a = px.reserveMessage (.openWs { id, clientPid, newConnection := true })
  := by
  have hsize : (getMessageSize 1297 0).toNat = 1307 := by rfl
  obtain ⟨-, -, hclientPid, hid, hnew⟩ := WsOpen.offsets
  obtain ⟨hread, htype, hheld, hblank⟩ := header_read onWsOpened_lay (by rw [hsize]; decide)
    (by
      simp only [List.forall_mem_cons, Store.u64_address, Store.byte_address, List.not_mem_nil,
        IsEmpty.forall_iff, implies_true, and_true, Message.dataOffset]
      omega) hm
  have hstring : ∀ k, 10 ≤ k → k < 1307 → k < 1034 ∨ 1051 ≤ k → m'.string (a + k) = [] := by
    intro k hk hlt hbeside
    apply Memory.string_blank
    apply hblank
    · rw [Message.statusOffset]
      omega
    · rw [hsize, Message.statusOffset]
      omega
    · simp only [List.forall_mem_cons, Store.Covers, Store.u64_address, Store.u64_length,
        Store.byte_address, Store.byte_length, List.not_mem_nil, IsEmpty.forall_iff,
        implies_true, and_true]
      omega
  have hreadId : m'.readU64 (a + WsOpen.idOffset) = id := (hheld _ List.mem_cons_self).readU64
  have hreadPid : m'.readU64 (a + WsOpen.clientPidOffset) = clientPid :=
    (hheld (.u64 (a + WsOpen.clientPidOffset) clientPid) (by simp)).readU64
  have hreadNew : m' (a + WsOpen.newConnectionOffset) = 1 :=
    (hheld (.byte (a + WsOpen.newConnectionOffset) 1) (by simp)).byte
  have hopen : WsOpen.read m' a = { id, clientPid, newConnection := true } := by
    rw [WsOpen.read, hreadId, hreadPid, hreadNew, hstring WsOpen.urlOffset,
      hstring WsOpen.apiKeyOffset, hstring WsOpen.errOffset]
    · rfl
    all_goals decide
  rw [hread, Message.Data.read, htype]
  exact congrArg (fun req => px.reserveMessage (.openWs req)) hopen

/-- What clients read of a closing is the message that the proxy publishes. -/
theorem onWsClosed_read
    (hm : (m.run (onWsClosed px a id)).Agree m' a (getMessageSize 8 0).toNat) :
  Message.read m' a = px.reserveMessage (.closeWs { id })
  := by
  obtain ⟨hread, htype, hheld, -⟩ := header_read onWsClosed_lay (by decide)
    (by
      intro s hs
      rw [List.mem_singleton.mp hs]
      apply Nat.le_refl) hm
  have hid : m'.readU64 (a + Message.dataOffset) = id := (hheld _ List.mem_cons_self).readU64
  rw [hread, Message.Data.read, htype]
  exact congrArg (fun id => px.reserveMessage (.closeWs { id })) hid

theorem sendHeartbeat_read
    (hm : (m.run (sendHeartbeat px a)).Agree m' a (getMessageSize 0 0).toNat) :
  Message.read m' a = px.reserveMessage .heartbeat
  := by
  obtain ⟨hread, htype, -⟩ := header_read sendHeartbeat_lay (by decide) (by rintro s ⟨⟩) hm
  rw [hread, Message.Data.read, htype]
  rfl

theorem onWsError_lay {err : Bytes} {len : UInt32}
    (hwrap : Message.dataOffset + 12 + len.toNat < 2 ^ 32) :
  Store.Lay (onWsError px a id err len) a (getMessageSize 12 len).toNat
  := by
  have hapart : [Store.u64 (a + 10) id, .u32 (a + 18) len].Pairwise Store.Apart :=
    List.pairwise_pair.mpr (Or.inl (Nat.le_refl _))
  apply memcpy_lay hwrap hapart
  simp only [List.forall_mem_cons, Store.u64_address, Store.u64_length, Store.u32_address,
    Store.u32_length, List.not_mem_nil, IsEmpty.forall_iff, implies_true, and_true,
    Message.dataOffset]
  omega

theorem onWsData_lay {data : Bytes} {len remaining : UInt32}
    (hwrap : Message.dataOffset + 16 + len.toNat < 2 ^ 32) :
  Store.Lay (onWsData px a id data len remaining) a (getMessageSize 16 len).toNat
  := by
  have hapart : [Store.u64 (a + 10) id, .u32 (a + 18) len, .u32 (a + 22) remaining].Pairwise
      Store.Apart := by
    simp only [List.pairwise_cons, List.forall_mem_cons, Store.Apart, Store.u64_address,
      Store.u64_length, Store.u32_address, Store.u32_length, List.not_mem_nil,
      IsEmpty.forall_iff, implies_true, List.Pairwise.nil, and_true]
    omega
  apply memcpy_lay hwrap hapart
  simp only [List.forall_mem_cons, Store.u64_address, Store.u64_length, Store.u32_address,
    Store.u32_length, List.not_mem_nil, IsEmpty.forall_iff, implies_true, and_true,
    Message.dataOffset]
  omega

end MessageStores

namespace Message.Data

variable {px : WebsocketProxy} {m m' : Memory} {a : ℕ} {data : Message.Data}

/-- Of the server the stores depend on its process id only. -/
theorem stores_congr {px' : WebsocketProxy} (h : px'.pid = px.pid) :
  data.stores px' a = data.stores px a
  := by
  cases data with
  | openWs | closeWs | heartbeat | wsError | wsData =>
      simp only [stores, MessageStores.onWsOpened, MessageStores.onWsClosed,
        MessageStores.sendHeartbeat, MessageStores.onWsError, MessageStores.onWsData, h]
  | _ => rfl

/-- The server lays out every message that it publishes, unless its size wraps around. -/
theorem stores_lay (h : data.Announced) (hwrap : data.extent < 2 ^ 32) :
  Store.Lay (data.stores px a) a data.size.toNat
  := by
  cases data with
  | openWs => apply MessageStores.onWsOpened_lay
  | closeWs => apply MessageStores.onWsClosed_lay
  | heartbeat => apply MessageStores.sendHeartbeat_lay
  | wsError => apply MessageStores.onWsError_lay hwrap
  | wsData => apply MessageStores.onWsData_lay hwrap
  | _ => exact h.elim

/-- Clients read the message that the server publishes, whatever the memory holds beside it. -/
theorem stores_read (h : data.Announced) (hwrap : data.extent < 2 ^ 32)
    (hm : (m.run (data.stores px a)).Agree m' a data.size.toNat) :
  Message.read m' a = px.reserveMessage data
  := by
  cases data with
  | openWs req =>
      rw [show req = _ from h]
      apply MessageStores.onWsOpened_read hm
  | closeWs => apply MessageStores.onWsClosed_read hm
  | heartbeat => apply MessageStores.sendHeartbeat_read hm
  | wsError e =>
      have hlength : e.err.length = e.len.toNat := h
      have hread := MessageStores.onWsError_read hwrap hlength.ge hm
      have hmessage := List.append_cancel_left hread
      rw [← List.singleton_inj.mp hmessage, ← hlength, List.take_length]
  | wsData d =>
      have hlength : d.data.length = d.len.toNat := h
      have hread := MessageStores.onWsData_read hwrap hlength.ge hm
      have hmessage := List.append_cancel_left hread
      rw [← List.singleton_inj.mp hmessage, ← hlength, List.take_length]
  | _ => exact h.elim

end Message.Data

namespace WebsocketProxy

theorem announced_errorData (id : UInt64) (err : Bytes) :
  (errorData id err).Announced
  := by
  change (err.take _).length = _
  rw [List.length_take, min_eq_left]
  rw [UInt32.toNat_ofNat']
  apply Nat.mod_le

/-- Every message in the server queue is one that the server announces. -/
theorem reachable_announced {guard : WebsocketProxy → Event → Prop} {px : WebsocketProxy}
    (h : system.ReachableUnder guard px) :
  ∀ msg ∈ px.serverQueue, msg.data.Announced ∧ msg = px.reserveMessage msg.data
  := by
  apply h.invariant
    (I := fun px => ∀ msg ∈ px.serverQueue, msg.data.Announced ∧ msg = px.reserveMessage msg.data)
  · rintro _ ⟨pid, clock, rfl⟩ msg ⟨⟩
  · intro px ev px' _ hbefore _ hstep
    obtain ⟨datas, hpublishes, hdatas⟩ :
        ∃ datas, px.Publishes datas px' ∧ ∀ data ∈ datas, data.Announced := by
      rcases em (∃ r c, ev = .complete r c) with ⟨r, c, rfl⟩ | hother
      · obtain ⟨ws, calls, -, hpublishes⟩ := complete_publishes hstep
        refine ⟨_, hpublishes, ?_⟩
        intro data hdata
        obtain ⟨call, -, hcall⟩ := List.mem_filterMap.mp hdata
        cases call with
        | onWsError err =>
            obtain rfl := Option.some.inj hcall
            apply announced_errorData
        | onWsData payload =>
            obtain rfl := Option.some.inj hcall
            exact announced_errorData 0 payload
        | onWsClosed =>
            obtain rfl := Option.some.inj hcall
            trivial
        | opened msg success =>
            cases success with
            | true =>
                obtain rfl := Option.some.inj hcall
                rfl
            | false => cases hcall
      · obtain ⟨datas, hpublishes, hannounces⟩ :=
          step_publishes hstep (fun r c hev => hother ⟨r, c, hev⟩)
        refine ⟨datas, hpublishes, ?_⟩
        intro data hdata
        cases hannounces data hdata with
        | heartbeat => trivial
        | failed => apply announced_errorData
        | attached => rfl
    have hreserve : px'.reserveMessage = px.reserveMessage := by
      funext data
      rw [reserveMessage, reserveMessage, hpublishes.pid]
    intro msg hmsg
    rw [hreserve]
    rw [hpublishes.serverQueue] at hmsg
    rcases List.mem_append.mp hmsg with hmsg | hmsg
    · apply hbefore msg hmsg
    · obtain ⟨data, hdata, rfl⟩ := List.mem_map.mp hmsg
      exact ⟨hdatas data hdata, rfl⟩

end WebsocketProxy

/-! ### The server and its queue -/

/-- The proxy server and its server queue of `size` bytes. -/
structure BroadcastProxy (size : ℕ) where
  server : WebsocketProxy
  queue : StoreRing size
  /-- How many messages are published. -/
  published : ℕ := 0

namespace BroadcastProxy

/-- What happens to the server and its queue. -/
inductive Event where
  /-- A handler of the server runs, when all is published of those before. -/
  | handler (ev : WebsocketProxy.Event)
  /-- Bytes are reserved for the next message. -/
  | reserve
  /-- The next of its stores is made. -/
  | store
  /-- The message is published. -/
  | publish

variable {size : ℕ}

/-- The server and its queue after an event. No bytes are reserved for a message that is larger
than the queue. -/
def step [NeZero size] (s : BroadcastProxy size) : Event → Option (BroadcastProxy size)
  | .handler ev =>
      if s.published = s.server.serverQueue.length then
        (s.server.step ev).map fun px => { s with server := px }
      else none
  | .reserve =>
      s.server.serverQueue[s.published]?.bind fun msg =>
        let n := msg.data.size.toNat
        if h : s.queue.ranges.length = s.published ∧ n ≤ size then
          some { s with
            queue := s.queue.reserve n h.2
              (msg.data.stores s.server ((s.queue.next n).address size)) }
        else none
  | .store => (s.queue.store s.published).map fun queue => { s with queue }
  | .publish =>
      if s.published < s.queue.ranges.length ∧ s.queue.left s.published = [] then
        some { s with published := s.published + 1 }
      else none

/-- The server when it enters its loop, with a queue in which it has written nothing yet. -/
def start (pid : UInt64) (clock : ℕ → UInt64) (memory : Memory) (reserved : ℕ) :
    BroadcastProxy size where
  server := WebsocketProxy.start pid clock
  queue := { ByteRing.empty with memory, reserved, le_reserved := by simp [ByteRing.empty] }

/-- The server and its queue as a transition system. -/
def system (size : ℕ) [NeZero size] : TransitionSystem (BroadcastProxy size) Event where
  initial s := ∃ pid clock memory reserved, s = start pid clock memory reserved
  step := step

/-- No size of a message wraps around. -/
def Whole (s : BroadcastProxy size) (_ : Event) : Prop :=
  ∀ msg ∈ s.server.serverQueue, msg.data.extent < 2 ^ 32

instance (s : BroadcastProxy size) (ev : Event) : Decidable (s.Whole ev) :=
  inferInstanceAs (Decidable (∀ _ ∈ _, _))

/-- The message a client finds, where the `k`-th message of the server was written. -/
def read (s : BroadcastProxy size) (k : ℕ) : Option Message :=
  s.queue.ranges[k]?.map fun r => Message.read s.queue.memory (r.address size)

/-! ### Steps -/

variable {s s' : BroadcastProxy size}

/-- What an event does. -/
inductive Step [NeZero size] (s : BroadcastProxy size) : Event → BroadcastProxy size → Prop
  | handler {ev px} (hdone : s.published = s.server.serverQueue.length)
      (hpx : s.server.step ev = some px) : Step s (.handler ev) { s with server := px }
  | reserve {msg : Message} (hmsg : s.server.serverQueue[s.published]? = some msg)
      (hidle : s.queue.ranges.length = s.published) (h : msg.data.size.toNat ≤ size) :
      Step s .reserve { s with
        queue := s.queue.reserve msg.data.size.toNat h (msg.data.stores s.server
          ((s.queue.next msg.data.size.toNat).address size)) }
  | store {queue} (hstore : s.queue.store s.published = some queue) :
      Step s .store { s with queue }
  | publish (hwriting : s.published < s.queue.ranges.length)
      (hmade : s.queue.left s.published = []) :
      Step s .publish { s with published := s.published + 1 }

theorem step_of_some [NeZero size] {ev : Event} (h : s.step ev = some s') :
  s.Step ev s'
  := by
  cases ev with
  | handler ev =>
      simp only [step] at h
      split at h
      case isTrue hdone =>
        obtain ⟨px, hpx, rfl⟩ := Option.map_eq_some_iff.mp h
        exact .handler hdone hpx
      case isFalse => cases h
  | reserve =>
      obtain ⟨msg, hmsg, h⟩ := Option.bind_eq_some_iff.mp h
      dsimp only at h
      split at h
      case isTrue hready =>
        obtain rfl := Option.some.inj h
        exact .reserve hmsg hready.1 hready.2
      case isFalse => cases h
  | store =>
      obtain ⟨queue, hstore, rfl⟩ := Option.map_eq_some_iff.mp h
      exact .store hstore
  | publish =>
      simp only [step] at h
      split at h
      case isTrue hready =>
        obtain rfl := Option.some.inj h
        exact .publish hready.1 hready.2
      case isFalse => cases h

/-- The server over its queue is the server. -/
theorem reachable_server [NeZero size] {guard : BroadcastProxy size → Event → Prop}
    (h : (system size).ReachableUnder guard s) :
  WebsocketProxy.system.Reachable s.server
  := by
  apply h.invariant (I := fun s => WebsocketProxy.system.Reachable s.server)
  · rintro _ ⟨pid, clock, memory, reserved, rfl⟩
    exact .initial ⟨pid, clock, rfl⟩
  · intro s ev s' _ hserver _ hstep
    cases step_of_some hstep with
    | handler _ hpx => exact hserver.step trivial hpx
    | reserve | store | publish => exact hserver

/-! ### What is written -/

/-- The message at `r` is the `k`-th of the server, and all its stores are made if it is
published. -/
structure Writes (s : BroadcastProxy size) (k : ℕ) (r : ByteRange) (msg : Message) : Prop where
  message : s.server.serverQueue[k]? = some msg
  length : r.length = msg.data.size.toNat
  whole : msg.data.extent < 2 ^ 32
  stores : s.queue.made k ++ s.queue.left k = msg.data.stores s.server (r.address size)
  done : k < s.published → s.queue.left k = []

/-- The server writes its messages one after the other. -/
structure Written (s : BroadcastProxy size) : Prop where
  sound : s.queue.Sound
  published_le : s.published ≤ s.queue.ranges.length
  le_succ : s.queue.ranges.length ≤ s.published + 1
  current : ¬ s.queue.Lapped s.published
  writes : ∀ k, ∀ r ∈ s.queue.ranges[k]?, ∃ msg, s.Writes k r msg

theorem Written.handler {px : WebsocketProxy} {ev : WebsocketProxy.Event} (h : s.Written)
    (hpx : s.server.step ev = some px) :
  Written { s with server := px }
  := by
  refine ⟨h.sound, h.published_le, h.le_succ, h.current, ?_⟩
  intro k r hr
  obtain ⟨msg, hmessage, hlength, hwhole, hstores, hdone⟩ := h.writes k r hr
  refine ⟨msg, ?_, hlength, hwhole, ?_, hdone⟩
  · obtain ⟨news, hnews⟩ := WebsocketProxy.step_serverQueue hpx
    obtain ⟨hlt, -⟩ := List.getElem?_eq_some_iff.mp hmessage
    rw [hnews, List.getElem?_append_left hlt, hmessage]
  · rw [Message.Data.stores_congr (WebsocketProxy.step_pid hpx)]
    exact hstores

theorem Written.reserve [NeZero size] {msg : Message} (h : s.Written)
    (hserver : WebsocketProxy.system.Reachable s.server)
    (hmsg : s.server.serverQueue[s.published]? = some msg) (hwhole : msg.data.extent < 2 ^ 32)
    (hidle : s.queue.ranges.length = s.published) (hsize : msg.data.size.toNat ≤ size) :
  Written { s with
    queue := s.queue.reserve msg.data.size.toNat hsize (msg.data.stores s.server
      ((s.queue.next msg.data.size.toNat).address size)) }
  := by
  obtain ⟨hannounced, -⟩ :=
    WebsocketProxy.reachable_announced hserver msg (List.mem_of_getElem? hmsg)
  have hnext : (s.queue.ranges ++ [s.queue.next msg.data.size.toNat])[s.published]?
      = some (s.queue.next msg.data.size.toNat) := by
    rw [← hidle, List.getElem?_append_right (Nat.le_refl _), Nat.sub_self]
    rfl
  constructor
  · apply h.sound.reserve hsize
    apply (Message.Data.stores_lay hannounced hwhole).all_within
  · change _ ≤ (s.queue.ranges ++ [_]).length
    rw [List.length_append, hidle]
    apply Nat.le_succ
  · change (s.queue.ranges ++ [_]).length ≤ _
    rw [List.length_append, hidle]
    apply Nat.le_refl
  · rintro ⟨r, hr, hlapped⟩
    obtain rfl := Option.some.inj (hnext.symm.trans hr)
    exact absurd (Nat.add_le_add_left hsize _) (Nat.not_le_of_lt hlapped)
  · intro k r hr
    rcases eq_or_ne k s.published with rfl | hne
    · obtain rfl := Option.some.inj (hnext.symm.trans hr)
      refine ⟨msg, hmsg, rfl, hwhole, ?_, fun hlt => absurd hlt (Nat.lt_irrefl _)⟩
      simp only [StoreRing.reserve, hidle, Function.update_self]
      rw [h.sound.unmade _ hidle.le]
      rfl
    · have hlt : k < s.queue.ranges.length := by
        obtain ⟨hlt, -⟩ := List.getElem?_eq_some_iff.mp hr
        change k < (s.queue.ranges ++ [_]).length at hlt
        rw [List.length_append, hidle] at hlt
        rw [hidle]
        exact Nat.lt_of_le_of_ne (Nat.le_of_lt_succ hlt) hne
      have hold : s.queue.ranges[k]? = some r := by
        rw [← hr]
        exact (List.getElem?_append_left hlt).symm
      obtain ⟨msg', hmessage, hlength, hwhole', hstores, hdone⟩ := h.writes k r hold
      refine ⟨msg', hmessage, hlength, hwhole', ?_, ?_⟩
      · simp only [StoreRing.reserve, Function.update_of_ne hlt.ne]
        exact hstores
      · simp only [StoreRing.reserve, Function.update_of_ne hlt.ne]
        exact hdone

theorem Written.store {queue : StoreRing size} (h : s.Written)
    (hstore : s.queue.store s.published = some queue) :
  Written { s with queue }
  := by
  have hsound := h.sound.store h.current hstore
  obtain ⟨st, stores, hleft, rfl⟩ := StoreRing.store_eq_some.mp hstore
  refine ⟨hsound, h.published_le, h.le_succ, h.current, ?_⟩
  intro k r hr
  obtain ⟨msg, hmessage, hlength, hwhole, hstores, hdone⟩ := h.writes k r hr
  refine ⟨msg, hmessage, hlength, hwhole, ?_, ?_⟩
  · rw [← hstores]
    rcases eq_or_ne k s.published with rfl | hne
    · simp only [StoreRing.write, Function.update_self, hleft, List.append_assoc]
      rfl
    · simp only [StoreRing.write, Function.update_of_ne hne]
  · intro hlt
    simp only [Function.update_of_ne hlt.ne]
    exact hdone hlt

theorem Written.publish (h : s.Written) (hwriting : s.published < s.queue.ranges.length)
    (hmade : s.queue.left s.published = []) :
  Written { s with published := s.published + 1 }
  := by
  have hle := h.le_succ
  refine ⟨h.sound, hwriting, hle.trans (Nat.le_succ _), ?_, ?_⟩
  · rintro ⟨r, hr, -⟩
    have hlt := (List.getElem?_eq_some_iff.mp hr).1
    dsimp only at hlt
    omega
  · intro k r hr
    obtain ⟨msg, hmessage, hlength, hwhole, hstores, hdone⟩ := h.writes k r hr
    refine ⟨msg, hmessage, hlength, hwhole, hstores, ?_⟩
    intro hlt
    rcases (Nat.le_of_lt_succ hlt).eq_or_lt with rfl | hlt
    · exact hmade
    · exact hdone hlt

/-- In every run, what was reserved is written. -/
theorem reachable_written [NeZero size] (h : (system size).ReachableUnder Whole s) :
  s.Written
  := by
  apply h.invariant (I := Written)
  · rintro _ ⟨pid, clock, memory, reserved, rfl⟩
    refine ⟨.of_ranges rfl (fun _ => rfl) fun _ => rfl, Nat.le_refl _, Nat.zero_le _, ?_, ?_⟩
    · rintro ⟨r, ⟨⟩, -⟩
    · rintro k r ⟨⟩
  · intro s ev s' hs hwritten hwhole hstep
    cases step_of_some hstep with
    | handler _ hpx => exact hwritten.handler hpx
    | reserve hmsg hidle hsize =>
        apply hwritten.reserve (reachable_server hs) hmsg _ hidle
        apply hwhole _ (List.mem_of_getElem? hmsg)
    | store hstore => exact hwritten.store hstore
    | publish hwriting hmade => exact hwritten.publish hwriting hmade

/-! ### What clients read -/

/-- In every run of the server over its queue, however its stores interleave with what clients
read: a client that goes on reading from a message which is not lapped finds the messages that
the server has published, in their order. -/
theorem reads_published [NeZero size] (h : (system size).ReachableUnder Whole s) {i k : ℕ}
    (hlapped : ¬ s.queue.Lapped i) (hle : i ≤ k) (hk : k < s.published) :
  ∃ msg, s.server.serverQueue[k]? = some msg ∧ s.read k = some msg
  := by
  have hwritten := reachable_written h
  have hranges : k < s.queue.ranges.length := hk.trans_le hwritten.published_le
  have hr := List.getElem?_eq_getElem hranges
  obtain ⟨msg, hmessage, hlength, hwhole, hstores, hdone⟩ := hwritten.writes k _ hr
  use msg, hmessage
  obtain ⟨hannounced, hmsg⟩ := WebsocketProxy.reachable_announced (reachable_server h) msg
    (List.mem_of_getElem? hmessage)
  obtain ⟨old, hagree⟩ := hwritten.sound.agree hr (ByteRing.not_lapped_of_le hlapped hranges hle)
  rw [hdone hk, List.append_nil] at hstores
  rw [hstores, hlength] at hagree
  rw [read, hr, Option.map_some, hmsg]
  apply congrArg some
  exact Message.Data.stores_read hannounced hwhole hagree

/-- A heartbeat is written. -/
def heartbeat : List Event := [.reserve, .store, .store, .store, .publish]

/-- Four heartbeats in a queue of 32 bytes, and the bytes for a fifth. -/
def fourHeartbeats : List Event :=
  .handler .startHeartbeat :: heartbeat ++ [.handler (.register 1)] ++
    (List.replicate 3 (.handler .startHeartbeat :: heartbeat)).flatten ++
    [.handler .startHeartbeat, .reserve]

/-- The first heartbeats are lapped, and the others are read. -/
theorem reads_published_fourHeartbeats :
  ∃ s : BroadcastProxy 32, (system 32).ReachableUnder Whole s ∧ s.published = 4 ∧ s.queue.Lapped 1 ∧
    ∃ msg, s.server.serverQueue[3]? = some msg ∧ s.read 3 = some msg
  := by
  have hexec : ∃ s ∈ (system 32).execUnder Whole
      (start 7 (fun j => 1000 * UInt64.ofNat (j + 1)) (fun _ => 255) 0) fourHeartbeats,
      s.published = 4 ∧ s.queue.Lapped 1 ∧ ¬ s.queue.Lapped 2 := by
    decide +kernel
  obtain ⟨s, hrun, hpublished, hlapped, hnot⟩ := TransitionSystem.exists_runUnder hexec
  have hs : (system 32).ReachableUnder Whole s :=
    ⟨_, _, ⟨7, _, fun _ => 255, 0, rfl⟩, hrun⟩
  use s, hs, hpublished, hlapped
  apply reads_published hs hnot
  · decide
  · omega

end BroadcastProxy
