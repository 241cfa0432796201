import WebsocketProxy.Queue.QueuedProxy
import WebsocketProxy.Server.Openings

/-!
# Openings and the slots of their requests

An opening keeps a reference to its request, and reads the client, the url and the key by it
when it ends; it answers by the same reference. The request is intact if these are still
what they were when the request was taken, and the bytes the answer is written to were not
given out again. An opening that succeeds acts on its own request exactly when the request
is intact and nothing is stored under its key (`acts_iff_intact`).
-/

namespace Request

/-- The request is as clients write it: it has the size of an `OpenWs` message, and its
strings end in their arrays. -/
def Written (req : Request) : Prop :=
  req.range.length = WsOpen.messageSize ∧ req.message.wsOpen.Ends

instance (req : Request) : Decidable req.Written := inferInstanceAs (Decidable (_ ∧ _))

end Request

namespace QueuedProxy

/-- The messages taken are those the server counts, and every opening has the key of the
request it is for. -/
structure Recorded (q : QueuedProxy) : Prop where
  taken : q.server.taken = q.requests.length
  opening : ∀ {r stage n}, (q.server.sockets r).opening = some (stage, n) →
    ∃ req data, q.requests[n]? = some req ∧ req.message.data = .openWs data ∧
      data.key = (q.server.sockets r).key

theorem start_recorded (pid : UInt64) (clock : ℕ → UInt64) :
  (start pid clock).Recorded
  := by
  constructor
  · rfl
  · rintro r stage n ⟨⟩

/-- Events keep the records. -/
theorem Recorded.step {q q' : QueuedProxy} {e : Event} (hq : q.Recorded)
    (hwf : q.server.WellFormed) (h : q.step e = some q') :
  q'.Recorded
  := by
  have hgoesOn : ∀ {r stage n} {px : WebsocketProxy} {requests : List Request},
      (∃ stage', (q.server.sockets r).opening = some (stage', n)) →
      (px.sockets r).key = (q.server.sockets r).key →
      (px.sockets r).opening = some (stage, n) →
      ∃ req data, (q.requests ++ requests)[n]? = some req ∧ req.message.data = .openWs data ∧
        data.key = (px.sockets r).key := by
    rintro r stage n px requests ⟨stage', hbefore⟩ hkey -
    obtain ⟨req, data, hreq, hdata, hkey'⟩ := hq.opening hbefore
    have hn := (List.getElem?_eq_some_iff.mp hreq).1
    exact ⟨req, data, (List.getElem?_append_left hn).trans hreq, hdata, hkey'.trans hkey.symm⟩
  rcases step_cases h with ⟨hserver, hrequests⟩ | ⟨req, htake, hrequests⟩ |
    ⟨ev, m, hmessage, hserver, hrequests⟩
  · constructor
    · rw [hserver, hrequests]
      apply hq.taken
    · rw [hserver, hrequests]
      exact hq.opening
  · have hwf : (q.view q.queue.memory).WellFormed := hwf
    constructor
    · rw [WebsocketProxy.message_taken htake, hrequests, List.length_append]
      apply congrArg (· + 1) hq.taken
    · intro r stage n hopening
      rw [hrequests]
      rcases WebsocketProxy.step_opening_cases hwf htake hopening with
        ⟨hbefore, -, hkey⟩ | ⟨hn, -, data, hdata, hnew⟩
      · apply hgoesOn hbefore hkey hopening
      · refine ⟨req, data, ?_, (WebsocketProxy.opensNew_message.mp hdata).1, ?_⟩
        · have hn : n = q.requests.length := hn.trans hq.taken
          rw [hn, List.getElem?_concat_length]
        · exact (Websocket.new_fresh hnew).key.symm
  · have hwf : (q.view m).WellFormed := hwf
    constructor
    · rw [(WebsocketProxy.step_idle hserver hmessage).taken, hrequests]
      apply hq.taken
    · intro r stage n hopening
      rw [hrequests]
      rcases WebsocketProxy.step_opening_cases hwf hserver hopening with
        ⟨hbefore, -, hkey⟩ | ⟨-, -, data, hdata, -⟩
      · have hafter := @hgoesOn r stage n q'.server [] hbefore hkey hopening
        rw [List.append_nil] at hafter
        exact hafter
      · obtain ⟨⟨msg, hev⟩, -⟩ := WebsocketProxy.opensNew_eq_some hdata
        exact absurd hev (hmessage msg)

/-- The records are kept in all reachable states. -/
theorem reachable_recorded {q : QueuedProxy} (h : system.Reachable q) :
  q.Recorded
  := by
  apply h.invariant
  · rintro q ⟨pid, clock, rfl⟩
    apply start_recorded
  · intro q e q' hreachable hq _ hstep
    apply hq.step (WebsocketProxy.reachable_wellFormed (reachable_server hreachable)) hstep

/-! ### What is read in a slot -/

/-- Of the strings that end in their arrays, the key read in a slot depends on the bytes of
the arrays only. -/
theorem read_key_congr {m m' : Memory} {a : ℕ} {data : WsOpen} (hends : data.Ends)
    (h : ∀ x, x < a + WsOpen.clientPidOffset → m x = m' x)
    (hkey : (WsOpen.read m a).key = data.key) :
  (WsOpen.read m' a).key = data.key
  := by
  simp only [WsOpen.key, WsOpen.read, WebsocketKey.mk.injEq] at hkey ⊢
  obtain ⟨hurlEnds, hapiKeyEnds⟩ := hends
  obtain ⟨hurlOffset, hapiKeyOffset, hclientPidOffset, -, -⟩ := WsOpen.offsets
  have hstring : ∀ {b : ℕ} {s : Bytes}, b + 512 ≤ a + WsOpen.clientPidOffset → s.length < 512 →
      m.string b = s → m'.string b = s := by
    intro b s hb hs
    apply Memory.string_congr _ hs
    intro x _ hx
    exact h x (by omega)
  constructor
  · exact hstring (by omega) hurlEnds hkey.1
  · exact hstring (by omega) hapiKeyEnds hkey.2

/-- What an opening writes does not change the key read in the slot. -/
theorem read_key_writeOpened {m : Memory} {a : ℕ} {data : WsOpen} (hends : data.Ends)
    (id clientPid : UInt64) :
  (WsOpen.read (Message.writeOpened m a id clientPid) a).key = data.key
    ↔ (WsOpen.read m a).key = data.key
  := by
  have hsame : ∀ x, x < a + WsOpen.clientPidOffset →
      Message.writeOpened m a id clientPid x = m x :=
    fun x hx => Message.writeOpened_outside id clientPid (Or.inl hx)
  constructor
  · apply read_key_congr hends hsame
  · exact read_key_congr hends (fun x hx => (hsame x hx).symm)

/-- Nor the sender. -/
theorem readU64_writeOpened (m : Memory) (a : ℕ) (id clientPid : UInt64) :
  (Message.writeOpened m a id clientPid).readU64 a = m.readU64 a
  := by
  apply Memory.readU64_congr
  intro x _ hx
  obtain ⟨-, -, hclientPidOffset, -, -⟩ := WsOpen.offsets
  apply Message.writeOpened_outside id clientPid
  omega

/-! ### The end of an opening -/

/-- An opening that succeeds acts on its request: the connection is found by the key it was
constructed with, the sender of the request is its client and is announced, and id and
status are written into the request and into no other message. -/
structure ActsOn (q q' : QueuedProxy) (r : ℕ) (req : Request) : Prop where
  stored : q'.server.websocketsByUrlApiKey.lookup (q.server.sockets r).key = some r
  attached : (q'.server.sockets r).clients = {req.message.pid}
  announced : q'.server.serverQueue = q.server.serverQueue ++ [q.server.reserveMessage (.openWs
    { id := (q.server.sockets r).id, clientPid := req.message.pid, newConnection := true })]
  status : q'.queue.memory (req.address + Message.statusOffset) = Message.Status.success.toByte
  id : q'.queue.memory.readU64 (req.address + WsOpen.idOffset) = (q.server.sockets r).id
  unchanged : ∀ x, ¬ Message.OpenAnswer req.address x → q'.queue.memory x = q.queue.memory x
  own : ∀ x, Message.OpenAnswer req.address x → q.queue.Owns req.slot x

/-- The request still has its sender and its key, no byte of the answer was given out again,
and nothing is stored under the key. -/
structure Intact (q : QueuedProxy) (req : Request) : Prop where
  pid : q.queue.memory.readU64 req.address = req.message.pid
  key : (WsOpen.read q.queue.memory req.address).key = req.message.wsOpen.key
  kept : ∀ range ∈ q.queue.ranges.drop (req.slot + 1), ∀ x,
    Message.OpenAnswer req.address x → ¬ range.Covers queueSize x
  absent : q.server.websocketsByUrlApiKey.lookup req.message.wsOpen.key = none

/-- The end of an opening enters the connection as the slot is then read, and writes the
answer into the bytes of the slot. -/
theorem step_entering {q q' : QueuedProxy} {ev : WebsocketProxy.Event} {r n : ℕ} {req : Request}
    (hentering : q.server.entering ev = some (r, n)) (hreq : q.requests[n]? = some req)
    (h : q.step (.server ev) = some q') :
  (q.view (q.opened ev)).Enters r n q'.server ∧
    (q.view (q.opened ev)).slots n = Message.readOpen (q.opened ev) req.address ∧
    q.opened ev = Message.writeOpened q.queue.memory req.address (q.server.sockets r).id
      (q.queue.memory.readU64 req.address) ∧
    q'.queue.memory = (q.opened ev).writeByte (req.address + Message.statusOffset)
      Message.Status.success.toByte
  := by
  obtain ⟨⟨port, rfl⟩, hopening⟩ := WebsocketProxy.entering_eq_some hentering
  obtain ⟨px, hpx, rfl⟩ := Option.map_eq_some_iff.mp h
  have henters := WebsocketProxy.step_enters hpx hentering
  use henters
  refine ⟨?_, ?_, ?_⟩
  · simp only [view, hreq]
  · simp only [opened, hentering, hreq]
  · have hstores : px.stores n ≠ q.server.stores n := by
      have hstores := congrFun henters.stores n
      rw [Function.update_self] at hstores
      rw [hstores]
      exact fun happend => List.cons_ne_nil _ _ (List.append_right_eq_self.mp happend)
    have hstatus : (px.slots n).status = .success := by rw [henters.slot]
    simp only [answered, answering, hopening, Option.map_some, hreq, if_neg hstores, hstatus]

/-- Of the bytes of the answer, none is outside the request. -/
theorem covers_answer {req : Request} (hlength : req.range.length = WsOpen.messageSize) {x : ℕ}
    (hx : Message.OpenAnswer req.address x) :
  req.range.Covers queueSize x
  := by
  obtain ⟨-, -, hclientPidOffset, -, hnewOffset⟩ := WsOpen.offsets
  have hsize : WsOpen.messageSize = 1307 := rfl
  have hstatus : Message.statusOffset = 9 := rfl
  unfold Message.OpenAnswer Request.address at hx
  unfold ByteRange.Covers
  omega

/-- The bytes of the answer are those of the request until the queue has gone round. -/
theorem owns_answer_of_round {q : QueuedProxy} {req : Request} (hreq : req ∈ q.requests)
    (hlength : req.range.length = WsOpen.messageSize)
    (hround : q.queue.reserved ≤ req.range.index + queueSize) {x : ℕ}
    (hx : Message.OpenAnswer req.address x) :
  q.queue.Owns req.slot x
  := by
  apply ByteRing.owns_of_round (q.placed req hreq) hround
  apply covers_answer hlength hx

/-- The memory after an opening that succeeded: the answer is read in the slot, and nothing
else is changed. -/
theorem memory_of_entering (m : Memory) (a : ℕ) (id clientPid : UInt64) :
  let m' := (Message.writeOpened m a id clientPid).writeByte (a + Message.statusOffset)
    Message.Status.success.toByte
  m' (a + Message.statusOffset) = Message.Status.success.toByte ∧
    m'.readU64 (a + WsOpen.idOffset) = id ∧
    ∀ x, ¬ Message.OpenAnswer a x → m' x = m x
  := by
  obtain ⟨-, -, hclientPidOffset, hidOffset, hnewOffset⟩ := WsOpen.offsets
  have hstatus : Message.statusOffset = 9 := rfl
  refine ⟨?_, ?_, ?_⟩
  · apply Memory.fill_inside _ (Nat.le_refl _) (Nat.lt_succ_self _)
  · have hsame : ((Message.writeOpened m a id clientPid).writeByte (a + Message.statusOffset)
        Message.Status.success.toByte).readU64 (a + WsOpen.idOffset)
        = (Message.writeOpened m a id clientPid).readU64 (a + WsOpen.idOffset) := by
      apply Memory.readU64_congr
      intro x hle _
      exact Memory.fill_outside _ (by omega)
    rw [hsame, Message.writeOpened, Memory.readU64_writeU64_of_disjoint _ (by omega),
      Memory.readU64_writeU64]
  · intro x hx
    unfold Message.OpenAnswer at hx
    rw [Memory.writeByte, Memory.fill_outside _ (by omega),
      Message.writeOpened_outside _ _ (by omega)]

/-- Whenever an opening succeeds, it has a request with the key of its connection; and it
acts on this request exactly when the request is intact. -/
theorem acts_iff_intact {q q' : QueuedProxy} (h : system.Reachable q)
    {ev : WebsocketProxy.Event} {r n : ℕ} (hentering : q.server.entering ev = some (r, n))
    (hstep : q.step (.server ev) = some q') :
  ∃ req data, q.requests[n]? = some req ∧ req.message.data = .openWs data ∧
    data.key = (q.server.sockets r).key ∧ (req.Written → (q.ActsOn q' r req ↔ q.Intact req))
  := by
  have hserver := reachable_server h
  have hwf := WebsocketProxy.reachable_wellFormed hserver
  obtain ⟨-, hopening⟩ := WebsocketProxy.entering_eq_some hentering
  obtain ⟨req, data, hreq, hdata, hkey⟩ := (reachable_recorded h).opening hopening
  refine ⟨req, data, hreq, hdata, hkey, ?_⟩
  rintro ⟨hlength, hends⟩
  obtain ⟨henters, hslot, hopened, hmemory⟩ := step_entering hentering hreq hstep
  have hwsOpen : req.message.wsOpen = data := by rw [Message.wsOpen, hdata]
  rw [hwsOpen] at hends
  have hunstored : ∀ k, q.server.websocketsByUrlApiKey.lookup k ≠ some r := by
    intro k hk
    rw [hwf.byKey_opened k r hk] at hopening
    cases hopening
  -- what is read in the slot
  have hpid : ((q.view (q.opened ev)).slots n).pid = q.queue.memory.readU64 req.address := by
    rw [hslot, hopened]
    apply readU64_writeOpened
  have hslotKey : (q.view (q.opened ev)).slotKey n = data.key ↔
      (WsOpen.read q.queue.memory req.address).key = data.key := by
    rw [WebsocketProxy.slotKey, hslot, hopened]
    apply read_key_writeOpened hends _ _
  have hclients : (q'.server.sockets r).clients = {q.queue.memory.readU64 req.address} := by
    have hnone : (q.server.sockets r).clients = ∅ :=
      (WebsocketProxy.reachable_phases hserver r).clients (by simp [hopening])
    rw [henters.socket, hpid]
    apply congrArg (insert _) hnone
  have hqueue := henters.serverQueue
  rw [hpid] at hqueue
  obtain ⟨hstatus, hid, hunchanged⟩ := memory_of_entering q.queue.memory req.address
    (q.server.sockets r).id (q.queue.memory.readU64 req.address)
  rw [← hopened, ← hmemory] at hstatus hid hunchanged
  constructor
  · intro hacts
    have hstored := hacts.stored
    rw [henters.byKey, UnorderedMap.lookup_emplace_eq] at hstored
    split at hstored
    case isTrue hfound =>
      rw [← hkey] at hfound
      constructor
      · apply Finset.singleton_inj.mp (hclients.symm.trans hacts.attached)
      · rw [hwsOpen]
        apply hslotKey.mp hfound.1.symm
      · exact fun range hrange x hx => (hacts.own x hx).2 range hrange
      · rw [hwsOpen, hfound.1]
        apply hfound.2
    case isFalse => exact absurd hstored (hunstored _)
  · intro hintact
    have hread := hslotKey.mpr (hwsOpen ▸ hintact.key)
    constructor
    · rw [henters.byKey, hread, ← hkey]
      exact UnorderedMap.lookup_emplace_of_none r (hwsOpen ▸ hintact.absent)
    · rw [hclients, hintact.pid]
    · rw [hintact.pid] at hqueue
      exact hqueue
    · exact hstatus
    · exact hid
    · exact hunchanged
    · intro x hx
      have hplaced := q.placed req (List.mem_of_getElem? hreq)
      use ⟨req.range, hplaced, covers_answer hlength hx⟩
      exact fun range hrange => hintact.kept range hrange x hx

/-! ### Runs -/

/-- The bytes of a message with the given sender, type byte and first string. -/
def contents (pid : UInt64) (type : UInt8) (string : Bytes) (i : ℕ) : UInt8 :=
  if i < Message.typeOffset then Memory.digit pid.toNat i
  else if i = Message.typeOffset then type
  else if i < Message.dataOffset then 0
  else string.getD (i - Message.dataOffset) 0

/-- A client publishes a message of the given length. -/
def publish (slot length : ℕ) (pid : UInt64) (type : UInt8) (string : Bytes) : List Event :=
  [.reserve length, .write slot (contents pid type string)]

/-- A coroutine is resumed with success. -/
def resumed (r : ℕ) : WebsocketProxy.Event := .complete r (.resumed (.success 443))

/-- Two clients register, the first asks for a connection, and the coroutine that opens it
is resumed until one step is left. -/
def openOne : List Event :=
  publish 0 306 1 0 [] ++ [.take 0] ++ publish 1 306 2 0 [] ++ [.take 1] ++
    publish 2 1307 1 2 [104] ++ [.take 2] ++ List.replicate 4 (.server (resumed 0))

/-- The request of this run is intact when its opening ends, and is acted on. -/
theorem acts_openOne :
  ∃ q q' req, system.Run (start 7 fun _ => 1) openOne q ∧ q.server.entering (resumed 0) = some (0, 2) ∧
    q.step (.server (resumed 0)) = some q' ∧ q.requests[2]? = some req ∧ req.message.pid = 1 ∧
    q.ActsOn q' 0 req
  := by
  have hexec : ∃ q ∈ system.exec (start 7 fun _ => 1) openOne,
      q.server.entering (resumed 0) = some (0, 2) ∧ (q.step (.server (resumed 0))).isSome ∧
      q.queue.ranges.drop 3 = [] ∧ q.server.websocketsByUrlApiKey.lookup ⟨[104], []⟩ = none ∧
      ∀ req ∈ q.requests[2]?, req.slot = 2 ∧ req.message.pid = 1 ∧ req.Written ∧
        req.message.wsOpen.key = ⟨[104], []⟩ ∧
        q.queue.memory.readU64 req.address = req.message.pid ∧
        (WsOpen.read q.queue.memory req.address).key = ⟨[104], []⟩ := by
    decide +kernel
  obtain ⟨q, hrun, hentering, hsome, hlast, habsent, hreq⟩ := TransitionSystem.exists_runUnder hexec
  obtain ⟨q', hstep⟩ := Option.isSome_iff_exists.mp hsome
  obtain ⟨req, data, hget, -, -, hiff⟩ := acts_iff_intact ⟨_, _, ⟨7, _, rfl⟩, hrun⟩ hentering hstep
  obtain ⟨hslot, hpid, hwritten, hkey, hreadPid, hreadKey⟩ := hreq req hget
  refine ⟨q, q', req, hrun, hentering, hstep, hget, hpid, (hiff hwritten).mpr ?_⟩
  constructor
  · exact hreadPid
  · rw [hreadKey, hkey]
  · rw [hslot, hlast]
    simp
  · rw [hkey]
    exact habsent

/-- Meanwhile the second client fills the queue once with requests, and asks for another
connection, in the bytes of the request of the first. -/
def openLapped : List Event :=
  openOne ++ publish 3 63617 2 5 [] ++ publish 4 612 2 5 [] ++ publish 5 1307 2 2 [103]

/-- The connection of this run is opened for the first client, and the second becomes its
client, under the key the second asked for. -/
theorem not_acts_openLapped :
  ∃ q q' req, system.Run (start 7 fun _ => 1) openLapped q ∧
    q.server.entering (resumed 0) = some (0, 2) ∧ q.step (.server (resumed 0)) = some q' ∧
    q.requests[2]? = some req ∧ req.message.pid = 1 ∧ req.Written ∧
    (q'.server.sockets 0).clients = {2} ∧
    q'.server.websocketsByUrlApiKey.lookup ⟨[103], []⟩ = some 0 ∧ ¬ q.ActsOn q' 0 req
  := by
  have hexec : ∃ q ∈ system.exec (start 7 fun _ => 1) openLapped,
      q.server.entering (resumed 0) = some (0, 2) ∧
      (∃ q' ∈ q.step (.server (resumed 0)), (q'.server.sockets 0).clients = {2} ∧
        q'.server.websocketsByUrlApiKey.lookup ⟨[103], []⟩ = some 0) ∧
      ∃ req ∈ q.requests[2]?, req.message.pid = 1 ∧ req.Written := by
    decide +kernel
  obtain ⟨q, hrun, hentering, ⟨q', hstep, hclients, hkey⟩, req, hreq, hpid, hwritten⟩ :=
    TransitionSystem.exists_runUnder hexec
  refine ⟨q, q', req, hrun, hentering, hstep, hreq, hpid, hwritten, hclients, hkey, ?_⟩
  intro hacts
  have hattached := hacts.attached
  rw [hclients, hpid] at hattached
  exact absurd hattached (by decide)

end QueuedProxy
