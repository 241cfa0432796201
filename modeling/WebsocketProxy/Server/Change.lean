import WebsocketProxy.Server.Run
import WebsocketProxy.Server.Removal

/-!
# What one step does to the tables

`Change px ev t` says that the tables of `px` become `t` in the step of the event `ev`,
before closed connections are dropped; its constructors are the things a step can do.
Every step of the server is a change followed by a drain (`step_change`), and all
invariants of the tables are derived from that.
-/

/-- The key a request asks for. -/
def WsOpen.key (req : WsOpen) : WebsocketKey := ⟨req.url, req.apiKey⟩

namespace WebsocketProxy

/-! ### What a step is about -/

/-- The sender and the data of the message a step handles, if the sender is registered. -/
def received (px : WebsocketProxy) : Event → Option (UInt64 × Message.Data)
  | .processClientMessage (some m) => if m.pid ∈ px.clients then some (m.pid, m.data) else none
  | _ => none

/-- The request a step opens a new connection for. -/
def opensNew (px : WebsocketProxy) (ev : Event) : Option WsOpen :=
  match px.received ev with
  | some (_, .openWs req) =>
      if ∀ r ∈ px.websocketsByUrlApiKey.lookup req.key, (px.sockets r).Closing then some req
      else none
  | _ => none

/-- The connection whose opening succeeds in a step, and the message it is opened for. -/
def entering (px : WebsocketProxy) : Event → Option (ℕ × ℕ)
  | .complete r (.resumed (.success _)) =>
      match (px.sockets r).opening with
      | some (.handshake, msg) => some (r, msg)
      | _ => none
  | _ => none

/-- The clients whose heartbeats stopped, by the reading of the clock that the next
`checkHeartbeats` takes. -/
def expired (px : WebsocketProxy) : Finset UInt64 :=
  expiredAmong (px.clock (px.readings + if px.startup then 1 else 0)) px.clients.entries

/-- The clients a step drops from the server. -/
def departing (px : WebsocketProxy) (ev : Event) : Finset UInt64 :=
  match ev with
  | .startHeartbeat => px.expired
  | ev =>
      match px.received ev with
      | some (pid, .unregister) => {pid}
      | _ => ∅

/-- The clients that leave a connection in a step: by a `CloseWs` for it, or because the
step drops them from the server. -/
def leaving (px : WebsocketProxy) (ev : Event) (r : ℕ) : Finset UInt64 :=
  match px.received ev with
  | some (pid, .closeWs req) => if px.websocketsById.lookup req.id = some r then {pid} else ∅
  | _ => px.departing ev

/-- The client that subscribes at a connection in a step. -/
def subscribing (px : WebsocketProxy) (ev : Event) (r : ℕ) : Finset UInt64 :=
  match px.received ev with
  | some (pid, .subscribe req) => if px.websocketsById.lookup req.id = some r then {pid} else ∅
  | _ => ∅

/-- The key read in the slot of a request. -/
def slotKey (px : WebsocketProxy) (msg : ℕ) : WebsocketKey :=
  (px.slots msg).wsOpen.key

/-! ### Changes -/

/-- What a step can do to the tables before it drops closed connections. -/
inductive Change (px : WebsocketProxy) (ev : Event) : Tables → Prop
  /-- Tables are reordered, or a client is refreshed. -/
  | quiet {clients byId byKey}
      (hclients : ∀ pid, pid ∈ clients ↔ pid ∈ px.clients)
      (hbyId : ∀ id, byId.lookup id = px.websocketsById.lookup id)
      (hbyKey : ∀ k, byKey.lookup k = px.websocketsByUrlApiKey.lookup k) :
      Change px ev { px.toTables with
        clients, websocketsById := byId, websocketsByUrlApiKey := byKey }
  /-- A client is registered. -/
  | register {clients m reg} (hclients : ∀ q, q ∈ clients ↔ q = m.pid ∨ q ∈ px.clients)
      (hev : ev = .processClientMessage (some m)) (hreg : m.data = .register reg) :
      Change px ev { px.toTables with clients }
  /-- Clients depart. -/
  | depart {t} (h : px.Departs t (px.leaving ev))
      (hclients : ∀ pid, pid ∈ t.clients ↔ pid ∈ px.clients ∧ pid ∉ px.departing ev) :
      Change px ev t
  /-- A client is attached to a connection. -/
  | attach {clients pid k r} (hclients : ∀ q, q ∈ clients ↔ q ∈ px.clients)
      (hpid : pid ∈ px.clients) (hkey : px.websocketsByUrlApiKey.lookup k = some r)
      (hlive : ¬ (px.sockets r).Closing) :
      Change px ev { px.modifySocket r (fun ws => { ws with clients := insert pid ws.clients })
        with clients }
  /-- A connection is constructed. -/
  | create {clients req ws} (hclients : ∀ q, q ∈ clients ↔ q ∈ px.clients)
      (hreq : px.opensNew ev = some req)
      (hnew : Websocket.new (px.pid * 10000 + (px.websocketId + 1).toUInt64) req.url req.apiKey
        px.taken = some ws) :
      Change px ev { px.toTables with
        clients, websocketId := px.websocketId + 1, opens := px.opens + 1
        sockets := Function.update px.sockets px.opens ws }
  /-- The constructor of a connection throws. -/
  | throw {clients req} (hclients : ∀ q, q ∈ clients ↔ q ∈ px.clients)
      (hreq : px.opensNew ev = some req)
      (hnew : Websocket.new (px.pid * 10000 + (px.websocketId + 1).toUInt64) req.url req.apiKey
        px.taken = none) :
      Change px ev { px.toTables with
        clients, websocketId := px.websocketId + 1, opens := px.opens + 1 }
  /-- A request is passed on to a stored connection, or its subscriptions change. -/
  | request {clients r} {subscriptions : UnorderedMap Bytes Subscription} {buffers : List Bytes}
      (hclients : ∀ q, q ∈ clients ↔ q ∈ px.clients) (hr : px.Stored r)
      (hsub : ∀ symbol sub, subscriptions.lookup symbol = some sub → ∀ pid ∈ sub.clients,
        pid ∈ px.subscribing ev r ∨
          ∃ old, (px.sockets r).subscriptions.lookup symbol = some old ∧ pid ∈ old.clients) :
      Change px ev { px.modifySocket r (fun ws =>
        buffers.foldl Websocket.send { ws with subscriptions }) with clients }
  /-- An operation completes, without more to do than to tell the clients. -/
  | complete {r c ws calls} (hev : ev = .complete r c)
      (hcomplete : (px.sockets r).complete c = some (ws, calls)) (hentering : px.entering ev = none)
      (hdone : ws.closesDone = (px.sockets r).closesDone) :
      Change px ev (px.modifySocket r (fun _ => ws))
  /-- A connection was opened, and is entered in the tables. -/
  | enter {r c ws calls msg} (hev : ev = .complete r c)
      (hcomplete : (px.sockets r).complete c = some (ws, calls))
      (hentering : px.entering ev = some (r, msg)) :
      Change px ev { px.modifySocket r (fun _ =>
          { ws with clients := insert (px.slots msg).pid ws.clients }) with
        websocketsByUrlApiKey := px.websocketsByUrlApiKey.emplace (px.slotKey msg) r
        websocketsById := px.websocketsById.emplace ws.id r }
  /-- A close completes, and the connection is noted for removal. -/
  | closed {r c ws calls} (hev : ev = .complete r c)
      (hcomplete : (px.sockets r).complete c = some (ws, calls)) (hentering : px.entering ev = none)
      (hstatus : ws.status = .disconnected)
      (hdone : ws.closesDone = (px.sockets r).closesDone + 1) :
      Change px ev { px.modifySocket r (fun _ => ws) with
        closedSockets := px.closedSockets.push ws.id }
  /-- All connections are closed. -/
  | closeAll {t} (hev : ev = .shutdownClosure) (h : px.ClosesAll t) : Change px ev t

/-- What a step can do to the connection at a reference. -/
inductive SocketChange (px : WebsocketProxy) (ev : Event) (r : ℕ) : Websocket → Prop
  | same : SocketChange px ev r (px.sockets r)
  | leave (hr : px.Stored r) : SocketChange px ev r ((px.sockets r).leave (px.leaving ev r))
  | attach {pid k} (hpid : pid ∈ px.clients) (hkey : px.websocketsByUrlApiKey.lookup k = some r)
      (hlive : ¬ (px.sockets r).Closing) :
      SocketChange px ev r { px.sockets r with clients := insert pid (px.sockets r).clients }
  | create {req ws} (hr : r = px.opens) (hreq : px.opensNew ev = some req)
      (hnew : Websocket.new (px.pid * 10000 + (px.websocketId + 1).toUInt64) req.url req.apiKey
        px.taken = some ws) :
      SocketChange px ev r ws
  | request {subscriptions : UnorderedMap Bytes Subscription} {buffers : List Bytes}
      (hr : px.Stored r)
      (hsub : ∀ symbol sub, subscriptions.lookup symbol = some sub → ∀ pid ∈ sub.clients,
        pid ∈ px.subscribing ev r ∨
          ∃ old, (px.sockets r).subscriptions.lookup symbol = some old ∧ pid ∈ old.clients) :
      SocketChange px ev r (buffers.foldl Websocket.send { px.sockets r with subscriptions })
  | complete {c ws calls} (hev : ev = .complete r c)
      (hcomplete : (px.sockets r).complete c = some (ws, calls))
      (hentering : px.entering ev = none) :
      SocketChange px ev r ws
  | enter {c ws calls msg} (hev : ev = .complete r c)
      (hcomplete : (px.sockets r).complete c = some (ws, calls))
      (hentering : px.entering ev = some (r, msg)) :
      SocketChange px ev r { ws with clients := insert (px.slots msg).pid ws.clients }
  | close (hev : ev = .shutdownClosure) (hr : px.Stored r) :
      SocketChange px ev r (px.sockets r).close

/-- The connection that is changed changes, and the others stay the same. -/
theorem SocketChange.modifySocket {px : WebsocketProxy} {ev : Event} {r : ℕ}
    {f : Websocket → Websocket} (h : SocketChange px ev r (f (px.sockets r))) (r' : ℕ) :
  SocketChange px ev r' ((px.modifySocket r f).sockets r')
  := by
  rcases eq_or_ne r' r with rfl | hne
  · rw [Tables.modifySocket_self]
    exact h
  · rw [Tables.modifySocket_of_ne hne]
    exact .same

/-- What a change does to one connection. -/
theorem Change.socket {px : WebsocketProxy} {ev : Event} {t : Tables} (h : Change px ev t)
    (r : ℕ) :
  SocketChange px ev r (t.sockets r)
  := by
  cases h with
  | quiet | register | throw => exact .same
  | depart h =>
      rcases em (px.Stored r) with hr | hr
      · rw [h.stored r hr]
        exact .leave hr
      · rw [h.unstored r hr]
        exact .same
  | attach _ hpid hkey hlive =>
      dsimp only
      apply SocketChange.modifySocket (.attach hpid hkey hlive) r
  | @create clients req ws hclients hreq hnew =>
      change SocketChange px ev r (Function.update px.sockets px.opens ws r)
      rcases eq_or_ne r px.opens with rfl | hne
      · rw [Function.update_self]
        exact .create rfl hreq hnew
      · rw [Function.update_of_ne hne]
        exact .same
  | request _ hr hsub =>
      dsimp only
      apply SocketChange.modifySocket (.request hr hsub) r
  | complete hev hcomplete hentering =>
      apply SocketChange.modifySocket (.complete hev hcomplete hentering) r
  | enter hev hcomplete hentering =>
      dsimp only
      apply SocketChange.modifySocket (.enter hev hcomplete hentering) r
  | closed hev hcomplete hentering =>
      dsimp only
      apply SocketChange.modifySocket (.complete hev hcomplete hentering) r
  | closeAll hev h =>
      rcases em (px.Stored r) with hr | hr
      · rw [h.stored r hr]
        exact .close hev hr
      · rw [h.unstored r hr]
        exact .same

/-- A stored connection that a change drops is closed: all its clients leave it, or the
server is shut down. -/
theorem Change.dropped {px : WebsocketProxy} {ev : Event} {t : Tables} (h : Change px ev t)
    {r : ℕ} (hbefore : px.Stored r) (hafter : ¬ t.Stored r) :
  ((px.sockets r).clients ⊆ px.leaving ev r ∧
    t.sockets r = { px.sockets r with clients := ∅ }.close) ∨
  (ev = .shutdownClosure ∧ t.sockets r = (px.sockets r).close)
  := by
  obtain ⟨id, hid⟩ := hbefore
  cases h with
  | quiet _ hbyId => exact absurd ⟨id, (hbyId id).trans hid⟩ hafter
  | register | attach | create | throw | request | complete | closed =>
      exact absurd ⟨id, hid⟩ hafter
  | depart h =>
      left
      have hall : (px.sockets r).clients ⊆ px.leaving ev r := by
        by_contra hstay
        exact hafter ((h.stored_iff r).mpr ⟨⟨id, hid⟩, hstay⟩)
      use hall
      rw [h.stored r ⟨id, hid⟩, Websocket.leave, if_pos hall,
        Finset.sdiff_eq_empty_iff_subset.mpr hall]
  | enter => exact absurd ⟨id, UnorderedMap.lookup_emplace_of_some hid⟩ hafter
  | closeAll hev h => exact Or.inr ⟨hev, h.stored r ⟨id, hid⟩⟩

theorem Change.closing_of_dropped {px : WebsocketProxy} {ev : Event} {t : Tables}
    (h : Change px ev t) {r : ℕ} (hbefore : px.Stored r) (hafter : ¬ t.Stored r) :
  (t.sockets r).Closing
  := by
  rcases h.dropped hbefore hafter with ⟨-, hclosed⟩ | ⟨-, hclosed⟩
  · rw [hclosed]
    apply Websocket.closing_close
  · rw [hclosed]
    apply Websocket.closing_close

/-- Nothing happens. -/
theorem Change.unchanged (px : WebsocketProxy) (ev : Event) :
  Change px ev px.toTables
  := .quiet (fun _ => Iff.rfl) (fun _ => rfl) (fun _ => rfl)

/-- A client is refreshed. -/
theorem Change.refresh {px : WebsocketProxy} (ev : Event) {clients}
    (hclients : ∀ q, q ∈ clients ↔ q ∈ px.clients) :
  Change px ev { px.toTables with clients }
  := .quiet hclients (fun _ => rfl) (fun _ => rfl)

end WebsocketProxy

/-! ### Well-formedness -/

/-- Changing a connection keeps tables well formed, when its id stays, and it stays opened
and attached to if it was. -/
theorem Tables.WellFormed.modifySocket {t : Tables} (ht : t.WellFormed) {r : ℕ}
    {f : Websocket → Websocket} (hr : r < t.opens)
    (hid : (f (t.sockets r)).id = (t.sockets r).id)
    (hopening : (t.sockets r).opening = none → (f (t.sockets r)).opening = none)
    (hclients : (t.sockets r).clients.Nonempty → (f (t.sockets r)).clients.Nonempty) :
  (t.modifySocket r f).WellFormed
  := by
  constructor
  · intro r' hr'
    have hr' : t.opens ≤ r' := hr'
    rw [Tables.modifySocket_of_ne (by omega)]
    apply ht.blank r' hr'
  · intro id r' hid'
    rcases eq_or_ne r' r with rfl | hne
    · rw [Tables.modifySocket_self, hid]
      apply ht.byId id r' hid'
    · rw [Tables.modifySocket_of_ne hne]
      apply ht.byId id r' hid'
  · apply ht.lt_opens
  · intro r' hr'
    rcases eq_or_ne r' r with rfl | hne
    · rw [Tables.modifySocket_self]
      apply hopening (ht.opened r' hr')
    · rw [Tables.modifySocket_of_ne hne]
      apply ht.opened r' hr'
  · intro r' hr'
    rcases eq_or_ne r' r with rfl | hne
    · rw [Tables.modifySocket_self]
      apply hclients (ht.nonempty r' hr')
    · rw [Tables.modifySocket_of_ne hne]
      apply ht.nonempty r' hr'
  · apply ht.byKey_lt_opens
  · intro k r' hk
    rcases eq_or_ne r' r with rfl | hne
    · rw [Tables.modifySocket_self]
      apply hopening (ht.byKey_opened k r' hk)
    · rw [Tables.modifySocket_of_ne hne]
      apply ht.byKey_opened k r' hk

/-- Only what was constructed has operations to complete. -/
theorem Tables.WellFormed.lt_opens_of_complete {t : Tables} (ht : t.WellFormed) {r : ℕ}
    {c : Websocket.Completion} {result : Websocket × List Websocket.Callback}
    (h : (t.sockets r).complete c = some result) :
  r < t.opens
  := by
  by_contra hr
  rw [ht.blank r (by omega)] at h
  cases c with
  | resumed | read | write | close => cases h

/-- Entering an opened connection with clients keeps tables well formed. -/
theorem Tables.WellFormed.enter {t : Tables} (ht : t.WellFormed) {r : ℕ} (hr : r < t.opens)
    (hopening : (t.sockets r).opening = none) (hclients : (t.sockets r).clients.Nonempty)
    {id : UInt64} (hid : (t.sockets r).id = id) (k : WebsocketKey) :
  Tables.WellFormed { t with
    websocketsByUrlApiKey := t.websocketsByUrlApiKey.emplace k r
    websocketsById := t.websocketsById.emplace id r }
  := by
  have hbyId : ∀ {id' r'}, (t.websocketsById.emplace id r).lookup id' = some r' →
      (r' = r ∧ id' = id) ∨ t.websocketsById.lookup id' = some r' := by
    intro id' r' h
    rw [UnorderedMap.lookup_emplace_eq] at h
    split at h
    case isTrue hnew =>
      left
      use (Option.some.inj h).symm, hnew.1
    case isFalse =>
      right
      exact h
  have hbyKey : ∀ {k' r'}, (t.websocketsByUrlApiKey.emplace k r).lookup k' = some r' →
      r' = r ∨ t.websocketsByUrlApiKey.lookup k' = some r' := by
    intro k' r' h
    rw [UnorderedMap.lookup_emplace_eq] at h
    split at h
    case isTrue =>
      left
      exact (Option.some.inj h).symm
    case isFalse =>
      right
      exact h
  constructor
  · apply ht.blank
  · intro id' r' h
    rcases hbyId h with ⟨rfl, rfl⟩ | h
    · exact hid
    · apply ht.byId id' r' h
  · rintro r' ⟨id', h⟩
    rcases hbyId h with ⟨rfl, -⟩ | h
    · exact hr
    · exact ht.lt_opens r' ⟨id', h⟩
  · rintro r' ⟨id', h⟩
    rcases hbyId h with ⟨rfl, -⟩ | h
    · exact hopening
    · exact ht.opened r' ⟨id', h⟩
  · rintro r' ⟨id', h⟩
    rcases hbyId h with ⟨rfl, -⟩ | h
    · exact hclients
    · exact ht.nonempty r' ⟨id', h⟩
  · intro k' r' h
    rcases hbyKey h with rfl | h
    · exact hr
    · apply ht.byKey_lt_opens k' r' h
  · intro k' r' h
    rcases hbyKey h with rfl | h
    · exact hopening
    · apply ht.byKey_opened k' r' h

/-- Sending does not change more than the buffer, the writes and what was transmitted. -/
theorem foldl_send_frame (buffers : List Bytes) :
  ∀ ws : Websocket, buffers.foldl Websocket.send ws = { ws with
    wBuffer := (buffers.foldl Websocket.send ws).wBuffer
    writes := (buffers.foldl Websocket.send ws).writes
    transport := (buffers.foldl Websocket.send ws).transport }
  := by
  induction buffers with
  | nil =>
      intro ws
      rfl
  | cons buffer buffers ih =>
      intro ws
      rw [List.foldl_cons, ih]
      rfl

namespace WebsocketProxy

/-- A connection is opened for the `OpenWs` message of a registered client, if none that the
client can be attached to is found by url and key. -/
theorem opensNew_message {px : WebsocketProxy} {m : Message} {req : WsOpen} :
  px.opensNew (.processClientMessage (some m)) = some req ↔ m.data = .openWs req ∧
    m.pid ∈ px.clients ∧ ∀ r ∈ px.websocketsByUrlApiKey.lookup req.key, (px.sockets r).Closing
  := by
  obtain ⟨pid, data, status⟩ := m
  rcases em (pid ∈ px.clients) with hpid | hpid
  · cases data with
    | openWs req' =>
        simp only [opensNew, received, hpid, if_true, Message.Data.openWs.injEq, true_and]
        split
        case isTrue h =>
          rw [Option.some.injEq]
          constructor
          · rintro rfl
            use rfl
          · apply And.left
        case isFalse h =>
          constructor
          · rintro ⟨⟩
          · rintro ⟨rfl, h'⟩
            exact absurd h' h
    | _ => simp [opensNew, received, hpid]
  · simp [opensNew, received, hpid]

theorem opensNew_eq_some {px : WebsocketProxy} {ev : Event} {req : WsOpen}
    (h : px.opensNew ev = some req) :
  (∃ m, ev = .processClientMessage (some m)) ∧
    ∀ r, px.websocketsByUrlApiKey.lookup req.key = some r → (px.sockets r).Closing
  := by
  cases ev with
  | processClientMessage msg =>
      cases msg with
      | some m => exact ⟨⟨m, rfl⟩, (opensNew_message.mp h).2.2⟩
      | none => cases h
  | _ => cases h

theorem entering_eq_some {px : WebsocketProxy} {ev : Event} {r msg : ℕ}
    (h : px.entering ev = some (r, msg)) :
  (∃ port, ev = .complete r (.resumed (.success port))) ∧
    (px.sockets r).opening = some (.handshake, msg)
  := by
  unfold entering at h
  split at h
  case h_1 r' port =>
    split at h
    case h_1 msg' hopening =>
      obtain ⟨rfl, rfl⟩ := Prod.mk.inj (Option.some.inj h)
      use ⟨port, rfl⟩
    case h_2 => cases h
  case h_2 => cases h

/-- What enters a connection is the end of its `open`. -/
theorem entering_complete {px : WebsocketProxy} {r r' msg : ℕ} {c : Websocket.Completion}
    (h : px.entering (.complete r c) = some (r', msg)) :
  ∃ port, c = .resumed (.success port) ∧ (px.sockets r).opening = some (.handshake, msg)
  := by
  obtain ⟨⟨port, hev⟩, hopening⟩ := entering_eq_some h
  obtain ⟨rfl, rfl⟩ := Event.complete.inj hev
  use port

/-- Changes keep the tables well formed. -/
theorem Change.wellFormed {px : WebsocketProxy} {ev : Event} {t : Tables} (h : Change px ev t)
    (hwf : px.WellFormed) :
  t.WellFormed
  := by
  cases h with
  | quiet hclients hbyId hbyKey =>
      have hstored : ∀ r, Tables.Stored { px.toTables with websocketsById := _ } r → px.Stored r :=
        fun r ⟨id, hid⟩ => ⟨id, (hbyId id).symm.trans hid⟩
      constructor
      · apply hwf.blank
      · intro id r hid
        apply hwf.byId id r ((hbyId id).symm.trans hid)
      · exact fun r hr => hwf.lt_opens r (hstored r hr)
      · exact fun r hr => hwf.opened r (hstored r hr)
      · exact fun r hr => hwf.nonempty r (hstored r hr)
      · exact fun k r hk => hwf.byKey_lt_opens k r ((hbyKey k).symm.trans hk)
      · exact fun k r hk => hwf.byKey_opened k r ((hbyKey k).symm.trans hk)
  | register => apply hwf.withClients
  | depart h => apply h.wellFormed hwf
  | @attach clients pid k r hclients hpid hkey hlive =>
      apply Tables.WellFormed.withClients
      apply hwf.modifySocket (hwf.byKey_lt_opens k r hkey) rfl id
      intro _
      apply Finset.insert_nonempty
  | @create clients req ws hclients hreq hnew =>
      have hne : ∀ r, r < px.opens → Function.update px.sockets px.opens ws r = px.sockets r :=
        fun r hr => Function.update_of_ne (Nat.ne_of_lt hr) ..
      constructor
      · intro r hr
        have hr : px.opens + 1 ≤ r := hr
        have hsame : Function.update px.sockets px.opens ws r = px.sockets r :=
          Function.update_of_ne (by omega) ..
        exact hsame.trans (hwf.blank r (by omega))
      · intro id r hid
        have hid : px.websocketsById.lookup id = some r := hid
        exact (congrArg Websocket.id (hne r (hwf.lt_opens r ⟨id, hid⟩))).trans (hwf.byId id r hid)
      · intro r hr
        apply Nat.lt_succ_of_lt (hwf.lt_opens r hr)
      · intro r hr
        exact (congrArg Websocket.opening (hne r (hwf.lt_opens r hr))).trans (hwf.opened r hr)
      · intro r hr
        have hsame := congrArg Websocket.clients (hne r (hwf.lt_opens r hr))
        exact hsame.symm ▸ hwf.nonempty r hr
      · intro k r hk
        apply Nat.lt_succ_of_lt (hwf.byKey_lt_opens k r hk)
      · intro k r hk
        exact (congrArg Websocket.opening (hne r (hwf.byKey_lt_opens k r hk))).trans
          (hwf.byKey_opened k r hk)
  | throw =>
      constructor
      · intro r hr
        have hr : px.opens + 1 ≤ r := hr
        exact hwf.blank r (by omega)
      · apply hwf.byId
      · exact fun r hr => Nat.lt_succ_of_lt (hwf.lt_opens r hr)
      · apply hwf.opened
      · apply hwf.nonempty
      · exact fun k r hk => Nat.lt_succ_of_lt (hwf.byKey_lt_opens k r hk)
      · apply hwf.byKey_opened
  | @request clients r subscriptions buffers hclients hr hsub =>
      apply Tables.WellFormed.withClients
      apply hwf.modifySocket (hwf.lt_opens r hr)
      · rw [foldl_send_frame]
      · intro h
        rw [foldl_send_frame]
        exact h
      · intro h
        rw [foldl_send_frame]
        exact h
  | @complete r c ws calls hev hcomplete hentering hdone =>
      have hspec := Websocket.complete_spec hcomplete
      apply hwf.modifySocket (hwf.lt_opens_of_complete hcomplete) hspec.id
      · apply hspec.opened
      · rw [hspec.clients]
        apply id
  | @enter r c ws calls msg hev hcomplete hentering =>
      have hspec := Websocket.complete_spec hcomplete
      have hr := hwf.lt_opens_of_complete hcomplete
      have hwf₁ : (px.modifySocket r (fun _ =>
          { ws with clients := insert (px.slots msg).pid ws.clients })).WellFormed := by
        apply hwf.modifySocket hr hspec.id hspec.opened
        intro _
        apply Finset.insert_nonempty
      obtain ⟨port, rfl, hopening⟩ := entering_complete (hev ▸ hentering)
      apply hwf₁.enter hr
      · rw [Tables.modifySocket_self]
        apply congrArg Websocket.opening (Websocket.complete_handshake hopening hcomplete).1
      · rw [Tables.modifySocket_self]
        apply Finset.insert_nonempty
      · rw [Tables.modifySocket_self]
  | @closed r c ws calls hev hcomplete hentering hstatus hdone =>
      have hspec := Websocket.complete_spec hcomplete
      have hwf₁ : (px.modifySocket r (fun _ => ws)).WellFormed := by
        apply hwf.modifySocket (hwf.lt_opens_of_complete hcomplete) hspec.id
        · apply hspec.opened
        · rw [hspec.clients]
          apply id
      exact ⟨hwf₁.blank, hwf₁.byId, hwf₁.lt_opens, hwf₁.opened, hwf₁.nonempty,
        hwf₁.byKey_lt_opens, hwf₁.byKey_opened⟩
  | closeAll hev h => apply h.wellFormed hwf

end WebsocketProxy
