import WebsocketProxy.Server.Subscriptions

/-!
# The requests that are forwarded

A request of a client reaches the remote server in one message of the transport, which takes
with it whatever the buffer of the connection still holds. `Conveyed requests ws` says how the
messages of a connection are made up of the requests that were forwarded at it; each step of
the server keeps it (`step_sends`, `Conveyed.step`).
-/

namespace Websocket

/-! ### One connection -/

/-- The connection `ws'` is `ws` after the requests, of which there is at most one, were
forwarded: a request goes out with what is in the buffer. -/
inductive Sends (ws ws' : Websocket) : List Bytes → Prop
  | nothing (htransport : ws'.transport = ws.transport) (hbuffer : ws'.wBuffer <:+ ws.wBuffer) :
      Sends ws ws' []
  | request {q} (htransport : ws'.transport = ws.transport ++ [ws.wBuffer ++ q])
      (hbuffer : ws'.wBuffer = ws.wBuffer ++ q) :
      Sends ws ws' [q]

/-- The bytes that wait to be sent, and the messages, stay. -/
theorem sends_of_eq {ws ws' : Websocket} (htransport : ws'.transport = ws.transport)
    (hbuffer : ws'.wBuffer = ws.wBuffer) :
  ws.Sends ws' []
  := .nothing htransport (hbuffer ▸ List.suffix_rfl)

theorem sends_close (ws : Websocket) :
  ws.Sends ws.close []
  := by
  apply sends_of_eq
  · rw [close_frame]
  · rw [close_frame]

theorem sends_leave (ws : Websocket) (dep : Finset UInt64) :
  ws.Sends (ws.leave dep) []
  := by
  apply sends_of_eq
  · rw [leave_frame]
  · rw [leave_frame]

theorem sends_send (ws : Websocket) (q : Bytes) :
  ws.Sends (ws.send q) [q]
  := .request rfl rfl

theorem Fresh.sends {ws : Websocket} {id : UInt64} {url apiKey : Bytes} {msg : ℕ}
    (h : Fresh ws id url apiKey msg) :
  blank.Sends ws []
  := sends_of_eq h.transport h.wBuffer

@[simp]
theorem fail_wBuffer (ws : Websocket) (ec : ErrorCode) (callback : Option ℕ)
    (closeConnection : Bool) :
  (ws.fail ec callback closeConnection).1.wBuffer = ws.wBuffer
  := by
  unfold fail
  dsimp only
  split
  · rw [close_frame]
  · rfl

/-- A completion takes bytes from the front of the buffer at most. -/
theorem complete_wBuffer {ws ws' : Websocket} {c : Completion} {calls : List Callback}
    (h : ws.complete c = some (ws', calls)) :
  ws'.wBuffer <:+ ws.wBuffer
  := by
  cases c with
  | resumed result =>
      obtain ⟨⟨stage, msg⟩, -, hresume⟩ := Option.bind_eq_some_iff.mp h
      suffices hsame : ws'.wBuffer = ws.wBuffer from hsame ▸ List.suffix_rfl
      simp only [openResume] at hresume
      split at hresume
      case h_6 | h_8 => cases hresume
      case h_7 | h_9 =>
        obtain rfl := congrArg Prod.fst (Option.some.inj hresume)
        apply fail_wBuffer
      all_goals
        obtain ⟨rfl, -⟩ := Prod.mk.inj (Option.some.inj hresume)
        rfl
  | read result =>
      suffices hsame : ws'.wBuffer = ws.wBuffer from hsame ▸ List.suffix_rfl
      simp only [complete] at h
      split at h
      case isFalse => cases h
      case isTrue =>
        obtain rfl := congrArg Prod.fst (Option.some.inj h)
        cases result with
        | error ec =>
            dsimp only [onRead]
            split
            · apply fail_wBuffer
            · rfl
        | ok data =>
            dsimp only [onRead]
            split
            · rfl
            · rfl
  | write i ec =>
      obtain ⟨n, -, hwrite⟩ := Option.map_eq_some_iff.mp h
      obtain rfl := congrArg Prod.fst hwrite
      cases ec with
      | none => apply List.drop_suffix
      | some ec =>
          dsimp only [onWrite]
          split
          · rw [fail_wBuffer]
          · exact List.suffix_rfl
  | close ec =>
      suffices hsame : ws'.wBuffer = ws.wBuffer from hsame ▸ List.suffix_rfl
      simp only [complete] at h
      split at h
      case isFalse => cases h
      case isTrue =>
        obtain rfl := congrArg Prod.fst (Option.some.inj h)
        cases ec with
        | none => rfl
        | some ec =>
            dsimp only [onClose]
            split
            · apply fail_wBuffer
            · rfl

theorem complete_sends {ws ws' : Websocket} {c : Completion} {calls : List Callback}
    (h : ws.complete c = some (ws', calls)) :
  ws.Sends ws' []
  := by
  apply Sends.nothing
  · exact (complete_spec h).transport
  · apply complete_wBuffer h

/-- A subscription is forwarded when it is the first for its symbol, or asks for more. -/
theorem subscribe_sends (ws : Websocket) (pid : UInt64) (req : WsSubscription) :
  ws.Sends (ws.subscribe pid req)
    (if (SymbolRequest.subscribe pid req.type).apply
      (ws.subscriptions.lookup (Message.symbolView req)) |>.2 then [req.request] else [])
  := by
  cases hlookup : ws.subscriptions.lookup (Message.symbolView req) with
  | none =>
      simp only [subscribe, hlookup]
      exact .request rfl rfl
  | some sub =>
      rcases em (sub.type &&& req.type = 0) with hnew | hold
      · simp only [subscribe, hlookup, SymbolRequest.apply, if_pos hnew]
        exact .request rfl rfl
      · simp only [subscribe, hlookup, SymbolRequest.apply, if_neg hold]
        exact sends_of_eq rfl rfl

/-- The end of a subscription is forwarded when no client is left in it. -/
theorem unsubscribe_sends (ws : Websocket) (pid : UInt64) (req : WsSubscription) :
  ws.Sends (ws.unsubscribe pid req)
    (if (SymbolRequest.unsubscribe pid).apply
      (ws.subscriptions.lookup (Message.symbolView req)) |>.2 then [req.request] else [])
  := by
  cases hlookup : ws.subscriptions.lookup (Message.symbolView req) with
  | none =>
      simp only [unsubscribe, hlookup]
      exact sends_of_eq rfl rfl
  | some sub =>
      rcases em (sub.clients.erase pid = ∅) with hlast | hstay
      · simp only [unsubscribe, hlookup, SymbolRequest.apply, if_pos hlast]
        exact .request rfl rfl
      · simp only [unsubscribe, hlookup, SymbolRequest.apply, if_neg hstay]
        exact sends_of_eq rfl rfl

/-- The messages of a connection are made up of the requests: there is one for each, which ends
with its request, and before it are bytes of the requests just before. -/
structure Conveyed (requests : List Bytes) (ws : Websocket) : Prop where
  length : ws.transport.length = requests.length
  own : ∀ (k : ℕ) (q m : Bytes), requests[k]? = some q → ws.transport[k]? = some m → q <:+ m
  earlier : ∀ (k : ℕ) (m : Bytes), ws.transport[k]? = some m →
    m <:+ (requests.take (k + 1)).flatten
  buffer : ws.wBuffer <:+ requests.flatten

theorem conveyed_blank :
  Conveyed [] blank
  := by
  constructor
  · rfl
  · rintro k q m ⟨⟩
  · rintro k m ⟨⟩
  · exact List.suffix_rfl

theorem Conveyed.step {requests qs : List Bytes} {ws ws' : Websocket} (h : ws.Conveyed requests)
    (hsends : ws.Sends ws' qs) :
  ws'.Conveyed (requests ++ qs)
  := by
  cases hsends with
  | nothing htransport hbuffer =>
      rw [List.append_nil]
      constructor
      · rw [htransport, h.length]
      · rw [htransport]
        apply h.own
      · rw [htransport]
        apply h.earlier
      · apply hbuffer.trans h.buffer
  | @request q htransport hbuffer =>
      have hall : ws.wBuffer ++ q <:+ (requests ++ [q]).flatten := by
        rw [List.flatten_concat]
        obtain ⟨front, hfront⟩ := h.buffer
        exact ⟨front, by rw [← hfront, List.append_assoc]⟩
      constructor
      · rw [htransport, List.length_append, List.length_append, h.length]
        rfl
      · intro k q' m hq hm
        rw [htransport] at hm
        rcases lt_trichotomy k requests.length with hk | rfl | hk
        · rw [List.getElem?_append_left hk] at hq
          rw [List.getElem?_append_left (h.length ▸ hk)] at hm
          apply h.own k q' m hq hm
        · rw [List.getElem?_concat_length] at hq
          rw [← h.length, List.getElem?_concat_length] at hm
          obtain rfl := Option.some.inj hq
          obtain rfl := Option.some.inj hm
          apply List.suffix_append
        · rw [List.getElem?_eq_none (List.length_append ▸ hk)] at hq
          cases hq
      · intro k m hm
        rw [htransport] at hm
        rcases lt_trichotomy k ws.transport.length with hk | rfl | hk
        · rw [List.getElem?_append_left hk] at hm
          rw [List.take_append_of_le_length (h.length ▸ hk)]
          apply h.earlier k m hm
        · rw [List.getElem?_concat_length] at hm
          obtain rfl := Option.some.inj hm
          rw [List.take_of_length_le (by simp [h.length])]
          exact hall
        · rw [List.getElem?_eq_none (List.length_append ▸ hk)] at hm
          cases hm
      · rw [hbuffer]
        exact hall

end Websocket

namespace Message

/-- The bytes a message asks to be forwarded, if it is a request for a connection. -/
def forwarding (m : Message) : Option Bytes :=
  match m.data with
  | .wsRequest req => some req.data
  | .subscribe req => some req.request
  | .unsubscribe req => some req.request
  | _ => none

end Message

namespace WebsocketProxy

/-! ### The steps -/

/-- The request a step forwards at the connection at `r`: one of a registered client, for the
connection found by the id, and of those about a subscription, one that `apply` passes on. -/
def forwarded (r : ℕ) (px : WebsocketProxy) (ev : Event) (_ : WebsocketProxy) : List Bytes :=
  match px.received ev with
  | some (_, .wsRequest req) =>
      if px.websocketsById.lookup req.id = some r then [req.data] else []
  | some (pid, .subscribe req) =>
      if px.websocketsById.lookup req.id = some r ∧
          ((SymbolRequest.subscribe pid req.type).apply
            (px.subscriptionOf r (Message.symbolView req))).2 then
        [req.request]
      else []
  | some (pid, .unsubscribe req) =>
      if px.websocketsById.lookup req.id = some r ∧
          ((SymbolRequest.unsubscribe pid).apply
            (px.subscriptionOf r (Message.symbolView req))).2 then
        [req.request]
      else []
  | _ => []

/-- No connection forwards anything. -/
def Silent (px px' : WebsocketProxy) : Prop :=
  ∀ r, (px.sockets r).Sends (px'.sockets r) []

theorem silent_of_sockets {px px' : WebsocketProxy} (h : px'.sockets = px.sockets) :
  px.Silent px'
  := by
  intro r
  rw [h]
  exact Websocket.sends_of_eq rfl rfl

theorem silent_of_departs {px px' : WebsocketProxy} {dep : ℕ → Finset UInt64}
    (h : px.Departs px'.toTables dep) :
  px.Silent px'
  := by
  intro r
  rcases em (px.Stored r) with hr | hr
  · rw [h.stored r hr]
    apply Websocket.sends_leave
  · rw [h.unstored r hr]
    exact Websocket.sends_of_eq rfl rfl

/-- What is sent at one connection when only that connection changes. -/
theorem sends_of_modifySocket {px px' : WebsocketProxy} {r₀ : ℕ} {f : Websocket → Websocket}
    {qs : List Bytes} (h : px'.sockets = (px.modifySocket r₀ f).sockets)
    (hf : (px.sockets r₀).Sends (f (px.sockets r₀)) qs) (r : ℕ) :
  (px.sockets r).Sends (px'.sockets r) (if r₀ = r then qs else [])
  := by
  rw [h]
  rcases eq_or_ne r₀ r with rfl | hne
  · rw [if_pos rfl, Tables.modifySocket_self]
    apply hf
  · rw [if_neg hne, Tables.modifySocket_of_ne hne.symm]
    exact Websocket.sends_of_eq rfl rfl

theorem silent_of_modifySocket {px px' : WebsocketProxy} {r : ℕ} {f : Websocket → Websocket}
    (h : px'.sockets = (px.modifySocket r f).sockets)
    (hf : (px.sockets r).Sends (f (px.sockets r)) []) :
  px.Silent px'
  := by
  intro r'
  have hsends := sends_of_modifySocket h hf r'
  rw [ite_self] at hsends
  apply hsends

/-- What is sent at a connection by a message for the connection that is found by an id. -/
theorem sends_of_found {px px' : WebsocketProxy} {id : UInt64} {f : Websocket → Websocket}
    {qs : Websocket → List Bytes}
    (hsockets : px'.sockets = match px.websocketsById.lookup id with
      | some r => (px.modifySocket r f).sockets
      | none => px.sockets)
    (hf : ∀ ws : Websocket, ws.Sends (f ws) (qs ws)) (r : ℕ) :
  (px.sockets r).Sends (px'.sockets r)
    (if px.websocketsById.lookup id = some r then qs (px.sockets r) else [])
  := by
  cases hid : px.websocketsById.lookup id with
  | none =>
      rw [hid] at hsockets
      rw [if_neg (by rintro ⟨⟩)]
      apply silent_of_sockets hsockets
  | some r₀ =>
      rw [hid] at hsockets
      have hsends := sends_of_modifySocket hsockets (hf _) r
      rcases eq_or_ne r₀ r with rfl | hne
      · rw [if_pos rfl] at hsends ⊢
        apply hsends
      · rw [if_neg hne] at hsends
        rw [if_neg (fun h => hne (Option.some.inj h))]
        apply hsends

/-- A connection is constructed with an empty buffer, where there was none. -/
theorem openNewWs_silent {px : WebsocketProxy} (hwf : px.WellFormed) (msg : ℕ) (req : WsOpen) :
  px.Silent (px.openNewWs msg req).1
  := by
  simp only [openNewWs]
  split
  case h_1 => exact silent_of_sockets rfl
  case h_2 ws hnew =>
    intro r
    change (px.sockets r).Sends (Function.update px.sockets px.opens ws r) []
    rcases eq_or_ne r px.opens with rfl | hne
    · rw [Function.update_self, hwf.blank px.opens (Nat.le_refl _)]
      apply (Websocket.new_fresh hnew).sends
    · rw [Function.update_of_ne hne]
      exact Websocket.sends_of_eq rfl rfl

theorem openWs_silent {px : WebsocketProxy} (hwf : px.WellFormed) (m : Message) (req : WsOpen) :
  px.Silent ((px.taking m).openWs px.taken req).1
  := by
  rcases getClient_taking_cases px m with ⟨-, clients, -, hget⟩ | ⟨-, hget⟩
  · simp only [openWs, slots_taking, hget, if_true]
    have hwf' : ((px.taking m).refreshed clients).WellFormed := hwf.withClients clients
    have hnew : px.Silent (((px.taking m).refreshed clients).openNewWs px.taken req).1 :=
      openNewWs_silent hwf' px.taken req
    split
    case h_1 r _ =>
      split
      case isTrue =>
        apply silent_of_modifySocket (r := r)
          (f := fun ws => { ws with clients := insert m.pid ws.clients })
        · rfl
        · exact Websocket.sends_of_eq rfl rfl
      case isFalse => exact hnew
    case h_2 => exact hnew
  · simp only [openWs, slots_taking, hget]
    exact silent_of_sockets rfl

/-- Messages that are no requests forward nothing. -/
theorem handleClientMessage_silent {px : WebsocketProxy} (hwf : px.WellFormed) {m : Message}
    (hm : m.forwarding = none) :
  px.Silent ((px.taking m).handleClientMessage px.taken).1
  := by
  rw [handleClientMessage, slots_taking]
  split
  case h_1 => exact silent_of_sockets rfl
  case h_2 =>
    unfold unregisterClient
    split
    case isTrue =>
      have hdeparts : px.Departs ((px.taking m).unregisterClientAt m.pid).toTables _ :=
        (unregisterClientAt_unregisters (px.taking m) hwf m.pid).departs
      apply silent_of_departs hdeparts
    case isFalse => exact silent_of_sockets rfl
  case h_3 =>
    rw [handleClientHeartbeat, slots_taking]
    rcases getClient_taking_cases px m with ⟨-, clients, -, hget⟩ | ⟨-, hget⟩
    · rw [hget]
      exact silent_of_sockets rfl
    · rw [hget]
      exact silent_of_sockets rfl
  case h_4 req _ => exact openWs_silent hwf m req
  case h_5 req _ =>
    rcases getClient_taking_cases px m with ⟨-, clients, -, hget⟩ | ⟨-, hget⟩
    · simp only [closeWs, slots_taking, hget, if_true]
      have hdeparts := Tables.closeWs_departs (hwf.withClients clients) req.id m.pid
      apply silent_of_departs
      apply hdeparts.ofClients
    · simp only [closeWs, slots_taking, hget]
      exact silent_of_sockets rfl
  case h_6 hdata | h_7 hdata | h_8 hdata =>
    rw [Message.forwarding, hdata] at hm
    cases hm
  all_goals exact silent_of_sockets rfl

/-- `sendWsRequest` sends at the connection that is found, for a registered sender. -/
theorem sendWsRequest_sockets (px : WebsocketProxy) (m : Message) (req : WsRequest) :
  ((px.taking m).sendWsRequest px.taken req).sockets
    = if m.pid ∈ px.clients then
        match px.websocketsById.lookup req.id with
        | some r => (px.modifySocket r fun ws => ws.send req.data).sockets
        | none => px.sockets
      else px.sockets
  := by
  rcases getClient_taking_cases px m with ⟨hpid, clients, -, hget⟩ | ⟨hpid, hget⟩
  · rw [if_pos hpid]
    cases hid : px.websocketsById.lookup req.id with
    | none =>
        have hid' : ((px.taking m).refreshed clients).websocketsById.lookup req.id = none := hid
        simp only [sendWsRequest, slots_taking, hget, if_true, hid']
        rfl
    | some r =>
        have hid' : ((px.taking m).refreshed clients).websocketsById.lookup req.id = some r := hid
        simp only [sendWsRequest, slots_taking, hget, if_true, hid']
        rfl
  · rw [if_neg hpid]
    simp only [sendWsRequest, slots_taking, hget]
    rfl

/-- A message of a client that is not registered forwards nothing. -/
theorem handleClientMessage_sockets_of_not_mem {px : WebsocketProxy} {m : Message} {q : Bytes}
    (hpid : m.pid ∉ px.clients) (hm : m.forwarding = some q) :
  ((px.taking m).handleClientMessage px.taken).1.sockets = px.sockets
  := by
  rw [handleClientMessage, slots_taking]
  cases hdata : m.data with
  | wsRequest req =>
      dsimp only
      rw [sendWsRequest_sockets, if_neg hpid]
  | subscribe req =>
      dsimp only
      rw [handleSubscribe_sockets, if_neg hpid]
  | unsubscribe req =>
      dsimp only
      rw [handleUnsubscribe_sockets, if_neg hpid]
  | _ =>
      rw [Message.forwarding, hdata] at hm
      cases hm

/-- The handling of a message sends what is forwarded. -/
theorem message_sends {px px' : WebsocketProxy} {m : Message} (hwf : px.WellFormed)
    (h : px.step (.processClientMessage (some m)) = some px') (r : ℕ) :
  (px.sockets r).Sends (px'.sockets r) (px.forwarded r (.processClientMessage (some m)) px')
  := by
  obtain ⟨-, -, hsockets⟩ := message_handled h
  rcases em (m.pid ∈ px.clients) with hpid | hpid
  · have hreceived : px.received (.processClientMessage (some m)) = some (m.pid, m.data) :=
      received_of_mem hpid rfl
    rw [forwarded, hreceived]
    cases hdata : m.data with
    | wsRequest req =>
        rw [handleClientMessage, slots_taking, hdata] at hsockets
        dsimp only at hsockets ⊢
        rw [sendWsRequest_sockets, if_pos hpid] at hsockets
        exact sends_of_found hsockets (fun ws => ws.sends_send req.data) r
    | subscribe req =>
        rw [handleClientMessage, slots_taking, hdata] at hsockets
        dsimp only at hsockets ⊢
        rw [handleSubscribe_sockets, if_pos hpid] at hsockets
        rw [ite_and]
        exact sends_of_found hsockets (fun ws => ws.subscribe_sends m.pid req) r
    | unsubscribe req =>
        rw [handleClientMessage, slots_taking, hdata] at hsockets
        dsimp only at hsockets ⊢
        rw [handleUnsubscribe_sockets, if_pos hpid] at hsockets
        rw [ite_and]
        exact sends_of_found hsockets (fun ws => ws.unsubscribe_sends m.pid req) r
    | _ =>
        rw [hsockets]
        apply handleClientMessage_silent hwf (by rw [Message.forwarding, hdata])
  · have hreceived : px.received (.processClientMessage (some m)) = none := if_neg hpid
    rw [forwarded, hreceived, hsockets]
    cases hm : m.forwarding with
    | none => apply handleClientMessage_silent hwf hm
    | some q =>
        rw [handleClientMessage_sockets_of_not_mem hpid hm]
        exact Websocket.sends_of_eq rfl rfl

/-- A step sends at each connection what it forwards there. -/
theorem step_sends {px px' : WebsocketProxy} {ev : Event} (hwf : px.WellFormed)
    (h : px.step ev = some px') (r : ℕ) :
  (px.sockets r).Sends (px'.sockets r) (px.forwarded r ev px')
  := by
  have hheartbeat : ev = .startHeartbeat → px.Silent px' := by
    rintro rfl
    exact silent_of_departs (startHeartbeat_unregisters hwf (runHandler_of_step h)).departs
  cases ran_of_step h with
  | handled | threw => exact message_sends hwf h r
  | noMessage =>
      apply silent_of_sockets
      rw [processNext_toTables]
      exact Tables.removeClosedSockets_sockets px.toTables
  | announce | startHeartbeat => exact hheartbeat rfl r
  | @complete r₀ c ws calls hcomplete =>
      obtain ⟨clients, hsocket⟩ := foldl_callback_sockets r₀ r calls
        { px with toTables := px.modifySocket r₀ (fun _ => ws) }
      rw [perform, hsocket]
      have hsilent : px.Silent { px with toTables := px.modifySocket r₀ fun _ => ws } :=
        silent_of_modifySocket rfl (Websocket.complete_sends hcomplete)
      cases hsilent r with
      | nothing htransport hbuffer => exact .nothing htransport hbuffer
  | shutdownClosure =>
      have hcloses := Tables.closeAll_closesAll px.toTables
      rw [shutdownClosure_toTables h]
      rcases em (px.Stored r) with hr | hr
      · rw [hcloses.stored r hr]
        apply Websocket.sends_close
      · rw [hcloses.unstored r hr]
        exact Websocket.sends_of_eq rfl rfl
  | signal | stopClosure | timerHandler | slotReused | rehash =>
      exact Websocket.sends_of_eq rfl rfl

theorem forwarding_taken {m : Message} {q : Bytes} (hm : m.forwarding = some q) :
  (Event.processClientMessage (some m)).taken.toList.filterMap Message.forwarding = [q]
  := by simp [Event.taken, hm]

/-- What a step forwards is what the message it takes asks for. -/
theorem forwarded_sublist (px px' : WebsocketProxy) (ev : Event) (r : ℕ) :
  (px.forwarded r ev px').Sublist (ev.taken.toList.filterMap Message.forwarding)
  := by
  cases hreceived : px.received ev with
  | none =>
      rw [forwarded, hreceived]
      apply List.nil_sublist
  | some p =>
      obtain ⟨pid, data⟩ := p
      rw [forwarded, hreceived]
      obtain ⟨-, m, rfl, -, rfl⟩ := received_eq_some hreceived
      cases hdata : m.data with
      | wsRequest req =>
          have hm : m.forwarding = some req.data := by rw [Message.forwarding, hdata]
          rw [forwarding_taken hm]
          dsimp only
          split
          · apply List.Sublist.refl
          · apply List.nil_sublist
      | subscribe req | unsubscribe req =>
          have hm : m.forwarding = some req.request := by rw [Message.forwarding, hdata]
          rw [forwarding_taken hm]
          dsimp only
          split
          · apply List.Sublist.refl
          · apply List.nil_sublist
      | _ => apply List.nil_sublist

/-! ### The runs -/

/-- The messages made of what is forwarded at the connection at `r`: what is still in its buffer
goes out first. -/
def transmitted (r : ℕ) (px : WebsocketProxy) (ev : Event) (px' : WebsocketProxy) : List Bytes :=
  (px.forwarded r ev px').map ((px.sockets r).wBuffer ++ ·)

/-- What is forwarded at the connection at `r` finds its buffer empty. -/
def Unbuffered (r : ℕ) (px : WebsocketProxy) (ev : Event) : Prop :=
  px.forwarded r ev px ≠ [] → (px.sockets r).wBuffer = []

/-- When the messages are the requests, every request found the buffer empty: the message of a
request is the request only then. -/
theorem unbuffered_of_transport {pid : UInt64} {clock : ℕ → UInt64} {es : List Event}
    {px : WebsocketProxy} (h : system.Run (start pid clock) es px) {r : ℕ}
    (htransport : (px.sockets r).transport = system.outputs (forwarded r) (start pid clock) es) :
  system.RunUnder (Unbuffered r) (start pid clock) es px
  := by
  induction h with
  | nil => apply TransitionSystem.RunUnder.nil
  | @snoc es px ev px' hrun _ hstep ih =>
      have hwf := reachable_wellFormed ⟨_, _, ⟨pid, clock, rfl⟩, hrun⟩
      have hsends := step_sends hwf hstep r
      rw [hrun.outputs_snoc hstep] at htransport
      generalize hqs : px.forwarded r ev px' = qs at hsends htransport
      cases hsends with
      | nothing hsame hbuffer =>
          rw [hsame, List.append_nil] at htransport
          apply (ih htransport).snoc _ hstep
          intro hsome
          exact absurd hqs hsome
      | @request q hmore hbuffer =>
          rw [hmore] at htransport
          have hsplit := List.append_inj' htransport rfl
          apply (ih hsplit.1).snoc _ hstep
          intro _
          have hmessage : (px.sockets r).wBuffer ++ q = q := List.head_eq_of_cons_eq hsplit.2
          apply List.append_left_eq_self.mp hmessage

/-- When every request finds the buffer empty, the messages are the requests. -/
theorem transport_of_unbuffered {pid : UInt64} {clock : ℕ → UInt64} {es : List Event}
    {px : WebsocketProxy} {r : ℕ} (h : system.RunUnder (Unbuffered r) (start pid clock) es px) :
  (px.sockets r).transport = system.outputs (forwarded r) (start pid clock) es
  := by
  induction h with
  | nil => rfl
  | @snoc es px ev px' hrun hempty hstep ih =>
      have hwf := reachable_wellFormed ⟨_, _, ⟨pid, clock, rfl⟩, hrun⟩
      have hsends := step_sends hwf hstep r
      rw [hrun.outputs_snoc hstep, ← ih]
      generalize hqs : px.forwarded r ev px' = qs at hsends
      cases hsends with
      | nothing hsame hbuffer => rw [hsame, List.append_nil]
      | @request q hmore hbuffer =>
          have hsome : px.forwarded r ev px ≠ [] := by
            change px.forwarded r ev px' ≠ []
            rw [hqs]
            apply List.cons_ne_nil
          rw [hmore, hempty hsome, List.nil_append]

theorem run_transmitted {pid : UInt64} {clock : ℕ → UInt64} {es : List Event}
    {px : WebsocketProxy} (h : system.Run (start pid clock) es px) (r : ℕ) :
  (px.sockets r).transport = system.outputs (transmitted r) (start pid clock) es
  := by
  induction h with
  | nil => rfl
  | @snoc es px ev px' hrun _ hstep ih =>
      have hwf := reachable_wellFormed ⟨_, _, ⟨pid, clock, rfl⟩, hrun⟩
      have hsends := step_sends hwf hstep r
      rw [hrun.outputs_snoc hstep, ← ih, transmitted]
      generalize px.forwarded r ev px' = qs at hsends
      cases hsends with
      | nothing hsame hbuffer => rw [hsame, List.map_nil, List.append_nil]
      | request hmore hbuffer => rw [hmore, List.map_singleton]

theorem run_conveyed {pid : UInt64} {clock : ℕ → UInt64} {es : List Event}
    {px : WebsocketProxy} (h : system.Run (start pid clock) es px) (r : ℕ) :
  (px.sockets r).Conveyed (system.outputs (forwarded r) (start pid clock) es)
  := by
  induction h with
  | nil => apply Websocket.conveyed_blank
  | @snoc es px ev px' hrun _ hstep ih =>
      have hwf := reachable_wellFormed ⟨_, _, ⟨pid, clock, rfl⟩, hrun⟩
      rw [hrun.outputs_snoc hstep]
      apply ih.step (step_sends hwf hstep r)

theorem run_forwarded_sublist {pid : UInt64} {clock : ℕ → UInt64} {es : List Event}
    {px : WebsocketProxy} (h : system.Run (start pid clock) es px) (r : ℕ) :
  (system.outputs (forwarded r) (start pid clock) es).Sublist
    ((messages es).filterMap Message.forwarding)
  := by
  induction h with
  | nil => apply List.nil_sublist
  | @snoc es px ev px' hrun _ hstep ih =>
      rw [hrun.outputs_snoc hstep, messages_snoc, List.filterMap_append]
      apply ih.append (forwarded_sublist px px' ev r)

/-- In every run, the messages that a connection handed to the transport correspond in order to
the requests that were forwarded at it: each is what was in the buffer and then its request, and
what was in the buffer are bytes of the requests just before at the same connection. The requests
are among those that clients sent, in their order. The messages are the requests if and only if
every request found the buffer empty. -/
theorem conveys_requests {pid : UInt64} {clock : ℕ → UInt64} {es : List Event}
    {px : WebsocketProxy} (h : system.Run (start pid clock) es px) (r : ℕ) :
  (px.sockets r).transport = system.outputs (transmitted r) (start pid clock) es ∧
  (px.sockets r).Conveyed (system.outputs (forwarded r) (start pid clock) es) ∧
  (system.outputs (forwarded r) (start pid clock) es).Sublist
    ((messages es).filterMap Message.forwarding) ∧
  ((px.sockets r).transport = system.outputs (forwarded r) (start pid clock) es ↔
    system.RunUnder (Unbuffered r) (start pid clock) es px)
  := by
  use run_transmitted h r, run_conveyed h r, run_forwarded_sublist h r
  constructor
  · exact unbuffered_of_transport h
  · exact transport_of_unbuffered

/-- Two clients share a connection and send requests at it; the second request is sent while
the first is still in the buffer, the subscription of the second client is not forwarded. -/
def sendShared : List Event :=
  openShared ++ [.message 1 (.wsRequest { id := 70001, data := [97] }),
    .message 2 (.subscribe { symbol := [65], id := 70001, type := 1, request := [98] }),
    .message 1 (.subscribe { symbol := [65], id := 70001, type := 1, request := [99] }),
    .complete 0 (.write 0 none), .complete 0 (.write 0 none),
    .message 1 (.wsRequest { id := 70001, data := [100] })]

theorem conveys_requests_sendShared :
  ∃ px, system.Run (start 7 fun _ => 1) sendShared px ∧
    (px.sockets 0).Conveyed [[97], [98], [100]] ∧
    (px.sockets 0).transport = [[97], [97, 98], [100]] ∧
    ¬ system.RunUnder (Unbuffered 0) (start 7 fun _ => 1) sendShared px
  := by
  have hexec : ∃ px ∈ system.exec (start 7 fun _ => 1) sendShared,
      (px.sockets 0).transport = [[97], [97, 98], [100]] := by
    decide +kernel
  have houtputs : system.outputs (forwarded 0) (start 7 fun _ => 1) sendShared
      = [[97], [98], [100]] := by
    decide +kernel
  obtain ⟨px, hrun, htransport⟩ := TransitionSystem.exists_runUnder hexec
  obtain ⟨-, hconveyed, -, hiff⟩ := conveys_requests hrun 0
  rw [houtputs] at hconveyed hiff
  use px, hrun, hconveyed, htransport
  rw [← hiff, htransport]
  decide

end WebsocketProxy
