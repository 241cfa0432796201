import WebsocketProxy.Library.Holders
import WebsocketProxy.Server.GracefulShutdown
import WebsocketProxy.Server.Sharing

/-!
# Subscriptions

Each connection keeps a subscription for each symbol that clients subscribed to at it, and only
`Subscribe` and `Unsubscribe` messages of registered clients change it. What they do to one
subscription is `SymbolRequest.apply`. Along every run the subscription of a symbol is what the
requests for it make of it, and the requests that are passed on are those `apply` says are
(`run_symbolTrace`).
-/

/-- A request for a symbol at a connection. -/
inductive SymbolRequest where
  | subscribe (pid : UInt64) (type : SubscriptionType)
  | unsubscribe (pid : UInt64)
deriving DecidableEq

namespace SymbolRequest

/-- What a request makes of the subscription of its symbol, and whether it is passed on. -/
def apply (sub : Option Subscription) : SymbolRequest → Option Subscription × Bool
  | subscribe pid type =>
      match sub with
      | none => (some { type, clients := {pid} }, true)
      | some sub =>
          if sub.type &&& type = 0 then
            (some { type := sub.type ||| type, clients := insert pid sub.clients }, true)
          else (some { sub with clients := insert pid sub.clients }, false)
  | unsubscribe pid =>
      match sub with
      | none => (none, false)
      | some sub =>
          if sub.clients.erase pid = ∅ then (none, true)
          else (some { sub with clients := sub.clients.erase pid }, false)

end SymbolRequest

namespace Websocket

/-- The connection when a client subscribed. -/
def subscribe (ws : Websocket) (pid : UInt64) (req : WsSubscription) : Websocket :=
  let symbol := Message.symbolView req
  match ws.subscriptions.lookup symbol with
  | none =>
      let sub : Subscription := { type := req.type, clients := {pid} }
      { ws with subscriptions := ws.subscriptions.insert symbol sub }.send req.request
  | some old =>
      let new := old.type &&& req.type = 0
      let sub : Subscription :=
        { type := if new then old.type ||| req.type else old.type
          clients := insert pid old.clients }
      let ws := { ws with subscriptions := ws.subscriptions.replace symbol sub }
      if new then ws.send req.request else ws

/-- The connection when a client unsubscribed. -/
def unsubscribe (ws : Websocket) (pid : UInt64) (req : WsSubscription) : Websocket :=
  let symbol := Message.symbolView req
  match ws.subscriptions.lookup symbol with
  | none => ws
  | some old =>
      let sub : Subscription := { old with clients := old.clients.erase pid }
      if sub.clients = ∅ then
        { ws with subscriptions := ws.subscriptions.erase symbol }.send req.request
      else { ws with subscriptions := ws.subscriptions.replace symbol sub }

/-- The connection `ws'` is `ws` after the request `q` for a symbol, with the bytes `request`. -/
structure Serves (ws ws' : Websocket) (symbol : Bytes) (q : SymbolRequest) (request : Bytes) :
    Prop where
  own : ws'.subscriptions.lookup symbol = (q.apply (ws.subscriptions.lookup symbol)).1
  others : ∀ symbol' ≠ symbol, ws'.subscriptions.lookup symbol' = ws.subscriptions.lookup symbol'
  transport : ws'.transport = ws.transport ++
    if (q.apply (ws.subscriptions.lookup symbol)).2 then [ws.wBuffer ++ request] else []

theorem subscribe_serves (ws : Websocket) (pid : UInt64) (req : WsSubscription) :
  ws.Serves (ws.subscribe pid req) (Message.symbolView req) (.subscribe pid req.type) req.request
  := by
  cases hlookup : ws.subscriptions.lookup (Message.symbolView req) with
  | none =>
      simp only [subscribe, hlookup]
      constructor
      · rw [hlookup]
        exact (UnorderedMap.lookup_insert_eq ..).trans (if_pos rfl)
      · intro symbol hne
        exact (UnorderedMap.lookup_insert_eq ..).trans (if_neg hne)
      · rw [hlookup]
        rfl
  | some sub =>
      rcases em (sub.type &&& req.type = 0) with hnew | hold
      · simp only [subscribe, hlookup, if_pos hnew]
        constructor
        · rw [hlookup, SymbolRequest.apply, if_pos hnew]
          apply UnorderedMap.lookup_replace hlookup
        · intro symbol hne
          apply UnorderedMap.lookup_replace_ne _ hne
        · rw [hlookup, SymbolRequest.apply, if_pos hnew]
          rfl
      · simp only [subscribe, hlookup, if_neg hold]
        constructor
        · rw [hlookup, SymbolRequest.apply, if_neg hold]
          apply UnorderedMap.lookup_replace hlookup
        · intro symbol hne
          apply UnorderedMap.lookup_replace_ne _ hne
        · rw [hlookup, SymbolRequest.apply, if_neg hold]
          exact (List.append_nil _).symm

theorem unsubscribe_serves (ws : Websocket) (pid : UInt64) (req : WsSubscription) :
  ws.Serves (ws.unsubscribe pid req) (Message.symbolView req) (.unsubscribe pid) req.request
  := by
  cases hlookup : ws.subscriptions.lookup (Message.symbolView req) with
  | none =>
      simp only [unsubscribe, hlookup]
      constructor
      · rw [hlookup]
        rfl
      · intro symbol _
        rfl
      · rw [hlookup]
        exact (List.append_nil _).symm
  | some sub =>
      rcases em (sub.clients.erase pid = ∅) with hlast | hstay
      · simp only [unsubscribe, hlookup, if_pos hlast]
        constructor
        · rw [hlookup, SymbolRequest.apply, if_pos hlast]
          exact (UnorderedMap.lookup_erase_eq ..).trans (if_pos rfl)
        · intro symbol hne
          exact (UnorderedMap.lookup_erase_eq ..).trans (if_neg hne)
        · rw [hlookup, SymbolRequest.apply, if_pos hlast]
          rfl
      · simp only [unsubscribe, hlookup, if_neg hstay]
        constructor
        · rw [hlookup, SymbolRequest.apply, if_neg hstay]
          apply UnorderedMap.lookup_replace hlookup
        · intro symbol hne
          apply UnorderedMap.lookup_replace_ne _ hne
        · rw [hlookup, SymbolRequest.apply, if_neg hstay]
          exact (List.append_nil _).symm

end Websocket

namespace WebsocketProxy

/-! ### The handlers -/

/-- `handleSubscribe` changes the connection that is found, for a registered sender. -/
theorem handleSubscribe_sockets (px : WebsocketProxy) (m : Message) (req : WsSubscription) :
  ((px.taking m).handleSubscribe px.taken req).sockets
    = if m.pid ∈ px.clients then
        match px.websocketsById.lookup req.id with
        | some r => (px.modifySocket r fun ws => ws.subscribe m.pid req).sockets
        | none => px.sockets
      else px.sockets
  := by
  rcases getClient_taking_cases px m with ⟨hpid, clients, -, hget⟩ | ⟨hpid, hget⟩
  · rw [if_pos hpid]
    cases hid : px.websocketsById.lookup req.id with
    | none =>
        have hid' : ((px.taking m).refreshed clients).websocketsById.lookup req.id = none := hid
        simp only [handleSubscribe, slots_taking, hget, if_true, hid']
        rfl
    | some r =>
        have hid' : ((px.taking m).refreshed clients).websocketsById.lookup req.id = some r := hid
        simp only [handleSubscribe, slots_taking, hget, if_true, hid']
        split
        case h_1 hnone =>
          have hnone : (px.sockets r).subscriptions.lookup (Message.symbolView req) = none := hnone
          simp only [Tables.modifySocket, Websocket.subscribe, hnone]
          rfl
        case h_2 sub hsub =>
          have hsub : (px.sockets r).subscriptions.lookup (Message.symbolView req) = some sub := hsub
          simp only [Tables.modifySocket, Websocket.subscribe, hsub]
          rfl
  · rw [if_neg hpid]
    simp only [handleSubscribe, slots_taking, hget]
    rfl

/-- `handleUnsubscribe` changes the connection that is found, for a registered sender. -/
theorem handleUnsubscribe_sockets (px : WebsocketProxy) (m : Message) (req : WsSubscription) :
  ((px.taking m).handleUnsubscribe px.taken req).sockets
    = if m.pid ∈ px.clients then
        match px.websocketsById.lookup req.id with
        | some r => (px.modifySocket r fun ws => ws.unsubscribe m.pid req).sockets
        | none => px.sockets
      else px.sockets
  := by
  rcases getClient_taking_cases px m with ⟨hpid, clients, -, hget⟩ | ⟨hpid, hget⟩
  · rw [if_pos hpid]
    cases hid : px.websocketsById.lookup req.id with
    | none =>
        have hid' : ((px.taking m).refreshed clients).websocketsById.lookup req.id = none := hid
        simp only [handleUnsubscribe, slots_taking, hget, if_true, hid']
        rfl
    | some r =>
        have hid' : ((px.taking m).refreshed clients).websocketsById.lookup req.id = some r := hid
        simp only [handleUnsubscribe, slots_taking, hget, if_true, hid']
        split
        case h_1 sub hsub =>
          have hsub : (px.sockets r).subscriptions.lookup (Message.symbolView req) = some sub := hsub
          simp only [Tables.modifySocket, Websocket.unsubscribe, hsub]
          rfl
        case h_2 hnone =>
          have hnone : (px.sockets r).subscriptions.lookup (Message.symbolView req) = none := hnone
          simp only [Tables.modifySocket, Websocket.unsubscribe, hnone]
          exact (Function.update_eq_self r px.sockets).symm
  · rw [if_neg hpid]
    simp only [handleUnsubscribe, slots_taking, hget]
    rfl

/-! ### Steps -/

/-- The connections keep their subscriptions. -/
def KeepsSubscriptions (px px' : WebsocketProxy) : Prop :=
  ∀ r, (px'.sockets r).subscriptions = (px.sockets r).subscriptions

theorem keepsSubscriptions_of_departs {px px' : WebsocketProxy} {dep : ℕ → Finset UInt64}
    (h : px.Departs px'.toTables dep) :
  px.KeepsSubscriptions px'
  := by
  intro r
  rcases em (px.Stored r) with hr | hr
  · rw [h.stored r hr, Websocket.leave_subscriptions]
  · rw [h.unstored r hr]

theorem keepsSubscriptions_of_modifySocket {px px' : WebsocketProxy} {r : ℕ}
    {f : Websocket → Websocket} (h : px'.sockets = (px.modifySocket r f).sockets)
    (hf : (f (px.sockets r)).subscriptions = (px.sockets r).subscriptions) :
  px.KeepsSubscriptions px'
  := by
  intro r'
  rw [h]
  rcases eq_or_ne r' r with rfl | hne
  · rw [Tables.modifySocket_self, hf]
  · rw [Tables.modifySocket_of_ne hne]

/-- A connection is constructed without subscriptions, where there was none. -/
theorem openNewWs_keepsSubscriptions {px : WebsocketProxy} (hwf : px.WellFormed) (msg : ℕ)
    (req : WsOpen) :
  px.KeepsSubscriptions (px.openNewWs msg req).1
  := by
  simp only [openNewWs]
  split
  case h_1 => exact fun _ => rfl
  case h_2 ws hnew =>
    intro r
    change (Function.update px.sockets px.opens ws r).subscriptions = _
    rcases eq_or_ne r px.opens with rfl | hne
    · rw [Function.update_self, (Websocket.new_fresh hnew).subscriptions,
        hwf.blank px.opens (Nat.le_refl _)]
      rfl
    · rw [Function.update_of_ne hne]

theorem openWs_keepsSubscriptions {px : WebsocketProxy} (hwf : px.WellFormed) (m : Message)
    (req : WsOpen) :
  px.KeepsSubscriptions ((px.taking m).openWs px.taken req).1
  := by
  rcases getClient_taking_cases px m with ⟨-, clients, -, hget⟩ | ⟨-, hget⟩
  · simp only [openWs, slots_taking, hget, if_true]
    have hwf' : ((px.taking m).refreshed clients).WellFormed := hwf.withClients clients
    have hnew : px.KeepsSubscriptions
        (((px.taking m).refreshed clients).openNewWs px.taken req).1 :=
      openNewWs_keepsSubscriptions hwf' px.taken req
    split
    case h_1 r _ =>
      split
      case isTrue =>
        apply keepsSubscriptions_of_modifySocket (r := r)
          (f := fun ws => { ws with clients := insert m.pid ws.clients })
        · rfl
        · rfl
      case isFalse => exact hnew
    case h_2 => exact hnew
  · simp only [openWs, slots_taking, hget]
    exact fun _ => rfl

/-- Messages that are not about subscriptions keep them. -/
theorem handleClientMessage_keepsSubscriptions {px : WebsocketProxy} (hwf : px.WellFormed)
    {m : Message} (hsubscribe : ∀ req, m.data ≠ .subscribe req)
    (hunsubscribe : ∀ req, m.data ≠ .unsubscribe req) :
  px.KeepsSubscriptions ((px.taking m).handleClientMessage px.taken).1
  := by
  rw [handleClientMessage, slots_taking]
  split
  case h_1 reg hm => exact fun _ => rfl
  case h_2 hm =>
    unfold unregisterClient
    split
    case isTrue =>
      have hdeparts : px.Departs ((px.taking m).unregisterClientAt m.pid).toTables _ :=
        (unregisterClientAt_unregisters (px.taking m) hwf m.pid).departs
      apply keepsSubscriptions_of_departs hdeparts
    case isFalse => exact fun _ => rfl
  case h_3 hm =>
    rw [handleClientHeartbeat, slots_taking]
    rcases getClient_taking_cases px m with ⟨-, clients, -, hget⟩ | ⟨-, hget⟩
    · rw [hget]
      exact fun _ => rfl
    · rw [hget]
      exact fun _ => rfl
  case h_4 req hm => exact openWs_keepsSubscriptions hwf m req
  case h_5 req hm =>
    rcases getClient_taking_cases px m with ⟨-, clients, -, hget⟩ | ⟨-, hget⟩
    · simp only [closeWs, slots_taking, hget, if_true]
      have hdeparts := Tables.closeWs_departs (hwf.withClients clients) req.id m.pid
      apply keepsSubscriptions_of_departs
      apply hdeparts.ofClients
    · simp only [closeWs, slots_taking, hget]
      exact fun _ => rfl
  case h_6 req hm =>
    rcases getClient_taking_cases px m with ⟨-, clients, -, hget⟩ | ⟨-, hget⟩
    · simp only [sendWsRequest, slots_taking, hget, if_true]
      split
      case h_1 r _ =>
        apply keepsSubscriptions_of_modifySocket (r := r) (f := fun ws => ws.send req.data)
        · rfl
        · rfl
      case h_2 => exact fun _ => rfl
    · simp only [sendWsRequest, slots_taking, hget]
      exact fun _ => rfl
  case h_7 req hm => exact absurd hm (hsubscribe req)
  case h_8 req hm => exact absurd hm (hunsubscribe req)
  all_goals exact fun _ => rfl

/-- The step handles the message of a registered client that is not about subscriptions, or is
no handling of a message of a registered client. -/
def Unrelated (px : WebsocketProxy) (ev : Event) : Prop :=
  ∀ pid req, px.received ev ≠ some (pid, .subscribe req) ∧
    px.received ev ≠ some (pid, .unsubscribe req)

theorem message_keepsSubscriptions {px px' : WebsocketProxy} {m : Message} (hwf : px.WellFormed)
    (h : px.step (.processClientMessage (some m)) = some px')
    (hev : px.Unrelated (.processClientMessage (some m))) :
  px.KeepsSubscriptions px'
  := by
  obtain ⟨-, -, hsockets⟩ := message_handled h
  have hkeeps : px.KeepsSubscriptions ((px.taking m).handleClientMessage px.taken).1 := by
    rcases em (∃ req, m.data = .subscribe req ∨ m.data = .unsubscribe req) with
      ⟨req, hm⟩ | hother
    · have hpid : m.pid ∉ px.clients := by
        intro hpid
        rcases hm with hm | hm
        · exact (hev m.pid req).1 (received_of_mem hpid hm)
        · exact (hev m.pid req).2 (received_of_mem hpid hm)
      intro r
      rw [handleClientMessage, slots_taking]
      rcases hm with hm | hm
      · rw [hm]
        dsimp only
        rw [handleSubscribe_sockets, if_neg hpid]
      · rw [hm]
        dsimp only
        rw [handleUnsubscribe_sockets, if_neg hpid]
    · apply handleClientMessage_keepsSubscriptions hwf
      · exact fun req hm => hother ⟨req, Or.inl hm⟩
      · exact fun req hm => hother ⟨req, Or.inr hm⟩
  intro r
  rw [hsockets]
  apply hkeeps r

/-- Only messages about subscriptions change subscriptions. -/
theorem step_keepsSubscriptions {px px' : WebsocketProxy} {ev : Event} (hwf : px.WellFormed)
    (h : px.step ev = some px') (hev : px.Unrelated ev) :
  px.KeepsSubscriptions px'
  := by
  have hheartbeat : ev = .startHeartbeat → px.KeepsSubscriptions px' := by
    rintro rfl
    exact keepsSubscriptions_of_departs
      (startHeartbeat_unregisters hwf (runHandler_of_step h)).departs
  cases ran_of_step h with
  | handled | threw => exact message_keepsSubscriptions hwf h hev
  | noMessage =>
      intro r
      rw [processNext_toTables]
      exact congrArg (fun sockets => (sockets r).subscriptions)
        (Tables.removeClosedSockets_sockets px.toTables)
  | announce | startHeartbeat => exact hheartbeat rfl
  | @complete r c ws calls hcomplete =>
      intro r'
      obtain ⟨clients, hsocket⟩ := foldl_callback_sockets r r' calls
        { px with toTables := px.modifySocket r (fun _ => ws) }
      rw [perform, hsocket]
      dsimp only
      rcases eq_or_ne r' r with rfl | hne
      · rw [Tables.modifySocket_self]
        exact (Websocket.complete_spec hcomplete).subscriptions
      · rw [Tables.modifySocket_of_ne hne]
  | shutdownClosure =>
      have hcloses := Tables.closeAll_closesAll px.toTables
      intro r
      rw [shutdownClosure_toTables h]
      rcases em (px.Stored r) with hr | hr
      · rw [hcloses.stored r hr, Websocket.close_subscriptions]
      · rw [hcloses.unstored r hr]
  | signal | stopClosure | timerHandler | slotReused | rehash => exact fun _ => rfl

/-! ### The requests for one symbol -/

/-- The step passes `request` on at the connection at `r`. -/
def passesOn (px px' : WebsocketProxy) (r : ℕ) (request : Bytes) : Bool :=
  (px'.sockets r).transport = (px.sockets r).transport ++ [(px.sockets r).wBuffer ++ request]

/-- The requests for a symbol at the connection at `r` that a step handles, each with whether it
is passed on: those of a registered client, for a connection that is found by the id. -/
def symbolTrace (r : ℕ) (symbol : Bytes) (px : WebsocketProxy) (ev : Event)
    (px' : WebsocketProxy) : List (SymbolRequest × Bool) :=
  match px.received ev with
  | some (pid, .subscribe req) =>
      if px.websocketsById.lookup req.id = some r ∧ Message.symbolView req = symbol then
        [(.subscribe pid req.type, px.passesOn px' r req.request)]
      else []
  | some (pid, .unsubscribe req) =>
      if px.websocketsById.lookup req.id = some r ∧ Message.symbolView req = symbol then
        [(.unsubscribe pid, px.passesOn px' r req.request)]
      else []
  | _ => []

/-- The subscription of a symbol at the connection at `r`. -/
def subscriptionOf (px : WebsocketProxy) (r : ℕ) (symbol : Bytes) : Option Subscription :=
  (px.sockets r).subscriptions.lookup symbol

/-- What a trace of requests makes of a subscription, where each is passed on as `apply` says. -/
inductive Replays : List (SymbolRequest × Bool) → Option Subscription → Prop
  | nil : Replays [] none
  | snoc {trace sub} (q : SymbolRequest) : Replays trace sub →
      Replays (trace ++ [(q, (q.apply sub).2)]) (q.apply sub).1

theorem passesOn_of_serves {px px' : WebsocketProxy} {r : ℕ} {symbol request : Bytes}
    {q : SymbolRequest} (h : (px.sockets r).Serves (px'.sockets r) symbol q request) :
  px.passesOn px' r request = (q.apply (px.subscriptionOf r symbol)).2
  := by
  rw [passesOn, h.transport, ← subscriptionOf]
  cases hpassed : (q.apply (px.subscriptionOf r symbol)).2 with
  | true => simp
  | false => simp

/-- A request that serves one connection does so for its symbol only. -/
theorem serves_step {px px' : WebsocketProxy} {r₀ : ℕ} {symbol₀ request : Bytes}
    {f : Websocket → Websocket} {q : SymbolRequest}
    (hsockets : px'.sockets = (px.modifySocket r₀ f).sockets)
    (hserves : (px.sockets r₀).Serves (f (px.sockets r₀)) symbol₀ q request) (r : ℕ)
    (symbol : Bytes) :
  (r₀ = r ∧ symbol₀ = symbol ∧
    px.passesOn px' r request = (q.apply (px.subscriptionOf r symbol)).2 ∧
    px'.subscriptionOf r symbol = (q.apply (px.subscriptionOf r symbol)).1) ∨
  (¬ (r₀ = r ∧ symbol₀ = symbol) ∧ px'.subscriptionOf r symbol = px.subscriptionOf r symbol)
  := by
  rcases eq_or_ne r₀ r with rfl | hne
  · have hsocket : px'.sockets r₀ = f (px.sockets r₀) := by
      rw [hsockets, Tables.modifySocket_self]
    rw [← hsocket] at hserves
    rcases eq_or_ne symbol₀ symbol with rfl | hother
    · left
      exact ⟨rfl, rfl, passesOn_of_serves hserves, hserves.own⟩
    · right
      exact ⟨fun h => hother h.2, hserves.others symbol hother.symm⟩
  · right
    use fun h => hne h.1
    rw [subscriptionOf, hsockets, Tables.modifySocket_of_ne hne.symm, subscriptionOf]

/-- The subscription of a symbol after a message for the connection that is found by an id. -/
theorem found_step {px px' : WebsocketProxy} {id : UInt64} {symbol₀ request : Bytes}
    {f : Websocket → Websocket} {q : SymbolRequest}
    (hsockets : px'.sockets = match px.websocketsById.lookup id with
      | some r => (px.modifySocket r f).sockets
      | none => px.sockets)
    (hserves : ∀ ws : Websocket, ws.Serves (f ws) symbol₀ q request) (r : ℕ) (symbol : Bytes) :
  (px.websocketsById.lookup id = some r ∧ symbol₀ = symbol ∧
    px.passesOn px' r request = (q.apply (px.subscriptionOf r symbol)).2 ∧
    px'.subscriptionOf r symbol = (q.apply (px.subscriptionOf r symbol)).1) ∨
  (¬ (px.websocketsById.lookup id = some r ∧ symbol₀ = symbol) ∧
    px'.subscriptionOf r symbol = px.subscriptionOf r symbol)
  := by
  cases hid : px.websocketsById.lookup id with
  | none =>
      rw [hid] at hsockets
      right
      constructor
      · rintro ⟨⟨⟩, -⟩
      · rw [subscriptionOf, hsockets, subscriptionOf]
  | some r₀ =>
      rw [hid] at hsockets
      rcases serves_step hsockets (hserves _) r symbol with ⟨rfl, hserved⟩ | ⟨hnot, hsame⟩
      · exact Or.inl ⟨rfl, hserved⟩
      · right
        use fun h => hnot ⟨Option.some.inj h.1, h.2⟩

/-- A step leaves a subscription alone, or makes of it what one request does. -/
theorem step_symbolTrace {px px' : WebsocketProxy} {ev : Event} (hwf : px.WellFormed)
    (h : px.step ev = some px') (r : ℕ) (symbol : Bytes) :
  (symbolTrace r symbol px ev px' = [] ∧ px'.subscriptionOf r symbol = px.subscriptionOf r symbol) ∨
  ∃ q : SymbolRequest,
    symbolTrace r symbol px ev px' = [(q, (q.apply (px.subscriptionOf r symbol)).2)] ∧
    px'.subscriptionOf r symbol = (q.apply (px.subscriptionOf r symbol)).1
  := by
  cases hreceived : px.received ev with
  | none =>
      left
      constructor
      · simp only [symbolTrace, hreceived]
      · have hunrelated : px.Unrelated ev := by
          intro pid req
          rw [hreceived]
          exact ⟨by rintro ⟨⟩, by rintro ⟨⟩⟩
        rw [subscriptionOf, step_keepsSubscriptions hwf h hunrelated r, subscriptionOf]
  | some p =>
      obtain ⟨pid, data⟩ := p
      obtain ⟨hpid, m, rfl, rfl, rfl⟩ := received_eq_some hreceived
      obtain ⟨-, -, hsockets⟩ := message_handled h
      rw [handleClientMessage, slots_taking] at hsockets
      cases hm : m.data with
      | subscribe req =>
          rw [hm] at hreceived hsockets
          dsimp only at hsockets
          rw [handleSubscribe_sockets, if_pos hpid] at hsockets
          simp only [symbolTrace, hreceived]
          rcases found_step hsockets (fun ws => ws.subscribe_serves m.pid req) r symbol with
            ⟨hid, hsymbol, hpassed, hafter⟩ | ⟨hnot, hsame⟩
          · right
            rw [if_pos ⟨hid, hsymbol⟩, hpassed]
            exact ⟨_, rfl, hafter⟩
          · left
            rw [if_neg hnot]
            exact ⟨rfl, hsame⟩
      | unsubscribe req =>
          rw [hm] at hreceived hsockets
          dsimp only at hsockets
          rw [handleUnsubscribe_sockets, if_pos hpid] at hsockets
          simp only [symbolTrace, hreceived]
          rcases found_step hsockets (fun ws => ws.unsubscribe_serves m.pid req) r symbol with
            ⟨hid, hsymbol, hpassed, hafter⟩ | ⟨hnot, hsame⟩
          · right
            rw [if_pos ⟨hid, hsymbol⟩, hpassed]
            exact ⟨_, rfl, hafter⟩
          · left
            rw [if_neg hnot]
            exact ⟨rfl, hsame⟩
      | _ =>
          left
          have hunrelated : px.Unrelated (.processClientMessage (some m)) := by
            intro pid req
            rw [hreceived, hm]
            exact ⟨by rintro ⟨⟩, by rintro ⟨⟩⟩
          constructor
          · simp only [symbolTrace, hreceived, hm]
          · rw [subscriptionOf, step_keepsSubscriptions hwf h hunrelated r, subscriptionOf]

/-- Along every run the subscription of a symbol is what the requests for it make of it, and the
requests are passed on as `apply` says. -/
theorem run_symbolTrace {guard : WebsocketProxy → Event → Prop} {pid : UInt64}
    {clock : ℕ → UInt64} {es : List Event} {px : WebsocketProxy}
    (h : system.RunUnder guard (start pid clock) es px) (r : ℕ) (symbol : Bytes) :
  Replays (system.outputs (symbolTrace r symbol) (start pid clock) es) (px.subscriptionOf r symbol)
  := by
  induction h with
  | nil => exact .nil
  | @snoc es px ev px' hrun hg hstep ih =>
      have hreachable : system.ReachableUnder guard px := ⟨_, _, ⟨pid, clock, rfl⟩, hrun⟩
      rw [hrun.outputs_snoc hstep]
      rcases step_symbolTrace (reachable_wellFormed hreachable) hstep r symbol with
        ⟨htrace, hsame⟩ | ⟨q, htrace, hafter⟩
      · rw [htrace, hsame, List.append_nil]
        apply ih
      · rw [htrace, hafter]
        apply ih.snoc q

end WebsocketProxy
