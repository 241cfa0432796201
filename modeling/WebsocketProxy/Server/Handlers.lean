import WebsocketProxy.Server.Change

/-!
# Every step is a change

Each handler of the server does one of the changes to the tables that `Change` lists.
-/

namespace WebsocketProxy

/-! ### Messages -/

/-- The server after a client was looked up and refreshed. -/
def refreshed (px : WebsocketProxy) (clients : UnorderedMap UInt64 ClientInfo) :
    WebsocketProxy :=
  { px with clients, readings := px.readings + 1 }

/-- Looking a client up refreshes it, when it is registered. -/
theorem getClient_cases (px : WebsocketProxy) (pid : UInt64) :
  (pid ∈ px.clients ∧ ∃ clients : UnorderedMap UInt64 ClientInfo,
    (∀ q, q ∈ clients ↔ q ∈ px.clients) ∧ px.getClient pid = (true, px.refreshed clients)) ∨
  (pid ∉ px.clients ∧ px.getClient pid = (false, px))
  := by
  cases hlookup : px.clients.lookup pid with
  | some client =>
      left
      use UnorderedMap.mem_iff_lookup.mpr ⟨client, hlookup⟩
      use px.clients.replace pid
        { client with lastHeartbeatTime := px.clock px.readings }
      constructor
      · intro q
        apply AList.mem_replace
      · simp only [getClient, hlookup, getTimestamp, refreshed]
  | none =>
      right
      use AList.lookup_eq_none.mp hlookup
      simp only [getClient, hlookup]

/-- The server after a message was taken from the queue. -/
def taking (px : WebsocketProxy) (m : Message) : WebsocketProxy :=
  { px with
    messageHandlers := px.messageHandlers - 1
    taken := px.taken + 1
    slots := Function.update px.slots px.taken m }

/-- Looking up the sender of a message that was taken. -/
theorem getClient_taking_cases (px : WebsocketProxy) (m : Message) :
  (m.pid ∈ px.clients ∧ ∃ clients : UnorderedMap UInt64 ClientInfo,
    (∀ q, q ∈ clients ↔ q ∈ px.clients) ∧
      (px.taking m).getClient m.pid = (true, (px.taking m).refreshed clients)) ∨
  (m.pid ∉ px.clients ∧ (px.taking m).getClient m.pid = (false, px.taking m))
  := getClient_cases (px.taking m) m.pid

@[simp]
theorem slots_taking (px : WebsocketProxy) (m : Message) :
  (px.taking m).slots px.taken = m
  := Function.update_self ..

theorem received_of_mem {px : WebsocketProxy} {m : Message} {data : Message.Data}
    (hpid : m.pid ∈ px.clients) (hm : m.data = data) :
  px.received (.processClientMessage (some m)) = some (m.pid, data)
  := by
  rw [← hm]
  apply if_pos hpid

/-- `handleClientRegistration` registers the sender. -/
theorem handleClientRegistration_change (px : WebsocketProxy) {m : Message}
    {reg : RegisterMessage} (hm : m.data = .register reg) :
  Change px (.processClientMessage (some m))
    ((px.taking m).handleClientRegistration px.taken reg).toTables
  := by
  refine Change.register ?_ rfl hm
  intro q
  rw [slots_taking, AList.mem_replace]
  apply UnorderedMap.mem_emplace

/-- `unregisterClient` drops the sender. -/
theorem unregisterClient_change {px : WebsocketProxy} (hwf : px.WellFormed) {m : Message}
    (hm : m.data = .unregister) :
  Change px (.processClientMessage (some m)) ((px.taking m).unregisterClient m.pid).toTables
  := by
  unfold unregisterClient
  split
  case isTrue hpid =>
    have hpid : m.pid ∈ px.clients := hpid
    have hreceived := received_of_mem hpid hm
    have hunregisters := unregisterClientAt_unregisters (px.taking m) hwf m.pid
    apply Change.depart
    · apply hunregisters.departs.congr
      intro r _
      simp only [leaving, departing, hreceived]
    · simp only [departing, hreceived]
      apply hunregisters.mem_clients
  case isFalse => apply Change.unchanged

theorem handleClientHeartbeat_change (px : WebsocketProxy) (m : Message) :
  Change px (.processClientMessage (some m)) ((px.taking m).handleClientHeartbeat px.taken).toTables
  := by
  rw [handleClientHeartbeat, slots_taking]
  rcases getClient_taking_cases px m with ⟨-, clients, hclients, hget⟩ | ⟨-, hget⟩
  · rw [hget]
    apply Change.refresh _ hclients
  · rw [hget]
    apply Change.unchanged

/-- `openNewWs` constructs a connection, unless the constructor throws. -/
theorem openNewWs_change {px : WebsocketProxy} {m : Message} {req : WsOpen}
    (hreq : px.opensNew (.processClientMessage (some m)) = some req)
    {clients : UnorderedMap UInt64 ClientInfo} (hclients : ∀ q, q ∈ clients ↔ q ∈ px.clients) :
  Change px (.processClientMessage (some m))
    (((px.taking m).refreshed clients).openNewWs px.taken req).1.toTables
  := by
  simp only [openNewWs]
  split
  case h_1 hnew => apply Change.throw hclients hreq hnew
  case h_2 ws hnew => apply Change.create hclients hreq hnew

/-- `openWs` attaches the sender to a connection, or constructs one. -/
theorem openWs_change (px : WebsocketProxy) {m : Message} {req : WsOpen}
    (hm : m.data = .openWs req) :
  Change px (.processClientMessage (some m)) ((px.taking m).openWs px.taken req).1.toTables
  := by
  rcases getClient_taking_cases px m with ⟨hpid, clients, hclients, hget⟩ | ⟨-, hget⟩
  · have hreceived := received_of_mem hpid hm
    simp only [openWs, slots_taking, hget, if_true]
    split
    case h_1 r hkey =>
      have hkey : px.websocketsByUrlApiKey.lookup req.key = some r := hkey
      split
      case isTrue hstate =>
        apply Change.attach hclients hpid hkey
        rintro (h | h)
        · apply hstate.1 h
        · apply hstate.2 h
      case isFalse hstate =>
        apply openNewWs_change _ hclients
        have hclosing : (px.sockets r).Closing := by
          rw [not_and_or, not_not, not_not] at hstate
          exact hstate
        simp only [opensNew, hreceived, hkey]
        rw [if_pos]
        rintro r' h
        obtain rfl := Option.some.inj h
        exact hclosing
    case h_2 hkey =>
      have hkey : px.websocketsByUrlApiKey.lookup req.key = none := hkey
      apply openNewWs_change _ hclients
      simp only [opensNew, hreceived, hkey]
      rw [if_pos]
      rintro r' h
      cases h
  · simp only [openWs, slots_taking, hget]
    apply Change.unchanged

/-- `closeWs` takes the sender from a connection. -/
theorem closeWs_change {px : WebsocketProxy} (hwf : px.WellFormed) {m : Message} {req : WsClose}
    (hm : m.data = .closeWs req) :
  Change px (.processClientMessage (some m)) ((px.taking m).closeWs px.taken req).toTables
  := by
  rcases getClient_taking_cases px m with ⟨hpid, clients, hclients, hget⟩ | ⟨-, hget⟩
  · have hreceived := received_of_mem hpid hm
    simp only [closeWs, slots_taking, hget, if_true]
    apply Change.depart
    · apply (Tables.closeWs_departs (hwf.withClients clients) req.id m.pid).ofClients.congr
      intro r _
      simp only [leaving, hreceived]
    · intro pid
      simp only [departing, hreceived, Finset.notMem_empty, not_false_eq_true, and_true]
      apply Iff.trans _ (hclients pid)
      apply iff_of_eq
      congr 1
      apply Tables.closeWs_clients
  · simp only [closeWs, slots_taking, hget]
    apply Change.unchanged

/-- `handleSubscribe` adds the sender to a subscription, and may pass the request on. -/
theorem handleSubscribe_change (px : WebsocketProxy) {m : Message} {req : WsSubscription}
    (hm : m.data = .subscribe req) :
  Change px (.processClientMessage (some m))
    ((px.taking m).handleSubscribe px.taken req).toTables
  := by
  rcases getClient_taking_cases px m with ⟨hpid, clients, hclients, hget⟩ | ⟨-, hget⟩
  · have hreceived := received_of_mem hpid hm
    simp only [handleSubscribe, slots_taking, hget, if_true]
    split
    case h_1 r hid =>
      have hid : px.websocketsById.lookup req.id = some r := hid
      have hsubscribing : px.subscribing (.processClientMessage (some m)) r = {m.pid} := by
        simp only [subscribing, hreceived, hid, if_true]
      split
      case h_1 hnone =>
        refine @Change.request px _ clients r
          ((px.sockets r).subscriptions.insert (Message.symbolView req)
            { type := req.type, clients := {m.pid} }) [req.request] hclients ⟨req.id, hid⟩ ?_
        intro symbol sub hsub pid hpid
        rw [UnorderedMap.lookup_insert_eq] at hsub
        split at hsub
        case isTrue =>
          left
          obtain rfl := Option.some.inj hsub
          rw [hsubscribing]
          exact hpid
        case isFalse =>
          right
          use sub, hsub
      case h_2 old hold =>
        have hold : (px.sockets r).subscriptions.lookup (Message.symbolView req) = some old := hold
        have hsub : ∀ (type : SubscriptionType) symbol sub,
            ((px.sockets r).subscriptions.replace (Message.symbolView req)
              { type, clients := insert m.pid old.clients }).lookup symbol = some sub →
            ∀ pid ∈ sub.clients,
              pid ∈ px.subscribing (.processClientMessage (some m)) r ∨
                ∃ old, (px.sockets r).subscriptions.lookup symbol = some old ∧
                  pid ∈ old.clients := by
          intro type symbol sub hsub pid hpid
          rw [UnorderedMap.lookup_replace_eq] at hsub
          split at hsub
          case isTrue h =>
            obtain rfl := Option.some.inj hsub
            rcases Finset.mem_insert.mp hpid with rfl | hpid
            · left
              rw [hsubscribing]
              apply Finset.mem_singleton_self
            · right
              use old
              rw [h.1]
              use hold
          case isFalse =>
            right
            use sub, hsub
        rcases em (old.type &&& req.type = 0) with hnew | hnew
        · simp only [hnew, if_true]
          exact @Change.request px _ clients r _ [req.request] hclients ⟨req.id, hid⟩ (hsub _)
        · simp only [hnew, if_false]
          exact @Change.request px _ clients r _ [] hclients ⟨req.id, hid⟩ (hsub _)
    case h_2 => apply Change.refresh _ hclients
  · simp only [handleSubscribe, slots_taking, hget]
    apply Change.unchanged

/-- `handleUnsubscribe` takes the sender from a subscription, and may pass the request on. -/
theorem handleUnsubscribe_change (px : WebsocketProxy) (m : Message) (req : WsSubscription) :
  Change px (.processClientMessage (some m))
    ((px.taking m).handleUnsubscribe px.taken req).toTables
  := by
  rcases getClient_taking_cases px m with ⟨hpid, clients, hclients, hget⟩ | ⟨-, hget⟩
  · simp only [handleUnsubscribe, slots_taking, hget, if_true]
    split
    case h_1 r hid =>
      have hid : px.websocketsById.lookup req.id = some r := hid
      split
      case h_1 old hold =>
        have hold : (px.sockets r).subscriptions.lookup (Message.symbolView req) = some old := hold
        rcases em (old.clients.erase m.pid = ∅) with hlast | hlast
        · simp only [hlast, if_true]
          refine @Change.request px _ clients r
            ((px.sockets r).subscriptions.erase (Message.symbolView req)) [req.request]
            hclients ⟨req.id, hid⟩ ?_
          intro symbol sub hsub pid hpid
          right
          use sub, (UnorderedMap.lookup_erase_eq_some.mp hsub).2
        · simp only [hlast, if_false]
          refine @Change.request px _ clients r
            ((px.sockets r).subscriptions.replace (Message.symbolView req)
              { old with clients := old.clients.erase m.pid }) [] hclients ⟨req.id, hid⟩ ?_
          intro symbol sub hsub pid hpid
          right
          rw [UnorderedMap.lookup_replace_eq] at hsub
          split at hsub
          case isTrue h =>
            obtain rfl := Option.some.inj hsub
            use old
            rw [h.1]
            use hold
            apply Finset.mem_of_mem_erase hpid
          case isFalse => use sub, hsub
      case h_2 => apply Change.refresh _ hclients
    case h_2 => apply Change.refresh _ hclients
  · simp only [handleUnsubscribe, slots_taking, hget]
    apply Change.unchanged

/-- `sendWsRequest` passes the request on. -/
theorem sendWsRequest_change (px : WebsocketProxy) (m : Message) (req : WsRequest) :
  Change px (.processClientMessage (some m))
    ((px.taking m).sendWsRequest px.taken req).toTables
  := by
  rcases getClient_taking_cases px m with ⟨hpid, clients, hclients, hget⟩ | ⟨-, hget⟩
  · simp only [sendWsRequest, slots_taking, hget, if_true]
    split
    case h_1 r hid =>
      have hid : px.websocketsById.lookup req.id = some r := hid
      refine @Change.request px _ clients r (px.sockets r).subscriptions [req.data] hclients
        ⟨req.id, hid⟩ ?_
      intro symbol sub hsub pid hpid
      right
      use sub, hsub
    case h_2 => apply Change.refresh _ hclients
  · simp only [sendWsRequest, slots_taking, hget]
    apply Change.unchanged

/-- What `handleSubscribe` can change, after it looked up the sender. -/
theorem handleSubscribe_changes (px : WebsocketProxy) (msg : ℕ) (req : WsSubscription) :
  ∃ sockets slots stores storedAfter, px.handleSubscribe msg req
    = { (px.getClient (px.slots msg).pid).2 with sockets, slots, stores, storedAfter }
  := by
  simp only [handleSubscribe]
  split
  · split
    · split
      · exact ⟨_, _, _, _, rfl⟩
      · exact ⟨_, _, _, _, rfl⟩
    · exact ⟨_, _, _, _, rfl⟩
  · exact ⟨_, _, _, _, rfl⟩

/-- What `handleUnsubscribe` can change, after it looked up the sender. -/
theorem handleUnsubscribe_changes (px : WebsocketProxy) (msg : ℕ) (req : WsSubscription) :
  ∃ sockets slots stores storedAfter, px.handleUnsubscribe msg req
    = { (px.getClient (px.slots msg).pid).2 with sockets, slots, stores, storedAfter }
  := by
  simp only [handleUnsubscribe]
  split
  · split
    · split
      · exact ⟨_, _, _, _, rfl⟩
      · exact ⟨_, _, _, _, rfl⟩
    · exact ⟨_, _, _, _, rfl⟩
  · exact ⟨_, _, _, _, rfl⟩

/-- Every message is handled by a change. -/
theorem handleClientMessage_change {px : WebsocketProxy} (hwf : px.WellFormed) (m : Message) :
  Change px (.processClientMessage (some m))
    ((px.taking m).handleClientMessage px.taken).1.toTables
  := by
  rw [handleClientMessage, slots_taking]
  split
  case h_1 reg hm => apply handleClientRegistration_change px hm
  case h_2 hm => apply unregisterClient_change hwf hm
  case h_3 hm => apply handleClientHeartbeat_change
  case h_4 req hm => apply openWs_change px hm
  case h_5 req hm => apply closeWs_change hwf hm
  case h_6 req hm => apply sendWsRequest_change
  case h_7 req hm => apply handleSubscribe_change px hm
  case h_8 req hm => apply handleUnsubscribe_change
  all_goals apply Change.unchanged

/-! ### The other handlers -/

/-- What the end of the handler of messages can change. -/
theorem processNext_changes (px : WebsocketProxy) :
  ∃ messageHandlers shutdownClosures readings autoShutdown,
    px.processNext = { px with
      messageHandlers, shutdownClosures, readings, autoShutdown } ∧ px.readings ≤ readings
  := by
  simp only [processNext]
  split
  · split
    · split
      · exact ⟨_, _, _, _, rfl, Nat.le_succ _⟩
      · exact ⟨_, _, _, _, rfl, Nat.le_succ _⟩
    · exact ⟨_, _, _, _, rfl, Nat.le_refl _⟩
  · exact ⟨_, _, _, _, rfl, Nat.le_refl _⟩

@[simp]
theorem processNext_toTables (px : WebsocketProxy) :
  px.processNext.toTables = px.toTables
  := by
  obtain ⟨handlers, closures, readings, autoShutdown, hnext, -⟩ := px.processNext_changes
  rw [hnext]

@[simp]
theorem caught_toTables (px : WebsocketProxy) :
  px.caught.toTables = px.toTables
  := by
  unfold caught
  split
  · rfl
  · rfl

/-! ### What a handler leaves -/

/-- The handler of messages, as the handling of the message throws or does not. -/
theorem processClientMessage_cases {px px' : WebsocketProxy} {m : Message}
    (h : px.runHandler (.processClientMessage (some m)) = some px') :
  (((px.taking m).handleClientMessage px.taken).2 = true ∧
    px' = ((px.taking m).handleClientMessage px.taken).1.caught) ∨
  (((px.taking m).handleClientMessage px.taken).2 = false ∧
    px' = { ((px.taking m).handleClientMessage px.taken).1 with
      toTables := ((px.taking m).handleClientMessage px.taken).1.removeClosedSockets }.processNext)
  := by
  simp only [runHandler] at h
  split at h
  case isTrue =>
    obtain rfl := Option.some.inj h
    have hresult : { px with messageHandlers := px.messageHandlers - 1 }.processClientMessage
        (some m) = (fun result : WebsocketProxy × Bool => if result.2 then (result.1, true)
          else ({ result.1 with toTables := result.1.toTables.removeClosedSockets }.processNext,
            false)) ((px.taking m).handleClientMessage px.taken) := rfl
    rw [hresult]
    generalize (px.taking m).handleClientMessage px.taken = result
    obtain ⟨px₁, threw⟩ := result
    cases threw with
    | true => exact Or.inl ⟨rfl, rfl⟩
    | false => exact Or.inr ⟨rfl, rfl⟩
  case isFalse => cases h

/-- What the run of a handler leaves. -/
inductive Ran (px : WebsocketProxy) : Event → WebsocketProxy → Prop
  /-- A message is handled. -/
  | handled {m} (hposted : 0 < px.messageHandlers)
      (hhandled : ((px.taking m).handleClientMessage px.taken).2 = false) :
      Ran px (.processClientMessage (some m))
        { ((px.taking m).handleClientMessage px.taken).1 with
          toTables :=
            ((px.taking m).handleClientMessage px.taken).1.removeClosedSockets }.processNext
  /-- The handling of a message throws. -/
  | threw {m} (hposted : 0 < px.messageHandlers)
      (hthrew : ((px.taking m).handleClientMessage px.taken).2 = true) :
      Ran px (.processClientMessage (some m)) ((px.taking m).handleClientMessage px.taken).1.caught
  | noMessage (hposted : 0 < px.messageHandlers) :
      Ran px (.processClientMessage none)
        { px with
          messageHandlers := px.messageHandlers - 1
          toTables := px.removeClosedSockets }.processNext
  | announce (hposted : 0 < px.heartbeatHandlers) (hstartup : px.startup = true) :
      Ran px .startHeartbeat { px with heartbeatHandlers := px.heartbeatHandlers - 1 }.announce
  | startHeartbeat (hposted : 0 < px.heartbeatHandlers) (hstartup : px.startup = false) :
      Ran px .startHeartbeat
        { px with heartbeatHandlers := px.heartbeatHandlers - 1 }.startHeartbeat
  | complete {r c ws calls} (hcomplete : (px.sockets r).complete c = some (ws, calls)) :
      Ran px (.complete r c) (px.perform r (ws, calls))
  | signal (hset : px.signalHandler = true) :
      Ran px .signal { px with signalHandler := false }.shutdown
  | shutdownClosure (hposted : 0 < px.shutdownClosures) :
      Ran px .shutdownClosure
        { px with shutdownClosures := px.shutdownClosures - 1 }.shutdownClosure
  | stopClosure (hposted : 0 < px.stopClosures) :
      Ran px .stopClosure
        { px with stopClosures := px.stopClosures - 1, timerHandlers := px.timerHandlers + 1 }
  | timerHandler (hset : 0 < px.timerHandlers) :
      Ran px .timerHandler { px with timerHandlers := px.timerHandlers - 1, stopped := true }
  | slotReused {msg contents} :
      Ran px (.slotReused msg contents)
        { px with slots := Function.update px.slots msg contents }
  | rehash {clients byId byUrlApiKey} (hclients : clients.entries.Perm px.clients.entries)
      (hbyId : byId.entries.Perm px.websocketsById.entries)
      (hbyKey : byUrlApiKey.entries.Perm px.websocketsByUrlApiKey.entries) :
      Ran px (.rehash clients byId byUrlApiKey)
        { px with clients, websocketsById := byId, websocketsByUrlApiKey := byUrlApiKey }

/-- The run of a handler leaves what it can leave. -/
theorem ran_of_runHandler {px px' : WebsocketProxy} {ev : Event}
    (h : px.runHandler ev = some px') :
  px.Ran ev px'
  := by
  cases ev with
  | processClientMessage msg =>
      have hposted : 0 < px.messageHandlers := by
        simp only [runHandler] at h
        split at h
        case isTrue hposted => exact hposted
        case isFalse => cases h
      cases msg with
      | none =>
          simp only [runHandler, if_pos hposted] at h
          obtain rfl := Option.some.inj h
          exact .noMessage hposted
      | some m =>
          rcases processClientMessage_cases h with ⟨hthrew, rfl⟩ | ⟨hhandled, rfl⟩
          · exact .threw hposted hthrew
          · exact .handled hposted hhandled
  | startHeartbeat =>
      simp only [runHandler] at h
      split at h
      case isTrue hposted =>
        obtain rfl := Option.some.inj h
        split
        case isTrue hstartup => exact .announce hposted hstartup
        case isFalse hstartup => exact .startHeartbeat hposted (eq_false_of_ne_true hstartup)
      case isFalse => cases h
  | complete r c =>
      obtain ⟨⟨ws, calls⟩, hcomplete, rfl⟩ := Option.map_eq_some_iff.mp h
      exact .complete hcomplete
  | signal =>
      simp only [runHandler] at h
      split at h
      case isTrue hset =>
        obtain rfl := Option.some.inj h
        exact .signal hset
      case isFalse => cases h
  | shutdownClosure =>
      simp only [runHandler] at h
      split at h
      case isTrue hposted =>
        obtain rfl := Option.some.inj h
        exact .shutdownClosure hposted
      case isFalse => cases h
  | stopClosure =>
      simp only [runHandler] at h
      split at h
      case isTrue hposted =>
        obtain rfl := Option.some.inj h
        exact .stopClosure hposted
      case isFalse => cases h
  | timerHandler =>
      simp only [runHandler] at h
      split at h
      case isTrue hset =>
        obtain rfl := Option.some.inj h
        exact .timerHandler hset
      case isFalse => cases h
  | slotReused =>
      obtain rfl := Option.some.inj h
      exact .slotReused
  | rehash =>
      simp only [runHandler, WebsocketProxy.rehash] at h
      split at h
      case isTrue hperm =>
        obtain rfl := Option.some.inj h
        exact .rehash hperm.1 hperm.2.1 hperm.2.2
      case isFalse => cases h

theorem runHandler_of_step {px px' : WebsocketProxy} {ev : Event} (h : px.step ev = some px') :
  px.runHandler ev = some px'
  := by
  rw [step] at h
  split at h
  case isTrue => cases h
  case isFalse => exact h

theorem ran_of_step {px px' : WebsocketProxy} {ev : Event} (h : px.step ev = some px') :
  px.Ran ev px'
  := ran_of_runHandler (runHandler_of_step h)

/-- The step drops closed connections: it runs `processClientMessage`, and that does not
throw. -/
def drains (px : WebsocketProxy) : Event → Bool
  | .processClientMessage msg =>
      !({ px with messageHandlers := px.messageHandlers - 1 }.processClientMessage msg).2
  | _ => false

theorem drains_some (px : WebsocketProxy) (m : Message) :
  px.drains (.processClientMessage (some m))
    = !((px.taking m).handleClientMessage px.taken).2
  := by
  have hresult : px.drains (.processClientMessage (some m))
      = (fun result : WebsocketProxy × Bool => !(if result.2 then (result.1, true)
          else ({ result.1 with toTables := result.1.toTables.removeClosedSockets }.processNext,
            false)).2) ((px.taking m).handleClientMessage px.taken) := rfl
  rw [hresult]
  generalize (px.taking m).handleClientMessage px.taken = result
  obtain ⟨px₁, threw⟩ := result
  cases threw with
  | true => rfl
  | false => rfl

/-- `processClientMessage` handles a message, and drops closed connections unless the
handling threw. -/
theorem processClientMessage_change {px : WebsocketProxy} (hwf : px.WellFormed)
    (msg : Option Message) {px' : WebsocketProxy}
    (h : px.runHandler (.processClientMessage msg) = some px') :
  ∃ t, Change px (.processClientMessage msg) t ∧
    px'.toTables = if px.drains (.processClientMessage msg) then t.removeClosedSockets else t
  := by
  cases ran_of_runHandler h with
  | noMessage =>
      use px.toTables, Change.unchanged _ _
      apply processNext_toTables
  | @threw m hposted hthrew =>
      refine ⟨_, handleClientMessage_change hwf m, ?_⟩
      rw [drains_some, hthrew]
      apply caught_toTables
  | @handled m hposted hhandled =>
      refine ⟨_, handleClientMessage_change hwf m, ?_⟩
      rw [drains_some, hhandled]
      apply processNext_toTables

/-- `sendHeartbeat` publishes a heartbeat, or does nothing. -/
theorem sendHeartbeat_cases (px : WebsocketProxy) (now : UInt64) :
  px.sendHeartbeat now = (false, px) ∨
  px.sendHeartbeat now = (true, px.sendMessageToClientAt (px.reserveMessage .heartbeat) now)
  := by
  unfold sendHeartbeat
  split
  · right
    rfl
  · left
    rfl

/-- The loop of `checkHeartbeats`, once the heartbeat of the server was sent. -/
theorem foldl_checkClient_unregisters {px px₁ : WebsocketProxy} (hwf : px.WellFormed)
    (htables : px₁.toTables = px.toTables) (now : UInt64) :
  px.Unregisters (px₁.clients.entries.foldl (checkClient now) px₁).toTables
    (expiredAmong now px.clients.entries)
  := by
  have hwf₁ : px₁.WellFormed := by
    rw [htables]
    exact hwf
  have hfold := foldl_checkClient now px₁.clients.entries px₁ hwf₁
  rw [htables] at hfold ⊢
  exact hfold

/-- `checkHeartbeats` drops the clients whose heartbeats stopped. -/
theorem checkHeartbeats_unregisters {px px₁ : WebsocketProxy} (hwf : px.WellFormed)
    (htables : px₁.toTables = px.toTables) :
  px.Unregisters px₁.checkHeartbeats.2.toTables
    (expiredAmong (px₁.clock px₁.readings) px.clients.entries)
  := by
  unfold checkHeartbeats
  split
  case isTrue h =>
    have hnil : px₁.clients.entries = [] := List.isEmpty_iff.mp h
    rw [htables] at hnil ⊢
    rw [hnil]
    apply Tables.Unregisters.refl hwf
  case isFalse =>
    simp only [getTimestamp]
    rcases sendHeartbeat_cases { px₁ with readings := px₁.readings + 1 } (px₁.clock px₁.readings)
      with h | h
    · rw [h]
      apply foldl_checkClient_unregisters hwf
      exact htables
    · rw [h]
      apply foldl_checkClient_unregisters hwf
      exact htables

theorem startHeartbeat_toTables (px : WebsocketProxy) :
  px.startHeartbeat.toTables = px.checkHeartbeats.2.toTables
  := by
  simp only [startHeartbeat]
  split
  · rfl
  · rfl

/-- `announce` drops the clients whose heartbeats stopped, by its second reading of the
clock. -/
theorem announce_unregisters {px px₁ : WebsocketProxy} (hwf : px.WellFormed)
    (htables : px₁.toTables = px.toTables) :
  px.Unregisters px₁.announce.toTables
    (expiredAmong (px₁.clock (px₁.readings + 1)) px.clients.entries)
  := by
  simp only [announce, getTimestamp, startHeartbeat_toTables]
  rcases sendHeartbeat_cases { px₁ with readings := px₁.readings + 1 } (px₁.clock px₁.readings)
    with h | h
  · rw [h]
    apply checkHeartbeats_unregisters hwf
    exact htables
  · rw [h]
    apply checkHeartbeats_unregisters hwf
    exact htables

/-- The heartbeat handler drops the clients whose heartbeats stopped. -/
theorem startHeartbeat_unregisters {px : WebsocketProxy} (hwf : px.WellFormed)
    {px' : WebsocketProxy} (h : px.runHandler .startHeartbeat = some px') :
  px.Unregisters px'.toTables px.expired
  := by
  unfold expired
  cases ran_of_runHandler h with
  | announce hposted hstartup =>
      rw [if_pos hstartup]
      apply announce_unregisters hwf
      rfl
  | startHeartbeat hposted hstartup =>
      rw [hstartup, startHeartbeat_toTables]
      apply checkHeartbeats_unregisters hwf
      rfl

theorem startHeartbeat_change {px : WebsocketProxy} (hwf : px.WellFormed)
    {px' : WebsocketProxy} (h : px.runHandler .startHeartbeat = some px') :
  Change px .startHeartbeat px'.toTables
  := by
  have hunregisters := startHeartbeat_unregisters hwf h
  apply Change.depart
  · apply hunregisters.departs
  · apply hunregisters.mem_clients

theorem callback_of_silent {call : Websocket.Callback} (h : call.Silent) (r : ℕ)
    (px : WebsocketProxy) :
  (callback r px call).toTables = px.toTables
  := by
  cases call with
  | onWsError => rfl
  | onWsData => rfl
  | onWsClosed => cases h
  | opened msg success =>
      cases success with
      | false => rfl
      | true => cases h

theorem foldl_callback_of_silent {calls : List Websocket.Callback}
    (h : ∀ call ∈ calls, call.Silent) (r : ℕ) (px : WebsocketProxy) :
  (calls.foldl (callback r) px).toTables = px.toTables
  := by
  apply List.foldlRecOn (motive := fun px' : WebsocketProxy => px'.toTables = px.toTables)
  · rfl
  · intro px' hpx' call hcall
    rw [callback_of_silent (h call hcall), hpx']

theorem entering_eq_none {px : WebsocketProxy} {r : ℕ} {c : Websocket.Completion}
    (h : ∀ port msg, c = .resumed (.success port) →
      (px.sockets r).opening ≠ some (.handshake, msg)) :
  px.entering (.complete r c) = none
  := by
  cases c with
  | resumed result =>
      cases result with
      | success port =>
          simp only [entering]
          split
          case h_1 msg hopening => apply absurd hopening (h port msg rfl)
          case h_2 => rfl
      | failure | hostNameNotSet => rfl
  | read | write | close => rfl

/-- That a connection is closed is noted for removal, after its errors were reported. -/
theorem perform_closed_toTables (px : WebsocketProxy) (r : ℕ) (ws : Websocket)
    {errors : List Websocket.Callback} (hsilent : ∀ call ∈ errors, call.Silent) :
  (px.perform r (ws, errors ++ [.onWsClosed])).toTables
    = { px.modifySocket r (fun _ => ws) with closedSockets := px.closedSockets.push ws.id }
  := by
  have herrors := foldl_callback_of_silent hsilent r
    { px with toTables := px.modifySocket r (fun _ => ws) }
  have hpush : ∀ px₁ : WebsocketProxy, px₁.toTables = px.modifySocket r (fun _ => ws) →
      (callback r px₁ .onWsClosed).toTables = { px.modifySocket r (fun _ => ws) with
        closedSockets := px.closedSockets.push ws.id } := by
    intro px₁ h
    have hid : (px₁.sockets r).id = ws.id := by rw [h, Tables.modifySocket_self]
    have hcallback : (callback r px₁ .onWsClosed).toTables = { px₁.toTables with
      closedSockets := px₁.closedSockets.push (px₁.sockets r).id } := rfl
    rw [hcallback, hid, h]
    rfl
  rw [perform, List.foldl_append]
  apply hpush _ herrors

/-- A completion changes the connection, and may enter it or note it for removal. -/
theorem complete_change {px : WebsocketProxy} {r : ℕ} {c : Websocket.Completion}
    {px' : WebsocketProxy} (h : px.runHandler (.complete r c) = some px') :
  Change px (.complete r c) px'.toTables
  := by
  obtain ⟨⟨ws, calls⟩, hcomplete, rfl⟩ := Option.map_eq_some_iff.mp h
  have hspec := Websocket.complete_spec hcomplete
  rcases hspec.calls with ⟨port, msg, rfl, hopening, rfl, hws⟩ |
    ⟨ec, errors, rfl, hsilent, rfl, hstatus, hdone, -⟩ | ⟨hsilent, hdone, hnot⟩
  · have hentering : px.entering (.complete r (.resumed (.success port))) = some (r, msg) := by
      simp only [entering, hopening]
    have htables : (px.perform r (ws, [.opened msg true])).toTables
        = { px.modifySocket r (fun _ =>
              { ws with clients := insert (px.slots msg).pid ws.clients }) with
            websocketsByUrlApiKey := px.websocketsByUrlApiKey.emplace (px.slotKey msg) r
            websocketsById := px.websocketsById.emplace ws.id r } := by
      simp only [perform, List.foldl_cons, List.foldl_nil, callback, onOpened, if_true,
        Tables.modifySocket, onWsOpened, sendMessageToClient, getTimestamp,
        sendMessageToClientAt, storeData, storeStatus, Function.update_self,
        Function.update_idem]
      rfl
    rw [htables]
    apply Change.enter rfl hcomplete hentering
  · have htables := perform_closed_toTables px r ws hsilent
    rw [htables]
    apply Change.closed rfl hcomplete rfl hstatus hdone
  · have hentering := entering_eq_none hnot
    have htables : (px.perform r (ws, calls)).toTables = px.modifySocket r (fun _ => ws) :=
      foldl_callback_of_silent hsilent r _
    rw [htables]
    apply Change.complete rfl hcomplete hentering hdone

/-- Every step is a change of the tables, after which closed connections may be dropped. -/
theorem step_tables {px px' : WebsocketProxy} {ev : Event} (hwf : px.WellFormed)
    (h : px.step ev = some px') :
  ∃ t, Change px ev t ∧ px'.toTables = if px.drains ev then t.removeClosedSockets else t
  := by
  have hdrained : ∀ {t : Tables}, Change px ev t → t = px'.toTables →
      ∃ t, Change px ev t ∧ px'.toTables = t := by
    rintro t hchange rfl
    exact ⟨_, hchange, rfl⟩
  have hrun := runHandler_of_step h
  cases ran_of_runHandler hrun with
  | handled | threw | noMessage => apply processClientMessage_change hwf _ hrun
  | announce | startHeartbeat => apply hdrained (startHeartbeat_change hwf hrun) rfl
  | complete => apply hdrained (complete_change hrun) rfl
  | signal | stopClosure | timerHandler | slotReused =>
      apply hdrained (Change.unchanged _ _) rfl
  | shutdownClosure =>
      apply hdrained (Change.closeAll rfl (Tables.closeAll_closesAll px.toTables)) rfl
  | @rehash clients byId byKey hclients hbyId hbyKey =>
      have hchange : Change px (.rehash clients byId byKey) { px.toTables with
          clients, websocketsById := byId, websocketsByUrlApiKey := byKey } := by
        apply Change.quiet
        · intro pid
          apply AList.mem_of_perm hclients
        · intro id
          apply AList.perm_lookup hbyId
        · intro k
          apply AList.perm_lookup hbyKey
      apply hdrained hchange rfl

/-- Every step is a change of the tables and a drain. -/
theorem step_change {px px' : WebsocketProxy} {ev : Event} (hwf : px.WellFormed)
    (h : px.step ev = some px') :
  ∃ t gone, Change px ev t ∧ t.Drains px'.toTables gone
  := by
  obtain ⟨t, hchange, htables⟩ := step_tables hwf h
  rw [htables]
  split
  case isTrue =>
    obtain ⟨gone, hdrains⟩ := Tables.removeClosedSockets_drains (hchange.wellFormed hwf)
    exact ⟨t, gone, hchange, hdrains⟩
  case isFalse => exact ⟨t, _, hchange, Tables.Drains.refl t⟩

end WebsocketProxy
