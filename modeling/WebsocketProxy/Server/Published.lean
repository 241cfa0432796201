import WebsocketProxy.Server.Numbering
import WebsocketProxy.Server.Slots

/-!
# What a step publishes

A completion of a connection publishes what the calls of the connection are about, in their
order. Other steps publish heartbeats, errors that answer requests, and that a client was
attached to a connection. All messages are marked with the process id of the server.
-/

namespace WebsocketProxy

/-- Going from `px` to `px'`, messages with the data `datas` are published. -/
def Publishes (px : WebsocketProxy) (datas : List Message.Data) (px' : WebsocketProxy) : Prop :=
  px'.pid = px.pid ∧ px'.serverQueue = px.serverQueue ++ datas.map px.reserveMessage

theorem Publishes.pid {px px' : WebsocketProxy} {datas : List Message.Data}
    (h : px.Publishes datas px') :
  px'.pid = px.pid
  := h.1

theorem Publishes.serverQueue {px px' : WebsocketProxy} {datas : List Message.Data}
    (h : px.Publishes datas px') :
  px'.serverQueue = px.serverQueue ++ datas.map px.reserveMessage
  := h.2

theorem Publishes.nothing {px px' : WebsocketProxy} (hpid : px'.pid = px.pid)
    (hqueue : px'.serverQueue = px.serverQueue) :
  px.Publishes [] px'
  := by
  use hpid
  rw [hqueue, List.map_nil, List.append_nil]

theorem Publishes.trans {px px' px'' : WebsocketProxy} {datas datas' : List Message.Data}
    (h : px.Publishes datas px') (h' : px'.Publishes datas' px'') :
  px.Publishes (datas ++ datas') px''
  := by
  have hreserve : px'.reserveMessage = px.reserveMessage := by
    funext data
    rw [reserveMessage, reserveMessage, h.pid]
  constructor
  · rw [h'.pid, h.pid]
  · rw [h'.serverQueue, h.serverQueue, hreserve, List.map_append, List.append_assoc]

/-- The data of the error a connection or a request is told about. -/
def errorData (id : UInt64) (err : Bytes) : Message.Data :=
  .wsError { id, len := UInt32.ofNat err.length, err := err.take (UInt32.ofNat err.length).toNat }

/-- What a handler that is not run by a completion can publish. -/
inductive Announces (px : WebsocketProxy) (ev : Event) : Message.Data → Prop
  | heartbeat : Announces px ev .heartbeat
  | failed {m req err} (hev : ev = .processClientMessage (some m)) (hreq : m.data = .wsRequest req) :
      Announces px ev (errorData req.id err)
  | attached {m req r} (hev : ev = .processClientMessage (some m)) (hreq : m.data = .openWs req)
      (hpid : m.pid ∈ px.clients) (hkey : px.websocketsByUrlApiKey.lookup req.key = some r)
      (hlive : ¬ (px.sockets r).Closing) :
      Announces px ev (.openWs
        { id := (px.sockets r).id, clientPid := m.pid, newConnection := true })

/-- What the call of a connection publishes. -/
def callData (px : WebsocketProxy) (r : ℕ) : Websocket.Callback → Option Message.Data
  | .onWsError err => some (errorData (px.sockets r).id err)
  | .onWsData data => some (.wsData
      { id := (px.sockets r).id, len := UInt32.ofNat data.length, remaining := 0
        data := data.take (UInt32.ofNat data.length).toNat })
  | .onWsClosed => some (.closeWs { id := (px.sockets r).id })
  | .opened msg true => some (.openWs
      { id := (px.sockets r).id, clientPid := (px.slots msg).pid, newConnection := true })
  | .opened _ false => none

/-! ### Messages -/

/-- `openWs` publishes that the sender was attached, or nothing. -/
theorem openWs_publishes (px : WebsocketProxy) {m : Message} {req : WsOpen}
    (hreq : m.data = .openWs req) :
  ∃ datas, px.Publishes datas ((px.taking m).openWs px.taken req).1 ∧
    ∀ data ∈ datas, px.Announces (.processClientMessage (some m)) data
  := by
  have hnew : ∀ px₁ : WebsocketProxy, px₁.pid = px.pid → px₁.serverQueue = px.serverQueue →
      ∃ datas, px.Publishes datas (px₁.openNewWs px.taken req).1 ∧
        ∀ data ∈ datas, px.Announces (.processClientMessage (some m)) data := by
    intro px₁ hpid hqueue
    use []
    constructor
    · simp only [openNewWs]
      split
      · exact .nothing hpid hqueue
      · exact .nothing hpid hqueue
    · rintro data ⟨⟩
  rcases getClient_taking_cases px m with ⟨hpid, clients, -, hget⟩ | ⟨-, hget⟩
  · simp only [openWs, slots_taking, hget, if_true]
    split
    case h_1 r hkey =>
      split
      case isTrue hstate =>
        use [.openWs { id := (px.sockets r).id, clientPid := m.pid, newConnection := true }]
        constructor
        · use rfl
          dsimp only [storeStatus, storeData, onWsOpened, sendMessageToClient, getTimestamp,
            sendMessageToClientAt]
          rw [Tables.modifySocket_self]
          rfl
        · intro data hdata
          obtain rfl := List.mem_singleton.mp hdata
          exact .attached rfl hreq hpid hkey (not_or.mpr hstate)
      case isFalse => exact hnew _ rfl rfl
    case h_2 => exact hnew _ rfl rfl
  · simp only [openWs, slots_taking, hget]
    use []
    constructor
    · exact .nothing rfl rfl
    · rintro data ⟨⟩

/-- `sendWsRequest` publishes an error, or nothing. -/
theorem sendWsRequest_publishes (px : WebsocketProxy) {m : Message} {req : WsRequest}
    (hreq : m.data = .wsRequest req) :
  ∃ datas, px.Publishes datas ((px.taking m).sendWsRequest px.taken req) ∧
    ∀ data ∈ datas, px.Announces (.processClientMessage (some m)) data
  := by
  have herror : ∀ (px₁ : WebsocketProxy) (err : Bytes), px₁.pid = px.pid →
      px₁.serverQueue = px.serverQueue →
      ∃ datas, px.Publishes datas
          ((px₁.onWsError req.id err (UInt32.ofNat err.length)).storeStatus px.taken .failed) ∧
        ∀ data ∈ datas, px.Announces (.processClientMessage (some m)) data := by
    intro px₁ err hpid hqueue
    use [errorData req.id err]
    constructor
    · use hpid
      dsimp only [storeStatus, onWsError, sendMessageToClient, getTimestamp, sendMessageToClientAt]
      rw [hqueue, reserveMessage, hpid]
      rfl
    · intro data hdata
      obtain rfl := List.mem_singleton.mp hdata
      exact .failed rfl hreq
  rcases getClient_taking_cases px m with ⟨-, clients, -, hget⟩ | ⟨-, hget⟩
  · simp only [sendWsRequest, slots_taking, hget, if_true]
    split
    · use []
      constructor
      · exact .nothing rfl rfl
      · rintro data ⟨⟩
    · apply herror _ _ rfl rfl
  · simp only [sendWsRequest, slots_taking, hget]
    apply herror _ _ rfl rfl

theorem getClient_keeps (px : WebsocketProxy) (pid : UInt64) :
  (px.getClient pid).2.pid = px.pid ∧ (px.getClient pid).2.serverQueue = px.serverQueue
  := by
  rcases getClient_cases px pid with ⟨-, clients, -, hget⟩ | ⟨-, hget⟩
  · rw [hget]
    exact ⟨rfl, rfl⟩
  · rw [hget]
    exact ⟨rfl, rfl⟩

theorem unregisterClientAt_publishes (px : WebsocketProxy) (pid : UInt64) :
  px.Publishes [] (px.unregisterClientAt pid)
  := by
  simp only [unregisterClientAt]
  split
  · exact .nothing rfl rfl
  · exact .nothing rfl rfl

/-- What the handling of a message publishes. -/
theorem handleClientMessage_publishes (px : WebsocketProxy) (m : Message) :
  ∃ datas, px.Publishes datas ((px.taking m).handleClientMessage px.taken).1 ∧
    ∀ data ∈ datas, px.Announces (.processClientMessage (some m)) data
  := by
  have hnothing : ∀ {px' : WebsocketProxy}, px'.pid = px.pid → px'.serverQueue = px.serverQueue →
      ∃ datas, px.Publishes datas px' ∧
        ∀ data ∈ datas, px.Announces (.processClientMessage (some m)) data := by
    intro px' hpid hqueue
    use [], .nothing hpid hqueue
    rintro data ⟨⟩
  obtain ⟨hpid, hqueue⟩ := getClient_keeps (px.taking m) m.pid
  rw [handleClientMessage, slots_taking]
  split
  case h_1 => exact hnothing rfl rfl
  case h_2 =>
    simp only [unregisterClient]
    split
    · simp only [unregisterClientAt]
      split
      · apply hnothing rfl rfl
      · apply hnothing rfl rfl
    · apply hnothing rfl rfl
  case h_3 =>
    rw [handleClientHeartbeat, slots_taking]
    apply hnothing hpid hqueue
  case h_4 req hreq => exact openWs_publishes px hreq
  case h_5 =>
    simp only [closeWs, slots_taking]
    split
    · apply hnothing hpid hqueue
    · apply hnothing hpid hqueue
  case h_6 req hreq => exact sendWsRequest_publishes px hreq
  case h_7 req _ =>
    obtain ⟨sockets, slots, stores, storedAfter, hafter⟩ :=
      (px.taking m).handleSubscribe_changes px.taken req
    rw [slots_taking] at hafter
    rw [hafter]
    apply hnothing hpid hqueue
  case h_8 req _ =>
    obtain ⟨sockets, slots, stores, storedAfter, hafter⟩ :=
      (px.taking m).handleUnsubscribe_changes px.taken req
    rw [slots_taking] at hafter
    rw [hafter]
    apply hnothing hpid hqueue
  all_goals exact hnothing rfl rfl

theorem processNext_publishes (px : WebsocketProxy) :
  px.Publishes [] px.processNext
  := by
  obtain ⟨handlers, closures, readings, autoShutdown, hnext, -⟩ := px.processNext_changes
  rw [hnext]
  exact .nothing rfl rfl

/-- What was published when a message was handled stays. -/
theorem message_serverQueue {px px' : WebsocketProxy} {m : Message}
    (h : px.step (.processClientMessage (some m)) = some px') :
  px'.serverQueue = ((px.taking m).handleClientMessage px.taken).1.serverQueue
  := by
  rcases processClientMessage_cases (runHandler_of_step h) with ⟨-, rfl⟩ | ⟨-, rfl⟩
  · unfold caught
    split
    · rfl
    · rfl
  · have hnext := (processNext_publishes { ((px.taking m).handleClientMessage px.taken).1 with
      toTables := ((px.taking m).handleClientMessage px.taken).1.removeClosedSockets }).serverQueue
    rw [List.map_nil, List.append_nil] at hnext
    exact hnext

/-! ### Heartbeats -/

theorem sendHeartbeat_publishes (px : WebsocketProxy) (now : UInt64) :
  ∃ datas, px.Publishes datas (px.sendHeartbeat now).2 ∧ ∀ data ∈ datas, data = .heartbeat
  := by
  rcases sendHeartbeat_cases px now with h | h
  · rw [h]
    use [], .nothing rfl rfl
    rintro data ⟨⟩
  · rw [h]
    use [.heartbeat]
    constructor
    · exact ⟨rfl, rfl⟩
    · exact fun data hdata => List.mem_singleton.mp hdata

theorem startHeartbeat_publishes (px : WebsocketProxy) :
  ∃ datas, px.Publishes datas px.startHeartbeat ∧ ∀ data ∈ datas, data = .heartbeat
  := by
  have hcheck : ∃ datas, px.Publishes datas px.checkHeartbeats.2 ∧
      ∀ data ∈ datas, data = .heartbeat := by
    unfold checkHeartbeats
    split
    · use [], .nothing rfl rfl
      rintro data ⟨⟩
    · simp only [getTimestamp]
      obtain ⟨datas, hdatas, hheartbeat⟩ := sendHeartbeat_publishes
        { px with readings := px.readings + 1 } (px.clock px.readings)
      have hdatas : px.Publishes datas ({ px with readings := px.readings + 1 }.sendHeartbeat
          (px.clock px.readings)).2 := hdatas
      use datas
      constructor
      · apply List.foldlRecOn (motive := fun px' : WebsocketProxy => px.Publishes datas px')
        · exact hdatas
        · intro px' hpx' kvp _
          unfold checkClient
          split
          · rw [← List.append_nil datas]
            apply hpx'.trans (unregisterClientAt_publishes px' kvp.1)
          · exact hpx'
      · exact hheartbeat
  simp only [startHeartbeat]
  split
  · exact hcheck
  · exact hcheck

theorem announce_publishes (px : WebsocketProxy) :
  ∃ datas, px.Publishes datas px.announce ∧ ∀ data ∈ datas, data = .heartbeat
  := by
  simp only [announce, getTimestamp]
  obtain ⟨datas, hdatas, hheartbeat⟩ := sendHeartbeat_publishes
    { px with readings := px.readings + 1 } (px.clock px.readings)
  obtain ⟨datas', hdatas', hheartbeat'⟩ := startHeartbeat_publishes
    { ({ px with readings := px.readings + 1 }.sendHeartbeat (px.clock px.readings)).2 with
      startup := false }
  have hdatas : px.Publishes datas { ({ px with
      readings := px.readings + 1 }.sendHeartbeat (px.clock px.readings)).2 with
      startup := false } := hdatas
  use datas ++ datas', hdatas.trans hdatas'
  intro data hdata
  rcases List.mem_append.mp hdata with hdata | hdata
  · apply hheartbeat data hdata
  · apply hheartbeat' data hdata

/-! ### Completions -/

/-- What calls publish is the same after a call. -/
theorem callback_callData (r : ℕ) (px : WebsocketProxy) (call : Websocket.Callback) :
  (callback r px call).callData r = px.callData r
  := by
  have hsame : ∀ {px' : WebsocketProxy}, (px'.sockets r).id = (px.sockets r).id →
      (∀ msg, (px'.slots msg).pid = (px.slots msg).pid) → px'.callData r = px.callData r := by
    intro px' hid hslots
    funext call
    cases call with
    | onWsError | onWsData | onWsClosed => simp only [callData, hid]
    | opened msg success =>
        cases success with
        | true => simp only [callData, hid, hslots]
        | false => rfl
  cases call with
  | onWsError | onWsData | onWsClosed => exact hsame rfl (fun _ => rfl)
  | opened msg success =>
      have hpid : ∀ (px₁ : WebsocketProxy) (data : Message.Data) (status : Message.Status) (n : ℕ),
          (((px₁.storeData msg data).storeStatus msg status).slots n).pid = (px₁.slots n).pid := by
        intro px₁ data status n
        rcases eq_or_ne n msg with rfl | hne
        · rw [storeStatus_slots_self, storeData_slots_self]
        · rw [storeStatus_slots_of_ne _ hne, storeData_slots_of_ne _ hne]
      cases success with
      | false =>
          apply hsame
          · rfl
          · intro n
            change ((px.storeStatus msg .failed).slots n).pid = (px.slots n).pid
            rcases eq_or_ne n msg with rfl | hne
            · rw [storeStatus_slots_self]
            · rw [storeStatus_slots_of_ne _ hne]
      | true =>
          apply hsame
          · change ((px.modifySocket r (fun ws => { ws with
              clients := insert (px.slots msg).pid ws.clients })).sockets r).id = _
            rw [Tables.modifySocket_self]
          · intro n
            apply hpid _ _ _ n

/-- The call of a connection publishes what it is about. -/
theorem callback_publishes (r : ℕ) (px : WebsocketProxy) (call : Websocket.Callback) :
  px.Publishes (px.callData r call).toList (callback r px call)
  := by
  cases call with
  | onWsError | onWsData | onWsClosed => exact ⟨rfl, rfl⟩
  | opened msg success =>
      cases success with
      | true => exact ⟨rfl, rfl⟩
      | false => exact .nothing rfl rfl

/-- The calls of a connection publish what they are about, in their order. -/
theorem foldl_callback_publishes (r : ℕ) (calls : List Websocket.Callback) :
  ∀ px : WebsocketProxy, px.Publishes (calls.filterMap (px.callData r)) (calls.foldl (callback r) px)
  := by
  induction calls with
  | nil =>
      intro px
      exact .nothing rfl rfl
  | cons call calls ih =>
      intro px
      have hrest := ih (callback r px call)
      rw [callback_callData] at hrest
      have hcalls : (call :: calls).filterMap (px.callData r)
          = (px.callData r call).toList ++ calls.filterMap (px.callData r) := by
        cases h : px.callData r call with
        | none => rw [List.filterMap_cons_none h]; rfl
        | some data => rw [List.filterMap_cons_some h]; rfl
      rw [hcalls]
      exact (callback_publishes r px call).trans hrest

/-- A completion publishes what its calls are about. -/
theorem complete_publishes {px px' : WebsocketProxy} {r : ℕ} {c : Websocket.Completion}
    (h : px.step (.complete r c) = some px') :
  ∃ ws calls, (px.sockets r).complete c = some (ws, calls) ∧
    px.Publishes (calls.filterMap (px.callData r)) px'
  := by
  obtain ⟨⟨ws, calls⟩, hcomplete, rfl⟩ := Option.map_eq_some_iff.mp (runHandler_of_step h)
  use ws, calls, hcomplete
  have hpublishes := foldl_callback_publishes r calls
    { px with toTables := px.modifySocket r (fun _ => ws) }
  have hdata : WebsocketProxy.callData { px with toTables := px.modifySocket r (fun _ => ws) } r
      = px.callData r := by
    have hid : ((px.modifySocket r (fun _ => ws)).sockets r).id = (px.sockets r).id := by
      rw [Tables.modifySocket_self]
      exact (Websocket.complete_spec hcomplete).id
    funext call
    cases call with
    | onWsError | onWsData | onWsClosed => simp only [callData, hid]
    | opened msg success =>
        cases success with
        | true => simp only [callData, hid]
        | false => rfl
  rw [hdata] at hpublishes
  exact ⟨hpublishes.pid, hpublishes.serverQueue⟩

/-! ### Steps -/

/-- A step that is not a completion publishes heartbeats, an error that answers a request, or
that a client was attached. -/
theorem step_publishes {px px' : WebsocketProxy} {ev : Event} (h : px.step ev = some px')
    (hcomplete : ∀ r c, ev ≠ .complete r c) :
  ∃ datas, px.Publishes datas px' ∧ ∀ data ∈ datas, px.Announces ev data
  := by
  have hpid := step_pid h
  have hnothing : px'.serverQueue = px.serverQueue →
      ∃ datas, px.Publishes datas px' ∧ ∀ data ∈ datas, px.Announces ev data := by
    intro hqueue
    use [], .nothing hpid hqueue
    rintro data ⟨⟩
  have hheartbeats : ∀ {px₁ px₂ : WebsocketProxy}, px₁.pid = px.pid →
      px₁.serverQueue = px.serverQueue → (∃ datas, px₁.Publishes datas px₂ ∧
        ∀ data ∈ datas, data = .heartbeat) →
      ∃ datas, px.Publishes datas px₂ ∧ ∀ data ∈ datas, px.Announces .startHeartbeat data := by
    rintro px₁ px₂ hpid hqueue ⟨datas, hdatas, hheartbeat⟩
    use datas
    constructor
    · apply Publishes.trans (.nothing hpid hqueue) hdatas
    · intro data hdata
      rw [hheartbeat data hdata]
      exact .heartbeat
  cases ran_of_step h with
  | @handled m | @threw m =>
      obtain ⟨datas, hdatas, hannounces⟩ := handleClientMessage_publishes px m
      refine ⟨datas, ⟨hpid, ?_⟩, hannounces⟩
      rw [← hdatas.serverQueue]
      apply message_serverQueue h
  | noMessage =>
      apply hnothing
      have hnext := (processNext_publishes { px with
        messageHandlers := px.messageHandlers - 1
        toTables := px.removeClosedSockets }).serverQueue
      rw [List.map_nil, List.append_nil] at hnext
      exact hnext
  | announce =>
      apply hheartbeats _ _ (announce_publishes _)
      · rfl
      · rfl
  | startHeartbeat =>
      apply hheartbeats _ _ (startHeartbeat_publishes _)
      · rfl
      · rfl
  | @complete r c => exact absurd rfl (hcomplete r c)
  | signal | stopClosure | timerHandler | shutdownClosure | slotReused | rehash =>
      apply hnothing rfl

/-- What was published stays. -/
theorem step_serverQueue {px px' : WebsocketProxy} {ev : Event} (h : px.step ev = some px') :
  ∃ news, px'.serverQueue = px.serverQueue ++ news
  := by
  rcases em (∃ r c, ev = .complete r c) with ⟨r, c, rfl⟩ | hcomplete
  · obtain ⟨ws, calls, -, hpublishes⟩ := complete_publishes h
    exact ⟨_, hpublishes.serverQueue⟩
  · obtain ⟨datas, hpublishes, -⟩ := step_publishes h (fun r c hev => hcomplete ⟨r, c, hev⟩)
    exact ⟨_, hpublishes.serverQueue⟩

end WebsocketProxy
