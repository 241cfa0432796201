import WebsocketProxy.Server.Openings

/-!
# What is written into slots

A step writes into the slot of the message it takes, or of the message whose opening it
ends. All other slots stay as they are, unless a client reuses them.
-/

namespace WebsocketProxy

theorem storeStatus_slots_self (px : WebsocketProxy) (msg : ℕ) (status : Message.Status) :
  (px.storeStatus msg status).slots msg = { px.slots msg with status }
  := Function.update_self ..

theorem storeData_slots_self (px : WebsocketProxy) (msg : ℕ) (data : Message.Data) :
  (px.storeData msg data).slots msg = { px.slots msg with data }
  := Function.update_self ..

theorem storeStatus_slots_of_ne (px : WebsocketProxy) {msg n : ℕ} (hne : n ≠ msg)
    (status : Message.Status) :
  (px.storeStatus msg status).slots n = px.slots n
  := Function.update_of_ne hne ..

theorem storeData_slots_of_ne (px : WebsocketProxy) {msg n : ℕ} (hne : n ≠ msg)
    (data : Message.Data) :
  (px.storeData msg data).slots n = px.slots n
  := Function.update_of_ne hne ..

theorem getClient_slots (px : WebsocketProxy) (pid : UInt64) :
  (px.getClient pid).2.slots = px.slots
  := by
  rcases getClient_cases px pid with ⟨-, clients, -, hget⟩ | ⟨-, hget⟩
  · rw [hget]
    rfl
  · rw [hget]

/-! ### Messages -/

theorem unregisterClientAt_slots (px : WebsocketProxy) (pid : UInt64) :
  (px.unregisterClientAt pid).slots = px.slots
  := by
  simp only [unregisterClientAt]
  split
  · rfl
  · rfl

/-- The slot `msg` alone is written into, and an `OpenWs` message is in it only if there was
one before. -/
structure WritesSlot (slots slots' : ℕ → Message) (msg : ℕ) : Prop where
  others : ∀ n ≠ msg, slots' n = slots n
  openWs : ∀ req, (slots' msg).data = .openWs req → ∃ req, (slots msg).data = .openWs req

theorem WritesSlot.refl (slots : ℕ → Message) (msg : ℕ) :
  WritesSlot slots slots msg
  := by
  constructor
  · intro n _
    rfl
  · intro req h
    use req

theorem WritesSlot.status {slots : ℕ → Message} {px : WebsocketProxy} {msg : ℕ}
    (h : WritesSlot slots px.slots msg) (status : Message.Status) :
  WritesSlot slots (px.storeStatus msg status).slots msg
  := by
  constructor
  · intro n hne
    rw [storeStatus_slots_of_ne _ hne]
    apply h.others n hne
  · rw [storeStatus_slots_self]
    apply h.openWs

theorem WritesSlot.data {slots : ℕ → Message} {px : WebsocketProxy} {msg : ℕ}
    (h : WritesSlot slots px.slots msg) {data : Message.Data}
    (hdata : ∀ req, data = .openWs req → ∃ req, (slots msg).data = .openWs req) :
  WritesSlot slots (px.storeData msg data).slots msg
  := by
  constructor
  · intro n hne
    rw [storeData_slots_of_ne _ hne]
    apply h.others n hne
  · rw [storeData_slots_self]
    apply hdata

theorem openNewWs_writes {slots : ℕ → Message} {px : WebsocketProxy} {msg : ℕ}
    (h : WritesSlot slots px.slots msg) {req : WsOpen} (hreq : (slots msg).data = .openWs req)
    (req' : WsOpen) :
  WritesSlot slots (px.openNewWs msg req').1.slots msg
  := by
  have hstored : WritesSlot slots
      (px.storeData msg (.openWs { req' with newConnection := true })).slots msg := by
    apply h.data
    exact fun _ _ => ⟨req, hreq⟩
  simp only [openNewWs]
  split
  · exact hstored
  · exact hstored

theorem openWs_writes (px : WebsocketProxy) {msg : ℕ} {req : WsOpen}
    (hreq : (px.slots msg).data = .openWs req) :
  WritesSlot px.slots (px.openWs msg req).1.slots msg
  := by
  have hget : WritesSlot px.slots (px.getClient (px.slots msg).pid).2.slots msg := by
    rw [getClient_slots]
    apply WritesSlot.refl
  simp only [openWs]
  split
  · split
    · split
      · apply WritesSlot.status
        apply hget.data
        exact fun _ _ => ⟨req, hreq⟩
      · apply openNewWs_writes hget hreq
    · apply openNewWs_writes hget hreq
  · apply WritesSlot.status
    apply hget.data
    exact fun _ _ => ⟨req, hreq⟩

/-- The handling of a message writes into its slot only. -/
theorem handleClientMessage_writes (px : WebsocketProxy) (msg : ℕ) :
  WritesSlot px.slots (px.handleClientMessage msg).1.slots msg
  := by
  have hrefl := WritesSlot.refl px.slots msg
  have hget : WritesSlot px.slots (px.getClient (px.slots msg).pid).2.slots msg := by
    rw [getClient_slots]
    exact hrefl
  rw [handleClientMessage]
  split
  case h_1 =>
    simp only [handleClientRegistration]
    apply WritesSlot.status
    apply WritesSlot.data hrefl
    rintro req ⟨⟩
  case h_2 =>
    simp only [unregisterClient]
    split
    · rw [unregisterClientAt_slots]
      exact hrefl
    · exact hrefl
  case h_3 => exact hget
  case h_4 req hreq => apply openWs_writes px hreq
  case h_5 =>
    simp only [closeWs]
    apply WritesSlot.status
    split
    · exact hget
    · exact hget
  case h_6 =>
    simp only [sendWsRequest]
    split
    · split
      · apply WritesSlot.status hget
      · apply WritesSlot.status hget
    · apply WritesSlot.status hget
  case h_7 =>
    simp only [handleSubscribe]
    split
    · split
      · split
        · apply WritesSlot.status hget
        · apply WritesSlot.status
          apply WritesSlot.data hget
          rintro req ⟨⟩
      · apply WritesSlot.status hget
    · apply WritesSlot.status hget
  case h_8 =>
    simp only [handleUnsubscribe]
    apply WritesSlot.status
    split
    · split
      · split
        · exact hget
        · exact hget
      · exact hget
    · exact hget
  all_goals exact hrefl

/-! ### Other events -/

theorem processNext_slots (px : WebsocketProxy) :
  px.processNext.slots = px.slots
  := by
  obtain ⟨handlers, closures, readings, autoShutdown, hnext, -⟩ := px.processNext_changes
  rw [hnext]

theorem caught_slots (px : WebsocketProxy) :
  px.caught.slots = px.slots
  := by
  unfold caught
  split
  · rfl
  · rfl

/-- What is read in the slots when a message was handled stays. -/
theorem message_slots {px px' : WebsocketProxy} {m : Message}
    (h : px.step (.processClientMessage (some m)) = some px') :
  px'.slots = ((px.taking m).handleClientMessage px.taken).1.slots
  := by
  rcases processClientMessage_cases (runHandler_of_step h) with ⟨-, rfl⟩ | ⟨-, rfl⟩
  · apply caught_slots
  · apply processNext_slots

theorem sendHeartbeat_slots (px : WebsocketProxy) (now : UInt64) :
  (px.sendHeartbeat now).2.slots = px.slots
  := by
  rcases sendHeartbeat_cases px now with h | h
  · rw [h]
  · rw [h]
    rfl

theorem startHeartbeat_slots (px : WebsocketProxy) :
  px.startHeartbeat.slots = px.slots
  := by
  have hcheck : px.checkHeartbeats.2.slots = px.slots := by
    unfold checkHeartbeats
    split
    · rfl
    · apply List.foldlRecOn (motive := fun px' : WebsocketProxy => px'.slots = px.slots)
      · apply sendHeartbeat_slots _ _
      · intro px' hpx' kvp _
        unfold checkClient
        split
        · rw [unregisterClientAt_slots, hpx']
        · exact hpx'
  simp only [startHeartbeat]
  split
  · exact hcheck
  · exact hcheck

theorem announce_slots (px : WebsocketProxy) :
  px.announce.slots = px.slots
  := by
  simp only [announce]
  rw [startHeartbeat_slots]
  apply sendHeartbeat_slots _ _

theorem callback_slots (r : ℕ) (px : WebsocketProxy) {call : Websocket.Callback} {n : ℕ}
    (h : ∀ success, call ≠ .opened n success) :
  (callback r px call).slots n = px.slots n
  := by
  cases call with
  | onWsError | onWsData | onWsClosed => rfl
  | opened msg success =>
      have hne : n ≠ msg := by
        rintro rfl
        apply h success rfl
      simp only [callback, onOpened]
      split
      · rw [storeStatus_slots_of_ne _ hne]
        apply storeData_slots_of_ne _ hne _
      · apply storeStatus_slots_of_ne _ hne _

/-- A completion writes into the slot of the message it ends the opening of. -/
theorem complete_slots {px px' : WebsocketProxy} {r : ℕ} {c : Websocket.Completion}
    (h : px.runHandler (.complete r c) = some px') {n : ℕ}
    (hopening : ∀ stage, (px.sockets r).opening = some (stage, n) →
      (px'.sockets r).opening ≠ none) :
  px'.slots n = px.slots n
  := by
  obtain ⟨⟨ws, calls⟩, hcomplete, rfl⟩ := Option.map_eq_some_iff.mp h
  have hafter : ((px.perform r (ws, calls)).sockets r).opening = ws.opening := by
    apply (foldl_callback_opening r r calls _).trans
    dsimp only
    rw [Tables.modifySocket_self]
  have hcalls : ∀ call ∈ calls, ∀ success, call ≠ .opened n success := by
    rintro call hcall success rfl
    have hnonempty : calls.filterMap (Websocket.Callback.status n) ≠ [] := by
      intro hnil
      rw [List.filterMap_eq_nil_iff] at hnil
      have hnone := hnil _ hcall
      rw [Websocket.Callback.status, if_pos rfl] at hnone
      cases hnone
    rcases Websocket.complete_answers hcomplete with ⟨-, hanswers⟩ |
      ⟨stage, msg, status, -, hbefore, hended, hanswers⟩
    · apply hnonempty (hanswers n)
    · rw [hanswers] at hnonempty
      split at hnonempty
      case isTrue heq => exact hopening stage (heq ▸ hbefore) (hafter.trans hended)
      case isFalse => exact hnonempty rfl
  apply List.foldlRecOn (motive := fun px' : WebsocketProxy => px'.slots n = px.slots n)
  · rfl
  · intro px' hpx' call hcall
    rw [callback_slots r px' (hcalls call hcall), hpx']

/-- A step leaves those slots as they are that are not of the message it takes, not of the
message whose opening it ends, and not reused. -/
theorem step_slots {px px' : WebsocketProxy} {ev : Event} (h : px.step ev = some px') {n : ℕ}
    (htaken : ∀ m, ev = .processClientMessage (some m) → n ≠ px.taken)
    (hopening : ∀ r c, ev = .complete r c → ∀ stage, (px.sockets r).opening = some (stage, n) →
      (px'.sockets r).opening ≠ none)
    (hreused : ∀ contents, ev ≠ .slotReused n contents) :
  px'.slots n = px.slots n
  := by
  cases ran_of_step h with
  | @handled m | @threw m =>
      have hne := htaken m rfl
      rw [message_slots h, (handleClientMessage_writes _ _).others _ hne]
      exact Function.update_of_ne hne ..
  | noMessage => exact congrFun (processNext_slots _) n
  | announce => exact congrFun (announce_slots _) n
  | startHeartbeat => exact congrFun (startHeartbeat_slots _) n
  | @complete r c => exact complete_slots (runHandler_of_step h) (hopening r c rfl)
  | signal | stopClosure | timerHandler | shutdownClosure | rehash => rfl
  | @slotReused msg contents =>
      apply Function.update_of_ne
      rintro rfl
      apply hreused contents rfl

end WebsocketProxy
