import WebsocketProxy.Server.Projection

/-!
# How messages are answered

A message is answered by storing a status in its slot. `Handles` says what the handling of
a message does besides what it does to the tables: it stores some answers, and leaves the
process as it is. A message of a kind that is answered gets one answer when it is handled,
unless a connection is opened for it; then it gets one when the opening ends.
-/

/-- The kinds of messages that are answered when they are handled, or when the connection
opened for them is. -/
def Message.Data.Answered : Message.Data → Prop
  | .register _ | .openWs _ | .closeWs _ | .subscribe _ => True
  | _ => False

namespace WebsocketProxy

/-- Going from `px` to `px'`, the statuses `answers` are stored in the slot of `msg`, and the
process stays as it is. -/
structure Handles (px : WebsocketProxy) (msg : ℕ) (answers : List Message.Status)
    (px' : WebsocketProxy) : Prop where
  process : px'.toProcess = px.toProcess
  stores : px'.stores = Function.update px.stores msg (px.stores msg ++ answers)

theorem Handles.nothing {px px' : WebsocketProxy} (hprocess : px'.toProcess = px.toProcess)
    (hstores : px'.stores = px.stores) (msg : ℕ) :
  px.Handles msg [] px'
  := by
  constructor
  · exact hprocess
  · rw [hstores, List.append_nil, Function.update_eq_self]

/-! ### The handlers of messages -/

theorem handleClientRegistration_handles (px : WebsocketProxy) (msg : ℕ) (reg : RegisterMessage) :
  px.Handles msg [.success] (px.handleClientRegistration msg reg)
  := ⟨rfl, rfl⟩

theorem unregisterClientAt_handles (px : WebsocketProxy) (pid : UInt64) (msg : ℕ) :
  px.Handles msg [] (px.unregisterClientAt pid)
  := by
  simp only [unregisterClientAt]
  split
  · apply Handles.nothing
    all_goals rfl
  · apply Handles.nothing
    all_goals rfl

theorem unregisterClient_handles (px : WebsocketProxy) (pid : UInt64) (msg : ℕ) :
  px.Handles msg [] (px.unregisterClient pid)
  := by
  unfold unregisterClient
  split
  · apply unregisterClientAt_handles
  · apply Handles.nothing
    all_goals rfl

theorem handleClientHeartbeat_handles (px : WebsocketProxy) (msg : ℕ) :
  px.Handles msg [] (px.handleClientHeartbeat msg)
  := by
  rw [handleClientHeartbeat]
  rcases getClient_cases px (px.slots msg).pid with ⟨-, clients, -, hget⟩ | ⟨-, hget⟩
  · rw [hget]
    apply Handles.nothing
    all_goals rfl
  · rw [hget]
    apply Handles.nothing
    all_goals rfl

theorem closeWs_handles (px : WebsocketProxy) (msg : ℕ) (req : WsClose) :
  px.Handles msg [.success] (px.closeWs msg req)
  := by
  rcases getClient_cases px (px.slots msg).pid with ⟨-, clients, -, hget⟩ | ⟨-, hget⟩
  · simp only [closeWs, hget, if_true]
    exact ⟨rfl, rfl⟩
  · simp only [closeWs, hget]
    exact ⟨rfl, rfl⟩

theorem handleSubscribe_handles (px : WebsocketProxy) (msg : ℕ) (req : WsSubscription) :
  ∃ status, status ≠ .pending ∧ px.Handles msg [status] (px.handleSubscribe msg req)
  := by
  rcases getClient_cases px (px.slots msg).pid with ⟨-, clients, -, hget⟩ | ⟨-, hget⟩
  · simp only [handleSubscribe, hget, if_true]
    split
    · split
      · exact ⟨.success, by decide, rfl, rfl⟩
      · exact ⟨.success, by decide, rfl, rfl⟩
    · exact ⟨.failed, by decide, rfl, rfl⟩
  · simp only [handleSubscribe, hget]
    exact ⟨.failed, by decide, rfl, rfl⟩

theorem handleUnsubscribe_handles (px : WebsocketProxy) (msg : ℕ) (req : WsSubscription) :
  px.Handles msg [.success] (px.handleUnsubscribe msg req)
  := by
  rcases getClient_cases px (px.slots msg).pid with ⟨-, clients, -, hget⟩ | ⟨-, hget⟩
  · simp only [handleUnsubscribe, hget, if_true]
    split
    · split
      · exact ⟨rfl, rfl⟩
      · exact ⟨rfl, rfl⟩
    · exact ⟨rfl, rfl⟩
  · simp only [handleUnsubscribe, hget]
    exact ⟨rfl, rfl⟩

theorem sendWsRequest_handles (px : WebsocketProxy) (msg : ℕ) (req : WsRequest) :
  ∃ status, px.Handles msg [status] (px.sendWsRequest msg req)
  := by
  rcases getClient_cases px (px.slots msg).pid with ⟨-, clients, -, hget⟩ | ⟨-, hget⟩
  · simp only [sendWsRequest, hget, if_true]
    split
    · exact ⟨.success, rfl, rfl⟩
    · exact ⟨.failed, rfl, rfl⟩
  · simp only [sendWsRequest, hget]
    exact ⟨.failed, rfl, rfl⟩

/-- Nothing is answered when a connection is opened for a message. If the constructor does
not throw, the opening of the new connection has the answer to give. -/
theorem openNewWs_handles (px : WebsocketProxy) (msg : ℕ) (req : WsOpen) :
  px.Handles msg [] (px.openNewWs msg req).1 ∧
    ((px.openNewWs msg req).2 = false →
      ((px.openNewWs msg req).1.sockets px.opens).opening = some (.spawned, msg))
  := by
  simp only [openNewWs]
  split
  case h_1 =>
    constructor
    · apply Handles.nothing
      all_goals rfl
    · rintro ⟨⟩
  case h_2 ws hnew =>
    constructor
    · apply Handles.nothing
      all_goals rfl
    · intro _
      change (Function.update px.sockets px.opens ws px.opens).opening = _
      rw [Function.update_self]
      exact (Websocket.new_fresh hnew).opening

/-- `openWs` answers, or opens a connection for a registered client, when none that it can
be attached to is found by url and key. -/
theorem openWs_handles (px : WebsocketProxy) {m : Message} {req : WsOpen}
    (hm : m.data = .openWs req) :
  (px.opensNew (.processClientMessage (some m)) = none ∧
    ((px.taking m).openWs px.taken req).2 = false ∧ ∃ status, status ≠ .pending ∧
      (px.taking m).Handles px.taken [status] ((px.taking m).openWs px.taken req).1) ∨
  (px.opensNew (.processClientMessage (some m)) = some req ∧ ∃ clients,
    (px.taking m).openWs px.taken req
      = ((px.taking m).refreshed clients).openNewWs px.taken req)
  := by
  have hnone : ¬ (m.pid ∈ px.clients ∧
      ∀ r ∈ px.websocketsByUrlApiKey.lookup req.key, (px.sockets r).Closing) →
      px.opensNew (.processClientMessage (some m)) = none := by
    intro hnot
    apply Option.eq_none_iff_forall_ne_some.mpr
    intro req' hreq'
    obtain ⟨hm', hopen⟩ := opensNew_message.mp hreq'
    rw [hm] at hm'
    obtain rfl := Message.Data.openWs.inj hm'
    apply hnot hopen
  rcases getClient_taking_cases px m with ⟨hpid, clients, -, hget⟩ | ⟨hpid, hget⟩
  · simp only [openWs, slots_taking, hget, if_true]
    split
    case h_1 r hkey =>
      have hkey : px.websocketsByUrlApiKey.lookup req.key = some r := hkey
      split
      case isTrue hstate =>
        left
        constructor
        · apply hnone
          rintro ⟨-, hclosing⟩
          rcases hclosing r hkey with h | h
          · apply hstate.1 h
          · apply hstate.2 h
        · exact ⟨rfl, .success, by decide, rfl, rfl⟩
      case isFalse hstate =>
        right
        constructor
        · apply opensNew_message.mpr
          use hm, hpid
          intro r' hr'
          rw [hkey] at hr'
          obtain rfl := Option.some.inj hr'
          rw [not_and_or, not_not, not_not] at hstate
          exact hstate
        · use clients
    case h_2 hkey =>
      have hkey : px.websocketsByUrlApiKey.lookup req.key = none := hkey
      right
      constructor
      · apply opensNew_message.mpr
        use hm, hpid
        intro r' hr'
        rw [hkey] at hr'
        cases hr'
      · use clients
  · simp only [openWs, slots_taking, hget]
    left
    constructor
    · apply hnone
      exact fun h => hpid h.1
    · exact ⟨rfl, .failed, by decide, rfl, rfl⟩

/-- A message is answered when it is handled, if it is of a kind that is, or a connection is
opened for it. -/
theorem handleClientMessage_handles (px : WebsocketProxy) (m : Message) :
  (px.opensNew (.processClientMessage (some m)) = none ∧
    ((px.taking m).handleClientMessage px.taken).2 = false ∧
    ∃ answers, (px.taking m).Handles px.taken answers
        ((px.taking m).handleClientMessage px.taken).1 ∧
      (m.data.Answered → ∃ status, status ≠ .pending ∧ answers = [status])) ∨
  (∃ req clients, px.opensNew (.processClientMessage (some m)) = some req ∧
    (px.taking m).handleClientMessage px.taken
      = ((px.taking m).refreshed clients).openNewWs px.taken req)
  := by
  have hnone : (∀ req, m.data ≠ .openWs req) →
      px.opensNew (.processClientMessage (some m)) = none := by
    intro hm
    apply Option.eq_none_iff_forall_ne_some.mpr
    intro req hreq
    apply hm req (opensNew_message.mp hreq).1
  rw [handleClientMessage, slots_taking]
  split
  case h_4 req hm =>
    rcases openWs_handles px hm with ⟨hnew, hthrew, status, hstatus, hhandles⟩ |
      ⟨hnew, clients, hopen⟩
    · left
      exact ⟨hnew, hthrew, _, hhandles, fun _ => ⟨status, hstatus, rfl⟩⟩
    · right
      use req, clients, hnew
  all_goals left
  case h_1 reg hm =>
    refine ⟨hnone (by simp [hm]), rfl, _, handleClientRegistration_handles _ _ reg, fun _ => ?_⟩
    exact ⟨.success, by decide, rfl⟩
  case h_2 hm =>
    refine ⟨hnone (by simp [hm]), rfl, _, unregisterClient_handles _ _ _, ?_⟩
    rw [hm]
    rintro ⟨⟩
  case h_3 hm =>
    refine ⟨hnone (by simp [hm]), rfl, _, handleClientHeartbeat_handles _ _, ?_⟩
    rw [hm]
    rintro ⟨⟩
  case h_5 req hm =>
    refine ⟨hnone (by simp [hm]), rfl, _, closeWs_handles _ _ req, fun _ => ?_⟩
    exact ⟨.success, by decide, rfl⟩
  case h_6 req hm =>
    obtain ⟨status, hhandles⟩ := sendWsRequest_handles (px.taking m) px.taken req
    refine ⟨hnone (by simp [hm]), rfl, _, hhandles, ?_⟩
    rw [hm]
    rintro ⟨⟩
  case h_7 req hm =>
    obtain ⟨status, hstatus, hhandles⟩ := handleSubscribe_handles (px.taking m) px.taken req
    exact ⟨hnone (by simp [hm]), rfl, _, hhandles, fun _ => ⟨status, hstatus, rfl⟩⟩
  case h_8 req hm =>
    refine ⟨hnone (by simp [hm]), rfl, _, handleUnsubscribe_handles _ _ req, ?_⟩
    rw [hm]
    rintro ⟨⟩
  all_goals
    refine ⟨hnone (by simp [*]), rfl, [], ?_, ?_⟩
    · apply Handles.nothing
      all_goals rfl
    · simp [*, Message.Data.Answered]

end WebsocketProxy
