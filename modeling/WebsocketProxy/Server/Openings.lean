import WebsocketProxy.Server.Loop

/-!
# Where openings come from

An opening answers the message it was started for. The opening of a connection in a state
goes on from the state before, or it was started in the step between, for the `OpenWs`
message that was taken in that step and has the key of the connection.
-/

namespace WebsocketProxy

/-- Taking a message counts it. -/
theorem message_taken {px px' : WebsocketProxy} {m : Message}
    (h : px.step (.processClientMessage (some m)) = some px') :
  px'.taken = px.taken + 1
  := by
  rw [(message_handled h).1]
  rcases handleClientMessage_handles px m with ⟨-, -, answers, hhandles, -⟩ |
    ⟨req, clients, -, hopen⟩
  · apply congrArg Process.taken hhandles.process
  · rw [hopen]
    have hhandles := (openNewWs_handles ((px.taking m).refreshed clients) px.taken req).1
    apply congrArg Process.taken hhandles.process

/-- A message is counted once. -/
theorem step_taken {px px' : WebsocketProxy} {ev : Event} (h : px.step ev = some px') :
  px'.taken = px.taken + ev.taken.toList.length
  := by
  rcases em (∃ m, ev = .processClientMessage (some m)) with ⟨m, rfl⟩ | hmessage
  · apply message_taken h
  · have hmessage : ∀ m, ev ≠ .processClientMessage (some m) := fun m hm => hmessage ⟨m, hm⟩
    rw [taken_eq_none hmessage]
    exact (step_idle h hmessage).taken

/-- The opening that a connection is left with was there before, or was started for the
message that is taken. -/
theorem SocketChange.opening_cases {px : WebsocketProxy} {ev : Event} {r n : ℕ} {ws : Websocket}
    {stage : Websocket.OpenStage} (h : SocketChange px ev r ws)
    (hopening : ws.opening = some (stage, n)) :
  ((∃ stage', (px.sockets r).opening = some (stage', n)) ∧ ws.id = (px.sockets r).id ∧
    ws.key = (px.sockets r).key) ∨
  (n = px.taken ∧ r = px.opens ∧ ∃ req, px.opensNew ev = some req ∧
    Websocket.new (px.pid * 10000 + (px.websocketId + 1).toUInt64) req.url req.apiKey px.taken
      = some ws)
  := by
  cases h with
  | same => exact Or.inl ⟨⟨stage, hopening⟩, rfl, rfl⟩
  | leave =>
      rw [Websocket.leave_opening] at hopening
      exact Or.inl ⟨⟨stage, hopening⟩, Websocket.leave_id _ _, Websocket.leave_key _ _⟩
  | attach => exact Or.inl ⟨⟨stage, hopening⟩, rfl, rfl⟩
  | create hr hreq hnew =>
      right
      have hfresh := (Websocket.new_fresh hnew).opening
      rw [hopening] at hfresh
      exact ⟨(Prod.mk.inj (Option.some.inj hfresh)).2, hr, _, hreq, hnew⟩
  | request =>
      rw [foldl_send_frame] at hopening ⊢
      exact Or.inl ⟨⟨stage, hopening⟩, rfl, rfl⟩
  | complete hev hcomplete =>
      left
      have hspec := Websocket.complete_spec hcomplete
      rcases Websocket.complete_answers hcomplete with ⟨hsame, -⟩ | ⟨-, -, -, -, -, hended, -⟩
      · rw [hopening, Option.map_some] at hsame
        obtain ⟨⟨stage', n'⟩, hbefore, rfl⟩ := Option.map_eq_some_iff.mp hsame.symm
        exact ⟨⟨stage', hbefore⟩, hspec.id, hspec.key⟩
      · rw [hended] at hopening
        cases hopening
  | enter hev hcomplete hentering =>
      obtain ⟨port, rfl, hbefore⟩ := entering_complete (hev ▸ hentering)
      rw [(Websocket.complete_handshake hbefore hcomplete).1] at hopening
      cases hopening
  | close =>
      rw [Websocket.close_opening] at hopening
      exact Or.inl ⟨⟨stage, hopening⟩, Websocket.close_id _, Websocket.close_key _⟩

/-- The opening of a connection was there before the step, or was started in it. -/
theorem step_opening_cases {px px' : WebsocketProxy} {ev : Event} (hwf : px.WellFormed)
    (h : px.step ev = some px') {r n : ℕ} {stage : Websocket.OpenStage}
    (hopening : (px'.sockets r).opening = some (stage, n)) :
  ((∃ stage', (px.sockets r).opening = some (stage', n)) ∧
    (px'.sockets r).id = (px.sockets r).id ∧ (px'.sockets r).key = (px.sockets r).key) ∨
  (n = px.taken ∧ r = px.opens ∧ ∃ req, px.opensNew ev = some req ∧
    Websocket.new (px.pid * 10000 + (px.websocketId + 1).toUInt64) req.url req.apiKey px.taken
      = some (px'.sockets r))
  := by
  obtain ⟨t, gone, hchange, hdrains⟩ := step_change hwf h
  rw [hdrains.sockets] at hopening ⊢
  exact (hchange.socket r).opening_cases hopening

/-- An opening is for a message that was taken. -/
theorem reachable_opening_lt {guard : WebsocketProxy → Event → Prop} {px : WebsocketProxy}
    (h : system.ReachableUnder guard px) :
  ∀ r stage n, (px.sockets r).opening = some (stage, n) → n < px.taken
  := by
  intro r stage n hopening
  exact (reachable_valid h).lt_taken (congrArg (Option.map Prod.snd) hopening)

/-! ### Openings that succeed -/

/-- The connection at `r` is entered in the tables, for the message `n`: the client and the
key are those read in the slot of the message. -/
structure Enters (px : WebsocketProxy) (r n : ℕ) (px' : WebsocketProxy) : Prop where
  byKey : px'.websocketsByUrlApiKey = px.websocketsByUrlApiKey.emplace (px.slotKey n) r
  byId : px'.websocketsById = px.websocketsById.emplace (px.sockets r).id r
  socket : px'.sockets r = { px.sockets r with
    status := .connected, opening := none, reads := (px.sockets r).reads + 1
    clients := insert (px.slots n).pid (px.sockets r).clients }
  others : ∀ r' ≠ r, px'.sockets r' = px.sockets r'
  serverQueue : px'.serverQueue = px.serverQueue ++ [px.reserveMessage (.openWs
    { id := (px.sockets r).id, clientPid := (px.slots n).pid, newConnection := true })]
  slot : px'.slots n = { px.slots n with
    data := .openWs { (px.slots n).wsOpen with
      id := (px.sockets r).id, clientPid := (px.slots n).pid }
    status := .success }
  stores : px'.stores = Function.update px.stores n (px.stores n ++ [.success])
  storedAfter : px'.storedAfter n = px'.serverQueue.length

/-- An opening that succeeds enters its connection. -/
theorem step_enters {px px' : WebsocketProxy} {ev : Event} (h : px.step ev = some px') {r n : ℕ}
    (hentering : px.entering ev = some (r, n)) :
  px.Enters r n px'
  := by
  obtain ⟨⟨port, rfl⟩, hopening⟩ := entering_eq_some hentering
  obtain ⟨⟨ws, calls⟩, hcomplete, rfl⟩ := Option.map_eq_some_iff.mp (runHandler_of_step h)
  obtain ⟨rfl, rfl⟩ := Websocket.complete_handshake hopening hcomplete
  simp only [perform, List.foldl_cons, List.foldl_nil, callback, onOpened, if_true,
    Tables.modifySocket, onWsOpened, sendMessageToClient, getTimestamp, sendMessageToClientAt,
    storeData, storeStatus, Function.update_self, Function.update_idem]
  constructor
  · rfl
  · rfl
  · dsimp only
    rw [Function.update_self]
  · intro r' hne
    dsimp only
    rw [Function.update_of_ne hne]
  · rfl
  · dsimp only
    rw [Function.update_self]
  · rfl
  · dsimp only
    rw [Function.update_self]

end WebsocketProxy
