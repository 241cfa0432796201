import WebsocketProxy.Server.Requests

/-!
# Successful answers to `OpenWs`

An `OpenWs` message is answered with `SUCCESS` when its sender is attached to a connection
that is found by url and key, and when the opening started for it ends. In runs in which the
slots of pending openings are kept, both give the same (`open_usable`): a stored and
connected connection with the url and key that were asked for, to which the sender is
attached, and that was announced before the answer.
-/

namespace WebsocketProxy

/-- The server when a handler has done what it does for a message or for a completion: the
handler of messages then drops closed connections and posts itself again. -/
def handled (px : WebsocketProxy) : Event → WebsocketProxy
  | .processClientMessage (some m) => ((px.taking m).handleClientMessage px.taken).1
  | .complete r c => (((px.sockets r).complete c).map (px.perform r)).getD px
  | _ => px

theorem step_stores_handled {px px' : WebsocketProxy} {ev : Event} (h : px.step ev = some px') :
  px'.stores = (px.handled ev).stores
  := by
  rcases em (∃ m, ev = .processClientMessage (some m)) with ⟨m, rfl⟩ | hmessage
  · exact (message_handled h).2.1
  · have hmessage : ∀ m, ev ≠ .processClientMessage (some m) := fun m hm => hmessage ⟨m, hm⟩
    rcases em (∃ r c, ev = .complete r c) with ⟨r, c, rfl⟩ | hcomplete
    · have h := runHandler_of_step h
      rw [runHandler] at h
      rw [handled, h]
      rfl
    · have hcomplete : ∀ r c, ev ≠ .complete r c := fun r c hc => hcomplete ⟨r, c, hc⟩
      rw [(step_stores h hmessage hcomplete).1]
      cases ev with
      | processClientMessage msg =>
          cases msg with
          | none => rfl
          | some m => exact absurd rfl (hmessage m)
      | complete r c => exact absurd rfl (hcomplete r c)
      | _ => rfl

/-! ### Attaching -/

/-- The sender of the message `m` is attached to the connection at `r`, and answered. -/
structure Attaches (px : WebsocketProxy) (m : Message) (req : WsOpen) (r : ℕ)
    (px' : WebsocketProxy) : Prop where
  byKey : px.websocketsByUrlApiKey.lookup req.key = some r
  live : ¬ (px.sockets r).Closing
  byId : px'.websocketsById = px.websocketsById
  socket : px'.sockets r = { px.sockets r with clients := insert m.pid (px.sockets r).clients }
  slot : px'.slots px.taken = { m with
    data := .openWs { req with
      id := (px.sockets r).id, clientPid := m.pid
      newConnection := decide ((px.sockets r).status = .connecting) }
    status := .success }
  serverQueue : px'.serverQueue = px.serverQueue ++ [px.reserveMessage (.openWs
    { id := (px.sockets r).id, clientPid := m.pid, newConnection := true })]
  stores : px'.stores = Function.update px.stores px.taken (px.stores px.taken ++ [.success])
  storedAfter : px'.storedAfter px.taken = px'.serverQueue.length

/-- `openWs` when a connection that is not closing is found. -/
theorem openWs_attaches {px : WebsocketProxy} {m : Message} {req : WsOpen} {r : ℕ}
    (hpid : m.pid ∈ px.clients) (hkey : px.websocketsByUrlApiKey.lookup req.key = some r)
    (hlive : ¬ (px.sockets r).Closing) :
  px.Attaches m req r ((px.taking m).openWs px.taken req).1
  := by
  rcases getClient_taking_cases px m with ⟨-, clients, -, hget⟩ | ⟨hnot, -⟩
  · have hkey : ((px.taking m).refreshed clients).websocketsByUrlApiKey.lookup
        ⟨req.url, req.apiKey⟩ = some r := hkey
    have hstate : (((px.taking m).refreshed clients).sockets r).status ≠ .disconnecting ∧
        (((px.taking m).refreshed clients).sockets r).status ≠ .disconnected :=
      not_or.mp hlive
    simp only [openWs, slots_taking, hget, if_true, hkey, if_pos hstate, storeStatus, storeData,
      onWsOpened, sendMessageToClient, getTimestamp, sendMessageToClientAt]
    constructor
    · exact hkey
    · exact hlive
    · rfl
    · dsimp only
      rw [Tables.modifySocket_self]
      rfl
    · dsimp only
      rw [Function.update_self, Function.update_self, Tables.modifySocket_self]
      dsimp only [refreshed]
      rw [slots_taking]
      rfl
    · dsimp only
      rw [Tables.modifySocket_self]
      rfl
    · rfl
    · dsimp only
      rw [Function.update_self]
  · exact absurd hpid hnot

/-! ### Steps that answer with `SUCCESS` -/

/-- The statuses stored in the message `n` between two states. -/
def answersIn (px px' : WebsocketProxy) (n : ℕ) : List Message.Status :=
  (px'.stores n).drop (px.stores n).length

theorem answersIn_of_append {px px' : WebsocketProxy} {n : ℕ} {answers : List Message.Status}
    (h : px'.stores n = px.stores n ++ answers) :
  px.answersIn px' n = answers
  := by
  rw [answersIn, h, List.drop_left]

/-- An `OpenWs` message of a client that is answered as it is handled attaches its sender to the
connection that is found by url and key. -/
theorem openWs_answered {px : WebsocketProxy} {m : Message} {req : WsOpen}
    (hpid : m.pid ∈ px.clients)
    (hanswer : px.answersIn ((px.taking m).openWs px.taken req).1 px.taken ≠ []) :
  ∃ r, px.Attaches m req r ((px.taking m).openWs px.taken req).1
  := by
  rcases getClient_taking_cases px m with ⟨-, clients, -, hget⟩ | ⟨hnot, -⟩
  · have hnew : px.answersIn
        (((px.taking m).refreshed clients).openNewWs px.taken req).1 px.taken = [] := by
      have hhandles := (openNewWs_handles ((px.taking m).refreshed clients) px.taken req).1
      apply answersIn_of_append
      rw [hhandles.stores, Function.update_self]
      rfl
    cases hkey : px.websocketsByUrlApiKey.lookup req.key with
    | none =>
        have hkey : ((px.taking m).refreshed clients).websocketsByUrlApiKey.lookup
            ⟨req.url, req.apiKey⟩ = none := hkey
        simp only [openWs, slots_taking, hget, if_true, hkey] at hanswer
        exact absurd hnew hanswer
    | some r =>
        rcases em (px.sockets r).Closing with hclosing | hlive
        · have hkey : ((px.taking m).refreshed clients).websocketsByUrlApiKey.lookup
              ⟨req.url, req.apiKey⟩ = some r := hkey
          have hstate : ¬ ((((px.taking m).refreshed clients).sockets r).status ≠ .disconnecting ∧
              (((px.taking m).refreshed clients).sockets r).status ≠ .disconnected) :=
            fun hstate => (not_or.mpr hstate) hclosing
          simp only [openWs, slots_taking, hget, if_true, hkey, if_neg hstate] at hanswer
          exact absurd hnew hanswer
        · use r
          apply openWs_attaches hpid hkey hlive
  · exact absurd hpid hnot

/-- The sender of an `OpenWs` message that is answered with `SUCCESS` as it is handled is
registered. -/
theorem openWs_success {px : WebsocketProxy} {m : Message} {req : WsOpen}
    (hanswer : .success ∈ px.answersIn ((px.taking m).openWs px.taken req).1 px.taken) :
  ∃ r, px.Attaches m req r ((px.taking m).openWs px.taken req).1
  := by
  rcases getClient_taking_cases px m with ⟨hpid, -⟩ | ⟨-, hget⟩
  · apply openWs_answered hpid (List.ne_nil_of_mem hanswer)
  · have hstores : ((px.taking m).openWs px.taken req).1.stores px.taken
        = px.stores px.taken ++ [.failed] := by
      simp only [openWs, slots_taking, hget]
      exact Function.update_self ..
    rw [answersIn_of_append hstores] at hanswer
    cases hanswer with
    | tail _ h => cases h

/-- A step that answers a message takes it, or ends the opening for it. -/
theorem answered_cases {px px' : WebsocketProxy} {ev : Event} (h : px.step ev = some px') {n : ℕ}
    {status : Message.Status} (hanswer : status ∈ px.answersIn px' n) :
  (∃ m, ev = .processClientMessage (some m) ∧ n = px.taken) ∨
    ∃ r c stage, ev = .complete r c ∧ (px.sockets r).opening = some (stage, n) ∧ c.Ends stage status
  := by
  rw [answersIn, step_stores_handled h] at hanswer
  have hquiet : (px.handled ev).stores n ≠ px.stores n := by
    intro hsame
    rw [hsame, List.drop_length] at hanswer
    cases hanswer
  cases ev with
  | processClientMessage msg =>
      cases msg with
      | none => exact absurd rfl hquiet
      | some m =>
          left
          use m, rfl
          by_contra hne
          rcases handleClientMessage_handles px m with ⟨-, -, answers, hhandles, -⟩ |
            ⟨req, clients, -, hopen⟩
          · apply hquiet
            have hstores := congrFun hhandles.stores n
            rw [Function.update_of_ne hne] at hstores
            exact hstores
          · apply hquiet
            have hhandles := (openNewWs_handles ((px.taking m).refreshed clients) px.taken req).1
            have hstores := congrFun hhandles.stores n
            rw [Function.update_of_ne hne] at hstores
            rw [handled, hopen]
            exact hstores
  | complete r c =>
      right
      obtain ⟨⟨ws, calls⟩, hcomplete, hpx'⟩ := Option.map_eq_some_iff.mp (runHandler_of_step h)
      have hstores : (px.handled (.complete r c)).stores n
          = px.stores n ++ calls.filterMap (Websocket.Callback.status n) := by
        rw [handled, hcomplete]
        apply foldl_callback_stores r n calls _
      rw [hstores, List.drop_left] at hanswer
      rcases Websocket.complete_answers hcomplete with ⟨-, hanswers⟩ |
        ⟨stage, msg, status', hends, hopening, -, hanswers⟩
      · rw [hanswers] at hanswer
        cases hanswer
      · rw [hanswers] at hanswer
        split at hanswer
        case isTrue heq =>
          rw [List.mem_singleton.mp hanswer, ← heq]
          exact ⟨r, c, stage, rfl, hopening, hends⟩
        case isFalse => cases hanswer
  | _ => exact absurd rfl hquiet

/-- A step that answers with `SUCCESS` answers the message it takes, or ends an opening. The
sender of an `OpenWs` message it takes is attached. -/
theorem success_cases {px px' : WebsocketProxy} {ev : Event} (h : px.step ev = some px') {n : ℕ}
    (hanswer : .success ∈ px.answersIn px' n) :
  (∃ m, ev = .processClientMessage (some m) ∧ n = px.taken ∧
    ∀ req, m.data = .openWs req → ∃ r, px.Attaches m req r (px.handled ev)) ∨
  ∃ r, px.entering ev = some (r, n)
  := by
  rcases answered_cases h hanswer with ⟨m, rfl, rfl⟩ | ⟨r, c, stage, rfl, hopening, hends⟩
  · left
    refine ⟨m, rfl, rfl, ?_⟩
    intro req hreq
    have hopen : (px.taking m).handleClientMessage px.taken
        = (px.taking m).openWs px.taken req := by
      rw [handleClientMessage, slots_taking, hreq]
    rw [answersIn, step_stores_handled h, handled, hopen] at hanswer
    rw [handled, hopen]
    apply openWs_success hanswer
  · right
    use r
    cases c with
    | resumed result =>
        cases result with
        | success port =>
            obtain ⟨rfl, -⟩ := hends
            simp only [entering, hopening]
        | failure | hostNameNotSet => cases hends
    | read | write | close => exact hends.elim

/-! ### What the answer says -/

/-- The message `m`, numbered `n`, which asked for `req`, is answered with the connection at
`r`: it is stored under the id in the answer, has the url and key that were asked for, is
connected, and has the sender of the message attached. That it was opened for the sender was
published before the answer was given. -/
structure Usable (px : WebsocketProxy) (n : ℕ) (m : Message) (req : WsOpen) (r : ℕ) : Prop where
  status : (px.slots n).status = .success
  clientPid : (px.slots n).wsOpen.clientPid = m.pid
  byId : px.websocketsById.lookup (px.slots n).wsOpen.id = some r
  id : (px.sockets r).id = (px.slots n).wsOpen.id
  url : (px.sockets r).url = req.url
  apiKey : (px.sockets r).apiKey = req.apiKey
  connected : (px.sockets r).status = .connected
  attached : m.pid ∈ (px.sockets r).clients
  announced : ∃ msg ∈ px.serverQueue.take (px.storedAfter n), msg.data = .openWs
    { id := (px.slots n).wsOpen.id, clientPid := m.pid, newConnection := true }

/-- A connection that is found by url and key, and is not closing, is connected. -/
theorem connected_of_live {px : WebsocketProxy} (hwf : px.WellFormed) {k : WebsocketKey} {r : ℕ}
    (hphases : (px.sockets r).Phases) (hkey : px.websocketsByUrlApiKey.lookup k = some r)
    (hlive : ¬ (px.sockets r).Closing) :
  (px.sockets r).status = .connected
  := by
  cases hstatus : (px.sockets r).status with
  | connecting => exact absurd (hwf.byKey_opened k r hkey) (hphases.connecting hstatus)
  | connected => rfl
  | disconnecting => exact absurd (Or.inl hstatus) hlive
  | disconnected => exact absurd (Or.inr hstatus) hlive

/-- Attaching answers with a usable connection. -/
theorem Attaches.usable {px px' : WebsocketProxy} {m : Message} {req : WsOpen} {r : ℕ}
    (h : px.Attaches m req r px') (hwf : px.WellFormed) (hphases : (px.sockets r).Phases)
    (hkeys : px.KeysStored) :
  px'.Usable px.taken m req r
  := by
  obtain ⟨hkey, id, hid⟩ := hkeys req.key r h.byKey
  constructor
  · rw [h.slot]
  · rw [h.slot]
    rfl
  · rw [h.byId, h.slot]
    change px.websocketsById.lookup (px.sockets r).id = some r
    rw [hwf.byId id r hid, hid]
  · rw [h.socket, h.slot]
    rfl
  · rw [h.socket]
    apply congrArg WebsocketKey.url hkey
  · rw [h.socket]
    apply congrArg WebsocketKey.apiKey hkey
  · rw [h.socket]
    apply connected_of_live hwf hphases h.byKey h.live
  · rw [h.socket]
    exact Finset.mem_insert_self ..
  · rw [h.storedAfter, List.take_length, h.serverQueue, h.slot]
    use px.reserveMessage (.openWs
      { id := (px.sockets r).id, clientPid := m.pid, newConnection := true })
    use List.mem_append_right _ (List.mem_singleton_self _)
    rfl

/-- The end of an opening answers with a usable connection, when the opening finds the
message it is for in its slot. -/
theorem Enters.usable {px px' : WebsocketProxy} {m : Message} {req : WsOpen} {r n : ℕ}
    (h : px.Enters r n px') (hslot : px.slots n = { m with
      data := .openWs { req with newConnection := true } })
    (hkey : req.key = (px.sockets r).key)
    (hfree : px.websocketsById.lookup (px.sockets r).id = none) :
  px'.Usable n m req r
  := by
  constructor
  · rw [h.slot]
  · rw [h.slot, hslot]
    rfl
  · rw [h.slot, h.byId]
    apply UnorderedMap.lookup_emplace_of_none
    exact hfree
  · rw [h.slot, h.socket]
    rfl
  · rw [h.socket]
    exact (congrArg WebsocketKey.url hkey).symm
  · rw [h.socket]
    exact (congrArg WebsocketKey.apiKey hkey).symm
  · rw [h.socket]
  · rw [h.socket, hslot]
    exact Finset.mem_insert_self ..
  · rw [h.storedAfter, List.take_length, h.serverQueue, h.slot, hslot]
    use px.reserveMessage (.openWs
      { id := (px.sockets r).id, clientPid := m.pid, newConnection := true })
    use List.mem_append_right _ (List.mem_singleton_self _)
    rfl

theorem handled_of_entering {px px' : WebsocketProxy} {ev : Event} (h : px.step ev = some px')
    {r n : ℕ} (hentering : px.entering ev = some (r, n)) :
  px.handled ev = px'
  := by
  obtain ⟨⟨port, rfl⟩, -⟩ := entering_eq_some hentering
  have h := runHandler_of_step h
  rw [runHandler] at h
  rw [handled, h]
  rfl

/-- In runs in which the slots of pending openings are kept and the counter of ids does not
wrap, an `OpenWs` message that is answered with `SUCCESS` is answered with a usable
connection. -/
theorem open_usable {pid : UInt64} {clock : ℕ → UInt64} {es : List Event} {ev : Event}
    {px px' : WebsocketProxy} (hrun : system.RunUnder SlotsKept (start pid clock) es px)
    (hkept : px.SlotsKept ev) (hstep : px.step ev = some px') {n : ℕ} {m : Message} {req : WsOpen}
    (hm : (messages (es ++ [ev]))[n]? = some m) (hreq : m.data = .openWs req)
    (hanswer : .success ∈ px.answersIn px' n) :
  ∃ r, (px.handled ev).Usable n m req r
  := by
  have hreachable : system.ReachableUnder SlotsKept px := ⟨_, _, ⟨pid, clock, rfl⟩, hrun⟩
  have hwf := reachable_wellFormed hreachable
  have hnumbered := reachable_numbered (fun _ _ hkept => hkept.2) hreachable
  have hpx := run_requested hrun
  rw [messages_snoc] at hm
  rcases success_cases hstep hanswer with ⟨m', rfl, rfl, hattaches⟩ | ⟨r, hentering⟩
  · rw [hpx.taken] at hm
    obtain rfl : m' = m := Option.some.inj (List.getElem?_concat_length.symm.trans hm)
    obtain ⟨r, hattaches⟩ := hattaches req hreq
    use r
    apply hattaches.usable hwf (reachable_phases hreachable r) hpx.byKey
  · have hopening := (entering_eq_some hentering).2
    obtain ⟨m', req', hm', hreq', hkey, hslot⟩ := hpx.opening hopening
    have hn := (List.getElem?_eq_some_iff.mp hm').1
    rw [List.getElem?_append_left hn, hm'] at hm
    obtain rfl := Option.some.inj hm
    rw [hreq] at hreq'
    obtain rfl := Message.Data.openWs.inj hreq'
    use r
    rw [handled_of_entering hstep hentering]
    apply (step_enters hstep hentering).usable hslot hkey
    apply lookup_id_of_opening hwf hnumbered
    simp [hopening]

/-- The second client of this run is answered with the connection of the first. -/
theorem open_usable_openShared :
  ∃ px px', system.RunUnder SlotsKept (start 7 fun _ => 1)
      ([.register 1, .register 2, .openWs 1 [104] []] ++ Event.opened 0) px ∧
    px.step (.openWs 2 [104] []) = some px' ∧
    ∃ r, (px.handled (.openWs 2 [104] [])).Usable 3
      { pid := 2, data := .openWs { url := [104], apiKey := [] } } { url := [104], apiKey := [] } r
  := by
  have hexec : ∃ px ∈ system.execUnder SlotsKept (start 7 fun _ => 1)
      ([.register 1, .register 2, .openWs 1 [104] []] ++ Event.opened 0),
      px.SlotsKept (.openWs 2 [104] []) ∧
      ∃ px' ∈ px.step (.openWs 2 [104] []), .success ∈ px.answersIn px' 3 := by
    decide +kernel
  obtain ⟨px, hrun, hkept, px', hstep, hanswer⟩ := TransitionSystem.exists_runUnder hexec
  use px, px', hrun, hstep
  apply open_usable hrun hkept hstep rfl rfl hanswer

end WebsocketProxy
